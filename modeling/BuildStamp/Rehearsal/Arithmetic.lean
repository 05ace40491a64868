import BuildStamp.Text.Writing

/-!
# Arithmetic — numbers in words, and sums in scripts

Numbers are read from the front of a word, as far as they go.  Sums are of integers of 64 bits, with
the usual operators; names stand for variables, which a sum can also set.

* `Number.integer` — integers in one of three bases;
* `Number.Real`, `Number.real?` — numbers with a fraction, without loss;
* `Number.Precision`, `Number.Real.rounded` — the nearest number that a machine can hold;
* `Arithmetic.Token`, `Arithmetic.tokens` — the words of a sum;
* `Sum`, `Sum.read` — the structure of a sum;
* `Sum.value` — its value, with the variables that it sets;
* `Arithmetic.number?` — a number that is a whole word.
-/

namespace BuildStamp
namespace Rehearsal
namespace Number

/-! ## Integers -/

def isBlank (c : Char) : Bool :=
  c = ' ' || ('\t' ≤ c && c ≤ '\x0d')

/-- The value of a digit, which is large for what is none. -/
def digitOf (c : Char) : Nat :=
  if c.isDigit then c.toNat - 48
  else if 'a' ≤ c && c ≤ 'z' then c.toNat - 87
  else if 'A' ≤ c && c ≤ 'Z' then c.toNat - 55
  else 99

/-- The digits in front, and what is behind them. -/
def digits (base : Nat) (cs : List Char) : List Char × List Char :=
  cs.span (digitOf · < base)

def ofDigits (base : Nat) (cs : List Char) : Nat :=
  cs.foldl (fun n c => n * base + digitOf c) 0

/-- Whether a number is negative, and what is behind its sign. -/
def sign : List Char → Bool × List Char
  | '-' :: cs => (true, cs)
  | '+' :: cs => (false, cs)
  | cs => (false, cs)

/-- A number without a sign whose base its first characters tell, and what is behind it. -/
def magnitude? (cs : List Char) : Option (Nat × List Char) :=
  let plain (base : Nat) (cs : List Char) : Option (Nat × List Char) :=
    let (ds, rest) := digits base cs
    if ds = [] then none else some (ofDigits base ds, rest)
  match cs with
  | '0' :: x :: rest =>
      if x = 'x' || x = 'X' then (plain 16 rest).or (some (0, x :: rest))
      else plain 8 cs
  | _ => plain 10 cs

def largest : Int := 2 ^ 63 - 1

/-- An integer in front of a word. -/
structure Read where
  -- Its value, or the nearest one that a machine can hold.
  value : Int
  rest : List Char
  isThere : Bool
  fits : Bool

def integer (word : String) : Read :=
  let cs := word.toList
  let (negative, body) := sign (cs.dropWhile isBlank)
  match magnitude? body with
  | none => ⟨0, cs, false, true⟩
  | some (n, rest) =>
      let value : Int := if negative then -n else n
      let held := max (-largest - 1) (min largest value)
      ⟨held, rest, true, held = value⟩

/-! ## Numbers with a fraction -/

/-- A number with a fraction. -/
inductive Real where
  | nan (negative : Bool)
  | infinite (negative : Bool)
  | finite (negative : Bool) (num den : Nat)
  deriving DecidableEq, Repr

/-- The integer behind the mark of an exponent, if there is one, and what is behind that. -/
def exponent (isMark : Char → Bool) (cs : List Char) : Int × List Char :=
  match cs with
  | c :: rest =>
      let (negative, body) := sign rest
      let (ds, after) := digits 10 body
      if isMark c && ds ≠ [] then
        let n := ofDigits 10 (ds.take 6)
        (if negative then -(n : Int) else n, after)
      else (0, cs)
  | [] => (0, cs)

def scaled (negative : Bool) (n base : Nat) (power : Int) : Real :=
  if n = 0 then .finite negative 0 1
  else if 0 ≤ power then .finite negative (n * base ^ (min power 20000).toNat) 1
  else .finite negative n (base ^ (min (-power) 20000).toNat)

/-- Digits with a point among them, and what is behind them: all digits, and how many of them are
behind the point. -/
def pointed? (base : Nat) (cs : List Char) : Option (Nat × Nat × List Char) :=
  let (whole, rest) := digits base cs
  let (fraction, rest) :=
    match rest with
    | '.' :: more => let (ds, after) := digits base more; (ds, after)
    | _ => ([], rest)
  if whole = [] && fraction = [] then none
  else some (ofDigits base (whole ++ fraction), fraction.length, rest)

def afterWord? (word : String) (cs : List Char) : Option (List Char) :=
  let front := cs.take word.length
  if front.map Char.toLower = word.toList then some (cs.drop word.length) else none

/-- What is behind a remark in brackets, if there is one. -/
def withoutRemark (cs : List Char) : List Char :=
  let isRemark (c : Char) : Bool := c.isAlphanum || c = '_'
  match cs with
  | '(' :: rest =>
      match rest.dropWhile isRemark with
      | ')' :: after => after
      | _ => cs
  | _ => cs

def unsigned? (negative : Bool) (cs : List Char) : Option (Real × List Char) :=
  let decimal : Option (Real × List Char) := do
    let (n, places, rest) ← pointed? 10 cs
    let (power, rest) := exponent (fun c => c = 'e' || c = 'E') rest
    return (scaled negative n 10 (power - places), rest)
  let hexadecimal : Option (Real × List Char) :=
    match cs with
    | '0' :: x :: rest =>
        if x = 'x' || x = 'X' then do
          let (n, places, rest) ← pointed? 16 rest
          let (power, rest) := exponent (fun c => c = 'p' || c = 'P') rest
          return (scaled negative n 2 (power - 4 * places), rest)
        else none
    | _ => none
  let word (text : String) (value : Real) : Option (Real × List Char) :=
    (afterWord? text cs).map (value, ·)
  hexadecimal.or <| decimal.or <| (word "infinity" (.infinite negative)).or <|
    (word "inf" (.infinite negative)).or <|
      (word "nan" (.nan negative)).map fun (value, rest) => (value, withoutRemark rest)

/-- The number with a fraction in front of a word and what is behind it, if there is one. -/
def real? (word : String) : Option (Real × List Char) :=
  let (negative, cs) := sign (word.toList.dropWhile isBlank)
  unsigned? negative cs

/-! ## Rounding -/

/-- A ratio rounded to a natural number, of two equally near ones the even one. -/
def nearest (num den : Nat) : Nat :=
  let whole := num / den
  let twice := 2 * (num % den)
  if twice < den || (twice = den && whole % 2 = 0) then whole else whole + 1

/-- What numbers a machine can hold. -/
structure Precision where
  digits : Nat
  least : Int
  greatest : Int

/-- Numbers of 64 bits. -/
def double : Precision := ⟨53, -1074, 971⟩

/-- Numbers of 80 bits. -/
def extended : Precision := ⟨64, -16445, 16320⟩

def Real.rounded (p : Precision) : Real → Real
  | .finite negative num den =>
      if num = 0 then .finite negative 0 1
      else
        let guess : Int := (Nat.log2 num : Int) - Nat.log2 den - p.digits + 1
        let unscale (e : Int) : Nat × Nat :=
          if 0 ≤ e then (num, den * 2 ^ e.toNat) else (num * 2 ^ (-e).toNat, den)
        let (n, d) := unscale guess
        let power := max p.least (if n < d * 2 ^ (p.digits - 1) then guess - 1 else guess)
        let (n, d) := unscale power
        let mantissa := nearest n d
        if p.greatest < power || (power = p.greatest && mantissa = 2 ^ p.digits) then
          .infinite negative
        else scaled negative mantissa 2 power
  | r => r

end Number

namespace Arithmetic

/-! ## The words of a sum -/

/-- A word of a sum. -/
inductive Token where
  | number (n : Int)
  | name (name : String)
  | sign (text : String)
  deriving DecidableEq, Repr

/-- The operators and brackets, longer ones before those that they begin with. -/
def signs : List String :=
  ["<<=", ">>=", "<<", ">>", "<=", ">=", "==", "!=", "&&", "||", "+=", "-=", "*=", "/=", "%=", "&=",
    "^=", "|=", "+", "-", "*", "/", "%", "<", ">", "!", "~", "&", "^", "|", "?", ":", "=", "(", ")"]

def isNameChar (c : Char) : Bool :=
  c.isAlphanum || c = '_'

/-- The words of a sum with at most so many characters.  What is none is an operator that no sum
has. -/
def tokensUpTo : Nat → List Char → List Token
  | 0, _ => []
  | _, [] => []
  | bound + 1, c :: cs =>
      if c = ' ' || c = '\t' || c = '\n' then tokensUpTo bound cs
      else if c.isDigit then
        let r := Number.integer (String.ofList (c :: cs))
        .number r.value :: tokensUpTo bound r.rest
      else if isNameChar c then
        let (name, rest) := (c :: cs).span isNameChar
        .name (String.ofList name) :: tokensUpTo bound rest
      else
        match signs.find? fun s => s.toList.isPrefixOf (c :: cs) with
        | some s => .sign s :: tokensUpTo bound ((c :: cs).drop s.length)
        | none => [.sign c.toString]

def tokens (text : String) : List Token :=
  tokensUpTo text.length text.toList

end Arithmetic

/-! ## The structure of a sum -/

/-- A sum.  One that makes no sense is a sum up to the place at which that shows. -/
inductive Sum where
  | number (n : Int)
  | named (name : String)
  | unary (sign : String) (operand : Sum)
  | binary (sign : String) (left right : Sum)
  | choice (condition first second : Sum)
  | assign (name : String) (sign : Option String) (value : Sum)
  -- What is behind a sum makes no sense.
  | spoilt (before : Sum) (reason : String)
  deriving Repr

namespace Sum

open Arithmetic (Token)

/-- The operators with two operands, those that bind weakest first. -/
def levels : List (List String) :=
  [["||"], ["&&"], ["|"], ["^"], ["&"], ["==", "!="], ["<", "<=", ">", ">="], ["<<", ">>"],
    ["+", "-"], ["*", "/", "%"]]

def assignment? (sign : String) : Option (Option String) :=
  if sign = "=" then some none
  else if ["<<=", ">>=", "+=", "-=", "*=", "/=", "%=", "&=", "^=", "|="].contains sign then
    some (some (String.ofList sign.toList.dropLast))
  else none

/-- What is read, and what is behind it if it makes sense. -/
abbrev Reading := Sum × Option (List Token)

def refuse (reason : String) (before : Sum := .number 0) : Reading :=
  (.spoilt before reason, none)

mutual

/-- Reads a whole sum, in at most so many steps. -/
def readAll : Nat → List Token → Reading
  | 0, _ => refuse "expecting EOF"
  | bound + 1, .name name :: .sign sign :: rest =>
      match assignment? sign with
      | some operator =>
          let (value, rest) := readAll bound rest
          (.assign name operator value, rest)
      | none => readChoice bound (.name name :: .sign sign :: rest)
  | bound + 1, ts => readChoice bound ts

/-- Reads a choice, or what binds stronger. -/
def readChoice : Nat → List Token → Reading
  | 0, _ => refuse "expecting EOF"
  | bound + 1, ts =>
      match readLevel bound levels ts with
      | (condition, some (.sign "?" :: rest)) =>
          match readAll bound rest with
          | (first, some (.sign ":" :: rest)) =>
              let (second, rest) := readChoice bound rest
              (.choice condition first second, rest)
          | (first, some _) => (.choice condition (.spoilt first "expecting ':'") (.number 0), none)
          | (first, none) => (.choice condition first (.number 0), none)
      | reading => reading

def readLevel : Nat → List (List String) → List Token → Reading
  | 0, _, _ => refuse "expecting EOF"
  | bound + 1, [], ts => readPrimary bound ts
  | bound + 1, signs :: stronger, ts =>
      match readLevel bound stronger ts with
      | (left, some rest) => readMore bound signs stronger left rest
      | reading => reading

def readMore : Nat → List String → List (List String) → Sum → List Token → Reading
  | 0, _, _, _, _ => refuse "expecting EOF"
  | bound + 1, signs, stronger, left, .sign sign :: rest =>
      if signs.contains sign then
        match readLevel bound stronger rest with
        | (right, some rest) => readMore bound signs stronger (.binary sign left right) rest
        | (right, none) => (.binary sign left right, none)
      else (left, some (.sign sign :: rest))
  | _, _, _, left, ts => (left, some ts)

def readPrimary : Nat → List Token → Reading
  | 0, _ => refuse "expecting EOF"
  | _, .number n :: rest => (.number n, some rest)
  | _, .name name :: rest => (.named name, some rest)
  | bound + 1, .sign "(" :: rest =>
      match readAll bound rest with
      | (inner, some (.sign ")" :: rest)) => (inner, some rest)
      | (inner, some _) => refuse "expecting ')'" inner
      | reading => reading
  | bound + 1, .sign sign :: rest =>
      if ["+", "-", "!", "~"].contains sign then
        let (operand, rest) := readPrimary bound rest
        (.unary sign operand, rest)
      else refuse "expecting primary"
  | _, [] => refuse "expecting primary"

end

def read (text : String) : Sum :=
  let ts := Arithmetic.tokens text
  match readAll (20 * (ts.length + 2)) ts with
  | (sum, some (_ :: _)) => .spoilt sum "expecting EOF"
  | (sum, _) => sum

/-! ## The value of a sum -/

/-- Why a sum has no value. -/
inductive Fault where
  | senseless (reason : String)
  | notNumber (value : String)

/-- The number of 64 bits with the same last bits. -/
def wrap (n : Int) : Int :=
  Int.bmod n (2 ^ 64)

def bits (n : Int) : Nat :=
  (n % 2 ^ 64).toNat

def ofBool (b : Bool) : Int :=
  if b then 1 else 0

def combine (sign : String) (a b : Int) : Except Fault Int :=
  let shift : Nat := (b % 64).toNat
  match sign with
  | "+" => .ok (wrap (a + b))
  | "-" => .ok (wrap (a - b))
  | "*" => .ok (wrap (a * b))
  | "/" => if b = 0 then .error (.senseless "division by zero") else .ok (wrap (a.tdiv b))
  | "%" => if b = 0 then .error (.senseless "division by zero") else .ok (wrap (a.tmod b))
  | "<<" => .ok (wrap (a * 2 ^ shift))
  | ">>" => .ok (a / 2 ^ shift)
  | "&" => .ok (wrap (bits a &&& bits b : Nat))
  | "^" => .ok (wrap (bits a ^^^ bits b : Nat))
  | "|" => .ok (wrap (bits a ||| bits b : Nat))
  | "==" => .ok (ofBool (a = b))
  | "!=" => .ok (ofBool (a ≠ b))
  | "<" => .ok (ofBool (a < b))
  | "<=" => .ok (ofBool (a ≤ b))
  | ">" => .ok (ofBool (a > b))
  | _ => .ok (ofBool (a ≥ b))

/-- Refuses a sum that makes no sense, whatever its value is. -/
def check : Sum → Except Fault Unit
  | .spoilt before reason => do
      check before
      throw (.senseless reason)
  | .unary _ operand => check operand
  | .binary _ left right => do
      check left
      check right
  | .choice condition first second => do
      check condition
      check first
      check second
  | .assign _ _ value => check value
  | _ => return

/-- A computation that sets variables, the latest ones first. -/
abbrev Evaluation := StateT (List (String × Int)) (Except Fault)

def valueOf (look : String → Except Fault Int) (name : String) : Evaluation Int := do
  match (← get).lookup name with
  | some n => return n
  | none => look name

/-- The value of a sum, where `look` gives the values of variables.  What does not count must make
sense, too. -/
def evaluate (look : String → Except Fault Int) : Sum → Evaluation Int
  | .number n => return n
  | .named name => valueOf look name
  | .unary sign operand => do
      let n ← evaluate look operand
      return match sign with
        | "-" => wrap (-n)
        | "!" => ofBool (n = 0)
        | "~" => -n - 1
        | _ => n
  | .binary "&&" left right => do
      if (← evaluate look left) = 0 then
        check right
        return 0
      return ofBool ((← evaluate look right) ≠ 0)
  | .binary "||" left right => do
      if (← evaluate look left) ≠ 0 then
        check right
        return 1
      return ofBool ((← evaluate look right) ≠ 0)
  | .binary sign left right => do
      let a ← evaluate look left
      let b ← evaluate look right
      combine sign a b
  | .choice condition first second => do
      if (← evaluate look condition) ≠ 0 then
        let n ← evaluate look first
        check second
        return n
      else
        check first
        evaluate look second
  | .assign name sign value => do
      let n ← evaluate look value
      let n ← match sign with
        | none => pure n
        | some sign => do combine sign (← valueOf look name) n
      modify ((name, n) :: ·)
      return n
  | .spoilt before reason => do
      let _ ← evaluate look before
      throw (.senseless reason)

/-- The value of a text as a sum, with the variables that it sets, the latest ones first. -/
def value (look : String → Except Fault Int) (text : String) :
    Except Fault (Int × List (String × Int)) :=
  ((read text).evaluate look).run []

end Sum

namespace Arithmetic

/-- The number of a whole word, in one of three bases, with blanks around it. -/
def number? (word : String) : Option Int :=
  let r := Number.integer word
  if r.isThere && r.fits && r.rest.all Number.isBlank then some r.value else none

/-- The number of a whole word in decimal digits, with blanks around it. -/
def decimal? (word : String) : Option Int :=
  let (negative, body) := Number.sign (word.toList.dropWhile Number.isBlank)
  let (ds, rest) := Number.digits 10 body
  let n : Int := if negative then -(Number.ofDigits 10 ds : Int) else Number.ofDigits 10 ds
  if ds ≠ [] && rest.all Number.isBlank && -Number.largest - 1 ≤ n && n ≤ Number.largest then
    some n
  else none

end Arithmetic
end Rehearsal
end BuildStamp
