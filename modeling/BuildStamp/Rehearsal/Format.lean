import BuildStamp.Rehearsal.Arithmetic
import BuildStamp.Rehearsal.Octets
import BuildStamp.Text.Reader
import BuildStamp.Text.Writing

/-!
# Format — `echo` and `printf`

Several dialects of escapes are met, those of the programs and those of the shell's own commands.

* `Specification` — flags, width, precision and kind;
* `Specification.text` — a text;
* `Specification.integer` — an integer;
* `Specification.real` — a number with a fraction;
* `Escape`, `Escape.reader` — an escape, which may end the whole output;
* `unescape` — a text with its escapes replaced;
* `echoProgram`, `echoCommand` — `echo` as a program and as a command of the shell;
* `Printf.run` — a format, used again until all arguments are printed.
-/

namespace BuildStamp
namespace Rehearsal

/-! ## Specifications -/

/-- How an argument is printed. -/
structure Specification where
  flags : List Char
  width : Nat
  precision : Option Nat
  kind : Char
  deriving Repr

namespace Specification

def has (s : Specification) (flag : Char) : Bool :=
  s.flags.contains flag

def padded (s : Specification) (cs : List Char) : String :=
  let blanks := List.replicate (s.width - cs.length) ' '
  String.ofList (if s.has '-' then cs ++ blanks else blanks ++ cs)

/-- Characters behind a sign, filled up with zeros if a flag says so and that makes sense. -/
def paddedNumber (s : Specification) (zeros : Bool) (sign cs : List Char) : String :=
  if zeros && s.has '0' && !s.has '-' then
    String.ofList (sign ++ Text.padLeft (s.width - sign.length) cs)
  else s.padded (sign ++ cs)

/-- A text, of which a precision leaves the beginning. -/
def text (s : Specification) (value : String) : String :=
  let cs := value.toList
  s.padded (cs.take (s.precision.getD cs.length))

/-! ## Printing one argument -/

def signOf (s : Specification) (negative : Bool) : List Char :=
  if negative then ['-'] else if s.has '+' then ['+'] else if s.has ' ' then [' '] else []

def isLarge (s : Specification) : Bool :=
  s.kind.isUpper

def sized (s : Specification) (cs : List Char) : List Char :=
  if s.isLarge then cs.map Char.toUpper else cs

/-- The digits of an integer with at least as many as the precision says, and none for a zero of
which none are wanted. -/
def digits (s : Specification) (base n : Nat) : List Char :=
  if n = 0 && s.precision = some 0 then []
  else Text.padLeft (s.precision.getD 0) (Nat.toDigits base n)

/-- An integer, which kinds without a sign take for a word of 64 bits. -/
def integer (s : Specification) (value : Int) : String :=
  let zeros := s.precision.isNone
  let word := (value % 2 ^ 64).toNat
  match s.kind with
  | 'o' =>
      let ds := s.digits 8 word
      s.paddedNumber zeros [] (if s.has '#' && ds.head? ≠ some '0' then '0' :: ds else ds)
  | 'u' => s.paddedNumber zeros [] (s.digits 10 word)
  | 'x' | 'X' =>
      let mark := if s.has '#' && word ≠ 0 then ['0', 'x'] else []
      s.paddedNumber zeros (s.sized mark) (s.sized (s.digits 16 word))
  | _ => s.paddedNumber zeros (s.signOf (value < 0)) (s.digits 10 value.natAbs)

/-- Digits with a point in front of the last ones.  A point without digits behind it is left out
unless a flag asks for it. -/
def pointed (s : Specification) (places n : Nat) : List Char :=
  let ds := Text.padLeft (places + 1) (Nat.toDigits 10 n)
  let whole := ds.take (ds.length - places)
  if places = 0 then (if s.has '#' then whole ++ ['.'] else whole)
  else whole ++ '.' :: ds.drop (ds.length - places)

def positional (s : Specification) (num den places : Nat) : List Char :=
  s.pointed places (Number.nearest (num * 10 ^ places) den)

/-- An exponent behind its mark, with at least two digits. -/
def exponentText (mark : Char) (least : Nat) (e : Int) : List Char :=
  mark :: (if e < 0 then '-' else '+') :: Text.padLeft least (Nat.toDigits 10 e.natAbs)

def orderOf (num den : Nat) : Int :=
  if den ≤ num then (Nat.toDigits 10 (num / den)).length - 1
  else -((Nat.toDigits 10 ((den - 1) / num)).length : Int)

/-- A ratio as digits with one of them in front of the point, and its exponent. -/
def scientific (num den places : Nat) : Nat × Int :=
  if num = 0 then (0, 0)
  else
    let order := orderOf num den
    let shift : Int := places - order
    let n :=
      if 0 ≤ shift then Number.nearest (num * 10 ^ shift.toNat) den
      else Number.nearest num (den * 10 ^ (-shift).toNat)
    if 10 ^ (places + 1) ≤ n then (n / 10, order + 1) else (n, order)

/-- Digits without the zeros behind the point, and without a point that is left at the end. -/
def trimmed (cs : List Char) : List Char :=
  if cs.contains '.' then
    let kept := (cs.reverse.dropWhile (· = '0')).reverse
    if kept.getLast? = some '.' then kept.dropLast else kept
  else cs

def general (s : Specification) (num den : Nat) : List Char :=
  let wanted := max 1 (s.precision.getD 6)
  let (n, order) := scientific num den (wanted - 1)
  let trim (cs : List Char) := if s.has '#' then cs else trimmed cs
  if -4 ≤ order && order < wanted then
    trim (s.positional num den ((wanted : Int) - 1 - order).toNat)
  else trim (s.pointed (wanted - 1) n) ++ exponentText 'e' 2 order

def binaryOrder (num den : Nat) : Int :=
  let guess : Int := (Nat.log2 num : Int) - Nat.log2 den
  let below := if 0 ≤ guess then num < den * 2 ^ guess.toNat else num * 2 ^ (-guess).toNat < den
  if below then guess - 1 else guess

/-- A ratio in hexadecimal form, whose first digit has so many binary digits, of so many in all.  If
rounding gives a digit more, the last one goes. -/
def hexadecimal (s : Specification) (first digits num den : Nat) : List Char :=
  let places := (digits - first + 3) / 4
  let order : Int := if num = 0 then 0 else binaryOrder num den - (first - 1)
  let wanted := s.precision.getD places
  let shift : Int := 4 * wanted - order
  let n :=
    if 0 ≤ shift then Number.nearest (num * 2 ^ shift.toNat) den
    else Number.nearest num (den * 2 ^ (-shift).toNat)
  let all := Text.padLeft (wanted + 1) (Nat.toDigits 16 n)
  let carries := wanted + 1 < all.length
  let ds := if carries then all.dropLast else all
  let order := if carries then order + 4 else order
  let fraction := ds.drop 1
  let fraction :=
    if s.precision.isNone then (fraction.reverse.dropWhile (· = '0')).reverse else fraction
  let point := if fraction ≠ [] || s.has '#' then ['.'] else []
  ds.take 1 ++ point ++ fraction ++ exponentText 'p' 1 order

def mostPlaces : Nat := 20000

/-- A number with a fraction, as a machine holds it. -/
def real (wanted : Specification) (precision : Number.Precision) (value : Number.Real) : String :=
  let s := { wanted with precision := wanted.precision.map (min · mostPlaces) }
  match value.rounded precision with
  | .nan negative => s.paddedNumber false (s.signOf negative) (s.sized "nan".toList)
  | .infinite negative => s.paddedNumber false (s.signOf negative) (s.sized "inf".toList)
  | .finite negative num den =>
      let sign := s.signOf negative
      match s.kind.toLower with
      | 'a' =>
          let first := if precision.digits = 53 then 1 else 4
          s.paddedNumber true (sign ++ s.sized ['0', 'x'])
            (s.sized (s.hexadecimal first precision.digits num den))
      | 'e' =>
          let places := s.precision.getD 6
          let (n, order) := scientific num den places
          s.paddedNumber true sign (s.sized (s.pointed places n ++ exponentText 'e' 2 order))
      | 'f' => s.paddedNumber true sign (s.positional num den (s.precision.getD 6))
      | _ => s.paddedNumber true sign (s.sized (s.general num den))

end Specification

open Text (Reader)

/-! ## Escapes -/

/-- What is spelt by an escape, or by a character that is none. -/
inductive Escape where
  | plain (text : String)
  | stop
  -- An escape that makes no sense, so that all output ends.
  | senseless
  deriving Repr

/-- Which escapes there are beyond the common ones. -/
structure Dialect where
  hexadecimal : Bool := false
  -- What a hexadecimal number without digits comes to: nothing to speak of, or the end.
  strict : Bool := false
  quote : Bool := false
  characters : Bool := false
  stops : Bool := false
  -- A zero may stand before the three digits of an octal number.
  leadingZero : Bool := false

namespace Dialect

def shellFormat : Dialect := {}

def shellArgument : Dialect := { stops := true, leadingZero := true }

def programFormat : Dialect :=
  { hexadecimal := true, strict := true, quote := true, characters := true, stops := true }

def programArgument : Dialect := { programFormat with leadingZero := true }

/-- The words of `echo`, the program. -/
def programEcho : Dialect := { hexadecimal := true, stops := true, leadingZero := true }

end Dialect

namespace Escape

def ofLetter? (d : Dialect) : Char → Option Escape
  | '\\' => some (.plain "\\")
  | 'a' => some (.plain "\x07")
  | 'b' => some (.plain "\x08")
  | 'c' => if d.stops then some .stop else none
  | 'e' => some (.plain "\x1b")
  | 'f' => some (.plain "\x0c")
  | 'n' => some (.plain "\n")
  | 'r' => some (.plain "\r")
  | 't' => some (.plain "\t")
  | 'v' => some (.plain "\x0b")
  | '"' => if d.quote then some (.plain "\"") else none
  | _ => none

def byteOf (base : Nat) (digits : List Char) : Escape :=
  .plain (Char.ofNat (Number.ofDigits base digits % 256)).toString

def digit (base : Nat) : Reader Char :=
  .char fun c => Number.digitOf c < base

def numbered (d : Dialect) : Reader Escape :=
  let plain := ((digit 8).upTo 2).map (byteOf 8)
  if d.leadingZero then
    (((Reader.exactly '0').thenMaybe ((digit 8).upTo 2)).map
      fun (_, ds) => byteOf 8 (ds.getD [])).orElse
      plain
  else plain

def hexadecimal (d : Dialect) : Reader Escape :=
  let read := Reader.after (.exactly 'x') (((digit 16).upTo 1).map (byteOf 16))
  if d.strict then read.orElse ((Reader.exactly 'x').map fun _ => senseless) else read

/-- The bytes of a character that has a number, which is shown if there is no such byte. -/
def character (mark : Char) (digits : List Char) : Escape :=
  let n := Number.ofDigits 16 digits
  if n < 128 then .plain (Char.ofNat n).toString
  else .plain (String.ofList ('\\' :: mark :: digits.map Char.toUpper))

def characterNumber (mark : Char) (count : Nat) : Reader Escape :=
  let digits := ((digit 16).upTo (count - 1)).filter fun ds => ds.length = count
  (Reader.after (.exactly mark) (digits.map (character mark))).orElse
    ((Reader.exactly mark).map fun _ => senseless)

def behindBackslash (d : Dialect) : Reader Escape :=
  let letter := (Reader.char fun _ => true).filterMap (ofLetter? d)
  let others := letter.orElse (numbered d)
  let others := if d.hexadecimal then others.orElse (hexadecimal d) else others
  if d.characters then
    others.orElse ((characterNumber 'u' 4).orElse (characterNumber 'U' 8))
  else others

/-- An escape, or any other character, a backslash before anything else included. -/
def reader (d : Dialect) : Reader Escape :=
  (Reader.after (.exactly '\\') (behindBackslash d)).orElse
    ((Reader.char fun _ => true).map fun c => plain c.toString)

end Escape

/-- The characters up to the end that an escape makes, and that escape. -/
def untilStop : List Escape → String × Option Escape
  | [] => ("", none)
  | .plain text :: rest => let (more, last) := untilStop rest; (text ++ more, last)
  | last :: _ => ("", some last)

/-- A text with its escapes replaced, and the escape that ends the output. -/
def unescape (d : Dialect) (s : String) : String × Option Escape :=
  untilStop ((Escape.reader d).many s.toList).1

/-! ## Echo -/

/-- The words with a space between them, and a line end unless an escape or `bare` forbids it. -/
def echoWords (d : Option Dialect) (bare : Bool) (words : List String) : String :=
  let line := " ".intercalate words
  match d with
  | none => line ++ if bare then "" else "\n"
  | some d =>
      let (text, last) := unescape d line
      text ++ if bare || last.isSome then "" else "\n"

/-- Whether a word is a row of the options `n`, `e` and `E`. -/
def isEchoOption (word : String) : Bool :=
  match word.toList with
  | '-' :: letters => letters ≠ [] && letters.all fun c => c = 'n' || c = 'e' || c = 'E'
  | _ => false

/-- The program `echo`, which knows escapes only on demand. -/
def echoProgram (words : List String) : String :=
  let letters := (words.takeWhile isEchoOption).flatMap (·.toList)
  let escapes := (letters.filter fun c => c = 'e' || c = 'E').getLast? == some 'e'
  echoWords (if escapes then some .programEcho else none) (letters.contains 'n')
    (words.dropWhile isEchoOption)

/-- The shell's own `echo`, which always knows escapes. -/
def echoCommand : List String → String
  | "-n" :: words => echoWords (some .shellArgument) true words
  | words => echoWords (some .shellArgument) false words

/-! ## Formats -/

namespace Printf

/-- A number in a specification. -/
inductive Amount where
  | none
  | fixed (n : Nat)
  | given
  deriving DecidableEq, Repr

/-- A part of a format. -/
inductive Directive where
  | escape (e : Escape)
  | argument (flags : List Char) (width precision : Amount) (kind : Char)
  | unknown (text : String)
  | unfinished
  deriving Repr

/-- The two commands of the name. -/
inductive Flavour where
  | program
  | shell
  deriving DecidableEq, Repr

namespace Flavour

def format : Flavour → Dialect
  | program => .programFormat
  | shell => .shellFormat

def argument : Flavour → Dialect
  | program => .programArgument
  | shell => .shellArgument

def flags : Flavour → List Char
  | program => "-+ #0'I".toList
  | shell => "-+ #0".toList

def sizes : Flavour → List Char
  | program => "lLhjtz".toList
  | shell => []

def precision : Flavour → Number.Precision
  | program => Number.extended
  | shell => Number.double

/-- Whether a kind makes sense with the flags, the width and the precision. -/
def allows (f : Flavour) (flags : List Char) (width precision : Amount) (kind : Char) : Bool :=
  let isReal := "aAeEfFgG".toList.contains kind
  match f with
  | shell => isReal || "diouxXcsb".toList.contains kind
  | program =>
      if kind = 'b' || kind = 'q' then flags = [] && width = .none && precision = .none
      else
        (isReal || "diouxXcs".toList.contains kind) &&
          !(flags.contains '#' && "cdisu".toList.contains kind) &&
          !(flags.contains '0' && "cs".toList.contains kind) &&
          !(precision ≠ .none && kind = 'c') &&
          !((flags.contains '\'' || flags.contains 'I') && "aAceEosxX".toList.contains kind)

end Flavour

/-- A number in a specification, and what is behind it. -/
def amount (cs : List Char) : Amount × List Char :=
  match cs with
  | '*' :: rest => (.given, rest)
  | _ =>
      let (ds, rest) := cs.span Char.isDigit
      (if ds = [] then .none else .fixed (Number.ofDigits 10 ds), rest)

/-- The specification behind a percent sign, and what is behind that. -/
def specification (f : Flavour) (cs : List Char) : Directive × List Char :=
  let (flags, rest) := cs.span f.flags.contains
  let (width, rest) := amount rest
  let (precision, rest) : Amount × List Char :=
    match rest with
    | '.' :: rest =>
        let (n, rest) := amount rest
        (if n = .none then .fixed 0 else n, rest)
    | _ => (.none, rest)
  let rest := rest.dropWhile f.sizes.contains
  let text (rest : List Char) : String :=
    String.ofList ('%' :: cs.take (cs.length - rest.length))
  match rest with
  | [] => (if f = .shell then .unfinished else .unknown (text []), [])
  | kind :: rest =>
      if f.allows flags width precision kind then (.argument flags width precision kind, rest)
      else (.unknown (text rest), rest)

/-- The parts of a format with at most so many characters.  For the program, a backslash takes away
the meaning of a percent sign, and both are printed. -/
def directives (f : Flavour) : Nat → List Char → List Directive
  | 0, _ => []
  | _, [] => []
  | bound + 1, '%' :: '%' :: rest => .escape (.plain "%") :: directives f bound rest
  | bound + 1, '\\' :: '%' :: rest =>
      if f = .program then .escape (.plain "\\%") :: directives f bound rest
      else .escape (.plain "\\") :: directives f bound ('%' :: rest)
  | bound + 1, '%' :: rest =>
      let (d, rest) := specification f rest
      d :: directives f bound rest
  | bound + 1, c :: cs =>
      match (Escape.reader f.format).run (c :: cs) with
      | some (e, rest) => .escape e :: directives f bound rest
      | none => .escape (.plain c.toString) :: directives f bound cs

/-! ## Printing -/

/-- What was printed so far. -/
structure State where
  arguments : List String
  output : String := ""
  complaints : List String := []
  code : Nat := 0
  isOver : Bool := false
  refusal : Option String := none
  isLost : Bool := false

namespace State

/-- The next argument, if there is one. -/
def next (s : State) : Option String × State :=
  (s.arguments.head?, { s with arguments := s.arguments.drop 1 })

def print (s : State) (text : String) : State :=
  { s with output := s.output ++ text }

def complain (s : State) (message : String) : State :=
  { s with complaints := s.complaints ++ [message], code := 1 }

def warn (s : State) (message : String) : State :=
  { s with complaints := s.complaints ++ [message] }

end State

def notNumber (f : Flavour) (argument : String) : String :=
  match f with
  | .program => Quoting.quoted argument ++ ": expected a numeric value"
  | .shell => argument ++ ": expected numeric value"

/-- What is said about an argument that is a number only in part. -/
def notWhole (f : Flavour) (argument : String) : String :=
  match f with
  | .program => Quoting.quoted argument ++ ": value not completely converted"
  | .shell => argument ++ ": not completely converted"

def tooLarge (f : Flavour) (argument : String) : String :=
  (if f = .program then Quoting.quoted argument else argument) ++
    ": Numerical result out of range"

/-- The number of the character behind a quote, and what is behind that. -/
def characterOf? (argument : String) : Option (Int × List Char) :=
  match argument.toList with
  | q :: cs =>
      if q = '"' || q = '\'' then some ((cs.head?.map (·.toNat)).getD 0, cs.drop 1) else none
  | [] => none

/-- Says what is wrong with an argument of which a part was read. -/
def State.check (s : State) (f : Flavour) (argument : String) (isThere : Bool)
    (rest : List Char) (fits : Bool) : State :=
  if rest ≠ [] then
    if isThere then s.complain (notWhole f argument) else s.complain (notNumber f argument)
  else if !isThere && f = .program && argument ≠ "" then s.complain (notNumber f argument)
  else if !fits then s.complain (tooLarge f argument)
  else s

def State.checkCharacter (s : State) (f : Flavour) (rest : List Char) : State :=
  if f = .program && rest ≠ [] then
    s.warn ("warning: " ++ String.ofList rest ++
      ": character(s) following character constant have been ignored")
  else s

def State.nextInteger (s : State) (f : Flavour) (isSigned : Bool) : Int × State :=
  match s.next with
  | (none, s) => (0, s)
  | (some argument, s) =>
      match characterOf? argument with
      | some (n, rest) => (n, s.checkCharacter f rest)
      | none =>
          let r := Number.integer argument
          if isSigned || r.fits then
            (r.value, s.check f argument r.isThere r.rest r.fits)
          else
            let (_, body) := Number.sign (argument.toList.dropWhile Number.isBlank)
            let n := ((Number.magnitude? body).map (·.1)).getD 0
            let held : Nat := min n (2 ^ 64 - 1)
            let negative := r.value < 0 && n < 2 ^ 64
            (if negative then -(held : Int) else held,
              s.check f argument true r.rest (n < 2 ^ 64))

def State.nextReal (s : State) (f : Flavour) : Number.Real × State :=
  match s.next with
  | (none, s) => (.finite false 0 1, s)
  | (some argument, s) =>
      match characterOf? argument with
      | some (n, rest) => (.finite false n.toNat 1, s.checkCharacter f rest)
      | none =>
          match Number.real? argument with
          | none => (.finite false 0 1, s.check f argument false argument.toList true)
          | some (value, rest) =>
              let fits := match value, value.rounded f.precision with
                | .finite .., .infinite _ => false
                | .finite _ n _, .finite _ m _ => n = 0 || m ≠ 0
                | _, _ => true
              (value, s.check f argument true rest fits)

/-- The numbers beyond which no width and no precision makes sense. -/
def amountBound : Int := 2 ^ 31

def State.refuse (s : State) (reason : String) : State :=
  { s with isOver := true, refusal := some reason }

/-- Ends the output at an escape, which the program takes for a success whatever came before. -/
def State.stop (s : State) (f : Flavour) : State :=
  { s with isOver := true, code := if f = .program then 0 else s.code }

/-- A number of a specification, which may be the next argument.  The shell takes it for a word of
32 bits; the program refuses what does not fit, where a precision below zero counts as none. -/
def State.resolve (s : State) (f : Flavour) (isWidth : Bool) : Amount → Option Int × State
  | .none => (none, s)
  | .fixed n => (some n, s)
  | .given =>
      let text := s.arguments.headD ""
      let (n, s) := s.nextInteger f true
      let fits := n < amountBound && (!isWidth || -amountBound ≤ n)
      match f with
      | .shell => (some (n.bmod (2 ^ 32)), s)
      | .program =>
          if fits then (some n, s)
          else
            let what := if isWidth then "field width" else "precision"
            (some 0, s.refuse ("invalid " ++ what ++ ": " ++ Quoting.quoted text))

def printArgument (f : Flavour) (spec : Specification) (s : State) : State :=
  match spec.kind with
  | 's' => let (a, s) := s.next; s.print (spec.text (a.getD ""))
  | 'q' => let (a, s) := s.next; s.print (a.elim "" (Quoting.forShell Quoting.isSafe))
  | 'c' =>
      let (a, s) := s.next
      s.print (spec.padded [((a.getD "").toList.head?).getD '\x00'])
  | 'b' =>
      let (a, s) := s.next
      let (text, last) := unescape f.argument (a.getD "")
      let s := s.print (spec.text text)
      match last with
      | none => s
      | some .senseless => s.refuse "missing hexadecimal number in escape"
      | some _ => s.stop f
  | kind =>
      if "diouxX".toList.contains kind then
        let (n, s) := s.nextInteger f (kind = 'd' || kind = 'i')
        s.print (spec.integer n)
      else
        let (x, s) := s.nextReal f
        s.print (spec.real f.precision x)

def longest : Nat := 2 ^ 22

/-- Prints one part of a format.  What would be longer than the machine counts is lost. -/
def printDirective (f : Flavour) (s : State) (d : Directive) : State :=
  if s.isOver then s
  else
    match d with
    | .escape (.plain text) => s.print text
    | .escape .stop => s.stop f
    | .escape .senseless => s.refuse "missing hexadecimal number in escape"
    | .unknown text =>
        let reason := if f = .program then ": invalid conversion specification"
          else ": invalid directive"
        s.refuse (text ++ reason)
    | .unfinished => s.refuse "missing format character"
    | .argument flags width precision kind =>
        let (width, s) := s.resolve f true width
        let (precision, s) := if s.isOver then (none, s) else s.resolve f false precision
        let width := width.getD 0
        let spec : Specification :=
          { flags := if width < 0 then '-' :: flags else flags
            width := min width.natAbs longest
            precision := precision.bind fun n => if n < 0 then none else some (min n.toNat longest)
            kind }
        if s.isOver then s
        else if max width.natAbs (precision.getD 0).toNat < amountBound then printArgument f spec s
        else
          match f with
          | .shell => s.refuse "xvsnprintf failed"
          | .program => { printArgument f spec s with output := s.output, isLost := true }

/-- Prints a format again and again until all arguments are used, at most so many times. -/
def printAll (f : Flavour) (parts : List Directive) : Nat → State → State
  | 0, s => s
  | bound + 1, s =>
      let before := s.arguments.length
      let s := parts.foldl (printDirective f) s
      if s.isOver || s.arguments = [] then s
      else if s.arguments.length = before then
        if f = .program then
          s.warn ("warning: ignoring excess arguments, starting with " ++
            Quoting.quoted (s.arguments.headD ""))
        else s
      else printAll f parts bound s

def run (f : Flavour) (format : String) (arguments : List String) : State :=
  let parts := directives f format.toList.length format.toList
  printAll f parts (arguments.length + 1) { arguments }

end Printf
end Rehearsal
end BuildStamp
