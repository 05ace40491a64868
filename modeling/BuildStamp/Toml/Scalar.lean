import BuildStamp.Text.Reader
import BuildStamp.Time
import BuildStamp.Toml.Table

/-!
# Scalar — strings, numbers, dates and truth values of TOML

* `Toml.isPlain`, `Toml.blanks`, `Toml.newline`, `Toml.comment` — what stands around values;
* `Toml.escape` — the escapes of basic strings;
* `Toml.basicString`, `Toml.literalString`, `Toml.multilineBasic`, `Toml.multilineLiteral` — the
  four forms of a string;
* `Toml.string` — any of them;
* `Toml.digits` — digits with single underscores between them;
* `Toml.integer` — decimal, hexadecimal, octal and binary integers of 64 bits;
* `Toml.float` — numbers with a fraction or an exponent, infinities and NaN;
* `Toml.moment` — dates and times;
* `Toml.boolean` — truth values.
-/

namespace BuildStamp
namespace Toml

open Text (Reader Skip)
open Text.Reader

/-! ## Around values -/

/-- The characters that stand for themselves in a comment: all but the control characters other
than the tab. -/
def isPlain (c : Char) : Bool :=
  c = '\t' || (' ' ≤ c && c ≠ '\x7f')

def isBlankChar (c : Char) : Bool :=
  c = ' ' || c = '\t'

def blanks : Skip :=
  skipMany (char isBlankChar)

def newline : Reader Unit :=
  (exactly '\n').orElse (word '\r' ['\n'])

def comment : Reader Unit :=
  ((exactly '#').thenMany (char isPlain)).map fun _ => ()

/-- Skips blanks, line ends and comments. -/
def gap : Skip :=
  skipMany (((char isBlankChar).map fun _ => ()).orElse (newline.orElse (comment.before newline)))

/-! ## Escapes -/

def hexDigit? (c : Char) : Option Nat :=
  if '0' ≤ c ∧ c ≤ '9' then some (c.toNat - '0'.toNat)
  else if 'a' ≤ c ∧ c ≤ 'f' then some (c.toNat - 'a'.toNat + 10)
  else if 'A' ≤ c ∧ c ≤ 'F' then some (c.toNat - 'A'.toNat + 10)
  else none

def hexValue (digits : List Nat) : Nat :=
  digits.foldl (fun n d => 16 * n + d) 0

/-- The character with a number, if it is the number of one. -/
def scalar? (n : Nat) : Option Char :=
  if n.isValidChar then some (Char.ofNat n) else none

def hexDigit : Reader Nat :=
  (char fun _ => true).filterMap hexDigit?

/-- Reads `count + 1` hexadecimal digits. -/
def hexDigits : Nat → Reader (List Nat)
  | 0 => hexDigit.map fun d => [d]
  | count + 1 => (hexDigit.both (hexDigits count)).map fun (d, ds) => d :: ds

/-- Reads a letter that stands for a character after a backslash. -/
def letterEscape : Reader Char :=
  (char fun _ => true).filterMap fun
    | 'b' => some '\x08'
    | 't' => some '\t'
    | 'n' => some '\n'
    | 'f' => some '\x0c'
    | 'r' => some '\r'
    | '"' => some '"'
    | '\\' => some '\\'
    | _ => none

/-- Reads an escape: a letter, or a character's number in four or eight digits. -/
def escape : Reader Char :=
  (exactly '\\').after <|
    letterEscape.orElse <|
      ((exactly 'u').after ((hexDigits 3).filterMap (scalar? ∘ hexValue))).orElse
        ((exactly 'U').after ((hexDigits 7).filterMap (scalar? ∘ hexValue)))

/-! ## Strings on one line -/

/-- The characters that stand for themselves between double quotes. -/
def isBasicPlain (c : Char) : Bool :=
  isPlain c && c ≠ '"' && c ≠ '\\'

/-- The characters that stand for themselves between single quotes. -/
def isLiteralPlain (c : Char) : Bool :=
  isPlain c && c ≠ '\''

def basicString : Reader String :=
  (((exactly '"').thenMany ((char isBasicPlain).orElse escape)).before (exactly '"')).map
    fun (_, cs) => String.ofList cs

def literalString : Reader String :=
  (((exactly '\'').thenMany (char isLiteralPlain)).before (exactly '\'')).map
    fun (_, cs) => String.ofList cs

/-! ## Strings over several lines -/

def fewQuotes (quote : Char) : Reader (List Char) where
  run
    | a :: b :: c :: r =>
        if a = quote ∧ b = quote ∧ c ≠ quote then some ([a, b], c :: r)
        else if a = quote ∧ b ≠ quote then some ([a], b :: c :: r)
        else none
    | _ => none
  shorter := by
    intro s a r h
    match s, h with
    | [], h => simp at h
    | [_], h => simp at h
    | [_, _], h => simp at h
    | x :: y :: z :: t, h =>
        by_cases h1 : x = quote ∧ y = quote ∧ z ≠ quote
        · simp only [if_pos h1, Option.some.injEq, Prod.mk.injEq] at h
          simp [← h.2]
        · by_cases h2 : x = quote ∧ y ≠ quote
          · simp only [if_neg h1, if_pos h2, Option.some.injEq, Prod.mk.injEq] at h
            simp [← h.2]
          · simp [if_neg h1, if_neg h2] at h

/-- Reads three quotes and keeps those of at most two more that stand before them. -/
def closingQuotes (quote : Char) : Reader (List Char) :=
  ((word quote [quote, quote, quote, quote]).map fun _ => [quote, quote]).orElse <|
    ((word quote [quote, quote, quote]).map fun _ => [quote]).orElse <|
      (word quote [quote, quote]).map fun _ => []

/-- Reads the string that pieces make between triple quotes.  A line end behind the first three
quotes is not part of it. -/
def multiline (quote : Char) (piece : Reader (List Char)) : Reader String :=
  let delimiter := word quote [quote, quote]
  let opening := (delimiter.before newline).orElse delimiter
  ((opening.thenMany (piece.orElse (fewQuotes quote))).both (closingQuotes quote)).map
    fun ((_, pieces), last) => String.ofList (pieces.flatten ++ last)

/-- Reads a line end inside a string, which is always a single line feed. -/
def lineFeed : Reader (List Char) :=
  newline.map fun _ => ['\n']

/-- Reads a backslash at the end of a line with all blanks and line ends behind it. -/
def lineJoin : Reader (List Char) :=
  let space := ((char isBlankChar).map fun _ => ()).orElse newline
  ((((exactly '\\').skip blanks).before newline).skip (skipMany space)).map fun _ => []

def multilineBasic : Reader String :=
  multiline '"' <|
    ((char isBasicPlain).map fun c => [c]).orElse <|
      lineJoin.orElse <| (escape.map fun c => [c]).orElse lineFeed

def multilineLiteral : Reader String :=
  multiline '\'' (((char isLiteralPlain).map fun c => [c]).orElse lineFeed)

def string : Reader String :=
  multilineBasic.orElse <| basicString.orElse <| multilineLiteral.orElse literalString

/-! ## Digits -/

/-- Reads characters of a class with single underscores between them. -/
def digits (p : Char → Bool) : Reader (List Char) :=
  ((char p).thenMany ((char p).orElse ((exactly '_').after (char p)))).map fun (d, ds) => d :: ds

/-- Reads a sign; a minus is `true`. -/
def sign : Reader Bool :=
  ((exactly '+').map fun _ => false).orElse ((exactly '-').map fun _ => true)

/-- Reads decimal digits of which the first is zero only if it is the only one. -/
def naturalDigits : Reader (List Char) :=
  let next := (char Char.isDigit).orElse ((exactly '_').after (char Char.isDigit))
  (((char fun c => '1' ≤ c && c ≤ '9').thenMany next).map fun (d, ds) => d :: ds).orElse
    ((exactly '0').map fun _ => ['0'])

def signedDigits : Reader (Bool × List Char) :=
  (maybeAfter sign naturalDigits).map fun (s, ds) => (s.getD false, ds)

/-! ## Integers -/

def maxInteger : Int := 2 ^ 63 - 1

def minInteger : Int := -2 ^ 63

/-- An integer that fits into 64 bits. -/
def fitting? (i : Int) : Option Int :=
  if minInteger ≤ i ∧ i ≤ maxInteger then some i else none

def basedInteger (mark : Char) (base : Nat) : Reader Int :=
  let isDigit (c : Char) : Bool := (hexDigit? c).any (· < base)
  ((word '0' [mark]).after (digits isDigit)).filterMap fun ds =>
    fitting? ((ds.filterMap hexDigit?).foldl (fun n d => base * n + d) 0 : Nat)

def decimalInteger : Reader Int :=
  signedDigits.filterMap fun (negative, ds) =>
    let n : Int := Nat.ofDigitChars 10 ds 0
    fitting? (if negative then -n else n)

def integer : Reader Int :=
  (basedInteger 'x' 16).orElse <| (basedInteger 'o' 8).orElse <|
    (basedInteger 'b' 2).orElse decimalInteger

/-! ## Floating-point numbers -/

def exponentPart : Reader Int :=
  ((char fun c => c = 'e' || c = 'E').after (maybeAfter sign (digits Char.isDigit))).map
    fun (s, ds) =>
      let n : Int := Nat.ofDigitChars 10 ds 0
      if s.getD false then -n else n

def fractionPart : Reader (List Char) :=
  (exactly '.').after (digits Char.isDigit)

/-- Reads what makes a number a floating-point number: a fraction, an exponent or both. -/
def scale : Reader (List Char × Int) :=
  (exponentPart.map fun e => ([], e)).orElse <|
    (fractionPart.thenMaybe exponentPart).map fun (ds, e) => (ds, e.getD 0)

/-- Reads a number with a fraction or an exponent.  One that is too large is refused; one that is
too small for a negative number is negative infinity. -/
def scaledFloat : Reader Binary64 :=
  (signedDigits.both scale).filterMap fun ((negative, whole), (fraction, exponent)) =>
    let value :=
      Binary64.ofDecimal negative (Nat.ofDigitChars 10 (whole ++ fraction) 0)
        (exponent - fraction.length)
    if value = .infinity false then none else some value

def specialFloat : Reader Binary64 :=
  (maybeAfter sign
      (((word 'i' ['n', 'f']).map fun _ => true).orElse
        ((word 'n' ['a', 'n']).map fun _ => false))).map
    fun (s, infinite) => if infinite then .infinity (s.getD false) else .nan

def float : Reader Binary64 :=
  scaledFloat.orElse specialFloat

/-! ## Truth values -/

def boolean : Reader Bool :=
  ((word 't' ['r', 'u', 'e']).map fun _ => true).orElse
    ((word 'f' ['a', 'l', 's', 'e']).map fun _ => false)

/-! ## Dates and times -/

/-- Reads exactly `count + 1` digits. -/
def fixedDigits : Nat → Reader (List Char)
  | 0 => (char Char.isDigit).map fun c => [c]
  | count + 1 => ((char Char.isDigit).both (fixedDigits count)).map fun (c, cs) => c :: cs

def twoDigits (low high : Nat) : Reader Nat :=
  ((fixedDigits 1).map fun cs => Nat.ofDigitChars 10 cs 0).filter fun n => low ≤ n && n ≤ high

def date : Reader Unit :=
  let year := (fixedDigits 3).map fun cs => Nat.ofDigitChars 10 cs 0
  let parts := (year.before (exactly '-')).both
    (((twoDigits 1 12).before (exactly '-')).both (twoDigits 1 31))
  parts.filterMap fun (y, m, d) => if (Date.mk y m d).isValid then some () else none

/-- Reads a time of day with seconds, of which 60 may be the last. -/
def time : Reader Unit :=
  let parts := ((twoDigits 0 23).before (exactly ':')).both
    (((twoDigits 0 59).before (exactly ':')).both (twoDigits 0 60))
  let fraction := (exactly '.').after ((char Char.isDigit).thenMany (char Char.isDigit))
  (parts.thenMaybe fraction).map fun _ => ()

def offset : Reader Unit :=
  ((char fun c => c = 'Z' || c = 'z').map fun _ => ()).orElse <|
    (sign.after (((twoDigits 0 23).before (exactly ':')).both (twoDigits 0 59))).map fun _ => ()

/-- Reads a date, a time, or a date with a time behind it and perhaps an offset. -/
def moment : Reader Unit :=
  let mark := char fun c => c = 'T' || c = 't' || c = ' '
  ((date.thenMaybe (mark.after (time.thenMaybe offset))).map fun _ => ()).orElse time

end Toml
end BuildStamp
