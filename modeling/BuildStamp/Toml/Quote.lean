import BuildStamp.Toml.Scalar

/-!
# Quote — writing strings and integers

A string is written in the first of these forms that needs no escape: between double quotes,
between single quotes, between three double quotes, between three single quotes.  A tab counts as
needing none, although it is escaped between double quotes.  Where every form would need an escape
the string stands between double quotes, or between three of them if it has a line feed.

* `Toml.Shape` — what decides the form;
* `Toml.Form`, `Toml.formOf` — the form of a string;
* `Toml.quote` — the string in its form;
* `Toml.integerText?` — an integer, if it fits into 64 bits.
-/

namespace BuildStamp
namespace Toml

/-! ## Forms -/

/-- The length of the longest run of a character, given the length of the run just before. -/
def longestRun (q : Char) : Nat → List Char → Nat
  | run, [] => run
  | run, c :: r => if c = q then longestRun q (run + 1) r else max run (longestRun q 0 r)

/-- The control characters that no form holds unescaped: all but the tab and the line feed. -/
def isControl (c : Char) : Bool :=
  (c < ' ' && c ≠ '\t' && c ≠ '\n') || c = '\x7f'

/-- What decides the form of a string. -/
structure Shape where
  lineFeed : Bool
  -- It holds a control character other than tab and line feed.
  control : Bool
  backslash : Bool
  -- Its longest run of double quotes.
  doubles : Nat
  singles : Nat

def shapeOf (cs : List Char) : Shape :=
  { lineFeed := cs.contains '\n'
    control := cs.any isControl
    backslash := cs.contains '\\'
    doubles := longestRun '"' 0 cs
    singles := longestRun '\'' 0 cs }

/-- The forms of a string. -/
inductive Form where
  | basic
  | literal
  | multilineBasic
  | multilineLiteral
  deriving DecidableEq, Repr

def formOf (s : Shape) : Form :=
  if !s.control && !s.backslash && s.doubles = 0 && !s.lineFeed then .basic
  else if !s.control && s.singles = 0 && !s.lineFeed then .literal
  else if !s.control && !s.backslash && s.doubles ≤ 2 then .multilineBasic
  else if !s.control && s.singles ≤ 2 then .multilineLiteral
  else if s.lineFeed then .multilineBasic
  else .basic

/-! ## Bodies -/

def fourDigits (n : Nat) : List Char :=
  [n / 4096 % 16, n / 256 % 16, n / 16 % 16, n % 16].map fun d => (Nat.digitChar d).toUpper

/-- A character other than the double quote between double quotes; a line feed stays one where
`lines` are kept. -/
def escapeOther (lines : Bool) (c : Char) : List Char :=
  if c = '\\' then ['\\', '\\']
  else if c = '\x08' then ['\\', 'b']
  else if c = '\t' then ['\\', 't']
  else if c = '\n' then if lines then ['\n'] else ['\\', 'n']
  else if c = '\x0c' then ['\\', 'f']
  else if c = '\r' then ['\\', 'r']
  else if isControl c then '\\' :: 'u' :: fourDigits c.toNat
  else [c]

/-- A string between double quotes, of which at most `limit` in a row stand unescaped; `run` of
them stand just before. -/
def escapeBody (lines : Bool) (limit : Nat) : Nat → List Char → List Char
  | _, [] => []
  | run, c :: r =>
      if c = '"' then
        if run < limit then '"' :: escapeBody lines limit (run + 1) r
        else '\\' :: '"' :: escapeBody lines limit 0 r
      else escapeOther lines c ++ escapeBody lines limit 0 r

/-- A line feed behind an opening delimiter, so that the string's own first one is kept. -/
def openingLine (s : Shape) : List Char :=
  if s.lineFeed then ['\n'] else []

def quoteList (cs : List Char) : List Char :=
  let s := shapeOf cs
  match formOf s with
  | .basic => '"' :: (escapeBody false 0 0 cs ++ ['"'])
  | .literal => '\'' :: (cs ++ ['\''])
  | .multilineBasic =>
      ['"', '"', '"'] ++ openingLine s ++ escapeBody true 2 0 cs ++ ['"', '"', '"']
  | .multilineLiteral => ['\'', '\'', '\''] ++ openingLine s ++ cs ++ ['\'', '\'', '\'']

def quote (text : String) : String :=
  String.ofList (quoteList text.toList)

/-- A natural number, if it fits into a 64-bit integer with a sign. -/
def integerText? (n : Nat) : Option String :=
  (fitting? n).map fun _ => Text.decimal n

end Toml
end BuildStamp
