import BuildStamp.Text.Character

/-!
# Writing — numbers, names and words in a message

A name stands in quotes, with the characters escaped that would not show.  Words of a command line
that are shown again lose their control characters and control sequences.  A sequence begins with an
escape character and says itself where it ends; blanks inside it are kept.  What follows such a
blank is text up to the next control character, behind which the sequence goes on.

* `Text.decimal` — a natural number in decimal digits;
* `Text.integer` — the same with a minus sign in front of negative numbers;
* `Text.zeroPadded` — at least a given number of digits;
* `Text.hexadecimal` — lower-case hexadecimal digits;
* `Text.hexadecimalPair` — the same, at least two of them;
* `Text.naturalOf?` — reads decimal digits back;
* `Text.shownChar` — one character between the quotes;
* `Text.quoted` — the whole name;
* `Text.Sequence` — the place in a control sequence;
* `Text.Sequence.after` — the place behind one more character;
* `Text.plain` — the text that is left.
-/

namespace BuildStamp

/-! ## Numbers -/

-- Powers of numbers are those of the core library, also where a module imports algebra.

@[default_instance 100000]
instance (priority := 100000) powNat : Pow Nat Nat := instPowNat

@[default_instance 100000]
instance (priority := 100000) powInt : Pow Int Nat := instPowNat

namespace Text

/-- The decimal digits of `n`, without leading zeros. -/
def decimal (n : Nat) : String :=
  String.ofList (Nat.toDigits 10 n)

/-- The decimal digits of `i`, after a minus sign if it is negative. -/
def integer (i : Int) : String :=
  if i < 0 then "-" ++ decimal i.natAbs else decimal i.natAbs

/-- The characters of `cs` behind as many zeros as it needs to be `width` characters long. -/
def padLeft (width : Nat) (cs : List Char) : List Char :=
  List.replicate (width - cs.length) '0' ++ cs

/-- The decimal digits of `n`, at least `width` of them. -/
def zeroPadded (width n : Nat) : String :=
  String.ofList (padLeft width (Nat.toDigits 10 n))

/-- The lower-case hexadecimal digits of `n`. -/
def hexadecimal (n : Nat) : String :=
  String.ofList (Nat.toDigits 16 n)

/-- The lower-case hexadecimal digits of `n`, at least two of them. -/
def hexadecimalPair (n : Nat) : String :=
  String.ofList (padLeft 2 (Nat.toDigits 16 n))

/-- The number that a non-empty run of decimal digits stands for. -/
def naturalOf? (cs : List Char) : Option Nat :=
  if cs ≠ [] ∧ cs.all Char.isDigit then some (Nat.ofDigitChars 10 cs 0) else none

theorem naturalOf?_toDigits (n : Nat) : naturalOf? (Nat.toDigits 10 n) = some n := by
  have h : (Nat.toDigits 10 n).all Char.isDigit = true :=
    List.all_eq_true.2 fun _ hc => Nat.isDigit_of_mem_toDigits (by decide) (by decide) hc
  simp [naturalOf?, h, Nat.toDigits_ne_nil, Nat.ofDigitChars_toDigits]

/-! ## Quoted names -/

def shownChar (c : Char) : List Char :=
  if c = '"' then ['\\', '"']
  else if c = '\\' then ['\\', '\\']
  else if c = '\n' then ['\\', 'n']
  else if c = '\r' then ['\\', 'r']
  else if c = '\t' then ['\\', 't']
  else if c = '\x00' then ['\\', '0']
  else if isConcealed c then
    ['\\', 'u', '\x7b'] ++ (Nat.toDigits 16 c.toNat ++ ['\x7d'])
  else [c]

def quoted (name : String) : String :=
  String.ofList ('"' :: (name.toList.flatMap shownChar ++ ['"']))

/-! ## Words shown again -/

/-- The place in a control sequence. -/
inductive Sequence where
  | outside
  | escape
  -- Behind the intermediate characters of a short sequence.
  | intermediate
  | entry
  | parameter
  -- Behind the intermediate characters of a sequence with parameters.
  | detail
  -- In a sequence with parameters that makes no sense.
  | senseless
  | deviceEntry
  | deviceParameter
  | deviceDetail
  | deviceBody
  | systemString
  | otherString
  deriving DecidableEq, Repr

namespace Sequence

/-- Whether the number of a character lies in a closed range. -/
def within (low high : Nat) (c : Char) : Bool :=
  low ≤ c.toNat && c.toNat ≤ high

/-- Whether the code of a character ends a string: its last bytes may be those of a terminator. -/
def endsString (c : Char) : Bool :=
  0x80 ≤ c.toNat && (c.toString.toUTF8.data.any (· = 0x9C))

def afterEscape (c : Char) : Sequence :=
  if within 0x20 0x2F c then intermediate
  else if c = '[' then entry
  else if c = ']' then systemString
  else if c = 'P' then deviceEntry
  else if ['X', '^', '_'].contains c then otherString
  else if within 0x30 0x7E c then outside
  else escape

/-- The place in a sequence with parameters behind one more character, which would end it. -/
def afterParameter (s : Sequence) (c : Char) : Sequence :=
  if within 0x40 0x7E c then outside
  else if s = senseless then senseless
  else if within 0x20 0x2F c then detail
  else if s = detail then (if within 0x30 0x3F c then senseless else s)
  else if within 0x30 0x3B c then parameter
  else if within 0x3C 0x3F c then (if s = entry then parameter else senseless)
  else s

/-- The place in a device control string behind one more character. -/
def afterDevice (s : Sequence) (c : Char) : Sequence :=
  if within 0x40 0x7E c then deviceBody
  else if within 0x20 0x2F c then deviceDetail
  else if s = deviceDetail then (if within 0x30 0x3F c then deviceBody else s)
  else if within 0x30 0x3B c then deviceParameter
  else if within 0x3C 0x3F c then (if s = deviceEntry then deviceParameter else deviceBody)
  else s

def after (s : Sequence) (c : Char) : Sequence :=
  if c = '\x1b' then escape
  else if c = '\x18' ∨ c = '\x1a' then outside
  else
    match s with
    | outside => outside
    | escape => afterEscape c
    | intermediate => if within 0x30 0x7E c then outside else intermediate
    | entry | parameter | detail | senseless => afterParameter s c
    | deviceEntry | deviceParameter | deviceDetail => afterDevice s c
    | deviceBody | otherString => if endsString c then outside else s
    | systemString => if c = '\x07' then outside else s

/-- Whether blanks are kept here: everywhere but in strings. -/
def keepsBlanks : Sequence → Bool
  | outside | escape | intermediate | entry | parameter | detail | senseless => true
  | _ => false

end Sequence

/-- Whether a character is one of the blanks that are kept. -/
def isPlainBlank (c : Char) : Bool :=
  ['\t', '\n', '\x0c', '\r'].contains c

def isPlain (c : Char) : Bool :=
  isPlainBlank c || (0x20 ≤ c.toNat && c ≠ '\x7f')

/-- The text that is left of some characters.  `reading` says that the last one was text. -/
def plainList (reading : Bool) (s : Sequence) : List Char → List Char
  | [] => []
  | c :: rest =>
      if reading && isPlain c then
        c :: plainList true (if 0x80 ≤ c.toNat then .outside else s) rest
      else if s = .outside && isPlain c then c :: plainList true .outside rest
      else if isPlainBlank c && s.keepsBlanks then c :: plainList true s rest
      else plainList false (s.after c) rest

/-- A text without control characters and control sequences. -/
def plain (text : String) : String :=
  String.ofList (plainList false .outside text.toList)

end Text
end BuildStamp
