/-!
# Octets — bytes as characters, and words as messages show them

The processes of a rehearsal pass bytes.  Where they look at them as text, a text has one character
for each byte, whose number is the byte.  A message shows a word between two quotes, or in the form
in which a shell would take it.  Bytes without a shape are spelt by a backslash and a letter or
three octal digits.

* `Octets.text`, `Octets.ofText` — bytes as such a text, and back;
* `Octets.spell`, `Octets.read?` — ordinary text as bytes, and back;
* `Quoting.octal`, `Quoting.spelt` — single characters;
* `Quoting.quoted` — a word between quotes;
* `Quoting.forShell`, `Quoting.quotedForShell` — a word as a shell would take it.
-/

namespace BuildStamp
namespace Rehearsal
namespace Octets

def text (octets : ByteArray) : String :=
  String.ofList (octets.data.toList.map fun b => Char.ofNat b.toNat)

def ofText (text : String) : ByteArray :=
  ⟨(text.toList.map fun c => UInt8.ofNat c.toNat).toArray⟩

def spell (ordinary : String) : String :=
  text ordinary.toUTF8

/-- The ordinary text that some bytes spell, if they spell one. -/
def read? (spelt : String) : Option String :=
  String.fromUTF8? (ofText spelt)

end Octets

namespace Quoting

/-! ## Words in messages -/

def isPrintable (c : Char) : Bool :=
  ' ' ≤ c && c ≤ '~'

def octal (c : Char) : String :=
  "\\" ++ String.ofList ((Nat.toDigits 8 (c.toNat + 512)).drop 1)

/-- A character, or three octal digits for one that has no shape. -/
def shaped (c : Char) : String :=
  if isPrintable c then c.toString else octal c

def letterOf? : Char → Option Char
  | '\x07' => some 'a'
  | '\x08' => some 'b'
  | '\x0c' => some 'f'
  | '\n' => some 'n'
  | '\r' => some 'r'
  | '\t' => some 't'
  | '\x0b' => some 'v'
  | _ => none

/-- A character, or a letter or three octal digits for one that has no shape. -/
def spelt (c : Char) : String :=
  match letterOf? c with
  | some letter => "\\" ++ letter.toString
  | none => shaped c

def escaped (c : Char) : String :=
  if c = '\\' then "\\\\" else spelt c

def spelling (word : String) : String :=
  String.join (word.toList.map escaped)

def quoted (word : String) : String :=
  "'" ++ String.join (word.toList.map fun c => if c = '\'' then "\\'" else escaped c) ++ "'"

/-- Whether a character means nothing to a shell.  Some only mean something at the beginning of a
word, others only where they are all of it. -/
def isSafe (isFirst isAll : Bool) (c : Char) : Bool :=
  c.isAlphanum || "%+,-./:@]_".toList.contains c ||
    (!isFirst && (c = '#' || c = '~')) || (!isAll && (c = '\x7b' || c = '\x7d'))

def isTame (isFirst isAll : Bool) (c : Char) : Bool :=
  c.isAlphanum || "%+,-./:@]_ '".toList.contains c ||
    (isFirst && (c = '#' || c = '~')) || (isAll && (c = '\x7b' || c = '\x7d'))

/-- Whether each character of a word has a property, given whether it is the first one and whether
it is the only one. -/
def allOf (p : Bool → Bool → Char → Bool) (cs : List Char) : Bool :=
  match cs with
  | [] => true
  | c :: rest => p true rest.isEmpty c && rest.all (p false false)

/-- Characters between single quotes, where those without a shape are spelt out between quotes of
their own.  It tells whether the last one was. -/
def segments (isSpelling : Bool) : List Char → List String × Bool
  | [] => ([], isSpelling)
  | c :: rest =>
      let (text, isSpelling) :=
        if c = '\'' then ("'\\''", false)
        else if isPrintable c then ((if isSpelling then "''" else "") ++ c.toString, false)
        else ((if isSpelling then "" else "'$'") ++ spelt c, true)
      let (others, last) := segments isSpelling rest
      (text :: others, last)

/-- A word as a shell would take it, in quotes if it needs them.  Words with single quotes are gone
through twice, and the second time begins as the first one ended. -/
def forShell (isSafe : Bool → Bool → Char → Bool) (word : String) : String :=
  let cs := word.toList
  if cs ≠ [] && allOf isSafe cs then word
  else if cs.contains '\'' && allOf isTame cs then "\"" ++ word ++ "\""
  else
    let (parts, last) := segments false cs
    let parts := if cs.contains '\'' && last then (segments true cs).1 else parts
    "'" ++ String.join parts ++ "'"

/-- The name of a file, in quotes if a shell would want them or if a colon would confuse. -/
def fileName (name : String) : String :=
  forShell (fun isFirst isAll c => c ≠ ':' && isSafe isFirst isAll c) name

/-- A word as a shell would take it, in quotes even if it needs none. -/
def quotedForShell (word : String) : String :=
  forShell (fun _ _ _ => false) word

end Quoting
end Rehearsal
end BuildStamp
