import BuildStamp.Toml.Scalar
import BuildStamp.Toml.Table

/-!
# Document — keys, values and the lines of a document

* `Toml.key` — bare, quoted and dotted keys;
* `Toml.value` — values, nested to at most `maxDepth` levels;
* `Toml.Statement`, `Toml.statement` — one line of a document: a pair, a header or nothing;
* `Toml.Section` — a header and the pairs below it;
* `Toml.sections` — splits the lines of a document at its headers;
* `Toml.parse?` — the table that a text describes, if it is well formed.
-/

namespace BuildStamp
namespace Toml

open Text (Reader Skip)
open Text.Reader

/-! ## Keys -/

def isBareKey (c : Char) : Bool :=
  c.isAlphanum || c = '_' || c = '-'

def maxKeyParts : Nat := 80

def keyPart : Reader String :=
  basicString.orElse <| literalString.orElse <|
    ((char isBareKey).thenMany (char isBareKey)).map fun (c, cs) => String.ofList (c :: cs)

/-- Reads a key and gives its parts before the last and the last. -/
def key : Reader (List String × String) :=
  (separated (behind blanks (keyPart.skip blanks)) (exactly '.')).filterMap fun parts =>
    if parts.length < maxKeyParts then parts.getLast?.map fun last => (parts.dropLast, last)
    else none

def pair (value : Reader Value) : Reader Pair :=
  ((key.before ((exactly '=').skip blanks)).both value).map
    fun ((path, key), value) => ⟨path, key, value⟩

/-! ## Values -/

/-- Arrays and tables between braces are nested to at most this depth. -/
def maxDepth : Nat := 79

def scalar : Reader Value :=
  (string.map Value.string).orElse <| (moment.map fun _ => Value.moment).orElse <|
    (float.map Value.float).orElse <| (integer.map Value.integer).orElse <|
      boolean.map Value.boolean

/-- Reads values between brackets.  A comma may stand behind the last one. -/
def array (value : Reader Value) : Reader Value :=
  let item := value.skip gap
  let opening := (exactly '[').skip gap
  let closing := exactly ']'
  let comma := (exactly ',').skip gap
  let empty : Reader Value := (opening.before closing).map fun _ => .array []
  let filled := (opening.after (separated item comma)).map Value.array
  empty.orElse ((filled.thenMaybe comma).before closing |>.map Prod.fst)

def inlineTable (value : Reader Value) : Reader Value :=
  let opening := (exactly '{').skip blanks
  let closing := exactly '}'
  let empty : Reader (List Pair) := (opening.before closing).map fun _ => []
  let filled := opening.after ((separated ((pair value).skip blanks) (exactly ',')).before closing)
  (empty.orElse filled).filterMap fun pairs => (Entries.fill? pairs []).map (Value.table .inline)

/-- Reads a value with at most `depth` levels of brackets and braces. -/
def value : Nat → Reader Value
  | 0 => scalar
  | depth + 1 => scalar.orElse ((array (value depth)).orElse (inlineTable (value depth)))

/-! ## Lines -/

/-- What one line says. -/
inductive Statement where
  | pair (pair : Pair)
  -- The pairs that follow belong to the table of this path and key.
  | header (path : List String) (key : String)
  -- The pairs that follow belong to a new table at the end of those of this path and key.
  | arrayHeader (path : List String) (key : String)
  | blank

/-- The rest behind the end of a line, which may be the end of the text. -/
def lineEnd? (s : List Char) : Option (List Char) :=
  if s = [] then some [] else (newline.run s).map Prod.snd

theorem length_of_lineEnd? {s r : List Char} (h : lineEnd? s = some r) : r.length ≤ s.length := by
  by_cases hs : s = []
  · simp only [lineEnd?, hs, if_true, Option.some.injEq] at h
    simp [← h]
  · simp only [lineEnd?, hs, if_false, Option.map_eq_some_iff] at h
    obtain ⟨⟨u, rest⟩, hn, rfl⟩ := h
    exact Nat.le_of_lt (newline.shorter hn)

def endOfLine {α : Type} (r : Reader α) : Reader α where
  run s := (r.run s).bind fun (a, rest) => (lineEnd? rest).map (a, ·)
  shorter := by
    intro s a rest h
    simp only [Option.bind_eq_some_iff, Option.map_eq_some_iff, Prod.mk.injEq] at h
    obtain ⟨⟨b, mid⟩, hr, rest', hl, -, rfl⟩ := h
    exact Nat.lt_of_le_of_lt (length_of_lineEnd? hl) (r.shorter hr)

/-- Reads something and, behind it, blanks, perhaps a comment, and the end of the line. -/
def onLine {α : Type} (r : Reader α) : Reader α :=
  endOfLine (((r.skip blanks).thenMaybe comment).map Prod.fst)

def header : Reader Statement :=
  let single := ((exactly '[').after key).before (exactly ']')
  let double := ((word '[' ['[']).after key).before (word ']' [']'])
  (double.map fun (path, key) => .arrayHeader path key).orElse
    (single.map fun (path, key) => .header path key)

/-- Reads one line, of which the blanks in front are skipped. -/
def statement : Reader Statement :=
  (newline.map fun _ => .blank).orElse <| onLine <|
    (comment.map fun _ => .blank).orElse <| header.orElse <|
      (pair (value maxDepth)).map Statement.pair

/-! ## Documents -/

/-- A header and the pairs below it. -/
structure Section where
  path : List String
  key : String
  -- Whether the header has double brackets.
  appends : Bool
  pairs : List Pair

/-- The pairs in front of the first header, and the sections. -/
def sections : List Statement → List Pair × List Section
  | [] => ([], [])
  | statement :: rest =>
      let (pairs, later) := sections rest
      match statement with
      | .pair p => (p :: pairs, later)
      | .header path key => ([], ⟨path, key, false, pairs⟩ :: later)
      | .arrayHeader path key => ([], ⟨path, key, true, pairs⟩ :: later)
      | .blank => (pairs, later)

def Section.addTo? (entries : Entries) (s : Section) : Option Entries :=
  let change := if s.appends then Entries.append? s.key s.pairs else Entries.open? s.key s.pairs
  Entries.within? change s.path entries

def build? (statements : List Statement) : Option Entries := do
  let (pairs, sections) := sections statements
  let top ← Entries.fill? pairs []
  sections.foldlM Section.addTo? top

def withoutMark : List Char → List Char
  | '\ufeff' :: r => r
  | cs => cs

/-- The table that a text describes, if it is a well-formed document. -/
def parse? (text : String) : Option Entries := do
  let statements ← Text.Reader.toEnd? blanks statement (withoutMark text.toList)
  build? statements

end Toml
end BuildStamp
