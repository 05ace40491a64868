import BuildStamp.Host.FileSystem
import BuildStamp.Rehearsal.Octets

/-!
# Pattern — texts with wildcards, and the files that they fit

A star stands for any row of characters, a question mark for any one character, and brackets for
one character of a class.  Characters that were quoted stand for themselves.

* `Glyph` — a character that may be quoted;
* `Mark`, `Pattern`, `Pattern.ofGlyphs` — a pattern;
* `Pattern.fits` — whether it fits a text;
* `Pattern.withoutFront`, `Pattern.withoutBack` — a text without a part that a pattern fits;
* `Match.hasWildcards` — whether a field is a pattern;
* `Match.paths` — the files that it fits, sorted by their bytes.
-/

namespace BuildStamp
namespace Rehearsal

/-- A character that may be quoted. -/
structure Glyph where
  char : Char
  isQuoted : Bool
  deriving DecidableEq, Repr

namespace Glyph

def text (gs : List Glyph) : String :=
  String.ofList (gs.map (·.char))

def isPlain (g : Glyph) (c : Char) : Bool :=
  !g.isQuoted && g.char = c

end Glyph

/-! ## Patterns -/

/-- A part of a pattern. -/
inductive Mark where
  | one (c : Char)
  | any
  | row
  -- One character of these ranges and classes, or of none of them.
  | among (isComplement : Bool) (ranges : List (Char × Char)) (classes : List String)
  deriving DecidableEq, Repr

def isOfClass (c : Char) (name : String) : Bool :=
  match name with
  | "alpha" => c.isAlpha
  | "digit" => c.isDigit
  | "alnum" => c.isAlphanum
  | "upper" => c.isUpper
  | "lower" => c.isLower
  | "space" => c = ' ' || ('\t' ≤ c && c ≤ '\x0d')
  | "blank" => c = ' ' || c = '\t'
  | "cntrl" => c < ' ' || c = '\x7f'
  | "graph" => '!' ≤ c && c ≤ '~'
  | "print" => ' ' ≤ c && c ≤ '~'
  | "punct" => '!' ≤ c && c ≤ '~' && !c.isAlphanum
  | "xdigit" => c.isDigit || ('a' ≤ c.toLower && c.toLower ≤ 'f')
  | _ => false

def classNames : List String :=
  ["alpha", "digit", "alnum", "upper", "lower", "space", "blank", "cntrl", "graph", "print",
    "punct", "xdigit"]

/-- The rank of a byte among the ends of ranges, where those of the upper half come first. -/
def rankOf (c : Char) : Nat :=
  (c.toNat + 128) % 256

def Mark.fits (c : Char) : Mark → Bool
  | .one d => c = d
  | .any => true
  | .row => true
  | .among isComplement ranges classes =>
      isComplement !=
        (ranges.any (fun (low, high) => rankOf low ≤ rankOf c && rankOf c ≤ rankOf high) ||
          classes.any (isOfClass c))

abbrev Pattern := List Mark

namespace Pattern

def plain (cs : List Char) : Pattern :=
  cs.map .one

/-- A class of a name, and what is behind it. -/
def named? (gs : List Glyph) : Option (String × List Glyph) :=
  match gs with
  | colon :: rest =>
      let (letters, after) := rest.span fun g => g.char.isAlpha
      let name := Glyph.text letters
      match after with
      | last :: bracket :: after =>
          if colon.isPlain ':' && last.isPlain ':' && bracket.isPlain ']' &&
              classNames.contains name then
            some (name, after)
          else none
      | _ => none
  | [] => none

/-- What is between brackets: ranges, classes and what is behind the closing bracket.  A bracket
that comes first does not close. -/
def members? : Nat → Bool → List Glyph → Option (List (Char × Char) × List String × List Glyph)
  | 0, _, _ => none
  | _, _, [] => none
  | bound + 1, isFirst, g :: rest =>
      if g.isPlain ']' && !isFirst then some ([], [], rest)
      else
        match if g.isPlain '[' then named? rest else none with
        | some (name, rest) =>
            (members? bound false rest).map fun (ranges, classes, rest) =>
              (ranges, name :: classes, rest)
        | none =>
            let (low, rest) := unescaped g rest
            let add (high : Char) (rest : List Glyph) :=
              (members? bound false rest).map fun (ranges, classes, rest) =>
                ((low, high) :: ranges, classes, rest)
            match rest with
            | dash :: h :: more =>
                if dash.isPlain '-' && !h.isPlain ']' then
                  let (high, more) := unescaped h more
                  add high more
                else add low rest
            | _ => add low rest
where
  /-- The character that a glyph stands for, where a backslash quotes the next one. -/
  unescaped (g : Glyph) (rest : List Glyph) : Char × List Glyph :=
    match rest with
    | next :: more => if g.isPlain '\\' then (next.char, more) else (g.char, rest)
    | [] => (g.char, [])

def ofGlyphsUpTo : Nat → List Glyph → Pattern
  | 0, _ => []
  | _, [] => []
  | bound + 1, g :: rest =>
      if g.isPlain '*' then .row :: ofGlyphsUpTo bound rest
      else if g.isPlain '?' then .any :: ofGlyphsUpTo bound rest
      else if g.isPlain '\\' then
        match rest with
        | next :: more => .one next.char :: ofGlyphsUpTo bound more
        | [] => [.one '\\']
      else if g.isPlain '[' then
        let isComplement := rest.head?.any (·.isPlain '!')
        match members? (rest.length + 1) true (if isComplement then rest.drop 1 else rest) with
        | some (ranges, classes, more) =>
            .among isComplement ranges classes :: ofGlyphsUpTo bound more
        | none => .one '[' :: ofGlyphsUpTo bound rest
      else .one g.char :: ofGlyphsUpTo bound rest

def ofGlyphs (gs : List Glyph) : Pattern :=
  ofGlyphsUpTo gs.length gs

/-- The ends of a text, the text itself among them. -/
def ends : List Char → List (List Char)
  | [] => [[]]
  | c :: rest => (c :: rest) :: ends rest

def fits : Pattern → List Char → Bool
  | [], cs => cs.isEmpty
  | .row :: rest, cs => (ends cs).any (fits rest)
  | mark :: rest, c :: cs => mark.fits c && fits rest cs
  | _ :: _, [] => false

/-! ## Cutting -/

/-- Whether a pattern fits a text up to the first zero character, which stands between arguments. -/
def fitsFirst (p : Pattern) (cs : List Char) : Bool :=
  p.fits (cs.takeWhile (· ≠ '\x00'))

/-- A text without its shortest or longest beginning that a pattern fits. -/
def withoutFront (p : Pattern) (isLongest : Bool) (cs : List Char) : List Char :=
  let lengths := List.range (cs.length + 1)
  match (if isLongest then lengths.reverse else lengths).find? fun n => p.fitsFirst (cs.take n) with
  | some n => cs.drop n
  | none => cs

/-- A text without its shortest or longest end that a pattern fits. -/
def withoutBack (p : Pattern) (isLongest : Bool) (cs : List Char) : List Char :=
  let lengths := List.range (cs.length + 1)
  match (if isLongest then lengths else lengths.reverse).find? fun n => p.fitsFirst (cs.drop n) with
  | some n => cs.take n
  | none => cs

end Pattern

namespace Match

/-! ## Files that a pattern fits -/

/-- Passes over a character, which a backslash may quote. -/
def skipOne (gs : List Glyph) : List Glyph :=
  match gs with
  | g :: rest => if g.isPlain '\\' && rest ≠ [] then rest.drop 1 else rest
  | [] => []

def isClosed : Nat → List Glyph → Bool
  | 0, _ => false
  | _, [] => false
  | bound + 1, g :: rest =>
      if g.isPlain ']' then true
      else if g.char = '/' then false
      else isClosed bound (skipOne (g :: rest))

def beginsWild : List Glyph → Bool
  | [] => false
  | g :: rest =>
      if g.isPlain '*' || g.isPlain '?' then true
      else if g.isPlain '[' then
        let rest := if rest.head?.any (·.isPlain '!') then rest.drop 1 else rest
        rest.head?.any (·.char ≠ '/') && isClosed (rest.length + 1) (skipOne rest)
      else false

def isWildUpTo : Nat → List Glyph → Bool
  | 0, _ => false
  | _, [] => false
  | bound + 1, gs => beginsWild gs || isWildUpTo bound (skipOne gs)

def isWild (gs : List Glyph) : Bool :=
  isWildUpTo gs.length gs

def hasWildcards (field : List Glyph) : Bool :=
  field.any fun g => g.isPlain '*' || g.isPlain '?' || g.isPlain '['

/-- The text of characters without the backslashes that quote others. -/
def literalUpTo : Nat → List Glyph → List Char
  | 0, _ => []
  | _, [] => []
  | bound + 1, g :: rest =>
      match rest with
      | next :: more =>
          if g.isPlain '\\' then next.char :: literalUpTo bound more
          else g.char :: literalUpTo bound rest
      | [] => [g.char]

/-- The text of characters without the backslashes that quote others. -/
def literal (gs : List Glyph) : String :=
  String.ofList (literalUpTo gs.length gs)

def namesIn (files : FileSystem) (place : Place) : List String :=
  files.nodes.filterMap fun (p, _) =>
    match p.getLast? with
    | some name => if p.dropLast = place then some (Octets.spell name) else none
    | none => none

def placeOf? (files : FileSystem) (place : Place) (path : String) : Option Place := do
  let path ← Octets.read? path
  (files.resolve place ⟨path⟩).toOption

def fitting (files : FileSystem) (place : Place) (path : String) (part : List Glyph) :
    List String :=
  match placeOf? files place (if path = "" then "." else path) with
  | none => []
  | some directory =>
      if files.nodeAt? directory ≠ some .directory then []
      else
        let isDotted := (literal part).toList.head? = some '.'
        let all := if isDotted then "." :: ".." :: namesIn files directory
          else namesIn files directory
        let pattern := Pattern.ofGlyphs part
        all.filter fun name =>
          (isDotted || name.toList.head? ≠ some '.') && pattern.fits name.toList

/-- Some characters up to the last slash before their first wildcard, the part with it, and the rest
from the next slash on. -/
def cutUpTo : Nat → List Glyph → List Glyph → Option (List Glyph × List Glyph × List Glyph)
  | 0, _, _ => none
  | _, _, [] => none
  | bound + 1, before, g :: rest =>
      if g.char = '/' then cutUpTo bound (before ++ [g]) rest
      else
        let (part, behind) := (g :: rest).span (·.char ≠ '/')
        if isWild part then some (before, part, behind)
        else cutUpTo bound (before ++ part) behind

/-- The paths that begin with some text and go on with what a pattern fits. -/
def pathsFrom (files : FileSystem) (place : Place) : Nat → String → List Glyph → List String
  | 0, _, _ => []
  | bound + 1, start, gs =>
      match cutUpTo (gs.length + 1) [] gs with
      | none =>
          let path := start ++ literal gs
          if start ≠ "" && (placeOf? files place path).isSome then [path] else []
      | some (before, part, behind) =>
          let directory := start ++ literal before
          (fitting files place directory part).flatMap fun name =>
            match behind with
            | [] => [directory ++ name]
            | _ :: rest => pathsFrom files place bound (directory ++ name ++ "/") rest

/-- The paths that a pattern fits, sorted by their bytes. -/
def paths (files : FileSystem) (place : Place) (pattern : List Glyph) : List String :=
  (pathsFrom files place (pattern.length + 1) "" pattern).mergeSort fun a b => a ≤ b

end Match
end Rehearsal
end BuildStamp
