/-!
# Path — file paths

A path is a Unicode text, which is what command lines, documents and messages hold.  It is joined
and cut as text, so that a message shows it as it was given; what it means is read off its
components.

The system has paths that are no texts, too, as it takes a path for any row of octets.  `RawPath`
has all of them, joined and cut in the same way.

* `Path.segments` — the pieces between the slashes, also the empty ones;
* `Path.components` — the pieces that matter;
* `Path.join`, `Path.parent?` — one path below another, and the path above one;
* `Path.expandTilde` — replaces a leading `~` by a home directory;
* `RawPath` — paths as rows of octets, with `RawPath.ofPath` and `RawPath.toPath?`;
* `RawPath.join`, `RawPath.parent?` — the same for them.
-/

namespace BuildStamp

/-- A file path that is a Unicode text. -/
structure Path where
  text : String
  deriving DecidableEq, Repr

namespace Path

/-! ## Segments -/

/-- Puts a character in front of the first of some segments. -/
def consFirst (c : Char) : List (List Char) → List (List Char)
  | [] => [[c]]
  | first :: rest => (c :: first) :: rest

def segments : List Char → List (List Char)
  | [] => [[]]
  | c :: r => if c = '/' then [] :: segments r else consFirst c (segments r)

def ofSegments : List (List Char) → List Char
  | [] => []
  | [s] => s
  | s :: t :: r => s ++ '/' :: ofSegments (t :: r)

theorem segments_ne_nil (cs : List Char) : segments cs ≠ [] := by
  cases cs with
  | nil => simp [segments]
  | cons c r =>
      by_cases h : c = '/'
      · simp [segments, h]
      · cases hs : segments r <;> simp [segments, h, hs, consFirst]

theorem ofSegments_segments (cs : List Char) : ofSegments (segments cs) = cs := by
  induction cs with
  | nil => rfl
  | cons c r ih =>
      obtain ⟨s, t, hs⟩ := List.exists_cons_of_ne_nil (segments_ne_nil r)
      by_cases h : c = '/'
      · rw [hs] at ih
        simp [segments, h, hs, ofSegments, ih]
      · rw [hs] at ih
        cases t <;> simp_all [segments, consFirst, ofSegments]

/-! ## Components -/

/-- What a path leads through. -/
inductive Component where
  | root
  -- The directory the path starts in, written out.
  | current
  | parent
  | name (text : String)
  deriving DecidableEq, Repr

/-- Segments that lead nowhere: the empty one and the dot. -/
def isFiller (segment : List Char) : Bool :=
  segment == [] || segment == ['.']

def componentOf? (segment : List Char) : Option Component :=
  if isFiller segment then none
  else if segment = ['.', '.'] then some .parent
  else some (.name (String.ofList segment))

def isAbsolute (p : Path) : Bool :=
  p.text.toList.head? == some '/'

/-- The components: fillers are left out, but for a dot that begins a relative path. -/
def components (p : Path) : List Component :=
  match segments p.text.toList with
  | [] => []
  | first :: rest =>
      let start :=
        if p.isAbsolute then [Component.root]
        else if first = ['.'] then [Component.current]
        else (componentOf? first).toList
      start ++ rest.filterMap componentOf?

/-! ## Joining and cutting -/

/-- The path `p` seen from `base`.  An absolute path stays; otherwise exactly one slash is put
between the two where `base` neither is empty nor brings one. -/
def join (base p : Path) : Path :=
  if p.isAbsolute then p
  else
    let last := base.text.toList.getLast?
    if last = none ∨ last = some '/' then ⟨base.text ++ p.text⟩
    else ⟨base.text ++ "/" ++ p.text⟩

def dropFillers (segments : List (List Char)) : List (List Char) :=
  (segments.reverse.dropWhile isFiller).reverse

/-- The path without its last component.  The root and the empty path have none; the path above a
single relative component is empty. -/
def parent? (p : Path) : Option Path :=
  match segments p.text.toList with
  | [] => none
  | first :: rest =>
      let kept := dropFillers rest
      let above := dropFillers kept.dropLast
      if p.isAbsolute then
        if kept = [] then none
        else if above = [] then some ⟨"/"⟩
        else some ⟨String.ofList (ofSegments (first :: above))⟩
      else if kept ≠ [] then some ⟨String.ofList (ofSegments (first :: above))⟩
      else if first = [] then none
      else some ⟨""⟩

/-- A path that is `~`, or begins with `~/`, with the tilde replaced by the home directory.  All
other paths stay as they are, and so does every path if there is no home directory. -/
def expandTilde (home : Option String) (p : Path) : Path :=
  match p.text.toList, home with
  | ['~'], some h => ⟨h⟩
  | '~' :: '/' :: r, some h => ⟨h ++ String.ofList ('/' :: r)⟩
  | _, _ => p

end Path

/-! ## Paths that are no texts -/

/-- A file path as the system takes it. -/
structure RawPath where
  octets : List UInt8
  deriving DecidableEq, Repr

namespace RawPath

def slash : UInt8 := 47

def dot : UInt8 := 46

def ofPath (p : Path) : RawPath :=
  ⟨p.text.toUTF8.data.toList⟩

/-- The path as a text, if its octets are those of one. -/
def toPath? (p : RawPath) : Option Path :=
  (String.fromUTF8? ⟨p.octets.toArray⟩).map Path.mk

def isAbsolute (p : RawPath) : Bool :=
  p.octets.head? == some slash

/-- The path `p` seen from `base`, as in `Path.join`. -/
def join (base p : RawPath) : RawPath :=
  if p.isAbsolute then p
  else
    let last := base.octets.getLast?
    if last = none ∨ last = some slash then ⟨base.octets ++ p.octets⟩
    else ⟨base.octets ++ slash :: p.octets⟩

def isFiller (segment : List UInt8) : Bool :=
  segment == [] || segment == [dot]

def dropFillers (segments : List (List UInt8)) : List (List UInt8) :=
  (segments.reverse.dropWhile isFiller).reverse

/-- The path without its last component, as in `Path.parent?`. -/
def parent? (p : RawPath) : Option RawPath :=
  match p.octets.splitOn slash with
  | [] => none
  | first :: rest =>
      let kept := dropFillers rest
      let above := dropFillers kept.dropLast
      if p.isAbsolute then
        if kept = [] then none
        else if above = [] then some ⟨[slash]⟩
        else some ⟨[slash].intercalate (first :: above)⟩
      else if kept ≠ [] then some ⟨[slash].intercalate (first :: above)⟩
      else if first = [] then none
      else some ⟨[]⟩

end RawPath
end BuildStamp
