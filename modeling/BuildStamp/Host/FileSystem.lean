import BuildStamp.Host.IoError
import BuildStamp.Host.Path

/-!
# FileSystem — directories and files

A file system is a finite map from places to files and directories, a place being the names on the
way from the root.  There are no links, so each place has one name, and a path leads to a place by
its segments alone.

* `FileSystem.nodeAt?`, `FileSystem.put` — the map;
* `FileSystem.resolve` — the place of a path that leads to something;
* `FileSystem.writeTarget` — the place of a path at which a file can be written;
* `FileSystem.read`, `FileSystem.write`, `FileSystem.directoryAt`, `FileSystem.has`,
  `FileSystem.makeDirectories`, `FileSystem.listing` — the operations.
-/

namespace BuildStamp

-- Contents are compared as the core library does it, also where a module imports more than that.
local instance (priority := 100000) sameBytes : DecidableEq ByteArray :=
  ByteArray.instDecidableEq

/-- What stands at a place. -/
inductive FileSystem.Node where
  | directory
  | file (content : ByteArray) (executable : Bool)
  deriving DecidableEq

abbrev Place := List String

/-- Directories and files. -/
structure FileSystem where
  -- What stands at each place but the root, which is always a directory.
  nodes : List (Place × FileSystem.Node)

namespace FileSystem

/-! ## The map -/

def nodeAt? (fs : FileSystem) (place : Place) : Option Node :=
  if place = [] then some .directory else fs.nodes.lookup place

/-- Replaces the entry of a place, or adds one at the end. -/
def putEntry (place : Place) (node : Node) : List (Place × Node) → List (Place × Node)
  | [] => [(place, node)]
  | (p, n) :: rest => if p = place then (p, node) :: rest else (p, n) :: putEntry place node rest

/-- Lets `node` stand at a place. -/
def put (fs : FileSystem) (place : Place) (node : Node) : FileSystem :=
  ⟨putEntry place node fs.nodes⟩

theorem lookup_putEntry (place other : Place) (node : Node)
    (entries : List (Place × FileSystem.Node)) :
    (putEntry place node entries).lookup other =
      if other = place then some node else entries.lookup other := by
  induction entries with
  | nil =>
      by_cases h : other = place
      · simp [putEntry, h]
      · have hb : (other == place) = false := by simp [h]
        simp [putEntry, List.lookup_cons, h, hb]
  | cons e rest ih =>
      obtain ⟨p, n⟩ := e
      by_cases hp : p = place
      · by_cases h : other = p
        · simp [putEntry, hp, h]
        · have hne : ¬other = place := hp ▸ h
          have hb : (other == place) = false := by simp [hne]
          simp [putEntry, List.lookup_cons, hp, hb, hne]
      · by_cases h : other = p
        · simp [putEntry, hp, h]
        · have hb : (other == p) = false := by simp [h]
          simp [putEntry, List.lookup_cons, hp, hb, ih]

/-- Putting a node changes its own place and no other. -/
theorem nodeAt?_put (fs : FileSystem) (place other : Place) (node : Node) (h : place ≠ []) :
    (fs.put place node).nodeAt? other = if other = place then some node else fs.nodeAt? other := by
  by_cases ho : other = []
  · subst ho
    simp [nodeAt?, Ne.symm h]
  · simp [nodeAt?, put, ho, lookup_putEntry]

/-! ## Places of paths -/

/-- The longest name of an entry, in bytes. -/
def maxNameBytes : Nat := 255

def maxPathBytes : Nat := 4096

def enter (fs : FileSystem) (place : Place) : Except IoError Unit :=
  match fs.nodeAt? place with
  | some .directory => .ok ()
  | some (.file ..) => .error .notDirectory
  | none => .error .notFound

def step (fs : FileSystem) (place : Place) (segment : List Char) : Except IoError Place := do
  fs.enter place
  if Path.isFiller segment then return place
  if segment = ['.', '.'] then return place.dropLast
  let name := String.ofList segment
  if maxNameBytes < name.utf8ByteSize then throw .nameTooLong
  match fs.nodeAt? (place ++ [name]) with
  | some _ => return place ++ [name]
  | none => throw .notFound

/-- Refuses the paths of which the system looks at no segment. -/
def checkPath (p : Path) : Except IoError Unit :=
  if p.text.toList.contains '\x00' then .error .nulInPath
  else if p.text.isEmpty then .error .notFound
  else if maxPathBytes ≤ p.text.utf8ByteSize then .error .nameTooLong
  else .ok ()

def startOf (cwd : Place) (p : Path) : Place :=
  if p.isAbsolute then [] else cwd

/-- The place that a path leads to from the directory `cwd`. -/
def resolve (fs : FileSystem) (cwd : Place) (p : Path) : Except IoError Place := do
  checkPath p
  (Path.segments p.text.toList).foldlM fs.step (startOf cwd p)

/-- The place at which a file can be written.  It need not be there, but the directory it is in
must.  A path that ends in a slash, a dot or two dots names a directory. -/
def writeTarget (fs : FileSystem) (cwd : Place) (p : Path) : Except IoError Place := do
  checkPath p
  let segments := Path.segments p.text.toList
  let named := (segments.reverse.dropWhile (· == [])).reverse
  let place ← named.dropLast.foldlM fs.step (startOf cwd p)
  fs.enter place
  match named.getLast? with
  | none => throw .isDirectory
  | some last =>
      if named.length < segments.length ∨ last = ['.'] ∨ last = ['.', '.'] then throw .isDirectory
      let name := String.ofList last
      if maxNameBytes < name.utf8ByteSize then throw .nameTooLong
      match fs.nodeAt? (place ++ [name]) with
      | some .directory => throw .isDirectory
      | _ => return place ++ [name]

/-! ## Operations -/

def read (fs : FileSystem) (cwd : Place) (p : Path) : Except IoError ByteArray := do
  match fs.nodeAt? (← fs.resolve cwd p) with
  | some (.file content _) => return content
  | some .directory => throw .isDirectory
  | none => throw .notFound

def readText (fs : FileSystem) (cwd : Place) (p : Path) : Except IoError String := do
  match String.fromUTF8? (← fs.read cwd p) with
  | some text => return text
  | none => throw .notUtf8

def isExecutable (fs : FileSystem) (place : Place) : Bool :=
  match fs.nodeAt? place with
  | some (.file _ executable) => executable
  | _ => false

def write (fs : FileSystem) (cwd : Place) (p : Path) (content : ByteArray) :
    Except IoError FileSystem := do
  let place ← fs.writeTarget cwd p
  return fs.put place (.file content (fs.isExecutable place))

/-- Replaces the content of a file by a text or makes a new one. -/
def writeText (fs : FileSystem) (cwd : Place) (p : Path) (text : String) :
    Except IoError FileSystem :=
  fs.write cwd p text.toUTF8

/-- The directory that a path leads to, to be worked in. -/
def directoryAt (fs : FileSystem) (cwd : Place) (p : Path) : Except IoError Place := do
  let place ← fs.resolve cwd p
  fs.enter place
  return place

def has (fs : FileSystem) (cwd : Place) (p : Path) : Bool :=
  (fs.resolve cwd p).isOk

def hasDirectory (fs : FileSystem) (cwd : Place) (p : Path) : Bool :=
  match fs.resolve cwd p with
  | .ok place => fs.nodeAt? place == some .directory
  | .error _ => false

def makeExecutable (fs : FileSystem) (cwd : Place) (p : Path) : Except IoError FileSystem := do
  let place ← fs.resolve cwd p
  match fs.nodeAt? place with
  | some (.file content _) => return fs.put place (.file content true)
  | _ => return fs

/-! ## Directories -/

def makeDirectory (fs : FileSystem) (cwd : Place) (p : Path) : Except IoError FileSystem := do
  checkPath p
  let named := ((Path.segments p.text.toList).reverse.dropWhile (· == [])).reverse
  let place ← named.dropLast.foldlM fs.step (startOf cwd p)
  fs.enter place
  match named.getLast? with
  | none => throw .alreadyThere
  | some last =>
      if last = ['.'] ∨ last = ['.', '.'] then throw .alreadyThere
      let name := String.ofList last
      if maxNameBytes < name.utf8ByteSize then throw .nameTooLong
      match fs.nodeAt? (place ++ [name]) with
      | some _ => throw .alreadyThere
      | none => return fs.put (place ++ [name]) .directory

/-- A directory and the directories it lies in, at most `bound` of them, as far as a path names
them. -/
def chain : Nat → Path → List Path
  | 0, _ => []
  | bound + 1, p =>
      if p.text = "" then []
      else
        match p.parent? with
        | some above => p :: chain bound above
        | none => []

/-- What the attempt to make a directory leaves: nothing is refused where one is there already. -/
def settleDirectory (fs : FileSystem) (cwd : Place) (p : Path) :
    Except IoError FileSystem → FileSystem × Option IoError
  | .ok made => (made, none)
  | .error e => (fs, if fs.hasDirectory cwd p then none else some e)

/-- Makes the first of some directories, each of which lies in the next.  What was made stays even
if a later one is refused. -/
def makeChain (fs : FileSystem) (cwd : Place) : List Path → FileSystem × Option IoError
  | [] => (fs, none)
  | p :: above =>
      match fs.makeDirectory cwd p with
      | .error (.os 2) =>
          match makeChain fs cwd above with
          | (fs, none) => fs.settleDirectory cwd p (fs.makeDirectory cwd p)
          | refused => refused
      | result => fs.settleDirectory cwd p result

/-- Makes a directory and those it lies in, as far as they are not there. -/
def makeDirectories (fs : FileSystem) (cwd : Place) (p : Path) : FileSystem × Option IoError :=
  fs.makeChain cwd (chain p.text.length p)

/-- The names of all that lies below a directory, seen from there and sorted.  The name of a
directory ends in a slash. -/
def listing (fs : FileSystem) (cwd : Place) : List String :=
  let below := fs.nodes.filterMap fun (place, node) =>
    if cwd.isPrefixOf place && place != cwd then
      let name := "/".intercalate (place.drop cwd.length)
      some (if node == .directory then name ++ "/" else name)
    else none
  below.mergeSort fun a b => a ≤ b

end FileSystem
end BuildStamp
