import BuildStamp.BuildInfo
import BuildStamp.Log
import BuildStamp.Lookup

/-!
# Generator — the pre-build step

* `Generator` — the version, the file name and the lookup of a project;
* `Header.write` — writes a header into a directory;
* `Generator.capture` — collects the build info, and changes nothing unless the tool does;
* `Generator.generate` — writes the header, in which an unknown commit stands for one that could
  not be looked up.
-/

namespace BuildStamp

/-- Writes the header into a directory, replacing one that is there. -/
def Header.write (cwd : Place) (files : FileSystem) (directory : Path) (name : String)
    (info : BuildInfo) : Except Error (Path × FileSystem) :=
  let path := directory.join ⟨name⟩
  match files.writeText cwd path (Header.render info) with
  | .ok files => .ok (path, files)
  | .error cause => .error (.write path cause)

/-- The version, the file name and the lookup of a project. -/
structure Generator where
  version : String
  headerName : String
  lookup : CommitLookup
  deriving DecidableEq, Repr

namespace Generator

def ofConfig (c : Config) : Generator :=
  ⟨c.resolvedVersion, c.headerName, .ofSettings c.git⟩

def withLookup (lookup : CommitLookup) (g : Generator) : Generator :=
  { g with lookup := lookup }

/-! ## Collecting -/

def commitOf : Except LookupError String → String
  | .ok hash => hash
  | .error _ => unknownCommit

def lookupEvent (directory : Path) : Except LookupError String → Log.Event
  | .ok hash =>
      ⟨.debug, "fwstamp_core::commit",
        "Commit lookup in " ++ directory.text ++ " returned " ++ hash⟩
  | .error reason =>
      ⟨.debug, "fwstamp_core::generator",
        "Commit lookup failed, using " ++ Text.quoted unknownCommit ++ ": " ++ reason.message⟩

/-- What collecting comes to. -/
structure Capture where
  info : BuildInfo
  -- The files, which the tool of the lookup may have changed.
  files : FileSystem
  events : List Log.Event

/-- Collects the build info, and reports on the lookup. -/
def capture (g : Generator) (host : Host) (files : FileSystem) (directory : Path) :
    Except Abort Capture := do
  let ⟨commit, files⟩ ← g.lookup.find host files directory
  let time := host.wallClock.toLocal host.zone
  return ⟨.ofTime time g.version (commitOf commit), files, [lookupEvent directory commit]⟩

/-! ## Writing -/

def writtenEvent (path : Path) (info : BuildInfo) : Log.Event :=
  ⟨.info, "fwstamp_core::generator",
    "Wrote " ++ path.text ++ " (version " ++ info.version ++ ", commit " ++ info.commit ++ ")"⟩

/-- What a generation ends with: the path of the header or an error, the files after it and the
reports on the way. -/
structure Outcome where
  result : Except Error Path
  files : FileSystem
  events : List Log.Event

def generate (g : Generator) (host : Host) (files : FileSystem) (directory : Path) :
    Except Abort Outcome := do
  let ⟨info, files, events⟩ ← g.capture host files directory
  match Header.write host.workingDirectory files directory g.headerName info with
  | .ok (path, files) => return ⟨.ok path, files, events ++ [writtenEvent path info]⟩
  | .error e => return ⟨.error e, files, events⟩

end Generator
end BuildStamp
