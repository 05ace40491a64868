import BuildStamp.Time

/-!
# BuildInfo — what one build is stamped with, and the forms it is written in

The C header has five lines: a comment, an include guard, and one definition for each part of the
build info.  A value stands in a string literal, with the four characters escaped that would end
the literal or the line.  The JSON object has one line for each member, indented by two spaces.  A
string escapes the quote, the backslash and the control characters below the space, five of these by
a letter and the others by their number; everything else stands for itself.

* `BuildInfo` — the time, the version and the commit, as texts;
* `Header.escapeChar` / `Header.escape` — a value inside its literal;
* `Header.unescape?` — reads a literal's body back;
* `Header.render` — the text of the header;
* `Json.string` — a string literal;
* `Json.render` — the text of the object.
-/

namespace BuildStamp

/-- The stamp of one build. -/
structure BuildInfo where
  buildTime : String
  version : String
  commit : String
  deriving DecidableEq, Repr

def unknownCommit : String := "unknown"

namespace BuildInfo

/-- The info of a build at time `t`. -/
def ofTime (t : LocalTime) (version commit : String) : BuildInfo :=
  ⟨t.text, version, commit⟩

end BuildInfo

/-! ## The C header -/

namespace Header

def escapeChar (c : Char) : List Char :=
  if c = '\\' then ['\\', '\\']
  else if c = '"' then ['\\', '"']
  else if c = '\n' then ['\\', 'n']
  else if c = '\r' then ['\\', 'r']
  else [c]

def escape (value : String) : String :=
  String.ofList (value.toList.flatMap escapeChar)

/-- Reads the body of a literal back.  A bare quote, line feed or carriage return, and an escape
other than the four, is in no body. -/
def unescapeList? : List Char → Option (List Char)
  | [] => some []
  | '\\' :: '\\' :: r => (unescapeList? r).map ('\\' :: ·)
  | '\\' :: '"' :: r => (unescapeList? r).map ('"' :: ·)
  | '\\' :: 'n' :: r => (unescapeList? r).map ('\n' :: ·)
  | '\\' :: 'r' :: r => (unescapeList? r).map ('\r' :: ·)
  | c :: r =>
      if c = '\\' ∨ c = '"' ∨ c = '\n' ∨ c = '\r' then none else (unescapeList? r).map (c :: ·)

def unescape? (body : String) : Option String :=
  (unescapeList? body.toList).map String.ofList

def definition (name value : String) : String :=
  "#define " ++ name ++ " \"" ++ escape value ++ "\"\n"

def render (info : BuildInfo) : String :=
  "// Auto-generated build info\n" ++ "#pragma once\n" ++
    definition "BUILD_TIME" info.buildTime ++
    definition "BUILD_VERSION" info.version ++
    definition "BUILD_COMMIT" info.commit

end Header

/-! ## The JSON object -/

namespace Json

/-- The four hexadecimal digits of a number below 65536. -/
def fourDigits (n : Nat) : List Char :=
  [n / 4096 % 16, n / 256 % 16, n / 16 % 16, n % 16].map Nat.digitChar

def escapeChar (c : Char) : List Char :=
  if c = '"' then ['\\', '"']
  else if c = '\\' then ['\\', '\\']
  else if c = '\x08' then ['\\', 'b']
  else if c = '\x0c' then ['\\', 'f']
  else if c = '\n' then ['\\', 'n']
  else if c = '\r' then ['\\', 'r']
  else if c = '\t' then ['\\', 't']
  else if c < ' ' then '\\' :: 'u' :: fourDigits c.toNat
  else [c]

def string (value : String) : String :=
  String.ofList ('"' :: (value.toList.flatMap escapeChar ++ ['"']))

/-- One member and the comma after it, if there is one. -/
def member (name value comma : String) : String :=
  "  " ++ string name ++ ": " ++ string value ++ comma ++ "\n"

/-- The object, without a line end after it. -/
def render (info : BuildInfo) : String :=
  "\x7b\n" ++ member "build_time" info.buildTime "," ++ member "version" info.version "," ++
    member "commit" info.commit "" ++ "\x7d"

end Json
end BuildStamp
