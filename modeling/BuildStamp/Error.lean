import BuildStamp.Host.IoError
import BuildStamp.Host.Path
import BuildStamp.Text.Writing
import BuildStamp.Decimal.Binary64

/-!
# Error — what goes wrong with configurations and headers

* `Toml.Found`, `Toml.Expected`, `Toml.Mismatch` — a value of the wrong type in a document;
* `ConfigFault` — why a configuration is refused;
* `Error` — the errors of the library, each under a heading;
* `Error.message`, `Error.cause?` — their wording, and what caused them.
-/

namespace BuildStamp

/-! ## Values of the wrong type -/

/-- A value, as a mismatch names it. -/
inductive Toml.Found where
  | string (text : String)
  | integer (value : Int)
  | float (value : Binary64)
  | boolean (value : Bool)
  | sequence
  -- A table, or a date or time.
  | map
  deriving DecidableEq, Repr

/-- What a setting must be. -/
inductive Toml.Expected where
  | text
  | path
  | toolSettings
  | natural
  deriving DecidableEq, Repr

/-- A value that is not what its setting must be. -/
structure Toml.Mismatch where
  found : Found
  expected : Expected
  deriving DecidableEq, Repr

namespace Toml

def Found.describe : Found → String
  | .string text => "string " ++ Text.quoted text
  | .integer value => "integer `" ++ Text.integer value ++ "`"
  | .float value => "floating point `" ++ value.text ++ "`"
  | .boolean value => if value then "boolean `true`" else "boolean `false`"
  | .sequence => "sequence"
  | .map => "map"

def Expected.describe : Expected → String
  | .text => "a string"
  | .path => "path string"
  | .toolSettings => "struct GitConfig"
  | .natural => "u64"

/-- The name of a mismatch.  Of a number that should not be negative only the value is wrong, of
all others the type. -/
def Mismatch.describe (m : Mismatch) : String :=
  let wrong :=
    match m.found, m.expected with
    | .integer _, .natural => "invalid value: "
    | _, _ => "invalid type: "
  wrong ++ m.found.describe ++ ", expected " ++ m.expected.describe

end Toml

/-! ## Refused configurations -/

/-- Why a configuration is refused. -/
inductive ConfigFault where
  | malformed
  | mismatch (mismatch : Toml.Mismatch)
  | headerName (name : String)
  | blankHookTarget
  | zeroTimeout
  deriving DecidableEq, Repr

def ConfigFault.describe : ConfigFault → String
  | .malformed => "TOML parse error"
  | .mismatch m => "TOML parse error\n" ++ m.describe ++ "\n"
  | .headerName name => "header_name must be a plain file name, got " ++ Text.quoted name
  | .blankHookTarget => "hook_target must not be empty"
  | .zeroTimeout => "git.timeout_secs must be greater than zero"

/-! ## Errors -/

/-- The headings under which errors are reported. -/
inductive Heading where
  | config
  | io
  | write (path : Path)
  | serialization
  deriving DecidableEq, Repr

def Heading.over (detail : String) : Heading → String
  | .config => "Configuration error: " ++ detail
  | .io => "I/O error: " ++ detail
  | .write path => "Failed to write " ++ path.text ++ ": " ++ detail
  | .serialization => "Serialization error: " ++ detail

/-- The errors of the library. -/
inductive Error where
  | config (fault : ConfigFault)
  | io (cause : IoError)
  | write (path : Path) (cause : IoError)
  | timeoutTooLarge
  | directoryNotText
  deriving DecidableEq, Repr

namespace Error

def heading : Error → Heading
  | .config _ => .config
  | .io _ => .io
  | .write path _ => .write path
  | .timeoutTooLarge => .serialization
  | .directoryNotText => .serialization

def detail : Error → String
  | .config fault => fault.describe
  | .io cause => cause.message
  | .write _ cause => cause.message
  | .timeoutTooLarge => "out-of-range value for u64 type"
  | .directoryNotText => "path contains invalid UTF-8 characters"

def message (e : Error) : String :=
  e.heading.over e.detail

def cause? : Error → Option IoError
  | .io cause => some cause
  | .write _ cause => some cause
  | _ => none

end Error
end BuildStamp
