import BuildStamp.Host.FileSystem
import BuildStamp.Text.Writing
import BuildStamp.Time

/-!
# Host — what surrounds a run of the tool

A started tool is known by what the lookup sees of it; its times are nanoseconds since its start.
The files, which a run may change, are not part of the host.

* `signalName?` — the names of the numbered signals;
* `ExitStatus` — the endings that a wait reports;
* `ExitStatus.ofWord` — decodes the word in which the system packs them;
* `ExitStatus.describe` — their wording;
* `Command` — a program and its arguments;
* `Child` — when and how it ends, what it writes and when its output is complete;
* `Child.look` — what a look at it shows at a given time;
* `Child.filesAt` — the files as they are at a given time;
* `Launch`, `Programs` — the answer to an attempt to start a command, and what answers it;
* `Environment` — the variables that are looked at;
* `Schedule` — how late the lookup gets to look at its child;
* `Host` — all that a run is given and does not change.
-/

namespace BuildStamp

/-! ## Signals -/

/-- The name of a signal, for those that have one. -/
def signalName? : Nat → Option String
  | 1 => some "SIGHUP"
  | 2 => some "SIGINT"
  | 3 => some "SIGQUIT"
  | 4 => some "SIGILL"
  | 5 => some "SIGTRAP"
  | 6 => some "SIGABRT"
  | 7 => some "SIGBUS"
  | 8 => some "SIGFPE"
  | 9 => some "SIGKILL"
  | 10 => some "SIGUSR1"
  | 11 => some "SIGSEGV"
  | 12 => some "SIGUSR2"
  | 13 => some "SIGPIPE"
  | 14 => some "SIGALRM"
  | 15 => some "SIGTERM"
  | 16 => some "SIGSTKFLT"
  | 17 => some "SIGCHLD"
  | 18 => some "SIGCONT"
  | 19 => some "SIGSTOP"
  | 20 => some "SIGTSTP"
  | 21 => some "SIGTTIN"
  | 22 => some "SIGTTOU"
  | 23 => some "SIGURG"
  | 24 => some "SIGXCPU"
  | 25 => some "SIGXFSZ"
  | 26 => some "SIGVTALRM"
  | 27 => some "SIGPROF"
  | 28 => some "SIGWINCH"
  | 29 => some "SIGIO"
  | 30 => some "SIGPWR"
  | 31 => some "SIGSYS"
  | _ => none

/-- A signal's number, followed by its name in brackets if it has one. -/
def describeSignal (number : Nat) : String :=
  match signalName? number with
  | some name => Text.decimal number ++ " (" ++ name ++ ")"
  | none => Text.decimal number

/-! ## Endings -/

/-- How a child process ended, or what a wait reported in place of an end. -/
inductive ExitStatus where
  | exited (code : Nat)
  -- A signal ended it, and it may have left a core file.
  | signaled (signal : Nat) (core : Bool)
  | stopped (signal : Nat)
  | continued
  -- A word in none of these forms.
  | unrecognised (word : Int)
  deriving DecidableEq, Repr

namespace ExitStatus

def isSuccess (status : ExitStatus) : Bool :=
  status == .exited 0

/-- A 32-bit word holds the ending signal in its low seven bits, the core flag in the eighth, and
the exit code or the stopping signal in the byte above. -/
def ofWord (word : Int) : ExitStatus :=
  let bits := (word % 2 ^ 32).toNat
  let low := bits % 128
  let code := bits / 256 % 256
  if low = 0 then .exited code
  else if low ≠ 127 then .signaled low (bits / 128 % 2 = 1)
  else if bits % 256 = 127 then .stopped code
  else if bits = 0xFFFF then .continued
  else .unrecognised word

def describe : ExitStatus → String
  | .exited code => "exit status: " ++ Text.decimal code
  | .signaled signal false => "signal: " ++ describeSignal signal
  | .signaled signal true => "signal: " ++ describeSignal signal ++ " (core dumped)"
  | .stopped signal => "stopped (not terminated) by signal: " ++ describeSignal signal
  | .continued => "continued (WIFCONTINUED)"
  | .unrecognised word =>
      "unrecognised wait status: " ++ Text.integer word ++ " 0x" ++
        Text.hexadecimal (word % 2 ^ 32).toNat

end ExitStatus

/-! ## Children -/

/-- A program and its arguments. -/
structure Command where
  program : String
  arguments : List String
  deriving DecidableEq, Repr

/-- A tool that was started without input.  Others that it starts may hold its output open after
it ended. -/
structure Child where
  -- When and how it ends by itself, if it does.
  ending : Option (Nat × ExitStatus)
  -- What the reader of its output ends with: all that was written, or a refusal to read.
  output : Except IoError ByteArray
  -- When the output is complete, if it ever is.
  closing : Option Nat
  -- From when on the system refuses to tell whether it ended, if it does.
  lost : Option (Nat × IoError) := none
  -- What it makes of the files and when, in the order of time.
  changes : List (Nat × FileSystem) := []

/-- What a look at a child shows. -/
inductive Look where
  | running
  | ended (status : ExitStatus)
  | refused (cause : IoError)
  deriving DecidableEq, Repr

def Child.look (c : Child) (now : Nat) : Look :=
  match c.lost with
  | some (since, cause) => if since ≤ now then .refused cause else shown
  | none => shown
where
  /-- What the look shows where the system tells. -/
  shown : Look :=
    match c.ending with
    | some (since, status) => if since ≤ now then .ended status else .running
    | none => .running

def Child.isComplete (c : Child) (now : Nat) : Bool :=
  c.closing.any (· ≤ now)

/-- The files as they are at a given time, where they were like this before the child began. -/
def Child.filesAt (c : Child) (before : FileSystem) (now : Nat) : FileSystem :=
  ((c.changes.takeWhile (·.1 ≤ now)).getLast?.map (·.2)).getD before

abbrev Launch := Except IoError Child

/-- What answers an attempt to start a command in a directory. -/
abbrev Programs := FileSystem → Place → Command → Launch

/-! ## Surroundings -/

/-- The variables that are looked at. -/
structure Environment where
  -- The home directory, empty if none is set.
  home : String := ""
  -- The home directory of the account, for where none is set.
  accountHome : Option String := none
  configFile : String := ""
  logFilter : Option String := none
  deriving DecidableEq, Repr

def Environment.homeDirectory (e : Environment) : Option String :=
  if e.home = "" then e.accountHome else some e.home

/-- How late the lookup gets to look at its child: the nanoseconds that pass before its first look
and, beyond the time it sleeps, before each later one. -/
structure Schedule where
  delay : Nat → Nat

def Schedule.prompt : Schedule :=
  ⟨fun _ => 0⟩

/-- All that a run is given and does not change. -/
structure Host where
  environment : Environment
  workingDirectory : Place
  wallClock : Instant
  -- The seconds by which local time is ahead of UTC.
  zone : Int
  -- The nanoseconds that the monotonic clock shows.
  uptime : Nat
  programs : Programs
  schedule : Schedule := .prompt

end BuildStamp
