import BuildStamp.Config
import BuildStamp.Host.Basic
import BuildStamp.Host.IoError
import BuildStamp.Time

/-!
# Lookup — looking a commit up

The tool is started and looked at every 25 milliseconds until it has ended or its time is over.  If
it ended with success its output, which is read all the while, is waited for until the same
deadline; a process that the tool left behind may keep it open.  None of the errors leaves the
generator, which stamps an unknown commit instead.

* `LookupError` — why a commit could not be looked up;
* `CommitLookup` — the command and the time it has;
* `Lookup.poll` — the looks, one after the other;
* `Lookup.classify` — the commit that an output gives;
* `Lookup.conclude` — what the looks and the output come to;
* `Lookup.settledAt` — when all is over;
* `CommitLookup.start`, `CommitLookup.find` — the lookup in a directory.
-/

namespace BuildStamp

/-! ## Errors -/

/-- Why a commit could not be looked up. -/
inductive LookupError where
  | spawn (cause : IoError)
  -- The tool could not be waited for, or its output not be read.
  | wait (cause : IoError)
  -- The tool, or its output, did not end in time.
  | timeout (limit : Duration)
  | failed (status : ExitStatus)
  | invalidOutput
  | emptyOutput
  deriving DecidableEq, Repr

namespace LookupError

def message : LookupError → String
  | .spawn cause => "could not start version-control tool: " ++ cause.message
  | .wait cause => "could not wait for version-control tool: " ++ cause.message
  | .timeout limit => "version-control tool did not finish within " ++ limit.describe
  | .failed status => "version-control tool exited with " ++ status.describe
  | .invalidOutput => "version-control tool produced non UTF-8 output"
  | .emptyOutput => "version-control tool produced no output"

def cause? : LookupError → Option IoError
  | .spawn cause => some cause
  | .wait cause => some cause
  | _ => none

end LookupError

/-! ## What is asked for -/

/-- A command whose output is the commit, and the time it has. -/
structure CommitLookup where
  command : Command
  limit : Duration
  deriving DecidableEq, Repr

def CommitLookup.ofSettings (g : GitSettings) : CommitLookup :=
  ⟨⟨g.program, ["rev-parse", "--short", "HEAD"]⟩, .ofSeconds g.timeoutSeconds⟩

/-- Why a run of the tool is broken off without an error of its own. -/
inductive Abort where
  -- A deadline lies beyond the last instant that the monotonic clock can show.
  | deadlineBeyondClock
  deriving DecidableEq, Repr

namespace Lookup

/-! ## Looking at the child -/

def pollInterval : Nat := 25000000

/-- What the looks end with. -/
inductive Verdict where
  -- The child had ended when it was looked at, at this time.
  | ended (status : ExitStatus) (now : Nat)
  -- The child had not ended when its time was over, and is ended by force at this time.
  | late (now : Nat)
  | refused (cause : IoError) (now : Nat)
  deriving DecidableEq, Repr

/-- The looks from number `count` on, which is taken at time `now`. -/
def poll (schedule : Schedule) (limit : Nat) (child : Child) (count now : Nat) : Verdict :=
  match child.look now with
  | .refused cause => .refused cause now
  | .ended status => .ended status now
  | .running =>
      if limit ≤ now then .late now
      else poll schedule limit child (count + 1) (now + pollInterval + schedule.delay (count + 1))
  termination_by limit - now
  decreasing_by
    have : 0 < pollInterval := by decide
    omega

/-! ## The output -/

/-- The commit that an output gives: all of it, without the blanks at its ends. -/
def classify : Except IoError ByteArray → Except LookupError String
  | .error cause => .error (.wait cause)
  | .ok bytes =>
      match String.fromUTF8? bytes with
      | none => .error .invalidOutput
      | some text =>
          let hash := Text.trim text
          if hash = "" then .error .emptyOutput else .ok hash

/-- What the looks and the output come to.  The output of a child that ended with success is waited
for until its time is over; what has come by then is taken even after that. -/
def conclude (limit : Duration) (child : Child) : Verdict → Except LookupError String
  | .refused cause _ => .error (.wait cause)
  | .late _ => .error (.timeout limit)
  | .ended status now =>
      if !status.isSuccess then .error (.failed status)
      else if child.isComplete (max limit.nanoseconds now) then classify child.output
      else .error (.timeout limit)

/-- When all is over: at the last look, but behind a success when the output is complete or its
time is over. -/
def settledAt (limit : Duration) (child : Child) : Verdict → Nat
  | .refused _ now => now
  | .late now => now
  | .ended status now =>
      if !status.isSuccess then now
      else
        let last := max limit.nanoseconds now
        max now (min last (child.closing.getD last))

def verdict (schedule : Schedule) (limit : Duration) (child : Child) : Verdict :=
  poll schedule limit.nanoseconds child 0 (schedule.delay 0)

def outcome (schedule : Schedule) (limit : Duration) (child : Child) :
    Except LookupError String :=
  conclude limit child (verdict schedule limit child)

/-! ## The deadline -/

def lastClockSecond : Nat := 2 ^ 63 - 1

/-- Whether the clock can show the end of the time that begins now. -/
def deadlineFits (uptime : Nat) (limit : Duration) : Bool :=
  (uptime + limit.nanoseconds) / 1000000000 ≤ lastClockSecond

end Lookup

/-! ## The lookup -/

namespace CommitLookup

/-- What a lookup comes to. -/
structure Found where
  commit : Except LookupError String
  files : FileSystem

/-- Whether a text holds a NUL character, which no command can. -/
def holdsNul (text : String) : Bool :=
  text.toList.contains '\x00'

def start (l : CommitLookup) (host : Host) (files : FileSystem) (directory : Path) : Launch :=
  if holdsNul l.command.program || l.command.arguments.any holdsNul || holdsNul directory.text then
    .error .nulInCommand
  else do
    let place ← files.directoryAt host.workingDirectory directory
    host.programs files place l.command

/-- Looks the commit up in a directory.  The deadline is set only once the child runs, and the run
is broken off if the clock cannot show it. -/
def find (l : CommitLookup) (host : Host) (files : FileSystem) (directory : Path) :
    Except Abort Found :=
  match l.start host files directory with
  | .error cause => .ok ⟨.error (.spawn cause), files⟩
  | .ok child =>
      if Lookup.deadlineFits host.uptime l.limit then
        let settled := Lookup.settledAt l.limit child (Lookup.verdict host.schedule l.limit child)
        .ok ⟨Lookup.outcome host.schedule l.limit child, child.filesAt files settled⟩
      else .error .deadlineBeyondClock

end CommitLookup
end BuildStamp
