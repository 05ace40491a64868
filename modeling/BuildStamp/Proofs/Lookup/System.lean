import BuildStamp.Lookup
import Mathlib.Logic.Relation

/-!
# System — the lookup among its neighbours

A lookup shares the machine with the child that it started and with a reader that collects the
child's output.  The three take steps in any order, and the clock may advance between any two of
them, so a look at the child and the reading of the clock behind it are steps of their own.

* `Lookup.Scenario` — the answer to the start of the tool, the time it has and the clock;
* `Lookup.State` — where the child, the reader and the lookup are;
* `Lookup.Around` — the steps of the clock, the child and the reader;
* `Lookup.Own` — the steps of the lookup;
* `Lookup.Run` — the states that a run of the system can reach.

Nothing is said about how long a step may be put off: what holds in every run holds under every
scheduler.  A child may end later than it could, and from the time at which the system refuses to
tell about it, looks may be refused.  The reader always hands its result over in the end, so the
lookup never finds the channel between them abandoned.
-/

namespace BuildStamp
namespace Lookup

/-! ## States -/

/-- What a run is about. -/
structure Scenario where
  launch : Launch
  limit : Duration
  uptime : Nat

/-- How a child came to its end. -/
inductive Ending where
  | byItself (status : ExitStatus)
  | byForce
  deriving DecidableEq, Repr

/-- What the system tells of an end. -/
def Ending.status : Ending → ExitStatus
  | .byItself status => status
  | .byForce => .signaled 9 false

/-- Where the child is. -/
inductive Process where
  | absent
  | running
  -- It has ended, and nobody took notice.
  | ended (ending : Ending)
  -- It has ended, and the lookup was told.
  | reaped (ending : Ending)
  deriving DecidableEq, Repr

/-- Where the reader is. -/
inductive Reader where
  | absent
  | reading
  | finished (result : Except IoError ByteArray)
  | sent (result : Except IoError ByteArray)

/-- Where the lookup is. -/
inductive Position where
  | starting
  | started
  | looking
  | comparing
  -- Asleep until the clock shows this time, at least.
  | sleeping (wake : Nat)
  | killing
  | waiting
  | judging (status : ExitStatus)
  -- Before the clock is read to see how much time is left.
  | measuring
  | turning (remaining : Nat)
  -- Before a look at what the reader handed over; the output is waited for until this time.
  | receiving (last : Nat)
  -- Nothing was there, and the clock is compared with this time.
  | expiring (last : Nat)
  | returned (answer : Except LookupError String)
  | aborted

/-- A state of the system. -/
structure State where
  now : Nat
  startedAt : Nat
  deadline : Option Nat
  -- When the lookup ended the child by force, if it did.
  killedAt : Option Nat
  process : Process
  reader : Reader
  position : Position

/-- The state in which a run begins. -/
def Scenario.initial (s : Scenario) : State :=
  ⟨s.uptime, s.uptime, none, none, .absent, .absent, .starting⟩

/-! ## Steps -/

/-- The steps that the lookup has no part in. -/
inductive Around (s : Scenario) : State → State → Prop where
  -- Time passes.
  | tick (σ : State) (d : Nat) : Around s σ { σ with now := σ.now + d }
  -- The child ends by itself.
  | ends {σ : State} {child : Child} {since : Nat} {status : ExitStatus}
      (hlaunch : s.launch = .ok child) (hending : child.ending = some (since, status))
      (hdue : σ.startedAt + since ≤ σ.now) (hprocess : σ.process = .running) :
      Around s σ { σ with process := .ended (.byItself status) }
  -- The child ends because it is made to.
  | dies {σ : State} {t : Nat} (hkilled : σ.killedAt = some t) (hprocess : σ.process = .running) :
      Around s σ { σ with process := .ended .byForce }
  -- The output comes to its end, or cannot be read on.
  | closes {σ : State} {child : Child} {since : Nat} (hlaunch : s.launch = .ok child)
      (hclosing : child.closing = some since) (hdue : σ.startedAt + since ≤ σ.now)
      (hreader : σ.reader = .reading) : Around s σ { σ with reader := .finished child.output }
  -- The result is handed over.
  | sends {σ : State} {result : Except IoError ByteArray} (hreader : σ.reader = .finished result) :
      Around s σ { σ with reader := .sent result }

/-- The steps of the lookup. -/
inductive Own (s : Scenario) : State → State → Prop where
  -- The tool cannot be started.
  | spawnRefused {σ : State} {cause : IoError} (hlaunch : s.launch = .error cause)
      (hposition : σ.position = .starting) :
      Own s σ { σ with position := .returned (.error (.spawn cause)) }
  -- The tool is started, and a reader with it.
  | spawn {σ : State} {child : Child} (hlaunch : s.launch = .ok child)
      (hposition : σ.position = .starting) :
      Own s σ { σ with startedAt := σ.now, process := .running, reader := .reading,
                       position := .started }
  -- The deadline is set.
  | setDeadline {σ : State} (hposition : σ.position = .started)
      (hfits : deadlineFits σ.now s.limit = true) :
      Own s σ { σ with deadline := some (σ.now + s.limit.nanoseconds), position := .looking }
  -- The clock cannot show the deadline.
  | overflow {σ : State} (hposition : σ.position = .started)
      (hfits : deadlineFits σ.now s.limit = false) : Own s σ { σ with position := .aborted }
  -- The look is refused.
  | lookRefused {σ : State} {child : Child} {since : Nat} {cause : IoError}
      (hposition : σ.position = .looking) (hlaunch : s.launch = .ok child)
      (hlost : child.lost = some (since, cause)) (hdue : σ.startedAt + since ≤ σ.now) :
      Own s σ { σ with position := .returned (.error (.wait cause)) }
  -- The look shows the end of the child.
  | lookEnded {σ : State} {ending : Ending} (hposition : σ.position = .looking)
      (hprocess : σ.process = .ended ending) :
      Own s σ { σ with process := .reaped ending, position := .judging ending.status }
  -- The look shows that the child runs.
  | lookRunning {σ : State} (hposition : σ.position = .looking) (hprocess : σ.process = .running) :
      Own s σ { σ with position := .comparing }
  -- The time is over.
  | late {σ : State} {d : Nat} (hposition : σ.position = .comparing)
      (hdeadline : σ.deadline = some d) (hlate : d ≤ σ.now) :
      Own s σ { σ with position := .killing }
  -- There is time left.
  | early {σ : State} {d : Nat} (hposition : σ.position = .comparing)
      (hdeadline : σ.deadline = some d) (hearly : σ.now < d) :
      Own s σ { σ with position := .sleeping (σ.now + pollInterval) }
  -- The sleep is over.
  | wake {σ : State} {t : Nat} (hposition : σ.position = .sleeping t) (hdue : t ≤ σ.now) :
      Own s σ { σ with position := .looking }
  -- The child is made to end.
  | kill {σ : State} (hposition : σ.position = .killing) :
      Own s σ { σ with killedAt := some σ.now, position := .waiting }
  -- The child cannot be made to end, which nobody takes notice of.
  | killRefused {σ : State} (hposition : σ.position = .killing) :
      Own s σ { σ with position := .waiting }
  -- The wait is over when there is no child left to wait for, whatever it reports.
  | wait {σ : State} {ending : Ending} (hposition : σ.position = .waiting)
      (hprocess : σ.process = .ended ending) :
      Own s σ { σ with process := .reaped ending,
                       position := .returned (.error (.timeout s.limit)) }
  -- The child ended without success.
  | judgeFailed {σ : State} {status : ExitStatus} (hposition : σ.position = .judging status)
      (hstatus : status.isSuccess = false) :
      Own s σ { σ with position := .returned (.error (.failed status)) }
  -- The child ended with success.
  | judgeSuccess {σ : State} {status : ExitStatus} (hposition : σ.position = .judging status)
      (hstatus : status.isSuccess = true) : Own s σ { σ with position := .measuring }
  -- The time that is left is measured, and is nothing behind the deadline.
  | measure {σ : State} {d : Nat} (hposition : σ.position = .measuring)
      (hdeadline : σ.deadline = some d) : Own s σ { σ with position := .turning (d - σ.now) }
  -- The output is waited for from now on.
  | turn {σ : State} {remaining : Nat} (hposition : σ.position = .turning remaining) :
      Own s σ { σ with position := .receiving (σ.now + remaining) }
  -- The result is taken over.
  | take {σ : State} {last : Nat} {result : Except IoError ByteArray}
      (hposition : σ.position = .receiving last) (hreader : σ.reader = .sent result) :
      Own s σ { σ with position := .returned (classify result) }
  -- There is no result yet.
  | miss {σ : State} {last : Nat} (hposition : σ.position = .receiving last)
      (hreader : ∀ result, σ.reader ≠ .sent result) :
      Own s σ { σ with position := .expiring last }
  -- The time for the output is over.
  | expire {σ : State} {last : Nat} (hposition : σ.position = .expiring last)
      (hlate : last ≤ σ.now) :
      Own s σ { σ with position := .returned (.error (.timeout s.limit)) }
  -- There is time left for the output.
  | resume {σ : State} {last : Nat} (hposition : σ.position = .expiring last)
      (hearly : σ.now < last) : Own s σ { σ with position := .receiving last }

/-- The steps of the system. -/
inductive Step (s : Scenario) : State → State → Prop where
  | around {σ τ : State} (h : Around s σ τ) : Step s σ τ
  | own {σ τ : State} (h : Own s σ τ) : Step s σ τ

/-! ## Runs -/

/-- The state can be reached from another one. -/
abbrev Reaches (s : Scenario) : State → State → Prop :=
  Relation.ReflTransGen (Step s)

/-- The state can be reached in a run. -/
abbrev Run (s : Scenario) (σ : State) : Prop :=
  Reaches s s.initial σ

end Lookup
end BuildStamp
