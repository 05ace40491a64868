import BuildStamp.Proofs.Lookup.Invariant
import BuildStamp.Proofs.Lookup.System

/-!
# Safety — what an answer of the lookup guarantees

`CommitLookup.find` computes an answer from a schedule, which says how late every look is.  Each of
its answers is that of a run: the looks are taken one after the other, the clock advances between
them as the schedule says, and the child and the reader take their steps when they are due.  What an
answer guarantees is read off the invariant, in whatever order the lookup, the child and the reader
took their steps.

* `Lookup.Scenario.watching` — the states between two looks;
* `Lookup.reaches_poll` — the looks;
* `Lookup.reaches_conclude` — what they and the output come to;
* `CommitLookup.find_realized` — the whole lookup;
* `Lookup.Run.justified` — every answer is justified by the run that gave it;
* `Lookup.Justified.reaped` — no child is left behind;
* `Lookup.answers_safe` — what each answer guarantees, in every run, the lookup that is carried out
  being one of them.
-/

namespace BuildStamp
namespace Lookup

variable {s : Scenario} {child : Child}

/-! ## Steps put together -/

theorem Own.reaches {σ τ υ : State} (h : Own s σ τ) (hrest : Reaches s τ υ) : Reaches s σ υ :=
  .head (.own h) hrest

theorem Around.reaches {σ τ υ : State} (h : Around s σ τ) (hrest : Reaches s τ υ) :
    Reaches s σ υ :=
  .head (.around h) hrest

/-! ## Looks -/

/-- The state at a position of the looks, this long after the start, while the child runs. -/
def Scenario.watching (s : Scenario) (now : Nat) (position : Position) : State :=
  ⟨s.uptime + now, s.uptime, some (s.uptime + s.limit.nanoseconds), none, .running, .reading,
    position⟩

/-- The state behind the looks. -/
def Scenario.behind (s : Scenario) : Verdict → State
  | .refused cause now => s.watching now (.returned (.error (.wait cause)))
  | .ended status now =>
      { s.watching now (.judging status) with process := .reaped (.byItself status) }
  | .late now =>
      { s.watching now (.returned (.error (.timeout s.limit))) with
        process := .reaped .byForce, killedAt := some (s.uptime + now) }

theorem ending_of_shown {status : ExitStatus} {now : Nat}
    (h : Child.look.shown child now = .ended status) :
    ∃ since, child.ending = some (since, status) ∧ since ≤ now := by
  unfold Child.look.shown at h
  split at h
  · rename_i since other hending
    split at h
    · rename_i hdue
      obtain rfl : other = status := by simpa using h
      exact ⟨since, hending, hdue⟩
    · cases h
  · cases h

theorem shown_ne_refused (child : Child) (now : Nat) (cause : IoError) :
    Child.look.shown child now ≠ .refused cause := by
  unfold Child.look.shown
  split
  · split <;> simp
  · simp

theorem lost_of_look {cause : IoError} {now : Nat} (h : child.look now = .refused cause) :
    ∃ since, child.lost = some (since, cause) ∧ since ≤ now := by
  unfold Child.look at h
  split at h
  · rename_i since other hlost
    split at h
    · rename_i hdue
      obtain rfl : other = cause := by simpa using h
      exact ⟨since, hlost, hdue⟩
    · exact absurd h (shown_ne_refused child now cause)
  · exact absurd h (shown_ne_refused child now cause)

theorem ending_of_look {status : ExitStatus} {now : Nat} (h : child.look now = .ended status) :
    ∃ since, child.ending = some (since, status) ∧ since ≤ now := by
  unfold Child.look at h
  split at h
  · split at h
    · cases h
    · exact ending_of_shown h
  · exact ending_of_shown h

/-- A child that is still running when its time is over is ended by force and waited for. -/
theorem reaches_late {now : Nat} (h : s.limit.nanoseconds ≤ now) :
    Reaches s (s.watching now .looking) (s.behind (.late now)) := by
  have hlate : s.uptime + s.limit.nanoseconds ≤ s.uptime + now := Nat.add_le_add_left h _
  refine (Own.lookRunning rfl rfl).reaches ?_
  refine (Own.late rfl rfl hlate).reaches ?_
  -- The child obeys at once, for nothing in the answer depends on when it does.
  refine (Own.kill rfl).reaches ?_
  refine (Around.dies rfl rfl).reaches ?_
  exact .single (.own (.wait rfl rfl))

/-- Between two looks the lookup sleeps. -/
theorem reaches_next {now : Nat} (h : now < s.limit.nanoseconds) (delay : Nat) :
    Reaches s (s.watching now .looking)
      (s.watching (now + pollInterval + delay) .looking) := by
  have hearly : s.uptime + now < s.uptime + s.limit.nanoseconds := Nat.add_lt_add_left h _
  refine (Own.lookRunning rfl rfl).reaches ?_
  refine (Own.early rfl rfl hearly).reaches ?_
  refine (Around.tick _ (pollInterval + delay)).reaches ?_
  have hdue : s.uptime + now + pollInterval ≤ s.uptime + now + (pollInterval + delay) := by omega
  have hnow : s.uptime + now + (pollInterval + delay) =
      s.uptime + (now + pollInterval + delay) := by omega
  refine (Own.wake rfl hdue).reaches ?_
  simp only [Scenario.watching, hnow]
  exact .refl

/-- The looks are a run. -/
theorem reaches_poll (hlaunch : s.launch = .ok child) (schedule : Schedule) (count now : Nat) :
    Reaches s (s.watching now .looking)
      (s.behind (poll schedule s.limit.nanoseconds child count now)) := by
  -- The induction follows the looks: each of them decides, or leads to the next one.
  induction count, now using poll.induct schedule s.limit.nanoseconds child with
  | case1 count now cause hlook =>
      obtain ⟨since, hlost, hdue⟩ := lost_of_look hlook
      rw [poll, hlook]
      exact .single (.own (.lookRefused rfl hlaunch hlost (Nat.add_le_add_left hdue _)))
  | case2 count now status hlook =>
      obtain ⟨since, hending, hdue⟩ := ending_of_look hlook
      rw [poll, hlook]
      -- Until it is looked at, the child counts as running.
      refine (Around.ends hlaunch hending (Nat.add_le_add_left hdue _) rfl).reaches ?_
      exact .single (.own (.lookEnded rfl rfl))
  | case3 count now hlook hlate =>
      rw [poll, hlook]
      simp only [if_pos hlate]
      exact reaches_late hlate
  | case4 count now hlook hearly ih =>
      rw [poll, hlook]
      simp only [if_neg hearly]
      exact (reaches_next (Nat.lt_of_not_le hearly) _).trans ih

/-! ## The output -/

/-- The state at a position of the wait for the output, when the clock shows this time. -/
def Scenario.collecting (s : Scenario) (status : ExitStatus) (clock : Nat) (reader : Reader)
    (position : Position) : State :=
  ⟨clock, s.uptime, some (s.uptime + s.limit.nanoseconds), none, .reaped (.byItself status), reader,
    position⟩

/-- The output of a child that ended with success is waited for until the deadline. -/
theorem reaches_receiving {status : ExitStatus} (now : Nat) (hstatus : status.isSuccess = true) :
    Reaches s (s.behind (.ended status now))
      (s.collecting status (s.uptime + now) .reading
        (.receiving (s.uptime + max s.limit.nanoseconds now))) := by
  have hlast : s.uptime + now + (s.uptime + s.limit.nanoseconds - (s.uptime + now)) =
      s.uptime + max s.limit.nanoseconds now := by omega
  refine (Own.judgeSuccess rfl hstatus).reaches ?_
  refine (Own.measure rfl rfl).reaches ?_
  refine (Own.turn rfl).reaches ?_
  simp only [Scenario.behind, Scenario.watching, hlast]
  exact .refl

/-- An output that comes in time is taken over. -/
theorem reaches_taken (hlaunch : s.launch = .ok child) {status : ExitStatus} {since : Nat}
    (hclosing : child.closing = some since) (clock : Nat) {last : Nat}
    (hsince : s.uptime + since ≤ last) :
    Reaches s (s.collecting status clock .reading (.receiving last))
      (s.collecting status (clock + last) (.sent child.output)
        (.returned (classify child.output))) := by
  have hdue : s.uptime + since ≤ clock + last := Nat.le_trans hsince (Nat.le_add_left _ _)
  -- All of the time that is left may pass before the reader is done.
  refine (Around.tick _ last).reaches ?_
  refine (Around.closes hlaunch hclosing hdue rfl).reaches ?_
  refine (Around.sends rfl).reaches ?_
  exact .single (.own (.take rfl rfl))

/-- An output that does not come in time is given up. -/
theorem reaches_expired {status : ExitStatus} (clock last : Nat) :
    Reaches s (s.collecting status clock .reading (.receiving last))
      (s.collecting status (clock + last) .reading (.returned (.error (.timeout s.limit)))) := by
  have hreader : ∀ result, Reader.reading ≠ .sent result := by simp
  refine (Own.miss rfl hreader).reaches ?_
  refine (Around.tick _ last).reaches ?_
  exact .single (.own (.expire rfl (Nat.le_add_left _ _)))

/-- What the looks and the output come to is the answer of a run. -/
theorem reaches_conclude (hlaunch : s.launch = .ok child) (v : Verdict) :
    ∃ σ, Reaches s (s.behind v) σ ∧ σ.position = .returned (conclude s.limit child v) := by
  cases v with
  | refused cause now => exact ⟨_, .refl, rfl⟩
  | late now => exact ⟨_, .refl, rfl⟩
  | ended status now =>
      cases hstatus : status.isSuccess with
      | true =>
          -- Only a child that succeeded is asked for its output, which comes in time or does not.
          have hreceiving := reaches_receiving (s := s) now hstatus
          cases hcomplete : child.isComplete (max s.limit.nanoseconds now) with
          | true =>
              obtain ⟨since, hclosing, hsince⟩ : ∃ since, child.closing = some since ∧
                  since ≤ max s.limit.nanoseconds now := by
                simpa only [Child.isComplete, Option.any_eq_true, decide_eq_true_eq]
                  using hcomplete
              have hdue := Nat.add_le_add_left hsince s.uptime
              refine ⟨_, hreceiving.trans (reaches_taken hlaunch hclosing _ hdue), ?_⟩
              simp [conclude, hstatus, hcomplete, Scenario.collecting]
          | false =>
              refine ⟨_, hreceiving.trans (reaches_expired _ _), ?_⟩
              simp [conclude, hstatus, hcomplete, Scenario.collecting]
      | false =>
          refine ⟨_, .single (.own (.judgeFailed rfl hstatus)), ?_⟩
          simp [conclude, hstatus]

/-! ## The lookup -/

/-- What a started child comes to is the answer of a run. -/
theorem reaches_outcome (hlaunch : s.launch = .ok child) (schedule : Schedule)
    (hfits : deadlineFits s.uptime s.limit = true) :
    ∃ σ, Run s σ ∧ σ.position = .returned (outcome schedule s.limit child) := by
  obtain ⟨σ, hconclude, hposition⟩ :=
    reaches_conclude hlaunch (verdict schedule s.limit child)
  refine ⟨σ, ?_, hposition⟩
  have hpoll := reaches_poll hlaunch schedule 0 (schedule.delay 0)
  refine (Own.spawn hlaunch rfl).reaches ?_
  refine (Own.setDeadline rfl hfits).reaches ?_
  refine (Around.tick _ (schedule.delay 0)).reaches ?_
  exact hpoll.trans hconclude

end Lookup

namespace CommitLookup

open Lookup

/-- The scenario of a lookup in a directory. -/
def scenario (l : CommitLookup) (host : Host) (files : FileSystem) (directory : Path) : Scenario :=
  ⟨l.start host files directory, l.limit, host.uptime⟩

/-- Where a run stands at the end, by what is known of the lookup. -/
def lastPosition : Except Abort Found → Position
  | .ok found => .returned found.commit
  | .error _ => .aborted

/-- Every lookup that is carried out is a run. -/
theorem find_realized (l : CommitLookup) (host : Host) (files : FileSystem) (directory : Path) :
    ∃ σ, Run (l.scenario host files directory) σ ∧
      σ.position = lastPosition (l.find host files directory) := by
  cases hlaunch : l.start host files directory with
  | error cause =>
      refine ⟨_, .single (.own (.spawnRefused hlaunch rfl)), ?_⟩
      simp [find, hlaunch, lastPosition]
  | ok child =>
      cases hfits : deadlineFits host.uptime l.limit with
      -- The child has been started already when the clock turns out to be too short.
      | false =>
          refine ⟨_, (Own.spawn hlaunch rfl).reaches (.single (.own (.overflow rfl hfits))), ?_⟩
          simp [find, hlaunch, hfits, lastPosition]
      | true =>
          obtain ⟨σ, hrun, hposition⟩ : ∃ σ, Run (l.scenario host files directory) σ ∧
              σ.position = .returned (outcome host.schedule l.limit child) :=
            reaches_outcome hlaunch host.schedule hfits
          refine ⟨σ, hrun, ?_⟩
          simpa [find, hlaunch, hfits, lastPosition] using hposition

end CommitLookup

namespace Lookup

variable {s : Scenario} {σ : State}

/-! ## What an answer guarantees -/

/-- Every answer is justified by the run that gave it. -/
theorem Run.justified (h : Run s σ) {answer : Except LookupError String}
    (hposition : σ.position = .returned answer) : Justified s σ answer := by
  have hplaced := h.invariant.placed
  unfold Placed at hplaced
  rw [hposition] at hplaced
  exact hplaced

theorem Succeeded.reaped (h : Succeeded s σ) : ∃ ending, σ.process = .reaped ending := by
  obtain ⟨status, -, hended⟩ := h
  exact ⟨.byItself status, hended.reaped⟩

/-- The child was waited for, unless it was not started or the system would not tell about it. -/
theorem Justified.reaped {answer : Except LookupError String} (h : Justified s σ answer)
    (hanswer : ∀ cause, answer ≠ .error (.spawn cause) ∧ answer ≠ .error (.wait cause)) :
    ∃ ending, σ.process = .reaped ending := by
  match answer with
  | .ok hash => exact h.1.reaped
  | .error (.spawn cause) => exact absurd rfl (hanswer cause).1
  | .error (.wait cause) => exact absurd rfl (hanswer cause).2
  | .error (.timeout limit) => exact h.2.2
  | .error (.failed status) => exact ⟨.byItself status, h.2.reaped⟩
  | .error .invalidOutput => exact h.1.reaped
  | .error .emptyOutput => exact h.1.reaped

/-- In every run a commit is the trimmed output, all of it, of a child that ended with success and
that nobody tried to end; a failure is that of a child that ended by itself without success; a
timeout comes only behind the deadline, and so does a kill; and no child is left behind where one
was started and the system would tell about it.  The lookup that is carried out is such a run. -/
theorem answers_safe :
    (∀ (s : Scenario) (σ : State), Run s σ →
      (∀ hash, σ.position = .returned (.ok hash) →
        Succeeded s σ ∧ ∃ bytes text, Printed s σ bytes ∧ String.fromUTF8? bytes = some text ∧
          hash = Text.trim text ∧ Text.IsCoreOf hash text ∧ hash ≠ "") ∧
      (∀ status, σ.position = .returned (.error (.failed status)) →
        status.isSuccess = false ∧ EndedByItself s σ status) ∧
      (∀ limit, σ.position = .returned (.error (.timeout limit)) →
        limit = s.limit ∧ DueBy s σ σ.now) ∧
      (∀ t, σ.killedAt = some t → DueBy s σ t) ∧
      (∀ answer, σ.position = .returned answer →
        (∀ cause, answer ≠ .error (.spawn cause) ∧ answer ≠ .error (.wait cause)) →
        ∃ ending, σ.process = .reaped ending)) ∧
    (∀ (l : CommitLookup) (host : Host) (files : FileSystem) (directory : Path),
      ∃ σ, Run (l.scenario host files directory) σ ∧
        σ.position = CommitLookup.lastPosition (l.find host files directory)) := by
  -- An answer is read off what justifies it; a kill is dated by the invariant itself.
  refine ⟨fun s σ hrun => ⟨?_, ?_, ?_, hrun.invariant.killed, ?_⟩, CommitLookup.find_realized⟩
  · intro hash hposition
    obtain ⟨hended, hne, bytes, text, hprinted, htext, rfl⟩ := hrun.justified hposition
    exact ⟨hended, bytes, text, hprinted, htext, rfl, Text.isCoreOf_trim text, hne⟩
  · intro status hposition
    exact hrun.justified hposition
  · intro limit hposition
    obtain ⟨hlimit, hdue, -⟩ := hrun.justified hposition
    exact ⟨hlimit, hdue⟩
  · intro answer hposition hanswer
    exact (hrun.justified hposition).reaped hanswer

end Lookup
end BuildStamp
