import BuildStamp.Proofs.Lookup.Timely
import Mathlib.Algebra.Order.Floor.Div

/-!
# Looks — how often the lookup looks at its child

Nothing counts the looks.  What ends them is a deadline that is set before the first one: every
sleep brings it nearer by an interval at least, and a look behind it is the last.  So there are at
most as many looks as intervals begin within the time, and one more.  It does not matter how late
the lookup gets to look, what the child does, or whether the time is a whole number of intervals.

* `Lookup.mostLooks` — the bound;
* `Lookup.pollWithin_mostLooks` — the looks that are carried out need no more than that;
* `Lookup.pollWithin_of_running` — a child that never ends takes all of them;
* `Lookup.Counted`, `Lookup.run_iff_counted` — the steps of the system and its runs, with the looks
  counted;
* `Lookup.Paced` — where the clock is, at each position, after so many looks;
* `Lookup.Paced.around`, `Lookup.Paced.own`, `Lookup.CountedRun.paced` — one step keeps the pace,
  and so does every run.
-/

namespace BuildStamp
namespace Lookup

open Relation (ReflTransGen)

/-! ## The bound -/

/-- The looks that a time has room for: one for each interval that begins within it, and one
behind its end. -/
def mostLooks (limit : Duration) : Nat :=
  limit.nanoseconds ⌈/⌉ pollInterval + 1

theorem pollInterval_pos : 0 < pollInterval := by decide

theorem mul_pollInterval_lt_iff (limit : Duration) (n : Nat) :
    n * pollInterval < limit.nanoseconds ↔ n + 1 < mostLooks limit := by
  have hceil : limit.nanoseconds ⌈/⌉ pollInterval ≤ n ↔ limit.nanoseconds ≤ pollInterval * n :=
    ceilDiv_le_iff_le_mul pollInterval_pos
  rw [Nat.mul_comm] at hceil
  unfold mostLooks
  omega

/-! ## The looks that are carried out -/

/-- The looks from number `count` on, which is taken at time `now`, if one of the next few is the
last. -/
def pollWithin (schedule : Schedule) (limit : Nat) (child : Child) :
    (few : Nat) → (count now : Nat) → Option Verdict
  | 0, _, _ => none
  | few + 1, count, now =>
      match child.look now with
      | .refused cause => some (.refused cause now)
      | .ended status => some (.ended status now)
      | .running =>
          if limit ≤ now then some (.late now)
          else
            pollWithin schedule limit child few (count + 1)
              (now + pollInterval + schedule.delay (count + 1))

/-- If so many intervals reach behind the deadline, one look more is enough. -/
theorem pollWithin_eq_poll (schedule : Schedule) {limit : Nat} (child : Child) {few now : Nat}
    (hlimit : limit ≤ now + few * pollInterval) (count : Nat) :
    pollWithin schedule limit child (few + 1) count now =
      some (poll schedule limit child count now) := by
  induction few generalizing count now with
  | zero =>
      -- The deadline has come: this look is the last, whatever it shows.
      have hlate : limit ≤ now := by omega
      rw [pollWithin, poll]
      cases child.look now <;> simp [hlate]
  | succ few ih =>
      -- The sleep takes one interval at least, so the others reach as far as before.
      have hnext :
          limit ≤ now + pollInterval + schedule.delay (count + 1) + few * pollInterval := by
        rw [Nat.succ_mul] at hlimit
        omega
      rw [pollWithin, poll, ih hnext]
      cases child.look now with
      | refused | ended => rfl
      | running => by_cases hlate : limit ≤ now <;> simp [hlate]

/-- The looks that are carried out are within the bound. -/
theorem pollWithin_mostLooks (schedule : Schedule) (limit : Duration) (child : Child) :
    pollWithin schedule limit.nanoseconds child (mostLooks limit) 0 (schedule.delay 0) =
      some (verdict schedule limit child) := by
  have hceil : limit.nanoseconds ≤ pollInterval * (limit.nanoseconds ⌈/⌉ pollInterval) :=
    (ceilDiv_le_iff_le_mul pollInterval_pos).1 (Nat.le_refl _)
  rw [Nat.mul_comm] at hceil
  exact pollWithin_eq_poll schedule child (Nat.le_add_left_of_le hceil) 0

/-- Where nothing is ever late, look number `count` comes `count` intervals after the start. -/
theorem pollWithin_prompt_of_running {child : Child} (hrunning : ∀ now, child.look now = .running)
    {limit : Duration} (few count : Nat) (hfew : count + few < mostLooks limit) :
    pollWithin .prompt limit.nanoseconds child few count (count * pollInterval) = none := by
  induction few generalizing count with
  | zero => rfl
  | succ few ih =>
      have hearly : count * pollInterval < limit.nanoseconds :=
        (mul_pollInterval_lt_iff limit count).2 (by omega)
      have hnext := ih (count + 1) (by omega)
      rw [Nat.succ_mul] at hnext
      simp only [pollWithin, hrunning, if_neg (Nat.not_le.2 hearly), Schedule.prompt, Nat.add_zero]
      exact hnext

/-- A child that never ends, and is looked at as soon as can be, takes all the looks that there
are. -/
theorem pollWithin_of_running {child : Child} (hrunning : ∀ now, child.look now = .running)
    {limit : Duration} {few : Nat} (hfew : few < mostLooks limit) :
    pollWithin .prompt limit.nanoseconds child few 0 0 = none := by
  have hroom : 0 + few < mostLooks limit := by omega
  have hall := pollWithin_prompt_of_running hrunning few 0 hroom
  rwa [Nat.zero_mul] at hall

/-! ## Counted runs -/

variable {s : Scenario} {σ τ : State} {n : Nat}

/-- A state, and the number of looks on the way to it. -/
structure Tally where
  looks : Nat
  state : State

/-- The looks that the next step of the lookup is. -/
def Position.looks : Position → Nat
  | .looking => 1
  | _ => 0

/-- The steps of the system, with the looks counted. -/
inductive Counted (s : Scenario) : Tally → Tally → Prop where
  | around {n : Nat} {σ τ : State} (h : Around s σ τ) : Counted s ⟨n, σ⟩ ⟨n, τ⟩
  | own {n : Nat} {σ τ : State} (h : Own s σ τ) : Counted s ⟨n, σ⟩ ⟨n + σ.position.looks, τ⟩

theorem Counted.step {t u : Tally} (h : Counted s t u) : Step s t.state u.state := by
  cases h with
  | around hstep => exact .around hstep
  | own hstep => exact .own hstep

/-- The state can be reached in a run, with this number of looks. -/
abbrev CountedRun (s : Scenario) (t : Tally) : Prop :=
  ReflTransGen (Counted s) ⟨0, s.initial⟩ t

/-- The count changes nothing about what can be reached. -/
theorem run_iff_counted : Run s σ ↔ ∃ n, CountedRun s ⟨n, σ⟩ := by
  constructor
  · intro h
    induction h with
    | refl => exact ⟨0, .refl⟩
    | tail _ hstep ih =>
        obtain ⟨n, hrun⟩ := ih
        cases hstep with
        | around hstep => exact ⟨_, hrun.tail (.around hstep)⟩
        | own hstep => exact ⟨_, hrun.tail (.own hstep)⟩
  · rintro ⟨n, h⟩
    exact h.lift Tally.state fun _ _ hstep => hstep.step

/-! ## The pace of the looks -/

/-- By a given time this many intervals have passed since the deadline was set. -/
def Passed (s : Scenario) (σ : State) (count time : Nat) : Prop :=
  ∃ d, σ.deadline = some d ∧ d + count * pollInterval ≤ time + s.limit.nanoseconds

/-- What holds at each position after so many looks.  Between two looks an interval has passed, and
no look but the last is behind the deadline. -/
def Paced (s : Scenario) (looks : Nat) (σ : State) : Prop :=
  match σ.position with
  | .starting => looks = 0
  | .started => looks = 0 ∧ Watched σ
  | .looking => Watched σ ∧ looks < mostLooks s.limit ∧ Passed s σ looks σ.now
  | .comparing =>
      Watched σ ∧ looks ≤ mostLooks s.limit ∧ ∃ before, looks = before + 1 ∧ Passed s σ before σ.now
  | .sleeping wake => Watched σ ∧ looks < mostLooks s.limit ∧ Passed s σ looks wake
  | .killing | .waiting => Watched σ ∧ looks ≤ mostLooks s.limit
  | _ => looks ≤ mostLooks s.limit

theorem Passed.kept {count t u : Nat} (h : Passed s σ count t) (k : Kept σ τ) (htu : t ≤ u) :
    Passed s τ count u := by
  obtain ⟨d, hd, hpassed⟩ := h
  exact ⟨d, k.deadline.trans hd, Nat.le_trans hpassed (Nat.add_le_add_right htu _)⟩

/-- Before the deadline there is room for another look. -/
theorem Passed.room {count t d : Nat} (h : Passed s σ count t) (hdeadline : σ.deadline = some d)
    (hearly : t < d) : count + 1 < mostLooks s.limit := by
  obtain ⟨d', hdeadline', hpassed⟩ := h
  obtain rfl : d = d' := Option.some.inj (hdeadline.symm.trans hdeadline')
  exact (mul_pollInterval_lt_iff s.limit count).1 (by omega)

/-- A sleep lets one more interval pass. -/
theorem Passed.sleep {count t : Nat} (h : Passed s σ count t) :
    Passed s σ (count + 1) (t + pollInterval) := by
  obtain ⟨d, hd, hpassed⟩ := h
  refine ⟨d, hd, ?_⟩
  rw [Nat.succ_mul]
  omega

theorem Paced.le_mostLooks (h : Paced s n σ) : n ≤ mostLooks s.limit := by
  unfold Paced at h
  split at h <;> omega

/-- The clock, the child and the reader keep the pace. -/
theorem Paced.around (h : Paced s n σ) (hstep : Around s σ τ) : Paced s n τ := by
  have hposition := hstep.position
  have k := hstep.kept
  unfold Paced at h ⊢
  rw [hposition]
  generalize σ.position = position at h ⊢
  cases position with
  | starting => exact h
  | started => exact ⟨h.1, hstep.watched h.2⟩
  | looking => exact ⟨hstep.watched h.1, h.2.1, h.2.2.kept k k.now⟩
  | comparing =>
      obtain ⟨hwatched, hlooks, before, rfl, hpassed⟩ := h
      exact ⟨hstep.watched hwatched, hlooks, before, rfl, hpassed.kept k k.now⟩
  | sleeping wake => exact ⟨hstep.watched h.1, h.2.1, h.2.2.kept k (Nat.le_refl wake)⟩
  | killing | waiting => exact ⟨hstep.watched h.1, h.2⟩
  | judging | measuring | turning | receiving | expiring | returned | aborted => exact h

/-- A step of the lookup keeps the pace. -/
theorem Paced.own (h : Paced s n σ) (hstep : Own s σ τ) :
    Paced s (n + σ.position.looks) τ := by
  have hmost := h.le_mostLooks
  unfold Paced at h
  cases hstep with
  | spawn _ hposition =>
      rw [hposition] at h ⊢
      exact ⟨h, .inl rfl⟩
  | setDeadline hposition =>
      rw [hposition] at h ⊢
      obtain ⟨rfl, hwatched⟩ := h
      -- There is always room for the first look, even if no time is given.
      exact ⟨hwatched, Nat.succ_pos _, _, rfl, by simp [Position.looks]⟩
  | lookRefused hposition | lookEnded hposition =>
      rw [hposition] at h ⊢
      exact h.2.1
  | lookRunning hposition =>
      rw [hposition] at h ⊢
      exact ⟨h.1, h.2.1, n, rfl, h.2.2⟩
  | late hposition =>
      rw [hposition] at h ⊢
      exact ⟨h.1, h.2.1⟩
  | early hposition hdeadline hearly =>
      rw [hposition] at h ⊢
      obtain ⟨hwatched, -, before, rfl, hpassed⟩ := h
      -- The clock was before the deadline, so the look behind it is not the last there is room for.
      exact ⟨hwatched, hpassed.room hdeadline hearly, hpassed.sleep⟩
  | wake hposition hdue =>
      rw [hposition] at h ⊢
      exact ⟨h.1, h.2.1, h.2.2.kept (.goTo σ .looking) hdue⟩
  | kill hposition | killRefused hposition =>
      rw [hposition] at h ⊢
      exact h
  | spawnRefused _ hposition | overflow hposition | wait hposition | judgeFailed hposition
  | judgeSuccess hposition | measure hposition | turn hposition | take hposition | miss hposition
  | expire hposition | resume hposition =>
      -- Behind the looks, and where they never begin, none is taken.
      rw [hposition]
      exact hmost

/-- Every run keeps the pace. -/
theorem CountedRun.paced {t : Tally} (h : CountedRun s t) : Paced s t.looks t.state := by
  induction h with
  | refl => exact rfl
  | tail _ hstep ih =>
      cases hstep with
      | around hstep => exact ih.around hstep
      | own hstep => exact ih.own hstep

end Lookup
end BuildStamp
