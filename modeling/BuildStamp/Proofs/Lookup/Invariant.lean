import BuildStamp.Proofs.Lookup.System
import BuildStamp.Proofs.Text.Lines

/-!
# Invariant — what the lookup may rely on at each position

The invariant ties the position of the lookup to the child, the reader, the deadline and the clock.
The steps of the others cannot spoil what the lookup relies on, because the clock only advances and
an end that was noticed, like a result that was handed over, stays as it is.  This is stated once,
as `Kept`, and used for all of their steps.

* `Lookup.Justified` — what an answer says about the run that gave it;
* `Lookup.Placed` — what holds at each position;
* `Lookup.Invariant` — this, and where ends, results, deadlines and kills come from;
* `Lookup.Invariant.around`, `Lookup.Invariant.own` — one step keeps it;
* `Lookup.Run.invariant` — every run keeps it.
-/

namespace BuildStamp
namespace Lookup

variable {s : Scenario} {σ τ : State}

/-! ## Facts -/

/-- The deadline has come by a given time, and was not set too early. -/
def DueBy (s : Scenario) (σ : State) (t : Nat) : Prop :=
  ∃ d, σ.deadline = some d ∧ σ.startedAt + s.limit.nanoseconds ≤ d ∧ d ≤ t

/-- The child has come to the end that it was to come to. -/
def Due (s : Scenario) (σ : State) (status : ExitStatus) : Prop :=
  ∃ child since, s.launch = .ok child ∧ child.ending = some (since, status) ∧
    σ.startedAt + since ≤ σ.now

/-- The output has come to its end, or could not be read on, with this result. -/
def Closed (s : Scenario) (σ : State) (result : Except IoError ByteArray) : Prop :=
  ∃ child since, s.launch = .ok child ∧ child.closing = some since ∧ child.output = result ∧
    σ.startedAt + since ≤ σ.now

/-- The child ended by itself, was not made to, and was waited for. -/
structure EndedByItself (s : Scenario) (σ : State) (status : ExitStatus) : Prop where
  due : Due s σ status
  unharmed : σ.killedAt = none
  reaped : σ.process = .reaped (.byItself status)

/-- The child ended by itself with success. -/
def Succeeded (s : Scenario) (σ : State) : Prop :=
  ∃ status, status.isSuccess = true ∧ EndedByItself s σ status

/-- The reader read all of the output and handed it over. -/
structure Printed (s : Scenario) (σ : State) (bytes : ByteArray) : Prop where
  closed : Closed s σ (.ok bytes)
  sent : σ.reader = .sent (.ok bytes)

/-- What an answer says about the run that gave it. -/
def Justified (s : Scenario) (σ : State) : Except LookupError String → Prop
  | .ok hash =>
      Succeeded s σ ∧ hash ≠ "" ∧ ∃ bytes text, Printed s σ bytes ∧
        String.fromUTF8? bytes = some text ∧ hash = Text.trim text
  | .error (.spawn cause) => s.launch = .error cause
  | .error (.wait _) => True
  | .error (.timeout limit) =>
      limit = s.limit ∧ DueBy s σ σ.now ∧ ∃ ending, σ.process = .reaped ending
  | .error (.failed status) => status.isSuccess = false ∧ EndedByItself s σ status
  | .error .invalidOutput =>
      Succeeded s σ ∧ ∃ bytes, Printed s σ bytes ∧ String.fromUTF8? bytes = none
  | .error .emptyOutput =>
      Succeeded s σ ∧ ∃ bytes text, Printed s σ bytes ∧ String.fromUTF8? bytes = some text ∧
        Text.trim text = ""

/-! ## The invariant -/

/-- What holds at each position of the lookup. -/
def Placed (s : Scenario) (σ : State) : Prop :=
  match σ.position with
  | .starting | .started => σ.deadline = none ∧ σ.killedAt = none
  | .looking | .comparing | .sleeping _ => σ.killedAt = none
  | .killing | .waiting => DueBy s σ σ.now
  | .judging status => EndedByItself s σ status
  | .measuring => Succeeded s σ
  | .turning remaining => Succeeded s σ ∧ DueBy s σ (σ.now + remaining)
  | .receiving last | .expiring last => Succeeded s σ ∧ DueBy s σ last
  | .returned answer => Justified s σ answer
  | .aborted => True

/-- Where an end comes from. -/
def Caused (s : Scenario) (σ : State) : Ending → Prop
  | .byItself status => Due s σ status
  | .byForce => σ.killedAt ≠ none

/-- What holds in every state that can be reached. -/
structure Invariant (s : Scenario) (σ : State) : Prop where
  begun : σ.startedAt ≤ σ.now
  -- The lookup may rely on what belongs to its position.
  placed : Placed s σ
  -- The child ended as it was to, or because it was made to.
  caused : ∀ ending, σ.process = .ended ending ∨ σ.process = .reaped ending → Caused s σ ending
  -- The child was made to end only behind the deadline.
  killed : ∀ t, σ.killedAt = some t → DueBy s σ t
  -- The deadline was not set too early.
  deadline : ∀ d, σ.deadline = some d → σ.startedAt + s.limit.nanoseconds ≤ d
  read : ∀ result, σ.reader = .finished result ∨ σ.reader = .sent result → Closed s σ result

/-! ## What stays -/

/-- What is true of a state stays true of another one if nothing that was settled is undone. -/
structure Kept (σ τ : State) : Prop where
  now : σ.now ≤ τ.now
  startedAt : τ.startedAt = σ.startedAt
  deadline : τ.deadline = σ.deadline
  -- The child was made to end at the same time, or was not.
  killedAt : τ.killedAt = σ.killedAt
  -- An end that was noticed stays.
  reaped : ∀ ending, σ.process = .reaped ending → τ.process = .reaped ending
  sent : ∀ result, σ.reader = .sent result → τ.reader = .sent result

theorem Kept.goTo (σ : State) (position : Position) : Kept σ { σ with position := position } :=
  ⟨Nat.le_refl _, rfl, rfl, rfl, fun _ h => h, fun _ h => h⟩

theorem DueBy.kept {t u : Nat} (h : DueBy s σ t) (k : Kept σ τ) (htu : t ≤ u) : DueBy s τ u := by
  obtain ⟨d, hd, hset, hdt⟩ := h
  exact ⟨d, k.deadline.trans hd, k.startedAt ▸ hset, Nat.le_trans hdt htu⟩

theorem Due.kept {status : ExitStatus} (h : Due s σ status) (k : Kept σ τ) : Due s τ status := by
  obtain ⟨child, since, hlaunch, hending, hdue⟩ := h
  exact ⟨child, since, hlaunch, hending, k.startedAt ▸ Nat.le_trans hdue k.now⟩

theorem Closed.kept {result : Except IoError ByteArray} (h : Closed s σ result) (k : Kept σ τ) :
    Closed s τ result := by
  obtain ⟨child, since, hlaunch, hclosing, houtput, hdue⟩ := h
  exact ⟨child, since, hlaunch, hclosing, houtput, k.startedAt ▸ Nat.le_trans hdue k.now⟩

theorem EndedByItself.kept {status : ExitStatus} (h : EndedByItself s σ status) (k : Kept σ τ) :
    EndedByItself s τ status :=
  ⟨h.due.kept k, k.killedAt.trans h.unharmed, k.reaped _ h.reaped⟩

theorem Succeeded.kept (h : Succeeded s σ) (k : Kept σ τ) : Succeeded s τ := by
  obtain ⟨status, hstatus, hended⟩ := h
  exact ⟨status, hstatus, hended.kept k⟩

theorem Printed.kept {bytes : ByteArray} (h : Printed s σ bytes) (k : Kept σ τ) :
    Printed s τ bytes :=
  ⟨h.closed.kept k, k.sent _ h.sent⟩

theorem Justified.kept {answer : Except LookupError String} (h : Justified s σ answer)
    (k : Kept σ τ) : Justified s τ answer := by
  -- Every answer rests on facts that later states keep.
  match answer with
  | .ok hash =>
      obtain ⟨hended, hne, bytes, text, hprinted, htext⟩ := h
      exact ⟨hended.kept k, hne, bytes, text, hprinted.kept k, htext⟩
  | .error (.spawn cause) => exact h
  | .error (.wait cause) => exact h
  | .error (.timeout limit) =>
      obtain ⟨hlimit, hdue, ending, hreaped⟩ := h
      exact ⟨hlimit, hdue.kept k k.now, ending, k.reaped _ hreaped⟩
  | .error (.failed status) => exact ⟨h.1, h.2.kept k⟩
  | .error .invalidOutput =>
      obtain ⟨hended, bytes, hprinted, htext⟩ := h
      exact ⟨hended.kept k, bytes, hprinted.kept k, htext⟩
  | .error .emptyOutput =>
      obtain ⟨hended, bytes, text, hprinted, htext⟩ := h
      exact ⟨hended.kept k, bytes, text, hprinted.kept k, htext⟩

theorem Placed.kept (h : Placed s σ) (k : Kept σ τ) (hposition : τ.position = σ.position) :
    Placed s τ := by
  unfold Placed at h ⊢
  rw [hposition]
  generalize σ.position = position at h ⊢
  -- Each position relies on facts about the deadline, the kill, the end and the result only.
  cases position with
  | starting | started => exact ⟨k.deadline.trans h.1, k.killedAt.trans h.2⟩
  | looking | comparing | sleeping => exact k.killedAt.trans h
  | killing | waiting => exact h.kept k k.now
  | judging status => exact h.kept k
  | measuring => exact h.kept k
  | turning remaining => exact ⟨h.1.kept k, h.2.kept k (Nat.add_le_add_right k.now remaining)⟩
  | receiving last | expiring last => exact ⟨h.1.kept k, h.2.kept k (Nat.le_refl last)⟩
  | returned answer => exact h.kept k
  | aborted => trivial

theorem Caused.kept {ending : Ending} (h : Caused s σ ending) (k : Kept σ τ) :
    Caused s τ ending := by
  cases ending with
  | byItself status => exact Due.kept h k
  | byForce => exact fun hkilled => h (k.killedAt ▸ hkilled)

/-! ## Steps of the others -/

/-- The clock, the child and the reader undo nothing. -/
theorem Around.kept (h : Around s σ τ) : Kept σ τ := by
  cases h with
  | tick d => exact ⟨Nat.le_add_right _ _, rfl, rfl, rfl, fun _ h => h, fun _ h => h⟩
  | ends _ _ _ hprocess | dies _ hprocess =>
      refine ⟨Nat.le_refl _, rfl, rfl, rfl, fun e h => ?_, fun _ h => h⟩
      rw [hprocess] at h
      cases h
  | closes _ _ _ hreader | sends hreader =>
      refine ⟨Nat.le_refl _, rfl, rfl, rfl, fun _ h => h, fun r h => ?_⟩
      rw [hreader] at h
      cases h

theorem Around.position (h : Around s σ τ) : τ.position = σ.position := by
  cases h <;> rfl

/-- An end that was not there before comes from the child, or from the lookup. -/
theorem Around.caused (h : Around s σ τ) (hcaused : ∀ ending,
      σ.process = .ended ending ∨ σ.process = .reaped ending → Caused s σ ending) :
    ∀ ending, τ.process = .ended ending ∨ τ.process = .reaped ending → Caused s τ ending := by
  have k := h.kept
  intro ending hending
  -- Only the two steps of the child bring an end that was not there.
  cases h with
  | tick d => exact (hcaused ending hending).kept k
  | closes | sends => exact (hcaused ending hending).kept k
  | @ends child since status hlaunch hplan hdue hprocess =>
      obtain rfl : .byItself status = ending := by simpa using hending
      exact ⟨child, since, hlaunch, hplan, hdue⟩
  | @dies t hkilled hprocess =>
      obtain rfl : .byForce = ending := by simpa using hending
      exact fun h => by simp [hkilled] at h

/-- A result that was not there before comes from the output. -/
theorem Around.read (h : Around s σ τ) (hread : ∀ result,
      σ.reader = .finished result ∨ σ.reader = .sent result → Closed s σ result) :
    ∀ result, τ.reader = .finished result ∨ τ.reader = .sent result → Closed s τ result := by
  have k := h.kept
  intro result hresult
  cases h with
  | tick d => exact (hread result hresult).kept k
  | ends | dies => exact (hread result hresult).kept k
  | @closes child since hlaunch hclosing hdue hreader =>
      obtain rfl : child.output = result := by simpa using hresult
      exact ⟨child, since, hlaunch, hclosing, rfl, hdue⟩
  | @sends r hreader =>
      obtain rfl : r = result := by simpa using hresult
      exact (hread r (.inl hreader)).kept k

/-- A step of the clock, the child or the reader keeps the invariant. -/
theorem Invariant.around (h : Invariant s σ) (hstep : Around s σ τ) : Invariant s τ := by
  have k := hstep.kept
  refine ⟨k.startedAt ▸ Nat.le_trans h.begun k.now, h.placed.kept k hstep.position,
    hstep.caused h.caused, ?_, ?_, hstep.read h.read⟩
  · intro t ht
    exact (h.killed t (k.killedAt ▸ ht)).kept k (Nat.le_refl t)
  · intro d hd
    rw [k.startedAt]
    exact h.deadline d (k.deadline ▸ hd)

/-! ## Steps of the lookup -/

theorem Invariant.goTo (h : Invariant s σ) {position : Position}
    (hplaced : Placed s { σ with position := position }) :
    Invariant s { σ with position := position } :=
  ⟨h.begun, hplaced, h.caused, h.killed, h.deadline, h.read⟩

theorem Invariant.reap (h : Invariant s σ) {ending : Ending} (hprocess : σ.process = .ended ending)
    {position : Position}
    (hplaced : Placed s { σ with process := .reaped ending, position := position }) :
    Invariant s { σ with process := .reaped ending, position := position } := by
  refine ⟨h.begun, hplaced, ?_, h.killed, h.deadline, h.read⟩
  intro e he
  obtain rfl : ending = e := by simpa using he
  exact h.caused ending (.inl hprocess)

/-- A child that nobody tried to end has ended by itself. -/
theorem Invariant.byItself (h : Invariant s σ) {ending : Ending}
    (hprocess : σ.process = .ended ending) (hkilled : σ.killedAt = none) :
    ∃ status, ending = .byItself status ∧ Due s σ status := by
  have hcaused := h.caused ending (.inl hprocess)
  cases ending with
  | byItself status => exact ⟨status, rfl, hcaused⟩
  | byForce => exact absurd hkilled hcaused

/-- What an output gives is justified by it. -/
theorem justified_classify {result : Except IoError ByteArray} (hended : Succeeded s σ)
    (hclosed : Closed s σ result) (hsent : σ.reader = .sent result) :
    Justified s σ (classify result) := by
  match result with
  | .error cause => trivial
  | .ok bytes =>
      have hprinted : Printed s σ bytes := ⟨hclosed, hsent⟩
      cases htext : String.fromUTF8? bytes with
      | none =>
          simp only [classify, htext]
          exact ⟨hended, bytes, hprinted, htext⟩
      | some text =>
          simp only [classify, htext]
          by_cases hempty : Text.trim text = ""
          · rw [if_pos hempty]
            exact ⟨hended, bytes, text, hprinted, htext, hempty⟩
          · rw [if_neg hempty]
            exact ⟨hended, hempty, bytes, text, hprinted, htext, rfl⟩

/-- The deadline is set to the end of the time that the tool has. -/
theorem Invariant.setDeadline (h : Invariant s σ) (hkilled : σ.killedAt = none) :
    Invariant s
      { σ with deadline := some (σ.now + s.limit.nanoseconds), position := .looking } := by
  refine ⟨h.begun, hkilled, ?_, ?_, ?_, h.read⟩
  · intro ending hending
    have hcaused := h.caused ending hending
    cases ending with
    | byItself status => exact hcaused
    | byForce => exact absurd hkilled hcaused
  · intro t ht
    exact absurd (hkilled.symm.trans ht) (by simp)
  · intro d hd
    obtain rfl : σ.now + s.limit.nanoseconds = d := by simpa using hd
    exact Nat.add_le_add_right h.begun _

/-- The child is made to end behind the deadline. -/
theorem Invariant.kill (h : Invariant s σ) (hdue : DueBy s σ σ.now) :
    Invariant s { σ with killedAt := some σ.now, position := .waiting } := by
  refine ⟨h.begun, hdue, ?_, ?_, h.deadline, h.read⟩
  · intro ending hending
    have hcaused := h.caused ending hending
    cases ending with
    | byItself status => exact hcaused
    | byForce => exact Option.some_ne_none σ.now
  · intro t ht
    obtain rfl : σ.now = t := by simpa using ht
    exact hdue

/-- A step of the lookup keeps the invariant. -/
theorem Invariant.own (h : Invariant s σ) (hstep : Own s σ τ) : Invariant s τ := by
  -- What the position before the step grants is what the position behind it asks for.
  have hplaced := h.placed
  unfold Placed at hplaced
  cases hstep with
  | spawnRefused hlaunch hposition => exact h.goTo hlaunch
  | spawn hlaunch hposition =>
      -- Before the start nothing is there of which the invariant could speak.
      rw [hposition] at hplaced
      refine ⟨Nat.le_refl _, hplaced, ?_, ?_, ?_, ?_⟩ <;> simp [hplaced.1, hplaced.2]
  | setDeadline hposition hfits =>
      rw [hposition] at hplaced
      exact h.setDeadline hplaced.2
  | overflow hposition hfits => exact h.goTo trivial
  | lookRefused hposition => exact h.goTo trivial
  | lookEnded hposition hprocess =>
      -- Between looks nobody has tried to end the child, so it has ended by itself.
      rw [hposition] at hplaced
      obtain ⟨status, rfl, hdue⟩ := h.byItself hprocess hplaced
      exact h.reap hprocess ⟨hdue, hplaced, rfl⟩
  | lookRunning hposition hprocess =>
      rw [hposition] at hplaced
      exact h.goTo hplaced
  | late hposition hdeadline hlate =>
      exact h.goTo ⟨_, hdeadline, h.deadline _ hdeadline, hlate⟩
  | early hposition hdeadline hearly =>
      rw [hposition] at hplaced
      exact h.goTo hplaced
  | wake hposition hdue =>
      rw [hposition] at hplaced
      exact h.goTo hplaced
  | kill hposition =>
      rw [hposition] at hplaced
      exact h.kill hplaced
  | killRefused hposition =>
      rw [hposition] at hplaced
      exact h.goTo hplaced
  | wait hposition hprocess =>
      rw [hposition] at hplaced
      exact h.reap hprocess ⟨rfl, hplaced, _, rfl⟩
  | judgeFailed hposition hstatus =>
      rw [hposition] at hplaced
      have hended : EndedByItself s σ _ := hplaced
      exact h.goTo ⟨hstatus, hended.kept (.goTo σ _)⟩
  | judgeSuccess hposition hstatus =>
      rw [hposition] at hplaced
      have hended : EndedByItself s σ _ := hplaced
      exact h.goTo ⟨_, hstatus, hended.kept (.goTo σ _)⟩
  | @measure d hposition hdeadline =>
      rw [hposition] at hplaced
      have hended : Succeeded s σ := hplaced
      -- Behind the deadline nothing is left, and the deadline has come without it.
      have hleft : d ≤ σ.now + (d - σ.now) := by omega
      exact h.goTo ⟨hended.kept (.goTo σ _), d, hdeadline, h.deadline d hdeadline, hleft⟩
  | turn hposition =>
      rw [hposition] at hplaced
      exact h.goTo ⟨hplaced.1.kept (.goTo σ _), hplaced.2⟩
  | take hposition hreader =>
      rw [hposition] at hplaced
      have hclosed := h.read _ (.inr hreader)
      exact h.goTo ((justified_classify hplaced.1 hclosed hreader).kept (.goTo σ _))
  | miss hposition hreader =>
      rw [hposition] at hplaced
      exact h.goTo ⟨hplaced.1.kept (.goTo σ _), hplaced.2⟩
  | expire hposition hlate =>
      rw [hposition] at hplaced
      -- The last look at the output is not before the deadline, and the child was waited for.
      obtain ⟨⟨status, -, hended⟩, d, hd, hset, hlast⟩ := hplaced
      exact h.goTo ⟨rfl, ⟨d, hd, hset, Nat.le_trans hlast hlate⟩, _, hended.reaped⟩
  | resume hposition hearly =>
      rw [hposition] at hplaced
      exact h.goTo ⟨hplaced.1.kept (.goTo σ _), hplaced.2⟩

/-! ## Runs -/

theorem Scenario.invariant_initial (s : Scenario) : Invariant s s.initial := by
  refine ⟨Nat.le_refl _, ⟨rfl, rfl⟩, ?_, ?_, ?_, ?_⟩ <;> simp [Scenario.initial]

theorem Invariant.step (h : Invariant s σ) (hstep : Step s σ τ) : Invariant s τ := by
  cases hstep with
  | around hstep => exact h.around hstep
  | own hstep => exact h.own hstep

/-- The invariant holds in every state that a run reaches. -/
theorem Run.invariant (h : Run s σ) : Invariant s σ := by
  induction h with
  | refl => exact s.invariant_initial
  | tail _ hstep ih => exact ih.step hstep

end Lookup
end BuildStamp
