import BuildStamp.Proofs.Lookup.Invariant

/-!
# Timely — runs with a tool that is done in time

A tool is done in time if it has ended, and its result was handed over, before the deadline.  Then
the lookup comes to what a plain run of the tool comes to, which waits for the end of the tool and
then reads its output: it does not matter how the steps are put in order, how late the lookup gets
to look, or how long it sleeps.

A look and the reading of the clock behind it count as one step here, be it a look at the child or
at the channel of the result.  A tool that is done between the two would not be noticed, and given
up.

* `Lookup.plain` — what a plain run of a tool comes to;
* `Lookup.Timely` — steps around whole looks, with a tool that is done in time;
* `Lookup.OnTrack`, `Lookup.TimelyRun.onTrack` — what such a run never leaves;
* `Lookup.TimelyRun.exists_returned` — a tool that is done leads to an answer.
-/

namespace BuildStamp
namespace Lookup

open Relation (ReflTransGen)

variable {s : Scenario} {σ τ : State} {child : Child} {status : ExitStatus} {since : Nat}

/-! ## Plain runs -/

/-- What a tool comes to that is waited for, whatever time it takes: its status, if that is no
success, and otherwise what its output gives. -/
def plain (status : ExitStatus) (output : Except IoError ByteArray) : Except LookupError String :=
  if status.isSuccess = false then .error (.failed status)
  else
    match output with
    | .error cause => .error (.wait cause)
    | .ok bytes =>
        match String.fromUTF8? bytes with
        | none => .error .invalidOutput
        | some text =>
            if Text.isBlankText text then .error .emptyOutput else .ok (Text.trim text)

theorem plain_of_failure (h : status.isSuccess = false) (output : Except IoError ByteArray) :
    plain status output = .error (.failed status) := by
  simp [plain, h]

/-- A plain run of a tool that ends with success and prints a text comes to its core. -/
theorem plain_of_text (h : status.isSuccess = true) {bytes : ByteArray} {text : String}
    (htext : String.fromUTF8? bytes = some text) (hblank : Text.isBlankText text = false) :
    plain status (.ok bytes) = .ok (Text.trim text) := by
  simp [plain, h, htext, hblank]

theorem plain_of_success (h : status.isSuccess = true) (output : Except IoError ByteArray) :
    plain status output = classify output := by
  cases output with
  | error cause => simp [plain, classify, h]
  | ok bytes =>
      cases htext : String.fromUTF8? bytes with
      | none => simp [plain, classify, h, htext]
      | some text => simp [plain, classify, h, htext, Text.trim_eq_empty_iff]

theorem plain_ne_timeout (status : ExitStatus) (output : Except IoError ByteArray)
    (limit : Duration) : plain status output ≠ .error (.timeout limit) := by
  cases hstatus : status.isSuccess with
  | false => simp [plain_of_failure hstatus]
  | true =>
      rw [plain_of_success hstatus]
      cases output with
      | error cause => simp [classify]
      | ok bytes =>
          cases htext : String.fromUTF8? bytes with
          | none => simp [classify, htext]
          | some text => by_cases hblank : Text.trim text = "" <;> simp [classify, htext, hblank]

/-! ## Steps in time -/

/-- The child has ended, and the result of the reader was handed over. -/
structure Done (σ : State) : Prop where
  ended : ∃ ending, σ.process = .ended ending ∨ σ.process = .reaped ending
  sent : ∃ result, σ.reader = .sent result

/-- The tool was done before the deadline came. -/
def InTime (σ : State) : Prop :=
  ∀ d, σ.deadline = some d → d ≤ σ.now → Done σ

/-- The steps of a system with a tool that is done in time.  Nobody takes a step between a look and
the reading of the clock behind it, and no look is refused. -/
inductive Timely (s : Scenario) : State → State → Prop where
  | around {σ τ : State} (h : Around s σ τ) (hlook : σ.position ≠ .comparing)
      (hreceive : ∀ last, σ.position ≠ .expiring last) (htime : InTime τ) : Timely s σ τ
  | own {σ τ : State} (h : Own s σ τ)
      (hlook : σ.position = .looking → ∀ answer, τ.position ≠ .returned answer)
      (htime : InTime τ) : Timely s σ τ

/-- The state can be reached with a tool that is done in time. -/
abbrev TimelyRun (s : Scenario) (σ : State) : Prop :=
  ReflTransGen (Timely s) s.initial σ

theorem Timely.step (h : Timely s σ τ) : Step s σ τ := by
  cases h with
  | around h => exact .around h
  | own h => exact .own h

theorem Timely.inTime (h : Timely s σ τ) : InTime τ := by
  cases h with
  | around _ _ _ htime => exact htime
  | own _ _ htime => exact htime

theorem TimelyRun.run (h : TimelyRun s σ) : Run s σ :=
  ReflTransGen.mono (fun _ _ => Timely.step) _ _ h

theorem TimelyRun.inTime (h : TimelyRun s σ) : InTime σ := by
  cases h with
  | refl => intro d hd; cases hd
  | tail _ hstep => exact hstep.inTime

/-! ## What a run in time never leaves -/

/-- The child was started, and its end was not noticed. -/
def Watched (σ : State) : Prop :=
  σ.process = .running ∨ ∃ ending, σ.process = .ended ending

/-- What holds at each position if the tool is done in time. -/
def OnTrack (status : ExitStatus) (output : Except IoError ByteArray) (σ : State) : Prop :=
  match σ.position with
  | .starting => σ.process = .absent
  | .started | .looking | .sleeping _ => Watched σ
  | .comparing => σ.process = .running
  | .killing | .waiting => False
  | .expiring _ => ∀ result, σ.reader ≠ .sent result
  | .returned answer => answer = plain status output
  | .aborted => σ.deadline = none
  | _ => True

/-- The clock, the child and the reader bring nothing to an end that the lookup has noticed. -/
theorem Around.watched (h : Around s σ τ) (hwatched : Watched σ) : Watched τ := by
  cases h with
  | tick | closes | sends => exact hwatched
  | ends | dies => exact .inr ⟨_, rfl⟩

theorem Around.absent (h : Around s σ τ) (habsent : σ.process = .absent) :
    τ.process = .absent := by
  cases h with
  | tick | closes | sends => exact habsent
  | ends _ _ _ hprocess | dies _ hprocess => cases habsent.symm.trans hprocess

/-- A step between two looks keeps the lookup on track. -/
theorem OnTrack.around {output : Except IoError ByteArray} (h : OnTrack status output σ)
    (hstep : Around s σ τ) (hlook : σ.position ≠ .comparing)
    (hreceive : ∀ last, σ.position ≠ .expiring last) : OnTrack status output τ := by
  have hposition := hstep.position
  have hkept := hstep.kept
  unfold OnTrack at h ⊢
  rw [hposition]
  generalize σ.position = position at h hlook hreceive ⊢
  cases position with
  | starting => exact hstep.absent h
  | started | looking | sleeping => exact hstep.watched h
  | comparing => exact absurd rfl hlook
  | killing | waiting => exact h
  | expiring last => exact absurd rfl (hreceive last)
  | returned answer => exact h
  | aborted => exact hkept.deadline.trans h
  | judging | measuring | turning | receiving => trivial

/-- A child that runs when it is looked at has time left. -/
theorem InTime.early (h : InTime σ) (hprocess : σ.process = .running) {d : Nat}
    (hdeadline : σ.deadline = some d) : σ.now < d := by
  by_contra hlate
  rcases (h d hdeadline (Nat.le_of_not_lt hlate)).ended with ⟨ending, hended | hreaped⟩
  · cases hprocess.symm.trans hended
  · cases hprocess.symm.trans hreaped

/-- A child that has ended was to end with its status. -/
theorem EndedByItself.status_eq (h : EndedByItself s σ status) {status' : ExitStatus}
    (hlaunch : s.launch = .ok child) (hending : child.ending = some (since, status')) :
    status = status' := by
  rcases h.due with ⟨child', since', hlaunch', hending', -⟩
  obtain rfl := Except.ok.inj (hlaunch.symm.trans hlaunch')
  exact congrArg Prod.snd (Option.some.inj (hending'.symm.trans hending))

/-- A step of the lookup keeps it on track: it gives up nothing, and its answer is the plain one. -/
theorem OnTrack.own (hlaunch : s.launch = .ok child) (hending : child.ending = some (since, status))
    (hinvariant : Invariant s σ) (htime : InTime σ) (h : OnTrack status child.output σ)
    (hstep : Own s σ τ) (hlook : σ.position = .looking → ∀ answer, τ.position ≠ .returned answer) :
    OnTrack status child.output τ := by
  have hplaced := hinvariant.placed
  unfold OnTrack at h
  unfold Placed at hplaced
  cases hstep with
  | spawnRefused hrefused => cases hlaunch.symm.trans hrefused
  | spawn => exact .inl rfl
  | setDeadline hposition | wake hposition =>
      rw [hposition] at h
      exact h
  | overflow hposition =>
      rw [hposition] at hplaced
      exact hplaced.1
  | lookRefused hposition => exact absurd rfl (hlook hposition _)
  | lookEnded => trivial
  | lookRunning hposition hprocess => exact hprocess
  | late hposition hdeadline hlate =>
      rw [hposition] at h
      exact absurd hlate (Nat.not_le.2 (htime.early h hdeadline))
  | early hposition =>
      rw [hposition] at h
      exact .inl h
  | kill hposition | killRefused hposition | wait hposition =>
      rw [hposition] at h
      exact h.elim
  | judgeFailed hposition hstatus =>
      rw [hposition] at hplaced
      obtain rfl := EndedByItself.status_eq hplaced hlaunch hending
      exact (plain_of_failure hstatus _).symm
  | judgeSuccess | measure | turn => trivial
  | take hposition hreader =>
      rw [hposition] at hplaced
      rcases hplaced.1 with ⟨status', hstatus, hended⟩
      obtain rfl := hended.status_eq hlaunch hending
      rcases hinvariant.read _ (.inr hreader) with ⟨child', -, hlaunch', -, rfl, -⟩
      obtain rfl := Except.ok.inj (hlaunch.symm.trans hlaunch')
      exact (plain_of_success hstatus _).symm
  | miss hposition hreader => exact hreader
  | @expire last hposition hlate =>
      -- The result was handed over before the deadline, so it would have been found.
      rw [hposition] at h hplaced
      rcases hplaced.2 with ⟨d, hdeadline, -, hlast⟩
      rcases (htime d hdeadline (Nat.le_trans hlast hlate)).sent with ⟨result, hsent⟩
      exact absurd hsent (h result)
  | resume => trivial

theorem Scenario.onTrack_initial (s : Scenario) (output : Except IoError ByteArray) :
    OnTrack status output s.initial :=
  rfl

/-- A run in time stays on track. -/
theorem TimelyRun.onTrack (h : TimelyRun s σ) (hlaunch : s.launch = .ok child)
    (hending : child.ending = some (since, status)) : OnTrack status child.output σ := by
  induction h with
  | refl => exact s.onTrack_initial child.output
  | tail hrun hstep ih =>
      cases hstep with
      | around hstep hlook hreceive => exact ih.around hstep hlook hreceive
      | own hstep hlook =>
          exact OnTrack.own hlaunch hending (TimelyRun.run hrun).invariant (TimelyRun.inTime hrun)
            ih hstep hlook

/-! ## Tools that are done -/

theorem Done.inTime (h : Done σ) : InTime σ :=
  fun _ _ _ => h

theorem Done.not_running (h : Done σ) : σ.process ≠ .running ∧ σ.process ≠ .absent := by
  rcases h.ended with ⟨ending, hended | hreaped⟩
  · simp [hended]
  · simp [hreaped]

theorem Done.goTo (h : Done σ) (position : Position) : Done { σ with position := position } :=
  ⟨h.ended, h.sent⟩

/-- What is left of a lookup whose tool is done, in steps of its own. -/
def stepsLeft : Position → Nat
  | .sleeping _ => 6
  | .looking => 5
  | .judging _ => 4
  | .measuring => 3
  | .turning _ => 2
  | .receiving _ => 1
  | _ => 0

/-- Fewer steps are left behind some more of the run. -/
def Nearer (s : Scenario) (σ : State) : Prop :=
  ∃ τ, ReflTransGen (Timely s) σ τ ∧ Done τ ∧ τ.deadline ≠ none ∧
    stepsLeft τ.position < stepsLeft σ.position

/-- Steps of the lookup that end nothing change its position only. -/
theorem Done.nearer (hdone : Done σ) (hset : σ.deadline ≠ none) {before position : Position}
    (hposition : σ.position = before) (hstep : Own s σ { σ with position := position })
    (hlook : before ≠ .looking) (hless : stepsLeft position < stepsLeft before) : Nearer s σ := by
  have hdone' : Done { σ with position := position } := hdone.goTo position
  have htimely : Timely s σ { σ with position := position } :=
    .own hstep (fun hlooking => absurd (hposition.symm.trans hlooking) hlook) hdone'.inTime
  exact ⟨_, .single htimely, hdone', hset, hposition ▸ hless⟩

/-- A look at a child that has ended notices it. -/
theorem Done.nearer_of_looking (hdone : Done σ) (hset : σ.deadline ≠ none)
    (hposition : σ.position = .looking) (hwatched : Watched σ) : Nearer s σ := by
  rcases hwatched with hrunning | ⟨ending, hended⟩
  · exact absurd hrunning hdone.not_running.1
  · have hstep : Own s σ _ := .lookEnded hposition hended
    have hdone' : Done { σ with process := .reaped ending, position := .judging ending.status } :=
      ⟨⟨ending, .inr rfl⟩, hdone.sent⟩
    have htimely : Timely s σ _ := .own hstep (fun _ answer h => by cases h) hdone'.inTime
    exact ⟨_, .single htimely, hdone', hset, by simp [hposition, stepsLeft]⟩

/-- A lookup that is asleep wakes up when its time has come. -/
theorem Done.nearer_of_sleeping (hdone : Done σ) (hset : σ.deadline ≠ none) {wake : Nat}
    (hposition : σ.position = .sleeping wake) : Nearer s σ := by
  let later : State := { σ with now := σ.now + wake }
  have hlater : Done later := ⟨hdone.ended, hdone.sent⟩
  have htick : Timely s σ later := by
    refine .around (.tick σ wake) ?_ ?_ hlater.inTime <;> simp [hposition]
  have hstep : Own s later { later with position := .looking } :=
    .wake hposition (Nat.le_add_left wake σ.now)
  have hasleep : later.position ≠ .looking := by simp [later, hposition]
  have hwake : Timely s later { later with position := .looking } :=
    .own hstep (fun hlooking => absurd hlooking hasleep) (hlater.goTo _).inTime
  exact ⟨_, .head htick (.single hwake), hlater.goTo _, hset, by simp [hposition, stepsLeft]⟩

/-- A lookup whose tool is done has its answer, or can come nearer to it. -/
theorem TimelyRun.returned_or_nearer (h : TimelyRun s σ) (hlaunch : s.launch = .ok child)
    (hending : child.ending = some (since, status)) (hdone : Done σ) (hset : σ.deadline ≠ none) :
    (∃ answer, σ.position = .returned answer) ∨ Nearer s σ := by
  have htrack := h.onTrack hlaunch hending
  have hplaced := h.run.invariant.placed
  unfold OnTrack at htrack
  unfold Placed at hplaced
  -- A done tool rules out the positions before its start, between look and clock, and of a kill.
  cases hposition : σ.position with
  | starting =>
      rw [hposition] at htrack
      exact absurd htrack hdone.not_running.2
  | started =>
      rw [hposition] at hplaced
      exact absurd hplaced.1 hset
  | looking =>
      rw [hposition] at htrack
      exact .inr (hdone.nearer_of_looking hset hposition htrack)
  | comparing =>
      rw [hposition] at htrack
      exact absurd htrack hdone.not_running.1
  | sleeping wake => exact .inr (hdone.nearer_of_sleeping hset hposition)
  | killing | waiting =>
      rw [hposition] at htrack
      exact htrack.elim
  | judging status' =>
      right
      cases hstatus : status'.isSuccess with
      | false =>
          have hstep : Own s σ _ := .judgeFailed hposition hstatus
          exact hdone.nearer hset hposition hstep (by simp) (by simp [stepsLeft])
      | true =>
          have hstep : Own s σ _ := .judgeSuccess hposition hstatus
          exact hdone.nearer hset hposition hstep (by simp) (by simp [stepsLeft])
  | measuring =>
      rcases Option.ne_none_iff_exists'.1 hset with ⟨d, hdeadline⟩
      have hstep : Own s σ _ := .measure hposition hdeadline
      exact .inr (hdone.nearer hset hposition hstep (by simp) (by simp [stepsLeft]))
  | turning remaining =>
      have hstep : Own s σ _ := .turn hposition
      exact .inr (hdone.nearer hset hposition hstep (by simp) (by simp [stepsLeft]))
  | receiving last =>
      rcases hdone.sent with ⟨result, hsent⟩
      have hstep : Own s σ _ := .take hposition hsent
      exact .inr (hdone.nearer hset hposition hstep (by simp) (by simp [stepsLeft]))
  | expiring last =>
      rw [hposition] at htrack
      rcases hdone.sent with ⟨result, hsent⟩
      exact absurd hsent (htrack result)
  | returned answer => exact .inl ⟨answer, rfl⟩
  | aborted =>
      rw [hposition] at htrack
      exact absurd htrack hset

/-- A lookup whose tool is done, and whose deadline is set, can go on to the plain answer. -/
theorem TimelyRun.exists_returned (h : TimelyRun s σ) (hlaunch : s.launch = .ok child)
    (hending : child.ending = some (since, status)) (hdone : Done σ) (hset : σ.deadline ≠ none) :
    ∃ τ, ReflTransGen (Timely s) σ τ ∧ τ.position = .returned (plain status child.output) := by
  -- The induction is on the steps that are left.
  induction hleft : stepsLeft σ.position using Nat.strongRecOn generalizing σ with
  | ind left ih =>
      rcases h.returned_or_nearer hlaunch hending hdone hset with ⟨answer, hposition⟩ | hnearer
      · have htrack := h.onTrack hlaunch hending
        unfold OnTrack at htrack
        rw [hposition] at htrack
        exact ⟨σ, .refl, htrack ▸ hposition⟩
      · rcases hnearer with ⟨τ, hrest, hdone', hset', hless⟩
        rcases ih _ (hleft ▸ hless) (h.trans hrest) hdone' hset' rfl with ⟨υ, hlast, hposition⟩
        exact ⟨υ, hrest.trans hlast, hposition⟩

end Lookup
end BuildStamp
