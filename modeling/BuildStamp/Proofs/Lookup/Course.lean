import BuildStamp.Proofs.Lookup.Deadline
import BuildStamp.Proofs.Lookup.Looks
import BuildStamp.Proofs.Lookup.Safety

/-!
# Course — the looks come to an end

A bound on the looks does not say that a lookup ever leaves them.  It does, with a verdict: a
status, a refusal, or that the time is over.  Before that it always has a step to take, and each
step is one of those that the bound leaves, three for every look.  All that is asked of the
surroundings is that they do not put the lookup off forever: in particular every sleep comes to its
end.

* `Lookup.Position.Undecided`, `Lookup.Decided` — before the verdict and with it;
* `Lookup.Course` — a run that goes on forever, in which the lookup is not put off forever;
* `Lookup.Paced.exists_course` — every run can go on like that;
* `Lookup.Course.exists_decided` — the lookup then comes to a verdict;
* `Lookup.GivenUp` — a child that is given up is ended by force, and the answer is a timeout;
* `Lookup.looks_end` — the bound and the end, in all runs and for the lookup that is carried out.
-/

namespace BuildStamp
namespace Lookup

variable {s : Scenario} {σ τ : State} {n : Nat}

/-! ## Verdicts -/

/-- There is no verdict yet: the looks did not begin, or go on. -/
def Position.Undecided : Position → Prop
  | .starting | .started | .looking | .comparing | .sleeping _ => True
  | _ => False

/-- There is a verdict. -/
inductive Decided : Position → Prop where
  | ended (status : ExitStatus) : Decided (.judging status)
  | refused (cause : IoError) : Decided (.returned (.error (.wait cause)))
  | late : Decided .killing

/-- Where the deadline is still to be set, the clock can show it. -/
def Shown (s : Scenario) (σ : State) : Prop :=
  σ.position = .starting ∨ σ.position = .started → deadlineFits σ.now s.limit = true

/-- A lookup that is able to start its tool and to set a deadline leaves the looks with a
verdict. -/
theorem Own.decided {child : Child} (h : Own s σ τ) (hlaunch : s.launch = .ok child)
    (hshown : Shown s σ) (hbefore : σ.position.Undecided) (hbehind : ¬ τ.position.Undecided) :
    Decided τ.position := by
  cases h with
  | spawnRefused hrefused => cases hlaunch.symm.trans hrefused
  | overflow hposition hunfit => cases (hshown (.inr hposition)).symm.trans hunfit
  | lookRefused => exact .refused _
  | lookEnded => exact .ended _
  | late => exact .late
  | spawn | setDeadline | lookRunning | early | wake => exact absurd trivial hbehind
  | kill hposition | killRefused hposition | wait hposition | judgeFailed hposition
  | judgeSuccess hposition | measure hposition | turn hposition | take hposition | miss hposition
  | expire hposition | resume hposition =>
      rw [hposition] at hbefore
      exact hbefore.elim

/-! ## Steps that are left -/

/-- The steps of the lookup that are left before the verdict, at most: three for each look. -/
def stepsAhead (s : Scenario) (t : Tally) : Nat :=
  let ahead := 3 * (mostLooks s.limit - t.looks)
  match t.state.position with
  | .starting | .comparing => ahead + 2
  | .started | .sleeping _ => ahead + 1
  | .looking => ahead
  | _ => 0

/-- Every step of the lookup before the verdict is one of those that were left. -/
theorem Own.stepsAhead_lt (h : Own s σ τ) (hpaced : Paced s n σ)
    (hundecided : τ.position.Undecided) :
    stepsAhead s ⟨n + σ.position.looks, τ⟩ < stepsAhead s ⟨n, σ⟩ := by
  unfold Paced at hpaced
  cases h with
  | spawn _ hposition | setDeadline hposition | early hposition | wake hposition =>
      simp [stepsAhead, hposition, Position.looks]
  | lookRunning hposition =>
      -- A look uses up three steps of the bound, and two more belong to it.
      rw [hposition] at hpaced
      obtain ⟨-, hroom, -⟩ := hpaced
      simp only [stepsAhead, hposition, Position.looks]
      omega
  | _ => exact hundecided.elim

/-- The lookup stays where it is, or has fewer steps left. -/
def Onward (s : Scenario) (t u : Tally) : Prop :=
  (u.state.position = t.state.position ∧ stepsAhead s u = stepsAhead s t) ∨
    stepsAhead s u < stepsAhead s t

theorem Onward.trans {t u v : Tally} (h : Onward s t u) (hrest : Onward s u v) :
    Onward s t v := by
  rcases h with ⟨hposition, hsame⟩ | hless
  · rcases hrest with ⟨hposition', hsame'⟩ | hless'
    · exact .inl ⟨hposition'.trans hposition, hsame'.trans hsame⟩
    · exact .inr (hsame ▸ hless')
  · rcases hrest with ⟨-, hsame'⟩ | hless'
    · exact .inr (hsame' ▸ hless)
    · exact .inr (Nat.lt_trans hless' hless)

theorem Counted.onward {t u : Tally} (h : Counted s t u) (hpaced : Paced s t.looks t.state)
    (hundecided : u.state.position.Undecided) : Onward s t u := by
  cases h with
  | around hstep => exact .inl ⟨hstep.position, by simp only [stepsAhead, hstep.position]⟩
  | own hstep => exact .inr (hstep.stepsAhead_lt hpaced hundecided)

/-! ## Courses -/

/-- A run that goes on forever.  Before the verdict the lookup is not put off forever, and the clock
can show its deadline. -/
structure Course (s : Scenario) (f : Nat → Tally) : Prop where
  step : ∀ i, Counted s (f i) (f (i + 1))
  -- The lookup does not stay at one position forever.
  moves : ∀ i, (f i).state.position.Undecided →
    ∃ j, i ≤ j ∧ (f j).state.position ≠ (f i).state.position
  -- The deadline can be set.
  shown : ∀ i, Shown s (f i).state

section
variable {f : Nat → Tally}

theorem Course.run (h : Course s f) (hstart : f 0 = ⟨0, s.initial⟩) (i : Nat) :
    CountedRun s (f i) := by
  induction i with
  | zero => rw [hstart]
  | succ i ih => exact .tail ih (h.step i)

theorem Course.onward (h : Course s f) (hstart : f 0 = ⟨0, s.initial⟩) {i : Nat}
    (hundecided : ∀ j, (f j).state.position.Undecided) {j : Nat} (hij : i ≤ j) :
    Onward s (f i) (f j) := by
  induction j, hij using Nat.le_induction with
  | base => exact .inl ⟨rfl, rfl⟩
  | succ j hij ih => exact ih.trans ((h.step j).onward (h.run hstart j).paced (hundecided _))

/-- The lookup does not look forever. -/
theorem Course.exists_not_undecided (h : Course s f) (hstart : f 0 = ⟨0, s.initial⟩) :
    ∃ i, ¬ (f i).state.position.Undecided := by
  by_contra hnone
  have hundecided (i : Nat) : (f i).state.position.Undecided := by
    by_contra hdecided
    exact hnone ⟨i, hdecided⟩
  -- A lookup that moves has fewer steps left, and there is no end to its moves.
  have hfrom (k i : Nat) (hk : stepsAhead s (f i) = k) : False := by
    induction k using Nat.strong_induction_on generalizing i with
    | _ k ih =>
        obtain ⟨j, hij, hmoved⟩ := h.moves i (hundecided i)
        rcases h.onward hstart hundecided hij with ⟨hstays, -⟩ | hless
        · exact hmoved hstays
        · exact ih _ (hk ▸ hless) j rfl
  exact hfrom _ 0 rfl

/-- The lookup comes to a verdict. -/
theorem Course.exists_decided (h : Course s f) (hstart : f 0 = ⟨0, s.initial⟩) {child : Child}
    (hlaunch : s.launch = .ok child) : ∃ i, Decided (f i).state.position := by
  classical
  have hexists := h.exists_not_undecided hstart
  have hfirst : Nat.find hexists ≠ 0 := by
    intro hzero
    have hover := Nat.find_spec hexists
    rw [hzero, hstart] at hover
    exact hover trivial
  -- Only a step of the lookup leads from the last state without a verdict to the first with one.
  obtain ⟨i, hi⟩ := Nat.exists_eq_add_one_of_ne_zero hfirst
  have hover : ¬ (f (i + 1)).state.position.Undecided := hi ▸ Nat.find_spec hexists
  have hbefore : (f i).state.position.Undecided := by
    by_contra hearlier
    exact Nat.find_min hexists (by omega) hearlier
  have hstep := h.step i
  have hshown := h.shown i
  refine ⟨i + 1, ?_⟩
  generalize f (i + 1) = u at hstep hover ⊢
  generalize f i = t at hstep hbefore hshown
  cases hstep with
  | around hstep =>
      rw [hstep.position] at hover
      exact absurd hbefore hover
  | own hstep => exact hstep.decided hlaunch hshown hbefore hover

end

/-! ## Every run can go on -/

/-- The same state, so much later. -/
def State.later (σ : State) (d : Nat) : State :=
  { σ with now := σ.now + d }

/-- How long the next step of the lookup may have to wait. -/
def Position.rest : Position → Nat
  | .sleeping wake => wake
  | _ => 0

/-- Before the verdict the lookup always has a step to take, if it has slept. -/
theorem Paced.exists_own (h : Paced s n σ) (hundecided : σ.position.Undecided) :
    ∃ τ, Own s (σ.later σ.position.rest) τ := by
  unfold Paced at h
  cases hposition : σ.position with
  | starting =>
      cases hlaunch : s.launch with
      | error cause => exact ⟨_, .spawnRefused hlaunch hposition⟩
      | ok child => exact ⟨_, .spawn hlaunch hposition⟩
  | started =>
      cases hfits : deadlineFits σ.now s.limit with
      | false => exact ⟨_, .overflow hposition hfits⟩
      | true => exact ⟨_, .setDeadline hposition hfits⟩
  | looking =>
      rw [hposition] at h
      -- Nobody but the lookup kills the child, so it runs or has ended by itself.
      rcases h.1 with hrunning | ⟨ending, hended⟩
      · exact ⟨_, .lookRunning hposition hrunning⟩
      · exact ⟨_, .lookEnded hposition hended⟩
  | comparing =>
      rw [hposition] at h
      obtain ⟨-, -, before, -, d, hdeadline, -⟩ := h
      rcases Nat.lt_or_ge σ.now d with hearly | hlate
      · exact ⟨_, .early hposition hdeadline hearly⟩
      · exact ⟨_, .late hposition hdeadline hlate⟩
  | sleeping wake => exact ⟨_, .wake hposition (Nat.le_add_left wake σ.now)⟩
  | _ =>
      rw [hposition] at hundecided
      exact hundecided.elim

theorem Shown.later (h : Shown s σ) : Shown s (σ.later σ.position.rest) := by
  intro hposition
  -- The deadline is set before the lookup ever sleeps.
  have hrest : σ.position.rest = 0 := by
    rcases hposition with hposition | hposition <;>
    · change σ.position = _ at hposition
      rw [hposition]
      rfl
  rw [State.later, hrest]
  exact h hposition

theorem Shown.own (h : Shown s σ) (hstep : Own s σ τ) : Shown s τ := by
  intro hposition
  cases hstep with
  | spawn _ hstarting => exact h (.inl hstarting)
  | _ => simp at hposition

/-- A state in front of others. -/
def Tally.before (t : Tally) (f : Nat → Tally) : Nat → Tally
  | 0 => t
  | i + 1 => f i

/-- A lookup with a verdict may stay as it is. -/
theorem Course.still {t : Tally} (h : ¬ t.state.position.Undecided) : Course s (fun _ => t) := by
  refine ⟨fun _ => .around (.tick t.state 0), fun _ hundecided => absurd hundecided h, ?_⟩
  rintro - (hposition | hposition) <;>
  · rw [hposition] at h
    exact absurd trivial h

theorem Course.before {t : Tally} {f : Nat → Tally} (h : Course s f) (hstep : Counted s t (f 0))
    (hshown : Shown s t.state) : Course s (t.before f) := by
  refine ⟨?_, ?_, ?_⟩
  · rintro (_ | i)
    · exact hstep
    · exact h.step i
  · rintro (_ | i) hundecided
    -- If the first step does not move the lookup, what moves it behind that step does.
    · by_cases hstays : (f 0).state.position = t.state.position
      · have hundecided' : (f 0).state.position.Undecided := hstays ▸ hundecided
        obtain ⟨j, -, hmoved⟩ := h.moves 0 hundecided'
        exact ⟨j + 1, Nat.zero_le _, hstays ▸ hmoved⟩
      · exact ⟨1, Nat.zero_le _, hstays⟩
    · obtain ⟨j, hij, hmoved⟩ := h.moves i hundecided
      exact ⟨j + 1, Nat.succ_le_succ hij, hmoved⟩
  · rintro (_ | i)
    · exact hshown
    · exact h.shown i

/-- Every run can go on without the lookup being put off. -/
theorem Paced.exists_course (h : Paced s n σ) (hshown : Shown s σ) :
    ∃ f, f 0 = ⟨n, σ⟩ ∧ Course s f := by
  -- The induction is on the steps that are left, each of which the lookup takes.
  induction hk : stepsAhead s ⟨n, σ⟩ using Nat.strong_induction_on generalizing n σ with
  | _ k ih =>
      by_cases hundecided : σ.position.Undecided
      · obtain ⟨τ, hown⟩ := h.exists_own hundecided
        have htick : Around s σ (σ.later σ.position.rest) := .tick σ σ.position.rest
        have hlater := h.around htick
        have hnext := hlater.own hown
        obtain ⟨f, hf, hcourse⟩ : ∃ f, f 0 = ⟨n + σ.position.looks, τ⟩ ∧ Course s f := by
          by_cases hundecided' : τ.position.Undecided
          · have hless := hown.stepsAhead_lt hlater hundecided'
            exact ih _ (hk ▸ hless) hnext (hshown.later.own hown) rfl
          · exact ⟨fun _ => _, rfl, .still hundecided'⟩
        have hstep : Counted s ⟨n, σ.later σ.position.rest⟩ (f 0) := hf ▸ .own hown
        exact ⟨_, rfl, (hcourse.before hstep hshown.later).before (.around htick) hshown⟩
      · exact ⟨fun _ => _, rfl, .still hundecided⟩

/-! ## Children that are given up -/

/-- The child is given up: the answer can only be that the time is over. -/
def GivenUp (s : Scenario) : Position → Prop
  | .killing | .waiting => True
  | .returned answer => answer = .error (.timeout s.limit)
  | _ => False

theorem Own.givenUp (h : Own s σ τ) (hgiven : GivenUp s σ.position) : GivenUp s τ.position := by
  cases h with
  | kill | killRefused => trivial
  | wait => rfl
  | spawnRefused _ hposition | spawn _ hposition | setDeadline hposition | overflow hposition
  | lookRefused hposition | lookEnded hposition | lookRunning hposition | late hposition
  | early hposition | wake hposition | judgeFailed hposition | judgeSuccess hposition
  | measure hposition | turn hposition | take hposition | miss hposition | expire hposition
  | resume hposition =>
      rw [hposition] at hgiven
      exact hgiven.elim

/-- A child that is given up stays so. -/
theorem GivenUp.reaches (hgiven : GivenUp s σ.position) (h : Reaches s σ τ) :
    GivenUp s τ.position := by
  induction h with
  | refl => exact hgiven
  | tail _ hstep ih =>
      cases hstep with
      | around hstep => exact hstep.position ▸ ih
      | own hstep => exact hstep.givenUp ih

/-- A child that is given up is made to end, whether or not it would by itself. -/
theorem Watched.exists_timeout (h : Watched σ) (hposition : σ.position = .killing) :
    ∃ τ, Reaches s σ τ ∧ τ.position = .returned (.error (.timeout s.limit)) := by
  let killed : State := { σ with killedAt := some σ.now, position := .waiting }
  have hkill : Own s σ killed := .kill hposition
  rcases h with hrunning | ⟨ending, hended⟩
  · have hdies : Around s killed { killed with process := .ended .byForce } := .dies rfl hrunning
    have hwait : Own s { killed with process := .ended .byForce } _ := .wait rfl rfl
    exact ⟨_, hkill.reaches (hdies.reaches (.single (.own hwait))), rfl⟩
  · have hwait : Own s killed _ := .wait rfl hended
    exact ⟨_, hkill.reaches (.single (.own hwait)), rfl⟩

/-! ## All lookups -/

/-- In every run, each of which has its number of looks, the child is looked at no more often than
the bound says, and the run can go on without the lookup being put off forever.  If it goes on like
that the looks end: with a status, with a refusal, or because the time is over.  In the last case
the only answer is a timeout, and there is a way to it, also if the child would never end.  The
lookup that is carried out comes to its answer within the same bound. -/
theorem looks_end :
    (∀ (s : Scenario) (σ : State), Run s σ ↔ ∃ n, CountedRun s ⟨n, σ⟩) ∧
    (∀ (s : Scenario) (t : Tally), CountedRun s t →
      t.looks ≤ mostLooks s.limit ∧
      (Shown s t.state → ∃ f, f 0 = t ∧ Course s f) ∧
      (t.state.position = .killing →
        (∃ τ, Reaches s t.state τ ∧ τ.position = .returned (.error (.timeout s.limit))) ∧
        ∀ τ answer, Reaches s t.state τ → τ.position = .returned answer →
          answer = .error (.timeout s.limit))) ∧
    (∀ (s : Scenario) (child : Child) (f : Nat → Tally), s.launch = .ok child →
      f 0 = ⟨0, s.initial⟩ → Course s f →
      ∃ i, Decided (f i).state.position ∧ (f i).looks ≤ mostLooks s.limit) ∧
    (∀ (l : CommitLookup) (host : Host) (files : FileSystem) (directory : Path) (child : Child),
      l.start host files directory = .ok child → deadlineFits host.uptime l.limit = true →
      ∃ v after,
        pollWithin host.schedule l.limit.nanoseconds child (mostLooks l.limit) 0
          (host.schedule.delay 0) = some v ∧
        l.find host files directory = .ok ⟨conclude l.limit child v, after⟩) := by
  refine ⟨fun s σ => run_iff_counted, ?_, ?_, ?_⟩
  · intro s t hrun
    have hpaced := hrun.paced
    refine ⟨hpaced.le_mostLooks, hpaced.exists_course, fun hposition => ⟨?_, ?_⟩⟩
    · unfold Paced at hpaced
      rw [hposition] at hpaced
      exact hpaced.1.exists_timeout hposition
    · intro τ answer hreaches hanswer
      -- Who has given up answers nothing but the timeout, whatever the others do.
      have hgiven : GivenUp s t.state.position := by
        rw [hposition]
        trivial
      have hgiven' := hgiven.reaches hreaches
      rwa [hanswer] at hgiven'
  · intro s child f hlaunch hstart hcourse
    obtain ⟨i, hdecided⟩ := hcourse.exists_decided hstart hlaunch
    exact ⟨i, hdecided, (hcourse.run hstart i).paced.le_mostLooks⟩
  · intro l host files directory child hstart hfits
    exact ⟨_, _, pollWithin_mostLooks host.schedule l.limit child,
      CommitLookup.find_of_started hstart hfits⟩

/-! ## A tool that never ends -/

/-- A tool that never ends, and keeps its output open. -/
def silentChild : Child where
  ending := none
  output := .ok .empty
  closing := none

/-- It has somewhat more time than there is between two looks. -/
def silentScenario : Scenario where
  launch := .ok silentChild
  limit := ⟨30000000⟩
  uptime := 0

/-- A host on which every tool is of this kind. -/
def silentHost : Host :=
  { Generator.secondOldHost with programs := fun _ _ _ => .ok silentChild }

/-- Three looks bring the lookup of such a tool to its end, and two do not. -/
theorem looks_end_silent :
    (∃ f, f 0 = ⟨0, silentScenario.initial⟩ ∧ Course silentScenario f ∧
      ∃ i, Decided (f i).state.position ∧ (f i).looks ≤ 3) ∧
    (∃ v after, pollWithin .prompt 30000000 silentChild 3 0 0 = some v ∧
      (CommitLookup.mk ⟨"git", []⟩ ⟨30000000⟩).find silentHost ⟨[]⟩ ⟨"."⟩ =
        .ok ⟨conclude ⟨30000000⟩ silentChild v, after⟩) ∧
    pollWithin .prompt 30000000 silentChild 2 0 0 = none := by
  have hmost : mostLooks silentScenario.limit = 3 := by decide
  have hshown : Shown silentScenario silentScenario.initial := fun _ => by decide
  refine ⟨?_, ?_, ?_⟩
  · obtain ⟨f, hstart, hcourse⟩ :=
      (looks_end.2.1 silentScenario ⟨0, silentScenario.initial⟩ .refl).2.1 hshown
    have hlooks := looks_end.2.2.1 silentScenario silentChild f rfl hstart hcourse
    rw [hmost] at hlooks
    exact ⟨f, hstart, hcourse, hlooks⟩
  · have hlooks := looks_end.2.2.2 ⟨⟨"git", []⟩, silentScenario.limit⟩ silentHost ⟨[]⟩ ⟨"."⟩
      silentChild rfl (by decide)
    simp only [hmost] at hlooks
    exact hlooks
  · have hroom : 2 < mostLooks silentScenario.limit := by
      rw [hmost]
      decide
    exact pollWithin_of_running (fun _ => rfl) hroom

end Lookup
end BuildStamp
