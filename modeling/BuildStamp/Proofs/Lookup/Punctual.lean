import BuildStamp.Proofs.Lookup.Deadline
import BuildStamp.Proofs.Lookup.Safety
import BuildStamp.Proofs.Lookup.Timely

/-!
# Punctual — answers that no schedule changes

A tool that is done before its time is over has one answer, whatever the schedule is: that of a
plain run of the tool.  This holds of all runs in which the tool is done in time, and of the lookup
that is carried out, whenever it looks.

* `Lookup.Punctual` — a child that is done before its time is over;
* `Lookup.poll_of_ending` — it is found to have ended;
* `CommitLookup.find_of_punctual` — the lookup of such a child;
* `Lookup.answers_plain` — all answers are those of a plain run;
* `Lookup.answers_plain_oversleeping` — also where the lookup sleeps behind its deadline.
-/

namespace BuildStamp
namespace Lookup

open Relation (ReflTransGen)

variable {child : Child} {status : ExitStatus} {since : Nat}

/-! ## The lookup that is carried out -/

/-- The child ends with this status, and its output is complete, before the time is over; and the
system tells about it. -/
structure Punctual (child : Child) (status : ExitStatus) (limit : Duration) : Prop where
  told : child.lost = none
  ended : ∃ since, child.ending = some (since, status) ∧ since < limit.nanoseconds
  complete : ∃ since, child.closing = some since ∧ since < limit.nanoseconds

/-- A look at a child about which the system tells shows whether it has ended. -/
theorem look_of_told (hlost : child.lost = none) (hending : child.ending = some (since, status))
    (now : Nat) : child.look now = if since ≤ now then .ended status else .running := by
  simp [Child.look, Child.look.shown, hlost, hending]

/-- A child that ends before its time is over is found to have ended, at whatever look. -/
theorem poll_of_ending (hlost : child.lost = none) (hending : child.ending = some (since, status))
    {limit : Nat} (hsince : since < limit) (schedule : Schedule) (count now : Nat) :
    ∃ seen, poll schedule limit child count now = .ended status seen := by
  have hlook := look_of_told hlost hending
  -- The induction follows the looks: while the child runs, there is time left for another one.
  induction count, now using poll.induct schedule limit child with
  | case1 count now cause hrefused =>
      rw [hlook now] at hrefused
      split at hrefused <;> cases hrefused
  | case2 count now status' hended =>
      have hstatus : status' = status := by
        rw [hlook now] at hended
        split at hended
        · exact (Look.ended.inj hended).symm
        · cases hended
      exact ⟨now, by rw [poll, hended, hstatus]⟩
  | case3 count now hrunning hlate =>
      rw [hlook now, if_pos (by omega)] at hrunning
      cases hrunning
  | case4 count now hrunning hearly ih =>
      rcases ih with ⟨seen, hseen⟩
      refine ⟨seen, ?_⟩
      rw [poll, hrunning]
      simpa only [if_neg hearly] using hseen

theorem outcome_of_punctual {limit : Duration} (h : Punctual child status limit)
    (schedule : Schedule) : outcome schedule limit child = plain status child.output := by
  rcases h with ⟨htold, ⟨since, hending, hsince⟩, closing, hclosing, hless⟩
  rcases poll_of_ending htold hending hsince schedule 0 (schedule.delay 0) with ⟨seen, hseen⟩
  unfold outcome verdict
  rw [hseen]
  cases hstatus : status.isSuccess with
  | false => simp [conclude, hstatus, plain_of_failure hstatus]
  | true =>
      have hcomplete : child.isComplete (max limit.nanoseconds seen) = true := by
        simp only [Child.isComplete, hclosing, Option.any_some, decide_eq_true_eq]
        omega
      simp [conclude, hstatus, hcomplete, plain_of_success hstatus]

end Lookup

namespace CommitLookup

open Lookup

variable {l : CommitLookup} {host : Host} {files : FileSystem} {directory : Path} {child : Child}
  {status : ExitStatus}

/-- A lookup whose tool is done in time comes to what a plain run of the tool comes to. -/
theorem find_of_punctual (hstart : l.start host files directory = .ok child)
    (hpunctual : Punctual child status l.limit)
    (hfits : deadlineFits host.uptime l.limit = true) :
    ∃ after, l.find host files directory = .ok ⟨plain status child.output, after⟩ := by
  rw [find_of_started hstart hfits, outcome_of_punctual hpunctual]
  exact ⟨_, rfl⟩

end CommitLookup

namespace Lookup

open Relation (ReflTransGen)

/-! ## All schedules -/

/-- In every run with a tool that ends, and whose result is handed over, before the deadline, the
answer is that of a plain run of the tool, which is no timeout; so two such runs have the same
answer.  Once the tool is done, the lookup can go on to this answer.  The lookup that is carried out
gives it too, whenever it looks. -/
theorem answers_plain :
    (∀ (s : Scenario) (child : Child) (since : Nat) (status : ExitStatus),
      s.launch = .ok child → child.ending = some (since, status) → ∀ σ, TimelyRun s σ →
        (∀ answer, σ.position = .returned answer →
          answer = plain status child.output ∧ ∀ limit, answer ≠ .error (.timeout limit)) ∧
        (Done σ → σ.deadline ≠ none →
          ∃ τ, ReflTransGen (Timely s) σ τ ∧ τ.position = .returned (plain status child.output))) ∧
    (∀ (s s' : Scenario) (child child' : Child) (since since' : Nat) (status : ExitStatus),
      s.launch = .ok child → s'.launch = .ok child' → child.ending = some (since, status) →
      child'.ending = some (since', status) → child.output = child'.output →
      ∀ σ σ' answer answer', TimelyRun s σ → TimelyRun s' σ' → σ.position = .returned answer →
        σ'.position = .returned answer' → answer = answer') ∧
    (∀ (l : CommitLookup) (host : Host) (files : FileSystem) (directory : Path) (child : Child)
      (status : ExitStatus), l.start host files directory = .ok child →
      Punctual child status l.limit → deadlineFits host.uptime l.limit = true →
      ∃ after, l.find host files directory = .ok ⟨plain status child.output, after⟩) := by
  -- A timely run stays on the track of one answer, which the schedule has no part in.
  have hanswer {s : Scenario} {child : Child} {since : Nat} {status : ExitStatus} {σ : State}
      {answer : Except LookupError String} (hlaunch : s.launch = .ok child)
      (hending : child.ending = some (since, status)) (hrun : TimelyRun s σ)
      (hposition : σ.position = .returned answer) : answer = plain status child.output := by
    have htrack := hrun.onTrack hlaunch hending
    unfold OnTrack at htrack
    rwa [hposition] at htrack
  refine ⟨?_, ?_, fun l host files directory child status => CommitLookup.find_of_punctual⟩
  · intro s child since status hlaunch hending σ hrun
    constructor
    · intro answer hposition
      obtain rfl := hanswer hlaunch hending hrun hposition
      exact ⟨rfl, plain_ne_timeout status child.output⟩
    · exact hrun.exists_returned hlaunch hending
  · intro s s' child child' since since' status hlaunch hlaunch' hending hending' houtput σ σ'
      answer answer' hrun hrun' hposition hposition'
    calc
      answer = plain status child.output := hanswer hlaunch hending hrun hposition
      _ = plain status child'.output := by rw [houtput]
      _ = answer' := (hanswer hlaunch' hending' hrun' hposition').symm

/-! ## A lookup that oversleeps its deadline -/

/-- A tool that prints a commit and ends at once, and has less time than there is between two
looks. -/
def briefScenario : Scenario where
  launch := .ok
    { ending := some (1, .exited 0), output := .ok "abc1234".toUTF8, closing := some 2 }
  limit := ⟨10000000⟩
  uptime := 0

/-- The state in which the tool was found running, and is done while the lookup sleeps. -/
def oversleeping : State :=
  ⟨2, 0, some 10000000, none, .ended (.byItself (.exited 0)), .sent (.ok "abc1234".toUTF8),
    .sleeping 25000000⟩

theorem oversleeping_done : Done oversleeping :=
  ⟨⟨_, .inl rfl⟩, ⟨_, rfl⟩⟩

theorem timelyRun_oversleeping : TimelyRun briefScenario oversleeping := by
  -- In every state but the last one the deadline lies ahead.
  have ahead {σ : State} (h : σ.deadline.all (σ.now < ·) = true) : InTime σ := by
    intro d hdeadline hlate
    rw [hdeadline] at h
    exact absurd hlate (Nat.not_le.2 (by simpa using h))
  have own {σ τ : State} (h : Own briefScenario σ τ) (hanswer : ∀ a, τ.position ≠ .returned a)
      (hahead : τ.deadline.all (τ.now < ·) = true) : Timely briefScenario σ τ :=
    .own h (fun _ => hanswer) (ahead hahead)
  have asleep {σ τ : State} {wake : Nat} (h : Around briefScenario σ τ)
      (hposition : σ.position = .sleeping wake) (hahead : τ.deadline.all (τ.now < ·) = true) :
      Timely briefScenario σ τ :=
    .around h (by simp [hposition]) (by simp [hposition]) (ahead hahead)
  refine .head (own (.spawn rfl rfl) (by simp) rfl) ?_
  refine .head (own (.setDeadline rfl rfl) (by simp) rfl) ?_
  refine .head (own (.lookRunning rfl rfl) (by simp) rfl) ?_
  refine .head (own (.early rfl rfl (by decide)) (by simp) rfl) ?_
  refine .head (asleep (.tick _ 2) rfl rfl) ?_
  refine .head (asleep (.ends rfl rfl (by decide) rfl) rfl rfl) ?_
  refine .head (asleep (.closes rfl rfl (by decide) rfl) rfl rfl) ?_
  exact .single (asleep (.sends rfl) rfl rfl)

/-- The next look comes behind the deadline, and the answer is the commit. -/
theorem answers_plain_oversleeping :
    TimelyRun briefScenario oversleeping ∧ Done oversleeping ∧
      ∃ τ, ReflTransGen (Timely briefScenario) oversleeping τ ∧
        τ.position = .returned (.ok "abc1234") := by
  have hplain : plain (.exited 0) (.ok "abc1234".toUTF8) = .ok "abc1234" := by
    have htext : String.fromUTF8? "abc1234".toUTF8 = some "abc1234" :=
      dif_pos "abc1234".isValidUTF8
    have htrim : Text.trim "abc1234" = "abc1234" := by decide +kernel
    rw [plain_of_text rfl htext (by decide +kernel), htrim]
  have hlookup := answers_plain.1 briefScenario _ 1 (.exited 0) rfl rfl oversleeping
    timelyRun_oversleeping
  rcases hlookup.2 oversleeping_done (by simp [oversleeping]) with ⟨τ, hrest, hposition⟩
  exact ⟨timelyRun_oversleeping, oversleeping_done, τ, hrest, hplain ▸ hposition⟩

end Lookup
end BuildStamp
