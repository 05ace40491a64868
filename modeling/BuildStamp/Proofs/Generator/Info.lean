import BuildStamp.Proofs.Generator.Isolation
import BuildStamp.Proofs.Text.Lines
import BuildStamp.Proofs.Time.Reading

/-!
# Info — what a build info holds

The three values of a build info come from the clock, the settings and the tool, and none of them is
blank, whatever these are.  The time has a letter in it.  A version that is blank, or not given at
all, is replaced, and any other one is stamped as it is given.  The output of the tool is stamped
without the blanks at its ends if the lookup succeeds, which it does not if nothing else is left;
and if it does not succeed a word is stamped that stands for an unknown commit.

* `Lookup.Delivered` — tools whose output is taken, and the text of it;
* `Lookup.outcome_eq_ok_iff`, `CommitLookup.commit_eq_ok_iff` — the lookups that succeed;
* `CommitLookup.commitOf_cases`, `Config.resolvedVersion_cases` — what is stamped;
* `Generator.capture_filled` — the build info as a whole.
-/

namespace BuildStamp

/-! ## Lookups that succeed -/

namespace Lookup

variable {schedule : Schedule} {limit : Duration} {child : Child} {hash : String}

/-- The output of a child is taken, and is this text: the child is seen to have ended with success,
its output is complete when it has to be, and it is the UTF-8 of a text that is not blank. -/
structure Delivered (schedule : Schedule) (limit : Duration) (child : Child) (text : String) :
    Prop where
  -- The child succeeded, and its output is complete.
  success : ∃ status now, verdict schedule limit child = .ended status now ∧
    status.isSuccess = true ∧ child.isComplete (max limit.nanoseconds now) = true
  output : child.output = .ok text.toUTF8
  -- The text is not blank.
  shown : Text.isBlankText text = false

theorem classify_toUTF8 (text : String) :
    classify (.ok text.toUTF8) =
      if Text.isBlankText text then .error .emptyOutput else .ok (Text.trim text) := by
  simp only [classify, FileSystem.fromUTF8?_toUTF8, Text.trim_eq_empty_iff]

/-- An output gives a commit exactly if it is a text that is not blank, and the commit is what is
left of the text. -/
theorem classify_eq_ok_iff {output : Except IoError ByteArray} :
    classify output = .ok hash ↔
      ∃ text : String, output = .ok text.toUTF8 ∧ Text.isBlankText text = false ∧
        hash = Text.trim text := by
  constructor
  · intro h
    cases output with
    | error cause => cases h
    | ok bytes =>
        cases htext : String.fromUTF8? bytes with
        | none => simp [classify, htext] at h
        | some text =>
            obtain rfl := FileSystem.fromUTF8?_eq_some_iff.1 htext
            rw [classify_toUTF8] at h
            cases hblank : Text.isBlankText text with
            | true => simp [hblank] at h
            | false =>
                rw [hblank] at h
                exact ⟨text, rfl, hblank, (Except.ok.inj h).symm⟩
  · rintro ⟨text, rfl, hblank, rfl⟩
    rw [classify_toUTF8, hblank]
    rfl

/-- Of all that the looks can end with, only a success leads on to the output, and only if that is
complete. -/
theorem conclude_eq_ok_iff {v : Verdict} :
    conclude limit child v = .ok hash ↔
      ∃ status now, v = .ended status now ∧ status.isSuccess = true ∧
        child.isComplete (max limit.nanoseconds now) = true ∧ classify child.output = .ok hash := by
  cases v with
  | refused cause now => simp [conclude]
  | late now => simp [conclude]
  | ended status now =>
      cases hstatus : status.isSuccess with
      | false => simp [conclude, hstatus]
      | true =>
          cases hcomplete : child.isComplete (max limit.nanoseconds now) with
          | false => simp [conclude, hstatus, hcomplete]
          | true => simp [conclude, hstatus, hcomplete]

/-- A child gives a commit exactly if its output is taken. -/
theorem outcome_eq_ok_iff :
    outcome schedule limit child = .ok hash ↔
      ∃ text, Delivered schedule limit child text ∧ hash = Text.trim text := by
  unfold outcome
  rw [conclude_eq_ok_iff]
  constructor
  · rintro ⟨status, now, hverdict, hstatus, hcomplete, hclassify⟩
    rcases classify_eq_ok_iff.1 hclassify with ⟨text, houtput, hblank, hhash⟩
    exact ⟨text, ⟨⟨status, now, hverdict, hstatus, hcomplete⟩, houtput, hblank⟩, hhash⟩
  · rintro ⟨text, ⟨⟨status, now, hverdict, hstatus, hcomplete⟩, houtput, hblank⟩, hhash⟩
    have hclassify := classify_eq_ok_iff.2 ⟨text, houtput, hblank, hhash⟩
    exact ⟨status, now, hverdict, hstatus, hcomplete, hclassify⟩

end Lookup

namespace CommitLookup

variable {l : CommitLookup} {host : Host} {files : FileSystem} {directory : Path} {found : Found}

/-- A lookup succeeds exactly if a tool is started and its output is taken. -/
theorem commit_eq_ok_iff {hash : String} (h : l.find host files directory = .ok found) :
    found.commit = .ok hash ↔
      ∃ child text, l.start host files directory = .ok child ∧
        Lookup.Delivered host.schedule l.limit child text ∧ hash = Text.trim text := by
  rcases find_cases h with ⟨cause, hstart, rfl⟩ | ⟨child, hstart, -, rfl⟩
  · simp [hstart]
  · simp [hstart, Lookup.outcome_eq_ok_iff]

/-- What is stamped as the commit is what is left of the output of a tool, and otherwise a word that
no tool is needed for. -/
theorem commitOf_cases (h : l.find host files directory = .ok found) :
    (∃ child text, l.start host files directory = .ok child ∧
        Lookup.Delivered host.schedule l.limit child text ∧
        found.commit = .ok (Text.trim text) ∧ Generator.commitOf found.commit = Text.trim text) ∨
      (∀ child text, l.start host files directory = .ok child →
          ¬Lookup.Delivered host.schedule l.limit child text) ∧
        (∃ reason, found.commit = .error reason) ∧
        Generator.commitOf found.commit = unknownCommit := by
  cases hcommit : found.commit with
  | ok hash =>
      rcases (commit_eq_ok_iff h).1 hcommit with ⟨child, text, hstart, hdelivered, rfl⟩
      exact .inl ⟨child, text, hstart, hdelivered, rfl, rfl⟩
  | error reason =>
      -- A delivered text would have been the answer.
      refine .inr ⟨?_, ⟨reason, rfl⟩, rfl⟩
      intro child text hstart hdelivered
      have hok := (commit_eq_ok_iff h).2 ⟨child, text, hstart, hdelivered, rfl⟩
      rw [hcommit] at hok
      cases hok

/-- In either case it is not blank, and has no blank at either end. -/
theorem isCoreOf_commitOf (h : l.find host files directory = .ok found) :
    Text.isBlankText (Generator.commitOf found.commit) = false ∧
      ∃ text, Text.IsCoreOf (Generator.commitOf found.commit) text := by
  rcases commitOf_cases h with ⟨child, text, -, hdelivered, -, heq⟩ | ⟨-, -, heq⟩
  · rw [heq, Text.isBlankText_trim]
    exact ⟨hdelivered.shown, text, Text.isCoreOf_trim text⟩
  · have htrim : Text.trim unknownCommit = unknownCommit := by decide +kernel
    rw [heq]
    exact ⟨by decide, unknownCommit, htrim ▸ Text.isCoreOf_trim unknownCommit⟩

end CommitLookup

/-! ## Times and versions -/

theorem LocalTime.isBlankText_text (t : LocalTime) : Text.isBlankText t.text = false := by
  have hletter : 'T' ∈ t.text.toList := by simp [Stamp.toList_text]
  exact Text.isBlankText_of_mem hletter (by decide)

namespace Config

/-- A version that is not blank is stamped as it is given, and another one is replaced. -/
theorem resolvedVersion_cases (c : Config) :
    (∃ version, c.version = some version ∧ Text.isBlankText version = false ∧
        c.resolvedVersion = version) ∨
      (∀ version, c.version = some version → Text.isBlankText version = true) ∧
        c.resolvedVersion = "0.1.1" := by
  unfold resolvedVersion
  cases hversion : c.version with
  | none => exact .inr ⟨fun _ h => (nomatch h), rfl⟩
  | some version =>
      cases hblank : Text.isBlankText version with
      | false => exact .inl ⟨version, rfl, hblank, by simp [hblank]⟩
      | true =>
          refine .inr ⟨?_, by simp only [hblank, if_true]; rfl⟩
          rintro _ ⟨⟩
          exact hblank

theorem isBlankText_resolvedVersion (c : Config) : Text.isBlankText c.resolvedVersion = false := by
  rcases c.resolvedVersion_cases with ⟨version, -, hblank, heq⟩ | ⟨-, heq⟩
  · rw [heq, hblank]
  · rw [heq]
    decide

end Config

/-! ## Build infos -/

namespace Generator

/-- With a timeout whose end the clock can show, a build info is collected, and none of its values
is blank.  The version is the given one, unless that is blank or missing.  The commit has no blank
at either end.  If the lookup succeeds, it is all of the tool's output but the blanks at its ends,
and the word for an unknown commit if it does not. -/
theorem capture_filled (c : Config) (host : Host) (files : FileSystem) (directory : Path)
    (hfits : Lookup.deadlineFits host.uptime (.ofSeconds c.git.timeoutSeconds) = true) :
    ∃ found captured, (ofConfig c).lookup.find host files directory = .ok found ∧
      (ofConfig c).capture host files directory = .ok captured ∧
      (∀ text ∈ [captured.info.buildTime, captured.info.version, captured.info.commit],
        text ≠ "" ∧ Text.isBlankText text = false) ∧
      ((∃ version, c.version = some version ∧ Text.isBlankText version = false ∧
          captured.info.version = version) ∨
        (∀ version, c.version = some version → Text.isBlankText version = true) ∧
          captured.info.version = "0.1.1") ∧
      (∀ d ∈ captured.info.commit.toList.head?, Text.isBlank d = false) ∧
      (∀ d ∈ captured.info.commit.toList.getLast?, Text.isBlank d = false) ∧
      ((∃ child text, (ofConfig c).lookup.start host files directory = .ok child ∧
          Lookup.Delivered host.schedule (.ofSeconds c.git.timeoutSeconds) child text ∧
          found.commit = .ok captured.info.commit ∧ captured.info.commit = Text.trim text ∧
          Text.IsCoreOf captured.info.commit text) ∨
        (∀ child text, (ofConfig c).lookup.start host files directory = .ok child →
            ¬Lookup.Delivered host.schedule (.ofSeconds c.git.timeoutSeconds) child text) ∧
          (∃ reason, found.commit = .error reason) ∧ captured.info.commit = "unknown") := by
  -- The clock can show the deadline, so the lookup returns.
  rcases (CommitLookup.find_returns_iff (ofConfig c).lookup host files directory).2
    (.inr hfits) with ⟨found, hfind⟩
  rcases CommitLookup.isCoreOf_commitOf hfind with ⟨hblank, printed, hcore⟩
  refine ⟨found, _, hfind, capture_of_find hfind, ?_, c.resolvedVersion_cases, hcore.first,
    hcore.last, ?_⟩
  · intro value hvalue
    have hshown : Text.isBlankText value = false := by
      simp only [List.mem_cons, List.not_mem_nil, or_false] at hvalue
      -- Each value is filled for a reason of its own.
      rcases hvalue with rfl | rfl | rfl
      · exact LocalTime.isBlankText_text _
      · exact c.isBlankText_resolvedVersion
      · exact hblank
    exact ⟨Text.ne_empty_of_isBlankText hshown, hshown⟩
  · rcases CommitLookup.commitOf_cases hfind with
      ⟨child, text, hstart, hdelivered, hcommit, heq⟩ | ⟨hnever, hreason, heq⟩
    · have hkept := Text.isCoreOf_trim text
      rw [← heq] at hcommit hkept
      exact .inl ⟨child, text, hstart, hdelivered, hcommit, heq, hkept⟩
    · exact .inr ⟨hnever, hreason, heq⟩

/-- Settings whose version has blanks around and inside it. -/
def wideVersion : Config :=
  { version := some "\u00a0 1.0 beta\u2003" }

/-- A tool that prints two lines between blanks of several bytes. -/
def wideChild : Child :=
  { ending := some (0, .exited 0), output := .ok "\u3000abc\n def\u2029\n".toUTF8,
    closing := some 0 }

/-- A host with no other tool. -/
def wideHost : Host :=
  { secondOldHost with programs := fun _ _ _ => .ok wideChild }

theorem delivered_wideChild :
    Lookup.Delivered wideHost.schedule (.ofSeconds 5) wideChild "\u3000abc\n def\u2029\n" := by
  have hended : Lookup.verdict wideHost.schedule (.ofSeconds 5) wideChild =
      .ended (.exited 0) (wideHost.schedule.delay 0) := by
    unfold Lookup.verdict Lookup.poll
    rfl
  exact ⟨⟨_, _, hended, rfl, rfl⟩, rfl, by decide⟩

/-- The version is stamped with its blanks, and the commit is both lines of the output. -/
theorem capture_filled_wide :
    Lookup.deadlineFits wideHost.uptime (.ofSeconds wideVersion.git.timeoutSeconds) = true ∧
      ∃ captured,
        (ofConfig wideVersion).capture wideHost oneDirectory wideVersion.srcDir = .ok captured ∧
        captured.info.version = "\u00a0 1.0 beta\u2003" ∧
        captured.info.commit = "abc\n def" := by
  have hfits : Lookup.deadlineFits wideHost.uptime (.ofSeconds wideVersion.git.timeoutSeconds) =
      true := by decide
  have hstart : (ofConfig wideVersion).lookup.start wideHost oneDirectory wideVersion.srcDir =
      .ok wideChild := rfl
  rcases capture_filled wideVersion wideHost oneDirectory wideVersion.srcDir hfits with
    ⟨found, captured, -, hcapture, -, hversion, -, -, hcommit⟩
  refine ⟨hfits, captured, hcapture, ?_, ?_⟩
  · rcases hversion with ⟨version, hgiven, -, heq⟩ | ⟨hblank, -⟩
    · rw [heq, ← Option.some.inj hgiven]
    · exact absurd (hblank _ rfl) (by decide)
  · -- The tool can only be this one, and its text only the one that it prints.
    rcases hcommit with ⟨child, text, hstart', hdelivered, -, heq, -⟩ | ⟨hnever, -⟩
    · obtain rfl := Except.ok.inj (hstart.symm.trans hstart')
      have htext := (FileSystem.fromUTF8?_toUTF8 _).symm.trans
        (FileSystem.fromUTF8?_eq_some_iff.2 (Except.ok.inj hdelivered.output))
      rw [heq, ← Option.some.inj htext]
      decide +kernel
    · exact absurd delivered_wideChild (hnever wideChild _ hstart)

end Generator
end BuildStamp
