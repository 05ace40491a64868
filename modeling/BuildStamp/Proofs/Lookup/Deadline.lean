import BuildStamp.Generator
import BuildStamp.Proofs.Config.RoundTrip

/-!
# Deadline — when the clock can show the end of a lookup

The deadline of a lookup is set once its tool runs.  The clock ends at its last second, so a timeout
that is longer than what is left of it breaks the run off, with the tool started and nobody waiting
for it.  The settings know no such bound: the longest timeout that a document can give is too long
for every clock that has reached its first second.

* `Lookup.deadlineFits_ofSeconds` — the bound in whole seconds;
* `CommitLookup.find_cases` — the lookups that have an answer;
* `CommitLookup.find_returns_iff` — a lookup is broken off only there;
* `Generator.capture_returns_iff`, `Generator.generate_returns_iff` — and so is what it is part of;
* `Generator.returns_iff_deadlineShown` — the exact condition for the settings of a project;
* `Generator.accepted_timeout_breaks_off` — settings that are accepted and do not meet it.
-/

namespace BuildStamp

/-! ## The bound -/

/-- The clock can show the end of a number of seconds if it has as many left. -/
theorem Lookup.deadlineFits_ofSeconds (uptime seconds : Nat) :
    Lookup.deadlineFits uptime (.ofSeconds seconds) = true ↔
      uptime / 1000000000 + seconds ≤ 2 ^ 63 - 1 := by
  have hsum : (uptime + seconds * 1000000000) / 1000000000 = uptime / 1000000000 + seconds :=
    Nat.add_mul_div_right uptime seconds (by decide)
  simp only [Lookup.deadlineFits, Duration.ofSeconds, hsum, Lookup.lastClockSecond,
    decide_eq_true_eq]

namespace CommitLookup

/-! ## Ends of a lookup -/

variable {l : CommitLookup} {host : Host} {files : FileSystem} {directory : Path} {child : Child}

theorem find_of_refused {cause : IoError} (hstart : l.start host files directory = .error cause) :
    l.find host files directory = .ok ⟨.error (.spawn cause), files⟩ := by
  unfold find
  rw [hstart]

theorem find_of_started (hstart : l.start host files directory = .ok child)
    (hfits : Lookup.deadlineFits host.uptime l.limit = true) :
    l.find host files directory =
      .ok ⟨Lookup.outcome host.schedule l.limit child,
        child.filesAt files
          (Lookup.settledAt l.limit child (Lookup.verdict host.schedule l.limit child))⟩ := by
  unfold find
  simp only [hstart, hfits, if_true]

theorem find_of_unshown (hstart : l.start host files directory = .ok child)
    (hfits : Lookup.deadlineFits host.uptime l.limit = false) :
    l.find host files directory = .error .deadlineBeyondClock := by
  unfold find
  simp only [hstart, hfits, Bool.false_eq_true, if_false]

/-- A lookup that has an answer could not start the tool, or has what the tool came to. -/
theorem find_cases {found : Found} (h : l.find host files directory = .ok found) :
    (∃ cause, l.start host files directory = .error cause ∧
        found = ⟨.error (.spawn cause), files⟩) ∨
      ∃ child, l.start host files directory = .ok child ∧
        Lookup.deadlineFits host.uptime l.limit = true ∧
        found = ⟨Lookup.outcome host.schedule l.limit child,
          child.filesAt files
            (Lookup.settledAt l.limit child (Lookup.verdict host.schedule l.limit child))⟩ := by
  cases hstart : l.start host files directory with
  | error cause =>
      exact .inl ⟨cause, rfl, Except.ok.inj (h.symm.trans (find_of_refused hstart))⟩
  | ok child =>
      cases hfits : Lookup.deadlineFits host.uptime l.limit with
      | false => cases h.symm.trans (find_of_unshown hstart hfits)
      | true =>
          exact .inr ⟨child, rfl, rfl, Except.ok.inj (h.symm.trans (find_of_started hstart hfits))⟩

/-! ## Lookups that have an answer -/

/-- What keeps a lookup from being broken off: no tool is started, or the clock can show the
deadline. -/
def Bounded (l : CommitLookup) (host : Host) (files : FileSystem) (directory : Path) : Prop :=
  (∀ child, l.start host files directory ≠ .ok child) ∨
    Lookup.deadlineFits host.uptime l.limit = true

/-- A lookup has an answer exactly if it is bounded. -/
theorem find_returns_iff (l : CommitLookup) (host : Host) (files : FileSystem) (directory : Path) :
    (∃ found, l.find host files directory = .ok found) ↔ l.Bounded host files directory := by
  unfold find Bounded
  cases hstart : l.start host files directory with
  | error cause => simp
  | ok child => cases hfits : Lookup.deadlineFits host.uptime l.limit <;> simp

end CommitLookup

namespace Generator

/-! ## Collecting and writing -/

theorem capture_returns_iff (g : Generator) (host : Host) (files : FileSystem) (directory : Path) :
    (∃ captured, g.capture host files directory = .ok captured) ↔
      g.lookup.Bounded host files directory := by
  rw [← CommitLookup.find_returns_iff]
  unfold capture
  cases g.lookup.find host files directory with
  | error cause => simp [bind, Except.bind]
  | ok found => simp [bind, Except.bind, pure, Except.pure]

/-- A generation comes to an end exactly if the lookup does, whether or not the header can be
written. -/
theorem generate_returns_iff (g : Generator) (host : Host) (files : FileSystem) (directory : Path) :
    (∃ outcome, g.generate host files directory = .ok outcome) ↔
      g.lookup.Bounded host files directory := by
  rw [← capture_returns_iff]
  unfold generate
  cases g.capture host files directory with
  | error cause => simp [bind, Except.bind]
  | ok captured =>
      obtain ⟨info, after, events⟩ := captured
      cases hwrite : Header.write host.workingDirectory after directory g.headerName info <;>
        simp [bind, Except.bind, pure, Except.pure, hwrite]

/-- No tool is started, or the seconds that the clock shows and those of the timeout are together at
most the last second of the clock. -/
def DeadlineShown (c : Config) (host : Host) (files : FileSystem) (directory : Path) : Prop :=
  (∀ child, (ofConfig c).lookup.start host files directory ≠ .ok child) ∨
    host.uptime / 1000000000 + c.git.timeoutSeconds ≤ 2 ^ 63 - 1

/-- The lookup, the collecting and the generation of a project come to an end exactly if no deadline
is needed or the clock can show it. -/
theorem returns_iff_deadlineShown (c : Config) (host : Host) (files : FileSystem)
    (directory : Path) :
    ((∃ found, (ofConfig c).lookup.find host files directory = .ok found) ↔
        DeadlineShown c host files directory) ∧
      ((∃ captured, (ofConfig c).capture host files directory = .ok captured) ↔
        DeadlineShown c host files directory) ∧
      ((∃ outcome, (ofConfig c).generate host files directory = .ok outcome) ↔
        DeadlineShown c host files directory) := by
  have hbounded : (ofConfig c).lookup.Bounded host files directory ↔
      DeadlineShown c host files directory :=
    or_congr_right (Lookup.deadlineFits_ofSeconds host.uptime c.git.timeoutSeconds)
  refine ⟨?_, ?_, ?_⟩
  · rw [CommitLookup.find_returns_iff, hbounded]
  · rw [capture_returns_iff, hbounded]
  · rw [generate_returns_iff, hbounded]

/-! ## Settings that are accepted -/

/-- The longest timeout that a document can give. -/
def longestTimeout : Config :=
  { git := { timeoutSeconds := 2 ^ 63 - 1 } }

/-- A host with a directory to start in, whose tool prints a commit and ends at once, one second
after the clock began. -/
def secondOldHost : Host where
  environment := {}
  workingDirectory := []
  wallClock := ⟨0, 0, .inl (by decide)⟩
  zone := 0
  uptime := 1000000000
  programs := fun _ _ _ => .ok
    { ending := some (0, .exited 0), output := .ok "abc1234".toUTF8, closing := some 0 }

theorem parse_longestTimeout :
    Config.parse "[git]\ntimeout_secs = 9223372036854775807\n" = .ok longestTimeout := by
  -- The document has two lines, each of which is read back by itself.
  let lines : List (List Char × Toml.Statement) :=
    [("[git]\n".toList, .header [] "git"), Config.numberLine "timeout_secs" (2 ^ 63 - 1)]
  have hlines : ∀ l ∈ lines, (Text.Reader.behind Toml.blanks Toml.statement).Reads l.1 l.2 := by
    intro l hl
    simp only [lines, List.mem_cons, List.not_mem_nil, or_false] at hl
    rcases hl with rfl | rfl
    · exact Toml.reads_header 'g' ['i', 't'] (by decide)
    · exact Config.reads_numberLine (by decide) (Nat.le_refl _)
  have htext : "[git]\ntimeout_secs = 9223372036854775807\n" =
      String.ofList (lines.flatMap Prod.fst) := by decide +kernel
  rw [Config.parse_of_lines htext hlines rfl rfl rfl]
  rfl

/-- A document with the longest timeout is accepted, and yet the lookup, the collecting and the
generation are broken off behind the start of the tool. -/
theorem accepted_timeout_breaks_off :
    Config.parse "[git]\ntimeout_secs = 9223372036854775807\n" = .ok longestTimeout ∧
      ∃ child, (ofConfig longestTimeout).lookup.start secondOldHost ⟨[]⟩ ⟨"."⟩ = .ok child ∧
        (ofConfig longestTimeout).lookup.find secondOldHost ⟨[]⟩ ⟨"."⟩ =
          .error .deadlineBeyondClock ∧
        (ofConfig longestTimeout).capture secondOldHost ⟨[]⟩ ⟨"."⟩ =
          .error .deadlineBeyondClock ∧
        (ofConfig longestTimeout).generate secondOldHost ⟨[]⟩ ⟨"."⟩ =
          .error .deadlineBeyondClock := by
  exact ⟨parse_longestTimeout, _, rfl, rfl, rfl, rfl⟩

end Generator
end BuildStamp
