import BuildStamp.Proofs.Header.Layout
import BuildStamp.Proofs.Host.Write
import BuildStamp.Proofs.Lookup.Deadline

/-!
# Isolation — what a lookup can influence

A tool that leaves the files alone can only choose what stands for the commit.  Everything else of
a generation is settled by the settings, the clock and the files, so two generations that differ in
nothing but the behaviour of the tool are refused alike, or write headers that differ at most in the
line of the commit.

* `Programs.Quiet` — tools that leave the files alone;
* `Generator.Ends` — all that a generation can come to;
* `Generator.generate_ends` — it comes to one of these;
* `Header.SameButCommit` — headers that differ at most in the line of the commit;
* `Generator.generate_isolated` — two generations with different tools.
-/

namespace BuildStamp

/-! ## Tools that leave the files alone -/

/-- Whatever is started, the files are at every time as they were before. -/
def Programs.Quiet (programs : Programs) : Prop :=
  ∀ files place command child, programs files place command = .ok child →
    ∀ now, child.filesAt files now = files

namespace CommitLookup

variable {l : CommitLookup} {host : Host} {files : FileSystem} {directory : Path}

theorem start_eq_ok_iff {child : Child} :
    l.start host files directory = .ok child ↔
      (holdsNul l.command.program || l.command.arguments.any holdsNul ||
        holdsNul directory.text) = false ∧
      ∃ place, files.directoryAt host.workingDirectory directory = .ok place ∧
        host.programs files place l.command = .ok child := by
  unfold start
  split
  · rename_i hnul
    simp [hnul]
  · rename_i hnul
    rw [bind_eq_ok_iff, Bool.not_eq_true] at *
    simp only [hnul, true_and]

theorem find_of_quiet (hquiet : host.programs.Quiet) {found : Found}
    (h : l.find host files directory = .ok found) : found.files = files := by
  rcases find_cases h with ⟨cause, -, rfl⟩ | ⟨child, hstart, -, rfl⟩
  · rfl
  · rcases start_eq_ok_iff.1 hstart with ⟨-, place, -, hchild⟩
    exact hquiet files place l.command child hchild _

end CommitLookup

/-! ## What a generation comes to -/

namespace Header

variable {cwd place : Place} {files : FileSystem} {directory : Path} {name : String}

theorem write_of_target (info : BuildInfo)
    (h : files.writeTarget cwd (directory.join ⟨name⟩) = .ok place) :
    Header.write cwd files directory name info =
      .ok (directory.join ⟨name⟩,
        files.put place (.file (render info).toUTF8 (files.isExecutable place))) := by
  have hwrite : files.writeText cwd (directory.join ⟨name⟩) (render info) = .ok _ :=
    FileSystem.write_eq_ok_iff.2 ⟨place, h, rfl⟩
  -- Its equation would be found only after the header's fixed lines are evaluated.
  delta Header.write
  simp only [hwrite]

theorem write_of_refusal (info : BuildInfo) {cause : IoError}
    (h : files.writeTarget cwd (directory.join ⟨name⟩) = .error cause) :
    Header.write cwd files directory name info = .error (.write (directory.join ⟨name⟩) cause) := by
  have hwrite : files.writeText cwd (directory.join ⟨name⟩) (render info) = .error cause :=
    FileSystem.write_eq_error_iff.2 h
  delta Header.write
  simp only [hwrite]

end Header

namespace Generator

variable {g : Generator} {host : Host} {files : FileSystem} {directory : Path}

/-- The path at which the header is written. -/
def target (g : Generator) (directory : Path) : Path :=
  directory.join ⟨g.headerName⟩

/-- The build info with what a lookup gave. -/
def stamp (g : Generator) (host : Host) (commit : Except LookupError String) : BuildInfo :=
  .ofTime (host.wallClock.toLocal host.zone) g.version (commitOf commit)

/-- All that a generation can come to if the tool leaves the files alone. -/
inductive Ends (g : Generator) (host : Host) (files : FileSystem) (directory : Path) :
    Except Abort Outcome → Prop where
  | broken {cause : Abort} (hfind : g.lookup.find host files directory = .error cause) :
      Ends g host files directory (.error cause)
  | refused {commit : Except LookupError String} {cause : IoError}
      (hfind : g.lookup.find host files directory = .ok ⟨commit, files⟩)
      (htarget : files.writeTarget host.workingDirectory (g.target directory) = .error cause) :
      Ends g host files directory
        (.ok ⟨.error (.write (g.target directory) cause), files, [lookupEvent directory commit]⟩)
  | written {commit : Except LookupError String} {place : Place}
      (hfind : g.lookup.find host files directory = .ok ⟨commit, files⟩)
      (htarget : files.writeTarget host.workingDirectory (g.target directory) = .ok place) :
      Ends g host files directory
        (.ok ⟨.ok (g.target directory),
          files.put place
            (.file (Header.render (g.stamp host commit)).toUTF8 (files.isExecutable place)),
          [lookupEvent directory commit,
            writtenEvent (g.target directory) (g.stamp host commit)]⟩)

theorem generate_of_broken {cause : Abort} (h : g.lookup.find host files directory = .error cause) :
    g.generate host files directory = .error cause := by
  unfold generate capture
  rw [h]
  rfl

/-- What is collected is what the lookup gave, with the version and the time. -/
theorem capture_of_find {found : CommitLookup.Found}
    (h : g.lookup.find host files directory = .ok found) :
    g.capture host files directory =
      .ok ⟨g.stamp host found.commit, found.files, [lookupEvent directory found.commit]⟩ := by
  unfold capture
  rw [h]
  rfl

/-- A generation is the lookup and the write, one after the other. -/
theorem generate_of_find {found : CommitLookup.Found}
    (h : g.lookup.find host files directory = .ok found) :
    g.generate host files directory =
      .ok (match Header.write host.workingDirectory found.files directory g.headerName
          (g.stamp host found.commit) with
        | .ok (path, after) =>
            ⟨.ok path, after,
              [lookupEvent directory found.commit, writtenEvent path (g.stamp host found.commit)]⟩
        | .error e => ⟨.error e, found.files, [lookupEvent directory found.commit]⟩) := by
  unfold generate capture
  rw [h]
  -- The write decides, so its outcome is named before the stamp is opened.
  cases hwrite : Header.write host.workingDirectory found.files directory g.headerName
      (g.stamp host found.commit) with
  | error e =>
      unfold stamp at hwrite
      simp only [ok_bind, pure, Except.pure, hwrite]
  | ok written =>
      unfold stamp at hwrite
      simp only [ok_bind, pure, Except.pure, hwrite]
      rfl

theorem generate_ends (g : Generator) (files : FileSystem) (directory : Path)
    (hquiet : host.programs.Quiet) :
    g.Ends host files directory (g.generate host files directory) := by
  cases hfind : g.lookup.find host files directory with
  | error cause =>
      rw [generate_of_broken hfind]
      exact .broken hfind
  | ok found =>
      obtain ⟨commit, after⟩ := found
      -- A quiet tool leaves the files, so the write starts from those of the run.
      obtain rfl : after = files := CommitLookup.find_of_quiet hquiet hfind
      rw [generate_of_find hfind]
      cases htarget : after.writeTarget host.workingDirectory (g.target directory) with
      | error cause =>
          rw [Header.write_of_refusal _ htarget]
          exact .refused hfind htarget
      | ok place =>
          rw [Header.write_of_target _ htarget]
          exact .written hfind htarget

theorem files_of_capture (hquiet : host.programs.Quiet) {captured : Capture}
    (h : g.capture host files directory = .ok captured) : captured.files = files := by
  unfold capture at h
  obtain ⟨found, hfind, h⟩ := bind_eq_ok_iff.1 h
  obtain rfl := Except.ok.inj h
  exact CommitLookup.find_of_quiet hquiet hfind

/-- A generation fails exactly where the header cannot be written, whatever it would say. -/
theorem Ends.result_eq_error_iff {run : Outcome} (h : g.Ends host files directory (.ok run))
    (text : String) (e : Error) :
    run.result = .error e ↔
      ∃ cause, e = .write (g.target directory) cause ∧
        files.writeText host.workingDirectory (g.target directory) text = .error cause := by
  unfold FileSystem.writeText
  simp only [FileSystem.write_eq_error_iff]
  cases h with
  | refused _ htarget =>
      constructor
      · intro he
        exact ⟨_, (Except.error.inj he).symm, htarget⟩
      · rintro ⟨cause, rfl, hcause⟩
        obtain rfl := Except.error.inj (htarget.symm.trans hcause)
        rfl
  | written _ htarget =>
      constructor
      · intro he
        cases he
      · rintro ⟨cause, -, hcause⟩
        cases htarget.symm.trans hcause

/-- A generation ends where the clock can show the end of the lookup. -/
theorem exists_ends (g : Generator) (files : FileSystem) (directory : Path)
    (hquiet : host.programs.Quiet) (hfits : Lookup.deadlineFits host.uptime g.lookup.limit = true) :
    ∃ run, g.generate host files directory = .ok run ∧ g.Ends host files directory (.ok run) := by
  obtain ⟨run, hrun⟩ := (generate_returns_iff g host files directory).2 (.inr hfits)
  exact ⟨run, hrun, hrun ▸ generate_ends g files directory hquiet⟩

end Generator

/-! ## Two generations -/

/-- The lines are the same, but for the last one, which defines the commit. -/
def Header.SameButCommit (text text' : String) : Prop :=
  ∃ lines body body', lines.length = 4 ∧
    text.toList.splitOn '\n' = lines ++ [definitionLine "BUILD_COMMIT" body, []] ∧
    text'.toList.splitOn '\n' = lines ++ [definitionLine "BUILD_COMMIT" body', []]

theorem Header.sameButCommit_render (buildTime version commit commit' : String) :
    SameButCommit (render ⟨buildTime, version, commit⟩) (render ⟨buildTime, version, commit'⟩) :=
  ⟨(lines (buildTime.toList.flatMap escapeChar) (version.toList.flatMap escapeChar) []).take 4,
    _, _, rfl, splitOn_render_eq ⟨buildTime, version, commit⟩,
    splitOn_render_eq ⟨buildTime, version, commit'⟩⟩

namespace Generator

/-- Two generations that differ in the behaviour of the tool and in when it is looked at come to an
end.  Either both write the header to the same path, and the files differ at most in the line of the
commit; or both are refused alike, and nothing is changed.  A generation fails exactly where its
header cannot be written, and always says so. -/
theorem generate_isolated (c : Config) (host : Host) (programs : Programs) (schedule : Schedule)
    (files : FileSystem) (directory : Path) (hquiet : host.programs.Quiet)
    (hquiet' : programs.Quiet)
    (hfits : Lookup.deadlineFits host.uptime (.ofSeconds c.git.timeoutSeconds) = true) :
    ∃ run run' captured,
      (ofConfig c).generate host files directory = .ok run ∧
      (ofConfig c).generate { host with programs, schedule } files directory = .ok run' ∧
      ((∃ place text text',
          run.result = .ok (directory.join ⟨c.headerName⟩) ∧
          run'.result = .ok (directory.join ⟨c.headerName⟩) ∧
          files.writeTarget host.workingDirectory (directory.join ⟨c.headerName⟩) = .ok place ∧
          run.files = files.put place (.file text.toUTF8 (files.isExecutable place)) ∧
          run'.files = files.put place (.file text'.toUTF8 (files.isExecutable place)) ∧
          Header.SameButCommit text text') ∨
        ∃ cause,
          run.result = .error (.write (directory.join ⟨c.headerName⟩) cause) ∧
          run'.result = .error (.write (directory.join ⟨c.headerName⟩) cause) ∧
          run.files = files ∧ run'.files = files) ∧
      (ofConfig c).capture host files directory = .ok captured ∧
      ∀ e, run.result = .error e ↔
        ∃ cause, e = .write (directory.join ⟨c.headerName⟩) cause ∧
          files.writeText host.workingDirectory (directory.join ⟨c.headerName⟩)
            (Header.render captured.info) = .error cause := by
  obtain ⟨run, hrun, hends⟩ := exists_ends (ofConfig c) files directory hquiet hfits
  obtain ⟨run', hrun', hends'⟩ :
      ∃ run', (ofConfig c).generate { host with programs, schedule } files directory = .ok run' ∧
        (ofConfig c).Ends { host with programs, schedule } files directory (.ok run') :=
    exists_ends (ofConfig c) files directory hquiet' hfits
  obtain ⟨captured, hcaptured⟩ :=
    (capture_returns_iff (ofConfig c) host files directory).2 (.inr hfits)
  refine ⟨run, run', captured, hrun, hrun', ?_, hcaptured, hends.result_eq_error_iff _⟩
  -- Whether there is a place to write to does not depend on the tool, so the runs go together.
  cases hends with
  | refused hfind htarget =>
      cases hends' with
      | refused hfind' htarget' =>
          obtain rfl := Except.error.inj (htarget.symm.trans htarget')
          exact .inr ⟨_, rfl, rfl, rfl, rfl⟩
      | written hfind' htarget' => cases htarget.symm.trans htarget'
  | written hfind htarget =>
      cases hends' with
      | refused hfind' htarget' => cases htarget.symm.trans htarget'
      | written hfind' htarget' =>
          obtain rfl := Except.ok.inj (htarget.symm.trans htarget')
          exact .inl ⟨_, _, _, rfl, rfl, htarget, rfl, rfl, Header.sameButCommit_render _ _ _ _⟩

/-- A file system with one directory. -/
def oneDirectory : FileSystem :=
  ⟨[(["src"], .directory)]⟩

/-- No tool can be started. -/
def noTool : Programs :=
  fun _ _ _ => .error .notFound

theorem quiet_secondOldHost : secondOldHost.programs.Quiet := by
  intro files place command child hchild now
  obtain rfl := Except.ok.inj hchild
  rfl

/-- A tool that prints a commit, and one that is missing: both headers are written. -/
theorem generate_isolated_noTool :
    secondOldHost.programs.Quiet ∧ noTool.Quiet ∧
      Lookup.deadlineFits secondOldHost.uptime (.ofSeconds 5) = true ∧
      ∃ run run' text text',
        (ofConfig {}).generate secondOldHost oneDirectory ⟨"src"⟩ = .ok run ∧
        (ofConfig {}).generate { secondOldHost with programs := noTool } oneDirectory ⟨"src"⟩ =
          .ok run' ∧
        run.files = oneDirectory.put ["src", "build_info.h"] (.file text.toUTF8 false) ∧
        run'.files = oneDirectory.put ["src", "build_info.h"] (.file text'.toUTF8 false) ∧
        Header.SameButCommit text text' := by
  have hquiet : noTool.Quiet := by
    intro files place command child hchild
    cases hchild
  have hfits : Lookup.deadlineFits secondOldHost.uptime (.ofSeconds 5) = true := by decide
  have htarget : oneDirectory.writeTarget [] ((⟨"src"⟩ : Path).join ⟨"build_info.h"⟩) =
      .ok ["src", "build_info.h"] := rfl
  obtain ⟨run, run', captured, hrun, hrun', hends, -, herror⟩ :=
    generate_isolated {} secondOldHost noTool .prompt oneDirectory ⟨"src"⟩ quiet_secondOldHost
      hquiet hfits
  refine ⟨quiet_secondOldHost, hquiet, hfits, run, run', ?_⟩
  rcases hends with ⟨place, text, text', -, -, hplace, hfiles, hfiles', hsame⟩ | ⟨cause, hresult, -⟩
  · -- Both runs wrote, and the place they wrote to is the target.
    obtain rfl := Except.ok.inj (htarget.symm.trans hplace)
    exact ⟨text, text', hrun, hrun', hfiles, hfiles', hsame⟩
  · obtain ⟨cause', -, hrefused⟩ := (herror _).1 hresult
    cases htarget.symm.trans (FileSystem.write_eq_error_iff.1 hrefused)

end Generator
end BuildStamp
