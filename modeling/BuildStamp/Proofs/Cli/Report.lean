import BuildStamp.Proofs.Cli.Frame

/-!
# Report — what a command leaves, and when the hook does something

Every command but the one that writes a configuration runs behind the loading of its settings.  So
what it leaves is settled by two things: whether the settings can be loaded, and what the command
does with them.  The hook asks a third: whether its target is the one of the settings, to the
character.

* `Cli.Invocation.report`, `Cli.run_of_perform` — what an invocation leaves;
* `Cli.Invocation.report_of_refused`, `Cli.Invocation.report_of_settings` — commands behind the
  loading of their settings;
* `Cli.inspect_of_find`, `Cli.generate_of_written` — what is shown and what is written once the
  commit was looked up;
* `Cli.Settled`, `Cli.exists_settled` — generations of which nothing can fail any more;
* `Cli.hook_gated` — the hook is the generation behind its target.
-/

namespace BuildStamp
namespace Cli

variable {host : Host} {files : FileSystem} {i : Invocation} {c : Config}

/-! ## Invocations -/

namespace Invocation

/-- What an invocation leaves. -/
def report (host : Host) (files : FileSystem) (i : Invocation) : Report :=
  ((i.run host files).after [startEvent]).report (Log.Filter.choose i.verbose host.environment)

/-- What is reported while the settings are loaded. -/
def loadEvents (host : Host) (files : FileSystem) (i : Invocation) : List Log.Event :=
  (Config.loadOrDefault host.environment.homeDirectory host.workingDirectory files
    (i.configPath host)).2

/-- Why nothing is done if the settings cannot be loaded. -/
def loadFailure (host : Host) (i : Invocation) (e : Error) : Failure :=
  .during ("loading " ++ (i.configPath host).text) e

end Invocation

/-- A generation with nothing else on its command line. -/
def plainGeneration : Invocation :=
  { command := .generate }

/-- A command line that makes sense leaves what its invocation leaves. -/
theorem run_of_perform {arguments : List String} (h : Call.ofArguments arguments = .perform i) :
    run host files arguments = i.report host files := by
  unfold run
  rw [h]
  rfl

theorem Outcome.code_eq_zero_iff {filter : Log.Filter} {o : Outcome} :
    (o.report filter).code = 0 ↔ o.ending = .success :=
  Ending.code_eq_zero_iff

namespace Invocation

theorem report_of_run {o : Outcome} (h : i.run host files = o) :
    i.report host files =
      (o.after [startEvent]).report (Log.Filter.choose i.verbose host.environment) := by
  unfold report
  rw [h]

theorem withConfig_eq (i : Invocation) (body : Config → Outcome) :
    i.withConfig host files body =
      Outcome.after (i.loadEvents host files)
        (match i.settings host files with
        | .error e => Outcome.failure files (i.loadFailure host e)
        | .ok c => body c) := by
  unfold settings loadEvents
  cases hload : Config.loadOrDefault host.environment.homeDirectory host.workingDirectory files
      (i.configPath host) with
  | mk loaded events =>
      cases loaded with
      | error e => exact withConfig_of_error hload body
      | ok c => exact withConfig_of_ok hload body

/-- Without settings an invocation fails, whatever it would have done with them. -/
theorem report_of_refused {body : Config → Outcome} {e : Error}
    (hrun : i.run host files = i.withConfig host files body)
    (h : i.settings host files = .error e) :
    i.report host files =
      (((Outcome.failure files (i.loadFailure host e)).after (i.loadEvents host files)).after
        [startEvent]).report (Log.Filter.choose i.verbose host.environment) := by
  rw [withConfig_eq, h] at hrun
  exact report_of_run hrun

theorem report_of_settings {body : Config → Outcome}
    (hrun : i.run host files = i.withConfig host files body)
    (h : i.settings host files = .ok c) :
    i.report host files =
      (((body c).after (i.loadEvents host files)).after [startEvent]).report
        (Log.Filter.choose i.verbose host.environment) := by
  rw [withConfig_eq, h] at hrun
  exact report_of_run hrun

theorem run_generate (hcommand : i.command = .generate) :
    i.run host files = i.withConfig host files (generate host files) := by
  unfold run
  rw [hcommand]

theorem run_hook {target : String} (hcommand : i.command = .hook target) :
    i.run host files = i.withConfig host files (hook host files target) := by
  unfold run
  rw [hcommand]

theorem run_inspect {format : Format} (hcommand : i.command = .inspect format) :
    i.run host files = i.withConfig host files (inspect host files format) := by
  unfold run
  rw [hcommand]

end Invocation

/-! ## Behind the lookup -/

theorem inspect_of_find {found : CommitLookup.Found} (format : Format)
    (h : (Generator.ofConfig c).lookup.find host files c.srcDir = .ok found) :
    inspect host files format c =
      { files := found.files
        output := format.print ((Generator.ofConfig c).stamp host found.commit)
        events := [Generator.lookupEvent c.srcDir found.commit] } := by
  unfold inspect
  rw [Generator.capture_of_find h]

theorem generate_of_written {found : CommitLookup.Found} {place : Place}
    (hfind : (Generator.ofConfig c).lookup.find host files c.srcDir = .ok found)
    (htarget : found.files.writeTarget host.workingDirectory c.headerPath = .ok place) :
    generate host files c =
      { files := found.files.put place
          (.file (Header.render ((Generator.ofConfig c).stamp host found.commit)).toUTF8
            (found.files.isExecutable place))
        output := c.headerPath.text ++ "\n"
        events := [Generator.lookupEvent c.srcDir found.commit,
          Generator.writtenEvent c.headerPath
            ((Generator.ofConfig c).stamp host found.commit)] } := by
  have hwrite : Header.write host.workingDirectory found.files c.srcDir
      (Generator.ofConfig c).headerName ((Generator.ofConfig c).stamp host found.commit) = _ :=
    Header.write_of_target _ htarget
  -- Where the tool has left a place for the header, nothing else can go wrong.
  unfold generate
  rw [Generator.generate_of_find hfind, hwrite]
  rfl

/-- A generation that succeeds has looked the commit up and found a place to write to. -/
theorem exists_written (h : (generate host files c).ending = .success) :
    ∃ found place, (Generator.ofConfig c).lookup.find host files c.srcDir = .ok found ∧
      found.files.writeTarget host.workingDirectory c.headerPath = .ok place := by
  unfold generate at h
  cases hfind : (Generator.ofConfig c).lookup.find host files c.srcDir with
  | error cause =>
      -- A lookup that breaks off breaks the command off.
      rw [Generator.generate_of_broken hfind] at h
      cases h
  | ok found =>
      cases htarget : found.files.writeTarget host.workingDirectory c.headerPath with
      | ok place => exact ⟨found, place, rfl, htarget⟩
      | error cause =>
          have hwrite : Header.write host.workingDirectory found.files c.srcDir
              (Generator.ofConfig c).headerName
              ((Generator.ofConfig c).stamp host found.commit) = _ :=
            Header.write_of_refusal _ htarget
          rw [Generator.generate_of_find hfind, hwrite] at h
          cases h

/-! ## Generations -/

section Generation

variable {mid : FileSystem} {place : Place} {commit : Except LookupError String}

/-- What a generation leaves behind the tool: its header. -/
def withHeader (host : Host) (mid : FileSystem) (c : Config)
    (commit : Except LookupError String) (place : Place) : FileSystem :=
  mid.put place
    (.file (Header.render ((Generator.ofConfig c).stamp host commit)).toUTF8
      (mid.isExecutable place))

/-- A generation that is settled up to the write: its settings, what the lookup gave and left, and
the place of the header. -/
structure Settled (host : Host) (files : FileSystem) (i : Invocation) (c : Config)
    (commit : Except LookupError String) (mid : FileSystem) (place : Place) : Prop where
  command : i.command = .generate
  settings : i.settings host files = .ok c
  find : (Generator.ofConfig c).lookup.find host files c.srcDir = .ok ⟨commit, mid⟩
  target : mid.writeTarget host.workingDirectory c.headerPath = .ok place

/-- A generation that succeeds is settled up to the write. -/
theorem exists_settled (hcommand : i.command = .generate)
    (hcode : (i.report host files).code = 0) :
    ∃ c commit mid place, Settled host files i c commit mid place := by
  cases hsettings : i.settings host files with
  | error e =>
      rw [Invocation.report_of_refused (Invocation.run_generate hcommand) hsettings] at hcode
      cases hcode
  | ok c =>
      rw [Invocation.report_of_settings (Invocation.run_generate hcommand) hsettings] at hcode
      have hending := Outcome.code_eq_zero_iff.1 hcode
      have hsuccess : (generate host files c).ending = .success := hending
      rcases exists_written hsuccess with ⟨⟨commit, mid⟩, place, hfind, htarget⟩
      exact ⟨c, commit, mid, place, hcommand, hsettings, hfind, htarget⟩

/-- Where there is a place for the header, a generation with a tool that leaves the files alone is
settled. -/
theorem exists_settled_of_target (hcommand : i.command = .generate)
    (hsettings : i.settings host files = .ok c) (hquiet : host.programs.Quiet)
    (hfits : Lookup.deadlineFits host.uptime (.ofSeconds c.git.timeoutSeconds) = true)
    (htarget : files.writeTarget host.workingDirectory c.headerPath = .ok place) :
    ∃ commit, Settled host files i c commit files place := by
  rcases (CommitLookup.find_returns_iff (Generator.ofConfig c).lookup host files c.srcDir).2
    (.inr hfits) with ⟨⟨commit, mid⟩, hfind⟩
  obtain rfl : mid = files := CommitLookup.find_of_quiet hquiet hfind
  exact ⟨commit, hcommand, hsettings, hfind, htarget⟩

/-- Nothing can fail any more: the header is written, and its path is printed. -/
theorem Settled.report_eq (h : Settled host files i c commit mid place) :
    (i.report host files).code = 0 ∧
      (i.report host files).files = withHeader host mid c commit place ∧
      (i.report host files).output = c.headerPath.text ++ "\n" := by
  rw [Invocation.report_of_settings (Invocation.run_generate h.command) h.settings,
    generate_of_written h.find h.target]
  exact ⟨rfl, rfl, rfl⟩

end Generation

/-! ## The hook -/

theorem hook_of_target (host : Host) (files : FileSystem) (c : Config) :
    hook host files c.hookTarget c = generate host files c :=
  if_pos rfl

theorem hook_of_other {target : String} (host : Host) (files : FileSystem)
    (h : target ≠ c.hookTarget) :
    hook host files target c = { files, events := [skipEvent target c] } :=
  if_neg h

/-- If the settings cannot be loaded, the hook fails as the generation does, for every target.  If
they can, it is the generation for the target of the settings, to the character, and for every other
one it succeeds, prints nothing and changes nothing.  In that case it starts no tool: with any other
tools, looked at at any other times, it leaves the same. -/
theorem hook_gated (host : Host) (files : FileSystem) (i : Invocation) (target : String) :
    (∀ e, i.settings host files = .error e →
      { i with command := .hook target }.report host files =
          { i with command := .generate }.report host files ∧
        ({ i with command := .hook target }.report host files).code = 1 ∧
        ({ i with command := .hook target }.report host files).files = files ∧
        ({ i with command := .hook target }.report host files).output = "") ∧
    (∀ c, i.settings host files = .ok c →
      (target = c.hookTarget →
        { i with command := .hook target }.report host files =
          { i with command := .generate }.report host files) ∧
      (target ≠ c.hookTarget →
        ({ i with command := .hook target }.report host files).code = 0 ∧
          ({ i with command := .hook target }.report host files).output = "" ∧
          ({ i with command := .hook target }.report host files).files = files ∧
          ∀ programs schedule uptime,
            { i with command := .hook target }.report
                { host with programs, schedule, uptime } files =
              { i with command := .hook target }.report host files)) := by
  -- Loading does not look at the command, so both have the same settings.
  have hhook (host : Host) : { i with command := .hook target }.run host files =
      { i with command := .hook target }.withConfig host files (hook host files target) :=
    Invocation.run_hook rfl
  constructor
  · intro e hsettings
    have hreport := Invocation.report_of_refused (hhook host) hsettings
    have hreport' := Invocation.report_of_refused (i := { i with command := .generate })
      (Invocation.run_generate rfl) hsettings
    exact ⟨hreport.trans hreport'.symm, congrArg Report.code hreport,
      congrArg Report.files hreport, congrArg Report.output hreport⟩
  intro c hsettings
  constructor
  · rintro rfl
    have hreport := Invocation.report_of_settings (hhook host) hsettings
    have hreport' := Invocation.report_of_settings (i := { i with command := .generate })
      (Invocation.run_generate rfl) hsettings
    rw [hook_of_target] at hreport
    exact hreport.trans hreport'.symm
  · intro hother
    have hskip (programs : Programs) (schedule : Schedule) (uptime : Nat) :
        { i with command := .hook target }.report { host with programs, schedule, uptime } files =
          (((⟨files, "", [skipEvent target c], .success⟩ : Outcome).after
            (i.loadEvents host files)).after [startEvent]).report
              (Log.Filter.choose i.verbose host.environment) := by
      -- The settings come from the files and the variables alone.
      have hsettings' : { i with command := .hook target }.settings
          { host with programs, schedule, uptime } files = .ok c := hsettings
      have hreport := Invocation.report_of_settings (hhook _) hsettings'
      rw [hook_of_other _ _ hother] at hreport
      exact hreport
    have hreport := hskip host.programs host.schedule host.uptime
    refine ⟨congrArg Report.code hreport, congrArg Report.output hreport,
      congrArg Report.files hreport, ?_⟩
    intro programs schedule uptime
    exact (hskip programs schedule uptime).trans hreport.symm

/-- There is no directory for the header, so a generation fails.  The target is not the one of the
settings, for the blank in front of it, so the hook does not. -/
theorem hook_gated_blank :
    ({ plainGeneration with command := .hook " buildprog" }.report Generator.secondOldHost
        ⟨[]⟩).code = 0 ∧
      ({ plainGeneration with command := .hook " buildprog" }.report Generator.secondOldHost
        ⟨[]⟩).output = "" ∧
      (plainGeneration.report Generator.secondOldHost ⟨[]⟩).code = 1 := by
  have hsettings : plainGeneration.settings Generator.secondOldHost ⟨[]⟩ = .ok {} := rfl
  have hother : " buildprog" ≠ ({} : Config).hookTarget := by decide
  rcases hook_gated Generator.secondOldHost ⟨[]⟩ plainGeneration " buildprog" with ⟨-, hloaded⟩
  rcases hloaded _ hsettings with ⟨-, hskipped⟩
  rcases hskipped hother with ⟨hcode, houtput, -⟩
  exact ⟨hcode, houtput, rfl⟩

end Cli
end BuildStamp
