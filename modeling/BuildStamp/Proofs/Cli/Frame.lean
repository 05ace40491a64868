import BuildStamp.Cli.Run
import BuildStamp.Proofs.Config.File
import BuildStamp.Proofs.Generator.Isolation

/-!
# Frame — what a run of the tool leaves as it was

Each command has at most one file to write, and writes it when nothing can fail any more.  So a run
that does not succeed has changed nothing and printed nothing, and one that does has changed at most
that file.

* `Cli.Outcome.Atomic` — what a command owes to the files it was given;
* `Cli.generate_atomic`, `Cli.hook_atomic`, `Cli.inspect_atomic`, `Cli.init_atomic` — the commands;
* `Cli.init_keeps` — a configuration that is there is not replaced unasked;
* `Cli.Invocation.Frame` — the files that an invocation may change;
* `Cli.run_frame` — every run.
-/

namespace BuildStamp
namespace Cli

open FileSystem (SameBut)

variable {host : Host} {files : FileSystem}

/-! ## Outcomes -/

/-- A command that does not succeed changes nothing and prints nothing, and one that does changes
at most the file of one path of which `MayWrite` holds. -/
structure Outcome.Atomic (o : Outcome) (cwd : Place) (files : FileSystem)
    (MayWrite : Path → Prop) : Prop where
  failed : o.ending ≠ .success → o.files = files ∧ o.output = ""
  frame : o.files = files ∨ ∃ p, MayWrite p ∧ SameBut files o.files cwd p

namespace Outcome

variable {o : Outcome} {cwd : Place} {MayWrite Other : Path → Prop}

theorem atomic_of_unchanged (hfiles : o.files = files)
    (houtput : o.ending ≠ .success → o.output = "") : o.Atomic cwd files MayWrite :=
  ⟨fun h => ⟨hfiles, houtput h⟩, .inl hfiles⟩

theorem Atomic.after (h : o.Atomic cwd files MayWrite) (events : List Log.Event) :
    (o.after events).Atomic cwd files MayWrite :=
  ⟨h.failed, h.frame⟩

theorem Atomic.mono (h : o.Atomic cwd files MayWrite) (himp : ∀ p, MayWrite p → Other p) :
    o.Atomic cwd files Other := by
  refine ⟨h.failed, ?_⟩
  rcases h.frame with hfiles | ⟨p, hp, hsame⟩
  · exact .inl hfiles
  · exact .inr ⟨p, himp p hp, hsame⟩

end Outcome

/-! ## Commands -/

theorem generate_atomic (files : FileSystem) (c : Config) (hquiet : host.programs.Quiet) :
    (generate host files c).Atomic host.workingDirectory files (· = c.headerPath) := by
  have hends := Generator.generate_ends (.ofConfig c) files c.srcDir hquiet
  unfold generate
  cases hrun : (Generator.ofConfig c).generate host files c.srcDir with
  | error cause => exact Outcome.atomic_of_unchanged rfl fun _ => rfl
  | ok run =>
      rw [hrun] at hends
      cases hends with
      | refused hfind htarget => exact Outcome.atomic_of_unchanged rfl fun _ => rfl
      | written hfind htarget =>
          exact ⟨fun h => absurd rfl h, .inr ⟨c.headerPath, rfl, FileSystem.sameBut_put htarget⟩⟩

theorem hook_atomic (files : FileSystem) (target : String) (c : Config)
    (hquiet : host.programs.Quiet) :
    (hook host files target c).Atomic host.workingDirectory files (· = c.headerPath) := by
  unfold hook
  split
  · exact generate_atomic files c hquiet
  · exact Outcome.atomic_of_unchanged rfl fun h => absurd rfl h

theorem inspect_atomic (files : FileSystem) (format : Format) (c : Config)
    (hquiet : host.programs.Quiet) :
    (inspect host files format c).Atomic host.workingDirectory files fun _ => False := by
  unfold inspect
  cases hcapture : (Generator.ofConfig c).capture host files c.srcDir with
  | error cause => exact Outcome.atomic_of_unchanged rfl fun _ => rfl
  | ok captured =>
      have hfiles := Generator.files_of_capture hquiet hcapture
      exact Outcome.atomic_of_unchanged hfiles fun h => absurd rfl h

/-- A configuration is written last, if nothing is there or it is to be replaced. -/
inductive Starts (host : Host) (files : FileSystem) (path : Path) (force : Bool) (c : Config) :
    Outcome → Prop where
  | refused (f : Failure) : Starts host files path force c (.failure files f)
  | written {text : String} {after : FileSystem} {events : List Log.Event}
      (hfree : files.has host.workingDirectory path = true → force = true)
      (hvalid : c.validate = .ok ()) (htext : c.text = .ok text)
      (hwrite : files.writeText host.workingDirectory path text = .ok after) :
      Starts host files path force c { files := after, output := path.text ++ "\n", events }

theorem init_starts (host : Host) (files : FileSystem) (path : Path) (force : Bool) (c : Config) :
    Starts host files path force c (init host files path force c) := by
  unfold init
  by_cases hthere : (files.has host.workingDirectory path && !force) = true
  · rw [if_pos hthere]
    exact .refused _
  rw [if_neg hthere]
  cases hvalid : c.validate with
  | error fault => exact .refused _
  | ok u =>
      cases hsave : c.save host.workingDirectory files path with
      | error e => exact .refused _
      | ok after =>
          obtain ⟨text, htext, hwrite⟩ := Config.save_eq_ok_iff.1 hsave
          exact .written (by simpa using hthere) hvalid htext hwrite

theorem init_atomic (host : Host) (files : FileSystem) (path : Path) (force : Bool) (c : Config) :
    (init host files path force c).Atomic host.workingDirectory files (· = path) := by
  have hstarts := init_starts host files path force c
  generalize init host files path force c = o at hstarts ⊢
  cases hstarts with
  | refused f => exact Outcome.atomic_of_unchanged rfl fun _ => rfl
  | written hfree hvalid htext hwrite =>
      exact ⟨fun h => absurd rfl h, .inr ⟨path, rfl, FileSystem.sameBut_of_write hwrite⟩⟩

/-- What is there stays as it is, unless it is to be replaced. -/
theorem init_keeps (path : Path) (c : Config) {place : Place} {node : FileSystem.Node}
    (hnode : files.nodeAt? place = some node) :
    (init host files path false c).files.nodeAt? place = some node := by
  have hstarts := init_starts host files path false c
  generalize init host files path false c = o at hstarts ⊢
  cases hstarts with
  | refused f => exact hnode
  | written hfree hvalid htext hwrite =>
      have hsame := FileSystem.sameBut_of_write hwrite
      rw [hsame place, hnode]
      intro htarget
      have hthere := (FileSystem.has_iff_of_writeTarget htarget).2 (Option.isSome_of_eq_some hnode)
      exact absurd (hfree hthere) (by decide)

/-! ## Invocations -/

namespace Invocation

/-- The settings that were loaded, with those of the command line. -/
def settings (host : Host) (files : FileSystem) (i : Invocation) : Except Error Config :=
  (Config.loadOrDefault host.environment.homeDirectory host.workingDirectory files
    (i.configPath host)).1.map (i.overrides.apply host)

theorem withConfig_of_error {i : Invocation} {e : Error} {events : List Log.Event}
    (h : Config.loadOrDefault host.environment.homeDirectory host.workingDirectory files
      (i.configPath host) = (.error e, events)) (body : Config → Outcome) :
    i.withConfig host files body =
      (Outcome.failure files
        (.during ("loading " ++ (i.configPath host).text) e)).after events := by
  simp only [withConfig, h]

theorem withConfig_of_ok {i : Invocation} {c : Config} {events : List Log.Event}
    (h : Config.loadOrDefault host.environment.homeDirectory host.workingDirectory files
      (i.configPath host) = (.ok c, events)) (body : Config → Outcome) :
    i.withConfig host files body = (body (i.overrides.apply host c)).after events := by
  simp only [withConfig, h]

theorem withConfig_atomic (i : Invocation) {body : Config → Outcome}
    {MayWrite : Config → Path → Prop}
    (h : ∀ c, (body c).Atomic host.workingDirectory files (MayWrite c)) :
    (i.withConfig host files body).Atomic host.workingDirectory files
      fun p => ∃ c, i.settings host files = .ok c ∧ MayWrite c p := by
  cases hload : Config.loadOrDefault host.environment.homeDirectory host.workingDirectory files
      (i.configPath host) with
  | mk loaded events =>
      cases loaded with
      | error e =>
          -- Nothing but the lines of the loading came out, and they change no file.
          rw [withConfig_of_error hload]
          exact (Outcome.atomic_of_unchanged rfl fun _ => rfl).after events
      | ok c =>
          have hsettings : i.settings host files = .ok (i.overrides.apply host c) := by
            unfold settings
            rw [hload]
            rfl
          rw [withConfig_of_ok hload]
          exact ((h _).mono fun p hp => ⟨_, hsettings, hp⟩).after events

/-- The files that an invocation may change: `after` is what it leaves. -/
def Frame (host : Host) (files after : FileSystem) (i : Invocation) : Prop :=
  match i.command with
  | .generate | .hook _ =>
      after = files ∨
        ∃ c, i.settings host files = .ok c ∧
          SameBut files after host.workingDirectory c.headerPath
  | .init force =>
      SameBut files after host.workingDirectory (i.configPath host) ∧
        (force = false → ∀ place node, files.nodeAt? place = some node →
          after.nodeAt? place = some node)
  | .inspect _ => after = files

theorem frame_run (files : FileSystem) (i : Invocation) (hquiet : host.programs.Quiet) :
    i.Frame host files (i.run host files).files ∧
      ((i.run host files).ending ≠ .success →
        (i.run host files).files = files ∧ (i.run host files).output = "") := by
  unfold Frame run
  cases i.command with
  | generate =>
      have h := i.withConfig_atomic fun c => generate_atomic files c hquiet
      refine ⟨?_, h.failed⟩
      rcases h.frame with hfiles | ⟨p, ⟨c, hc, rfl⟩, hsame⟩
      · exact .inl hfiles
      · exact .inr ⟨c, hc, hsame⟩
  | hook target =>
      have h := i.withConfig_atomic fun c => hook_atomic files target c hquiet
      refine ⟨?_, h.failed⟩
      rcases h.frame with hfiles | ⟨p, ⟨c, hc, rfl⟩, hsame⟩
      · exact .inl hfiles
      · exact .inr ⟨c, hc, hsame⟩
  | init force =>
      have h := init_atomic host files (i.configPath host) force (i.overrides.apply host {})
      refine ⟨⟨?_, ?_⟩, h.failed⟩
      · rcases h.frame with hfiles | ⟨p, rfl, hsame⟩
        · -- Files that stay as they are differ nowhere, so not outside the path either.
          simp only [hfiles]
          exact SameBut.refl _ _ _
        · exact hsame
      · rintro rfl place node hnode
        exact init_keeps _ _ hnode
  | inspect format =>
      have h := i.withConfig_atomic fun c => inspect_atomic files format c hquiet
      refine ⟨?_, h.failed⟩
      rcases h.frame with hfiles | ⟨p, ⟨c, -, himpossible⟩, -⟩
      · exact hfiles
      · -- Showing may write to no path at all.
        exact himpossible.elim

end Invocation

/-! ## Runs -/

theorem Ending.code_eq_zero_iff {e : Ending} : e.code = 0 ↔ e = .success := by
  cases e <;> simp [Ending.code]

/-- What a call may change: nothing, unless it is an invocation. -/
def Call.Frame (host : Host) (files after : FileSystem) : Call → Prop
  | .perform i => i.Frame host files after
  | _ => after = files

/-- Whatever is asked for, a run that does not exit with zero leaves all files as they were and
prints nothing; a run that does changes at most the header that its settings name, or at most the
configuration that it was told to write, which it does not replace unasked. -/
theorem run_frame (host : Host) (files : FileSystem) (arguments : List String)
    (hquiet : host.programs.Quiet) :
    ((run host files arguments).code ≠ 0 →
      (run host files arguments).files = files ∧ (run host files arguments).output = "") ∧
    (Call.ofArguments arguments).Frame host files (run host files arguments).files := by
  unfold run
  cases Call.ofArguments arguments with
  | help topic => exact ⟨fun h => absurd rfl h, rfl⟩
  | version => exact ⟨fun h => absurd rfl h, rfl⟩
  | misuse fault => exact ⟨fun _ => ⟨rfl, rfl⟩, rfl⟩
  | perform i =>
      obtain ⟨hframe, hfailed⟩ := i.frame_run files hquiet
      refine ⟨fun hcode => hfailed ?_, hframe⟩
      rintro hsuccess
      exact hcode (Ending.code_eq_zero_iff.2 hsuccess)

/-- A file system with an empty configuration. -/
def emptyConfiguration : FileSystem :=
  ⟨[(["fwstamp.toml"], .file .empty false)]⟩

/-- The configuration is there, so it is not replaced. -/
theorem run_frame_refused :
    Generator.secondOldHost.programs.Quiet ∧
      (run Generator.secondOldHost emptyConfiguration ["init"]).code = 1 ∧
      (run Generator.secondOldHost emptyConfiguration ["init"]).files = emptyConfiguration ∧
      (run Generator.secondOldHost emptyConfiguration ["init"]).output = "" := by
  have hquiet := Generator.quiet_secondOldHost
  have hcode : (run Generator.secondOldHost emptyConfiguration ["init"]).code = 1 := rfl
  obtain ⟨hfailed, -⟩ := run_frame Generator.secondOldHost emptyConfiguration ["init"] hquiet
  exact ⟨hquiet, hcode, hfailed (by rw [hcode]; decide)⟩

end Cli
end BuildStamp
