import BuildStamp.Proofs.Cli.Report
import BuildStamp.Proofs.Cli.Starter
import BuildStamp.Proofs.Header.Naming

/-!
# Containment — the header stays in its directory

The name of the header is checked when the settings are loaded.  What changes the settings after
that changes the directory and the version, neither of which the check looks at, so the name that
the generator is given is still one ordinary component.  Put behind the directory, it adds this
component and no other.

* `Cli.Invocation.validate_of_settings` — all settings that a command is given are valid;
* `Cli.Invocation.Handed` — what a command that may write the header does with its settings;
* `Cli.header_contained` — where the header is written.
-/

namespace BuildStamp

namespace Cli

variable {host : Host} {files : FileSystem} {i : Invocation} {c : Config}

/-! ## Settings -/

namespace Invocation

/-- Neither the file nor what counts more than it brings settings that are not valid. -/
theorem validate_of_settings (h : i.settings host files = .ok c) : c.validate = .ok () := by
  unfold settings at h
  cases hload : Config.loadOrDefault host.environment.homeDirectory host.workingDirectory files
      (i.configPath host) with
  | mk loaded events =>
      rw [hload] at h
      cases loaded with
      | error e => cases h
      | ok read =>
          obtain rfl : i.overrides.apply host read = c := Except.ok.inj h
          rw [Overrides.validate_apply]
          exact Config.validate_of_loadOrDefault hload

/-- What a command comes to that may write the header: it fails because there are no settings, it
is a hook for another target, or it generates the header of its settings, which are valid. -/
inductive Handed (host : Host) (files : FileSystem) (i : Invocation) : Outcome → Prop where
  | refused {e : Error} (hsettings : i.settings host files = .error e) :
      Handed host files i
        ((Outcome.failure files (i.loadFailure host e)).after (i.loadEvents host files))
  | skipped {c : Config} {target : String} (hsettings : i.settings host files = .ok c)
      (hcommand : i.command = .hook target) (hother : target ≠ c.hookTarget) :
      Handed host files i
        ((⟨files, "", [skipEvent target c], .success⟩ : Outcome).after (i.loadEvents host files))
  | generated {c : Config} (hsettings : i.settings host files = .ok c)
      (hvalid : c.validate = .ok ()) :
      Handed host files i ((generate host files c).after (i.loadEvents host files))

theorem handed_run (h : i.command = .generate ∨ ∃ target, i.command = .hook target) :
    i.Handed host files (i.run host files) := by
  cases hsettings : i.settings host files with
  | error e =>
      rcases h with hcommand | ⟨target, hcommand⟩
      · rw [run_generate hcommand, withConfig_eq, hsettings]
        exact .refused hsettings
      · rw [run_hook hcommand, withConfig_eq, hsettings]
        exact .refused hsettings
  | ok c =>
      have hvalid := validate_of_settings hsettings
      rcases h with hcommand | ⟨target, hcommand⟩
      · rw [run_generate hcommand, withConfig_eq, hsettings]
        exact .generated hsettings hvalid
      · rw [run_hook hcommand, withConfig_eq, hsettings]
        -- Only a hook for another target does not come to the generator.
        by_cases htarget : target = c.hookTarget
        · simp only [htarget, hook_of_target]
          exact .generated hsettings hvalid
        · simp only [hook_of_other _ _ htarget]
          exact .skipped hsettings hcommand htarget

end Invocation

/-! ## The path of the header -/

/-- A generation or a hook generates no header but that of valid settings.  Whatever the directory
of valid settings is, the path of their header has the components of the directory and behind them
the name of the header as one more, it begins at the root only if the directory does, and what is
written under it is an entry with this name of the directory that the settings name. -/
theorem header_contained (host : Host) (files : FileSystem) (i : Invocation) (c : Config) :
    (i.command = .generate ∨ (∃ target, i.command = .hook target) →
      i.Handed host files (i.run host files)) ∧
    (c.validate = .ok () →
      c.headerPath.components = c.srcDir.components ++ [.name c.headerName] ∧
        c.headerPath.isAbsolute = c.srcDir.isAbsolute ∧
        ∀ (files : FileSystem) (cwd place : Place),
          files.writeTarget cwd c.headerPath = .ok place →
            ∃ dir, place = dir ++ [c.headerName] ∧
              (c.srcDir.text = "" ∧ dir = cwd ∨ files.directoryAt cwd c.srcDir = .ok dir)) := by
  constructor
  · exact Invocation.handed_run
  intro hvalid
  have hentry := Config.isEntry_headerName hvalid
  rcases Path.components_join_entry c.srcDir hentry with ⟨hcomponents, habsolute⟩
  refine ⟨hcomponents, habsolute, ?_⟩
  intro files cwd place htarget
  -- The name has no slash, so whatever the path means, its last segment is the name.
  exact FileSystem.exists_directory_of_writeTarget hentry.noSlash htarget

/-- However many slashes stand behind the directory, there is one component more. -/
theorem header_contained_slashes :
    ({ srcDir := ⟨"./gen//"⟩ } : Config).validate = .ok () ∧
      ({ srcDir := ⟨"./gen//"⟩ } : Config).headerPath.components =
        [.current, .name "gen", .name "build_info.h"] := by
  have hvalid : ({ srcDir := ⟨"./gen//"⟩ } : Config).validate = .ok () := Config.validate_default
  have hdirectory : (⟨"./gen//"⟩ : Path).components = [.current, .name "gen"] := by decide
  rcases header_contained Generator.secondOldHost ⟨[]⟩ plainGeneration
    { srcDir := ⟨"./gen//"⟩ } with ⟨-, hcontained⟩
  rcases hcontained hvalid with ⟨hcomponents, -, -⟩
  exact ⟨hvalid, hcomponents.trans (congrArg (· ++ [.name "build_info.h"]) hdirectory)⟩

end Cli
end BuildStamp
