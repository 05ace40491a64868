import BuildStamp.Proofs.Cli.Containment

/-!
# Repeat — a generation that is done again

A second generation finds the header of the first one and writes the same one over it, so it leaves
what the first one left.  For this it has to load the same settings.  They are in a file that any
path names, and the header is a file in any directory, so the two can be one file, in whatever way
their paths are written.  Then the first generation writes the header over the configuration, and
the second one finds a document that is none.

* `Cli.Invocation.SameLookup` — the tool does the same in both runs;
* `Cli.Settled.generate_withHeader` — a generation behind its own header;
* `Cli.Settled.settings_overwritten` — the settings behind a header that is written over them;
* `Cli.Settled.sameLookup` — a tool that leaves the files alone and has one answer does the same;
* `Cli.generate_again_iff` — when the second run is the first one again;
* `Cli.generate_again_overwritten` — a configuration that names itself as the header.
-/

namespace BuildStamp

namespace CommitLookup

variable {l : CommitLookup} {host : Host} {files after : FileSystem} {p : Path}

/-- Of a tool that leaves the files alone, what is found depends on what answers the start. -/
theorem find_of_start_eq (hquiet : host.programs.Quiet)
    (hstart : l.start host after p = l.start host files p) {found : Found}
    (hfind : l.find host files p = .ok found) :
    l.find host after p = .ok ⟨found.commit, after⟩ := by
  rcases find_cases hfind with ⟨cause, hlaunch, rfl⟩ | ⟨child, hlaunch, hfits, rfl⟩
  · exact find_of_refused (hstart.trans hlaunch)
  · have hagain := hstart.trans hlaunch
    rcases start_eq_ok_iff.1 hagain with ⟨-, place, -, hchild⟩
    rw [find_of_started hagain hfits, hquiet after place l.command child hchild]

end CommitLookup

namespace Cli

open Generator (secondOldHost oneDirectory)

variable {host : Host} {files mid : FileSystem} {i : Invocation} {c : Config} {place : Place}
  {commit : Except LookupError String}

/-! ## Tools that do the same -/

/-- The tool does the same in both runs: it gives one commit, the first time it does not change what
is loaded, and the second time it changes nothing. -/
def Invocation.SameLookup (host : Host) (files : FileSystem) (i : Invocation) : Prop :=
  ∀ c, i.settings host files = .ok c →
    ∃ commit mid,
      (Generator.ofConfig c).lookup.find host files c.srcDir = .ok ⟨commit, mid⟩ ∧
      Config.loadOrDefault host.environment.homeDirectory host.workingDirectory mid
          (i.configPath host) =
        Config.loadOrDefault host.environment.homeDirectory host.workingDirectory files
          (i.configPath host) ∧
      (Generator.ofConfig c).lookup.find host (i.report host files).files c.srcDir =
        .ok ⟨commit, (i.report host files).files⟩

/-! ## Behind the header -/

namespace Settled

variable (h : Settled host files i c commit mid place)
include h

theorem sameDirectories : mid.SameDirectories (withHeader host mid c commit place) :=
  FileSystem.sameDirectories_put (FileSystem.ne_nil_of_writeTarget h.target)
    (FileSystem.not_directory_of_writeTarget h.target)

theorem nodeAt?_withHeader :
    (withHeader host mid c commit place).nodeAt? place =
      some (.file (Header.render ((Generator.ofConfig c).stamp host commit)).toUTF8
        (mid.isExecutable place)) :=
  FileSystem.nodeAt?_put_self (FileSystem.ne_nil_of_writeTarget h.target) mid _

/-- The path of the header leads to it. -/
theorem resolve_headerPath :
    (withHeader host mid c commit place).resolve host.workingDirectory c.headerPath =
      .ok place :=
  FileSystem.resolve_put_of_writeTarget h.target

/-- Behind its own header, a generation writes the header again. -/
theorem generate_withHeader
    (hagain : (Generator.ofConfig c).lookup.find host (withHeader host mid c commit place)
      c.srcDir = .ok ⟨commit, withHeader host mid c commit place⟩) :
    generate host (withHeader host mid c commit place) c = generate host files c := by
  have hexecutable : (withHeader host mid c commit place).isExecutable place =
      mid.isExecutable place :=
    FileSystem.isExecutable_put (FileSystem.ne_nil_of_writeTarget h.target)
  -- Two headers at one place are one header.
  have hput : (withHeader host mid c commit place).put place
      (.file (Header.render ((Generator.ofConfig c).stamp host commit)).toUTF8
        (mid.isExecutable place)) = withHeader host mid c commit place :=
    FileSystem.put_put mid place _ _
  rw [generate_of_written h.find h.target,
    generate_of_written hagain (h.sameDirectories.writeTarget h.target)]
  simp only [hexecutable, hput]
  rfl

/-- A header that is written over the configuration is no configuration. -/
theorem settings_overwritten
    (hresolve : (withHeader host mid c commit place).resolve host.workingDirectory
      (i.configPath host) = .ok place) :
    i.settings host (withHeader host mid c commit place) = .error (.config .malformed) := by
  -- The comment that a header begins with is none in a configuration.
  rcases Header.exists_slash_render ((Generator.ofConfig c).stamp host commit) with ⟨s, hslash⟩
  have hread := FileSystem.readText_of_resolve hresolve h.nodeAt?_withHeader
  have hload := Config.loadOrDefault_of_malformed host.environment.homeDirectory hread
    (FileSystem.has_eq_true_iff.2 ⟨_, hresolve⟩) (Toml.parse?_of_slash hslash)
  exact congrArg (fun loaded => loaded.1.map (i.overrides.apply host)) hload

/-- So a generation fails behind it, and changes nothing. -/
theorem report_overwritten
    (hresolve : (withHeader host mid c commit place).resolve host.workingDirectory
      (i.configPath host) = .ok place) :
    (i.report host (withHeader host mid c commit place)).code = 1 ∧
      (i.report host (withHeader host mid c commit place)).files =
        withHeader host mid c commit place ∧
      (i.report host (withHeader host mid c commit place)).output = "" := by
  rw [Invocation.report_of_refused (Invocation.run_generate h.command)
    (h.settings_overwritten hresolve)]
  exact ⟨rfl, rfl, rfl⟩

/-- With the same settings and the same answer of the tool the second run is the first one again. -/
theorem report_withHeader
    (hagain : (Generator.ofConfig c).lookup.find host (withHeader host mid c commit place)
      c.srcDir = .ok ⟨commit, withHeader host mid c commit place⟩)
    (hload : Config.loadOrDefault host.environment.homeDirectory host.workingDirectory
        (withHeader host mid c commit place) (i.configPath host) =
      Config.loadOrDefault host.environment.homeDirectory host.workingDirectory files
        (i.configPath host)) :
    i.report host (withHeader host mid c commit place) = i.report host files := by
  have hsettings : i.settings host (withHeader host mid c commit place) = .ok c := by
    rw [← h.settings]
    exact congrArg (fun loaded => loaded.1.map (i.overrides.apply host)) hload
  have hevents : i.loadEvents host (withHeader host mid c commit place) =
      i.loadEvents host files := congrArg Prod.snd hload
  rw [Invocation.report_of_settings (Invocation.run_generate h.command) h.settings,
    Invocation.report_of_settings (Invocation.run_generate h.command) hsettings, hevents,
    h.generate_withHeader hagain]

/-- The tool does the same if it leaves the files alone and what answers the start is the same. -/
theorem sameLookup (hquiet : host.programs.Quiet)
    (htool : SameTool host files (withHeader host mid c commit place)) :
    i.SameLookup host files := by
  obtain rfl : mid = files := CommitLookup.find_of_quiet hquiet h.find
  intro c' hsettings
  obtain rfl : c = c' := Except.ok.inj (h.settings.symm.trans hsettings)
  refine ⟨commit, mid, h.find, rfl, ?_⟩
  rw [h.report_eq.2.1]
  refine CommitLookup.find_of_start_eq hquiet ?_ h.find
  have hentry := Config.isEntry_headerName (Invocation.validate_of_settings h.settings)
  -- The directory of the header is there before and behind the write, or no path at all.
  have hdirectory :
      (withHeader host mid c commit place).directoryAt host.workingDirectory c.srcDir =
        mid.directoryAt host.workingDirectory c.srcDir := by
    rcases FileSystem.exists_directory_of_writeTarget hentry.noSlash h.target with
      ⟨dir, -, ⟨hempty, -⟩ | hdir⟩
    · simp [FileSystem.directoryAt, FileSystem.resolve, FileSystem.checkPath, hempty, error_bind]
    · rw [hdir, h.sameDirectories.directoryAt hdir]
  unfold CommitLookup.start
  rw [hdirectory]
  cases mid.directoryAt host.workingDirectory c.srcDir with
  | error cause => rfl
  | ok dir => simp only [ok_bind, htool dir]

end Settled

/-! ## Two runs -/

/-- A generation that succeeds, done again with a tool that does the same, is the same run exactly
if the path of the configuration does not lead to the header.  If it does, the second run fails,
prints nothing and changes nothing. -/
theorem generate_again_iff (host : Host) (files : FileSystem) (i : Invocation)
    (hcommand : i.command = .generate) (hcode : (i.report host files).code = 0)
    (hlookup : i.SameLookup host files) :
    ∃ c after, i.settings host files = .ok c ∧ (i.report host files).files = after ∧
      (i.report host after = i.report host files ↔
        after.resolve host.workingDirectory (i.configPath host) ≠
          after.resolve host.workingDirectory c.headerPath) ∧
      (after.resolve host.workingDirectory (i.configPath host) =
          after.resolve host.workingDirectory c.headerPath →
        (i.report host after).code = 1 ∧ (i.report host after).files = after ∧
          (i.report host after).output = "") := by
  rcases exists_settled hcommand hcode with ⟨c, commit, mid, place, h⟩
  rcases hlookup c h.settings with ⟨commit', mid', hfind, hunchanged, hagain⟩
  -- There is one lookup, so what is assumed of it is assumed of the one that was done.
  obtain ⟨rfl, rfl⟩ : commit' = commit ∧ mid' = mid := by
    simpa using hfind.symm.trans h.find
  rw [h.report_eq.2.1] at hagain
  refine ⟨c, _, h.settings, h.report_eq.2.1, ?_, ?_⟩
  · rw [h.resolve_headerPath]
    constructor
    · intro hsame hresolve
      have hfailed := (h.report_overwritten hresolve).1
      rw [hsame, hcode] at hfailed
      cases hfailed
    · intro helsewhere
      have hload := Config.loadOrDefault_put host.environment.homeDirectory
        (FileSystem.ne_nil_of_writeTarget h.target)
        (FileSystem.not_directory_of_writeTarget h.target) helsewhere
      exact h.report_withHeader hagain (hload.trans hunchanged)
  · rw [h.resolve_headerPath]
    exact h.report_overwritten

/-- Without a configuration the header is written into the directory for it, twice the same. -/
theorem generate_again_default :
    (plainGeneration.report secondOldHost oneDirectory).code = 0 ∧
      plainGeneration.SameLookup secondOldHost oneDirectory ∧
      plainGeneration.report secondOldHost (plainGeneration.report secondOldHost
        oneDirectory).files = plainGeneration.report secondOldHost oneDirectory := by
  have hquiet := Generator.quiet_secondOldHost
  have hsettings : plainGeneration.settings secondOldHost oneDirectory = .ok {} := rfl
  have htarget : oneDirectory.writeTarget [] ({} : Config).headerPath =
      .ok ["src", "build_info.h"] := rfl
  rcases exists_settled_of_target rfl hsettings hquiet (by decide) htarget with ⟨commit, h⟩
  have hlookup := h.sameLookup hquiet fun _ _ => rfl
  rcases generate_again_iff secondOldHost oneDirectory plainGeneration rfl h.report_eq.1
    hlookup with ⟨c, after, hc, hafter, hagain, -⟩
  obtain rfl : {} = c := Except.ok.inj (hsettings.symm.trans hc)
  obtain rfl := hafter.symm.trans h.report_eq.2.1
  refine ⟨h.report_eq.1, hlookup, ?_⟩
  rw [hafter]
  refine hagain.2 ?_
  -- Nothing is at the path of the configuration, and the header is there.
  have hmissing : (withHeader secondOldHost oneDirectory {} commit
      ["src", "build_info.h"]).resolve [] ⟨"fwstamp.toml"⟩ = .error .notFound := rfl
  intro hresolve
  cases hmissing.symm.trans (hresolve.trans h.resolve_headerPath)

/-! ## A configuration that names itself -/

/-- A configuration that names itself as the header. -/
def selfNaming : String :=
  "src_dir = \".\"\nheader_name = \"fwstamp.toml\"\n"

/-- A file system with this configuration. -/
def selfNamingFiles : FileSystem :=
  ⟨[(["fwstamp.toml"], .file selfNaming.toUTF8 false)]⟩

theorem parse_selfNaming :
    Config.parse selfNaming = .ok { srcDir := ⟨"."⟩, headerName := "fwstamp.toml" } := by
  let lines : List (List Char × Toml.Statement) :=
    [Config.stringLine "src_dir" ".", Config.stringLine "header_name" "fwstamp.toml"]
  have hlines : ∀ l ∈ lines, (Text.Reader.behind Toml.blanks Toml.statement).Reads l.1 l.2 := by
    intro l hl
    simp only [lines, List.mem_cons, List.not_mem_nil, or_false] at hl
    rcases hl with rfl | rfl
    · exact Config.reads_stringLine (by decide) "."
    · exact Config.reads_stringLine (by decide) "fwstamp.toml"
  have htext : selfNaming = String.ofList (lines.flatMap Prod.fst) := by decide +kernel
  rw [Config.parse_of_lines htext hlines rfl rfl rfl]
  rfl

/-- The first generation succeeds and writes the header over the configuration, so the second one
fails, although the tool does the same. -/
theorem generate_again_overwritten :
    (plainGeneration.report secondOldHost selfNamingFiles).code = 0 ∧
      (plainGeneration.report secondOldHost selfNamingFiles).output = "./fwstamp.toml\n" ∧
      plainGeneration.SameLookup secondOldHost selfNamingFiles ∧
      (plainGeneration.report secondOldHost
        (plainGeneration.report secondOldHost selfNamingFiles).files).code = 1 := by
  have hquiet := Generator.quiet_secondOldHost
  have hthere : selfNamingFiles.resolve [] ⟨"fwstamp.toml"⟩ = .ok ["fwstamp.toml"] := rfl
  have hload : Config.load none [] selfNamingFiles ⟨"fwstamp.toml"⟩ = _ :=
    Config.load_of_read (FileSystem.readText_of_resolve hthere rfl) parse_selfNaming
  have hsettings : plainGeneration.settings secondOldHost selfNamingFiles =
      .ok { srcDir := ⟨"."⟩, headerName := "fwstamp.toml" } :=
    congrArg (Except.map (({} : Overrides).apply secondOldHost)) hload
  have htarget : selfNamingFiles.writeTarget [] ⟨"./fwstamp.toml"⟩ = .ok ["fwstamp.toml"] := rfl
  rcases exists_settled_of_target rfl hsettings hquiet (by decide) htarget with ⟨commit, h⟩
  have hlookup := h.sameLookup hquiet fun _ _ => rfl
  -- Behind the first run the configuration is still found, but it is the header.
  have hresolve : (withHeader secondOldHost selfNamingFiles
      { srcDir := ⟨"."⟩, headerName := "fwstamp.toml" } commit ["fwstamp.toml"]).resolve []
        ⟨"fwstamp.toml"⟩ = .ok ["fwstamp.toml"] := rfl
  have hfailed := h.report_overwritten hresolve
  rw [← h.report_eq.2.1] at hfailed
  exact ⟨h.report_eq.1, h.report_eq.2.2, hlookup, hfailed.1⟩

end Cli
end BuildStamp
