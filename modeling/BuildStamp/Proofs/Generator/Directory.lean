import BuildStamp.Proofs.Cli.Containment
import BuildStamp.Proofs.Lookup.Punctual

/-!
# Directory — where the commit is looked up

The header is written under a path below the directory of the settings, and the tool is started in
this directory.  Where the settings name one, both are the same place, for a path leads to one place
as long as it leads anywhere, whatever the tool does to the files in between.

An empty directory is the exception.  A name that is joined to it is seen from the working
directory, so the header is written there; but there is no way into a directory without a name, so
no tool is ever started.

* `CommitLookup.Startable` — tools that can be started from a place;
* `CommitLookup.start_iff_of_find` — when one is started;
* `CommitLookup.commit_of_find` — and what is found if it is done in time;
* `Generator.exists_written` — what is behind a header that was written;
* `Generator.commit_beside_header` — the commit of a header and the tools in its directory;
* `Generator.commit_missed` — settings with an empty directory.
-/

namespace BuildStamp

/-- A path that leads to a directory has no NUL character in it, and is not empty. -/
theorem FileSystem.check_of_directoryAt {fs : FileSystem} {cwd dir : Place} {p : Path}
    (h : fs.directoryAt cwd p = .ok dir) :
    p.text.toList.contains '\x00' = false ∧ p.text ≠ "" := by
  have hcheck := (directoryAt_eq_ok_iff.1 h).1
  unfold checkPath at hcheck
  split at hcheck
  · cases hcheck
  · rename_i hnul
    refine ⟨Bool.eq_false_iff.2 hnul, ?_⟩
    intro hempty
    simp [hempty] at hcheck

/-! ## Starting -/

namespace CommitLookup

variable {l : CommitLookup} {host : Host} {files : FileSystem} {directory : Path} {dir : Place}
  {child : Child}

/-- The command can be started from a place, and this child is what comes of it. -/
structure Startable (l : CommitLookup) (host : Host) (files : FileSystem) (dir : Place)
    (child : Child) : Prop where
  noNul : (holdsNul l.command.program || l.command.arguments.any holdsNul) = false
  launched : host.programs files dir l.command = .ok child

/-- In a directory that is there, a tool is started that can be started from it. -/
theorem start_iff_startable (hdir : files.directoryAt host.workingDirectory directory = .ok dir) :
    l.start host files directory = .ok child ↔ l.Startable host files dir child := by
  have hnul : holdsNul directory.text = false := (FileSystem.check_of_directoryAt hdir).1
  constructor
  · intro hstart
    rcases start_eq_ok_iff.1 hstart with ⟨hnuls, dir', hdir', hlaunched⟩
    obtain rfl : dir = dir' := Except.ok.inj (hdir.symm.trans hdir')
    rw [hnul, Bool.or_false] at hnuls
    exact ⟨hnuls, hlaunched⟩
  · rintro ⟨hnuls, hlaunched⟩
    exact start_eq_ok_iff.2 ⟨by rw [hnul, hnuls]; rfl, dir, hdir, hlaunched⟩

/-- No tool is started in a directory without a name. -/
theorem start_of_empty (hempty : directory.text = "") :
    l.start host files directory ≠ .ok child := by
  intro hstart
  rcases start_eq_ok_iff.1 hstart with ⟨-, dir, hdir, -⟩
  exact (FileSystem.check_of_directoryAt hdir).2 hempty

/-- The directory in which a path leads behind a lookup is the one in which the tool was started,
and in which it was not started if it was not. -/
theorem directoryAt_of_find {found : Found} (hfind : l.find host files directory = .ok found)
    (hdir : found.files.directoryAt host.workingDirectory directory = .ok dir) :
    files.directoryAt host.workingDirectory directory = .ok dir := by
  cases hstart : l.start host files directory with
  | error cause =>
      obtain rfl := Except.ok.inj (hfind.symm.trans (find_of_refused hstart))
      exact hdir
  | ok child =>
      rcases start_eq_ok_iff.1 hstart with ⟨-, dir', hdir', -⟩
      -- The tool may have changed the files, but not where the path leads.
      obtain rfl := FileSystem.directoryAt_unique hdir hdir'
      exact hdir'

/-- With a lookup done and a place found for an entry of the directory, a tool was started exactly
if the directory has a name and the tool can be started from where the entry is. -/
theorem start_iff_of_find {found : Found} (hfind : l.find host files directory = .ok found)
    (hdir : directory.text = "" ∧ dir = host.workingDirectory ∨
      found.files.directoryAt host.workingDirectory directory = .ok dir) :
    l.start host files directory = .ok child ↔
      directory.text ≠ "" ∧ l.Startable host files dir child := by
  rcases hdir with ⟨hempty, -⟩ | hdir
  · constructor
    · intro hstart
      exact absurd hstart (start_of_empty hempty)
    · rintro ⟨hne, -⟩
      exact absurd hempty hne
  · have hbefore := directoryAt_of_find hfind hdir
    have hne : directory.text ≠ "" := (FileSystem.check_of_directoryAt hbefore).2
    rw [start_iff_startable hbefore, and_iff_right hne]

/-- A lookup whose tool is done in time, with success and a text, has the core of the text. -/
theorem commit_of_find {found : Found} {status : ExitStatus} {bytes : ByteArray} {text : String}
    (hfind : l.find host files directory = .ok found)
    (hstart : l.start host files directory = .ok child)
    (hpunctual : Lookup.Punctual child status l.limit) (hstatus : status.isSuccess = true)
    (houtput : child.output = .ok bytes) (htext : String.fromUTF8? bytes = some text)
    (hblank : Text.isBlankText text = false) : found.commit = .ok (Text.trim text) := by
  have hfits : Lookup.deadlineFits host.uptime l.limit = true :=
    ((find_returns_iff l host files directory).1 ⟨found, hfind⟩).resolve_left
      fun hnever => hnever child hstart
  rcases find_of_punctual hstart hpunctual hfits with ⟨after, hfind'⟩
  obtain rfl := Except.ok.inj (hfind.symm.trans hfind')
  calc
    Lookup.plain status child.output = Lookup.plain status (.ok bytes) := by rw [houtput]
    _ = .ok (Text.trim text) := Lookup.plain_of_text hstatus htext hblank

end CommitLookup

/-! ## Headers that were written -/

namespace Generator

variable {g : Generator} {host : Host} {files : FileSystem} {directory path : Path} {run : Outcome}

/-- What a generation comes to if the lookup leaves a place for the header. -/
theorem generate_of_target {found : CommitLookup.Found} {place : Place}
    (hfind : g.lookup.find host files directory = .ok found)
    (htarget : found.files.writeTarget host.workingDirectory (g.target directory) = .ok place) :
    ∃ run, g.generate host files directory = .ok run ∧ run.result = .ok (g.target directory) ∧
      found.files.writeText host.workingDirectory (g.target directory)
        (Header.render (g.stamp host found.commit)) = .ok run.files := by
  have hgenerate := generate_of_find hfind
  rw [Header.write_of_target _ htarget] at hgenerate
  exact ⟨_, hgenerate, rfl, FileSystem.write_eq_ok_iff.2 ⟨place, htarget, rfl⟩⟩

/-- Behind a header that was written is a lookup, which left a place for it. -/
theorem exists_written (hrun : g.generate host files directory = .ok run)
    (hpath : run.result = .ok path) :
    ∃ found place, g.lookup.find host files directory = .ok found ∧
      found.files.writeTarget host.workingDirectory (g.target directory) = .ok place ∧
      path = g.target directory ∧
      found.files.writeText host.workingDirectory (g.target directory)
        (Header.render (g.stamp host found.commit)) = .ok run.files := by
  cases hfind : g.lookup.find host files directory with
  -- A header that was written was neither broken off nor refused, so two of three cases are out.
  | error cause => cases (generate_of_broken hfind).symm.trans hrun
  | ok found =>
      cases htarget : found.files.writeTarget host.workingDirectory (g.target directory) with
      | error cause =>
          have hgenerate := (generate_of_find hfind).symm.trans hrun
          rw [Header.write_of_refusal _ htarget] at hgenerate
          obtain rfl := Except.ok.inj hgenerate
          cases hpath
      | ok place =>
          rcases generate_of_target hfind htarget with ⟨run', hrun', hpath', hwrite⟩
          obtain rfl := Except.ok.inj (hrun.symm.trans hrun')
          obtain rfl := Except.ok.inj (hpath.symm.trans hpath')
          exact ⟨found, place, rfl, htarget, rfl, hwrite⟩

/-- What a header says of the commit, next to the tools in its directory.  The header of valid
settings is written as an entry of one directory.  Unless the settings leave their directory empty,
a tool is started exactly if it can be started from there, and if it is done in time, with success,
and prints a text that is not blank, the header has the core of this text.  Under an empty directory
no tool is started, and the header has the word for an unknown commit instead. -/
theorem commit_beside_header (c : Config) (host : Host) (files : FileSystem) (run : Outcome)
    (path : Path) (hvalid : c.validate = .ok ())
    (hrun : (ofConfig c).generate host files c.srcDir = .ok run) (hpath : run.result = .ok path) :
    ∃ dir info,
      run.files.resolve host.workingDirectory path = .ok (dir ++ [c.headerName]) ∧
      run.files.readText host.workingDirectory path = .ok (Header.render info) ∧
      (∀ child, (ofConfig c).lookup.start host files c.srcDir = .ok child ↔
        c.srcDir.text ≠ "" ∧ (ofConfig c).lookup.Startable host files dir child) ∧
      ∀ child status bytes text, (ofConfig c).lookup.Startable host files dir child →
        Lookup.Punctual child status (.ofSeconds c.git.timeoutSeconds) →
        status.isSuccess = true → child.output = .ok bytes → String.fromUTF8? bytes = some text →
        Text.isBlankText text = false →
        info.commit = if c.srcDir.text = "" then unknownCommit else Text.trim text := by
  rcases exists_written hrun hpath with ⟨found, place, hfind, htarget, rfl, hwrite⟩
  have hentry := Config.isEntry_headerName hvalid
  rcases FileSystem.exists_directory_of_writeTarget hentry.noSlash htarget with
    ⟨dir, rfl, hdir⟩
  refine ⟨dir, (ofConfig c).stamp host found.commit, ?_, ?_, ?_, ?_⟩
  · exact FileSystem.resolve_of_write htarget hwrite
  · exact FileSystem.readText_of_writeText hwrite
  · intro child
    exact CommitLookup.start_iff_of_find hfind hdir
  · intro child status bytes text hstartable hpunctual hstatus houtput htext hblank
    -- An empty path is the one that the tool cannot be started in, though the header can be
    -- written.
    by_cases hempty : c.srcDir.text = ""
    · rw [if_pos hempty]
      cases hstart : (ofConfig c).lookup.start host files c.srcDir with
      | ok child => exact absurd hstart (CommitLookup.start_of_empty hempty)
      | error cause =>
          obtain rfl := Except.ok.inj (hfind.symm.trans (CommitLookup.find_of_refused hstart))
          rfl
    · rw [if_neg hempty]
      have hstart := (CommitLookup.start_iff_of_find hfind hdir).2 ⟨hempty, hstartable⟩
      exact congrArg commitOf
        (CommitLookup.commit_of_find hfind hstart hpunctual hstatus houtput htext hblank)

/-- The child that each tool of the second-old host is. -/
def promptChild : Child :=
  { ending := some (0, .exited 0), output := .ok "abc1234".toUTF8, closing := some 0 }

theorem punctual_promptChild : Lookup.Punctual promptChild (.exited 0) (.ofSeconds 5) :=
  ⟨rfl, ⟨0, rfl, by decide⟩, ⟨0, rfl, by decide⟩⟩

/-- Settings whose directory is the one to which two dots lead back. -/
def behindDots : Config :=
  { srcDir := ⟨"src/.."⟩ }

/-- The header and the tool are in the directory to which the two dots lead back. -/
theorem commit_beside_header_dots :
    ∃ run info, behindDots.validate = .ok () ∧
      (ofConfig behindDots).generate secondOldHost oneDirectory behindDots.srcDir = .ok run ∧
      run.result = .ok ⟨"src/../build_info.h"⟩ ∧
      run.files.resolve [] ⟨"src/../build_info.h"⟩ = .ok ["build_info.h"] ∧
      run.files.readText [] ⟨"src/../build_info.h"⟩ = .ok (Header.render info) ∧
      info.commit = "abc1234" := by
  have hvalid : behindDots.validate = .ok () := Config.validate_default
  have hstart : (ofConfig behindDots).lookup.start secondOldHost oneDirectory behindDots.srcDir =
      .ok promptChild := rfl
  rcases CommitLookup.find_of_punctual hstart punctual_promptChild rfl with ⟨after, hfind⟩
  have hafter : after = oneDirectory := CommitLookup.find_of_quiet quiet_secondOldHost hfind
  have htarget : oneDirectory.writeTarget [] ⟨"src/../build_info.h"⟩ = .ok ["build_info.h"] := rfl
  rw [← hafter] at htarget
  rcases generate_of_target hfind htarget with ⟨run, hrun, hpath, hwrite⟩
  rcases commit_beside_header behindDots secondOldHost oneDirectory run _ hvalid hrun hpath with
    ⟨dir, info, -, hread, -, hcommit⟩
  have htext := hcommit promptChild (.exited 0) _ "abc1234" ⟨rfl, rfl⟩ punctual_promptChild rfl rfl
    (FileSystem.fromUTF8?_toUTF8 "abc1234") (by decide +kernel)
  have htrim : Text.trim "abc1234" = "abc1234" := by decide +kernel
  exact ⟨run, info, hvalid, hrun, hpath, FileSystem.resolve_of_write htarget hwrite, hread,
    htext.trans htrim⟩

/-- Settings with an empty directory, whose header is written into the working directory. -/
def emptyDirectory : Config :=
  { srcDir := ⟨""⟩, git := { program := "echo" } }

theorem parse_emptyDirectory :
    Config.parse "src_dir = \"\"\n[git]\nprogram = \"echo\"\n" = .ok emptyDirectory := by
  let lines : List (List Char × Toml.Statement) :=
    [Config.stringLine "src_dir" "", ("[git]\n".toList, .header [] "git"),
      Config.stringLine "program" "echo"]
  have hlines : ∀ l ∈ lines, (Text.Reader.behind Toml.blanks Toml.statement).Reads l.1 l.2 := by
    intro l hl
    simp only [lines, List.mem_cons, List.not_mem_nil, or_false] at hl
    rcases hl with rfl | rfl | rfl
    · exact Config.reads_stringLine (by decide) ""
    · exact Toml.reads_header 'g' ['i', 't'] (by decide)
    · exact Config.reads_stringLine (by decide) "echo"
  have htext : "src_dir = \"\"\n[git]\nprogram = \"echo\"\n" =
      String.ofList (lines.flatMap Prod.fst) := by decide +kernel
  rw [Config.parse_of_lines htext hlines rfl rfl rfl]
  rfl

/-- The settings are accepted, their header is written into the working directory, and a tool that
is done in time can be started from there; and yet its output is not in the header. -/
theorem commit_missed :
    Config.parse "src_dir = \"\"\n[git]\nprogram = \"echo\"\n" = .ok emptyDirectory ∧
      (ofConfig emptyDirectory).lookup.Startable secondOldHost ⟨[]⟩ [] promptChild ∧
      Lookup.Punctual promptChild (.exited 0) (.ofSeconds 5) ∧
      promptChild.output = .ok "abc1234".toUTF8 ∧
      ∃ run info,
        (ofConfig emptyDirectory).generate secondOldHost ⟨[]⟩ emptyDirectory.srcDir = .ok run ∧
        run.result = .ok ⟨"build_info.h"⟩ ∧
        run.files.resolve [] ⟨"build_info.h"⟩ = .ok ["build_info.h"] ∧
        run.files.readText [] ⟨"build_info.h"⟩ = .ok (Header.render info) ∧
        info.commit = "unknown" := by
  have hfind : (ofConfig emptyDirectory).lookup.find secondOldHost ⟨[]⟩ emptyDirectory.srcDir =
      .ok ⟨.error (.spawn .notFound), ⟨[]⟩⟩ := rfl
  have htarget : (⟨[]⟩ : FileSystem).writeTarget [] ⟨"build_info.h"⟩ = .ok ["build_info.h"] := rfl
  rcases generate_of_target hfind htarget with ⟨run, hrun, hpath, hwrite⟩
  exact ⟨parse_emptyDirectory, ⟨rfl, rfl⟩, punctual_promptChild, rfl, run, _, hrun, hpath,
    FileSystem.resolve_of_write htarget hwrite, FileSystem.readText_of_writeText hwrite, rfl⟩

end Generator
end BuildStamp
