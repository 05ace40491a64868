import BuildStamp.Proofs.Cli.Frame
import BuildStamp.Proofs.Host.Join

/-!
# Starter — a configuration that is written and then used

A configuration that is written with settings of the command line gives the same settings to later
runs, but for the directory of the header: on the command line it is seen from the working
directory, in a configuration from where that is.  Where both are the same directory, a run with the
written configuration and one with the settings themselves do the same.

* `Cli.init_of_free` — a configuration is written where nothing is;
* `Cli.loadOrDefault_of_init` — what later runs load from it;
* `Cli.Overrides.SeenAlike` — directories that are the same from both places;
* `Cli.Agree` — runs that do the same;
* `Cli.init_then_generate` — a run with the written configuration, and one without;
* `Cli.init_then_generate_elsewhere` — a configuration in another directory.
-/

namespace BuildStamp
namespace CommitLookup

variable {l : CommitLookup} {host : Host} {files after : FileSystem} {p q : Path}

/-- What is stamped for a lookup depends on what is started, if anything is. -/
theorem commitOf_eq_of_start
    (hstart : ∀ child, l.start host after p = .ok child ↔ l.start host files q = .ok child)
    {found found' : Found} (hfind : l.find host after p = .ok found)
    (hfind' : l.find host files q = .ok found') :
    Generator.commitOf found.commit = Generator.commitOf found'.commit := by
  rcases find_cases hfind with ⟨cause, hp, rfl⟩ | ⟨child, hp, -, rfl⟩
  · rcases find_cases hfind' with ⟨cause', hq, rfl⟩ | ⟨child, hq, -, rfl⟩
    · rfl
    · cases hp.symm.trans ((hstart child).2 hq)
  · rcases find_cases hfind' with ⟨cause', hq, rfl⟩ | ⟨child', hq, -, rfl⟩
    · cases hq.symm.trans ((hstart child).1 hp)
    · obtain rfl := Except.ok.inj (hq.symm.trans ((hstart child).1 hp))
      rfl

end CommitLookup

namespace Cli

open Generator (secondOldHost oneDirectory)

variable {host : Host} {files started : FileSystem} {path : Path} {place : Place} {o : Overrides}

/-! ## Settings of the command line -/

namespace Overrides

theorem apply_eq (host : Host) (o : Overrides) (c : Config) :
    o.apply host c =
      { c with
        srcDir := (o.srcDir.map (·.expandTilde host.environment.homeDirectory)).getD c.srcDir
        version := o.version.or c.version } := by
  obtain ⟨srcDir, version⟩ := o
  cases srcDir <;> cases version <;> rfl

theorem git_apply (host : Host) (o : Overrides) (c : Config) : (o.apply host c).git = c.git := by
  rw [apply_eq]

/-- No setting of the command line is ever checked. -/
theorem validate_apply (host : Host) (o : Overrides) (c : Config) :
    (o.apply host c).validate = c.validate := by
  rw [apply_eq]
  rfl

theorem validate_apply_default (host : Host) (o : Overrides) :
    (o.apply host {}).validate = .ok () :=
  (o.validate_apply host {}).trans Config.validate_default

theorem fits_apply (host : Host) (o : Overrides) :
    (o.apply host {}).git.timeoutSeconds ≤ 2 ^ 63 - 1 := by
  rw [git_apply]
  decide

/-- Seen from elsewhere or not, the settings make the same generator. -/
theorem ofConfig_apply (host : Host) (o : Overrides) (home : Option String) (path : Path) :
    Generator.ofConfig ((o.apply host {}).anchoredAt home path) =
      Generator.ofConfig (o.apply host (({} : Config).anchoredAt home path)) := by
  obtain ⟨seen, hseen⟩ :
      ∃ d, ({} : Config).anchoredAt home path = { ({} : Config) with srcDir := d } :=
    ⟨_, Config.anchoredAt_eq home path {}⟩
  rw [Config.anchoredAt_eq, hseen, apply_eq, apply_eq]
  rfl

/-- The directory is the same whether it is seen from the working directory or from a file. -/
inductive SeenAlike (host : Host) (files : FileSystem) (path : Path) (o : Overrides) : Prop where
  | unset (h : o.srcDir = none)
  | absolute {p : Path} (h : o.srcDir = some p)
      (habsolute : (p.expandTilde host.environment.homeDirectory).isAbsolute = true)
  | bare {p d : Path} (h : o.srcDir = some p)
      (hd : d = p.expandTilde host.environment.homeDirectory)
      (hhome : d.expandTilde host.environment.homeDirectory = d)
      (hparent : ∀ base, path.parent? = some base → base.text = "")
  | beside {p d base : Path} (h : o.srcDir = some p)
      (hd : d = p.expandTilde host.environment.homeDirectory)
      (hhome : d.expandTilde host.environment.homeDirectory = d)
      (hrelative : d.isAbsolute = false) (hne : d.text ≠ "") (hparent : path.parent? = some base)
      (hbase : files.directoryAt host.workingDirectory base = .ok host.workingDirectory)
      (hshort : ((base.join d).join ⟨({} : Config).headerName⟩).text.utf8ByteSize <
        FileSystem.maxPathBytes)

theorem isFileName_headerName : FileSystem.IsFileName ({} : Config).headerName :=
  ⟨by decide, by decide, by decide, by decide⟩

theorem sameDirectory_of_seenAlike (h : o.SeenAlike host files path) :
    files.SameDirectory host.workingDirectory ({} : Config).headerName
      ((o.apply host {}).anchoredAt host.environment.homeDirectory path).srcDir
      (o.apply host (({} : Config).anchoredAt host.environment.homeDirectory path)).srcDir := by
  have hset {p : Path} (c : Config) (h : o.srcDir = some p) :
      (o.apply host c).srcDir = p.expandTilde host.environment.homeDirectory := by
    rw [apply_eq, h]
    rfl
  -- Each case fixes what anchoring does to the directory of the command line: nothing where it is
  -- absolute or nothing is above the file, a directory in front of it otherwise.
  cases h with
  | unset h =>
      have hkept (c : Config) : (o.apply host c).srcDir = c.srcDir := by
        rw [apply_eq, h]
        rfl
      refine .of_eq ?_
      rw [hkept, Config.srcDir_anchoredAt (hkept {})]
  | absolute h habsolute =>
      have hexpand := Path.expandTilde_of_isAbsolute host.environment.homeDirectory habsolute
      refine .of_eq ?_
      rw [Config.anchoredAt_of_absolute (by rwa [hset {} h, hexpand]), hset _ h, hset _ h, hexpand]
  | bare h hd hhome hparent =>
      refine .of_eq ?_
      rw [Config.anchoredAt_of_bare hparent, hset _ h, hset _ h, ← hd, hhome]
  | beside h hd hhome hrelative hne hparent hbase hshort =>
      -- A directory that is found has a path, which is what anchoring joins to.
      obtain ⟨hcheck, -⟩ := FileSystem.directoryAt_eq_ok_iff.1 hbase
      obtain ⟨-, hbaseNe, -⟩ := FileSystem.checkPath_eq_ok_iff.1 hcheck
      rw [Config.anchoredAt_of_base (by rwa [hset {} h, ← hd, hhome]) hparent hbaseNe, hset _ h,
        hset _ h, ← hd, hhome]
      exact FileSystem.sameDirectory_of_beside isFileName_headerName hbaseNe hbase hne hrelative
        hshort

end Overrides

/-! ## Writing a configuration -/

/-- Where nothing is, a configuration is written, whatever the command line says. -/
theorem init_of_free (host : Host) (force : Bool) (o : Overrides)
    (htarget : files.writeTarget host.workingDirectory path = .ok place)
    (hfree : files.nodeAt? place = none) :
    ∃ started, (o.apply host {}).save host.workingDirectory files path = .ok started ∧
      (init host files path force (o.apply host {})).ending = .success ∧
      (init host files path force (o.apply host {})).files = started := by
  have hhas := FileSystem.has_eq_false_of_free htarget hfree
  have hwrite : files.writeText host.workingDirectory path
      (String.ofList ((o.apply host {}).lines.flatMap Prod.fst)) = .ok _ :=
    FileSystem.write_eq_ok_iff.2 ⟨place, htarget, rfl⟩
  have hsave := Config.save_eq_ok_iff.2 ⟨_, Config.text_eq_ok (o.fits_apply host), hwrite⟩
  refine ⟨_, hsave, ?_⟩
  unfold init
  simp [hhas, o.validate_apply_default host, hsave]

/-- Later runs load what was written, with the directory seen from the file. -/
theorem loadOrDefault_of_init
    (hsave : (o.apply host {}).save host.workingDirectory files path = .ok started) :
    Config.loadOrDefault host.environment.homeDirectory host.workingDirectory started path =
      (.ok ((o.apply host {}).anchoredAt host.environment.homeDirectory path), []) :=
  Config.loadOrDefault_of_save (o.validate_apply_default host) (o.fits_apply host) hsave

/-! ## Runs that do the same -/

/-- Two runs, one in `started` and one in `files`, fail at the write and change nothing, or write
headers to one place that have the same version and, from the same tool, the same commit. -/
inductive Agree (files started : FileSystem) (sameTool : Prop) : Outcome → Outcome → Prop where
  | refused {o o' : Outcome} {p p' : Path} {cause cause' : IoError}
      (hending : o.ending = .failed (.during "pre-build step failed" (.write p cause)))
      (hending' : o'.ending = .failed (.during "pre-build step failed" (.write p' cause')))
      (hfiles : o.files = started) (hfiles' : o'.files = files) : Agree files started sameTool o o'
  | written {o o' : Outcome} {target : Place} {info info' : BuildInfo}
      (hending : o.ending = .success) (hending' : o'.ending = .success)
      (hfiles : o.files =
        started.put target (.file (Header.render info).toUTF8 (started.isExecutable target)))
      (hfiles' : o'.files =
        files.put target (.file (Header.render info').toUTF8 (files.isExecutable target)))
      (hversion : info.version = info'.version) (hcommit : sameTool → info.commit = info'.commit) :
      Agree files started sameTool o o'

theorem Agree.after {sameTool : Prop} {r r' : Outcome} (h : Agree files started sameTool r r')
    (events events' : List Log.Event) :
    Agree files started sameTool (r.after events) (r'.after events') := by
  cases h with
  | refused hending hending' hfiles hfiles' => exact .refused hending hending' hfiles hfiles'
  | written hending hending' hfiles hfiles' hversion hcommit =>
      exact .written hending hending' hfiles hfiles' hversion hcommit

/-- Whether the tools started in one place of two file systems are the same. -/
def SameTool (host : Host) (files started : FileSystem) : Prop :=
  ∀ place command, host.programs started place command = host.programs files place command

theorem holdsNul_eq_false_of_writeTarget {p : Path} {name : String} {target : Place}
    (hname : FileSystem.IsFileName name)
    (htarget : files.writeTarget host.workingDirectory (p.join ⟨name⟩) = .ok target) :
    CommitLookup.holdsNul p.text = false := by
  by_cases hempty : p.text = ""
  · rw [hempty]
    rfl
  · obtain ⟨above, last, dir, hnames, -, -⟩ := FileSystem.names_of_writeTarget htarget
    obtain ⟨hcheck, -⟩ := FileSystem.checkPath_of_join hempty hname.isAbsolute hnames.check
    obtain ⟨hnul, -, -⟩ := FileSystem.checkPath_eq_ok_iff.1 hcheck
    simpa [CommitLookup.holdsNul] using hnul

theorem start_iff_of_sameDirectory {l : CommitLookup} {p q : Path} {name : String} {target : Place}
    (hname : FileSystem.IsFileName name)
    (hsame : files.SameDirectory host.workingDirectory name p q)
    (hdirectories : files.SameDirectories started) (htool : SameTool host files started)
    (htarget : files.writeTarget host.workingDirectory (q.join ⟨name⟩) = .ok target)
    (child : Child) : l.start host started p = .ok child ↔ l.start host files q = .ok child := by
  have hnul := holdsNul_eq_false_of_writeTarget hname htarget
  have hnul' := holdsNul_eq_false_of_writeTarget hname ((hsame.target target).2 htarget)
  have hdirectory (place : Place) :
      started.directoryAt host.workingDirectory p = .ok place ↔
        files.directoryAt host.workingDirectory q = .ok place := by
    rw [← hsame.directory target htarget]
    exact ⟨hdirectories.symm.directoryAt, hdirectories.directoryAt⟩
  simp only [CommitLookup.start_eq_ok_iff, hnul, hnul', hdirectory, htool _ _]

theorem generate_agree {c c' : Config} (later : Instant)
    (hgenerator : Generator.ofConfig c = Generator.ofConfig c')
    (hname : FileSystem.IsFileName c.headerName)
    (hsame : files.SameDirectory host.workingDirectory c.headerName c.srcDir c'.srcDir)
    (hdirectories : files.SameDirectories started) (hquiet : host.programs.Quiet)
    (hfits : Lookup.deadlineFits host.uptime (Generator.ofConfig c).lookup.limit = true) :
    Agree files started (SameTool host files started)
      (generate { host with wallClock := later } started c) (generate host files c') := by
  obtain ⟨run, hrun, hends⟩ :
      ∃ run, (Generator.ofConfig c).generate { host with wallClock := later } started c.srcDir =
          .ok run ∧
        (Generator.ofConfig c).Ends { host with wallClock := later } started c.srcDir (.ok run) :=
    Generator.exists_ends _ started c.srcDir hquiet hfits
  obtain ⟨run', hrun', hends'⟩ :=
    Generator.exists_ends (Generator.ofConfig c) files c'.srcDir hquiet hfits
  unfold generate
  rw [hrun, ← hgenerator, hrun']
  -- A place to write to is there for both or for neither.
  cases hends with
  | refused hfind htarget =>
      cases hends' with
      | refused hfind' htarget' => exact .refused rfl rfl rfl rfl
      | written hfind' htarget' =>
          have htarget'' := hdirectories.writeTarget ((hsame.target _).2 htarget')
          cases htarget.symm.trans htarget''
  | written hfind htarget =>
      have htarget'' := (hsame.target _).1 (hdirectories.symm.writeTarget htarget)
      cases hends' with
      | refused hfind' htarget' => cases htarget'.symm.trans htarget''
      | written hfind' htarget' =>
          obtain rfl := Except.ok.inj (htarget'.symm.trans htarget'')
          refine .written rfl rfl rfl rfl rfl ?_
          intro htool
          exact CommitLookup.commitOf_eq_of_start
            (start_iff_of_sameDirectory hname hsame hdirectories htool htarget') hfind hfind'

/-! ## A configuration, and the settings themselves -/

theorem Invocation.run_of_generate {i : Invocation} {c : Config} {events : List Log.Event}
    (hcommand : i.command = .generate)
    (hload : Config.loadOrDefault host.environment.homeDirectory host.workingDirectory files
      (i.configPath host) = (.ok c, events)) :
    i.run host files = (generate host files (i.overrides.apply host c)).after events := by
  unfold run
  rw [hcommand]
  exact withConfig_of_ok hload _

/-- A configuration is written where nothing is.  Later runs without settings of their own load it,
with the directory seen from the file.  Where that is the directory seen from the working directory,
such a run does what a run does that has the settings and no configuration. -/
theorem init_then_generate (host : Host) (later : Instant) (files : FileSystem) (i : Invocation)
    (force : Bool) (place : Place) (hquiet : host.programs.Quiet)
    (hfits : Lookup.deadlineFits host.uptime
      (.ofSeconds ({} : Config).git.timeoutSeconds) = true)
    (htarget : files.writeTarget host.workingDirectory (i.configPath host) = .ok place)
    (hfree : files.nodeAt? place = none) :
    ∃ started,
      ({ i with command := .init force }.run host files).ending = .success ∧
      ({ i with command := .init force }.run host files).files = started ∧
      { i with command := .generate, overrides := {} }.settings host started =
        .ok ((i.overrides.apply host {}).anchoredAt host.environment.homeDirectory
          (i.configPath host)) ∧
      (i.overrides.SeenAlike host files (i.configPath host) →
        Agree files started (SameTool host files started)
          ({ i with command := .generate, overrides := {} }.run { host with wallClock := later }
            started)
          ({ i with command := .generate }.run host files)) := by
  obtain ⟨started, hsave, hending, hfiles⟩ := init_of_free host force i.overrides htarget hfree
  have hload := loadOrDefault_of_init hsave
  have hdefault : Config.loadOrDefault host.environment.homeDirectory host.workingDirectory files
      (i.configPath host) = _ :=
    Config.loadOrDefault_of_free (FileSystem.has_eq_false_of_free htarget hfree)
  have hdirectories : files.SameDirectories started := by
    obtain ⟨text, -, hwrite⟩ := Config.save_eq_ok_iff.1 hsave
    exact FileSystem.sameDirectories_of_write hwrite
  refine ⟨started, hending, hfiles, ?_, ?_⟩
  · exact congrArg (fun loaded => loaded.1.map (({} : Overrides).apply host)) hload
  · intro halike
    have hrun : { i with command := .generate, overrides := {} }.run
        { host with wallClock := later } started =
          (generate { host with wallClock := later } started
            ((i.overrides.apply host {}).anchoredAt host.environment.homeDirectory
              (i.configPath host))).after [] :=
      Invocation.run_of_generate rfl hload
    have hrun' := Invocation.run_of_generate (i := { i with command := .generate }) rfl hdefault
    rw [hrun, hrun']
    have hname : ((i.overrides.apply host {}).anchoredAt host.environment.homeDirectory
        (i.configPath host)).headerName = ({} : Config).headerName := by
      rw [Config.anchoredAt_eq, Overrides.apply_eq]
    have hlimit : (Generator.ofConfig ((i.overrides.apply host {}).anchoredAt
        host.environment.homeDirectory (i.configPath host))).lookup.limit =
          .ofSeconds ({} : Config).git.timeoutSeconds := by
      rw [Config.anchoredAt_eq, Overrides.apply_eq]
      rfl
    -- The settings of the two runs differ at most in the directory.
    refine (generate_agree later ?_ ?_ ?_ hdirectories hquiet ?_).after _ _
    · exact Overrides.ofConfig_apply host i.overrides _ _
    · rw [hname]
      exact Overrides.isFileName_headerName
    · rw [hname]
      exact Overrides.sameDirectory_of_seenAlike halike
    · rw [hlimit]
      exact hfits

/-- The configuration is in the working directory, which is written out. -/
def besideStarter : Invocation :=
  { command := .generate
    config := some ⟨"./fwstamp.toml"⟩
    overrides := { srcDir := some ⟨"src"⟩ } }

/-- A run with a configuration in the working directory does what the run without it does. -/
theorem init_then_generate_beside :
    secondOldHost.programs.Quiet ∧
      Lookup.deadlineFits secondOldHost.uptime (.ofSeconds 5) = true ∧
      oneDirectory.writeTarget [] ⟨"./fwstamp.toml"⟩ = .ok ["fwstamp.toml"] ∧
      oneDirectory.nodeAt? ["fwstamp.toml"] = none ∧
      ∃ started,
        ({ besideStarter with command := .init false }.run secondOldHost
          oneDirectory).files = started ∧
        Agree oneDirectory started
          (SameTool secondOldHost oneDirectory started)
          ({ besideStarter with overrides := {} }.run secondOldHost started)
          (besideStarter.run secondOldHost oneDirectory) := by
  have hquiet := Generator.quiet_secondOldHost
  have hfits : Lookup.deadlineFits secondOldHost.uptime (.ofSeconds 5) = true := by decide
  have htarget : oneDirectory.writeTarget [] ⟨"./fwstamp.toml"⟩ = .ok ["fwstamp.toml"] :=
    rfl
  have hfree : oneDirectory.nodeAt? ["fwstamp.toml"] = none := rfl
  have halike : besideStarter.overrides.SeenAlike secondOldHost oneDirectory
      ⟨"./fwstamp.toml"⟩ := by
    have hbase : oneDirectory.directoryAt [] ⟨"."⟩ = .ok [] := rfl
    exact .beside rfl rfl rfl rfl (by decide) rfl hbase (by decide +kernel)
  obtain ⟨started, -, hfiles, -, hagree⟩ := init_then_generate secondOldHost
    secondOldHost.wallClock oneDirectory besideStarter false ["fwstamp.toml"]
    hquiet hfits htarget hfree
  exact ⟨hquiet, hfits, htarget, hfree, started, hfiles, hagree halike⟩

/-! ## A configuration in another directory -/

/-- A generation succeeds exactly where the header can be written. -/
theorem generate_ending (files : FileSystem) (c : Config) (hquiet : host.programs.Quiet)
    (hfits : Lookup.deadlineFits host.uptime (.ofSeconds c.git.timeoutSeconds) = true) :
    (∃ target, files.writeTarget host.workingDirectory c.headerPath = .ok target ∧
      (generate host files c).ending = .success) ∨
    ∃ cause, files.writeTarget host.workingDirectory c.headerPath = .error cause ∧
      (generate host files c).ending =
        .failed (.during "pre-build step failed" (.write c.headerPath cause)) := by
  obtain ⟨run, hrun, hends⟩ :=
    Generator.exists_ends (Generator.ofConfig c) files c.srcDir hquiet hfits
  unfold generate
  rw [hrun]
  cases hends with
  | refused hfind htarget => exact .inr ⟨_, htarget, rfl⟩
  | written hfind htarget => exact .inl ⟨_, htarget, rfl⟩

/-- A file system with a directory for configurations and one for headers. -/
def twoDirectories : FileSystem :=
  ⟨[(["cfg"], .directory), (["out"], .directory)]⟩

/-- The configuration is in another directory. -/
def elsewhereStarter : Invocation :=
  { command := .generate
    config := some ⟨"cfg/fwstamp.toml"⟩
    overrides := { srcDir := some ⟨"out"⟩ } }

/-- A directory that is named on the command line is another one in a configuration that is
elsewhere: one run writes its header, the other finds no directory for it. -/
theorem init_then_generate_elsewhere :
    twoDirectories.writeTarget [] ⟨"cfg/fwstamp.toml"⟩ = .ok ["cfg", "fwstamp.toml"] ∧
      twoDirectories.nodeAt? ["cfg", "fwstamp.toml"] = none ∧
      ∃ started cause,
        ({ elsewhereStarter with command := .init false }.run secondOldHost
          twoDirectories).ending = .success ∧
        ({ elsewhereStarter with command := .init false }.run secondOldHost
          twoDirectories).files = started ∧
        (elsewhereStarter.run secondOldHost twoDirectories).ending = .success ∧
        ({ elsewhereStarter with overrides := {} }.run secondOldHost started).ending =
          .failed (.during "pre-build step failed" (.write ⟨"cfg/out/build_info.h"⟩ cause)) := by
  have hquiet := Generator.quiet_secondOldHost
  have hfits : Lookup.deadlineFits secondOldHost.uptime (.ofSeconds 5) = true := by decide
  have htarget : twoDirectories.writeTarget [] ⟨"cfg/fwstamp.toml"⟩ =
      .ok ["cfg", "fwstamp.toml"] := rfl
  have hfree : twoDirectories.nodeAt? ["cfg", "fwstamp.toml"] = none := rfl
  obtain ⟨started, hsave, hending, hfiles⟩ :=
    init_of_free secondOldHost false elsewhereStarter.overrides htarget hfree
  have hdirectories : twoDirectories.SameDirectories started := by
    obtain ⟨text, -, hwrite⟩ := Config.save_eq_ok_iff.1 hsave
    exact FileSystem.sameDirectories_of_write hwrite
  have hdefault : Config.loadOrDefault secondOldHost.environment.homeDirectory
      secondOldHost.workingDirectory twoDirectories
      (elsewhereStarter.configPath secondOldHost) = _ :=
    Config.loadOrDefault_of_free rfl
  have hload : Config.loadOrDefault secondOldHost.environment.homeDirectory
      secondOldHost.workingDirectory started
      (elsewhereStarter.configPath secondOldHost) = _ :=
    loadOrDefault_of_init hsave
  have hrun := Invocation.run_of_generate (i := elsewhereStarter) rfl hdefault
  have hrun' :=
    Invocation.run_of_generate (i := { elsewhereStarter with overrides := {} }) rfl hload
  have hthere : twoDirectories.writeTarget [] ⟨"out/build_info.h"⟩ =
      .ok ["out", "build_info.h"] := rfl
  -- The saved configuration anchors the same directory below its own, where none is.
  have hmissing : twoDirectories.writeTarget [] ⟨"cfg/out/build_info.h"⟩ = .error .notFound := rfl
  have hsuccess : (elsewhereStarter.run secondOldHost twoDirectories).ending = .success := by
    rw [hrun]
    rcases generate_ending twoDirectories (elsewhereStarter.overrides.apply secondOldHost
      (({} : Config).anchoredAt none ⟨"cfg/fwstamp.toml"⟩)) hquiet hfits with
      ⟨target, -, hsuccess⟩ | ⟨cause, hcause, -⟩
    · exact hsuccess
    · cases hthere.symm.trans hcause
  rcases generate_ending started ((elsewhereStarter.overrides.apply secondOldHost
    {}).anchoredAt none ⟨"cfg/fwstamp.toml"⟩) hquiet hfits with
    ⟨target', htarget', -⟩ | ⟨cause, -, hfailed⟩
  · -- Writing the configuration made no directory for the header.
    cases hmissing.symm.trans (hdirectories.symm.writeTarget htarget')
  · exact ⟨htarget, hfree, started, cause, hending, hfiles, hsuccess, hrun' ▸ hfailed⟩

end Cli
end BuildStamp
