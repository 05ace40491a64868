import BuildStamp.Proofs.Config.File
import BuildStamp.Proofs.Host.Parent

/-!
# Anchor — one directory, seen from the file and from the working directory

A relative directory in a file is one below the directory that holds the file.  Loading the file
turns it into a directory that is seen from where the file is seen.  Written out from the working
directory, both are the same row of components, however the two paths are written.

* `Path.components_join_join` — a directory behind two others;
* `Config.SeenFrom` — a directory that means the same in both ways;
* `Config.seenFrom_anchoredAt` — seeing a directory from the file gives such a one;
* `Config.srcDir_seen_alike` — so do the settings that are loaded, and the defaults.
-/

namespace BuildStamp

/-! ## Directories behind one another -/

namespace Path

variable {w base p s : Path}

theorem ne_empty_of_isAbsolute (h : p.isAbsolute = true) : p.text ≠ "" := by
  intro hempty
  simp [isAbsolute, hempty] at h

theorem components_join_onward (hbase : base.text ≠ "") (hp : p.isAbsolute = false) :
    (base.join p).components = base.components ++ p.onward :=
  components_join hbase hp

theorem join_of_isAbsolute (h : p.isAbsolute = true) : base.join p = p := by
  simp [join, h]

/-- The components of two paths behind a third are those that each of them adds. -/
theorem components_join_join (hw : w.text ≠ "") (hbase : base.text ≠ "")
    (hrelative : base.isAbsolute = false) (hs : s.isAbsolute = false) :
    (w.join (base.join s)).components = w.components ++ base.onward ++ s.onward := by
  calc
    (w.join (base.join s)).components
        = ((w.join base).join s).components := by rw [join_assoc hw hrelative hbase hs]
    _ = (w.join base).components ++ s.onward :=
          components_join_onward (join_ne_empty hw hrelative) hs
    _ = w.components ++ base.onward ++ s.onward := by rw [components_join_onward hw hrelative]

end Path

namespace Config

variable {c : Config} {home : Option String} {cwd : Place} {files : FileSystem}
  {w p above s a : Path} {name : String}

/-! ## Directories of settings -/

/-- The directory `a`, seen from `w`, is the directory `s`, seen from the directory `above` that
holds the file `p`. -/
structure SeenFrom (w above p s a : Path) : Prop where
  -- Both lead through the same components.
  components : (w.join a).components = (above.join s).components
  -- An absolute directory is seen alike from everywhere.
  absolute : s.isAbsolute = true → a = s
  -- There is at most one directory in front.
  once : a = s ∨ ∃ base, p.parent? = some base ∧ a = base.join s

theorem SeenFrom.of_absolute (hs : s.isAbsolute = true) : SeenFrom w above p s s :=
  ⟨by rw [Path.join_of_isAbsolute hs, Path.join_of_isAbsolute hs], fun _ => rfl, .inl rfl⟩

/-- A file that is absolute itself brings the directory to start in. -/
theorem seenFrom_of_absolute (hparent : p.parent? = some above)
    (habsolute : above.isAbsolute = true) (hs : s.isAbsolute = false) :
    SeenFrom w above p s (above.join s) := by
  have hne := Path.ne_empty_of_isAbsolute habsolute
  have hjoin : (above.join s).isAbsolute = true := (Path.isAbsolute_join hne hs).trans habsolute
  refine ⟨?_, ?_, .inr ⟨above, hparent, rfl⟩⟩
  · rw [Path.join_of_isAbsolute hjoin]
  · intro h
    cases hs.symm.trans h

/-- A relative file is below the working directory, and so is the directory that holds it. -/
theorem components_of_relative {base : Path} (hw : w.text ≠ "") (hp : p.isAbsolute = false)
    (hbase : base.IsAbove p name) (habove : above.IsAbove (w.join p) name) :
    above.components = w.components ++ base.onward := by
  have hname : above.components ++ [.name name] = w.components ++ base.onward ++ [.name name] := by
    calc
      above.components ++ [.name name] = (w.join p).components := habove.components.symm
      _ = w.components ++ p.onward := Path.components_join_onward hw hp
      _ = w.components ++ base.onward ++ [.name name] := by
            rw [hbase.onward, List.append_assoc]
  exact (List.append_inj' hname rfl).1

/-- A relative file in a directory of its own has this directory between the two. -/
theorem seenFrom_of_relative {base : Path} (hw : w.text ≠ "") (hparent : p.parent? = some base)
    (hp : base.isAbsolute = false) (habove : above.text ≠ "")
    (hcomponents : above.components = w.components ++ base.onward) (hs : s.isAbsolute = false) :
    SeenFrom w above p s (if base.text = "" then s else base.join s) := by
  have hlower : (above.join s).components = w.components ++ base.onward ++ s.onward := by
    rw [Path.components_join_onward habove hs, hcomponents]
  by_cases hbase : base.text = ""
  · -- Where the path above is empty, nothing stands between the two.
    have honward : base.onward = [] := by
      unfold Path.onward
      rw [hbase]
      rfl
    rw [if_pos hbase]
    refine ⟨?_, fun _ => rfl, .inl rfl⟩
    rw [hlower, honward, List.append_nil, Path.components_join_onward hw hs]
  · -- The directory of the file is joined twice: by the loader, and by whoever looks from the
    -- working directory.
    rw [if_neg hbase]
    refine ⟨?_, ?_, .inr ⟨base, hparent, rfl⟩⟩
    · rw [hlower, Path.components_join_join hw hbase hp hs]
    · intro h
      cases hs.symm.trans h

/-- The directory of settings, seen from their file, is seen alike from the working directory. -/
theorem seenFrom_anchoredAt (home : Option String) (c : Config) (hw : w.isAbsolute = true)
    (hname : p.fileName? = some name) :
    ∃ above, (w.join p).parent? = some above ∧
      SeenFrom w above p (c.srcDir.expandTilde home) (c.anchoredAt home p).srcDir := by
  have hne := Path.ne_empty_of_isAbsolute hw
  rcases Path.exists_parent hname with ⟨base, hparent, hbase⟩
  have hjoined : (w.join p).fileName? = some name ∧ (w.join p).isAbsolute = true := by
    cases hp : p.isAbsolute with
    | true =>
        rw [Path.join_of_isAbsolute hp]
        exact ⟨hname, hp⟩
    | false =>
        have hcomponents : (w.join p).components =
            w.components ++ base.onward ++ [.name name] := by
          rw [Path.components_join_onward hne hp, hbase.onward, List.append_assoc]
        exact ⟨Path.fileName?_of_components hcomponents, (Path.isAbsolute_join hne hp).trans hw⟩
  rcases Path.exists_parent hjoined.1 with ⟨above, hparent', habove⟩
  refine ⟨above, hparent', ?_⟩
  have habsolute : above.isAbsolute = true := habove.isAbsolute.trans hjoined.2
  cases hs : (c.srcDir.expandTilde home).isAbsolute with
  | true =>
      rw [anchoredAt_of_absolute hs]
      exact .of_absolute hs
  | false =>
      have hsrcDir : (c.anchoredAt home p).srcDir =
          if base.text = "" then c.srcDir.expandTilde home
          else base.join (c.srcDir.expandTilde home) := by
        by_cases hempty : base.text = ""
        · rw [if_pos hempty, anchoredAt_of_bare]
          intro base' hparent''
          rcases hparent.symm.trans hparent'' with ⟨⟩
          exact hempty
        · rw [if_neg hempty, anchoredAt_of_base hs hparent hempty]
      rw [hsrcDir]
      cases hp : p.isAbsolute with
      | true =>
          -- The working directory has no part in an absolute file.
          rw [Path.join_of_isAbsolute hp] at hparent'
          rcases hparent.symm.trans hparent' with ⟨⟩
          rw [if_neg (Path.ne_empty_of_isAbsolute habsolute)]
          exact seenFrom_of_absolute hparent habsolute hs
      | false =>
          exact seenFrom_of_relative hne hparent (hbase.isAbsolute.trans hp)
            (Path.ne_empty_of_isAbsolute habsolute)
            (components_of_relative hne hp hbase habove) hs

/-! ## Settings that are loaded -/

theorem has_of_readText {text : String} (h : files.readText cwd p = .ok text) :
    files.has cwd p = true := by
  rcases bind_eq_ok_iff.1 h with ⟨content, hread, -⟩
  rcases bind_eq_ok_iff.1 hread with ⟨place, hresolve, -⟩
  exact FileSystem.has_eq_true_iff.2 ⟨place, hresolve⟩

/-- Whatever settings a file holds, loading it gives them with a directory that leads from the
working directory through the components through which the one that is written, its tilde expanded,
leads from the directory of the file.  Where no file is, the same holds of the defaults. -/
theorem srcDir_seen_alike (home : Option String) (cwd : Place) (files : FileSystem) (w p : Path)
    (name : String) (hw : w.isAbsolute = true) (hname : p.fileName? = some name) :
    ∃ above, (w.join p).parent? = some above ∧
      (∀ text read, files.readText cwd p = .ok text → Config.parse text = .ok read →
        ∃ c, load home cwd files p = .ok c ∧ loadOrDefault home cwd files p = (.ok c, []) ∧
          SeenFrom w above p (read.srcDir.expandTilde home) c.srcDir) ∧
      (files.has cwd p = false →
        ∃ c events, loadOrDefault home cwd files p = (.ok c, events) ∧
          SeenFrom w above p ((⟨"src"⟩ : Path).expandTilde home) c.srcDir) := by
  rcases seenFrom_anchoredAt home {} hw hname with ⟨above, hparent, hdefault⟩
  refine ⟨above, hparent, ?_, ?_⟩
  · intro text read hread hparse
    rcases seenFrom_anchoredAt home read hw hname with ⟨above', hparent', hseen⟩
    -- Both settings are anchored at one file, so one directory is above them.
    obtain rfl : above = above' := Option.some.inj (hparent.symm.trans hparent')
    have hload : load home cwd files p = .ok (read.anchoredAt home p) :=
      load_of_read hread hparse
    refine ⟨read.anchoredAt home p, hload, ?_, hseen⟩
    unfold loadOrDefault
    rw [if_pos (has_of_readText hread), hload]
  · intro hfree
    exact ⟨_, _, loadOrDefault_of_free hfree, hdefault⟩

/-- Settings with a tilde in front of their directory. -/
def tildeSettings : Config :=
  { srcDir := ⟨"~/gen/.."⟩ }

/-- A file system with a configuration in a directory. -/
def configuredFiles (text : String) : FileSystem :=
  ⟨[(["cfg"], .directory), (["cfg", "fwstamp.toml"], .file text.toUTF8 false)]⟩

/-- The home directory may be a relative one, which is then below the directory of the file. -/
theorem srcDir_seen_alike_tilde :
    (⟨"./cfg//fwstamp.toml"⟩ : Path).fileName? = some "fwstamp.toml" ∧
      ∃ text c above, Config.parse text = .ok tildeSettings ∧
        load (some "build") [] (configuredFiles text) ⟨"./cfg//fwstamp.toml"⟩ = .ok c ∧
        c.srcDir = ⟨"./cfg/build/gen/.."⟩ ∧
        ((⟨"/"⟩ : Path).join ⟨"./cfg//fwstamp.toml"⟩).parent? = some above ∧
        SeenFrom ⟨"/"⟩ above ⟨"./cfg//fwstamp.toml"⟩ ⟨"build/gen/.."⟩ c.srcDir := by
  have hname : (⟨"./cfg//fwstamp.toml"⟩ : Path).fileName? = some "fwstamp.toml" := by decide
  have hvalid : tildeSettings.validate = .ok () := validate_default
  obtain ⟨text, hparse⟩ : ∃ text, Config.parse text = .ok tildeSettings :=
    ⟨_, parse_lines hvalid (by decide)⟩
  have hthere : (configuredFiles text).resolve [] ⟨"./cfg//fwstamp.toml"⟩ =
      .ok ["cfg", "fwstamp.toml"] := rfl
  have hread : (configuredFiles text).readText [] ⟨"./cfg//fwstamp.toml"⟩ = .ok text :=
    FileSystem.readText_of_resolve hthere rfl
  rcases srcDir_seen_alike (some "build") [] (configuredFiles text) ⟨"/"⟩ ⟨"./cfg//fwstamp.toml"⟩
    "fwstamp.toml" rfl hname with ⟨above, hparent, hloaded, -⟩
  rcases hloaded text tildeSettings hread hparse with ⟨c, hload, -, hseen⟩
  have hc := hload.symm.trans (load_of_read hread hparse)
  have hsrcDir : c.srcDir = ⟨"./cfg/build/gen/.."⟩ := by
    rw [Except.ok.inj hc]
    rfl
  exact ⟨hname, text, c, above, hparse, hload, hsrcDir, hparent, hseen⟩

end Config
end BuildStamp
