import BuildStamp.Proofs.Config.RoundTrip
import BuildStamp.Proofs.Host.Write
import BuildStamp.Proofs.Toml.Parsed

/-!
# File — settings that are saved and loaded

Settings are saved by one write, and a run that finds their file loads them as they were, but for
the directory, which it sees from where the file is.

* `Config.anchoredAt_of_absolute`, `Config.anchoredAt_of_bare`, `Config.anchoredAt_of_base` — the
  directory, seen from where a file is;
* `Config.validate_of_parse`, `Config.validate_of_loadOrDefault` — whatever is loaded is valid;
* `Config.save_eq_ok_iff`, `Config.save_eq_error_iff` — saving is making the text and writing it,
  and what can go wrong in this;
* `Config.load_of_save`, `Config.loadOrDefault_of_save` — what was saved is loaded;
* `Config.loadOrDefault_of_free` — the defaults, where nothing is there;
* `Config.loadOrDefault_put`, `Config.loadOrDefault_of_malformed` — what is loaded behind the write
  of another file, and behind one of the file itself.
-/

namespace BuildStamp

theorem Path.expandTilde_of_isAbsolute {p : Path} (home : Option String)
    (h : p.isAbsolute = true) : p.expandTilde home = p := by
  unfold isAbsolute at h
  unfold expandTilde
  split
  · rename_i htext
    rw [htext] at h
    cases h
  · rename_i htext
    rw [htext] at h
    cases h
  · rfl

namespace Config

variable {c : Config} {home : Option String} {cwd : Place} {files after : FileSystem}
  {path base : Path}

/-! ## Directories -/

/-- Only the directory is seen from somewhere. -/
theorem anchoredAt_eq (home : Option String) (path : Path) (c : Config) :
    c.anchoredAt home path = { c with srcDir := (c.anchoredAt home path).srcDir } := by
  unfold anchoredAt
  cases path.parent? with
  | none => rfl
  | some base =>
      simp only
      split
      · rfl
      · rfl

/-- Where a directory is seen depends on nothing else. -/
theorem srcDir_anchoredAt {c' : Config} (h : c.srcDir = c'.srcDir) :
    (c.anchoredAt home path).srcDir = (c'.anchoredAt home path).srcDir := by
  unfold anchoredAt
  rw [h]
  cases path.parent? with
  | none => rfl
  | some base =>
      simp only
      split
      · rfl
      · rfl

theorem anchoredAt_of_absolute (h : (c.srcDir.expandTilde home).isAbsolute = true) :
    c.anchoredAt home path = { c with srcDir := c.srcDir.expandTilde home } := by
  unfold anchoredAt
  cases path.parent? <;> simp [h]

theorem anchoredAt_of_bare (h : ∀ base, path.parent? = some base → base.text = "") :
    c.anchoredAt home path = { c with srcDir := c.srcDir.expandTilde home } := by
  unfold anchoredAt
  cases hparent : path.parent? with
  | none => rfl
  | some base => simp [h base hparent]

theorem anchoredAt_of_base (hrelative : (c.srcDir.expandTilde home).isAbsolute = false)
    (hparent : path.parent? = some base) (hbase : base.text ≠ "") :
    c.anchoredAt home path = { c with srcDir := base.join (c.srcDir.expandTilde home) } := by
  unfold anchoredAt
  simp [hparent, hrelative, hbase]

/-! ## Validity -/

theorem validate_default : ({} : Config).validate = .ok () := by
  have hname : isPlainFileName ({} : Config).headerName = true := by decide
  have hblank : Text.isBlankText ({} : Config).hookTarget = false := by decide
  simp only [validate, hname, hblank]
  rfl

/-- A text is read only into settings that are valid. -/
theorem validate_of_parse {text : String} (h : Config.parse text = .ok c) :
    c.validate = .ok () := by
  unfold Config.parse at h
  cases hparse : Toml.parse? text with
  | none =>
      rw [hparse] at h
      cases h
  | some entries =>
      rw [hparse] at h
      rcases bind_eq_ok_iff.1 h with ⟨read, -, hread⟩
      rcases bind_eq_ok_iff.1 hread with ⟨⟨⟩, hvalid, heq⟩
      obtain rfl : read = c := Except.ok.inj heq
      exact hvalid

/-- The directory is not checked, so it can be seen from anywhere. -/
theorem validate_anchoredAt (home : Option String) (path : Path) (c : Config) :
    (c.anchoredAt home path).validate = c.validate := by
  rw [anchoredAt_eq]
  rfl

/-! ## Saving and loading -/

theorem save_eq_ok_iff :
    c.save cwd files path = .ok after ↔
      ∃ text, c.text = .ok text ∧ files.writeText cwd path text = .ok after := by
  unfold save
  rw [bind_eq_ok_iff]
  refine exists_congr fun text => and_congr_right fun _ => ?_
  cases files.writeText cwd path text <;> simp [Except.mapError]

/-- Settings without a text are not saved. -/
theorem save_of_text_error {e : Error} (h : c.text = .error e) :
    c.save cwd files path = .error e := by
  unfold save
  rw [h, error_bind]

/-- Nor are settings where no file can be written. -/
theorem save_of_refusal {text : String} {cause : IoError} (htext : c.text = .ok text)
    (h : files.writeTarget cwd path = .error cause) :
    c.save cwd files path = .error (.io cause) := by
  have hwrite : files.writeText cwd path text = .error cause :=
    FileSystem.write_eq_error_iff.2 h
  unfold save
  rw [htext, ok_bind, hwrite]
  rfl

theorem save_of_target {text : String} {place : Place} (htext : c.text = .ok text)
    (h : files.writeTarget cwd path = .ok place) :
    c.save cwd files path =
      .ok (files.put place (.file text.toUTF8 (files.isExecutable place))) :=
  save_eq_ok_iff.2 ⟨text, htext, FileSystem.write_eq_ok_iff.2 ⟨place, h, rfl⟩⟩

/-- The only settings without a text are those whose timeout is no integer of the format. -/
theorem text_of_long (h : 2 ^ 63 - 1 < c.git.timeoutSeconds) :
    c.text = .error .timeoutTooLarge := by
  have hnone : Toml.fitting? (c.git.timeoutSeconds : Int) = none := by
    refine Option.eq_none_iff_forall_ne_some.2 fun i hi => ?_
    have hrange := (Toml.fitting?_eq_some_iff.1 hi).1.2
    simp only [Toml.maxInteger] at hrange
    omega
  simp only [text, Toml.integerText?, hnone, Option.map_none]

/-- A save is refused for the timeout, whatever the path is, or else because the system will not
have the file written, whatever its text is. -/
theorem save_eq_error_iff {e : Error} :
    c.save cwd files path = .error e ↔
      (2 ^ 63 - 1 < c.git.timeoutSeconds ∧ e = .timeoutTooLarge) ∨
        (c.git.timeoutSeconds ≤ 2 ^ 63 - 1 ∧
          ∃ cause, files.writeTarget cwd path = .error cause ∧ e = .io cause) := by
  by_cases hfits : c.git.timeoutSeconds ≤ 2 ^ 63 - 1
  · rw [or_iff_right fun h => Nat.not_lt.2 hfits h.1, and_iff_right hfits]
    cases htarget : files.writeTarget cwd path with
    | error cause =>
        rw [save_of_refusal (text_eq_ok hfits) htarget]
        simp [eq_comm]
    | ok place =>
        rw [save_of_target (text_eq_ok hfits) htarget]
        simp
  · have hlong := Nat.lt_of_not_le hfits
    rw [or_iff_left fun h => hfits h.1, and_iff_right hlong,
      save_of_text_error (text_of_long hlong)]
    simp [eq_comm]

theorem load_eq_ok_iff :
    load home cwd files path = .ok c ↔
      ∃ text read, files.readText cwd path = .ok text ∧ Config.parse text = .ok read ∧
        c = read.anchoredAt home path := by
  unfold load
  cases htext : files.readText cwd path with
  | error cause => simp [Except.mapError, error_bind]
  | ok text =>
      cases hparse : Config.parse text with
      | error fault => simp [Except.mapError, hparse, ok_bind, Functor.map, Except.map]
      | ok read => simp [Except.mapError, hparse, ok_bind, Functor.map, Except.map, eq_comm]

theorem load_of_read {text : String} (hread : files.readText cwd path = .ok text)
    (hparse : Config.parse text = .ok c) :
    load home cwd files path = .ok (c.anchoredAt home path) :=
  load_eq_ok_iff.2 ⟨text, c, hread, hparse, rfl⟩

/-- What was saved is loaded, with its directory seen from where the file is. -/
theorem load_of_save (hvalid : c.validate = .ok ())
    (hfits : c.git.timeoutSeconds ≤ 2 ^ 63 - 1) (hsave : c.save cwd files path = .ok after) :
    load home cwd after path = .ok (c.anchoredAt home path) := by
  obtain ⟨text, htext, hwrite⟩ := save_eq_ok_iff.1 hsave
  obtain rfl := Except.ok.inj (htext.symm.trans (text_eq_ok hfits))
  exact load_of_read (FileSystem.readText_of_writeText hwrite) (parse_lines hvalid hfits)

theorem loadOrDefault_of_save (hvalid : c.validate = .ok ())
    (hfits : c.git.timeoutSeconds ≤ 2 ^ 63 - 1) (hsave : c.save cwd files path = .ok after) :
    loadOrDefault home cwd after path = (.ok (c.anchoredAt home path), []) := by
  obtain ⟨text, -, hwrite⟩ := save_eq_ok_iff.1 hsave
  have hthere := (FileSystem.read_of_write hwrite).1
  unfold loadOrDefault
  rw [if_pos hthere, load_of_save hvalid hfits hsave]

theorem loadOrDefault_of_free (hfree : files.has cwd path = false) :
    loadOrDefault home cwd files path =
      (.ok (({} : Config).anchoredAt home path), [missingEvent path]) := by
  unfold loadOrDefault
  rw [if_neg (by simp [hfree])]

/-- A file that is put elsewhere does not change what is loaded. -/
theorem loadOrDefault_put (home : Option String) {place : Place} {content : ByteArray}
    {executable : Bool}
    (hplace : place ≠ []) (hnode : files.nodeAt? place ≠ some .directory)
    (h : (files.put place (.file content executable)).resolve cwd path ≠ .ok place) :
    loadOrDefault home cwd (files.put place (.file content executable)) path =
      loadOrDefault home cwd files path := by
  rcases FileSystem.has_read_put_of_elsewhere hplace hnode h with ⟨hhas, hread⟩
  unfold loadOrDefault
  rw [hhas]
  cases hthere : files.has cwd path with
  | false => rfl
  | true =>
      unfold load
      rw [hread hthere]

theorem loadOrDefault_of_malformed (home : Option String) {text : String}
    (hread : files.readText cwd path = .ok text) (hhas : files.has cwd path = true)
    (hparse : Toml.parse? text = none) :
    loadOrDefault home cwd files path = (.error (.config .malformed), []) := by
  unfold loadOrDefault load
  rw [if_pos hhas, hread]
  simp only [Except.mapError, ok_bind, parse_of_malformed hparse, error_bind]

theorem validate_of_loadOrDefault {events : List Log.Event}
    (h : loadOrDefault home cwd files path = (.ok c, events)) : c.validate = .ok () := by
  unfold loadOrDefault at h
  split at h
  · rcases load_eq_ok_iff.1 (congrArg Prod.fst h) with ⟨text, read, -, hparse, rfl⟩
    rw [validate_anchoredAt]
    exact validate_of_parse hparse
  · obtain rfl := Except.ok.inj (congrArg Prod.fst h)
    rw [validate_anchoredAt]
    exact validate_default

end Config
end BuildStamp
