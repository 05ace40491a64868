import BuildStamp.Proofs.Config.Anchor
import BuildStamp.Proofs.Config.Decoding
import BuildStamp.Proofs.Toml.Parsed

/-!
# Resave — settings that were loaded can be saved anywhere

Settings that are loaded from an absolute path no longer depend on where they came from: their
directory is absolute, whatever the home directory is, so it is seen alike from every other file.
What a document can hold, the writer can give, since both stop at integers of 64 bits.  So only the
system can keep loaded settings from being saved, and from wherever they are saved they are loaded
as they are.

* `Config.fits_of_parse` — the timeout of settings that are read;
* `Config.isAbsolute_srcDir_of_load` — the directory of settings that are loaded;
* `Config.anchoredAt_of_isAbsolute` — an absolute directory stays;
* `Config.resave_alike` — loading, saving elsewhere and loading again.
-/

namespace BuildStamp

open Toml (Value Entries)

/-! ## Timeouts -/

theorem Toml.natural?_le_of_fits {v : Value} {n : Nat} (h : v.Fits) (hn : v.natural? = some n) :
    n ≤ 2 ^ 63 - 1 := by
  cases h with
  | integer value hfits =>
      rcases hfits with ⟨-, hmax⟩
      simp only [Value.natural?, Option.ite_none_right_eq_some, Option.some.injEq] at hn
      unfold maxInteger at hmax
      omega
  | _ => cases hn

namespace GitSettings

variable {v : Value} {entries : Entries}

theorem fits_members (h : v.Fits) : (members v).Fits := by
  have hzip {keys : List String} {items : List Value} (hitems : ∀ v ∈ items, v.Fits) :
      Entries.Fits (keys.zip items) :=
    fun m hm => hitems m.2 (List.of_mem_zip hm).2
  cases h with
  | table hvalues => exact hvalues
  | array hitems => exact hzip hitems
  | tables hvalues =>
      refine hzip ?_
      intro v hv
      obtain ⟨entries, hmem, rfl⟩ := List.mem_map.1 hv
      exact .table (hvalues entries hmem)
  | _ => exact fun m hm => absurd hm List.not_mem_nil

theorem timeoutSeconds_ofMembers_le (h : entries.Fits) :
    (ofMembers entries).timeoutSeconds ≤ 2 ^ 63 - 1 := by
  unfold ofMembers
  cases htimeout : (entries.lookup "timeout_secs").bind Value.natural? with
  | none =>
      change ({} : GitSettings).timeoutSeconds ≤ 2 ^ 63 - 1
      decide
  | some n =>
      obtain ⟨v, hlookup, hn⟩ := Option.bind_eq_some_iff.1 htimeout
      exact Toml.natural?_le_of_fits (h _ (Entries.mem_of_lookup hlookup)) hn

end GitSettings

namespace Config

variable {c : Config} {home : Option String} {cwd : Place} {files : FileSystem} {path : Path}
  {text : String}

/-- Settings that are read are those that their document gives by its keys. -/
theorem exists_entries_of_parse (h : parse text = .ok c) :
    ∃ entries, Toml.parse? text = some entries ∧ c = ofEntries entries := by
  cases hparse : Toml.parse? text with
  | none => cases h.symm.trans (parse_of_malformed hparse)
  | some entries =>
      obtain ⟨result, hverdict⟩ := exists_verdict entries
      obtain rfl := h.symm.trans (parse_of_verdict hparse hverdict)
      cases hverdict
      exact ⟨entries, rfl, rfl⟩

/-- No timeout is read that cannot be given. -/
theorem fits_of_parse (h : parse text = .ok c) : c.git.timeoutSeconds ≤ 2 ^ 63 - 1 := by
  obtain ⟨entries, hparse, rfl⟩ := exists_entries_of_parse h
  have hfits := Toml.fits_of_parse? hparse
  refine GitSettings.timeoutSeconds_ofMembers_le ?_
  cases hgit : entries.lookup "git" with
  | none => exact fun m hm => absurd hm List.not_mem_nil
  | some v => exact GitSettings.fits_members (hfits _ (Entries.mem_of_lookup hgit))

/-! ## Directories -/

/-- Seen from an absolute file, every directory is absolute. -/
theorem isAbsolute_srcDir_anchoredAt {base : Path} (hparent : path.parent? = some base)
    (hbase : base.isAbsolute = true) : (c.anchoredAt home path).srcDir.isAbsolute = true := by
  have hne := Path.ne_empty_of_isAbsolute hbase
  cases hs : (c.srcDir.expandTilde home).isAbsolute with
  | true =>
      rw [anchoredAt_of_absolute hs]
      exact hs
  | false =>
      rw [anchoredAt_of_base hs hparent hne]
      exact (Path.isAbsolute_join hne hs).trans hbase

/-- An absolute directory is seen alike from everywhere. -/
theorem anchoredAt_of_isAbsolute (h : c.srcDir.isAbsolute = true) : c.anchoredAt home path = c := by
  have hsame := Path.expandTilde_of_isAbsolute home h
  rw [anchoredAt_of_absolute (by rwa [hsame]), hsame]

theorem isAbsolute_srcDir_of_load (hpath : path.isAbsolute = true)
    (h : load home cwd files path = .ok c) : c.srcDir.isAbsolute = true := by
  obtain ⟨text, read, htext, -, rfl⟩ := load_eq_ok_iff.1 h
  rcases bind_eq_ok_iff.1 htext with ⟨content, hread, -⟩
  obtain ⟨base, hparent, hbase⟩ := FileSystem.exists_parent_of_read hpath hread
  exact isAbsolute_srcDir_anchoredAt hparent hbase

/-! ## Settings that are loaded -/

theorem validate_of_load (h : load home cwd files path = .ok c) : c.validate = .ok () := by
  obtain ⟨text, read, -, hparse, rfl⟩ := load_eq_ok_iff.1 h
  rw [validate_anchoredAt]
  exact validate_of_parse hparse

theorem fits_of_load (h : load home cwd files path = .ok c) :
    c.git.timeoutSeconds ≤ 2 ^ 63 - 1 := by
  obtain ⟨text, read, -, hparse, rfl⟩ := load_eq_ok_iff.1 h
  have hfits := fits_of_parse hparse
  rw [anchoredAt_eq]
  exact hfits

/-- Settings that the writer can give are refused only where their file cannot be written. -/
theorem writeTarget_of_save_error {e : Error} (hfits : c.git.timeoutSeconds ≤ 2 ^ 63 - 1)
    (h : c.save cwd files path = .error e) :
    ∃ cause, files.writeTarget cwd path = .error cause ∧ e = .io cause := by
  rcases save_eq_error_iff.1 h with ⟨hlong, -⟩ | ⟨-, hrefused⟩
  · exact absurd hfits (Nat.not_le.2 hlong)
  · exact hrefused

/-- Whatever the home directory is, settings that are loaded from an absolute path have an absolute
directory; only the system can keep them from being saved; and wherever they are saved, loading them
from there gives the very same settings. -/
theorem resave_alike (home : Option String) (cwd : Place) (files : FileSystem) (path : Path)
    (c : Config) (hpath : path.isAbsolute = true) (hload : load home cwd files path = .ok c) :
    c.srcDir.isAbsolute = true ∧
      (∀ cwd' files' target e, c.save cwd' files' target = .error e →
        ∃ cause, files'.writeTarget cwd' target = .error cause ∧ e = .io cause) ∧
      ∀ home' cwd' files' target after, c.save cwd' files' target = .ok after →
        load home' cwd' after target = .ok c := by
  have habsolute := isAbsolute_srcDir_of_load hpath hload
  have hfits := fits_of_load hload
  refine ⟨habsolute, fun _ _ _ _ hsave => writeTarget_of_save_error hfits hsave, ?_⟩
  intro home' cwd' files' target after hsave
  rw [load_of_save (validate_of_load hload) hfits hsave, anchoredAt_of_isAbsolute habsolute]

/-- A home directory that is named with a tilde is no home directory the second time. -/
theorem resave_alike_tilde :
    (⟨"/cfg/fwstamp.toml"⟩ : Path).isAbsolute = true ∧
      ∃ text c after, Config.parse text = .ok tildeSettings ∧
        load (some "~") [] (configuredFiles text) ⟨"/cfg/fwstamp.toml"⟩ = .ok c ∧
        c.srcDir = ⟨"/cfg/~/gen/.."⟩ ∧
        c.save ["cfg"] (configuredFiles text) ⟨"../saved.toml"⟩ = .ok after ∧
        load (some "~") ["cfg"] after ⟨"../saved.toml"⟩ = .ok c := by
  have hvalid : tildeSettings.validate = .ok () := validate_default
  obtain ⟨text, hparse⟩ : ∃ text, Config.parse text = .ok tildeSettings :=
    ⟨_, parse_lines hvalid (by decide)⟩
  have hthere : (configuredFiles text).resolve [] ⟨"/cfg/fwstamp.toml"⟩ =
      .ok ["cfg", "fwstamp.toml"] := rfl
  have hread : (configuredFiles text).readText [] ⟨"/cfg/fwstamp.toml"⟩ = .ok text :=
    FileSystem.readText_of_resolve hthere rfl
  have hload : load (some "~") [] (configuredFiles text) ⟨"/cfg/fwstamp.toml"⟩ =
      .ok (tildeSettings.anchoredAt (some "~") ⟨"/cfg/fwstamp.toml"⟩) :=
    load_of_read hread hparse
  rcases resave_alike _ _ _ ⟨"/cfg/fwstamp.toml"⟩ _ rfl hload with ⟨-, hrefused, hagain⟩
  refine ⟨rfl, text, tildeSettings.anchoredAt (some "~") ⟨"/cfg/fwstamp.toml"⟩, ?_⟩
  -- Whether the file can be written does not depend on its text, which stays closed here.
  cases hsave : (tildeSettings.anchoredAt (some "~") ⟨"/cfg/fwstamp.toml"⟩).save ["cfg"]
      (configuredFiles text) ⟨"../saved.toml"⟩ with
  | error e =>
      rcases hrefused _ _ _ _ hsave with ⟨cause, htarget, -⟩
      cases htarget
  | ok after => exact ⟨after, hparse, hload, rfl, rfl, hagain _ _ _ _ _ hsave⟩

end Config
end BuildStamp
