import BuildStamp.Proofs.Config.Anchor
import BuildStamp.Proofs.Config.Decoding
import BuildStamp.Rehearsal.World
import Mathlib.Tactic.SplitIfs

/-!
# Raw — directories that are no texts, and devices

The octets of a text are cut at the same slashes as its characters, since no other character has the
octet of a slash.  So paths that are texts are joined and cut alike in both forms, and settings that
have such a directory are loaded and saved alike.  A directory that is no text makes the writer
refuse the settings, and below a directory that is no text every relative one is none either.  A
device takes the text of any settings, and keeps none.

* `RawPath.octetsOf` — the octets of some characters, and which octets they have;
* `RawPath.join_ofPath`, `RawPath.parent?_ofPath` — paths that are texts;
* `RawPath.toPath?_join_eq_none` — paths below one that is no text;
* `RawConfig.ofText_of_readText`, `RawConfig.save_ofConfig` — settings with a directory that is a
  text;
* `RawConfig.save_serialization_iff` — the settings that cannot be put into words;
* `Config.save_null` — what a device keeps of settings.
-/

namespace BuildStamp
namespace RawPath

variable {p base : Path} {raw : RawPath} {cs : List Char}

/-! ## Octets of characters -/

/-- The octets of some characters. -/
def octetsOf (cs : List Char) : List UInt8 :=
  cs.flatMap String.utf8EncodeChar

theorem ofPath_eq (p : Path) : ofPath p = ⟨octetsOf p.text.toList⟩ := by
  have htext : p.text.toUTF8 = p.text.toList.utf8Encode := by
    rw [← String.toByteArray_ofList, String.ofList_toList]
    rfl
  unfold ofPath octetsOf
  rw [htext]
  simp [List.utf8Encode]

theorem octetsOf_cons (c : Char) (cs : List Char) :
    octetsOf (c :: cs) = String.utf8EncodeChar c ++ octetsOf cs :=
  List.flatMap_cons

theorem octetsOf_append (cs ds : List Char) : octetsOf (cs ++ ds) = octetsOf cs ++ octetsOf ds :=
  List.flatMap_append

theorem octetsOf_slash (cs : List Char) : octetsOf ('/' :: cs) = slash :: octetsOf cs :=
  rfl

/-- No octet is above 247, and one below 128 is a character of its own. -/
theorem bounds_utf8EncodeChar (c : Char) :
    ∀ b ∈ String.utf8EncodeChar c, b.toNat < 248 ∧ (b.toNat < 128 → c.toNat = b.toNat) := by
  unfold String.utf8EncodeChar
  rw [Char.toNat_val]
  dsimp only
  -- The lead octet of a longer character is at least 192, and all that follow are at least 128.
  split_ifs <;>
    simp only [List.forall_mem_cons, List.not_mem_nil, false_implies, implies_true, and_true,
      UInt8.toNat_ofNat'] <;>
    omega

/-- Among the octets of a character is that of a slash, or of a dot, only if the character is. -/
theorem eq_of_mem_utf8EncodeChar {c d : Char} {b : UInt8} (h : b ∈ String.utf8EncodeChar c)
    (hsmall : b.toNat < 128) (hd : d.toNat = b.toNat) : c = d :=
  Char.toNat_inj.1 (((bounds_utf8EncodeChar c b h).2 hsmall).trans hd.symm)

theorem slash_mem_octetsOf_iff : slash ∈ octetsOf cs ↔ '/' ∈ cs := by
  unfold octetsOf
  rw [List.mem_flatMap]
  constructor
  · rintro ⟨c, hc, hslash⟩
    obtain rfl := eq_of_mem_utf8EncodeChar (d := '/') hslash (by decide) (by decide)
    exact hc
  · intro h
    exact ⟨'/', h, by decide⟩

theorem utf8EncodeChar_ne_nil (c : Char) : String.utf8EncodeChar c ≠ [] := by
  unfold String.utf8EncodeChar
  dsimp only
  split_ifs <;> exact List.cons_ne_nil _ _

theorem octetsOf_eq_nil_iff : octetsOf cs = [] ↔ cs = [] := by
  cases cs with
  | nil => exact ⟨fun _ => rfl, fun _ => rfl⟩
  | cons c cs => simp [octetsOf_cons]

theorem head?_octetsOf_eq_slash_iff : (octetsOf cs).head? = some slash ↔ cs.head? = some '/' := by
  cases cs with
  | nil => simp [octetsOf]
  | cons c cs =>
      obtain ⟨b, bs, hoctets⟩ := List.exists_cons_of_ne_nil (utf8EncodeChar_ne_nil c)
      rw [octetsOf_cons, hoctets, List.cons_append, List.head?_cons, List.head?_cons,
        Option.some.injEq, Option.some.injEq]
      constructor
      · rintro rfl
        have hmem : slash ∈ String.utf8EncodeChar c := hoctets ▸ List.mem_cons_self
        exact eq_of_mem_utf8EncodeChar hmem (by decide) (by decide)
      · rintro rfl
        exact (List.cons.inj hoctets).1.symm

theorem getLast?_octetsOf_eq_slash_iff :
    (octetsOf cs).getLast? = some slash ↔ cs.getLast? = some '/' := by
  rcases List.eq_nil_or_concat cs with rfl | ⟨front, c, rfl⟩
  · simp [octetsOf]
  · -- Only the last octet of the last character counts, and every character has one.
    obtain ⟨bs, b, hoctets⟩ : ∃ bs b, String.utf8EncodeChar c = bs ++ [b] := by
      rcases List.eq_nil_or_concat (String.utf8EncodeChar c) with hnil | ⟨bs, b, h⟩
      · exact absurd hnil (utf8EncodeChar_ne_nil c)
      · exact ⟨bs, b, by simpa using h⟩
    have hsingle : octetsOf [c] = bs ++ [b] := by simp [octetsOf, hoctets]
    simp only [List.concat_eq_append, octetsOf_append, hsingle, ← List.append_assoc,
      List.getLast?_concat, Option.some.injEq]
    constructor
    · rintro rfl
      have hmem : slash ∈ String.utf8EncodeChar c := by simp [hoctets]
      exact eq_of_mem_utf8EncodeChar hmem (by decide) (by decide)
    · rintro rfl
      have hslash : [slash] = bs ++ [b] := hsingle
      cases bs with
      | nil => exact (List.cons.inj hslash).1.symm
      | cons head tail => simp at hslash

/-! ## Texts and octets -/

@[simp] theorem toPath?_ofPath (p : Path) : (ofPath p).toPath? = some p := by
  unfold toPath? ofPath
  rw [Array.toArray_toList]
  exact congrArg (Option.map Path.mk) (FileSystem.fromUTF8?_toUTF8 p.text)

theorem toPath?_eq_some_iff : raw.toPath? = some p ↔ raw = ofPath p := by
  constructor
  · intro h
    obtain ⟨text, htext, rfl⟩ := Option.map_eq_some_iff.1 h
    have hbytes := FileSystem.fromUTF8?_eq_some_iff.1 htext
    rcases raw with ⟨octets⟩
    simp only [ofPath, ← hbytes]
  · rintro rfl
    exact toPath?_ofPath p

/-- A path is no text exactly if its octets are those of no characters. -/
theorem toPath?_eq_none_iff : raw.toPath? = none ↔ ∀ cs, raw.octets ≠ octetsOf cs := by
  rw [Option.eq_none_iff_forall_ne_some]
  constructor
  · intro h cs hcs
    refine h ⟨String.ofList cs⟩ (toPath?_eq_some_iff.2 ?_)
    rw [ofPath_eq, String.toList_ofList, ← hcs]
  · rintro h p hp
    obtain rfl := toPath?_eq_some_iff.1 hp
    exact h p.text.toList (congrArg octets (ofPath_eq p))

/-- The last octet there is belongs to no character. -/
theorem toPath?_eq_none_of_mem (h : 255 ∈ raw.octets) : raw.toPath? = none := by
  rw [toPath?_eq_none_iff]
  intro cs hcs
  rw [hcs] at h
  obtain ⟨c, -, hc⟩ := List.mem_flatMap.1 h
  exact absurd (bounds_utf8EncodeChar c 255 hc).1 (by decide)

/-! ## Joining -/

theorem isAbsolute_ofPath (p : Path) : (ofPath p).isAbsolute = p.isAbsolute := by
  rw [ofPath_eq, Bool.eq_iff_iff]
  simpa [isAbsolute, Path.isAbsolute] using @head?_octetsOf_eq_slash_iff p.text.toList

theorem octets_ofPath_eq_nil_iff : (ofPath p).octets = [] ↔ p.text = "" := by
  rw [ofPath_eq, octetsOf_eq_nil_iff, String.toList_eq_nil_iff]

theorem join_ofPath (base p : Path) : (ofPath base).join (ofPath p) = ofPath (base.join p) := by
  unfold join Path.join
  rw [isAbsolute_ofPath]
  by_cases habsolute : p.isAbsolute = true
  · rw [if_pos habsolute, if_pos habsolute]
  · rw [if_neg habsolute, if_neg habsolute]
    simp only [ofPath_eq, List.getLast?_eq_none_iff, octetsOf_eq_nil_iff,
      getLast?_octetsOf_eq_slash_iff]
    split_ifs
    · rw [String.toList_append, octetsOf_append]
    · simp [octetsOf_append, octetsOf_slash]

/-! ## Cutting -/

theorem octetsOf_ofSegments (rows : List (List Char)) :
    octetsOf (Path.ofSegments rows) = [slash].intercalate (rows.map octetsOf) := by
  induction rows with
  | nil => rfl
  | cons s rows ih =>
      cases rows with
      | nil => simp [Path.ofSegments]
      | cons t rows =>
          rw [Path.ofSegments, octetsOf_append, octetsOf_cons, ih]
          rfl

/-- The octets of a text are cut where its characters are. -/
theorem splitOn_octetsOf (cs : List Char) :
    (octetsOf cs).splitOn slash = (Path.segments cs).map octetsOf := by
  have hjoined : octetsOf cs = [slash].intercalate ((Path.segments cs).map octetsOf) := by
    rw [← octetsOf_ofSegments, Path.ofSegments_segments]
  rw [hjoined]
  refine List.splitOn_intercalate slash ?_ (by simp [Path.segments_ne_nil])
  intro octets hoctets
  obtain ⟨s, hs, rfl⟩ := List.mem_map.1 hoctets
  rw [slash_mem_octetsOf_iff]
  exact Path.noSlash_of_mem_segments s hs

theorem octetsOf_eq_dot_iff : octetsOf cs = [dot] ↔ cs = ['.'] := by
  constructor
  · intro h
    cases cs with
    | nil => simp [octetsOf] at h
    | cons c cs =>
        rw [octetsOf_cons] at h
        -- All octets of the first character are dots, so it is a dot itself and nothing is left.
        have hmem : ∀ b ∈ String.utf8EncodeChar c, b = dot := by
          intro b hb
          have hb' : b ∈ [dot] := h ▸ List.mem_append_left _ hb
          exact List.mem_singleton.1 hb'
        obtain ⟨b, bs, hoctets⟩ := List.exists_cons_of_ne_nil (utf8EncodeChar_ne_nil c)
        obtain rfl := hmem b (by simp [hoctets])
        obtain rfl : c = '.' :=
          eq_of_mem_utf8EncodeChar (hoctets ▸ List.mem_cons_self) (by decide) (by decide)
        have hrest : octetsOf cs = [] := (List.cons.inj h).2
        rw [octetsOf_eq_nil_iff.1 hrest]
  · rintro rfl
    rfl

theorem isFiller_octetsOf (s : List Char) : isFiller (octetsOf s) = Path.isFiller s := by
  rw [Bool.eq_iff_iff]
  simp [isFiller, Path.isFiller, octetsOf_eq_nil_iff, octetsOf_eq_dot_iff]

theorem dropFillers_map_octetsOf (rows : List (List Char)) :
    dropFillers (rows.map octetsOf) = (Path.dropFillers rows).map octetsOf := by
  have hfiller : isFiller ∘ octetsOf = Path.isFiller := funext isFiller_octetsOf
  unfold dropFillers Path.dropFillers
  rw [← List.map_reverse, List.dropWhile_map, hfiller, List.map_reverse]

theorem parent?_ofPath (p : Path) : (ofPath p).parent? = p.parent?.map ofPath := by
  have hcut : (ofPath p).octets.splitOn slash = (Path.segments p.text.toList).map octetsOf := by
    rw [ofPath_eq, splitOn_octetsOf]
  have hput (first : List Char) (rows : List (List Char)) :
      (⟨[slash].intercalate (octetsOf first :: rows.map octetsOf)⟩ : RawPath) =
        ofPath ⟨String.ofList (Path.ofSegments (first :: rows))⟩ := by
    rw [ofPath_eq, String.toList_ofList, octetsOf_ofSegments, List.map_cons]
  unfold parent? Path.parent?
  rw [hcut, isAbsolute_ofPath]
  cases Path.segments p.text.toList with
  | nil => rfl
  | cons first rest =>
      simp only [List.map_cons, dropFillers_map_octetsOf, ← List.map_dropLast, ne_eq,
        List.map_eq_nil_iff, octetsOf_eq_nil_iff, hput]
      split_ifs <;> rfl

/-! ## Below a directory that is no text -/

/-- What stands in front of a slash in a text is a text. -/
theorem exists_octetsOf_of_slash {before behind : List UInt8}
    (h : octetsOf cs = before ++ slash :: behind) : ∃ front, before = octetsOf front := by
  induction cs generalizing before with
  | nil => simp [octetsOf] at h
  | cons c cs ih =>
      rw [octetsOf_cons] at h
      -- Either the slash comes behind the first character, or it is among its octets.
      rcases List.append_eq_append_iff.1 h with ⟨rest, rfl, hcs⟩ | ⟨rest, hc, hrest⟩
      · obtain ⟨front, rfl⟩ := ih hcs
        exact ⟨c :: front, (octetsOf_cons c front).symm⟩
      · cases rest with
        | nil =>
            rw [List.append_nil] at hc
            exact ⟨[c], by simp [octetsOf, hc]⟩
        | cons b rest =>
            obtain rfl : slash = b := (List.cons.inj hrest).1
            have hmem : slash ∈ String.utf8EncodeChar c := by simp [hc]
            obtain rfl : c = '/' := eq_of_mem_utf8EncodeChar hmem (by decide) (by decide)
            have hone : [slash] = before ++ slash :: rest := hc
            cases before with
            | nil => exact ⟨[], rfl⟩
            | cons head tail => simp at hone

theorem toPath?_join_eq_none {base p : RawPath} (hbase : base.toPath? = none)
    (hrelative : p.isAbsolute = false) : (base.join p).toPath? = none := by
  rw [toPath?_eq_none_iff] at hbase ⊢
  intro cs hcs
  unfold join at hcs
  rw [if_neg (by simp [hrelative])] at hcs
  dsimp only at hcs
  split_ifs at hcs with hlast
  · rcases hlast with hempty | hslash
    · exact hbase [] (List.getLast?_eq_none_iff.1 hempty)
    · obtain ⟨before, hbefore⟩ := List.getLast?_eq_some_iff.1 hslash
      rw [hbefore, List.append_assoc] at hcs
      obtain ⟨front, rfl⟩ := exists_octetsOf_of_slash hcs.symm
      exact hbase (front ++ ['/']) (by rw [hbefore, octetsOf_append]; rfl)
  · obtain ⟨front, hfront⟩ := exists_octetsOf_of_slash hcs.symm
    exact hbase front hfront

end RawPath

/-! ## Settings -/

namespace RawConfig

variable {home : Option String} {cwd : Place} {files : FileSystem} {path : Path}

theorem toConfig?_ofConfig (c : Config) : (ofConfig c).toConfig? = some c := by
  unfold toConfig? ofConfig
  rw [RawPath.toPath?_ofPath]
  rfl

theorem text_of_toConfig? {raw : RawConfig} {c : Config} (h : raw.toConfig? = some c) :
    raw.text = c.text := by
  simp only [text, h]

/-- Settings whose directory is a text are saved as they are. -/
theorem save_ofConfig (cwd : Place) (files : FileSystem) (path : Path) (c : Config) :
    (ofConfig c).save cwd files path = c.save cwd files path := by
  unfold save Config.save
  rw [text_of_toConfig? (toConfig?_ofConfig c)]

theorem anchoredAt_ofPath (home : Option String) (file : Path) (c : Config) :
    anchoredAt home (.ofPath file) c = ofConfig (c.anchoredAt home file) := by
  unfold anchoredAt Config.anchoredAt
  rw [RawPath.parent?_ofPath]
  cases file.parent? with
  | none => rfl
  | some base =>
      simp only [Option.map_some, RawPath.isAbsolute_ofPath, ne_eq,
        RawPath.octets_ofPath_eq_nil_iff, RawPath.join_ofPath]
      split_ifs <;> rfl

/-- From a path that is a text, settings are loaded as they are. -/
theorem ofText_of_readText {text : String} (h : files.readText cwd path = .ok text) :
    ofText home (.ofPath path) text = (Config.load home cwd files path).map ofConfig := by
  have hload : Config.load home cwd files path =
      ((Config.parse text).mapError .config).map fun c => c.anchoredAt home path := by
    unfold Config.load
    rw [h]
    rfl
  unfold ofText
  rw [hload]
  cases Config.parse text with
  | error fault => rfl
  | ok c => exact congrArg Except.ok (anchoredAt_ofPath home path c)

/-! ## Settings that cannot be put into words -/

theorem save_of_text_error {raw : RawConfig} {e : Error} (h : raw.text = .error e) :
    raw.save cwd files path = .error e := by
  unfold save
  rw [h, error_bind]

theorem text_of_not_text {raw : RawConfig} (h : raw.srcDir.toPath? = none) :
    raw.text = .error .directoryNotText := by
  have hnone : raw.toConfig? = none := by simp [toConfig?, h]
  simp only [text, hnone]

/-- There are two reasons for which settings cannot be put into words: a directory that is no text,
and a timeout that is no integer of the format. -/
theorem save_serialization_iff (cwd : Place) (files : FileSystem) (path : Path)
    (raw : RawConfig) :
    (∃ e, raw.save cwd files path = .error e ∧ e.heading = .serialization) ↔
      raw.srcDir.toPath? = none ∨ 2 ^ 63 - 1 < raw.git.timeoutSeconds := by
  cases hdirectory : raw.srcDir.toPath? with
  | none =>
      rw [save_of_text_error (text_of_not_text hdirectory)]
      simp [Error.heading]
  | some srcDir =>
      -- Behind a path that is a text the settings are plain ones, and their own theorem applies.
      obtain ⟨c, hc, htimeout⟩ : ∃ c, raw = ofConfig c ∧ c.git = raw.git := by
        rcases raw with ⟨version, directory, headerName, hookTarget, git⟩
        obtain rfl : directory = .ofPath srcDir := RawPath.toPath?_eq_some_iff.1 hdirectory
        exact ⟨⟨version, srcDir, headerName, hookTarget, git⟩, rfl, rfl⟩
      rw [hc, save_ofConfig, ← hc, ← htimeout, or_iff_right (Option.some_ne_none srcDir)]
      constructor
      · rintro ⟨e, hsave, hheading⟩
        rcases Config.save_eq_error_iff.1 hsave with ⟨hlong, -⟩ | ⟨-, cause, -, rfl⟩
        · exact hlong
        · cases hheading
      · intro hlong
        exact ⟨_, Config.save_eq_error_iff.2 (.inl ⟨hlong, rfl⟩), rfl⟩

/-- Settings with a relative directory that are loaded from below one that is no text cannot be put
into words. -/
theorem text_anchoredAt {file base : RawPath} {c : Config} (hparent : file.parent? = some base)
    (hbase : base.toPath? = none) (hrelative : (c.srcDir.expandTilde home).isAbsolute = false) :
    (anchoredAt home file c).text = .error .directoryNotText := by
  have hne : base.octets ≠ [] := RawPath.toPath?_eq_none_iff.1 hbase []
  have hrelative := (RawPath.isAbsolute_ofPath (c.srcDir.expandTilde home)).trans hrelative
  refine text_of_not_text ?_
  unfold anchoredAt
  simp only [hparent, hrelative]
  rw [if_pos (by simpa using hne)]
  exact RawPath.toPath?_join_eq_none hbase hrelative

end RawConfig

/-! ## Devices -/

namespace Config

/-- A machine with nothing on it but the device that forgets everything. -/
def nullMachine : FileSystem :=
  ⟨[(["dev"], .directory), (["dev", "null"], .file .empty false)]⟩

theorem parse_empty : Config.parse "" = .ok {} := by
  have hdocument : Toml.parse? "" = some [] :=
    @Toml.parse?_flatMap [] (fun l hl => absurd hl List.not_mem_nil) rfl
  rw [Config.parse_of_demands hdocument (fun d hd => absurd hd List.not_mem_nil)]
  exact congrArg (Except.map fun _ => _) Config.validate_default

/-- Whatever can be put into words is saved there, and nothing of it is kept. -/
theorem save_null {c : Config} (h : c.git.timeoutSeconds ≤ 2 ^ 63 - 1) :
    ∃ after, c.save [] nullMachine ⟨"/dev/null"⟩ = .ok after ∧
      Rehearsal.Device.emptied after = nullMachine := by
  have htarget : nullMachine.writeTarget [] ⟨"/dev/null"⟩ = .ok ["dev", "null"] := rfl
  exact ⟨_, save_of_target (text_eq_ok h) htarget, rfl⟩

/-- Under each of its paths the defaults are loaded, seen from the directory that the path names. -/
theorem load_null (path : Path) (h : nullMachine.readText [] path = .ok "") :
    load none [] nullMachine path = .ok (({} : Config).anchoredAt none path) :=
  load_of_read h parse_empty

end Config

/-! ## Settings that are not kept -/

namespace RawConfig

/-- The defaults, but for a directory of one octet that is no text. -/
def octetSettings : RawConfig :=
  { srcDir := ⟨[255]⟩ }

/-- However short the timeout is, they cannot be saved, though the file could be written.  And the
defaults can be saved to a device, which is as empty as before. -/
theorem save_octetSettings :
    (octetSettings.git.timeoutSeconds = 5 ∧
      (⟨[]⟩ : FileSystem).writeTarget [] ⟨"fwstamp.toml"⟩ = .ok ["fwstamp.toml"] ∧
      ∃ e, octetSettings.save [] ⟨[]⟩ ⟨"fwstamp.toml"⟩ = .error e ∧ e.heading = .serialization) ∧
    ∃ after, ({} : Config).save [] Config.nullMachine ⟨"/dev/null"⟩ = .ok after ∧
      (Rehearsal.Device.emptied after).readText [] ⟨"/dev/null"⟩ = .ok "" := by
  refine ⟨⟨rfl, rfl, (save_serialization_iff [] ⟨[]⟩ ⟨"fwstamp.toml"⟩ octetSettings).2
    (.inl (RawPath.toPath?_eq_none_of_mem (by decide)))⟩, ?_⟩
  obtain ⟨after, hsave, hempty⟩ := Config.save_null (c := {}) (by decide)
  refine ⟨after, hsave, ?_⟩
  rw [hempty]
  rfl

/-- An absolute path with a directory on the way that is no text. -/
def octetFile : RawPath :=
  ⟨"/tmp/".toUTF8.data.toList ++ 255 :: "/fwstamp.toml".toUTF8.data.toList⟩

/-- What is loaded from an empty file there has an absolute directory, but cannot be saved where a
file can be written.  And what is loaded from a device under one of its paths can be saved under
another, but is not loaded from there. -/
theorem save_loaded_from_octetFile :
    (octetFile.isAbsolute = true ∧
      ∃ raw, ofText none octetFile "" = .ok raw ∧ raw.srcDir.isAbsolute = true ∧
        (⟨[]⟩ : FileSystem).writeTarget [] ⟨"saved.toml"⟩ = .ok ["saved.toml"] ∧
        ∃ e, raw.save [] ⟨[]⟩ ⟨"saved.toml"⟩ = .error e ∧ e.heading = .serialization) ∧
    ∃ c after, Config.load none [] Config.nullMachine ⟨"/dev/../dev/null"⟩ = .ok c ∧
      c.save [] Config.nullMachine ⟨"/dev/null"⟩ = .ok after ∧
      Config.load none [] (Rehearsal.Device.emptied after) ⟨"/dev/null"⟩ ≠ .ok c := by
  constructor
  · have hparent : octetFile.parent? = some ⟨"/tmp/".toUTF8.data.toList ++ [255]⟩ := by
      decide +kernel
    have htext : (anchoredAt none octetFile {}).text = .error .directoryNotText :=
      text_anchoredAt hparent (RawPath.toPath?_eq_none_of_mem (by simp)) (by decide)
    have hload : ofText none octetFile "" = .ok (anchoredAt none octetFile {}) := by
      unfold ofText
      rw [Config.parse_empty]
      rfl
    exact ⟨by decide +kernel, _, hload, by decide +kernel, rfl, _, save_of_text_error htext, rfl⟩
  · have hload := Config.load_null ⟨"/dev/../dev/null"⟩ rfl
    obtain ⟨after, hsave, hempty⟩ :=
      Config.save_null (c := ({} : Config).anchoredAt none ⟨"/dev/../dev/null"⟩) (by decide)
    refine ⟨_, after, hload, hsave, ?_⟩
    -- The directory that was loaded first keeps the way back and forth in its path.
    rw [hempty, Config.load_null ⟨"/dev/null"⟩ rfl]
    decide +kernel

end RawConfig
end BuildStamp
