import BuildStamp.Proofs.Config.Decoding
import BuildStamp.Proofs.Config.File
import BuildStamp.Proofs.Generator.Isolation
import BuildStamp.Proofs.Host.Join

/-!
# Naming — names of headers and names of files

The check of the settings looks at the separators in the name of the header, and leaves only names
that are one component.  The system looks at two things more: a name has no NUL character in it, and
neither it nor the path that ends in it is too long.  So of the names that pass the check those are
refused, late, when the header is written, that the system does not allow; and nothing else keeps a
header from being written into a directory that is there.

* `Config.isEntry_headerName` — the name of valid settings is one component;
* `Header.Nameable` — what the system demands of the name of a file;
* `FileSystem.writeTarget_eq_error` — which refusal it gives otherwise;
* `Header.written_iff_nameable` — when a header is written;
* `Header.name_not_written` — a name that passes the check and is refused.
-/

namespace BuildStamp

/-! ## Names that pass the check -/

namespace Config

theorem isPlainFileName_iff {name : String} :
    isPlainFileName name = true ↔
      name ≠ "" ∧ name ≠ "." ∧ name ≠ ".." ∧ '/' ∉ name.toList ∧ '\\' ∉ name.toList := by
  unfold isPlainFileName
  simp only [Bool.and_eq_true, decide_eq_true_eq, Bool.not_eq_true', List.any_eq_false,
    Bool.or_eq_true, not_or, and_assoc, forall_and]
  -- The three names are compared alike; the two characters are one condition in the check.
  refine and_congr_right fun _ => and_congr_right fun _ => and_congr_right fun _ => ?_
  constructor
  · intro h
    constructor
    · intro hslash
      exact h.1 _ hslash rfl
    · intro hbackslash
      exact h.2 _ hbackslash rfl
  · rintro ⟨hslash, hbackslash⟩
    constructor
    · rintro c hc rfl
      exact hslash hc
    · rintro c hc rfl
      exact hbackslash hc

/-- Neither a filler nor the way up passes the check. -/
theorem isFiller_eq_false_of_isPlainFileName {name : String} (h : isPlainFileName name = true) :
    Path.isFiller name.toList = false ∧ name.toList ≠ ['.', '.'] := by
  rcases isPlainFileName_iff.1 h with ⟨hempty, hdot, hdots, -⟩
  have hchars {word : String} (hne : name ≠ word) : name.toList ≠ word.toList :=
    fun heq => hne (String.toList_injective heq)
  refine ⟨?_, hchars hdots⟩
  simpa [Path.isFiller] using And.intro (hchars hempty) (hchars hdot)

/-- The check of the settings leaves only names that are one component. -/
theorem isEntry_headerName {c : Config} (h : c.validate = .ok ()) : Path.IsEntry c.headerName := by
  rcases validate_eq_ok_iff.1 h with ⟨hplain, -, -⟩
  rcases isPlainFileName_iff.1 hplain with ⟨-, -, -, hslash, -⟩
  rcases isFiller_eq_false_of_isPlainFileName hplain with ⟨hfiller, hparent⟩
  refine ⟨hslash, ?_⟩
  simp [Path.componentOf?, hfiller, hparent]

end Config

/-! ## Names that the system allows -/

/-- The name of a file in a directory, as the system allows it. -/
structure Header.Nameable (directory : Path) (name : String) : Prop where
  noNul : '\x00' ∉ name.toList
  short : name.utf8ByteSize ≤ FileSystem.maxNameBytes
  path : (directory.join ⟨name⟩).text.utf8ByteSize < FileSystem.maxPathBytes

namespace FileSystem

variable {fs : FileSystem} {cwd dir : Place} {p directory : Path} {name : String}

theorem checkPath_of_nul (h : '\x00' ∈ p.text.toList) : checkPath p = .error .nulInPath := by
  simp [checkPath, h]

theorem checkPath_of_longPath (hnul : '\x00' ∉ p.text.toList) (hne : p.text ≠ "")
    (hlong : maxPathBytes ≤ p.text.utf8ByteSize) : checkPath p = .error .nameTooLong := by
  simp [checkPath, hnul, hne, hlong]

theorem writeTarget_of_check {cause : IoError} (h : checkPath p = .error cause) :
    fs.writeTarget cwd p = .error cause := by
  unfold writeTarget
  rw [h]
  rfl

/-- A name that is too long is refused when its directory is reached. -/
theorem writeTarget_of_longName {above : List (List Char)} {last : List Char}
    (hcheck : checkPath p = .ok ()) (hsplit : Path.segments p.text.toList = above ++ [last])
    (hwalk : fs.walk (startOf cwd p) above = .ok dir) (hfiller : Path.isFiller last = false)
    (hparent : last ≠ ['.', '.']) (hlong : maxNameBytes < (String.ofList last).utf8ByteSize) :
    fs.writeTarget cwd p = .error .nameTooLong := by
  obtain ⟨hsteps, hdir⟩ := walk_eq_ok_iff.1 hwalk
  have hne : last ≠ [] := by
    rintro rfl
    exact absurd hfiller (by decide)
  have hdot : last ≠ ['.'] := by
    rintro rfl
    exact absurd hfiller (by decide)
  -- Slashes at the end are cut, but the last segment is a name.
  have hnamed : ((above ++ [last]).reverse.dropWhile (· == [])).reverse = above ++ [last] := by
    simp [hne]
  have henter : fs.enter dir = .ok () := enter_eq_ok_iff.2 hdir
  unfold writeTarget
  simp only [hcheck, ok_bind, hsplit, hnamed, List.dropLast_concat, hsteps, henter,
    List.getLast?_concat]
  simp [hdot, hparent, hlong, throw, throwThe, MonadExceptOf.throw, error_bind]

section Entry

variable (hdir : fs.directoryAt cwd directory = .ok dir)
include hdir

/-- The path of an entry of a directory that is there, as it is looked at. -/
theorem mem_nul_join_iff (hslash : '/' ∉ name.toList) :
    '\x00' ∈ (directory.join ⟨name⟩).text.toList ↔ '\x00' ∈ name.toList := by
  rcases checkPath_eq_ok_iff.1 (directoryAt_eq_ok_iff.1 hdir).1 with ⟨hnul, hne, -⟩
  rw [Path.mem_join hne (Path.isAbsolute_of_noSlash hslash) (by decide)]
  exact or_iff_right hnul

/-- The way to an entry of a directory leads through the directory. -/
theorem exists_walk_join (hslash : '/' ∉ name.toList) :
    ∃ above, Path.segments (directory.join ⟨name⟩).text.toList = above ++ [name.toList] ∧
      fs.walk (startOf cwd (directory.join ⟨name⟩)) above = .ok dir := by
  rcases directoryAt_eq_ok_iff.1 hdir with ⟨hcheck, hwalk⟩
  rcases checkPath_eq_ok_iff.1 hcheck with ⟨-, hne, -⟩
  have hrelative := Path.isAbsolute_of_noSlash hslash
  rcases Path.segments_join hne hrelative with ⟨above, hjoin, hsegments⟩
  rw [Path.segments_of_noSlash hslash] at hjoin
  rw [startOf_join hne hrelative]
  exact ⟨above, hjoin, (walk_of_segments hsegments).1 hwalk⟩

/-- A file can be written under a name that the system allows, unless a directory has the name. -/
theorem writeTarget_eq_ok (hplain : Config.isPlainFileName name = true)
    (hfree : fs.nodeAt? (dir ++ [name]) ≠ some .directory)
    (hname : Header.Nameable directory name) :
    fs.writeTarget cwd (directory.join ⟨name⟩) = .ok (dir ++ [name]) := by
  rcases Config.isPlainFileName_iff.1 hplain with ⟨-, -, -, hslash, -⟩
  rcases Config.isFiller_eq_false_of_isPlainFileName hplain with ⟨hfiller, hparent⟩
  rcases directoryAt_eq_ok_iff.1 hdir with ⟨hcheck, hwalk⟩
  rcases checkPath_eq_ok_iff.1 hcheck with ⟨-, hne, -⟩
  have hfile : IsFileName name :=
    ⟨hslash, hfiller, hparent, by rw [String.ofList_toList]; exact hname.short⟩
  have hlooked : checkPath (directory.join ⟨name⟩) = .ok () := by
    refine checkPath_eq_ok_iff.2 ⟨?_, Path.join_ne_empty hne hfile.isAbsolute, hname.path⟩
    rw [mem_nul_join_iff hdir hslash]
    exact hname.noNul
  exact (writeTarget_join_iff hne hfile).2 ⟨hlooked, dir, hwalk, rfl, hfree⟩

/-- Every other name is refused, for a NUL character or for its length. -/
theorem writeTarget_eq_error (hplain : Config.isPlainFileName name = true)
    (hname : ¬Header.Nameable directory name) :
    fs.writeTarget cwd (directory.join ⟨name⟩) =
      .error (if '\x00' ∈ name.toList then .nulInPath else .nameTooLong) := by
  rcases Config.isPlainFileName_iff.1 hplain with ⟨-, -, -, hslash, -⟩
  rcases Config.isFiller_eq_false_of_isPlainFileName hplain with ⟨hfiller, hparent⟩
  rcases checkPath_eq_ok_iff.1 (directoryAt_eq_ok_iff.1 hdir).1 with ⟨-, hne, -⟩
  have hjoin := Path.join_ne_empty hne (Path.isAbsolute_of_noSlash hslash)
  have hnuls := mem_nul_join_iff hdir hslash
  by_cases hnul : '\x00' ∈ name.toList
  · rw [if_pos hnul]
    exact writeTarget_of_check (checkPath_of_nul (hnuls.2 hnul))
  rw [if_neg hnul]
  have hnul' : '\x00' ∉ (directory.join ⟨name⟩).text.toList := fun h => hnul (hnuls.1 h)
  by_cases hpath : (directory.join ⟨name⟩).text.utf8ByteSize < maxPathBytes
  · -- The path is looked at, so it is the name itself that is too long.
    have hlong : maxNameBytes < name.utf8ByteSize :=
      Nat.lt_of_not_le fun hshort => hname ⟨hnul, hshort, hpath⟩
    rcases exists_walk_join hdir hslash with ⟨above, hsplit, hwalk⟩
    exact writeTarget_of_longName (checkPath_eq_ok_iff.2 ⟨hnul', hjoin, hpath⟩) hsplit hwalk hfiller
      hparent (by rw [String.ofList_toList]; exact hlong)
  · exact writeTarget_of_check (checkPath_of_longPath hnul' hjoin (Nat.not_lt.1 hpath))

end Entry

end FileSystem

/-! ## Headers -/

namespace Header

/-- With settings that are accepted, in a directory that is there and in which no directory has the
name of the header, the header is written exactly if the system allows the name.  It is refused only
under the path at which it would be, for a NUL character in the name or for a length. -/
theorem written_iff_nameable (text : String) (c : Config) (cwd dir : Place) (files : FileSystem)
    (directory : Path) (info : BuildInfo) (hparse : Config.parse text = .ok c)
    (hdir : files.directoryAt cwd directory = .ok dir)
    (hfree : files.nodeAt? (dir ++ [c.headerName]) ≠ some .directory) :
    ((∃ after, Header.write cwd files directory c.headerName info =
        .ok (directory.join ⟨c.headerName⟩, after)) ↔ Nameable directory c.headerName) ∧
      ∀ e, Header.write cwd files directory c.headerName info = .error e →
        e = .write (directory.join ⟨c.headerName⟩)
          (if '\x00' ∈ c.headerName.toList then .nulInPath else .nameTooLong) := by
  -- Parsing has checked the name, so only what the system adds can be in the way.
  rcases Config.validate_eq_ok_iff.1 (Config.validate_of_parse hparse) with ⟨hplain, -, -⟩
  by_cases hname : Nameable directory c.headerName
  · have hwrite := write_of_target info (FileSystem.writeTarget_eq_ok hdir hplain hfree hname)
    constructor
    · exact iff_of_true ⟨_, hwrite⟩ hname
    · intro e herror
      cases hwrite.symm.trans herror
  · have hwrite := write_of_refusal info (FileSystem.writeTarget_eq_error hdir hplain hname)
    constructor
    · refine iff_of_false ?_ hname
      rintro ⟨after, hwritten⟩
      cases hwrite.symm.trans hwritten
    · intro e herror
      exact (Except.error.inj (hwrite.symm.trans herror)).symm

/-- Settings that give only a name for the header, which passes the check. -/
theorem parse_headerLine (name : String) (hplain : Config.isPlainFileName name = true) :
    Config.parse (Config.settingLine "header_name" (Toml.quote name)) =
      .ok { headerName := name } := by
  let lines : List (List Char × Toml.Statement) := [Config.stringLine "header_name" name]
  have hlines : ∀ l ∈ lines, (Text.Reader.behind Toml.blanks Toml.statement).Reads l.1 l.2 := by
    intro l hl
    obtain rfl := List.mem_singleton.1 hl
    exact Config.reads_stringLine (by decide) name
  have htext : Config.settingLine "header_name" (Toml.quote name) =
      String.ofList (lines.flatMap Prod.fst) := by
    simp [lines, Config.stringLine]
  -- The line begins with a letter, so there is no byte order mark to skip.
  have hmark : Toml.withoutMark (lines.flatMap Prod.fst) = lines.flatMap Prod.fst := by
    simp [lines, Config.stringLine, Config.settingLine, Toml.withoutMark]
  have hvalid : ({ headerName := name } : Config).validate = .ok () :=
    Config.validate_eq_ok_iff.2
      ⟨hplain, (by decide : Text.isBlankText "buildprog" = false), (by decide : 0 < 5)⟩
  rw [Config.parse_of_lines htext hlines hmark rfl rfl, hvalid]
  rfl

/-- A name with a blank in it, in a directory that is named with a dot behind it. -/
theorem written_iff_nameable_blank :
    ∃ c, Config.parse "header_name = \"build info.h\"\n" = .ok c ∧
      Generator.oneDirectory.directoryAt [] ⟨"src/."⟩ = .ok ["src"] ∧
      Generator.oneDirectory.nodeAt? (["src"] ++ [c.headerName]) ≠ some .directory ∧
      ∀ info, ∃ after, Header.write [] Generator.oneDirectory ⟨"src/."⟩ c.headerName info =
        .ok (⟨"src/./build info.h"⟩, after) := by
  have hparse := parse_headerLine "build info.h" (by decide)
  have htext : Config.settingLine "header_name" (Toml.quote "build info.h") =
      "header_name = \"build info.h\"\n" := by decide +kernel
  rw [htext] at hparse
  have hdir : Generator.oneDirectory.directoryAt [] ⟨"src/."⟩ = .ok ["src"] := rfl
  have hfree : Generator.oneDirectory.nodeAt? (["src"] ++ ["build info.h"]) ≠ some .directory := by
    decide
  have hname : Nameable ⟨"src/."⟩ "build info.h" := ⟨by decide, by decide, by decide⟩
  refine ⟨_, hparse, hdir, hfree, ?_⟩
  intro info
  exact (written_iff_nameable _ _ [] ["src"] Generator.oneDirectory ⟨"src/."⟩ info hparse hdir
    hfree).1.2 hname

/-- The settings are accepted, and the directory is there and empty; and yet no header can be
written into it under their name, which has a NUL character in it. -/
theorem name_not_written :
    ∃ c, Config.parse "header_name = \"a\\u0000b\"\n" = .ok c ∧ c.headerName = "a\x00b" ∧
      (⟨[]⟩ : FileSystem).directoryAt [] ⟨"."⟩ = .ok [] ∧
      (⟨[]⟩ : FileSystem).nodeAt? ([] ++ [c.headerName]) ≠ some .directory ∧
      ∀ info, Header.write [] ⟨[]⟩ ⟨"."⟩ c.headerName info =
        .error (.write ⟨"./a\x00b"⟩ .nulInPath) := by
  have hparse := parse_headerLine "a\x00b" (by decide)
  have htext : Config.settingLine "header_name" (Toml.quote "a\x00b") =
      "header_name = \"a\\u0000b\"\n" := by decide +kernel
  rw [htext] at hparse
  refine ⟨_, hparse, rfl, rfl, by decide, ?_⟩
  intro info
  exact write_of_refusal info rfl

end Header
end BuildStamp
