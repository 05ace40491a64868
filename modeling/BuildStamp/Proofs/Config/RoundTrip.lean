import BuildStamp.Config
import BuildStamp.Proofs.Toml.Line

/-!
# RoundTrip — settings are read back from the text that gives them

Settings are written line by line.  Each line is read back by itself, so the document holds exactly
the table `Config.entries`, and decoding that table gives the settings again.  Whatever the settings
hold, the only thing that can keep them from being loaded again is that they are not valid.

* `Config.entries` — the table that the settings are written as;
* `Config.lines` — the lines of the text, each with what it says;
* `Config.parse?_lines` — the text is a well-formed document that holds the table;
* `Config.decode_entries` — the table gives the settings;
* `Config.parse_text_eq` — what is saved is parsed as it was.
-/

namespace BuildStamp
namespace Toml

open Text.Reader

/-! ## Written values -/

/-- A written string begins with a quote. -/
theorem quoteList_eq_cons (cs : List Char) :
    ∃ first written, quoteList cs = first :: written ∧ isBlankChar first = false := by
  cases hform : formOf (shapeOf cs) with
  | basic => exact ⟨'"', _, by simp only [quoteList, hform]; rfl, by decide⟩
  | literal => exact ⟨'\'', _, by simp only [quoteList, hform]; rfl, by decide⟩
  | multilineBasic => exact ⟨'"', _, by simp only [quoteList, hform]; rfl, by decide⟩
  | multilineLiteral => exact ⟨'\'', _, by simp only [quoteList, hform]; rfl, by decide⟩

theorem scalar_run_quoteList (text : String) (rest : List Char) :
    scalar.run (quoteList text.toList ++ '\n' :: rest) = some (.string text, '\n' :: rest) := by
  have hread : string.run (quoteList text.toList ++ '\n' :: rest) =
      some (String.ofList text.toList, '\n' :: rest) :=
    string_run_quoteList text.toList (by simp) (by simp)
  simp [scalar, hread]

theorem scalar_run_toDigits {n : Nat} (h : n ≤ 2 ^ 63 - 1) (rest : List Char) :
    scalar.run (Nat.toDigits 10 n ++ '\n' :: rest) = some (.integer n, '\n' :: rest) := by
  have hnumeral := isNumeral_toDigits n
  have hline := digitLine_append hnumeral.digits rest
  have hstring : string.run (Nat.toDigits 10 n ++ '\n' :: rest) = none := by
    obtain ⟨d, ds, hds⟩ := List.exists_cons_of_ne_nil (Nat.toDigits_ne_nil (n := n) (b := 10))
    rw [hds] at hline ⊢
    exact string_run_eq_none (hline.ne_head (by decide) (by decide)).symm
      (hline.ne_head (by decide) (by decide)).symm _
  have hmoment := moment_run_eq_none hline
  have hfloat := float_run_eq_none hnumeral rest
  have hinteger := integer_run_toDigits h rest
  simp [scalar, hstring, hmoment, hfloat, hinteger]

/-! ## Documents of lines -/

/-- A document whose lines are read back one by one holds what they say. -/
theorem parse?_flatMap {lines : List (List Char × Statement)}
    (h : ∀ l ∈ lines, (behind blanks statement).Reads l.1 l.2)
    (hmark : withoutMark (lines.flatMap Prod.fst) = lines.flatMap Prod.fst) :
    parse? (String.ofList (lines.flatMap Prod.fst)) = build? (lines.map Prod.snd) := by
  have hstatements : toEnd? blanks statement (lines.flatMap Prod.fst) =
      some (lines.map Prod.snd) :=
    toEnd?_flatMap h
  simp [parse?, hmark, hstatements]

/-- A text that begins with a slash is no document. -/
theorem parse?_of_slash {text : String} {s : List Char} (h : text.toList = '/' :: s) :
    parse? text = none := by
  have hmark : withoutMark ('/' :: s) = '/' :: s := rfl
  have hmany : (behind blanks statement).many ('/' :: s) = ([], '/' :: s) :=
    many_none (statement_run_slash s)
  have hblanks : blanks.run ('/' :: s) = '/' :: s := blanks_run_of_not_isBlankChar (by decide) s
  have hend : toEnd? blanks statement ('/' :: s) = none := by
    simp [toEnd?, hmany, hblanks]
  unfold parse?
  rw [h, hmark, hend]
  rfl

end Toml

namespace Config

open Toml (Value Entries Statement)

/-! ## Lines -/

/-- The table that the settings are written as. -/
def entries (c : Config) : Entries :=
  (c.version.map fun version => ("version", Value.string version)).toList ++
    [("src_dir", .string c.srcDir.text),
      ("header_name", .string c.headerName),
      ("hook_target", .string c.hookTarget),
      ("git", .table .header
        [("program", .string c.git.program), ("timeout_secs", .integer c.git.timeoutSeconds)])]

/-- A line that gives a string, and what it says. -/
def stringLine (key value : String) : List Char × Statement :=
  ((settingLine key (Toml.quote value)).toList, .pair ⟨[], key, .string value⟩)

/-- A line that gives a number, and what it says. -/
def numberLine (key : String) (value : Nat) : List Char × Statement :=
  ((settingLine key (Text.decimal value)).toList, .pair ⟨[], key, .integer value⟩)

/-- The lines that give the settings, each with what it says. -/
def lines (c : Config) : List (List Char × Statement) :=
  (c.version.map (stringLine "version")).toList ++
    [stringLine "src_dir" c.srcDir.text,
      stringLine "header_name" c.headerName,
      stringLine "hook_target" c.hookTarget,
      (['\n'], .blank),
      ("[git]\n".toList, .header [] "git"),
      stringLine "program" c.git.program,
      numberLine "timeout_secs" c.git.timeoutSeconds]

/-- A key that is written without quotes. -/
def IsBareKey (key : String) : Prop :=
  key ≠ "" ∧ key.toList.all Toml.isBareKey = true

instance (key : String) : Decidable (IsBareKey key) :=
  inferInstanceAs (Decidable (_ ∧ _))

theorem reads_settingLine {key written : String} {c : Char} {name : List Char}
    (hname : key.toList = c :: name) (hc : Toml.isBareKey c = true) {path : List String}
    {last : String} (hkey : Toml.WritesKey (c :: name) path last) {first : Char}
    {tail : List Char} (hwritten : written.toList = first :: tail)
    (hfirst : Toml.isBlankChar first = false) {v : Value}
    (hv : ∀ rest, Toml.scalar.run (written.toList ++ '\n' :: rest) = some (v, '\n' :: rest)) :
    (Text.Reader.behind Toml.blanks Toml.statement).Reads (settingLine key written).toList
      (.pair ⟨path, last, v⟩) := by
  rw [hwritten] at hv
  have hread := Toml.reads_pair hc hkey hfirst hv
  simpa [settingLine, hwritten, hname] using hread

/-- The first character of a key without quotes, and what is read of it. -/
theorem IsBareKey.writesKey {key : String} (h : IsBareKey key) :
    ∃ c name, key.toList = c :: name ∧ Toml.isBareKey c = true ∧
      Toml.WritesKey (c :: name) [] key := by
  obtain ⟨hne, hall⟩ := h
  have hbare : ∀ d ∈ key.toList, Toml.isBareKey d = true := List.all_eq_true.1 hall
  obtain ⟨c, name, hname⟩ := List.exists_cons_of_ne_nil
    (fun h => hne (String.toList_eq_nil_iff.1 h))
  have hkey : String.ofList (c :: name) = key := by rw [← hname, String.ofList_toList]
  rw [hname] at hbare
  have hwrites := Toml.writesKey_bare hbare
  rw [hkey] at hwrites
  exact ⟨c, name, hname, hbare c List.mem_cons_self, hwrites⟩

theorem reads_stringLine {key : String} (hkey : IsBareKey key) (value : String) :
    (Text.Reader.behind Toml.blanks Toml.statement).Reads (stringLine key value).1
      (stringLine key value).2 := by
  -- No blanks are in front of the value, so those behind the equals sign end where it begins.
  obtain ⟨first, tail, hquote, hfirst⟩ := Toml.quoteList_eq_cons value.toList
  have hlist : (Toml.quote value).toList = Toml.quoteList value.toList := by simp [Toml.quote]
  obtain ⟨c, name, hname, hc, hwrites⟩ := hkey.writesKey
  exact reads_settingLine hname hc hwrites (hlist.trans hquote) hfirst
    fun rest => hlist ▸ Toml.scalar_run_quoteList value rest

/-- A line that gives a number under any key that is read. -/
theorem reads_numberUnder {key : String} {c : Char} {name : List Char}
    (hname : key.toList = c :: name) (hc : Toml.isBareKey c = true) {path : List String}
    {last : String} (hkey : Toml.WritesKey (c :: name) path last) {value : Nat}
    (h : value ≤ 2 ^ 63 - 1) :
    (Text.Reader.behind Toml.blanks Toml.statement).Reads
      (settingLine key (Text.decimal value)).toList (.pair ⟨path, last, .integer value⟩) := by
  obtain ⟨d, ds, hds⟩ := List.exists_cons_of_ne_nil (Nat.toDigits_ne_nil (n := value) (b := 10))
  have hlist : (Text.decimal value).toList = Nat.toDigits 10 value := by simp [Text.decimal]
  have hdigit : d.isDigit = true := (Toml.isNumeral_toDigits value).digits d (by simp [hds])
  -- The blanks behind the equals sign must not reach into the number.
  have hblank : Toml.isBlankChar d = false := by
    have hspace : d ≠ ' ' := by
      rintro rfl
      simp at hdigit
    have htab : d ≠ '\t' := by
      rintro rfl
      simp at hdigit
    simp [Toml.isBlankChar, hspace, htab]
  exact reads_settingLine hname hc hkey (hlist.trans hds) hblank
    fun rest => hlist ▸ Toml.scalar_run_toDigits h rest

theorem reads_numberLine {key : String} (hkey : IsBareKey key) {value : Nat}
    (h : value ≤ 2 ^ 63 - 1) :
    (Text.Reader.behind Toml.blanks Toml.statement).Reads (numberLine key value).1
      (numberLine key value).2 := by
  obtain ⟨c, name, hname, hc, hwrites⟩ := hkey.writesKey
  exact reads_numberUnder hname hc hwrites h

theorem reads_lines {c : Config} (h : c.git.timeoutSeconds ≤ 2 ^ 63 - 1) :
    ∀ l ∈ c.lines, (Text.Reader.behind Toml.blanks Toml.statement).Reads l.1 l.2 := by
  intro l hl
  simp only [lines, List.mem_append, Option.mem_toList, Option.map_eq_some_iff, List.mem_cons,
    List.not_mem_nil, or_false] at hl
  rcases hl with ⟨version, -, rfl⟩ | rfl | rfl | rfl | rfl | rfl | rfl | rfl
  · exact reads_stringLine (by decide) version
  · exact reads_stringLine (by decide) c.srcDir.text
  · exact reads_stringLine (by decide) c.headerName
  · exact reads_stringLine (by decide) c.hookTarget
  · exact Toml.reads_blank
  · exact Toml.reads_header 'g' ['i', 't'] (by decide)
  · exact reads_stringLine (by decide) c.git.program
  · exact reads_numberLine (by decide) h

/-! ## The document -/

/-- The text is made of the lines, if the timeout can be given. -/
theorem text_eq_ok {c : Config} (h : c.git.timeoutSeconds ≤ 2 ^ 63 - 1) :
    c.text = .ok (String.ofList (c.lines.flatMap Prod.fst)) := by
  simp only [text, Toml.integerText?, Toml.fitting?_natCast h, Option.map_some, Except.ok.injEq]
  -- The writer puts texts together where the lines are rows of characters.
  apply String.toList_injective
  cases hv : c.version <;> simp [lines, hv, stringLine, numberLine]

/-- The text is a well-formed document that holds the table of the settings. -/
theorem parse?_lines {c : Config} (h : c.git.timeoutSeconds ≤ 2 ^ 63 - 1) :
    Toml.parse? (String.ofList (c.lines.flatMap Prod.fst)) = some c.entries := by
  have hmark : Toml.withoutMark (c.lines.flatMap Prod.fst) = c.lines.flatMap Prod.fst := by
    cases hv : c.version <;> simp [lines, hv, stringLine, settingLine, Toml.withoutMark]
  have hbuild : Toml.build? (c.lines.map Prod.snd) = some c.entries := by
    -- The keys are fixed, so the table is built by computation, whatever the values are.
    cases hv : c.version <;> simp only [lines, entries, hv] <;> rfl
  rw [Toml.parse?_flatMap (reads_lines h) hmark, hbuild]

theorem decode_entries (c : Config) : decode c.entries = .ok c := by
  -- Every default is replaced, but that of a version that is not given, which is none.
  obtain ⟨version, srcDir, headerName, hookTarget, git⟩ := c
  cases version <;> rfl

theorem parse_of_malformed {text : String} (h : Toml.parse? text = none) :
    Config.parse text = .error .malformed := by
  simp only [Config.parse, h]
  rfl

/-- A document whose table gives some settings is refused only if they are not valid. -/
theorem parse_of_decode {text : String} {table : Entries} {c : Config}
    (hparse : Toml.parse? text = some table) (hdecode : decode table = .ok c) :
    Config.parse text = c.validate.map fun _ => c := by
  simp only [Config.parse, hparse, hdecode]
  cases hvalid : c.validate <;>
    simp [Except.mapError, Except.map, hvalid, bind, Except.bind, pure, Except.pure]

/-- A document whose lines are read back one by one is parsed as what they say. -/
theorem parse_of_lines {lines : List (List Char × Statement)} {text : String} {table : Entries}
    {c : Config} (htext : text = String.ofList (lines.flatMap Prod.fst))
    (hlines : ∀ l ∈ lines, (Text.Reader.behind Toml.blanks Toml.statement).Reads l.1 l.2)
    (hmark : Toml.withoutMark (lines.flatMap Prod.fst) = lines.flatMap Prod.fst)
    (hbuild : Toml.build? (lines.map Prod.snd) = some table) (hdecode : decode table = .ok c) :
    Config.parse text = c.validate.map fun _ => c := by
  have hparse : Toml.parse? text = some table :=
    calc
      Toml.parse? text = Toml.parse? (String.ofList (lines.flatMap Prod.fst)) := by rw [htext]
      _ = Toml.build? (lines.map Prod.snd) := Toml.parse?_flatMap hlines hmark
      _ = some table := hbuild
  exact parse_of_decode hparse hdecode

/-- Valid settings are parsed from their lines as they are. -/
theorem parse_lines {c : Config} (hvalid : c.validate = .ok ())
    (h : c.git.timeoutSeconds ≤ 2 ^ 63 - 1) :
    Config.parse (String.ofList (c.lines.flatMap Prod.fst)) = .ok c := by
  rw [parse_of_decode (parse?_lines h) (decode_entries c), hvalid]
  rfl

/-! ## The round trip -/

/-- Whatever the settings hold, `save` writes a well-formed document, and parsing it gives the very
same settings if they are valid, else the fault for which they are not. -/
theorem parse_text_eq (c : Config) (h : c.git.timeoutSeconds ≤ 2 ^ 63 - 1) :
    ∃ text, c.text = .ok text ∧
      (∀ cwd files path, c.save cwd files path = (files.writeText cwd path text).mapError .io) ∧
      Toml.parse? text = some c.entries ∧
      Config.parse text = c.validate.map fun _ => c := by
  have htext := text_eq_ok h
  have hparse := parse?_lines h
  refine ⟨_, htext, ?_, hparse, ?_⟩
  · intro cwd files path
    simp only [save, htext]
    rfl
  · exact parse_of_decode hparse (decode_entries c)

/-- Valid settings with quotes of both kinds, backslashes, line breaks and a blank version. -/
def awkward : Config where
  version := some ""
  srcDir := ⟨"\n'''\"\"\""⟩
  headerName := "a\r\n'\""
  hookTarget := "\x00\r"
  git := ⟨"\"\"\"\"\\''''", 2 ^ 63 - 1⟩

theorem parse_text_awkward :
    awkward.git.timeoutSeconds ≤ 2 ^ 63 - 1 ∧
      ∃ text, awkward.text = .ok text ∧ Config.parse text = .ok awkward := by
  have hfits : awkward.git.timeoutSeconds ≤ 2 ^ 63 - 1 := Nat.le_refl _
  have hname : isPlainFileName awkward.headerName = true := by decide
  have htarget : Text.isBlankText awkward.hookTarget = false := by decide
  have hvalid : awkward.validate = .ok () := by
    simp only [validate, hname, htarget]
    rfl
  obtain ⟨text, htext, -, -, hparse⟩ := parse_text_eq awkward hfits
  exact ⟨hfits, text, htext, by rw [hparse, hvalid]; rfl⟩

end Config
end BuildStamp
