import BuildStamp.BuildInfo
import BuildStamp.Proofs.Text.Lines
import BuildStamp.Text.Reader

/-!
# Layout — the lines of the header and the values in them

The body of a string literal is described by a grammar of its own, apart from the function that
writes it and the one that reads it back.  A scanner looks for the end of the literal as a compiler
does: it knows of a body only whether the character before was a backslash that escapes.

No body holds a line break, so the header has the five lines that it is made of and no others,
whatever the values are.  A reader of headers looks for definitions line by line, wherever they
stand: a value is what stands in the literal of the first line that defines its name, if nothing
follows the literal.  It reads every header back, which is why no two build infos share one.

* `Header.Body` — the bodies, each with the value that it stands for;
* `Header.body_escapeList` — the writer gives a body of the value;
* `Header.body_iff_unescapeList?` — the reader accepts the bodies, and gives what they stand for;
* `Header.closing?` — finds the first quote that is not escaped;
* `Header.Body.closing?_eq` — behind a body, that is the quote that closes it;
* `Header.definitionLine` — the line that defines a string by the body of its literal;
* `Header.lines` — the five lines;
* `Header.splitOn_render` — cutting the header at its line feeds gives these lines;
* `Header.IsBodyOf` — what a body owes to its value;
* `Header.render_lossless` — the header as a whole;
* `Header.literalOf?` — the value that a line defines for a name;
* `Header.defined?` — the value that a header defines for a name;
* `Header.read?` — the build info of a header;
* `Header.read?_render` — every header that is written is read back.
-/

namespace BuildStamp
namespace Header

/-! ## Bodies -/

/-- The characters that stand for themselves. -/
def isPlain (c : Char) : Bool :=
  !(c = '\\' ∨ c = '"' ∨ c = '\n' ∨ c = '\r')

/-- The escapes: what stands behind the backslash, and the character meant. -/
def escapes : List (Char × Char) :=
  [('\\', '\\'), ('"', '"'), ('n', '\n'), ('r', '\r')]

/-- A body and the value that it stands for. -/
inductive Body : List Char → List Char → Prop where
  | nil : Body [] []
  | plain {c : Char} {body value : List Char} (hc : isPlain c = true) (h : Body body value) :
      Body (c :: body) (c :: value)
  | escaped {mark c : Char} {body value : List Char} (hmark : (mark, c) ∈ escapes)
      (h : Body body value) : Body ('\\' :: mark :: body) (c :: value)

theorem eq_of_isPlain_eq_false {c : Char} (h : isPlain c = false) :
    c = '\\' ∨ c = '"' ∨ c = '\n' ∨ c = '\r' := by
  simpa only [isPlain, Bool.not_eq_eq_eq_not, Bool.not_false, decide_eq_true_eq] using h

theorem ne_of_isPlain {c : Char} (h : isPlain c = true) :
    c ≠ '\\' ∧ c ≠ '"' ∧ c ≠ '\n' ∧ c ≠ '\r' := by
  simpa only [isPlain, Bool.not_eq_eq_eq_not, Bool.not_true, decide_eq_false_iff_not, not_or]
    using h

/-! ## Writing -/

theorem escapeChar_of_isPlain {c : Char} (h : isPlain c = true) : escapeChar c = [c] := by
  obtain ⟨hbackslash, hquote, hfeed, hreturn⟩ := ne_of_isPlain h
  simp [escapeChar, hbackslash, hquote, hfeed, hreturn]

theorem escapeChar_of_not_isPlain {c : Char} (h : isPlain c = false) :
    ∃ mark, (mark, c) ∈ escapes ∧ escapeChar c = ['\\', mark] := by
  rcases eq_of_isPlain_eq_false h with rfl | rfl | rfl | rfl
  · exact ⟨'\\', by decide, rfl⟩
  · exact ⟨'"', by decide, rfl⟩
  · exact ⟨'n', by decide, rfl⟩
  · exact ⟨'r', by decide, rfl⟩

/-- What is written of a value is a body of it. -/
theorem body_escapeList (value : List Char) : Body (value.flatMap escapeChar) value := by
  induction value with
  | nil => exact .nil
  | cons c r ih =>
      rw [List.flatMap_cons]
      cases hc : isPlain c with
      | true =>
          rw [escapeChar_of_isPlain hc]
          exact ih.plain hc
      | false =>
          obtain ⟨mark, hmark, hw⟩ := escapeChar_of_not_isPlain hc
          rw [hw]
          exact ih.escaped hmark

/-- A value of plain characters is written as it is. -/
theorem escapeList_eq_self {value : List Char} (h : ∀ c ∈ value, isPlain c = true) :
    value.flatMap escapeChar = value := by
  induction value with
  | nil => rfl
  | cons c r ih =>
      have hc : isPlain c = true := h c List.mem_cons_self
      have hr : r.flatMap escapeChar = r := ih fun d hd => h d (List.mem_cons_of_mem c hd)
      rw [List.flatMap_cons, escapeChar_of_isPlain hc, hr, List.singleton_append]

/-! ## Reading back -/

theorem unescapeList?_cons {c : Char} (h : isPlain c = true) (r : List Char) :
    unescapeList? (c :: r) = (unescapeList? r).map (c :: ·) := by
  obtain ⟨hbackslash, hquote, hfeed, hreturn⟩ := ne_of_isPlain h
  rw [unescapeList?, if_neg (by simp [hbackslash, hquote, hfeed, hreturn])]
  -- The patterns before the last one begin with a backslash.
  all_goals
    intros
    exact absurd ‹_› hbackslash

/-- A body is read as the value that it stands for. -/
theorem Body.unescapeList? {body value : List Char} (h : Body body value) :
    Header.unescapeList? body = some value := by
  induction h with
  | nil => rfl
  | plain hc _ ih => rw [unescapeList?_cons hc, ih, Option.map_some]
  | escaped hmark _ ih =>
      simp only [escapes, List.mem_cons, Prod.mk.injEq, List.not_mem_nil, or_false] at hmark
      rcases hmark with ⟨rfl, rfl⟩ | ⟨rfl, rfl⟩ | ⟨rfl, rfl⟩ | ⟨rfl, rfl⟩
      all_goals rw [Header.unescapeList?, ih, Option.map_some]

/-- The reader accepts the bodies and nothing else. -/
theorem body_iff_unescapeList? {body value : List Char} :
    Body body value ↔ unescapeList? body = some value := by
  refine ⟨Body.unescapeList?, ?_⟩
  intro h
  -- The cases are those of the reader: the end, the four escapes, a refusal and a plain character.
  induction body using Header.unescapeList?.induct generalizing value with
  | case1 =>
      obtain rfl : [] = value := by simpa [Header.unescapeList?] using h
      exact .nil
  | case2 r ih | case3 r ih | case4 r ih | case5 r ih =>
      obtain ⟨v, hv, rfl⟩ := Option.map_eq_some_iff.1 h
      exact (ih hv).escaped (by decide)
  | case6 c r hbackslash hquote hfeed hreturn hspecial =>
      rw [Header.unescapeList?, if_pos hspecial] at h
      · exact absurd h (by simp)
      all_goals assumption
  | case7 c r hbackslash hquote hfeed hreturn hspecial ih =>
      have hc : isPlain c = true := by simpa [isPlain] using hspecial
      rw [unescapeList?_cons hc] at h
      obtain ⟨v, hv, rfl⟩ := Option.map_eq_some_iff.1 h
      exact (ih hv).plain hc

/-! ## The end of a literal -/

/-- What stands before and behind the first quote that is not escaped.  The flag says whether the
character before was a backslash that escapes. -/
def closing? : Bool → List Char → Option (List Char × List Char)
  | _, [] => none
  | true, c :: r => (closing? false r).map fun (before, behind) => (c :: before, behind)
  | false, c :: r =>
      if c = '"' then some ([], r)
      else (closing? (c = '\\') r).map fun (before, behind) => (c :: before, behind)

/-- The literal of a body ends right behind the body. -/
theorem Body.closing?_eq {body value : List Char} (h : Body body value) (rest : List Char) :
    closing? false (body ++ '"' :: rest) = some (body, rest) := by
  induction h with
  | nil => rfl
  | plain hc _ ih =>
      obtain ⟨hbackslash, hquote, -, -⟩ := ne_of_isPlain hc
      simp [closing?, hbackslash, hquote, ih]
  | escaped hmark _ ih => simp [closing?, ih]

/-! ## Lines -/

/-- A body holds no line break. -/
theorem Body.not_mem {body value : List Char} (h : Body body value) :
    '\n' ∉ body ∧ '\r' ∉ body := by
  induction h with
  | nil => exact ⟨List.not_mem_nil, List.not_mem_nil⟩
  | plain hc _ ih =>
      obtain ⟨-, -, hfeed, hreturn⟩ := ne_of_isPlain hc
      simp [hfeed.symm, hreturn.symm, ih]
  | escaped hmark _ ih =>
      simp only [escapes, List.mem_cons, Prod.mk.injEq, List.not_mem_nil, or_false] at hmark
      rcases hmark with ⟨rfl, rfl⟩ | ⟨rfl, rfl⟩ | ⟨rfl, rfl⟩ | ⟨rfl, rfl⟩ <;> simp [ih]

/-- What stands in front of the body in the line that defines a string. -/
def definitionLead (name : String) : List Char :=
  ("#define " ++ name ++ " \"").toList

/-- The line that defines a string by the body of its literal. -/
def definitionLine (name : String) (body : List Char) : List Char :=
  definitionLead name ++ body ++ ['"']

/-- The five lines of a header with these bodies. -/
def lines (time version commit : List Char) : List (List Char) :=
  ["// Auto-generated build info".toList,
    "#pragma once".toList,
    definitionLine "BUILD_TIME" time,
    definitionLine "BUILD_VERSION" version,
    definitionLine "BUILD_COMMIT" commit]

theorem toList_definition (name value : String) :
    (definition name value).toList =
      definitionLine name (value.toList.flatMap escapeChar) ++ ['\n'] := by
  have hclose : "\"\n".toList = ['"', '\n'] := by decide
  simp only [definition, escape, definitionLine, definitionLead, String.toList_append,
    String.toList_ofList, hclose, List.append_assoc, List.cons_append, List.nil_append]

theorem toList_render (info : BuildInfo) :
    (render info).toList =
      (lines (info.buildTime.toList.flatMap escapeChar) (info.version.toList.flatMap escapeChar)
        (info.commit.toList.flatMap escapeChar)).flatMap (· ++ ['\n']) := by
  have hcomment : "// Auto-generated build info\n".toList =
      "// Auto-generated build info".toList ++ ['\n'] := by decide
  have hguard : "#pragma once\n".toList = "#pragma once".toList ++ ['\n'] := by decide
  -- By its equation `render` would be unfolded only after the two fixed lines are evaluated.
  delta render
  rw [String.toList_append, String.toList_append, String.toList_append, String.toList_append,
    hcomment, hguard, toList_definition, toList_definition, toList_definition]
  simp only [lines, List.flatMap_cons, List.flatMap_nil, List.append_assoc, List.append_nil]

theorem exists_slash_render (info : BuildInfo) : ∃ s, (render info).toList = '/' :: s := by
  have hcomment : "// Auto-generated build info".toList =
      '/' :: "/ Auto-generated build info".toList := by decide
  rw [toList_render, lines, hcomment, List.flatMap_cons]
  exact ⟨_, rfl⟩

theorem not_mem_definitionLine {name : String} {body : List Char} {c : Char}
    (hlead : c ∉ definitionLead name) (hbody : c ∉ body) (hc : c ≠ '"') :
    c ∉ definitionLine name body := by
  simp only [definitionLine, List.mem_append, List.mem_singleton, not_or]
  exact ⟨⟨hlead, hbody⟩, hc⟩

/-- No line holds a line break if the bodies hold none. -/
theorem not_mem_lines {time version commit : List Char} {c : Char} (hc : c = '\n' ∨ c = '\r')
    (htime : c ∉ time) (hversion : c ∉ version) (hcommit : c ∉ commit) :
    ∀ row ∈ lines time version commit, c ∉ row := by
  have hfixed : c ∉ "// Auto-generated build info".toList ∧ c ∉ "#pragma once".toList ∧
      c ∉ definitionLead "BUILD_TIME" ∧ c ∉ definitionLead "BUILD_VERSION" ∧
      c ∉ definitionLead "BUILD_COMMIT" ∧ c ≠ '"' := by
    rcases hc with rfl | rfl <;> decide
  obtain ⟨hcomment, hguard, hleadTime, hleadVersion, hleadCommit, hquote⟩ := hfixed
  intro row hrow
  simp only [lines, List.mem_cons, List.not_mem_nil, or_false] at hrow
  rcases hrow with rfl | rfl | rfl | rfl | rfl
  · exact hcomment
  · exact hguard
  · exact not_mem_definitionLine hleadTime htime hquote
  · exact not_mem_definitionLine hleadVersion hversion hquote
  · exact not_mem_definitionLine hleadCommit hcommit hquote

/-! ## Values -/

/-- What a body owes to its value: it stands for it by the grammar, the reader gives it back, the
literal ends at the quote that closes it, and no plain character is changed. -/
structure IsBodyOf (body : List Char) (value : String) : Prop where
  stands : Body body value.toList
  -- Reading the escapes back gives the value.
  back : unescapeList? body = some value.toList
  -- The first quote that is not escaped is the one behind the body.
  closes : ∀ rest, closing? false (body ++ '"' :: rest) = some (body, rest)
  unchanged : (∀ c ∈ value.toList, isPlain c = true) → body = value.toList

theorem isBodyOf_escape (value : String) : IsBodyOf (value.toList.flatMap escapeChar) value :=
  have hbody := body_escapeList value.toList
  ⟨hbody, hbody.unescapeList?, hbody.closing?_eq, escapeList_eq_self⟩

/-- A body is that of one value only. -/
theorem IsBodyOf.value_unique {body : List Char} {v w : String} (hv : IsBodyOf body v)
    (hw : IsBodyOf body w) : v = w := by
  have hback := hv.back.symm.trans hw.back
  exact String.toList_injective (Option.some.inj hback)

theorem definitionLine_injective (name : String) : Function.Injective (definitionLine name) := by
  intro body body' h
  exact List.append_cancel_left (List.append_cancel_right h)

/-- The lines show the bodies. -/
theorem lines_injective {t v c t' v' c' : List Char} (h : lines t v c = lines t' v' c') :
    t = t' ∧ v = v' ∧ c = c' := by
  simp only [lines, List.cons.injEq, and_true, true_and] at h
  exact ⟨definitionLine_injective _ h.1, definitionLine_injective _ h.2.1,
    definitionLine_injective _ h.2.2⟩

/-! ## The header -/

/-- The header is cut at its line feeds into the five lines that it is made of. -/
theorem splitOn_render_eq (info : BuildInfo) :
    (render info).toList.splitOn '\n' =
      lines (info.buildTime.toList.flatMap escapeChar) (info.version.toList.flatMap escapeChar)
        (info.commit.toList.flatMap escapeChar) ++ [[]] := by
  have hfeed := not_mem_lines (.inl rfl) (isBodyOf_escape info.buildTime).stands.not_mem.1
    (isBodyOf_escape info.version).stands.not_mem.1 (isBodyOf_escape info.commit).stands.not_mem.1
  rw [toList_render, Text.splitOn_flatMap hfeed]

/-- These have no carriage return in them, and bodies of the values. -/
theorem splitOn_render (info : BuildInfo) :
    ∃ time version commit,
      (render info).toList.splitOn '\n' = lines time version commit ++ [[]] ∧
      '\r' ∉ (render info).toList ∧
      IsBodyOf time info.buildTime ∧ IsBodyOf version info.version ∧
      IsBodyOf commit info.commit := by
  have htime := isBodyOf_escape info.buildTime
  have hversion := isBodyOf_escape info.version
  have hcommit := isBodyOf_escape info.commit
  have hreturn := not_mem_lines (.inr rfl) htime.stands.not_mem.2 hversion.stands.not_mem.2
    hcommit.stands.not_mem.2
  refine ⟨_, _, _, splitOn_render_eq info, ?_, htime, hversion, hcommit⟩
  have hall : ∀ c ∈ (render info).toList, c ≠ '\r' := by
    rw [toList_render]
    exact Text.forall_mem_flatMap (fun row hrow c hc heq => hreturn row hrow (heq ▸ hc)) (by decide)
  exact fun h => hall '\r' h rfl

theorem eq_of_render_eq {i j : BuildInfo} (h : render i = render j) : i = j := by
  obtain ⟨t, v, c, hi, -, hti, hvi, hci⟩ := splitOn_render i
  obtain ⟨t', v', c', hj, -, htj, hvj, hcj⟩ := splitOn_render j
  -- The lines are the same, and each line shows its body, which shows its value.
  have hlines : lines t v c ++ [[]] = lines t' v' c' ++ [[]] := by
    calc
      lines t v c ++ [[]] = (render i).toList.splitOn '\n' := hi.symm
      _ = (render j).toList.splitOn '\n' := by rw [h]
      _ = lines t' v' c' ++ [[]] := hj
  obtain ⟨rfl, rfl, rfl⟩ := lines_injective (List.append_cancel_right hlines)
  have htime := hti.value_unique htj
  have hversion := hvi.value_unique hvj
  have hcommit := hci.value_unique hcj
  cases i
  cases j
  simp_all

/-- Whatever the values are, the header has its five lines, no carriage return and in each of the
last three a literal that ends at the end of the line and gives its value back.  No two build infos
have the same header. -/
theorem render_lossless :
    (∀ info : BuildInfo, ∃ time version commit : List Char,
      (render info).toList.splitOn '\n' =
        ["// Auto-generated build info".toList, "#pragma once".toList,
          definitionLine "BUILD_TIME" time, definitionLine "BUILD_VERSION" version,
          definitionLine "BUILD_COMMIT" commit, []] ∧
      '\r' ∉ (render info).toList ∧
      IsBodyOf time info.buildTime ∧ IsBodyOf version info.version ∧
      IsBodyOf commit info.commit) ∧
    Function.Injective render :=
  ⟨splitOn_render, fun _ _ => eq_of_render_eq⟩

open Text.Reader (afterPrefix?)

/-! ## Definitions -/

/-- The value that a line defines for a name. -/
def literalOf? (name : String) (line : List Char) : Option String :=
  match (afterPrefix? (definitionLead name) line).bind (closing? false) with
  | some (body, []) => (unescapeList? body).map String.ofList
  | _ => none

/-- The value that the first line defines that has one for a name. -/
def defined? (name : String) (text : String) : Option String :=
  (text.toList.splitOn '\n').findSome? (literalOf? name)

/-- The build info of a header. -/
def read? (text : String) : Option BuildInfo := do
  return ⟨← defined? "BUILD_TIME" text, ← defined? "BUILD_VERSION" text,
    ← defined? "BUILD_COMMIT" text⟩

/-! ## Headers that were written -/

theorem afterPrefix?_append_self (lead rest : List Char) :
    afterPrefix? lead (lead ++ rest) = some rest := by
  induction lead with
  | nil => rfl
  | cons c lead ih => simp [afterPrefix?, ih]

/-- Nothing begins with one of two rows and goes on from the other, if neither begins with the
other. -/
theorem afterPrefix?_append_of_ne {lead lead' : List Char} (h : ¬lead <+: lead')
    (h' : ¬lead' <+: lead) (rest : List Char) : afterPrefix? lead (lead' ++ rest) = none := by
  induction lead generalizing lead' with
  | nil => exact absurd (List.nil_prefix) h
  | cons c lead ih =>
      cases lead' with
      | nil => exact absurd (List.nil_prefix) h'
      | cons d lead' =>
          by_cases hcd : c = d
          · subst hcd
            rw [List.prefix_cons_inj] at h h'
            simp [afterPrefix?, ih h h']
          · simp [afterPrefix?, hcd]

theorem literalOf?_definitionLine {body : List Char} {value : String} (h : IsBodyOf body value)
    (name : String) : literalOf? name (definitionLine name body) = some value := by
  have hlead : afterPrefix? (definitionLead name) (definitionLine name body) =
      some (body ++ ['"']) := by
    unfold definitionLine
    rw [List.append_assoc, afterPrefix?_append_self]
  have hclosing : closing? false (body ++ ['"']) = some (body, []) := h.closes []
  unfold literalOf?
  rw [hlead, Option.bind_some, hclosing]
  simp only [h.back, Option.map_some, String.ofList_toList]

theorem literalOf?_other {name other : String}
    (h : ¬definitionLead name <+: definitionLead other)
    (h' : ¬definitionLead other <+: definitionLead name) (body : List Char) :
    literalOf? name (definitionLine other body) = none := by
  unfold literalOf? definitionLine
  rw [List.append_assoc, afterPrefix?_append_of_ne h h']
  rfl

/-- In the lines of a header each name is defined by its own line. -/
theorem findSome?_lines {time version commit : List Char} {t v c : String}
    (htime : IsBodyOf time t) (hversion : IsBodyOf version v) (hcommit : IsBodyOf commit c) :
    (lines time version commit ++ [[]]).findSome? (literalOf? "BUILD_TIME") = some t ∧
      (lines time version commit ++ [[]]).findSome? (literalOf? "BUILD_VERSION") = some v ∧
      (lines time version commit ++ [[]]).findSome? (literalOf? "BUILD_COMMIT") = some c := by
  have hfixed : ∀ name ∈ ["BUILD_TIME", "BUILD_VERSION", "BUILD_COMMIT"],
      literalOf? name "// Auto-generated build info".toList = none ∧
        literalOf? name "#pragma once".toList = none := by decide
  have htimeLine := literalOf?_definitionLine htime "BUILD_TIME"
  have hversionLine := literalOf?_definitionLine hversion "BUILD_VERSION"
  have hcommitLine := literalOf?_definitionLine hcommit "BUILD_COMMIT"
  have hversionTime : literalOf? "BUILD_VERSION" (definitionLine "BUILD_TIME" time) = none :=
    literalOf?_other (by decide) (by decide) time
  have hcommitTime : literalOf? "BUILD_COMMIT" (definitionLine "BUILD_TIME" time) = none :=
    literalOf?_other (by decide) (by decide) time
  have hcommitVersion :
      literalOf? "BUILD_COMMIT" (definitionLine "BUILD_VERSION" version) = none :=
    literalOf?_other (by decide) (by decide) version
  -- The first line that defines a name is the one that was written for it.
  unfold lines
  refine ⟨?_, ?_, ?_⟩
  · rcases hfixed "BUILD_TIME" (by decide) with ⟨hcomment, hguard⟩
    simp only [List.cons_append, List.findSome?_cons, hcomment, hguard, htimeLine]
  · rcases hfixed "BUILD_VERSION" (by decide) with ⟨hcomment, hguard⟩
    simp only [List.cons_append, List.findSome?_cons, hcomment, hguard, hversionTime, hversionLine]
  · rcases hfixed "BUILD_COMMIT" (by decide) with ⟨hcomment, hguard⟩
    simp only [List.cons_append, List.findSome?_cons, hcomment, hguard, hcommitTime,
      hcommitVersion, hcommitLine]

/-- A header that is written gives its build info back. -/
theorem read?_render (info : BuildInfo) : read? (render info) = some info := by
  rcases splitOn_render info with ⟨time, version, commit, hlines, -, htime, hversion, hcommit⟩
  rcases findSome?_lines htime hversion hcommit with ⟨hreadTime, hreadVersion, hreadCommit⟩
  unfold read? defined?
  rw [hlines, hreadTime, hreadVersion, hreadCommit]
  rfl

end Header
end BuildStamp
