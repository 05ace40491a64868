import BuildStamp.Proofs.Header.Layout

/-!
# Translation — the header as a compiler takes it in

A compiler of the older C standards does two things to a text before it looks for literals in it:
every trigraph, which is two question marks and one of nine characters, is replaced by one
character, and every line with a backslash at its end is joined with the next line.

No line of a header ends in a backslash, not even one that comes of a trigraph, so lines are never
joined.  But values are escaped character by character, and none of the escapes is about question
marks: a trigraph of a value is a trigraph of the header, and it may stand for the backslash that
hides the closing quote.

* `Header.replaceTrigraphs`, `Header.joinLines`, `Header.translated` — the two phases;
* `Header.replaceTrigraphs_eq_self_iff` — the first one leaves only texts without trigraphs alone;
* `Header.hasTrigraph_escape_iff` — the escapes make no trigraph, and break none up;
* `Header.splitOn_translated_render` — the lines of a header behind the two phases;
* `Header.translated_iff_noTrigraph` — the headers that are left alone;
* `Header.quote_swallowed` — a version that hides the end of its literal.
-/

namespace BuildStamp
namespace Header

/-! ## The two phases -/

/-- The character that a trigraph stands for, by what follows its two question marks. -/
def trigraph? : Char → Option Char
  | '=' => some '#'
  | '/' => some '\\'
  | '\'' => some '^'
  | '(' => some '['
  | ')' => some ']'
  | '!' => some '|'
  | '<' => some '{'
  | '>' => some '}'
  | '-' => some '~'
  | _ => none

/-- The text with all trigraphs replaced, from its beginning on. -/
def replaceTrigraphs : List Char → List Char
  | '?' :: '?' :: c :: r =>
      match trigraph? c with
      | some meant => meant :: replaceTrigraphs r
      | none => '?' :: replaceTrigraphs ('?' :: c :: r)
  | c :: r => c :: replaceTrigraphs r
  | [] => []

/-- The text with every line joined to the next that ends in a backslash. -/
def joinLines : List Char → List Char
  | '\\' :: '\n' :: r => joinLines r
  | c :: r => c :: joinLines r
  | [] => []

/-- The text as a compiler has it when it begins to look for tokens. -/
def translated (text : String) : String :=
  String.ofList (joinLines (replaceTrigraphs text.toList))

/-- There is a trigraph somewhere in the text. -/
def HasTrigraph (cs : List Char) : Prop :=
  ∃ last, trigraph? last ≠ none ∧ ['?', '?', last] <:+: cs

/-! ## Trigraphs -/

/-- What a trigraph at the beginning of the text stands for, if there is one. -/
def leading? : List Char → Option Char
  | '?' :: '?' :: c :: _ => trigraph? c
  | _ => none

theorem leading?_ne_none_iff {cs : List Char} :
    leading? cs ≠ none ↔ ∃ last, trigraph? last ≠ none ∧ ['?', '?', last] <+: cs := by
  constructor
  · intro h
    unfold leading? at h
    split at h
    · exact ⟨_, h, _, rfl⟩
    · exact absurd rfl h
  · rintro ⟨last, hlast, s, rfl⟩
    exact hlast

/-- A trigraph begins at the first character or behind it. -/
theorem hasTrigraph_cons_iff {c : Char} {r : List Char} :
    HasTrigraph (c :: r) ↔ leading? (c :: r) ≠ none ∨ HasTrigraph r := by
  simp only [HasTrigraph, leading?_ne_none_iff, List.infix_cons_iff, and_or_left, exists_or]

theorem not_hasTrigraph_nil : ¬HasTrigraph [] := by
  rintro ⟨last, -, hinfix⟩
  cases List.infix_nil.1 hinfix

/-- A character that begins no trigraph stays. -/
theorem replaceTrigraphs_cons {c : Char} {r : List Char} (h : leading? (c :: r) = none) :
    replaceTrigraphs (c :: r) = c :: replaceTrigraphs r := by
  by_cases hshape : ∃ d s, c = '?' ∧ r = '?' :: d :: s
  · rcases hshape with ⟨d, s, rfl, rfl⟩
    have hnone : trigraph? d = none := h
    rw [replaceTrigraphs, hnone]
  · rw [replaceTrigraphs]
    intro d s hc hr
    exact hshape ⟨d, s, hc, hr⟩

/-- A text ends, or it begins with a trigraph, or with a character that begins none. -/
@[elab_as_elim]
theorem trigraphInduction {motive : List Char → Prop} (nil : motive [])
    (trigraph : ∀ last r meant, trigraph? last = some meant → motive r →
      motive ('?' :: '?' :: last :: r))
    (other : ∀ c r, leading? (c :: r) = none → motive r → motive (c :: r)) (cs : List Char) :
    motive cs := by
  induction cs using replaceTrigraphs.induct with
  | case1 last r meant hmeant ih => exact trigraph last r meant hmeant ih
  | case2 last r hnone ih => exact other '?' ('?' :: last :: r) hnone ih
  | case3 c r hother ih =>
      refine other c r ?_ ih
      unfold leading?
      split
      · rename_i heq
        cases heq
        exact (hother _ _ rfl rfl).elim
      · rfl
  | case4 => exact nil

theorem replaceTrigraphs_trigraph {last meant : Char} (h : trigraph? last = some meant)
    (r : List Char) :
    replaceTrigraphs ('?' :: '?' :: last :: r) = meant :: replaceTrigraphs r := by
  rw [replaceTrigraphs, h]

theorem replaceTrigraphs_eq_self {cs : List Char} (h : ¬HasTrigraph cs) :
    replaceTrigraphs cs = cs := by
  induction cs using trigraphInduction with
  | nil => rfl
  | trigraph last r meant hmeant ih =>
      have hleading : leading? ('?' :: '?' :: last :: r) ≠ none := by simp [leading?, hmeant]
      exact absurd (hasTrigraph_cons_iff.2 (.inl hleading)) h
  | other c r hnone ih =>
      rw [hasTrigraph_cons_iff, not_or] at h
      rw [replaceTrigraphs_cons hnone, ih h.2]

/-- No text becomes longer, and one with a trigraph becomes shorter. -/
theorem length_replaceTrigraphs (cs : List Char) :
    (replaceTrigraphs cs).length ≤ cs.length ∧
      (HasTrigraph cs → (replaceTrigraphs cs).length < cs.length) := by
  induction cs using trigraphInduction with
  | nil => exact ⟨Nat.le_refl _, fun h => absurd h not_hasTrigraph_nil⟩
  | trigraph last r meant hmeant ih =>
      rw [replaceTrigraphs_trigraph hmeant]
      simp only [List.length_cons]
      omega
  | other c r hnone ih =>
      rw [replaceTrigraphs_cons hnone, hasTrigraph_cons_iff, or_iff_right (not_not_intro hnone)]
      simp only [List.length_cons]
      exact ⟨Nat.succ_le_succ ih.1, fun h => Nat.succ_lt_succ (ih.2 h)⟩

/-- The first phase leaves a text alone exactly if it has no trigraph. -/
theorem replaceTrigraphs_eq_self_iff {cs : List Char} :
    replaceTrigraphs cs = cs ↔ ¬HasTrigraph cs := by
  refine ⟨?_, replaceTrigraphs_eq_self⟩
  intro heq htrigraph
  have hlt := (length_replaceTrigraphs cs).2 htrigraph
  rw [heq] at hlt
  exact Nat.lt_irrefl _ hlt

theorem trigraph?_ne_feed (c : Char) : trigraph? c ≠ some '\n' := by
  unfold trigraph?
  split <;> simp

/-- Line ends are not made. -/
theorem feed_not_mem_replaceTrigraphs {cs : List Char} (h : '\n' ∉ cs) :
    '\n' ∉ replaceTrigraphs cs := by
  induction cs using trigraphInduction with
  | nil => exact h
  | trigraph last r meant hmeant ih =>
      have hne : '\n' ≠ meant := fun heq => trigraph?_ne_feed last (heq ▸ hmeant)
      simp only [List.mem_cons, not_or] at h
      rw [replaceTrigraphs_trigraph hmeant, List.mem_cons, not_or]
      exact ⟨hne, ih h.2.2.2⟩
  | other c r hnone ih =>
      rw [List.mem_cons, not_or] at h
      rw [replaceTrigraphs_cons hnone, List.mem_cons, not_or]
      exact ⟨h.1, ih h.2⟩

/-! ## Parts of a text -/

theorem leading?_cons_of_ne {c : Char} (h : c ≠ '?') (r : List Char) :
    leading? (c :: r) = none := by
  unfold leading?
  split
  · rename_i heq
    exact absurd (List.cons.inj heq).1 h
  · rfl

/-- A trigraph is not begun in front of a character that is part of none. -/
theorem leading?_append_cons {c d : Char} {r : List Char} (hc : c ≠ '?')
    (hlast : trigraph? c = none) (h : leading? (d :: r) = none) (rest : List Char) :
    leading? (d :: (r ++ c :: rest)) = none := by
  unfold leading?
  split
  · rename_i last s heq
    match r with
    | [] =>
        cases heq
        exact absurd rfl hc
    | [e] =>
        cases heq
        exact hlast
    | e :: f :: tail =>
        cases heq
        exact h
  · rfl

/-- No trigraph lies in front of a character that is part of none, or on both sides of it. -/
theorem replaceTrigraphs_append_cons {c : Char} (hc : c ≠ '?') (hlast : trigraph? c = none)
    (cs rest : List Char) :
    replaceTrigraphs (cs ++ c :: rest) = replaceTrigraphs cs ++ c :: replaceTrigraphs rest := by
  induction cs using trigraphInduction with
  | nil => exact replaceTrigraphs_cons (leading?_cons_of_ne hc rest)
  | trigraph last r meant hmeant ih =>
      simp only [List.cons_append, replaceTrigraphs_trigraph hmeant, ih]
  | other d r hnone ih =>
      rw [List.cons_append, replaceTrigraphs_cons (leading?_append_cons hc hlast hnone rest), ih,
        replaceTrigraphs_cons hnone, List.cons_append]

/-- A text without question marks in front is not changed. -/
theorem replaceTrigraphs_append {lead : List Char} (h : '?' ∉ lead) (rest : List Char) :
    replaceTrigraphs (lead ++ rest) = lead ++ replaceTrigraphs rest := by
  induction lead with
  | nil => rfl
  | cons c lead ih =>
      rw [List.mem_cons, not_or] at h
      rw [List.cons_append, replaceTrigraphs_cons (leading?_cons_of_ne (Ne.symm h.1) _), ih h.2,
        List.cons_append]

theorem replaceTrigraphs_flatMap (rows : List (List Char)) :
    replaceTrigraphs (rows.flatMap (· ++ ['\n'])) =
      (rows.map replaceTrigraphs).flatMap (· ++ ['\n']) := by
  induction rows with
  | nil => rfl
  | cons row rows ih =>
      rw [List.flatMap_cons, List.append_assoc, List.singleton_append,
        replaceTrigraphs_append_cons (by decide) rfl, ih, List.map_cons, List.flatMap_cons,
        List.append_assoc, List.singleton_append]

theorem replaceTrigraphs_definitionLine (name : String) (h : '?' ∉ definitionLead name)
    (body : List Char) :
    replaceTrigraphs (definitionLine name body) = definitionLine name (replaceTrigraphs body) := by
  unfold definitionLine
  rw [List.append_assoc, replaceTrigraphs_append h,
    replaceTrigraphs_append_cons (by decide) rfl, List.append_assoc]
  rfl

theorem map_replaceTrigraphs_lines (time version commit : List Char) :
    (lines time version commit).map replaceTrigraphs =
      lines (replaceTrigraphs time) (replaceTrigraphs version) (replaceTrigraphs commit) := by
  have hcomment : replaceTrigraphs "// Auto-generated build info".toList =
      "// Auto-generated build info".toList := by decide
  have hguard : replaceTrigraphs "#pragma once".toList = "#pragma once".toList := by decide
  simp only [lines, List.map_cons, List.map_nil, hcomment, hguard,
    replaceTrigraphs_definitionLine "BUILD_TIME" (by decide),
    replaceTrigraphs_definitionLine "BUILD_VERSION" (by decide),
    replaceTrigraphs_definitionLine "BUILD_COMMIT" (by decide)]

/-! ## Lines -/

/-- A line is not joined with what follows unless a backslash is its last character. -/
theorem joinLines_append_feed {row : List Char} (hfeed : '\n' ∉ row)
    (hlast : row.getLast? ≠ some '\\') (rest : List Char) :
    joinLines (row ++ '\n' :: rest) = row ++ '\n' :: joinLines rest := by
  induction row with
  | nil => rfl
  | cons c row ih =>
      rw [List.mem_cons, not_or] at hfeed
      have hrest : joinLines (row ++ '\n' :: rest) = row ++ '\n' :: joinLines rest := by
        refine ih hfeed.2 fun hrow => hlast ?_
        rw [List.getLast?_cons, hrow, Option.getD_some]
      rw [List.cons_append, joinLines, hrest, List.cons_append]
      -- A backslash in front of the line end would be the last character.
      intro s hc hs
      cases row with
      | nil => exact hlast (congrArg some hc)
      | cons d row => exact hfeed.2 (by simp [(List.cons.inj hs).1])

theorem joinLines_flatMap {rows : List (List Char)} (hfeed : ∀ row ∈ rows, '\n' ∉ row)
    (hlast : ∀ row ∈ rows, row.getLast? ≠ some '\\') :
    joinLines (rows.flatMap (· ++ ['\n'])) = rows.flatMap (· ++ ['\n']) := by
  induction rows with
  | nil => rfl
  | cons row rows ih =>
      have hrows := ih (fun r hr => hfeed r (List.mem_cons_of_mem row hr))
        fun r hr => hlast r (List.mem_cons_of_mem row hr)
      rw [List.flatMap_cons, List.append_assoc, List.singleton_append,
        joinLines_append_feed (hfeed row List.mem_cons_self) (hlast row List.mem_cons_self), hrows]

/-! ## Values -/

/-- Plain characters stand at the beginning of what is written of a value exactly if they stand at
the beginning of the value. -/
theorem prefix_escape_iff {pattern : List Char} (h : ∀ c ∈ pattern, isPlain c = true)
    (value : List Char) :
    pattern <+: value.flatMap escapeChar ↔ pattern <+: value := by
  induction pattern generalizing value with
  | nil => exact iff_of_true List.nil_prefix List.nil_prefix
  | cons p pattern ih =>
      cases value with
      | nil => rfl
      | cons c value =>
          have hp : isPlain p = true := h p List.mem_cons_self
          rw [List.flatMap_cons]
          cases hc : isPlain c with
          | true =>
              rw [escapeChar_of_isPlain hc, List.singleton_append, List.cons_prefix_cons,
                List.cons_prefix_cons, ih fun d hd => h d (List.mem_cons_of_mem p hd)]
          | false =>
              -- Neither side begins like the pattern: the one begins with a backslash, the other
              -- with a character that is not plain.
              have hne : p ≠ c := fun heq => by simp [← heq, hp] at hc
              have hbackslash : p ≠ '\\' := (ne_of_isPlain hp).1
              rcases escapeChar_of_not_isPlain hc with ⟨mark, -, hwritten⟩
              rw [hwritten, List.cons_append, List.cons_prefix_cons, List.cons_prefix_cons]
              simp only [hne, hbackslash, false_and]

/-- Nothing that stands behind the backslash of an escape is a question mark. -/
theorem ne_question_of_mem_escapes {mark c : Char} (h : (mark, c) ∈ escapes) : mark ≠ '?' := by
  have hall : ∀ e ∈ escapes, e.1 ≠ '?' := by decide
  exact hall (mark, c) h

theorem isPlain_of_trigraph? {last : Char} (h : trigraph? last ≠ none) : isPlain last = true := by
  unfold trigraph? at h
  split at h
  case h_10 => exact absurd rfl h
  all_goals rfl

theorem leading?_escape_iff (value : List Char) :
    leading? (value.flatMap escapeChar) ≠ none ↔ leading? value ≠ none := by
  rw [leading?_ne_none_iff, leading?_ne_none_iff]
  refine exists_congr fun last => and_congr_right fun hlast => ?_
  refine prefix_escape_iff ?_ value
  intro c hc
  simp only [List.mem_cons, List.not_mem_nil, or_false] at hc
  rcases hc with rfl | rfl | rfl
  · rfl
  · rfl
  · exact isPlain_of_trigraph? hlast

/-- A value has a trigraph in its literal exactly if it has one itself. -/
theorem hasTrigraph_escape_iff (value : List Char) :
    HasTrigraph (value.flatMap escapeChar) ↔ HasTrigraph value := by
  induction value with
  | nil => rfl
  | cons c value ih =>
      have hleading := leading?_escape_iff (c :: value)
      rw [List.flatMap_cons] at hleading ⊢
      rw [hasTrigraph_cons_iff, ← hleading, ← ih]
      cases hc : isPlain c with
      | true => rw [escapeChar_of_isPlain hc, List.singleton_append, hasTrigraph_cons_iff]
      | false =>
          -- A trigraph begins with neither of the two characters of an escape.
          rcases escapeChar_of_not_isPlain hc with ⟨mark, hmark, hwritten⟩
          have hsecond := leading?_cons_of_ne (ne_question_of_mem_escapes hmark)
            (value.flatMap escapeChar)
          rw [hwritten, List.cons_append, List.singleton_append, hasTrigraph_cons_iff,
            hasTrigraph_cons_iff (c := mark), hsecond]
          simp

/-! ## The header -/

/-- Every line of a header ends in a character that joins it with nothing. -/
theorem getLast?_lines {time version commit : List Char} :
    ∀ row ∈ lines time version commit, row.getLast? ≠ some '\\' := by
  have hdefinition (name : String) (body : List Char) :
      (definitionLine name body).getLast? ≠ some '\\' := by
    unfold definitionLine
    rw [List.getLast?_concat]
    decide
  intro row hrow
  simp only [lines, List.mem_cons, List.not_mem_nil, or_false] at hrow
  rcases hrow with rfl | rfl | rfl | rfl | rfl
  · decide
  · decide
  · exact hdefinition _ _
  · exact hdefinition _ _
  · exact hdefinition _ _

/-- Line ends are made neither by the escapes nor by the first phase. -/
theorem feed_not_mem_translated (info : BuildInfo) :
    ∀ row ∈ lines (replaceTrigraphs (info.buildTime.toList.flatMap escapeChar))
      (replaceTrigraphs (info.version.toList.flatMap escapeChar))
      (replaceTrigraphs (info.commit.toList.flatMap escapeChar)), '\n' ∉ row := by
  have hbody (value : String) : '\n' ∉ replaceTrigraphs (value.toList.flatMap escapeChar) :=
    feed_not_mem_replaceTrigraphs (isBodyOf_escape value).stands.not_mem.1
  exact not_mem_lines (.inl rfl) (hbody info.buildTime) (hbody info.version) (hbody info.commit)

/-- The two phases change nothing of a header but the trigraphs of its bodies. -/
theorem toList_translated_render (info : BuildInfo) :
    (translated (render info)).toList =
      (lines (replaceTrigraphs (info.buildTime.toList.flatMap escapeChar))
        (replaceTrigraphs (info.version.toList.flatMap escapeChar))
        (replaceTrigraphs (info.commit.toList.flatMap escapeChar))).flatMap (· ++ ['\n']) := by
  unfold translated
  rw [String.toList_ofList, toList_render, replaceTrigraphs_flatMap, map_replaceTrigraphs_lines,
    joinLines_flatMap (feed_not_mem_translated info) getLast?_lines]

/-- Behind the two phases a header still has five lines. -/
theorem splitOn_translated_render (info : BuildInfo) :
    (translated (render info)).toList.splitOn '\n' =
      lines (replaceTrigraphs (info.buildTime.toList.flatMap escapeChar))
        (replaceTrigraphs (info.version.toList.flatMap escapeChar))
        (replaceTrigraphs (info.commit.toList.flatMap escapeChar)) ++ [[]] := by
  rw [toList_translated_render, Text.splitOn_flatMap (feed_not_mem_translated info)]

/-- The body of a value has its trigraphs replaced unless the value has none. -/
theorem replaceTrigraphs_escape_eq_iff (value : String) :
    replaceTrigraphs (value.toList.flatMap escapeChar) = value.toList.flatMap escapeChar ↔
      ¬HasTrigraph value.toList := by
  rw [replaceTrigraphs_eq_self_iff, hasTrigraph_escape_iff]

/-- A compiler finds five lines in every header, which are those that were written with the
trigraphs of the literals replaced; no line is joined with another one.  It finds the header as it
was written exactly if none of the three values has a trigraph in it. -/
theorem translated_iff_noTrigraph (info : BuildInfo) :
    (∃ time version commit,
      IsBodyOf time info.buildTime ∧ IsBodyOf version info.version ∧
      IsBodyOf commit info.commit ∧
      (render info).toList.splitOn '\n' = lines time version commit ++ [[]] ∧
      (translated (render info)).toList.splitOn '\n' =
        lines (replaceTrigraphs time) (replaceTrigraphs version) (replaceTrigraphs commit) ++
          [[]]) ∧
    (translated (render info) = render info ↔
      ¬HasTrigraph info.buildTime.toList ∧ ¬HasTrigraph info.version.toList ∧
        ¬HasTrigraph info.commit.toList) := by
  have hsplit := splitOn_translated_render info
  refine ⟨⟨_, _, _, isBodyOf_escape _, isBodyOf_escape _, isBodyOf_escape _,
    splitOn_render_eq info, hsplit⟩, ?_⟩
  -- The lines show the bodies, so the header is left alone only if each of its bodies is.
  simp only [← replaceTrigraphs_escape_eq_iff]
  constructor
  · intro heq
    rw [heq, splitOn_render_eq] at hsplit
    rcases lines_injective (List.append_cancel_right hsplit) with ⟨htime, hversion, hcommit⟩
    exact ⟨htime.symm, hversion.symm, hcommit.symm⟩
  · rintro ⟨htime, hversion, hcommit⟩
    apply String.toList_injective
    rw [toList_translated_render, htime, hversion, hcommit, toList_render]

/-- A build info whose version is a trigraph that stands for a backslash. -/
def hidingInfo : BuildInfo :=
  ⟨"2026-03-07T09:05:01", "??/", "abc1234"⟩

/-- The trigraph of the version hides the quote behind it, so the literal does not end on its line,
and the version is not defined any more. -/
theorem quote_swallowed :
    HasTrigraph hidingInfo.version.toList ∧ read? (render hidingInfo) = some hidingInfo ∧
      translated (render hidingInfo) ≠ render hidingInfo ∧
      (translated (render hidingInfo)).toList.splitOn '\n' =
        ["// Auto-generated build info".toList, "#pragma once".toList,
          "#define BUILD_TIME \"2026-03-07T09:05:01\"".toList,
          "#define BUILD_VERSION \"\\\"".toList,
          "#define BUILD_COMMIT \"abc1234\"".toList, []] ∧
      defined? "BUILD_VERSION" (translated (render hidingInfo)) = none := by
  -- The trigraph is a backslash now, and the quote behind it belongs to the value.
  have hlines := (splitOn_translated_render hidingInfo).trans
    (by decide : _ =
      ["// Auto-generated build info".toList, "#pragma once".toList,
        "#define BUILD_TIME \"2026-03-07T09:05:01\"".toList,
        "#define BUILD_VERSION \"\\\"".toList,
        "#define BUILD_COMMIT \"abc1234\"".toList, []])
  refine ⟨⟨'/', by decide, List.infix_rfl⟩, read?_render _, ?_, hlines, ?_⟩
  · intro heq
    rw [heq, splitOn_render_eq] at hlines
    exact absurd hlines (by decide)
  · unfold defined?
    rw [hlines]
    decide

end Header
end BuildStamp
