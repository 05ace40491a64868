import BuildStamp.Proofs.Toml.Multiline

/-!
# Quote — strings are read back in every form

The writer gives a string one of four forms, of which two are for several lines.  Whatever the
string holds, the reader takes its written form for it.

* `Toml.basicString_run`, `Toml.literalString_run` — the forms on one line;
* `Toml.string_run_quoteList` — the written form of any string.
-/

namespace BuildStamp
namespace Toml

open Text (Reader)
open Text.Reader

/-! ## Forms on one line -/

/-- A character between double quotes, of which none stands unescaped. -/
def spelling (c : Char) : List Char :=
  if c = '"' then ['\\', '"'] else escapeOther false c

theorem spells_spelling (c : Char) : Spells false (spelling c) c := by
  by_cases hc : c = '"'
  · subst hc
    exact .escaped .quote
  · simpa [spelling, hc] using escapeOther_spells false hc

theorem escapeBody_zero (run : Nat) (cs : List Char) :
    escapeBody false 0 run cs = cs.flatMap spelling := by
  induction cs generalizing run with
  | nil => rfl
  | cons c r ih =>
      by_cases hc : c = '"'
      · simp [escapeBody, spelling, hc, ih]
      · simp [escapeBody, spelling, hc, ih]

/-- What stands for a character between double quotes is read back as that character. -/
theorem Spells.reads {written : List Char} {c : Char} (h : Spells false written c) :
    ((char isBasicPlain).orElse escape).Reads written c := by
  intro rest
  cases h with
  | plain hc => simp [hc]
  | lineFeed keep => exact absurd keep (by decide)
  | escaped he =>
      have hread := he.reads rest
      obtain ⟨m, tail, rfl, -⟩ := he.mark
      have hplain : isBasicPlain '\\' = false := by decide
      simpa [hplain] using hread

theorem basicString_run (cs rest : List Char) :
    basicString.run ('"' :: (escapeBody false 0 0 cs ++ '"' :: rest)) =
      some (String.ofList cs, rest) := by
  have hmany : ((char isBasicPlain).orElse escape).many (cs.flatMap spelling ++ '"' :: rest) =
      (cs.map id, '"' :: rest) :=
    many_flatMap (fun c _ => (spells_spelling c).reads) (by rfl)
  simp [basicString, escapeBody_zero, afterPrefix?, hmany]

theorem literalString_run {cs : List Char} (h : ∀ c ∈ cs, isLiteralPlain c = true)
    (rest : List Char) :
    literalString.run ('\'' :: (cs ++ '\'' :: rest)) = some (String.ofList cs, rest) := by
  have hmany : (char isLiteralPlain).many (cs ++ '\'' :: rest) = (cs, '\'' :: rest) :=
    many_chars (fun c hc rest => by simp [h c hc]) (by rfl)
  simp [literalString, afterPrefix?, hmany]

/-! ## The forms that the writer chooses -/

/-- Single quotes are chosen for strings that stand for themselves between them. -/
theorem formOf_eq_literal {s : Shape} (h : formOf s = .literal) :
    s.control = false ∧ s.singles = 0 ∧ s.lineFeed = false := by
  unfold formOf at h
  split_ifs at h
  simp_all

/-- Three single quotes are chosen for strings that stand for themselves between them. -/
theorem formOf_eq_multilineLiteral {s : Shape} (h : formOf s = .multilineLiteral) :
    s.control = false ∧ s.singles ≤ 2 := by
  unfold formOf at h
  split_ifs at h
  simp_all

theorem isControl_of_shapeOf {cs : List Char} (h : (shapeOf cs).control = false) :
    ∀ c ∈ cs, isControl c = false := by
  simpa [shapeOf] using h

/-- The writer puts a line feed behind opening quotes exactly where the string holds one.  In all
other strings nothing is taken for such a line feed. -/
theorem openingLine_shapeOf {cs body : List Char}
    (hbody : '\n' ∉ cs → ∀ c s, body = c :: s → c ≠ '\n' ∧ c ≠ '\r') :
    openingLine (shapeOf cs) = ['\n'] ∨ openingLine (shapeOf cs) = [] ∧
      ∀ c s, body = c :: s → c ≠ '\n' ∧ c ≠ '\r' := by
  by_cases h : '\n' ∈ cs
  · exact .inl (by simp [openingLine, shapeOf, h])
  · exact .inr ⟨by simp [openingLine, shapeOf, h], hbody h⟩

/-- Between double quotes a line end stands in front only if the string begins with it. -/
theorem escapeBody_head {cs : List Char} (h : '\n' ∉ cs) (c : Char) (s : List Char)
    (hw : escapeBody true 2 0 cs = c :: s) : c ≠ '\n' ∧ c ≠ '\r' := by
  cases cs with
  | nil => simp [escapeBody] at hw
  | cons d r =>
      by_cases hd : d = '"'
      · simp only [escapeBody, hd, if_true, Nat.zero_lt_two, List.cons.injEq] at hw
        rw [← hw.1]
        decide
      · obtain ⟨e, tail, hspelled, -, hret, hfeed⟩ := (escapeOther_spells true hd).head
        simp only [escapeBody, hd, if_false, hspelled, List.cons_append, List.cons.injEq] at hw
        obtain ⟨rfl, -⟩ := hw
        exact ⟨fun he => h (by simp [hfeed he]), hret⟩

/-! ## Strings -/

theorem string_run_eq_none {c : Char} (double : c ≠ '"') (single : c ≠ '\'') (s : List Char) :
    string.run (c :: s) = none := by
  simp [string, multilineBasic, basicString, multilineLiteral, literalString, multiline,
    afterPrefix?, Ne.symm double, Ne.symm single]

/-- The readers of double quotes leave a single quote alone. -/
theorem string_run_single (s : List Char) :
    string.run ('\'' :: s) = (multilineLiteral.orElse literalString).run ('\'' :: s) := by
  simp [string, multilineBasic, basicString, multiline, afterPrefix?]

/-- A string on one line is not taken for one over several lines. -/
theorem multiline_run_eq_none {q : Char} {body rest : List Char} (piece : Reader (List Char))
    (hbody : ∀ d s, body = d :: s → d ≠ q) (hrest : rest.head? ≠ some q) :
    (multiline q piece).run (q :: (body ++ q :: rest)) = none := by
  have hopen : afterPrefix? [q, q, q] (q :: (body ++ q :: rest)) = none := by
    cases body with
    | nil =>
        cases rest with
        | nil => simp [afterPrefix?]
        | cons c r =>
            have hc : ¬q = c := fun hc => hrest (by simp [hc])
            simp [afterPrefix?, hc]
    | cons d s => simp [afterPrefix?, Ne.symm (hbody d s rfl)]
  simp [multiline, hopen]

section Forms

variable {cs rest : List Char}

theorem string_run_basic (double : rest.head? ≠ some '"') :
    string.run ('"' :: (escapeBody false 0 0 cs ++ '"' :: rest)) =
      some (String.ofList cs, rest) := by
  -- The body does not begin with a quote, so the string does not begin with three.
  have hhead : ∀ d s, escapeBody false 0 0 cs = d :: s → d ≠ '"' := by
    intro d s hw
    cases cs with
    | nil => simp [escapeBody] at hw
    | cons c r =>
        obtain ⟨e, tail, hspelled, he, -⟩ := (spells_spelling c).head
        rw [escapeBody_zero, List.flatMap_cons, hspelled, List.cons_append] at hw
        exact (List.cons.inj hw).1 ▸ he
  have hmulti : multilineBasic.run ('"' :: (escapeBody false 0 0 cs ++ '"' :: rest)) = none :=
    multiline_run_eq_none _ hhead double
  have hread := basicString_run cs rest
  simp [string, hmulti, hread]

theorem string_run_literal (hform : formOf (shapeOf cs) = .literal)
    (single : rest.head? ≠ some '\'') :
    string.run ('\'' :: (cs ++ '\'' :: rest)) = some (String.ofList cs, rest) := by
  obtain ⟨hcontrol, hsingles, hfeed⟩ := formOf_eq_literal hform
  have hother : ∀ c ∈ cs, c ≠ '\'' := ne_of_longestRun_eq_zero hsingles
  have hlines : '\n' ∉ cs := by simpa [shapeOf] using hfeed
  have hplain : ∀ c ∈ cs, isLiteralPlain c = true := fun c hc =>
    isLiteralPlain_of_not_isControl (isControl_of_shapeOf hcontrol c hc)
      (fun h => hlines (h ▸ hc)) (hother c hc)
  have hmulti : multilineLiteral.run ('\'' :: (cs ++ '\'' :: rest)) = none :=
    multiline_run_eq_none _ (fun d s hw => hother d (by simp [hw])) single
  have hread := literalString_run hplain rest
  simp [string_run_single, hmulti, hread]

theorem string_run_multilineBasic (double : rest.head? ≠ some '"') :
    string.run (['"', '"', '"'] ++ openingLine (shapeOf cs) ++ escapeBody true 2 0 cs ++
      ['"', '"', '"'] ++ rest) = some (String.ofList cs, rest) := by
  have hbody := multilineBody_escapeBody (Nat.zero_le 2) cs
  have hopening : openingLine (shapeOf cs) = ['\n'] ∨ openingLine (shapeOf cs) = [] ∧
      ∀ c s, escapeBody true 2 0 cs = c :: s → c ≠ '\n' ∧ c ≠ '\r' :=
    openingLine_shapeOf escapeBody_head
  have hread : multilineBasic.run
      (['"', '"', '"'] ++ openingLine (shapeOf cs) ++ escapeBody true 2 0 cs ++
        ['"', '"', '"'] ++ rest) = some (String.ofList cs, rest) :=
    multiline_run hbody (fun _ => rfl) (by decide) _ hopening (by decide) double
  rw [string, run_orElse, hread]
  rfl

theorem string_run_multilineLiteral (hform : formOf (shapeOf cs) = .multilineLiteral)
    (single : rest.head? ≠ some '\'') :
    string.run (['\'', '\'', '\''] ++ openingLine (shapeOf cs) ++ cs ++ ['\'', '\'', '\''] ++
      rest) = some (String.ofList cs, rest) := by
  obtain ⟨hcontrol, hsingles⟩ := formOf_eq_multilineLiteral hform
  have hchars := isControl_of_shapeOf hcontrol
  have hbody := multilineBody_self hchars hsingles
  -- A carriage return is a control character, for which this form is not chosen.
  have hhead : '\n' ∉ cs → ∀ c s, cs = c :: s → c ≠ '\n' ∧ c ≠ '\r' := by
    rintro hmem c s rfl
    have hret : isControl '\r' = true := by decide
    refine ⟨fun hc => hmem (by simp [hc]), fun hc => ?_⟩
    have hcontrolled := hchars c (by simp)
    simp [hc, hret] at hcontrolled
  have hopening := openingLine_shapeOf hhead
  have hread : multilineLiteral.run
      (['\'', '\'', '\''] ++ openingLine (shapeOf cs) ++ cs ++ ['\'', '\'', '\''] ++ rest) =
        some (String.ofList cs, rest) :=
    multiline_run hbody (fun _ => rfl) (by decide) _ hopening (by decide) single
  simp only [List.cons_append, List.nil_append, string_run_single, run_orElse] at hread ⊢
  rw [hread]
  rfl

end Forms

/-- The writer's form of any string is read back, if no quote stands behind it. -/
theorem string_run_quoteList (cs : List Char) {rest : List Char} (double : rest.head? ≠ some '"')
    (single : rest.head? ≠ some '\'') :
    string.run (quoteList cs ++ rest) = some (String.ofList cs, rest) := by
  cases hform : formOf (shapeOf cs) with
  | basic => simpa [quoteList, hform] using string_run_basic double
  | literal => simpa [quoteList, hform] using string_run_literal hform single
  | multilineBasic => simpa [quoteList, hform] using string_run_multilineBasic double
  | multilineLiteral =>
      simpa [quoteList, hform] using string_run_multilineLiteral hform single

end Toml
end BuildStamp
