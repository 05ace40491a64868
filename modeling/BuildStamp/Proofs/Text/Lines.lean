import BuildStamp.Text.Character
import Mathlib.Data.List.TakeWhile

/-!
# Lines — rows of lines, and what trimming leaves of a text

* `Text.splitOn_flatMap` — lines without line feeds are found again;
* `Text.forall_mem_flatMap` — what holds of the characters of all lines, and of the line feed;
* `Text.IsCoreOf` — a text without the blanks at either end of another;
* `Text.isCoreOf_trim` — trimming gives such a text;
* `Text.isBlankText_trim` — which is blank if the whole text is.
-/

namespace BuildStamp
namespace Text

/-- Lines without line feeds are found again. -/
theorem splitOn_flatMap {rows : List (List Char)} (h : ∀ row ∈ rows, '\n' ∉ row) :
    (rows.flatMap (· ++ ['\n'])).splitOn '\n' = rows ++ [[]] := by
  induction rows with
  | nil => rfl
  | cons row rows ih =>
      have hrow : ∀ c ∈ row, (c == '\n') = false := by
        intro c hc
        have hne : c ≠ '\n' := fun heq => h row List.mem_cons_self (heq ▸ hc)
        simpa using hne
      have hrows := ih fun r hr => h r (List.mem_cons_of_mem row hr)
      -- The library cuts a row off in front of a separator, in terms of a predicate only.
      rw [List.splitOn_eq_splitOnP] at hrows ⊢
      rw [List.flatMap_cons, List.append_assoc, List.singleton_append,
        List.splitOnP_append_cons_of_forall_mem hrow '\n' (by decide), hrows, List.cons_append]

theorem forall_mem_flatMap {rows : List (List Char)} {P : Char → Prop}
    (h : ∀ row ∈ rows, ∀ c ∈ row, P c) (hfeed : P '\n') :
    ∀ c ∈ rows.flatMap (· ++ ['\n']), P c := by
  intro c hc
  rcases List.mem_flatMap.1 hc with ⟨row, hrow, hmem⟩
  rcases List.mem_append.1 hmem with hmem | hmem
  · exact h row hrow c hmem
  · rw [List.mem_singleton.1 hmem]
    exact hfeed

/-! ## Trimming -/

/-- What is left of a text when the blanks at both ends are taken off, and nothing else. -/
structure IsCoreOf (core text : String) : Prop where
  split : ∃ front back : List Char, text.toList = front ++ core.toList ++ back ∧
    (∀ c ∈ front, isBlank c = true) ∧ ∀ c ∈ back, isBlank c = true
  first : ∀ c ∈ core.toList.head?, isBlank c = false
  last : ∀ c ∈ core.toList.getLast?, isBlank c = false

theorem isBlank_of_mem_head?_dropWhile {cs : List Char} {c : Char}
    (h : c ∈ (cs.dropWhile isBlank).head?) : isBlank c = false := by
  have hfirst := List.head?_dropWhile_not isBlank cs
  rw [Option.mem_def.1 h] at hfirst
  simpa using hfirst

/-- Trimming takes off the blanks at both ends, and nothing else. -/
theorem isCoreOf_trim (text : String) : IsCoreOf (trim text) text := by
  -- Blanks are taken off the front first, and then off the back of what is left.
  let kept := text.toList.dropWhile isBlank
  let back := (kept.reverse.takeWhile isBlank).reverse
  have hcore : (trim text).toList = (kept.reverse.dropWhile isBlank).reverse := by
    simp [trim, trimList, kept]
  have hkept : kept = (trim text).toList ++ back := by
    calc
      kept = (kept.reverse.takeWhile isBlank ++ kept.reverse.dropWhile isBlank).reverse := by
        rw [List.takeWhile_append_dropWhile, List.reverse_reverse]
      _ = (trim text).toList ++ back := by rw [List.reverse_append, hcore]
  refine ⟨⟨text.toList.takeWhile isBlank, back, ?_, ?_, ?_⟩, ?_, ?_⟩
  · rw [List.append_assoc, ← hkept, List.takeWhile_append_dropWhile]
  · exact fun c hc => List.mem_takeWhile_imp hc
  · exact fun c hc => List.mem_takeWhile_imp (List.mem_reverse.1 hc)
  · intro c hc
    -- What was kept begins with the core, unless that is empty and has no first character.
    have hhead : c ∈ kept.head? := by
      rw [hkept, List.head?_append, Option.mem_def.1 hc]
      rfl
    exact isBlank_of_mem_head?_dropWhile hhead
  · intro c hc
    rw [hcore, List.getLast?_reverse] at hc
    exact isBlank_of_mem_head?_dropWhile hc

/-- A text with a character that is no blank is not blank. -/
theorem isBlankText_of_mem {text : String} {c : Char} (hmem : c ∈ text.toList)
    (hc : isBlank c = false) : isBlankText text = false := by
  unfold isBlankText
  exact List.all_eq_false.2 ⟨c, hmem, by simp [hc]⟩

theorem ne_empty_of_isBlankText {text : String} (h : isBlankText text = false) : text ≠ "" := by
  rintro rfl
  cases h

theorem trim_eq_empty_iff (text : String) : trim text = "" ↔ isBlankText text = true := by
  rw [← String.toList_eq_nil_iff, trim, String.toList_ofList, trimList_eq_nil_iff, isBlankText]

/-- What is trimmed off a text does not matter to whether it is blank. -/
theorem isBlankText_trim (text : String) : isBlankText (trim text) = isBlankText text := by
  cases hblank : isBlankText text with
  | true =>
      rw [(trim_eq_empty_iff text).2 hblank]
      rfl
  | false =>
      -- What is left begins with a character that is no blank.
      have hne : (trim text).toList ≠ [] := by
        rw [ne_eq, String.toList_eq_nil_iff, trim_eq_empty_iff, hblank]
        decide
      rcases List.exists_cons_of_ne_nil hne with ⟨c, rest, hcons⟩
      have hfirst : isBlank c = false := (isCoreOf_trim text).first c (by rw [hcons]; rfl)
      exact isBlankText_of_mem (by rw [hcons]; exact List.mem_cons_self) hfirst

end Text
end BuildStamp
