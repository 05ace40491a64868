import BuildStamp.Text.Reader

/-!
# Reader — what readers make of texts

A writer and a reader fit if the reader takes back what was written and leaves alone what stands
behind it.  This module states that for one reader and carries it over to rows.  What a combination
of readers gives at all is known from what the readers give, whatever the text is.

* `Reader.Reads` — a reader takes a text back, whatever stands behind it;
* `Reader.Reads.both`, `Reader.Reads.before`, `Reader.Reads.after` — one text behind another;
* `Reader.many_flatMap` — a row of such texts is taken back as a row;
* `Reader.toEnd?_flatMap` — the same for a whole text;
* `Reader.Yields` — all that a reader can give has a property;
* `Reader.Yields.many`, `Reader.Yields.separated`, `Reader.Yields.toEnd?` — the same for rows.
-/

namespace BuildStamp
namespace Text
namespace Reader

variable {α β γ : Type}

/-! ## Runs of combinations -/

@[simp] theorem run_char_cons (p : Char → Bool) (c : Char) (s : List Char) :
    (char p).run (c :: s) = if p c then some (c, s) else none := rfl

@[simp] theorem run_word (c : Char) (cs s : List Char) :
    (word c cs).run s = (afterPrefix? (c :: cs) s).map ((), ·) := rfl

@[simp] theorem run_exactly (c : Char) (s : List Char) :
    (exactly c).run s = (afterPrefix? [c] s).map ((), ·) := rfl

@[simp] theorem run_filterMap (r : Reader α) (f : α → Option β) (s : List Char) :
    (r.filterMap f).run s = (r.run s).bind fun (a, rest) => (f a).map (·, rest) := rfl

@[simp] theorem run_map (r : Reader α) (f : α → β) (s : List Char) :
    (r.map f).run s = (r.run s).map fun (a, rest) => (f a, rest) := by
  cases h : r.run s <;> simp [map, h]

@[simp] theorem run_andThen (r : Reader α) (next : α → Reader β) (s : List Char) :
    (r.andThen next).run s = (r.run s).bind fun (a, rest) => (next a).run rest := rfl

@[simp] theorem run_both (r : Reader α) (next : Reader β) (s : List Char) :
    (r.both next).run s =
      (r.run s).bind fun (a, rest) => (next.run rest).map fun (b, rest') => ((a, b), rest') := by
  simp [both]

@[simp] theorem run_before (r : Reader α) (next : Reader β) (s : List Char) :
    (r.before next).run s =
      (r.run s).bind fun (a, rest) => (next.run rest).map fun (_, rest') => (a, rest') := by
  simp [before]

@[simp] theorem run_after (first : Reader β) (r : Reader α) (s : List Char) :
    (first.after r).run s = (first.run s).bind fun (_, rest) => r.run rest := rfl

@[simp] theorem run_orElse (r other : Reader α) (s : List Char) :
    (r.orElse other).run s = (r.run s).or (other.run s) := rfl

@[simp] theorem run_maybeAfter (first : Reader β) (r : Reader α) (s : List Char) :
    (maybeAfter first r).run s =
      ((first.run s).bind fun (b, rest) =>
        (r.run rest).map fun (a, rest') => ((some b, a), rest')).or
        ((r.run s).map fun (a, rest) => ((none, a), rest)) := by
  simp [maybeAfter]

@[simp] theorem run_skip (r : Reader α) (gap : Skip) (s : List Char) :
    (r.skip gap).run s = (r.run s).map fun (a, rest) => (a, gap.run rest) := rfl

@[simp] theorem run_behind (gap : Skip) (r : Reader α) (s : List Char) :
    (behind gap r).run s = r.run (gap.run s) := rfl

@[simp] theorem run_thenMany (r : Reader α) (next : Reader β) (s : List Char) :
    (r.thenMany next).run s =
      (r.run s).map fun (a, rest) => ((a, (next.many rest).1), (next.many rest).2) := rfl

theorem run_thenMaybe_none {r : Reader α} {next : Reader β} {s rest : List Char} {a : α}
    (hr : r.run s = some (a, rest)) (hn : next.run rest = none) :
    (r.thenMaybe next).run s = some ((a, none), rest) := by
  simp [thenMaybe, hr, hn]

theorem run_thenMaybe_some {r : Reader α} {next : Reader β} {s mid rest : List Char} {a : α} {b : β}
    (hr : r.run s = some (a, mid)) (hn : next.run mid = some (b, rest)) :
    (r.thenMaybe next).run s = some ((a, some b), rest) := by
  simp [thenMaybe, hr, hn]

theorem run_thenMaybe_of_none {r : Reader α} {next : Reader β} {s : List Char}
    (hr : r.run s = none) : (r.thenMaybe next).run s = none := by
  simp [thenMaybe, hr]

/-- One thing that no separator follows makes a row of its own. -/
theorem run_separated_single {r : Reader α} {separator : Reader β} {s rest : List Char} {a : α}
    (hr : r.run s = some (a, rest)) (hs : separator.run rest = none) :
    (separated r separator).run s = some ([a], rest) := by
  have hmany : (separator.after r).many rest = ([], rest) := many_none (by simp [hs])
  simp [separated, hr, hmany]

/-- Every reader takes a character, so nothing is read from an empty text. -/
theorem run_nil (r : Reader α) : r.run [] = none := by
  cases h : r.run [] with
  | none => rfl
  | some found => exact absurd (r.shorter h) (Nat.not_lt_zero _)

theorem skipMany_run_of_none {r : Reader α} {s : List Char} (h : r.run s = none) :
    (skipMany r).run s = s := by
  simp [skipMany, many_none h]

/-! ## Texts that are read back -/

/-- The reader takes `written` for `a`, whatever stands behind it. -/
def Reads (r : Reader α) (written : List Char) (a : α) : Prop :=
  ∀ rest : List Char, r.run (written ++ rest) = some (a, rest)

section Reads

variable {r : Reader α} {next : Reader β} {s t : List Char} {a : α} {b : β}

theorem Reads.both (h : r.Reads s a) (hnext : next.Reads t b) :
    (r.both next).Reads (s ++ t) (a, b) := by
  intro rest
  simp only [List.append_assoc, run_both, h (t ++ rest), Option.bind_some, hnext rest,
    Option.map_some]

theorem Reads.before (h : r.Reads s a) (hnext : next.Reads t b) :
    (r.before next).Reads (s ++ t) a := by
  intro rest
  simp only [List.append_assoc, run_before, h (t ++ rest), Option.bind_some, hnext rest,
    Option.map_some]

theorem Reads.after (h : r.Reads s a) (hnext : next.Reads t b) :
    (r.after next).Reads (s ++ t) b := by
  intro rest
  simp only [List.append_assoc, run_after, h (t ++ rest), Option.bind_some, hnext rest]

end Reads

theorem reads_exactly (c : Char) : (exactly c).Reads [c] () := by
  intro rest
  simp [afterPrefix?]

/-- A row of texts that are read back one by one is read back as a row, if what stands behind it
cannot be read. -/
theorem many_flatMap {r : Reader α} {written : γ → List Char} {value : γ → α} {xs : List γ}
    (h : ∀ x ∈ xs, r.Reads (written x) (value x)) {rest : List Char} (hrest : r.run rest = none) :
    r.many (xs.flatMap written ++ rest) = (xs.map value, rest) := by
  induction xs with
  | nil => exact many_none hrest
  | cons x xs ih =>
      have hx : r.run (written x ++ (xs.flatMap written ++ rest)) =
          some (value x, xs.flatMap written ++ rest) :=
        h x List.mem_cons_self _
      have htail := ih fun y hy => h y (List.mem_cons_of_mem x hy)
      rw [List.flatMap_cons, List.append_assoc, many_some hx, htail, List.map_cons]

theorem many_chars {r : Reader Char} {cs : List Char} (h : ∀ c ∈ cs, r.Reads [c] c)
    {rest : List Char} (hrest : r.run rest = none) : r.many (cs ++ rest) = (cs, rest) := by
  have hmany : r.many (cs.flatMap (fun c => [c]) ++ rest) = (cs.map id, rest) :=
    many_flatMap h hrest
  simpa using hmany

/-- A row with separators is read back item by item, if no further item stands behind it. -/
theorem run_separated_flatMap {r : Reader α} {separator : Reader β} {first : List Char} {a : α}
    (hfirst : r.Reads first a) {written : γ → List Char} {value : γ → α} {xs : List γ}
    (h : ∀ x ∈ xs, (separator.after r).Reads (written x) (value x)) {rest : List Char}
    (hrest : (separator.after r).run rest = none) :
    (separated r separator).run (first ++ (xs.flatMap written ++ rest)) =
      some (a :: xs.map value, rest) := by
  have hmany := many_flatMap h hrest
  have hread := hfirst (xs.flatMap written ++ rest)
  simp only [separated, run_map, run_thenMany, hread, Option.map_some, hmany]

/-- A whole text that is a row of readable texts. -/
theorem toEnd?_flatMap {r : Reader α} {gap : Skip} {written : γ → List Char} {value : γ → α}
    {xs : List γ} (h : ∀ x ∈ xs, (behind gap r).Reads (written x) (value x)) :
    toEnd? gap r (xs.flatMap written) = some (xs.map value) := by
  have hmany : (behind gap r).many (xs.flatMap written ++ []) = (xs.map value, []) :=
    many_flatMap h (run_nil _)
  -- A gap never makes a text longer, so it leaves an empty one as it is.
  have hgap : gap.run [] = [] := List.length_eq_zero_iff.1 (Nat.le_zero.1 (gap.noLonger []))
  rw [List.append_nil] at hmany
  simp [toEnd?, hmany, hgap]

/-! ## What can be read at all -/

variable {P : α → Prop} {Q : β → Prop}

/-- All that is read has a property. -/
def Yields (r : Reader α) (P : α → Prop) : Prop :=
  ∀ s a rest, r.run s = some (a, rest) → P a

theorem yields_true (r : Reader α) : r.Yields fun _ => True :=
  fun _ _ _ _ => trivial

namespace Yields

variable {r other : Reader α} {next : Reader β}

/-! ## Combinations -/

theorem filterMap (h : r.Yields P) {f : α → Option β} (hf : ∀ a b, P a → f a = some b → Q b) :
    (r.filterMap f).Yields Q := by
  intro s b rest hrun
  simp only [run_filterMap, Option.bind_eq_some_iff, Option.map_eq_some_iff, Prod.mk.injEq] at hrun
  obtain ⟨⟨a, mid⟩, hr, b', hfa, rfl, -⟩ := hrun
  exact hf a b' (h s a mid hr) hfa

theorem map (h : r.Yields P) {f : α → β} (hf : ∀ a, P a → Q (f a)) : (r.map f).Yields Q := by
  refine filterMap h ?_
  rintro a b ha hb
  obtain rfl := Option.some.inj hb
  exact hf a ha

theorem andThen (h : r.Yields P) {next : α → Reader β} (hnext : ∀ a, P a → (next a).Yields Q) :
    (r.andThen next).Yields Q := by
  intro s b rest hrun
  simp only [run_andThen, Option.bind_eq_some_iff] at hrun
  obtain ⟨⟨a, mid⟩, hr, hn⟩ := hrun
  exact hnext a (h s a mid hr) mid b rest hn

theorem both (h : r.Yields P) (hnext : next.Yields Q) :
    (r.both next).Yields fun x => P x.1 ∧ Q x.2 :=
  h.andThen fun _ ha => hnext.map fun _ hb => ⟨ha, hb⟩

theorem before (h : r.Yields P) (next : Reader β) : (r.before next).Yields P :=
  h.andThen fun _ ha => next.yields_true.map fun _ _ => ha

theorem after (hnext : next.Yields Q) (first : Reader α) : (first.after next).Yields Q :=
  first.yields_true.andThen fun _ _ => hnext

theorem orElse (h : r.Yields P) (hother : other.Yields P) : (r.orElse other).Yields P := by
  intro s a rest hrun
  rw [run_orElse, Option.or_eq_some_iff] at hrun
  rcases hrun with hfirst | ⟨-, hsecond⟩
  · exact h s a rest hfirst
  · exact hother s a rest hsecond

theorem thenMaybe (h : r.Yields P) (next : Reader β) :
    (r.thenMaybe next).Yields fun x => P x.1 := by
  rintro s ⟨a, b⟩ rest hrun
  cases hr : r.run s with
  | none =>
      rw [run_thenMaybe_of_none hr] at hrun
      cases hrun
  | some found =>
      obtain ⟨a', mid⟩ := found
      have ha := h s a' mid hr
      cases hn : next.run mid with
      | none => simp_all [Reader.thenMaybe]
      | some found' => simp_all [Reader.thenMaybe]

theorem skip (h : r.Yields P) (gap : Skip) : (r.skip gap).Yields P := by
  intro s a rest hrun
  simp only [run_skip, Option.map_eq_some_iff, Prod.mk.injEq] at hrun
  obtain ⟨⟨a', mid⟩, hr, rfl, -⟩ := hrun
  exact h s a' mid hr

theorem behind (h : r.Yields P) (gap : Skip) : (behind gap r).Yields P :=
  fun s a rest hrun => h (gap.run s) a rest hrun

/-! ## Rows -/

theorem many (h : r.Yields P) (s : List Char) : ∀ a ∈ (r.many s).1, P a := by
  fun_induction Reader.many r s with
  | case1 s hr => simp
  | case2 s a rest hr as rest' hmany ih =>
      rw [hmany] at ih
      exact List.forall_mem_cons.2 ⟨h s a rest hr, ih⟩

theorem separated (h : r.Yields P) (separator : Reader β) :
    (separated r separator).Yields fun as => ∀ a ∈ as, P a := by
  have hrow : (r.thenMany (separator.after r)).Yields fun x => P x.1 ∧ ∀ a ∈ x.2, P a := by
    rintro s ⟨a, as⟩ rest hrun
    simp only [run_thenMany, Option.map_eq_some_iff, Prod.mk.injEq] at hrun
    obtain ⟨⟨a', mid⟩, hr, ⟨rfl, rfl⟩, -⟩ := hrun
    exact ⟨h s a' mid hr, (h.after separator).many mid⟩
  exact hrow.map fun x hx => List.forall_mem_cons.2 hx

theorem toEnd? (h : r.Yields P) {gap : Skip} {s : List Char} {as : List α}
    (hrun : toEnd? gap r s = some as) : ∀ a ∈ as, P a := by
  have hmany := (h.behind gap).many s
  unfold Reader.toEnd? at hrun
  simp only [Option.ite_none_right_eq_some, Option.some.injEq] at hrun
  obtain ⟨-, rfl⟩ := hrun
  exact hmany

end Yields
end Reader
end Text
end BuildStamp
