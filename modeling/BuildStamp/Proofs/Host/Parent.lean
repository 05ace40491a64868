import BuildStamp.Proofs.Host.Join
import Mathlib.Data.List.Induction
import Mathlib.Data.List.TakeWhile

/-!
# Parent — the path above a path

A path that ends in a name has a path above it, with the same components but for the name.  Fillers
at the end, such as a slash or a dot, are not in the way, and the path above is absolute exactly if
the path itself is.

* `Path.segments_ofSegments` — a text is cut where it was put together;
* `Path.onward` — the components that a path adds behind another one;
* `Path.fileName?`, `Path.exists_parent` — the name that a path ends in, and the path above it;
* `FileSystem.exists_parent_of_read` — every file has a path above its own.
-/

namespace BuildStamp
namespace Path

variable {p : Path} {cs first : List Char} {rows rest kept : List (List Char)} {name : String}

/-! ## Segments put together -/

theorem noSlash_of_mem_segments : ∀ s ∈ segments cs, '/' ∉ s := by
  induction cs with
  | nil => simp [segments]
  | cons c cs ih =>
      rcases List.exists_cons_of_ne_nil (segments_ne_nil cs) with ⟨head, tail, hsegments⟩
      simp only [hsegments, List.forall_mem_cons] at ih
      by_cases hc : c = '/'
      · simpa [segments, hc, hsegments] using ih
      · simpa [segments, hc, hsegments, consFirst, Ne.symm hc] using ih

theorem segments_ofSegments (hne : rows ≠ []) (h : ∀ s ∈ rows, '/' ∉ s) :
    segments (ofSegments rows) = rows := by
  induction rows with
  | nil => exact absurd rfl hne
  | cons s rows ih =>
      rcases List.forall_mem_cons.1 h with ⟨hs, hrows⟩
      cases rows with
      | nil => exact segments_of_noSlash hs
      | cons t rows =>
          calc
            segments (s ++ '/' :: ofSegments (t :: rows))
                = segments s ++ segments (ofSegments (t :: rows)) := segments_append _ _
            _ = [s] ++ (t :: rows) := by
                  rw [segments_of_noSlash hs, ih (List.cons_ne_nil _ _) hrows]

/-- A path is absolute if its first segment is empty and not its only one. -/
theorem isAbsolute_iff_of_segments (h : segments p.text.toList = first :: rest) :
    p.isAbsolute = true ↔ first = [] ∧ rest ≠ [] := by
  unfold isAbsolute
  cases htext : p.text.toList with
  | nil =>
      rw [htext] at h
      simp only [segments, List.cons.injEq] at h
      simp [← h.2]
  | cons c cs =>
      rw [htext] at h
      rcases List.exists_cons_of_ne_nil (segments_ne_nil cs) with ⟨head, tail, hsegments⟩
      by_cases hc : c = '/'
      · simp only [segments, hc, hsegments, if_true, List.cons.injEq] at h
        simp [hc, ← h.1, ← h.2]
      · simp only [segments, hc, hsegments, consFirst, if_false, List.cons.injEq] at h
        simp [hc, ← h.1]

/-! ## Fillers at the end -/

theorem dropFillers_concat (rows : List (List Char)) (s : List Char) :
    dropFillers (rows ++ [s]) = if isFiller s then dropFillers rows else rows ++ [s] := by
  cases hs : isFiller s <;> simp [dropFillers, hs]

theorem dropFillers_sublist (rows : List (List Char)) : (dropFillers rows).Sublist rows := by
  have hreversed := (List.dropWhile_sublist (l := rows.reverse) isFiller).reverse
  rwa [List.reverse_reverse] at hreversed

/-- Fillers make no components, so it does not matter whether they are there. -/
theorem filterMap_dropFillers (rows : List (List Char)) :
    (dropFillers rows).filterMap componentOf? = rows.filterMap componentOf? := by
  induction rows using List.reverseRecOn with
  | nil => rfl
  | append_singleton rows s ih =>
      rw [dropFillers_concat]
      cases hs : isFiller s with
      | true =>
          have hnone : componentOf? s = none := by simp [componentOf?, hs]
          simp [ih, hnone]
      | false => simp

theorem dropFillers_eq_nil_or (rows : List (List Char)) :
    dropFillers rows = [] ∨ ∃ kept s, dropFillers rows = kept ++ [s] ∧ isFiller s = false := by
  induction rows using List.reverseRecOn with
  | nil => exact .inl rfl
  | append_singleton rows s ih =>
      rw [dropFillers_concat]
      cases hs : isFiller s with
      | true => exact ih
      | false => exact .inr ⟨rows, s, rfl, hs⟩

/-! ## The path above -/

/-- The components that a path adds when it is seen from another one. -/
def onward (p : Path) : List Component :=
  (segments p.text.toList).filterMap componentOf?

theorem onward_of_segments (h : segments p.text.toList = first :: rest) :
    p.onward = (componentOf? first).toList ++ rest.filterMap componentOf? := by
  unfold onward
  rw [h]
  cases hfirst : componentOf? first <;> simp [hfirst]

/-- The last component, if it is a name. -/
def fileName? (p : Path) : Option String :=
  match p.components.getLast? with
  | some (.name name) => some name
  | _ => none

theorem eq_name_of_fileName? {above : List Component} {c : Component}
    (hname : p.fileName? = some name) (h : p.components = above ++ [c]) : c = .name name := by
  unfold fileName? at hname
  rw [h, List.getLast?_concat] at hname
  cases c <;> simp_all

theorem fileName?_of_components {above : List Component}
    (h : p.components = above ++ [.name name]) : p.fileName? = some name := by
  unfold fileName?
  rw [h, List.getLast?_concat]

/-- A path is the one above another if the other has its components and then a name. -/
structure IsAbove (above p : Path) (name : String) : Prop where
  components : p.components = above.components ++ [.name name]
  onward : p.onward = above.onward ++ [.name name]
  isAbsolute : above.isAbsolute = p.isAbsolute

theorem singleton_eq_concat {c d : Component} {above : List Component} (h : [c] = above ++ [d]) :
    above = [] ∧ c = d := by
  have hboth : [] ++ [c] = above ++ [d] := h
  rcases List.append_inj' hboth rfl with ⟨rfl, hlast⟩
  exact ⟨rfl, List.singleton_inj.1 hlast⟩

/-- Without further segments only a relative path ends in a name, and it is nothing but this. -/
theorem componentOf?_of_leading {absolute : Bool} {above : List Component}
    (h : leading absolute first = above ++ [.name name]) :
    absolute = false ∧ above = [] ∧ componentOf? first = some (.name name) := by
  unfold leading at h
  cases absolute with
  | true => cases (singleton_eq_concat h).2
  | false =>
      by_cases hdot : first = ['.']
      · simp only [hdot, Bool.false_eq_true, if_false, if_true] at h
        cases (singleton_eq_concat h).2
      · simp only [hdot, Bool.false_eq_true, if_false] at h
        cases hfirst : componentOf? first with
        | none => simp [hfirst] at h
        | some c =>
            rw [hfirst] at h
            rcases singleton_eq_concat h with ⟨habove, rfl⟩
            exact ⟨rfl, habove, rfl⟩

section Above

variable (hsegments : segments p.text.toList = first :: rest) (hname : p.fileName? = some name)
include hsegments hname

/-- A path of one relative name is below the empty path. -/
theorem isAbove_empty (hrest : rest.filterMap componentOf? = []) :
    first ≠ [] ∧ p.isAbsolute = false ∧ IsAbove ⟨""⟩ p name := by
  have hcomponents := components_of_segments hsegments
  have honward := onward_of_segments hsegments
  rw [hrest, List.append_nil] at hcomponents honward
  rcases List.eq_nil_or_concat (leading p.isAbsolute first) with hnil | ⟨above, c, hconcat⟩
  · simp [fileName?, hcomponents, hnil] at hname
  rw [List.concat_eq_append] at hconcat
  obtain rfl := eq_name_of_fileName? hname (hcomponents.trans hconcat)
  rcases componentOf?_of_leading hconcat with ⟨hrelative, rfl, hfirst⟩
  refine ⟨?_, hrelative, hcomponents.trans hconcat, ?_, hrelative.symm⟩
  · rintro rfl
    cases hfirst
  · rw [honward, hfirst]
    rfl

/-- A path with a name behind its first segment is below what the segments before the name make. -/
theorem isAbove_of_kept {above : Path} {s : List Char} (hkept : dropFillers rest = kept ++ [s])
    (hs : isFiller s = false)
    (hcomponents : above.components =
      leading p.isAbsolute first ++ kept.filterMap componentOf?)
    (honward : above.onward = (componentOf? first).toList ++ kept.filterMap componentOf?)
    (habsolute : above.isAbsolute = p.isAbsolute) : IsAbove above p name := by
  obtain ⟨c, hc⟩ : ∃ c, componentOf? s = some c := by
    unfold componentOf?
    rw [hs]
    by_cases hparent : s = ['.', '.'] <;> simp [hparent]
  have hrest : rest.filterMap componentOf? = kept.filterMap componentOf? ++ [c] := by
    calc
      rest.filterMap componentOf? = (kept ++ [s]).filterMap componentOf? := by
            rw [← hkept, filterMap_dropFillers]
      _ = kept.filterMap componentOf? ++ [c] := by simp [hc]
  -- The last component is the one that the file name is read off.
  have hbehind : p.components = above.components ++ [c] := by
    rw [components_of_segments hsegments, hrest, hcomponents, List.append_assoc]
  obtain rfl := eq_name_of_fileName? hname hbehind
  refine ⟨hbehind, ?_, habsolute⟩
  rw [onward_of_segments hsegments, hrest, honward, List.append_assoc]

end Above

/-- A path that ends in a name has a path above it. -/
theorem exists_parent (hname : p.fileName? = some name) :
    ∃ above, p.parent? = some above ∧ IsAbove above p name := by
  rcases List.exists_cons_of_ne_nil (segments_ne_nil p.text.toList) with ⟨first, rest, hsegments⟩
  have habsolute := isAbsolute_iff_of_segments hsegments
  unfold parent?
  rw [hsegments]
  -- What is behind the first segment either is filler throughout or has a last segment that counts.
  rcases dropFillers_eq_nil_or rest with hnil | ⟨kept, s, hkept, hs⟩
  · have hrest : rest.filterMap componentOf? = [] := by
      rw [← filterMap_dropFillers, hnil]
      rfl
    rcases isAbove_empty hsegments hname hrest with ⟨hfirst, hrelative, habove⟩
    exact ⟨⟨""⟩, by simp [hnil, hrelative, hfirst], habove⟩
  · have hslash : ∀ s ∈ first :: dropFillers kept, '/' ∉ s := by
      intro t ht
      have hcut : ∀ s ∈ segments p.text.toList, '/' ∉ s := noSlash_of_mem_segments
      refine hcut t ?_
      rw [hsegments]
      rcases List.mem_cons.1 ht with rfl | ht
      · exact List.mem_cons_self
      · have hkept' : t ∈ dropFillers rest :=
          hkept ▸ List.mem_append_left _ ((dropFillers_sublist kept).mem ht)
        exact List.mem_cons_of_mem _ ((dropFillers_sublist rest).mem hkept')
    by_cases hroot : p.isAbsolute = true ∧ dropFillers kept = []
    · -- Nothing is left between the root and the name.
      rcases hroot with ⟨habs, habove⟩
      obtain rfl := (habsolute.1 habs).1
      have hkept' : kept.filterMap componentOf? = [] := by
        rw [← filterMap_dropFillers, habove]
        rfl
      refine ⟨⟨"/"⟩, by simp [hkept, habs, habove], ?_⟩
      refine isAbove_of_kept hsegments hname hkept hs ?_ ?_ habs.symm
      · rw [hkept', habs]
        rfl
      · rw [hkept']
        rfl
    · -- The path above is what is left when the last segment and the fillers before it are cut.
      let above : Path := ⟨String.ofList (ofSegments (first :: dropFillers kept))⟩
      have hcut : segments above.text.toList = first :: dropFillers kept := by
        rw [String.toList_ofList]
        exact segments_ofSegments (List.cons_ne_nil _ _) hslash
      have hsame : above.isAbsolute = p.isAbsolute := by
        rw [Bool.eq_iff_iff, isAbsolute_iff_of_segments hcut, habsolute]
        refine and_congr_right fun hfirst => ?_
        have hrest : rest ≠ [] := by
          rintro rfl
          simp [dropFillers] at hkept
        -- A root with nothing behind it was the case before, so the cut keeps a slash in front.
        have habove : dropFillers kept ≠ [] := fun habove =>
          hroot ⟨habsolute.2 ⟨hfirst, hrest⟩, habove⟩
        exact iff_of_true habove hrest
      refine ⟨above, ?_, isAbove_of_kept hsegments hname hkept hs ?_ ?_ hsame⟩
      · cases habs : p.isAbsolute with
        | true =>
            have habove : dropFillers kept ≠ [] := fun habove => hroot ⟨habs, habove⟩
            simp [hkept, above, habove]
        | false => simp [hkept, above]
      · rw [components_of_segments hcut, hsame, filterMap_dropFillers]
      · rw [onward_of_segments hcut, filterMap_dropFillers]

/-! ## Absolute paths -/

/-- The path above an absolute path is absolute. -/
theorem isAbsolute_of_parent? {above : Path} (hp : p.isAbsolute = true)
    (h : p.parent? = some above) : above.isAbsolute = true := by
  rcases List.exists_cons_of_ne_nil (segments_ne_nil p.text.toList) with ⟨first, rest, hsegments⟩
  obtain ⟨rfl, -⟩ := (isAbsolute_iff_of_segments hsegments).1 hp
  simp only [parent?, hsegments, hp, if_true, Option.ite_none_left_eq_some] at h
  rcases h with ⟨-, habove⟩
  cases hkept : dropFillers (dropFillers rest).dropLast with
  | nil =>
      simp only [hkept, if_true, Option.some.injEq] at habove
      rw [← habove]
      rfl
  | cons second behind =>
      simp only [hkept, reduceCtorEq, if_false, Option.some.injEq] at habove
      rw [← habove]
      simp [isAbsolute, ofSegments]

/-- An absolute path without one above it leads nowhere. -/
theorem fillers_of_parent?_eq_none (hp : p.isAbsolute = true) (h : p.parent? = none) :
    ∀ s ∈ segments p.text.toList, isFiller s = true := by
  rcases List.exists_cons_of_ne_nil (segments_ne_nil p.text.toList) with ⟨first, rest, hsegments⟩
  obtain ⟨rfl, -⟩ := (isAbsolute_iff_of_segments hsegments).1 hp
  have hkept : dropFillers rest = [] := by
    by_contra hne
    simp only [parent?, hsegments, hp, if_true, hne, if_false] at h
    split at h <;> cases h
  rw [hsegments]
  refine List.forall_mem_cons.2 ⟨rfl, ?_⟩
  simpa [dropFillers, List.dropWhile_eq_nil_iff] using hkept

end Path

namespace FileSystem

/-- An absolute path that a file is read from has a path above it, for it is not the root. -/
theorem exists_parent_of_read {fs : FileSystem} {cwd : Place} {p : Path} {content : ByteArray}
    (hp : p.isAbsolute = true) (h : fs.read cwd p = .ok content) :
    ∃ above, p.parent? = some above ∧ above.isAbsolute = true := by
  cases hparent : p.parent? with
  | some above => exact ⟨above, rfl, Path.isAbsolute_of_parent? hp hparent⟩
  | none =>
      -- All segments are fillers then, so the path leads to the root, which is no file.
      rcases bind_eq_ok_iff.1 h with ⟨place, hresolve, hnode⟩
      rcases bind_eq_ok_iff.1 hresolve with ⟨-, -, hsteps⟩
      have hstart : startOf cwd p = [] := by simp [startOf, hp]
      have hroot := eq_of_fillers (Path.fillers_of_parent?_eq_none hp hparent) hsteps
      obtain rfl : place = [] := hroot.symm.trans hstart
      cases hnode

end FileSystem
end BuildStamp
