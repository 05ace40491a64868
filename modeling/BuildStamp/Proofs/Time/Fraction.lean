import BuildStamp.Proofs.Time.Reading
import Mathlib.Data.List.Basic

/-!
# Fraction — when a build time ends in a part of a second

A build time has a point only in front of its fraction, so whatever stands behind a point is the
fraction and says the microseconds within the second that is shown.  The fraction is left out where
the nanoseconds of the clock make no microsecond.

A leap second counts its nanoseconds from one second on, and these are not taken within the second
that is shown.  So in the first microsecond of a leap second the fraction is not left out, although
it says nothing but zeros; in every other instant it is there exactly if it says something.

* `Instant.microsecond` — the microseconds within the second that is shown;
* `Stamp.point_iff` — what stands behind a point;
* `Stamp.fraction_written_iff` — when there is a fraction, and when it is nothing but zeros;
* `Stamp.zeros_written` — the beginning of a leap second.
-/

namespace BuildStamp

/-- The whole microseconds within the second that a clock shows, be it a leap second or not. -/
def Instant.microsecond (i : Instant) : Nat :=
  i.nanoseconds % 1000000000 / 1000

namespace Stamp

/-! ## Points -/

/-- A row of characters that ends in a point and six digits. -/
def HasFraction (cs : List Char) : Prop :=
  ∃ whole ds, cs = whole ++ '.' :: ds ∧ IsFigures 6 ds

theorem not_mem_of_digits {c : Char} {cs : List Char} (h : ∀ d ∈ cs, d.isDigit = true)
    (hc : c.isDigit = false) : c ∉ cs := by
  intro hmem
  exact absurd (h c hmem) (by simp [hc])

theorem point_not_mem_zeroPadded (width n : Nat) : '.' ∉ (Text.zeroPadded width n).toList := by
  unfold Text.zeroPadded
  rw [String.toList_ofList]
  exact not_mem_of_digits (fun d hd => Text.isDigit_of_mem_padLeft hd) rfl

theorem point_not_mem_yearText (year : Int) : '.' ∉ (LocalTime.yearText year).toList := by
  rcases isYear_yearText year with ⟨ds, -, hdigits, hyear⟩
  have hds : '.' ∉ ds := not_mem_of_digits hdigits rfl
  rw [hyear]
  split
  · simp [hds]
  · split <;> simp [hds]

/-- A build time has no point in front of its fraction. -/
theorem exists_whole (t : LocalTime) :
    ∃ whole, '.' ∉ whole ∧
      t.text.toList = whole ++ (LocalTime.fractionText t.nanosecond).toList := by
  refine ⟨(LocalTime.yearText t.date.year).toList ++ '-' ::
      ((Text.zeroPadded 2 t.date.month).toList ++ '-' ::
        ((Text.zeroPadded 2 t.date.day).toList ++ 'T' ::
          ((Text.zeroPadded 2 t.hour).toList ++ ':' ::
            ((Text.zeroPadded 2 t.minute).toList ++ ':' ::
              (Text.zeroPadded 2 (t.second + t.nanosecond / 1000000000)).toList)))), ?_, ?_⟩
  · simp [point_not_mem_yearText, point_not_mem_zeroPadded]
  · rw [toList_text]
    simp

/-! ## Fractions -/

section Instants

variable (offset : Int) (i : Instant)

/-- What stands behind a point is the microseconds within the second, and it is there unless the
nanoseconds make no microsecond. -/
theorem point_iff (ds : List Char) :
    (∃ whole, (i.toLocal offset).text.toList = whole ++ '.' :: ds) ↔
      i.nanoseconds / 1000 ≠ 0 ∧ ds = (Text.zeroPadded 6 i.microsecond).toList := by
  rcases exists_whole (i.toLocal offset) with ⟨whole, hwhole, htext⟩
  have hnanosecond : (i.toLocal offset).nanosecond = i.nanoseconds := rfl
  rw [htext, hnanosecond]
  rcases fractionText_cases i.nanoseconds with ⟨hnone, hfraction⟩ | ⟨hsome, hfraction⟩
  · -- There is no point at all.
    rw [hfraction, List.append_nil]
    constructor
    · rintro ⟨whole', rfl⟩
      simp at hwhole
    · rintro ⟨hsome, -⟩
      exact absurd hnone hsome
  · have hpoint := point_not_mem_zeroPadded 6 i.microsecond
    rw [hfraction, and_iff_right hsome]
    constructor
    · rintro ⟨whole', hsplit⟩
      -- The text is split at its only point.
      exact ((List.append_cons_inj_of_notMem hwhole hpoint).1 hsplit).2.2.symm
    · rintro rfl
      exact ⟨whole, rfl⟩

theorem microsecond_lt : i.microsecond < 10 ^ 6 := by
  unfold Instant.microsecond
  omega

theorem hasFraction_iff :
    HasFraction (i.toLocal offset).text.toList ↔ i.nanoseconds / 1000 ≠ 0 := by
  constructor
  · rintro ⟨whole, ds, htext, -⟩
    exact ((point_iff offset i ds).1 ⟨whole, htext⟩).1
  · intro hsome
    rcases (point_iff offset i _).2 ⟨hsome, rfl⟩ with ⟨whole, htext⟩
    exact ⟨whole, _, htext, isFigures_zeroPadded (by decide) (microsecond_lt i)⟩

/-- Only in the first microsecond of a leap second do the nanoseconds make microseconds of which
none is within the second. -/
theorem microsecond_eq_zero_iff :
    i.microsecond = 0 ↔ i.nanoseconds / 1000 = 0 ∨ i.nanoseconds / 1000 = 1000000 := by
  have hleap := i.leap_at_minute_end
  unfold Instant.microsecond
  omega

theorem zeroPadded_eq_zeros_iff :
    (Text.zeroPadded 6 i.microsecond).toList = "000000".toList ↔ i.microsecond = 0 := by
  constructor
  · intro hzeros
    have hvalue := reads_number (microsecond_lt i) []
    rw [hzeros] at hvalue
    have hzero : (number 5).run ("000000".toList ++ []) = some (0, []) := rfl
    exact (Prod.mk.inj (Option.some.inj (hvalue.symm.trans hzero))).1
  · intro hzero
    rw [hzero]
    rfl

/-- A build time ends in a fraction exactly if the nanoseconds of the clock make a microsecond, and
the fraction says the microseconds within the second.  So it is there exactly if these are not zero,
but in the first microsecond of a leap second; and then, and only then, it is nothing but zeros. -/
theorem fraction_written_iff :
    (HasFraction (i.toLocal offset).text.toList ↔ i.nanoseconds / 1000 ≠ 0) ∧
      (∀ whole ds, (i.toLocal offset).text.toList = whole ++ '.' :: ds →
        ds = (Text.zeroPadded 6 i.microsecond).toList) ∧
      ((HasFraction (i.toLocal offset).text.toList ↔ i.microsecond ≠ 0) ↔
        i.nanoseconds / 1000 ≠ 1000000) ∧
      ((∃ whole, (i.toLocal offset).text.toList = whole ++ ".000000".toList) ↔
        i.nanoseconds / 1000 = 1000000) := by
  have hzero := microsecond_eq_zero_iff i
  refine ⟨hasFraction_iff offset i, ?_, ?_, ?_⟩
  · intro whole ds htext
    exact ((point_iff offset i ds).1 ⟨whole, htext⟩).2
  · rw [hasFraction_iff]
    omega
  · have hzeros : ".000000".toList = '.' :: "000000".toList := rfl
    rw [hzeros, point_iff, eq_comm (a := "000000".toList), zeroPadded_eq_zeros_iff]
    omega

end Instants

/-- The beginning of the leap second at the end of 2016. -/
def leapSecondStart : Instant :=
  ⟨1483228799, 1000000000, .inr ⟨by decide, by decide⟩⟩

/-- There is no microsecond in the second that is shown, and yet it is written, as zeros. -/
theorem zeros_written :
    leapSecondStart.microsecond = 0 ∧
      (leapSecondStart.toLocal 20700).text = "2017-01-01T05:44:60.000000" ∧
      HasFraction (leapSecondStart.toLocal 20700).text.toList ∧
      ¬(HasFraction (leapSecondStart.toLocal 20700).text.toList ↔
        leapSecondStart.microsecond ≠ 0) := by
  have hnone : leapSecondStart.microsecond = 0 := by decide
  have hfraction : HasFraction (leapSecondStart.toLocal 20700).text.toList :=
    (hasFraction_iff 20700 leapSecondStart).2 (by decide)
  refine ⟨hnone, by decide +kernel, hfraction, ?_⟩
  intro h
  exact h.1 hfraction hnone

end Stamp
end BuildStamp
