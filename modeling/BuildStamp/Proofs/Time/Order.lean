import BuildStamp.Proofs.Text.Order
import BuildStamp.Proofs.Time.Reading

/-!
# Order — build times sort as texts

The fields of a build time come in the order of their weight, each with a fixed number of digits, so
that the first field in which two build times differ decides, in the texts as in time.  The dates
are in the order of their numbers, and the time of a day is a number with mixed bases.  The fraction
is the last field: one that is left out is none at all, and its text comes before all others.

In a leap second the fraction is always written, as no other second 60 is there to compare with.
This takes clocks whose minutes are those of UTC.  Where they are not, a leap second is shown like
the second behind it, and the two do not sort.  It also takes one offset for both instants: a clock
that is set back shows some hours twice.

* `Date.compare_dayNumber` — dates and their numbers;
* `Stamp.compare_text` — the texts of build times, field by field;
* `Instant.order`, `Stamp.order_eq` — instants up to the microsecond, field by field;
* `Stamp.text_sorts` — the two orders are the same;
* `Stamp.exists_text_eq` — but on clocks with odd seconds;
* `Stamp.not_sorts` — nor on clocks that are set back.
-/

namespace BuildStamp

/-! ## Dates -/

namespace Date

/-- Dates are compared by their years, then by their months, then by their days. -/
def order (d e : Date) : Ordering :=
  (compare d.year e.year).then ((compare d.month e.month).then (compare d.day e.day))

variable {d e : Date}

theorem order_swap (d e : Date) : (d.order e).swap = e.order d := by
  unfold order
  rw [Ordering.swap_then, Ordering.swap_then, ← Std.OrientedOrd.eq_swap,
    ← Std.OrientedOrd.eq_swap, ← Std.OrientedOrd.eq_swap]

theorem order_eq_lt_iff :
    d.order e = .lt ↔ d.year < e.year ∨
      d.year = e.year ∧ (d.month < e.month ∨ d.month = e.month ∧ d.day < e.day) := by
  unfold order
  rw [Ordering.then_eq_lt, Ordering.then_eq_lt, Int.compare_eq_lt, Nat.compare_eq_lt,
    Nat.compare_eq_lt, Std.compare_eq_iff_eq, Nat.compare_eq_eq]

theorem eq_of_order (h : d.order e = .eq) : d = e := by
  unfold order at h
  rw [Ordering.then_eq_eq, Ordering.then_eq_eq, Std.compare_eq_iff_eq, Nat.compare_eq_eq,
    Nat.compare_eq_eq] at h
  rcases d with ⟨year, month, day⟩
  rcases e with ⟨year', month', day'⟩
  rcases h with ⟨rfl, rfl, rfl⟩
  rfl

section March

variable {year year' : Int} {month month' day day' : Nat}

/-- The months of a March-based year that belong to the next year are its last ones. -/
theorem marchOrder_of_order (hmonth : month ≤ 11) (hmonth' : month' ≤ 11)
    (h : (ofMarch year month day).order (ofMarch year' month' day') = .lt) :
    year < year' ∨ year = year' ∧ (month < month' ∨ month = month' ∧ day < day') := by
  rw [order_eq_lt_iff] at h
  unfold ofMarch at h
  dsimp only at h
  split at h <;> split at h <;> omega

theorem marchFirst_le (h : year ≤ year') : marchFirst year ≤ marchFirst year' := by
  obtain ⟨count, rfl⟩ := Int.le.dest h
  clear h
  induction count with
  | zero => exact Int.le_of_eq (by simp)
  | succ count ih =>
      have hnext := marchFirst_add_one (year + count)
      have hsum : year + ((count + 1 : Nat) : Int) = year + count + 1 := by omega
      rw [hsum, hnext]
      split <;> omega

/-- A month ends before the next one begins, and the last one before the next year. -/
theorem monthStart_add_lt (hmonth : month ≤ 11) (hday : day < monthLength year month) :
    (∀ later, month < later → monthStart month + day < monthStart later) ∧
      marchFirst year + monthStart month + day < marchFirst (year + 1) := by
  have hnext := marchFirst_add_one year
  have hbegin : monthStart 11 = 337 := rfl
  unfold monthLength at hday
  -- Only February depends on the year, and it is the last month.
  by_cases hlast : month = 11
  · subst hlast
    rw [if_pos rfl] at hday
    refine ⟨?_, ?_⟩
    · intro later hlater
      have hbeyond : 367 ≤ monthStart later := by
        unfold monthStart
        omega
      split at hday <;> omega
    · rw [hnext]
      split at hday
      · rename_i hleap
        rw [if_pos hleap]
        omega
      · split <;> omega
  · rw [if_neg hlast] at hday
    have hend : monthStart (month + 1) ≤ 337 := by
      unfold monthStart
      omega
    refine ⟨?_, ?_⟩
    · intro later hlater
      have hstart : monthStart (month + 1) ≤ monthStart later := by
        unfold monthStart
        omega
      omega
    · rw [hnext]
      split <;> omega

theorem dayNumber_lt_of_marchOrder (hmonth : month ≤ 11) (hday : day < monthLength year month)
    (h : year < year' ∨ year = year' ∧ (month < month' ∨ month = month' ∧ day < day')) :
    marchFirst year + monthStart month + day < marchFirst year' + monthStart month' + day' := by
  have hbounds := monthStart_add_lt hmonth hday
  rcases h with hyear | ⟨rfl, hmonth | ⟨rfl, hday⟩⟩
  · have hyears := marchFirst_le (Int.add_one_le_of_lt hyear)
    have hlast := hbounds.2
    omega
  · have hmonths := hbounds.1 month' hmonth
    omega
  · omega

end March

theorem dayNumber_lt_of_order (hd : d.isValid = true) (he : e.isValid = true)
    (h : d.order e = .lt) : d.dayNumber < e.dayNumber := by
  rcases exists_ofMarch hd with ⟨year, month, day, hmonth, rfl⟩
  rcases exists_ofMarch he with ⟨year', month', day', hmonth', rfl⟩
  have hday := (isValid_ofMarch_iff hmonth year day).1 hd
  rw [dayNumber_ofMarch hmonth, dayNumber_ofMarch hmonth']
  exact dayNumber_lt_of_marchOrder hmonth hday (marchOrder_of_order hmonth hmonth' h)

/-- The dates of the calendar are in the order of their numbers. -/
theorem compare_dayNumber (hd : d.isValid = true) (he : e.isValid = true) :
    compare d.dayNumber e.dayNumber = d.order e := by
  apply Text.compare_eq_of
  · exact dayNumber_lt_of_order hd he
  · intro h
    rw [eq_of_order h]
  · intro h
    apply dayNumber_lt_of_order he hd
    rw [← order_swap, h]
    rfl

theorem order_ofDayNumber (m n : Int) : (ofDayNumber m).order (ofDayNumber n) = compare m n := by
  rw [← compare_dayNumber (isValid_ofDayNumber m) (isValid_ofDayNumber n), dayNumber_ofDayNumber,
    dayNumber_ofDayNumber]

end Date

/-! ## Texts -/

namespace Stamp

/-- A row of figures decides before what stands behind it. -/
theorem compare_zeroPadded_append {width m n : Nat} (hwidth : 0 < width) (hm : m < 10 ^ width)
    (hn : n < 10 ^ width) (xs ys : List Char) :
    compare ((Text.zeroPadded width m).toList ++ xs) ((Text.zeroPadded width n).toList ++ ys) =
      (compare m n).then (compare xs ys) := by
  have hm := isFigures_zeroPadded hwidth hm
  have hn := isFigures_zeroPadded hwidth hn
  have hlength := hm.length_eq.trans hn.length_eq.symm
  have hvalue (n : Nat) : Nat.ofDigitChars 10 (Text.zeroPadded width n).toList 0 = n := by
    unfold Text.zeroPadded
    rw [String.toList_ofList, Text.ofDigitChars_padLeft]
  rw [Text.compare_append hlength, Text.compare_digits hlength hm.digits hn.digits, hvalue, hvalue]

theorem compare_cons (c : Char) (xs ys : List Char) :
    compare (c :: xs) (c :: ys) = compare xs ys := by
  rw [List.compare_cons_cons, Std.compare_self]
  rfl

/-- A year of four digits. -/
def IsShort (t : LocalTime) : Prop :=
  0 ≤ t.date.year ∧ t.date.year ≤ 9999

theorem compare_yearText_append {t u : LocalTime} (ht : IsShort t) (hu : IsShort u)
    (xs ys : List Char) :
    compare ((LocalTime.yearText t.date.year).toList ++ xs)
        ((LocalTime.yearText u.date.year).toList ++ ys) =
      (compare t.date.year u.date.year).then (compare xs ys) := by
  have hshort {t : LocalTime} (ht : IsShort t) :
      LocalTime.yearText t.date.year = Text.zeroPadded 4 t.date.year.natAbs ∧
        (t.date.year.natAbs : Int) = t.date.year ∧ t.date.year.natAbs < 10 ^ 4 := by
    rcases ht with ⟨hlow, hhigh⟩
    refine ⟨?_, by omega, by omega⟩
    unfold LocalTime.yearText
    rw [if_neg (Int.not_lt.2 hlow), if_neg (Int.not_lt.2 hhigh)]
  rcases hshort ht with ⟨htext, hyear, hsmall⟩
  rcases hshort hu with ⟨htext', hyear', hsmall'⟩
  rw [htext, htext', compare_zeroPadded_append (by decide) hsmall hsmall', ← Text.compare_natCast,
    hyear, hyear']

/-- The second that a build time shows, in a leap second the one behind that of the clock. -/
def shownSecond (t : LocalTime) : Nat :=
  t.second + t.nanosecond / 1000000000

/-- Build times are compared field by field, and in the end by their fractions. -/
theorem compare_text {t u : LocalTime} (ht : Fits t) (hu : Fits u) (hyt : IsShort t)
    (hyu : IsShort u) :
    compare t.text u.text =
      (t.date.order u.date).then ((compare t.hour u.hour).then ((compare t.minute u.minute).then
        ((compare (shownSecond t) (shownSecond u)).then
          (compare (LocalTime.fractionText t.nanosecond).toList
            (LocalTime.fractionText u.nanosecond).toList)))) := by
  have hpair {m n : Nat} (hm : m < 100) (hn : n < 100) :=
    compare_zeroPadded_append (by decide : 0 < 2) hm hn
  rw [Text.compare_toList, toList_text, toList_text, compare_yearText_append hyt hyu, compare_cons,
    hpair ht.month hu.month, compare_cons, hpair ht.day hu.day, compare_cons,
    hpair ht.hour hu.hour, compare_cons, hpair ht.minute hu.minute, compare_cons,
    hpair ht.second hu.second]
  simp only [Date.order, Ordering.then_assoc, shownSecond]

/-- Within one second fractions are compared like their microseconds, and a fraction that is left
out comes before all others. -/
theorem compare_fractionText {m n : Nat} (h : m / 1000000000 = n / 1000000000) :
    compare (LocalTime.fractionText m).toList (LocalTime.fractionText n).toList =
      compare (m / 1000) (n / 1000) := by
  rcases fractionText_cases m with ⟨hm, hmtext⟩ | ⟨hm, hmtext⟩
  · rcases fractionText_cases n with ⟨hn, hntext⟩ | ⟨hn, hntext⟩
    · rw [hmtext, hntext, hm, hn]
      rfl
    · -- A text that ends sorts before one that goes on.
      rw [hmtext, hntext, hm, Nat.compare_eq_lt.2 (Nat.pos_of_ne_zero hn)]
      rfl
  · rcases fractionText_cases n with ⟨hn, hntext⟩ | ⟨hn, hntext⟩
    · rw [hmtext, hntext, hn, Nat.compare_eq_gt.2 (Nat.pos_of_ne_zero hm)]
      rfl
    · -- Both fractions are written, and six digits compare as the numbers they stand for.
      have hsplit (n : Nat) :
          n / 1000 = n / 1000000000 * 1000000 + n % 1000000000 / 1000 := by omega
      have hsmall (n : Nat) : n % 1000000000 / 1000 < 1000000 := by omega
      have hfigures := compare_zeroPadded_append (by decide : 0 < 6) (hsmall m) (hsmall n) [] []
      rw [hmtext, hntext, List.singleton_append, List.singleton_append, compare_cons, hsplit m,
        hsplit n, h, Text.compare_mul_add_nat (hsmall m) (hsmall n), Nat.compare_eq_eq.2 rfl]
      simpa using hfigures

end Stamp

/-! ## Instants -/

/-- Instants are compared by their seconds, then by their nanoseconds, of which only the whole
microseconds count.  In a leap second these go on from one second. -/
def Instant.order (i j : Instant) : Ordering :=
  (compare i.seconds j.seconds).then (compare (i.nanoseconds / 1000) (j.nanoseconds / 1000))

namespace Stamp

variable {offset : Int} {i j : Instant}

section Fields

/-- The time of a day is a number whose digits are hours, minutes and seconds. -/
theorem compare_ofDay (m n : Nat) :
    compare m n = (compare (m / 3600) (n / 3600)).then
      ((compare (m / 60 % 60) (n / 60 % 60)).then (compare (m % 60) (n % 60))) := by
  have hsplit (n : Nat) : n = n / 3600 * 3600 + (n / 60 % 60 * 60 + n % 60) := by omega
  have hofHour (n : Nat) : n / 60 % 60 * 60 + n % 60 < 3600 := by omega
  have hofMinute (n : Nat) : n % 60 < 60 := Nat.mod_lt n (by decide)
  calc
    compare m n = compare (m / 3600 * 3600 + (m / 60 % 60 * 60 + m % 60))
          (n / 3600 * 3600 + (n / 60 % 60 * 60 + n % 60)) := by rw [← hsplit, ← hsplit]
    _ = (compare (m / 3600) (n / 3600)).then
          (compare (m / 60 % 60 * 60 + m % 60) (n / 60 % 60 * 60 + n % 60)) :=
        Text.compare_mul_add_nat (hofHour m) (hofHour n) _ _
    _ = _ := by rw [Text.compare_mul_add_nat (hofMinute m) (hofMinute n)]

/-- The seconds of instants are in the order of the dates and of the times of the day that a clock
shows. -/
theorem compare_seconds (offset : Int) (i j : Instant) :
    compare i.seconds j.seconds =
      ((i.toLocal offset).date.order (j.toLocal offset).date).then
        ((compare (i.toLocal offset).hour (j.toLocal offset).hour).then
          ((compare (i.toLocal offset).minute (j.toLocal offset).minute).then
            (compare (i.toLocal offset).second (j.toLocal offset).second))) := by
  rcases exists_ofDay offset i with ⟨ofDay, hofDay, hsplit, hhour, hminute, hsecond⟩
  rcases exists_ofDay offset j with ⟨ofDay', hofDay', hsplit', hhour', hminute', hsecond'⟩
  have hdates : (i.toLocal offset).date.order (j.toLocal offset).date =
      compare ((i.seconds + offset) / secondsPerDay) ((j.seconds + offset) / secondsPerDay) :=
    Date.order_ofDayNumber _ _
  rw [← Text.compare_add_right _ _ offset, hsplit, hsplit', hdates, hhour, hhour', hminute,
    hminute', hsecond, hsecond', ← compare_ofDay]
  exact Text.compare_mul_add hofDay hofDay' _ _

/-- What a clock shows whose minutes end with those of UTC: a leap second ends a minute. -/
structure IsAligned (t : LocalTime) : Prop where
  second : t.second < 60
  nanosecond : t.nanosecond < 2000000000
  leap : 1000000000 ≤ t.nanosecond → t.second = 59

theorem isAligned_toLocal (h : offset % 60 = 0 ∨ i.nanoseconds < 1000000000) :
    IsAligned (i.toLocal offset) := by
  have hnanosecond : (i.toLocal offset).nanosecond = i.nanoseconds := rfl
  refine ⟨Nat.mod_lt _ (by decide), ?_, ?_⟩
  · have hleap := i.leap_at_minute_end
    omega
  · intro hleap
    rw [hnanosecond] at hleap
    exact (second_of_leap offset i hleap (h.resolve_right (Nat.not_lt.2 hleap))).1

variable {t u : LocalTime}

/-- The second 60 is that of a leap second. -/
theorem IsAligned.second_eq (ht : IsAligned t) (hu : IsAligned u)
    (h : shownSecond t = shownSecond u) :
    t.second = u.second ∧ t.nanosecond / 1000000000 = u.nanosecond / 1000000000 := by
  rcases ht with ⟨hsecond, hnanosecond, hleap⟩
  rcases hu with ⟨hsecond', hnanosecond', hleap'⟩
  unfold shownSecond at h
  omega

theorem IsAligned.lt_of_shownSecond (ht : IsAligned t) (hu : IsAligned u)
    (h : shownSecond t < shownSecond u) :
    t.second < u.second ∨ t.second = u.second ∧ t.nanosecond / 1000 < u.nanosecond / 1000 := by
  rcases ht with ⟨hsecond, hnanosecond, hleap⟩
  rcases hu with ⟨hsecond', hnanosecond', hleap'⟩
  unfold shownSecond at h
  omega

/-- It does not matter whether a leap second counts as a part of the second before it or as the
second 60. -/
theorem IsAligned.compare_shownSecond (ht : IsAligned t) (hu : IsAligned u) :
    (compare (shownSecond t) (shownSecond u)).then
        (compare (t.nanosecond / 1000) (u.nanosecond / 1000)) =
      (compare t.second u.second).then
        (compare (t.nanosecond / 1000) (u.nanosecond / 1000)) := by
  rcases Nat.lt_trichotomy (shownSecond t) (shownSecond u) with hless | hequal | hgreater
  · have hlt := ht.lt_of_shownSecond hu hless
    rw [Nat.compare_eq_lt.2 hless, Ordering.lt_then, eq_comm, Ordering.then_eq_lt,
      Nat.compare_eq_lt, Nat.compare_eq_eq, Nat.compare_eq_lt]
    exact hlt
  · rw [(ht.second_eq hu hequal).1, hequal, Nat.compare_eq_eq.2 rfl, Nat.compare_eq_eq.2 rfl]
  · have hlt := hu.lt_of_shownSecond ht hgreater
    rw [Nat.compare_eq_gt.2 hgreater, Ordering.gt_then, eq_comm, Ordering.then_eq_gt,
      Nat.compare_eq_gt, Nat.compare_eq_eq, Nat.compare_eq_gt]
    exact hlt.imp_right fun h => ⟨h.1.symm, h.2⟩

/-- The order of instants, field by field. -/
theorem order_eq (hi : IsAligned (i.toLocal offset)) (hj : IsAligned (j.toLocal offset)) :
    i.order j =
      ((i.toLocal offset).date.order (j.toLocal offset).date).then
        ((compare (i.toLocal offset).hour (j.toLocal offset).hour).then
          ((compare (i.toLocal offset).minute (j.toLocal offset).minute).then
            ((compare (shownSecond (i.toLocal offset)) (shownSecond (j.toLocal offset))).then
              (compare (i.nanoseconds / 1000) (j.nanoseconds / 1000))))) := by
  have hseconds := hi.compare_shownSecond hj
  unfold Instant.order
  rw [compare_seconds offset i j, Ordering.then_assoc, Ordering.then_assoc, Ordering.then_assoc]
  exact congrArg _ (congrArg _ (congrArg _ hseconds.symm))

theorem order_eq_eq_iff :
    i.order j = .eq ↔ i.seconds = j.seconds ∧ i.nanoseconds / 1000 = j.nanoseconds / 1000 := by
  unfold Instant.order
  rw [Ordering.then_eq_eq, Std.compare_eq_iff_eq, Nat.compare_eq_eq]

end Fields

/-- Build times in years of four digits are in the order of their instants up to the microsecond,
leap seconds included, and two of them are the same text only for instants in one microsecond.  For
leap seconds this takes a clock with an offset of whole minutes, as clocks have had for as long as
there have been leap seconds. -/
theorem text_sorts (offset : Int) (i j : Instant)
    (hclock : offset % 60 = 0 ∨ i.nanoseconds < 1000000000 ∧ j.nanoseconds < 1000000000)
    (hi : IsShort (i.toLocal offset)) (hj : IsShort (j.toLocal offset)) :
    compare (i.toLocal offset).text (j.toLocal offset).text = i.order j ∧
      ((i.toLocal offset).text = (j.toLocal offset).text ↔
        i.seconds = j.seconds ∧ i.nanoseconds / 1000 = j.nanoseconds / 1000) := by
  have halignedI : IsAligned (i.toLocal offset) := isAligned_toLocal (hclock.imp_right And.left)
  have halignedJ : IsAligned (j.toLocal offset) := isAligned_toLocal (hclock.imp_right And.right)
  have hcompare : compare (i.toLocal offset).text (j.toLocal offset).text = i.order j := by
    rw [compare_text (fits_toLocal offset i) (fits_toLocal offset j) hi hj,
      order_eq halignedI halignedJ]
    -- The fractions are looked at only within one second.
    refine congrArg _ (congrArg _ (congrArg _ (Text.then_congr fun hsecond => ?_)))
    exact compare_fractionText (halignedI.second_eq halignedJ (Nat.compare_eq_eq.1 hsecond)).2
  refine ⟨hcompare, ?_⟩
  rw [← order_eq_eq_iff, ← hcompare, Std.compare_eq_iff_eq]

/-- The first instant behind the leap second at the end of 2016. -/
def behindLeapSecond : Instant :=
  ⟨1483228800, 0, .inl (by decide)⟩

/-- The leap second comes before the next minute. -/
theorem text_sorts_leapSecond :
    (20700 : Int) % 60 = 0 ∧ IsShort (leapSecond.toLocal 20700) ∧
      IsShort (behindLeapSecond.toLocal 20700) ∧
      (leapSecond.toLocal 20700).text = "2017-01-01T05:44:60.500000" ∧
      (behindLeapSecond.toLocal 20700).text = "2017-01-01T05:45:00" ∧
      compare (leapSecond.toLocal 20700).text (behindLeapSecond.toLocal 20700).text = .lt := by
  have hminutes : (20700 : Int) % 60 = 0 := by decide
  have hshort : IsShort (leapSecond.toLocal 20700) := ⟨by decide +kernel, by decide +kernel⟩
  have hshort' : IsShort (behindLeapSecond.toLocal 20700) :=
    ⟨by decide +kernel, by decide +kernel⟩
  have hsorts := text_sorts 20700 leapSecond behindLeapSecond (.inl hminutes) hshort hshort'
  have horder : leapSecond.order behindLeapSecond = .lt := by decide
  exact ⟨hminutes, hshort, hshort', by decide +kernel, by decide +kernel, hsorts.1.trans horder⟩

theorem text_eq_of_fields {t u : LocalTime} (hdate : t.date = u.date) (hhour : t.hour = u.hour)
    (hminute : t.minute = u.minute) (hsecond : shownSecond t = shownSecond u)
    (hfraction : LocalTime.fractionText t.nanosecond = LocalTime.fractionText u.nanosecond) :
    t.text = u.text := by
  unfold shownSecond at hsecond
  unfold LocalTime.text
  rw [hdate, hhour, hminute, hsecond, hfraction]

/-- What a clock shows in the first minute of 1970. -/
theorem toLocal_firstMinute (offset : Int) {second : Nat} (hsecond : second < 60)
    (hi : i.seconds = second - offset) :
    i.toLocal offset = ⟨⟨1970, 1, 1⟩, 0, 0, second, i.nanoseconds⟩ := by
  have hsum : i.seconds + offset = second := by omega
  have hday : (second : Int) / secondsPerDay = 0 := by
    unfold secondsPerDay
    omega
  have hofDay : ((second : Int) % secondsPerDay).toNat = second := by
    unfold secondsPerDay
    omega
  have hdate : Date.ofDayNumber 0 = ⟨1970, 1, 1⟩ := by decide
  have hhour : second / 3600 = 0 := by omega
  have hminute : second / 60 % 60 = 0 := by omega
  simp only [Instant.toLocal, hsum, hday, hofDay, hdate, hhour, hminute, Nat.mod_eq_of_lt hsecond]

/-- Where the minutes of a clock are not those of UTC, a leap second is shown like the second behind
it. -/
theorem exists_text_eq (offset : Int) (h : offset % 60 ≠ 0) :
    ∃ i j : Instant, IsShort (i.toLocal offset) ∧ IsShort (j.toLocal offset) ∧ i.order j = .lt ∧
      (i.toLocal offset).text = (j.toLocal offset).text := by
  -- The clock shows the last second of a minute of UTC early in the first minute of 1970.
  obtain ⟨second, hsecond, hend⟩ : ∃ second : Nat, second < 59 ∧ (second - offset) % 60 = 59 :=
    ⟨((59 + offset) % 60).toNat, by omega, by omega⟩
  let i : Instant := ⟨second - offset, 1500000000, .inr ⟨by decide, hend⟩⟩
  let j : Instant := ⟨(second + 1 : Nat) - offset, 500000000, .inl (by decide)⟩
  have hi : i.toLocal offset = ⟨⟨1970, 1, 1⟩, 0, 0, second, 1500000000⟩ :=
    toLocal_firstMinute offset (by omega) rfl
  have hj : j.toLocal offset = ⟨⟨1970, 1, 1⟩, 0, 0, second + 1, 500000000⟩ :=
    toLocal_firstMinute offset (by omega) rfl
  have hyear : (0 : Int) ≤ 1970 ∧ (1970 : Int) ≤ 9999 := by decide
  have hless : i.seconds < j.seconds := by
    simp only [i, j]
    omega
  have hfraction : LocalTime.fractionText 1500000000 = LocalTime.fractionText 500000000 := by decide
  refine ⟨i, j, hi ▸ hyear, hj ▸ hyear, ?_, ?_⟩
  · unfold Instant.order
    rw [Int.compare_eq_lt.2 hless]
    rfl
  · rw [hi, hj]
    refine text_eq_of_fields rfl rfl rfl ?_ hfraction
    simp only [shownSecond]

/-! ## Clocks that are set back -/

/-- The seconds by which a local clock is ahead of UTC, from one second to the next. -/
abbrev Zone := Int → Int

/-- What the clock of a zone shows. -/
def localIn (zone : Zone) (i : Instant) : LocalTime :=
  i.toLocal (zone i.seconds)

/-- A zone with odd seconds, as that of Berlin before 1893. -/
def meanTime : Zone :=
  fun _ => 3208

/-- A zone that is two hours ahead until 2026-10-25T01:00:00 UTC, and one hour from then on. -/
def endOfSummer : Zone :=
  fun seconds => if seconds < 1792890000 then 7200 else 3600

/-- The middle of the second behind the leap second in 1890. -/
def behindOldLeapSecond : Instant :=
  ⟨-2499999960, 500000000, .inl (by decide)⟩

/-- Half an hour before the clock is set back. -/
def beforeSetBack : Instant :=
  ⟨1792888200, 0, .inl (by decide)⟩

/-- Ten minutes after the clock is set back. -/
def afterSetBack : Instant :=
  ⟨1792890600, 0, .inl (by decide)⟩

/-- A leap second and the second behind it are the same text where the clock has odd seconds, and a
clock that is set back shows the later of two instants first. -/
theorem not_sorts :
    (IsShort (localIn meanTime oldLeapSecond) ∧ IsShort (localIn meanTime behindOldLeapSecond) ∧
      oldLeapSecond.order behindOldLeapSecond = .lt ∧
      (localIn meanTime oldLeapSecond).text = (localIn meanTime behindOldLeapSecond).text) ∧
    IsShort (localIn endOfSummer beforeSetBack) ∧ IsShort (localIn endOfSummer afterSetBack) ∧
      beforeSetBack.order afterSetBack = .lt ∧
      (localIn endOfSummer beforeSetBack).text = "2026-10-25T02:30:00" ∧
      (localIn endOfSummer afterSetBack).text = "2026-10-25T02:10:00" ∧
      compare (localIn endOfSummer beforeSetBack).text (localIn endOfSummer afterSetBack).text =
        .gt := by
  have hbefore : (localIn endOfSummer beforeSetBack).text = "2026-10-25T02:30:00" := by
    decide +kernel
  have hafter : (localIn endOfSummer afterSetBack).text = "2026-10-25T02:10:00" := by
    decide +kernel
  refine ⟨⟨⟨by decide +kernel, by decide +kernel⟩, ⟨by decide +kernel, by decide +kernel⟩,
    by decide, by decide +kernel⟩, ⟨by decide +kernel, by decide +kernel⟩,
    ⟨by decide +kernel, by decide +kernel⟩, by decide, hbefore, hafter, ?_⟩
  rw [hbefore, hafter]
  decide

end Stamp
end BuildStamp
