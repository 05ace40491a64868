import BuildStamp.Time
import Mathlib.Tactic.IntervalCases

/-!
# Calendar — numbers and dates

Every number is that of a date which the calendar has, and it is found again from the date.  The
way leads through years that begin in March: a leap day is the last day of such a year, so its
months begin on the same days in all years.

The numbers count the days of the calendar: the first of January 1970 has the number 0, and the next
date has the next number, be it in the same month, in the next one or in the next year.

* `Date.exists_yearOfCycle` — the year of a day of a cycle, and the day of this year;
* `Date.ofMarch` — dates of March-based years;
* `Date.dayNumber_ofMarch`, `Date.isValid_ofMarch_iff` — their numbers, and which of them there are;
* `Date.isValid_ofDayNumber`, `Date.dayNumber_ofDayNumber` — every number has a date;
* `Date.dayNumber_next` — the next date has the next number.
-/

namespace BuildStamp
namespace Date

/-! ## Bounds -/

theorem daysInMonth_le (year : Int) (month : Nat) : daysInMonth year month ≤ 31 := by
  unfold daysInMonth
  split
  · split <;> decide
  all_goals decide

theorem bounds_of_isValid {d : Date} (h : d.isValid = true) : d.month ≤ 12 ∧ d.day ≤ 31 := by
  simp only [isValid, Bool.and_eq_true, decide_eq_true_eq] at h
  rcases h with ⟨⟨⟨-, hmonth⟩, -⟩, hday⟩
  exact ⟨hmonth, Nat.le_trans hday (daysInMonth_le d.year d.month)⟩

/-! ## Years of a cycle -/

/-- The day of its cycle on which a March-based year begins. -/
def yearStart (year : Nat) : Nat :=
  365 * year + year / 4 - year / 100

/-- The March-based year of a day of a cycle. -/
def yearOfCycle (day : Nat) : Nat :=
  (day - day / 1460 + day / 36524 - day / 146096) / 365

/-- A day of a cycle, by its century, its group of four years in there, its year in the group and
its day in the year.  Only the last year of a group has a leap day; that of the last group of a
century is left out but in the last century. -/
structure IsDay (century group year day number : Nat) : Prop where
  century_le : century ≤ 3
  group_le : group ≤ 24
  year_le : year ≤ 3
  day_le : day ≤ 365
  leap : day = 365 → year = 3 ∧ (group = 24 → century = 3)
  number_eq : number = 36524 * century + 1461 * group + (365 * year + day)

theorem exists_isDay {number : Nat} (h : number < 146097) :
    ∃ century group year day, IsDay century group year day number := by
  -- The last century and the last year of a group are the ones that may be a day longer.
  have hcentury : ∃ century rest, century ≤ 3 ∧ rest ≤ 36524 ∧ (rest = 36524 → century = 3) ∧
      number = 36524 * century + rest :=
    ⟨min 3 (number / 36524), number - 36524 * min 3 (number / 36524), by omega, by omega, by omega,
      by omega⟩
  rcases hcentury with ⟨century, rest, hcentury, hrest, hlast, hnumber⟩
  have hyear : ∃ year day, year ≤ 3 ∧ day ≤ 365 ∧ (day = 365 → year = 3) ∧
      rest % 1461 = 365 * year + day :=
    ⟨min 3 (rest % 1461 / 365), rest % 1461 - 365 * min 3 (rest % 1461 / 365), by omega, by omega,
      by omega, by omega⟩
  rcases hyear with ⟨year, day, hyear, hday, hleap, hmod⟩
  exact ⟨century, rest / 1461, year, day, hcentury, by omega, hyear, hday, by omega, by omega⟩

/-- A leap day does not count as a year, wherever the group of its year is. -/
theorem div_of_skipped {shift year day : Nat} (hshift : shift ≤ 96) (hyear : year ≤ 3)
    (hday : day ≤ 365) (hleap : day = 365 → year = 3) :
    (365 * year + day - (shift + (365 * year + day)) / 1460) / 365 = year := by
  have hrest : 365 * year + day ≤ 1460 := by omega
  by_cases hshort : shift + (365 * year + day) < 1460
  · rw [Nat.div_eq_of_lt hshort]
    omega
  · have hone : (shift + (365 * year + day)) / 1460 = 1 := by omega
    rw [hone]
    omega

namespace IsDay

variable {century group year day number : Nat}

theorem div_century (h : IsDay century group year day number) :
    number / 36524 = century + number / 146096 := by
  rcases h with ⟨hcentury, hgroup, hyear, hday, hleap, hnumber⟩
  by_cases hlast : 36524 ≤ 1461 * group + (365 * year + day)
  · obtain rfl : century = 3 := by omega
    obtain rfl : number = 146096 := by omega
    rfl
  · have hnone : number / 146096 = 0 := by omega
    omega

theorem div_group (h : IsDay century group year day number) :
    number / 1460 =
      25 * century + group + (24 * century + group + (365 * year + day)) / 1460 := by
  have hsplit : number =
      1460 * (25 * century + group) + (24 * century + group + (365 * year + day)) := by
    have hnumber := h.number_eq
    omega
  rw [hsplit, Nat.mul_add_div (by decide)]

theorem yearOfCycle_eq (h : IsDay century group year day number) :
    yearOfCycle number = 100 * century + 4 * group + year := by
  have hcenturies := h.div_century
  have hgroups := h.div_group
  rcases h with ⟨hcentury, hgroup, hyear, hday, hleap, hnumber⟩
  have hyears : (365 * year + day -
      (24 * century + group + (365 * year + day)) / 1460) / 365 = year :=
    div_of_skipped (by omega) hyear hday fun hlast => (hleap hlast).1
  have hskipped : (24 * century + group + (365 * year + day)) / 1460 ≤ 365 * year + day := by
    omega
  -- With the three quotients as numbers of their own, what is left is linear.
  unfold yearOfCycle
  rw [hgroups, hcenturies]
  generalize (24 * century + group + (365 * year + day)) / 1460 = skipped at hyears hskipped ⊢
  generalize number / 146096 = last
  have hsum : number - (25 * century + group + skipped) + (century + last) - last =
      365 * (100 * century + 4 * group) + (365 * year + day - skipped) := by
    omega
  rw [hsum, Nat.mul_add_div (by decide), hyears]

theorem yearStart_eq (h : IsDay century group year day number) :
    yearStart (100 * century + 4 * group + year) = 36524 * century + 1461 * group + 365 * year := by
  rcases h with ⟨-, hgroup, hyear, -, -, -⟩
  unfold yearStart
  omega

end IsDay

/-- A day of a cycle is in one of its years.  It is the leap day, which ends a year, only if the
year of the calendar that begins in there is a leap year. -/
theorem exists_yearOfCycle {number : Nat} (h : number < 146097) :
    ∃ day, number = yearStart (yearOfCycle number) + day ∧ yearOfCycle number ≤ 399 ∧ day ≤ 365 ∧
      (day = 365 → (yearOfCycle number + 1) % 4 = 0 ∧
        ((yearOfCycle number + 1) % 100 ≠ 0 ∨ (yearOfCycle number + 1) % 400 = 0)) := by
  rcases exists_isDay h with ⟨century, group, year, day, hday⟩
  have hstart := hday.yearStart_eq
  rw [hday.yearOfCycle_eq]
  rcases hday with ⟨hcentury, hgroup, hyear, hbound, hleap, hnumber⟩
  refine ⟨day, by omega, by omega, hbound, ?_⟩
  intro hlast
  rcases hleap hlast with ⟨hyear, hlastGroup⟩
  omega

/-! ## Dates of March-based years -/

/-- The date with so many months and days behind the first of March of a year. -/
def ofMarch (year : Int) (month day : Nat) : Date where
  year := if 10 ≤ month then year + 1 else year
  month := if 10 ≤ month then month - 9 else month + 3
  day := day + 1

/-- The number of the first of March of a year. -/
def marchFirst (year : Int) : Int :=
  year / 400 * daysPerCycle + yearStart (year % 400).toNat - epochShift

/-- The number of days of a month of a March-based year. -/
def monthLength (year : Int) (month : Nat) : Nat :=
  if month = 11 then (if isLeapYear (year + 1) then 29 else 28)
  else monthStart (month + 1) - monthStart month

/-- A number counts the days up to the first of March, the months behind it and the days behind
these. -/
theorem dayNumber_eq (d : Date) :
    d.dayNumber = marchFirst (if d.month ≤ 2 then d.year - 1 else d.year) +
      monthStart (if d.month ≤ 2 then d.month + 9 else d.month - 3) + (d.day - 1 : Nat) := by
  unfold dayNumber marchFirst yearStart
  simp only [Nat.cast_add]
  omega

theorem dayNumber_ofMarch {month : Nat} (hmonth : month ≤ 11) (year : Int) (day : Nat) :
    (ofMarch year month day).dayNumber = marchFirst year + monthStart month + day := by
  rw [dayNumber_eq]
  unfold ofMarch
  by_cases hnext : 10 ≤ month
  · have hfirst : month - 9 ≤ 2 := by omega
    have hback : month - 9 + 9 = month := by omega
    simp [hnext, hfirst, hback]
  · have hlater : ¬month + 3 ≤ 2 := by omega
    simp [hnext, hlater]

/-- The months have the lengths that the calendar gives them. -/
theorem daysInMonth_ofMarch {month : Nat} (hmonth : month ≤ 11) (year : Int) (day : Nat) :
    daysInMonth (ofMarch year month day).year (ofMarch year month day).month =
      monthLength year month := by
  interval_cases month <;> rfl

theorem isValid_ofMarch_iff {month : Nat} (hmonth : month ≤ 11) (year : Int) (day : Nat) :
    (ofMarch year month day).isValid = true ↔ day < monthLength year month := by
  have hfirst : 1 ≤ (ofMarch year month day).month := by
    unfold ofMarch
    dsimp only
    split <;> omega
  have hlast : (ofMarch year month day).month ≤ 12 := by
    unfold ofMarch
    dsimp only
    split <;> omega
  have hday : (ofMarch year month day).day = day + 1 := rfl
  unfold isValid
  rw [daysInMonth_ofMarch hmonth, hday]
  simp only [hfirst, hlast, decide_true, Bool.true_and, Bool.and_eq_true, decide_eq_true_eq]
  omega

/-- Every date of the calendar is one of a March-based year. -/
theorem exists_ofMarch {d : Date} (h : d.isValid = true) :
    ∃ year month day, month ≤ 11 ∧ d = ofMarch year month day := by
  rcases d with ⟨year, month, day⟩
  simp only [isValid, Bool.and_eq_true, decide_eq_true_eq] at h
  rcases h with ⟨⟨⟨hfirst, hlast⟩, hday⟩, -⟩
  by_cases hnext : month ≤ 2
  · refine ⟨year - 1, month + 9, day - 1, by omega, ?_⟩
    have hten : 10 ≤ month + 9 := by omega
    have hback : day - 1 + 1 = day := by omega
    simp [ofMarch, hten, hback]
  · refine ⟨year, month - 3, day - 1, by omega, ?_⟩
    have hten : ¬10 ≤ month - 3 := by omega
    have hback : day - 1 + 1 = day := by omega
    have hmonth : month - 3 + 3 = month := by omega
    simp [ofMarch, hten, hback, hmonth]

/-! ## Dates of numbers -/

/-- The month of a day of a March-based year begins with this day or before it, and ends behind
it. -/
theorem month_bounds (day : Nat) :
    monthStart ((5 * day + 2) / 153) ≤ day ∧ day < monthStart ((5 * day + 2) / 153 + 1) := by
  unfold monthStart
  omega

/-- A leap day is in a month that has it. -/
theorem sub_lt_monthLength {year : Int} {day : Nat} (hday : day ≤ 365)
    (hleap : day = 365 → isLeapYear (year + 1) = true) :
    day - monthStart ((5 * day + 2) / 153) < monthLength year ((5 * day + 2) / 153) := by
  rcases month_bounds day with ⟨hstart, hend⟩
  unfold monthLength
  by_cases hlast : (5 * day + 2) / 153 = 11
  · rw [if_pos hlast, hlast]
    have hbegin : monthStart 11 = 337 := rfl
    by_cases hleapDay : day = 365
    · rw [hleap hleapDay, if_pos rfl]
      omega
    · have hshort : day - monthStart 11 < 28 := by omega
      split <;> omega
  · rw [if_neg hlast]
    omega

/-- The first of March of a year, by the year's cycle and its number there. -/
theorem marchFirst_of_cycle (cycle : Int) {year : Nat} (hyear : year ≤ 399) :
    marchFirst (cycle * 400 + year) = cycle * daysPerCycle + yearStart year - epochShift := by
  have hcycle : (cycle * 400 + year) / 400 = cycle := by omega
  have hofCycle : ((cycle * 400 + year) % 400).toNat = year := by omega
  unfold marchFirst
  rw [hcycle, hofCycle]

theorem exists_ofCycle (year : Int) :
    ∃ (cycle : Int) (ofCycle : Nat), ofCycle ≤ 399 ∧ year = cycle * 400 + ofCycle :=
  ⟨year / 400, (year % 400).toNat, by omega, by omega⟩

theorem isLeapYear_of_cycle_iff (cycle : Int) (year : Nat) :
    isLeapYear (cycle * 400 + year + 1) = true ↔
      (year + 1) % 4 = 0 ∧ ((year + 1) % 100 ≠ 0 ∨ (year + 1) % 400 = 0) := by
  simp only [isLeapYear, Bool.and_eq_true, Bool.or_eq_true, decide_eq_true_eq]
  omega

/-- The date of a number is that of a day of a March-based year. -/
theorem exists_ofDayNumber (number : Int) :
    ∃ year month day, month ≤ 11 ∧ day < monthLength year month ∧
      ofDayNumber number = ofMarch year month day ∧
      number = marchFirst year + monthStart month + day := by
  -- The day is first looked for within its cycle of 400 years, where the numbers are natural ones.
  let cycle : Int := (number + epochShift) / daysPerCycle
  let ofCycle : Nat := ((number + epochShift) % daysPerCycle).toNat
  have hofCycle : ofCycle < 146097 := by
    simp only [ofCycle, daysPerCycle]
    omega
  rcases exists_yearOfCycle hofCycle with ⟨day, hnumber, hyear, hday, hleap⟩
  have hofYear : ofCycle - yearStart (yearOfCycle ofCycle) = day := by omega
  have hdate : ofDayNumber number = ofMarch (cycle * 400 + yearOfCycle ofCycle)
      ((5 * day + 2) / 153) (day - monthStart ((5 * day + 2) / 153)) := by
    rw [← hofYear]
    rfl
  refine ⟨_, _, _, by omega, sub_lt_monthLength hday ?_, hdate, ?_⟩
  · intro hlast
    -- Leap years repeat with the cycle.
    exact (isLeapYear_of_cycle_iff cycle _).2 (hleap hlast)
  · have hsplit : number + epochShift = cycle * daysPerCycle + ofCycle := by
      simp only [cycle, ofCycle, daysPerCycle]
      omega
    rw [marchFirst_of_cycle cycle hyear]
    have hstart := (month_bounds day).1
    omega

/-- Every number has a date that the calendar has. -/
theorem isValid_ofDayNumber (number : Int) : (ofDayNumber number).isValid = true := by
  rcases exists_ofDayNumber number with ⟨year, month, day, hmonth, hday, hdate, -⟩
  rw [hdate]
  exact (isValid_ofMarch_iff hmonth year day).2 hday

/-- The number is found again from the date. -/
theorem dayNumber_ofDayNumber (number : Int) : (ofDayNumber number).dayNumber = number := by
  rcases exists_ofDayNumber number with ⟨year, month, day, hmonth, -, hdate, hnumber⟩
  rw [hdate, hnumber]
  exact dayNumber_ofMarch hmonth year day

/-! ## The next date -/

/-- The date behind a date: the next day of the month, the first of the next month, or the first of
the next year. -/
def next (d : Date) : Date :=
  if d.day < daysInMonth d.year d.month then { d with day := d.day + 1 }
  else if d.month < 12 then ⟨d.year, d.month + 1, 1⟩
  else ⟨d.year + 1, 1, 1⟩

/-- A March-based year is as long as the next year of the calendar. -/
theorem marchFirst_add_one (year : Int) :
    marchFirst (year + 1) = marchFirst year + if isLeapYear (year + 1) then 366 else 365 := by
  -- Within a cycle only its last year is followed by one of another cycle.
  rcases exists_ofCycle year with ⟨cycle, ofCycle, hofCycle, rfl⟩
  simp only [isLeapYear_of_cycle_iff]
  rw [marchFirst_of_cycle cycle hofCycle]
  by_cases hlast : ofCycle = 399
  · subst hlast
    have hnext : cycle * 400 + (399 : Nat) + 1 = (cycle + 1) * 400 + (0 : Nat) := by omega
    have hcycle : (cycle + 1) * daysPerCycle = cycle * daysPerCycle + 146097 := by
      unfold daysPerCycle
      omega
    have hstarts : yearStart 0 = 0 ∧ yearStart 399 = 145731 := ⟨rfl, rfl⟩
    rw [hnext, marchFirst_of_cycle (cycle + 1) (Nat.zero_le 399), hcycle, if_pos (by decide)]
    omega
  · have hnext : cycle * 400 + ofCycle + 1 = cycle * 400 + (ofCycle + 1 : Nat) := by omega
    rw [hnext, marchFirst_of_cycle cycle (by omega)]
    unfold yearStart
    split <;> omega

theorem next_ofMarch {month : Nat} (hmonth : month ≤ 11) (year : Int) (day : Nat) :
    (ofMarch year month day).next =
      if day + 1 < monthLength year month then ofMarch year month (day + 1)
      else if month < 11 then ofMarch year (month + 1) 0
      else ofMarch (year + 1) 0 0 := by
  unfold next
  rw [daysInMonth_ofMarch hmonth]
  interval_cases month <;> rfl

/-- The number of the next date is the next number. -/
theorem dayNumber_next {d : Date} (h : d.isValid = true) : d.next.dayNumber = d.dayNumber + 1 := by
  rcases exists_ofMarch h with ⟨year, month, day, hmonth, rfl⟩
  have hday := (isValid_ofMarch_iff hmonth year day).1 h
  rw [next_ofMarch hmonth, dayNumber_ofMarch hmonth]
  -- The next day is in the same month, or it begins a month, or a year in March.
  by_cases hwithin : day + 1 < monthLength year month
  · rw [if_pos hwithin, dayNumber_ofMarch hmonth]
    omega
  · rw [if_neg hwithin]
    by_cases hlast : month < 11
    · have hmonth' : month + 1 ≤ 11 := hlast
      rw [if_pos hlast, dayNumber_ofMarch hmonth']
      unfold monthLength at hday hwithin
      rw [if_neg (Nat.ne_of_lt hlast)] at hday hwithin
      omega
    · obtain rfl : month = 11 := by omega
      rw [if_neg hlast, dayNumber_ofMarch (Nat.zero_le 11), marchFirst_add_one]
      have hbegin : monthStart 11 = 337 ∧ monthStart 0 = 0 := ⟨rfl, rfl⟩
      unfold monthLength at hday hwithin
      rw [if_pos rfl] at hday hwithin
      -- The year counts from March, so the leap day that ends it is that of the next calendar year.
      by_cases hleap : isLeapYear (year + 1) = true
      · rw [if_pos hleap] at hday hwithin ⊢
        omega
      · rw [if_neg hleap] at hday hwithin ⊢
        omega

example : (⟨1970, 1, 1⟩ : Date).dayNumber = 0 := rfl

end Date
end BuildStamp
