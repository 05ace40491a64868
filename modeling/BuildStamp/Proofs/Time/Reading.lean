import BuildStamp.Proofs.Text.Reader
import BuildStamp.Proofs.Time.Calendar
import BuildStamp.Time

/-!
# Reading — build times read back

A reader that knows the format, and nothing of how a build time is made: a year of four digits, or
of more behind a sign, then the month, the day, the hour, the minute and the second in two digits
each, and perhaps a point and six digits.  From what it reads, a calendar and the offset of the
clock give the instant again.

A leap second is the second 60 where the clock's minutes are those of UTC.  On a clock whose offset
has odd seconds the second behind a minute of UTC has a number of its own, so a leap second is not
told from the next second there; the time that was measured is the same.

* `Stamp.IsLaidOut` — the format;
* `Stamp.Reading`, `Stamp.read?` — what a build time says, and the reader;
* `Stamp.read?_text` — it takes back what was written;
* `Stamp.Reading.seconds`, `Stamp.Reading.nanoseconds` — the instant of a reading;
* `Stamp.text_reads_back` — the instant of a build time;
* `Stamp.not_reads_back` — where it is not given back.
-/

namespace BuildStamp

/-! ## Padded digits -/

namespace Text

theorem isDigit_of_mem_padLeft {width n : Nat} {c : Char}
    (h : c ∈ padLeft width (Nat.toDigits 10 n)) : c.isDigit = true := by
  rcases List.mem_append.1 h with hzero | hdigit
  · obtain rfl := List.eq_of_mem_replicate hzero
    rfl
  · exact Nat.isDigit_of_mem_toDigits (by decide) (by decide) hdigit

theorem ofDigitChars_padLeft (width n : Nat) :
    Nat.ofDigitChars 10 (padLeft width (Nat.toDigits 10 n)) 0 = n := by
  unfold padLeft
  rw [Nat.ofDigitChars_append, Nat.ofDigitChars_replicate_zero, Nat.mul_zero,
    Nat.ofDigitChars_ten_toDigits]

theorem length_padLeft (width : Nat) (cs : List Char) :
    (padLeft width cs).length = max width cs.length := by
  simp only [padLeft, List.length_append, List.length_replicate]
  omega

theorem length_padLeft_toDigits {width n : Nat} (hwidth : 0 < width) (h : n < 10 ^ width) :
    (padLeft width (Nat.toDigits 10 n)).length = width := by
  have hle := (Nat.length_toDigits_le_iff (by decide) hwidth).2 h
  rw [length_padLeft]
  exact Nat.max_eq_left hle

end Text

namespace Stamp

open Text (Reader padLeft)
open Text.Reader

/-! ## The format -/

/-- A number in this many digits. -/
structure IsFigures (count : Nat) (cs : List Char) : Prop where
  length_eq : cs.length = count
  digits : ∀ c ∈ cs, c.isDigit = true

/-- A year in at least four digits, behind a sign if it is negative or takes more than four. -/
def IsYear (year : Int) (cs : List Char) : Prop :=
  ∃ ds, 4 ≤ ds.length ∧ (∀ d ∈ ds, d.isDigit = true) ∧
    cs = if year < 0 then '-' :: ds else if 9999 < year then '+' :: ds else ds

/-- A build time in this year. -/
def IsLaidOut (year : Int) (cs : List Char) : Prop :=
  ∃ first month day hour minute second fraction,
    cs = first ++ '-' :: (month ++ '-' :: (day ++ 'T' :: (hour ++ ':' :: (minute ++ ':' ::
      (second ++ fraction))))) ∧
    IsYear year first ∧ (∀ cs ∈ [month, day, hour, minute, second], IsFigures 2 cs) ∧
    (fraction = [] ∨ ∃ ds, fraction = '.' :: ds ∧ IsFigures 6 ds)

theorem isFigures_zeroPadded {width n : Nat} (hwidth : 0 < width) (h : n < 10 ^ width) :
    IsFigures width (Text.zeroPadded width n).toList := by
  unfold Text.zeroPadded
  rw [String.toList_ofList]
  exact ⟨Text.length_padLeft_toDigits hwidth h, fun c => Text.isDigit_of_mem_padLeft⟩

/-! ## Readers -/

/-- Reads `more + 1` digits. -/
def figures : Nat → Reader (List Char)
  | 0 => (char Char.isDigit).map fun d => [d]
  | more + 1 => ((char Char.isDigit).both (figures more)).map fun (d, ds) => d :: ds

/-- Reads the number that `more + 1` digits stand for. -/
def number (more : Nat) : Reader Nat :=
  (figures more).map fun ds => Nat.ofDigitChars 10 ds 0

/-- Reads a number of two digits. -/
def pair : Reader Nat :=
  number 1

/-- Reads as many digits as there are. -/
def allFigures : Reader (List Char) :=
  ((char Char.isDigit).thenMany (char Char.isDigit)).map fun (d, ds) => d :: ds

/-- Reads a year: four digits, or a sign and at least four digits where the four would not do. -/
def year : Reader Int :=
  (((exactly '-').after allFigures).filterMap fun ds =>
      let n := Nat.ofDigitChars 10 ds 0
      if 4 ≤ ds.length ∧ 0 < n then some (-(n : Int)) else none).orElse <|
    (((exactly '+').after allFigures).filterMap fun ds =>
      let n := Nat.ofDigitChars 10 ds 0
      if 4 ≤ ds.length ∧ 9999 < n then some (n : Int) else none).orElse <|
    allFigures.filterMap fun ds =>
      if ds.length = 4 then some (Nat.ofDigitChars 10 ds 0 : Int) else none

/-- Reads a date. -/
def date : Reader Date :=
  ((year.before (exactly '-')).both (pair.both ((exactly '-').after pair))).map
    fun (year, month, day) => ⟨year, month, day⟩

/-- Reads a time of the day up to the second. -/
def timeOfDay : Reader (Nat × Nat × Nat) :=
  pair.both (((exactly ':').after pair).both ((exactly ':').after pair))

/-- Reads a date and a time up to the second. -/
def wholeSeconds : Reader (Date × Nat × Nat × Nat) :=
  date.both ((exactly 'T').after timeOfDay)

/-- Reads a part of a second in microseconds. -/
def fraction : Reader Nat :=
  (exactly '.').after (number 5)

/-- What a build time says. -/
structure Reading where
  date : Date
  hour : Nat
  minute : Nat
  -- The second, 60 in a leap second.
  second : Nat
  -- The microseconds, zero if none are written.
  microsecond : Nat
  deriving DecidableEq, Repr

/-- Reads a whole build time. -/
def read? (text : String) : Option Reading :=
  match (wholeSeconds.thenMaybe fraction).run text.toList with
  | some (((date, hour, minute, second), microsecond), []) =>
      some ⟨date, hour, minute, second, microsecond.getD 0⟩
  | _ => none

/-! ## Digits that are read back -/

theorem reads_figures {more : Nat} {cs : List Char} (h : IsFigures (more + 1) cs) :
    (figures more).Reads cs cs := by
  induction more generalizing cs with
  | zero =>
      rcases List.length_eq_one_iff.1 h.length_eq with ⟨c, rfl⟩
      intro rest
      simp [figures, h.digits c]
  | succ more ih =>
      rcases h with ⟨hlength, hdigits⟩
      rcases cs with _ | ⟨c, cs⟩
      · cases hlength
      · have hrest : (figures more).Reads cs cs :=
          ih ⟨Nat.succ.inj hlength, fun d hd => hdigits d (List.mem_cons_of_mem c hd)⟩
        intro rest
        simp [figures, hdigits c, hrest rest]

theorem reads_number {more n : Nat} (h : n < 10 ^ (more + 1)) :
    (number more).Reads (Text.zeroPadded (more + 1) n).toList n := by
  have hfigures := reads_figures (isFigures_zeroPadded (Nat.succ_pos more) h)
  have hvalue : Nat.ofDigitChars 10 (Text.zeroPadded (more + 1) n).toList 0 = n := by
    unfold Text.zeroPadded
    rw [String.toList_ofList, Text.ofDigitChars_padLeft]
  intro rest
  simp only [number, run_map, hfigures rest, Option.map_some, hvalue]

theorem reads_pair {n : Nat} (h : n < 100) : pair.Reads (Text.zeroPadded 2 n).toList n :=
  reads_number h

/-- All digits are read that are there. -/
theorem run_allFigures {cs rest : List Char} (hne : cs ≠ []) (hdigits : ∀ c ∈ cs, c.isDigit = true)
    (hrest : (char Char.isDigit).run rest = none) :
    allFigures.run (cs ++ rest) = some (cs, rest) := by
  rcases cs with _ | ⟨c, cs⟩
  · exact absurd rfl hne
  have hone : ∀ d ∈ cs, (char Char.isDigit).Reads [d] d := by
    intro d hd others
    simp [hdigits d (List.mem_cons_of_mem c hd)]
  have hmany : (char Char.isDigit).many (cs ++ rest) = (cs, rest) := many_chars hone hrest
  simp [allFigures, hdigits c, hmany]

/-! ## Years -/

/-- The digits of a year. -/
def yearFigures (year : Int) : List Char :=
  padLeft 4 (Nat.toDigits 10 year.natAbs)

theorem four_le_length_yearFigures (year : Int) : 4 ≤ (yearFigures year).length := by
  rw [yearFigures, Text.length_padLeft]
  exact Nat.le_max_left _ _

theorem isYear_yearText (year : Int) : IsYear year (LocalTime.yearText year).toList := by
  refine ⟨yearFigures year, four_le_length_yearFigures year,
    fun d hd => Text.isDigit_of_mem_padLeft hd, ?_⟩
  unfold LocalTime.yearText Text.zeroPadded
  split
  · simp [yearFigures]
  · split <;> simp [yearFigures]

theorem yearFigures_eq_cons (year : Int) :
    ∃ c cs, yearFigures year = c :: cs ∧ c.isDigit = true := by
  have hlength := four_le_length_yearFigures year
  cases hcs : yearFigures year with
  | nil =>
      rw [hcs] at hlength
      cases hlength
  | cons c cs =>
      have hmem : c ∈ yearFigures year := hcs ▸ List.mem_cons_self
      exact ⟨c, cs, rfl, Text.isDigit_of_mem_padLeft hmem⟩

theorem run_yearFigures (year : Int) (rest : List Char) :
    allFigures.run (yearFigures year ++ '-' :: rest) = some (yearFigures year, '-' :: rest) := by
  rcases yearFigures_eq_cons year with ⟨c, cs, hcs, -⟩
  have hne : yearFigures year ≠ [] := hcs ▸ List.cons_ne_nil c cs
  exact run_allFigures hne (fun d hd => Text.isDigit_of_mem_padLeft hd) (by simp)

/-- No sign is read where a digit is. -/
theorem run_sign_yearFigures {sign : Char} (hsign : sign.isDigit = false) (year : Int)
    (rest : List Char) : (exactly sign).run (yearFigures year ++ rest) = none := by
  rcases yearFigures_eq_cons year with ⟨c, cs, hcs, hdigit⟩
  have hne : sign ≠ c := by
    rintro rfl
    rw [hsign] at hdigit
    cases hdigit
  simp [hcs, afterPrefix?, hne]

theorem run_year (y : Int) (rest : List Char) :
    year.run ((LocalTime.yearText y).toList ++ '-' :: rest) = some (y, '-' :: rest) := by
  have hvalue : Nat.ofDigitChars 10 (yearFigures y) 0 = y.natAbs := Text.ofDigitChars_padLeft 4 _
  have hlength : (yearFigures y).length = max 4 (Nat.toDigits 10 y.natAbs).length :=
    Text.length_padLeft 4 _
  have hfigures := run_yearFigures y rest
  -- The sign says which of the three forms is read, and a digit is no sign.
  unfold LocalTime.yearText Text.zeroPadded
  by_cases hnegative : y < 0
  · have hback : -(y.natAbs : Int) = y := by omega
    have hpositive : 0 < y.natAbs := by omega
    have htext : ("-" ++ String.ofList (padLeft 4 (Nat.toDigits 10 y.natAbs))).toList =
        '-' :: yearFigures y := by simp [yearFigures]
    rw [if_pos hnegative, htext]
    simp [year, afterPrefix?, hfigures, hvalue, hback, hpositive, hlength, -Nat.cast_natAbs]
  · have hback : (y.natAbs : Int) = y := by omega
    rw [if_neg hnegative]
    by_cases hlong : 9999 < y
    · have hpositive : 9999 < y.natAbs := by omega
      have htext : ("+" ++ String.ofList (padLeft 4 (Nat.toDigits 10 y.natAbs))).toList =
          '+' :: yearFigures y := by simp [yearFigures]
      rw [if_pos hlong, htext]
      simp [year, afterPrefix?, hfigures, hvalue, hback, hpositive, hlength, -Nat.cast_natAbs]
    · have hfour : (yearFigures y).length = 4 :=
        Text.length_padLeft_toDigits (by decide) (by omega)
      have hminus := run_sign_yearFigures (by decide : '-'.isDigit = false) y ('-' :: rest)
      have hplus := run_sign_yearFigures (by decide : '+'.isDigit = false) y ('-' :: rest)
      have htext : (String.ofList (padLeft 4 (Nat.toDigits 10 y.natAbs))).toList =
          yearFigures y := by simp [yearFigures]
      rw [if_neg hlong, htext]
      simp [year, hminus, hplus, hfigures, hvalue, hback, hfour, -Nat.cast_natAbs, -run_exactly]

theorem reads_year (y : Int) :
    (year.before (exactly '-')).Reads ((LocalTime.yearText y).toList ++ ['-']) y := by
  intro rest
  have hyear := run_year y rest
  simp [hyear, afterPrefix?]

/-! ## Whole build times -/

theorem reads_date {d : Date} (hmonth : d.month < 100) (hday : d.day < 100) :
    date.Reads ((LocalTime.yearText d.year).toList ++ ['-'] ++
      ((Text.zeroPadded 2 d.month).toList ++ (['-'] ++ (Text.zeroPadded 2 d.day).toList))) d := by
  have hreads := (reads_year d.year).both
    ((reads_pair hmonth).both ((reads_exactly '-').after (reads_pair hday)))
  intro rest
  simp only [date, run_map, hreads rest, Option.map_some]

theorem reads_timeOfDay {hour minute second : Nat} (hhour : hour < 100) (hminute : minute < 100)
    (hsecond : second < 100) :
    timeOfDay.Reads ((Text.zeroPadded 2 hour).toList ++
      (([':'] ++ (Text.zeroPadded 2 minute).toList) ++
        ([':'] ++ (Text.zeroPadded 2 second).toList))) (hour, minute, second) :=
  (reads_pair hhour).both
    (((reads_exactly ':').after (reads_pair hminute)).both
      ((reads_exactly ':').after (reads_pair hsecond)))

theorem reads_fraction {microsecond : Nat} (h : microsecond < 1000000) :
    fraction.Reads (['.'] ++ (Text.zeroPadded 6 microsecond).toList) microsecond :=
  (reads_exactly '.').after (reads_number h)

/-- No number of a clock's time is too large for two digits, but for the year. -/
structure Fits (t : LocalTime) : Prop where
  month : t.date.month < 100
  day : t.date.day < 100
  hour : t.hour < 100
  minute : t.minute < 100
  second : t.second + t.nanosecond / 1000000000 < 100

/-- The fields of a build time, one behind the other. -/
theorem toList_text (t : LocalTime) :
    t.text.toList = (LocalTime.yearText t.date.year).toList ++ '-' ::
      ((Text.zeroPadded 2 t.date.month).toList ++ '-' ::
        ((Text.zeroPadded 2 t.date.day).toList ++ 'T' ::
          ((Text.zeroPadded 2 t.hour).toList ++ ':' ::
            ((Text.zeroPadded 2 t.minute).toList ++ ':' ::
              ((Text.zeroPadded 2 (t.second + t.nanosecond / 1000000000)).toList ++
                (LocalTime.fractionText t.nanosecond).toList))))) := by
  simp [LocalTime.text]

/-- The text of a clock's time is read back up to its fraction. -/
theorem exists_reads_wholeSeconds {t : LocalTime} (h : Fits t) :
    ∃ written, t.text.toList = written ++ (LocalTime.fractionText t.nanosecond).toList ∧
      wholeSeconds.Reads written
        (t.date, t.hour, t.minute, t.second + t.nanosecond / 1000000000) := by
  have hreads := (reads_date h.month h.day).both
    ((reads_exactly 'T').after (reads_timeOfDay h.hour h.minute h.second))
  refine ⟨_, ?_, hreads⟩
  simp [toList_text]

/-- What the fraction adds to a text: nothing where there is none to add, else a point and six
digits. -/
theorem fractionText_cases (nanosecond : Nat) :
    nanosecond / 1000 = 0 ∧ (LocalTime.fractionText nanosecond).toList = [] ∨
      nanosecond / 1000 ≠ 0 ∧ (LocalTime.fractionText nanosecond).toList =
        ['.'] ++ (Text.zeroPadded 6 (nanosecond % 1000000000 / 1000)).toList := by
  by_cases hnone : nanosecond / 1000 = 0 <;> simp [LocalTime.fractionText, hnone]

/-- The text of a clock's time has the format. -/
theorem isLaidOut_text {t : LocalTime} (h : Fits t) :
    IsLaidOut t.date.year t.text.toList := by
  have htwo {n : Nat} (h : n < 100) : IsFigures 2 (Text.zeroPadded 2 n).toList :=
    isFigures_zeroPadded (by decide) h
  refine ⟨(LocalTime.yearText t.date.year).toList, (Text.zeroPadded 2 t.date.month).toList,
    (Text.zeroPadded 2 t.date.day).toList, (Text.zeroPadded 2 t.hour).toList,
    (Text.zeroPadded 2 t.minute).toList,
    (Text.zeroPadded 2 (t.second + t.nanosecond / 1000000000)).toList,
    (LocalTime.fractionText t.nanosecond).toList, toList_text t, isYear_yearText t.date.year,
    ?_, ?_⟩
  · simp [htwo, h.month, h.day, h.hour, h.minute, h.second]
  · rcases fractionText_cases t.nanosecond with ⟨-, hfraction⟩ | ⟨-, hfraction⟩
    · exact .inl hfraction
    · exact .inr ⟨_, hfraction, isFigures_zeroPadded (by decide) (by omega)⟩

/-- What the text of a clock's time says. -/
def readingOf (t : LocalTime) : Reading where
  date := t.date
  hour := t.hour
  minute := t.minute
  second := t.second + t.nanosecond / 1000000000
  microsecond := t.nanosecond % 1000000000 / 1000

/-- What was written is read back. -/
theorem read?_text {t : LocalTime} (h : Fits t) : read? t.text = some (readingOf t) := by
  rcases exists_reads_wholeSeconds h with ⟨written, htext, hwhole⟩
  unfold read?
  rw [htext]
  rcases fractionText_cases t.nanosecond with ⟨hnone, hfraction⟩ | ⟨-, hfraction⟩
  · -- A fraction that is left out is none that could be written.
    have hmicrosecond : t.nanosecond % 1000000000 / 1000 = 0 := by omega
    rw [hfraction, run_thenMaybe_none (hwhole []) (run_nil fraction)]
    simp [readingOf, hmicrosecond]
  · have hsmall : t.nanosecond % 1000000000 / 1000 < 1000000 := by omega
    have hreads := reads_fraction hsmall []
    rw [List.append_nil, ← hfraction] at hreads
    rw [run_thenMaybe_some (hwhole _) hreads]
    rfl

example : read? "-0044-03-15T12:00:00" = some ⟨⟨-44, 3, 15⟩, 12, 0, 0, 0⟩ := by decide +kernel

/-! ## Instants -/

namespace Reading

/-- The seconds since 1970 of what a clock shows that is `offset` seconds ahead of UTC.  A leap
second has the number of the second before it. -/
def seconds (offset : Int) (r : Reading) : Int :=
  r.date.dayNumber * secondsPerDay + (r.hour * 3600 + r.minute * 60 + min r.second 59 : Nat) -
    offset

/-- The nanoseconds after that, in a leap second from 1000000000. -/
def nanoseconds (r : Reading) : Nat :=
  r.second / 60 * 1000000000 + r.microsecond * 1000

/-- The nanoseconds since 1970 of what such a clock shows, where the second 60 is the one behind the
second 59. -/
def elapsed (offset : Int) (r : Reading) : Int :=
  (r.date.dayNumber * secondsPerDay + (r.hour * 3600 + r.minute * 60 + r.second : Nat) - offset) *
    1000000000 + (r.microsecond * 1000 : Nat)

/-- The fields are those of a date of the calendar and of a time of the day. -/
structure IsTime (r : Reading) : Prop where
  date : r.date.isValid = true
  hour : r.hour < 24
  minute : r.minute < 60
  second : r.second ≤ 60
  microsecond : r.microsecond < 1000000

end Reading

section Instants

variable (offset : Int) (i : Instant)

/-- What a clock shows of the time of a day. -/
theorem exists_ofDay :
    ∃ ofDay : Nat, ofDay < 86400 ∧
      i.seconds + offset = (i.seconds + offset) / secondsPerDay * secondsPerDay + ofDay ∧
      (i.toLocal offset).hour = ofDay / 3600 ∧ (i.toLocal offset).minute = ofDay / 60 % 60 ∧
      (i.toLocal offset).second = ofDay % 60 := by
  refine ⟨((i.seconds + offset) % secondsPerDay).toNat, ?_, ?_, rfl, rfl, rfl⟩
  · unfold secondsPerDay
    omega
  · unfold secondsPerDay
    omega

theorem isTime_readingOf : (readingOf (i.toLocal offset)).IsTime := by
  rcases exists_ofDay offset i with ⟨ofDay, hofDay, -, hhour, hminute, hsecond⟩
  have hnanosecond : i.nanoseconds < 2000000000 := by
    have hleap := i.leap_at_minute_end
    omega
  refine ⟨Date.isValid_ofDayNumber _, ?_, ?_, ?_, ?_⟩
  · simp only [readingOf, hhour]
    omega
  · simp only [readingOf, hminute]
    omega
  · simp only [readingOf, Instant.toLocal]
    omega
  · simp only [readingOf]
    omega

theorem fits_toLocal : Fits (i.toLocal offset) := by
  have htime := isTime_readingOf offset i
  rcases Date.bounds_of_isValid htime.date with ⟨hmonth, hday⟩
  exact ⟨Nat.lt_of_le_of_lt hmonth (by decide), Nat.lt_of_le_of_lt hday (by decide),
    Nat.lt_trans htime.hour (by decide), Nat.lt_trans htime.minute (by decide),
    Nat.lt_of_le_of_lt htime.second (by decide)⟩

theorem elapsed_readingOf :
    (readingOf (i.toLocal offset)).elapsed offset =
      i.seconds * 1000000000 + (i.nanoseconds / 1000 * 1000 : Nat) := by
  rcases exists_ofDay offset i with ⟨ofDay, hofDay, hsplit, hhour, hminute, hsecond⟩
  have hday : (readingOf (i.toLocal offset)).date.dayNumber =
      (i.seconds + offset) / secondsPerDay := Date.dayNumber_ofDayNumber _
  have hnanosecond : (i.toLocal offset).nanosecond = i.nanoseconds := rfl
  unfold Reading.elapsed
  rw [hday]
  simp only [readingOf, hhour, hminute, hsecond, hnanosecond]
  -- What a leap second has too many nanoseconds, its second counts.
  omega

/-- In a leap second a clock whose minutes are those of UTC has come to the end of a minute. -/
theorem second_of_leap (hleap : 1000000000 ≤ i.nanoseconds) (hminutes : offset % 60 = 0) :
    (i.toLocal offset).second = 59 ∧ i.nanoseconds / 1000000000 = 1 := by
  rcases exists_ofDay offset i with ⟨ofDay, -, hsplit, -, -, hsecond⟩
  rcases i.leap_at_minute_end with hless | ⟨hless, hend⟩
  · exact absurd hless (Nat.not_lt.2 hleap)
  · unfold secondsPerDay at hsplit
    omega

theorem seconds_readingOf (h : i.nanoseconds < 1000000000 ∨ offset % 60 = 0) :
    (readingOf (i.toLocal offset)).seconds offset = i.seconds ∧
      (readingOf (i.toLocal offset)).nanoseconds = i.nanoseconds / 1000 * 1000 ∧
      ((readingOf (i.toLocal offset)).second = 60 ↔ 1000000000 ≤ i.nanoseconds) := by
  have helapsed := elapsed_readingOf offset i
  have hshown : (readingOf (i.toLocal offset)).second =
      (i.toLocal offset).second + i.nanoseconds / 1000000000 := rfl
  have hmicrosecond : (readingOf (i.toLocal offset)).microsecond =
      i.nanoseconds % 1000000000 / 1000 := rfl
  have hminute : (i.toLocal offset).second < 60 := Nat.mod_lt _ (by decide)
  unfold Reading.seconds Reading.nanoseconds
  unfold Reading.elapsed at helapsed
  -- A leap second is shown as second 59 and one more.
  by_cases hleap : 1000000000 ≤ i.nanoseconds
  · have hminutes : offset % 60 = 0 := h.resolve_left (Nat.not_lt.2 hleap)
    rcases second_of_leap offset i hleap hminutes with ⟨hsecond, hone⟩
    rw [hmicrosecond, hshown, hsecond, hone] at helapsed ⊢
    omega
  · have hnone : i.nanoseconds / 1000000000 = 0 := Nat.div_eq_of_lt (Nat.lt_of_not_le hleap)
    rw [hmicrosecond, hshown, hnone] at helapsed ⊢
    omega

end Instants

/-- Every build time has the format and can be read, and what is read is a date of the calendar and
a time of the day.  Less the offset of the clock, the time that has elapsed since 1970 is that of
the instant up to the microsecond.  The seconds and nanoseconds are those of the instant, too, with
a second 60 for a leap second; in a leap second this takes an offset of whole minutes, as clocks
have had for as long as there have been leap seconds. -/
theorem text_reads_back (offset : Int) (i : Instant) :
    ∃ r, read? (i.toLocal offset).text = some r ∧
      IsLaidOut r.date.year (i.toLocal offset).text.toList ∧ r.IsTime ∧
      r.elapsed offset = i.seconds * 1000000000 + (i.nanoseconds / 1000 * 1000 : Nat) ∧
      (i.nanoseconds < 1000000000 ∨ offset % 60 = 0 →
        r.seconds offset = i.seconds ∧ r.nanoseconds = i.nanoseconds / 1000 * 1000 ∧
          (r.second = 60 ↔ 1000000000 ≤ i.nanoseconds)) := by
  have hfits := fits_toLocal offset i
  exact ⟨readingOf (i.toLocal offset), read?_text hfits, isLaidOut_text hfits,
    isTime_readingOf offset i, elapsed_readingOf offset i, seconds_readingOf offset i⟩

/-- The middle of the leap second at the end of 2016. -/
def leapSecond : Instant :=
  ⟨1483228799, 1500000000, .inr ⟨by decide, by decide⟩⟩

/-- Where the clock is five hours and three quarters ahead, the leap second comes in the new
year. -/
theorem text_reads_back_leapSecond :
    (20700 : Int) % 60 = 0 ∧ (leapSecond.toLocal 20700).text = "2017-01-01T05:44:60.500000" ∧
      ∃ r, read? "2017-01-01T05:44:60.500000" = some r ∧ r.second = 60 ∧
        r.seconds 20700 = 1483228799 ∧ r.nanoseconds = 1500000000 := by
  have hminutes : (20700 : Int) % 60 = 0 := by decide
  have htext : (leapSecond.toLocal 20700).text = "2017-01-01T05:44:60.500000" := by decide +kernel
  rcases text_reads_back 20700 leapSecond with ⟨r, hread, -, -, -, hexact⟩
  rcases hexact (.inr hminutes) with ⟨hseconds, hnanoseconds, hsecond⟩
  rw [htext] at hread
  exact ⟨hminutes, htext, r, hread, hsecond.2 (by decide), hseconds, hnanoseconds⟩

/-! ## Instants that are not read back -/

/-- The middle of a leap second in 1890. -/
def oldLeapSecond : Instant :=
  ⟨-2499999961, 1500000000, .inr ⟨by decide, by decide⟩⟩

/-- The first instant whose date is the calendar's in UTC, but not five hours and three quarters
ahead. -/
def newYearBehindCalendar : Instant :=
  ⟨8210266856100, 0, .inl (by decide)⟩

/-- On a clock with odd seconds, as that of Berlin was before 1893, what is read of a leap second is
an instant of the next second, and no second 60.  Behind the end of the calendar nothing is shown at
all. -/
theorem not_reads_back :
    (Instant.ofUnix? (-2499999961) 1500000000 = some oldLeapSecond ∧
      (oldLeapSecond.toLocal 3208).text = "1890-10-11T20:27:28.500000" ∧
      ∃ r, read? "1890-10-11T20:27:28.500000" = some r ∧ r.second = 28 ∧
        r.seconds 3208 = -2499999960 ∧ r.nanoseconds = 500000000) ∧
    Instant.ofUnix? 8210266856100 0 = some newYearBehindCalendar ∧
      newYearBehindCalendar.shown? 20700 = none := by
  have htext : (oldLeapSecond.toLocal 3208).text = "1890-10-11T20:27:28.500000" := by
    decide +kernel
  have hread := read?_text (fits_toLocal 3208 oldLeapSecond)
  rw [htext] at hread
  exact ⟨⟨by decide +kernel, htext, _, hread, by decide +kernel, by decide +kernel,
    by decide +kernel⟩, by decide +kernel, by decide +kernel⟩

end Stamp
end BuildStamp
