import BuildStamp.Proofs.Text.Reader
import BuildStamp.Text.Writing
import BuildStamp.Toml.Scalar

/-!
# Number — decimal integers are read back

A line of digits could go on as a date, a time, a number with a fraction or one of another base.
All these readers are tried, and they fail because none of their marks is on the line.

* `Toml.DigitLine` — a text of which only digits are left on the first line;
* `Toml.IsNumeral` — digits without needless zeros in front;
* `Toml.moment_run_eq_none`, `Toml.float_run_eq_none` — the readers that must fail;
* `Toml.integer_run_toDigits` — the decimal digits of a number are read back as an integer.
-/

namespace BuildStamp
namespace Toml

open Text.Reader

/-! ## Lines of digits -/

/-- Nothing but digits is left on the line. -/
inductive DigitLine : List Char → Prop where
  | ending (rest : List Char) : DigitLine ('\n' :: rest)
  | digit {c : Char} {s : List Char} : c.isDigit = true → DigitLine s → DigitLine (c :: s)

theorem digitLine_append {ds : List Char} (h : ∀ c ∈ ds, c.isDigit = true) (rest : List Char) :
    DigitLine (ds ++ '\n' :: rest) := by
  induction ds with
  | nil => exact .ending rest
  | cons d ds ih =>
      exact .digit (h d List.mem_cons_self) (ih fun c hc => h c (List.mem_cons_of_mem d hc))

namespace DigitLine

variable {s r : List Char}

theorem ne_head {c d : Char} (h : DigitLine (c :: s)) (digit : d.isDigit = false)
    (feed : d ≠ '\n') : d ≠ c := by
  rintro rfl
  cases h with
  | ending => exact feed rfl
  | digit hd => simp [hd] at digit

theorem word_run {d : Char} (h : DigitLine s) (digit : d.isDigit = false) (feed : d ≠ '\n')
    (ds : List Char) : (word d ds).run s = none := by
  cases s with
  | nil => rfl
  | cons c t => simp [afterPrefix?, h.ne_head digit feed]

theorem exactly_run {d : Char} (h : DigitLine s) (digit : d.isDigit = false) (feed : d ≠ '\n') :
    (exactly d).run s = none :=
  h.word_run digit feed []

theorem sign_run (h : DigitLine s) : sign.run s = none := by
  rw [sign, run_orElse, run_map, run_map, h.exactly_run (by decide) (by decide),
    h.exactly_run (by decide) (by decide)]
  rfl

theorem tail {c : Char} (h : DigitLine s) (hrun : (char Char.isDigit).run s = some (c, r)) :
    DigitLine r := by
  cases h with
  | ending rest => simp at hrun
  | digit hd hs =>
      simp only [run_char_cons, hd, if_true, Option.some.injEq, Prod.mk.injEq] at hrun
      exact hrun.2 ▸ hs

/-- Behind some digits the rest of the line is left. -/
theorem fixedDigits {count : Nat} {ds : List Char} (h : DigitLine s)
    (hrun : (fixedDigits count).run s = some (ds, r)) : DigitLine r := by
  -- The line gets shorter with every digit, so it is not kept fixed.
  induction count generalizing s ds with
  | zero =>
      simp only [Toml.fixedDigits, run_map, Option.map_eq_some_iff, Prod.mk.injEq] at hrun
      obtain ⟨⟨c, rest⟩, hc, -, rfl⟩ := hrun
      exact h.tail hc
  | succ count ih =>
      simp only [Toml.fixedDigits, run_map, run_both, Option.map_eq_some_iff,
        Option.bind_eq_some_iff, Prod.mk.injEq] at hrun
      obtain ⟨-, ⟨⟨c, mid⟩, hc, ⟨⟨cs, rest⟩, hcs, rfl⟩⟩, -, rfl⟩ := hrun
      exact ih (h.tail hc) hcs

/-- Behind something that leaves the rest of the line no mark follows. -/
theorem before_run {α : Type} {reader : Text.Reader α} {d : Char}
    (h : ∀ {a : α} {r : List Char}, reader.run s = some (a, r) → DigitLine r)
    (digit : d.isDigit = false) (feed : d ≠ '\n') : (reader.before (exactly d)).run s = none := by
  rw [run_before]
  cases hrun : reader.run s with
  | none => rfl
  | some found =>
      obtain ⟨a, r⟩ := found
      simp only [Option.bind_some, (h hrun).exactly_run digit feed]
      rfl

end DigitLine

/-! ## Readers that must fail -/

/-- A line of digits is no date and no time, for which a hyphen or a colon is missing. -/
theorem moment_run_eq_none {s : List Char} (h : DigitLine s) : moment.run s = none := by
  -- A date fails behind its year, a time behind its hour.
  have hyear : (((fixedDigits 3).map fun cs => Nat.ofDigitChars 10 cs 0).before
      (exactly '-')).run s = none := by
    refine DigitLine.before_run (fun hrun => ?_) (by decide) (by decide)
    simp only [run_map, Option.map_eq_some_iff, Prod.mk.injEq] at hrun
    obtain ⟨⟨cs, rest⟩, hcs, -, rfl⟩ := hrun
    exact h.fixedDigits hcs
  have hhour : ((twoDigits 0 23).before (exactly ':')).run s = none := by
    refine DigitLine.before_run (fun hrun => ?_) (by decide) (by decide)
    simp only [twoDigits, filter, run_filterMap, run_map, Option.bind_eq_some_iff,
      Option.map_eq_some_iff, Prod.mk.injEq] at hrun
    obtain ⟨⟨n, mid⟩, ⟨⟨cs, rest⟩, hcs, -, rfl⟩, m, -, -, rfl⟩ := hrun
    exact h.fixedDigits hcs
  have hdate : date.run s = none := by
    simp only [date, run_filterMap, run_both (r := Text.Reader.before _ _), hyear]
    rfl
  have htime : time.run s = none := by
    simp only [time, run_map]
    rw [run_thenMaybe_of_none]
    · rfl
    · rw [run_both, hhour]
      rfl
  rw [moment, run_orElse, run_map, run_thenMaybe_of_none hdate, htime]
  rfl

/-- Digits without needless zeros in front. -/
structure IsNumeral (ds : List Char) : Prop where
  digits : ∀ c ∈ ds, c.isDigit = true
  -- The first one is zero only if it is the only one.
  lead : ds = ['0'] ∨ ∃ c r, ds = c :: r ∧ '1' ≤ c ∧ c ≤ '9'

section Numeral

variable {ds : List Char}

theorem signedDigits_run (h : IsNumeral ds) (rest : List Char) :
    signedDigits.run (ds ++ '\n' :: rest) = some ((false, ds), '\n' :: rest) := by
  obtain ⟨digits, lead⟩ := h
  have hsign : sign.run (ds ++ '\n' :: rest) = none := (digitLine_append digits rest).sign_run
  have hnatural : naturalDigits.run (ds ++ '\n' :: rest) = some (ds, '\n' :: rest) := by
    rcases lead with rfl | ⟨c, r, rfl, hlow, hhigh⟩
    · rfl
    · have hmany : ((char Char.isDigit).orElse ((exactly '_').after (char Char.isDigit))).many
          (r ++ '\n' :: rest) = (r, '\n' :: rest) :=
        many_chars (fun d hd s => by simp [digits d (List.mem_cons_of_mem c hd)]) rfl
      simp [naturalDigits, hlow, hhigh, hmany]
  simp [signedDigits, hsign, hnatural]

/-- A line of digits is no number with a fraction or an exponent, and no infinity. -/
theorem float_run_eq_none (h : IsNumeral ds) (rest : List Char) :
    float.run (ds ++ '\n' :: rest) = none := by
  have hline := digitLine_append h.digits rest
  have hscale : scale.run ('\n' :: rest) = none := rfl
  have hscaled : scaledFloat.run (ds ++ '\n' :: rest) = none := by
    have hboth : (signedDigits.both scale).run (ds ++ '\n' :: rest) = none := by
      simp [signedDigits_run h, hscale]
    rw [scaledFloat, run_filterMap, hboth]
    rfl
  have hspecial : specialFloat.run (ds ++ '\n' :: rest) = none := by
    rw [specialFloat, run_map, run_maybeAfter, hline.sign_run, run_orElse, run_map, run_map,
      hline.word_run (by decide) (by decide), hline.word_run (by decide) (by decide)]
    rfl
  rw [float, run_orElse, hscaled, hspecial]
  rfl

end Numeral

/-- A line of digits has no mark of another base. -/
theorem basedInteger_run_eq_none {s : List Char} (h : DigitLine s) {mark : Char} (base : Nat)
    (digit : mark.isDigit = false) (feed : mark ≠ '\n') :
    (basedInteger mark base).run s = none := by
  have hword : (word '0' [mark]).run s = none := by
    cases h with
    | ending rest => rfl
    | @digit c t hc ht =>
        have hmark : afterPrefix? [mark] t = none := by
          simpa using ht.exactly_run digit feed
        simpa [afterPrefix?] using fun _ : '0' = c => hmark
  rw [basedInteger, run_filterMap, run_after, hword]
  rfl

/-! ## Decimal digits -/

theorem toDigits_lead (n : Nat) :
    Nat.toDigits 10 n = ['0'] ∨ ∃ c r, Nat.toDigits 10 n = c :: r ∧ '1' ≤ c ∧ c ≤ '9' := by
  -- The leading digit of a number is that of its tenth.
  induction n using Nat.strongRecOn with
  | ind n ih =>
      by_cases hsmall : n < 10
      · have all : ∀ d : Fin 10, Nat.digitChar d = '0' ∨
            '1' ≤ Nat.digitChar d ∧ Nat.digitChar d ≤ '9' := by decide
        rw [Nat.toDigits_of_lt_base hsmall]
        rcases all ⟨n, hsmall⟩ with h | h
        · exact .inl (by simpa using h)
        · exact .inr ⟨_, [], rfl, h⟩
      · have hlarge : 10 ≤ n := Nat.le_of_not_lt hsmall
        rw [Nat.toDigits_of_base_le (by decide) hlarge]
        rcases ih (n / 10) (by omega) with h | ⟨c, r, h, hc⟩
        · -- Only zero is written with the digit zero, and a tenth of `n` is not zero.
          have hzero : n / 10 = 0 := by
            calc
              n / 10 = Nat.ofDigitChars 10 (Nat.toDigits 10 (n / 10)) 0 :=
                Nat.ofDigitChars_ten_toDigits.symm
              _ = 0 := by rw [h]; rfl
          omega
        · exact .inr ⟨c, r ++ [(n % 10).digitChar], by rw [h]; rfl, hc⟩

theorem isNumeral_toDigits (n : Nat) : IsNumeral (Nat.toDigits 10 n) :=
  ⟨fun _ hc => Nat.isDigit_of_mem_toDigits (by decide) (by decide) hc, toDigits_lead n⟩

theorem fitting?_natCast {n : Nat} (h : n ≤ 2 ^ 63 - 1) : fitting? (n : Int) = some (n : Int) := by
  have hrange : minInteger ≤ (n : Int) ∧ (n : Int) ≤ maxInteger := by
    simp only [minInteger, maxInteger]
    omega
  simp [fitting?, hrange]

/-- The digits of a number that fits into 64 bits are read back as that number. -/
theorem integer_run_toDigits {n : Nat} (h : n ≤ 2 ^ 63 - 1) (rest : List Char) :
    integer.run (Nat.toDigits 10 n ++ '\n' :: rest) = some ((n : Int), '\n' :: rest) := by
  have hnumeral := isNumeral_toDigits n
  have hline := digitLine_append hnumeral.digits rest
  have hdecimal : decimalInteger.run (Nat.toDigits 10 n ++ '\n' :: rest) =
      some ((n : Int), '\n' :: rest) := by
    simp [decimalInteger, signedDigits_run hnumeral, Nat.ofDigitChars_ten_toDigits,
      fitting?_natCast h]
  -- The other bases are tried first, and none has its mark on the line.
  rw [integer, run_orElse, run_orElse, run_orElse,
    basedInteger_run_eq_none hline 16 (by decide) (by decide),
    basedInteger_run_eq_none hline 8 (by decide) (by decide),
    basedInteger_run_eq_none hline 2 (by decide) (by decide), hdecimal]
  rfl

end Toml
end BuildStamp
