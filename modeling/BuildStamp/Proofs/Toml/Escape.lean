import BuildStamp.Proofs.Text.Reader
import BuildStamp.Toml.Quote
import Mathlib.Tactic.SplitIfs

/-!
# Escape — characters between double quotes

Between double quotes a character stands for itself or is written as an escape.  Which of the two
the writer chooses is said once, in `Toml.escapeOther_spells`; everything about strings between
double quotes is derived from it.

* `Toml.IsEscape` — a text that the reader of escapes takes for one character;
* `Toml.Spells` — a text that stands for one character between double quotes;
* `Toml.reads_fourDigits` — four hexadecimal digits are read back as their number.
-/

namespace BuildStamp
namespace Toml

open Text.Reader

/-! ## Hexadecimal digits -/

theorem hexDigit?_toUpper_digitChar {d : Nat} (h : d < 16) :
    hexDigit? (Nat.digitChar d).toUpper = some d := by
  have all : ∀ d : Fin 16, hexDigit? (Nat.digitChar d).toUpper = some d.val := by decide
  exact all ⟨d, h⟩

/-- Four digits are read back, in whatever case they are written. -/
theorem reads_hexDigits {digit : Nat → Char} (h : ∀ d < 16, hexDigit? (digit d) = some d)
    (n : Nat) :
    (hexDigits 3).Reads ([n / 4096 % 16, n / 256 % 16, n / 16 % 16, n % 16].map digit)
      [n / 4096 % 16, n / 256 % 16, n / 16 % 16, n % 16] := by
  intro rest
  have hread (m : Nat) (rest : List Char) :
      hexDigit.run (digit (m % 16) :: rest) = some (m % 16, rest) := by
    simp [hexDigit, h (m % 16) (Nat.mod_lt m (by decide))]
  simp [hexDigits, hread]

theorem reads_fourDigits (n : Nat) :
    (hexDigits 3).Reads (fourDigits n)
      [n / 4096 % 16, n / 256 % 16, n / 16 % 16, n % 16] :=
  reads_hexDigits (fun _ h => hexDigit?_toUpper_digitChar h) n

theorem hexValue_fourDigits {n : Nat} (h : n < 65536) :
    hexValue [n / 4096 % 16, n / 256 % 16, n / 16 % 16, n % 16] = n := by
  simp only [hexValue, List.foldl_cons, List.foldl_nil]
  omega

theorem scalar?_toNat (c : Char) : scalar? c.toNat = some c := by
  have h : c.toNat.isValidChar := c.valid
  simp [scalar?, h, Char.ofNat_toNat]

/-! ## Escapes -/

/-- Reading the text as an escape gives the character, and the text is no line end that is taken
back: something other than a blank or a line end stands behind the backslash. -/
structure IsEscape (written : List Char) (c : Char) : Prop where
  reads : escape.Reads written c
  -- What stands behind the backslash.
  mark : ∃ m rest, written = '\\' :: m :: rest ∧ isBlankChar m = false ∧ m ≠ '\n' ∧ m ≠ '\r'

theorem IsEscape.letter {m c : Char} (h : letterEscape.Reads [m] c) (blank : isBlankChar m = false)
    (feed : m ≠ '\n') (ret : m ≠ '\r') : IsEscape ['\\', m] c := by
  refine ⟨?_, m, [], rfl, blank, feed, ret⟩
  intro rest
  have hm : letterEscape.run (m :: rest) = some (c, rest) := h rest
  simp [escape, afterPrefix?, hm]

theorem IsEscape.number {c : Char} (h : c.toNat < 65536) :
    IsEscape ('\\' :: 'u' :: fourDigits c.toNat) c := by
  refine ⟨?_, 'u', _, rfl, by decide, by decide, by decide⟩
  intro rest
  have hletter : letterEscape.run ('u' :: (fourDigits c.toNat ++ rest)) = none := rfl
  have hdigits := reads_fourDigits c.toNat rest
  simp [escape, afterPrefix?, hletter, hdigits, hexValue_fourDigits h, scalar?_toNat]

theorem IsEscape.quote : IsEscape ['\\', '"'] '"' :=
  .letter (fun _ => rfl) (by decide) (by decide) (by decide)

/-! ## Characters between double quotes -/

/-- The ways in which a text stands for a character between double quotes. -/
inductive Spells (lines : Bool) : List Char → Char → Prop where
  | plain {c : Char} : isBasicPlain c = true → Spells lines [c] c
  -- A line feed stands for itself where lines are kept.
  | lineFeed : lines = true → Spells lines ['\n'] '\n'
  | escaped {written : List Char} {c : Char} : IsEscape written c → Spells lines written c

theorem isPlain_of_not_isControl {c : Char} (control : isControl c = false) (feed : c ≠ '\n') :
    isPlain c = true := by
  simp only [isControl, Bool.or_eq_false_iff, Bool.and_eq_false_iff, decide_eq_false_iff_not,
    Char.not_lt] at control
  obtain ⟨hlow, hdel⟩ := control
  -- Of the controls, the tab and the line feed are not counted as such.
  rcases hlow with (hle | htab) | hfeed
  · simp [isPlain, hle, hdel]
  · simp_all [isPlain]
  · simp_all

theorem isBasicPlain_of_not_isControl {c : Char} (control : isControl c = false) (feed : c ≠ '\n')
    (quote : c ≠ '"') (backslash : c ≠ '\\') : isBasicPlain c = true := by
  simp [isBasicPlain, isPlain_of_not_isControl control feed, quote, backslash]

theorem isLiteralPlain_of_not_isControl {c : Char} (control : isControl c = false)
    (feed : c ≠ '\n') (quote : c ≠ '\'') : isLiteralPlain c = true := by
  simp [isLiteralPlain, isPlain_of_not_isControl control feed, quote]

/-- A control character has a number of two hexadecimal digits. -/
theorem toNat_lt_of_isControl {c : Char} (h : isControl c = true) : c.toNat < 65536 := by
  simp only [isControl, Bool.or_eq_true, Bool.and_eq_true, decide_eq_true_eq] at h
  rcases h with ⟨⟨hlow, -⟩, -⟩ | rfl
  · have : c.toNat < ' '.toNat := hlow
    exact Nat.lt_trans this (by decide)
  · decide

/-- What the writer does to a character that is no double quote. -/
theorem escapeOther_spells (lines : Bool) {c : Char} (quote : c ≠ '"') :
    Spells lines (escapeOther lines c) c := by
  unfold escapeOther
  -- In the order of the writer: the short escapes, kept line feeds, numbers, all other characters.
  split_ifs with backslash backspace tab feed keep formFeed ret control
  · subst backslash
    exact .escaped (.letter (fun _ => rfl) (by decide) (by decide) (by decide))
  · subst backspace
    exact .escaped (.letter (fun _ => rfl) (by decide) (by decide) (by decide))
  · subst tab
    exact .escaped (.letter (fun _ => rfl) (by decide) (by decide) (by decide))
  · subst feed
    exact .lineFeed keep
  · subst feed
    exact .escaped (.letter (fun _ => rfl) (by decide) (by decide) (by decide))
  · subst formFeed
    exact .escaped (.letter (fun _ => rfl) (by decide) (by decide) (by decide))
  · subst ret
    exact .escaped (.letter (fun _ => rfl) (by decide) (by decide) (by decide))
  · exact .escaped (.number (toNat_lt_of_isControl control))
  · exact .plain (isBasicPlain_of_not_isControl (by simpa using control) feed quote backslash)

/-- A text that stands for a character is not empty.  It begins with no double quote, and with a
line end only where it stands for one. -/
theorem Spells.head {lines : Bool} {written : List Char} {c : Char} (h : Spells lines written c) :
    ∃ d rest, written = d :: rest ∧ d ≠ '"' ∧ d ≠ '\r' ∧ (d = '\n' → c = '\n') := by
  cases h with
  | plain hc =>
      have other : ∀ d, isBasicPlain d = false → c ≠ d := by
        rintro d hd rfl
        simp [hd] at hc
      exact ⟨c, [], rfl, other '"' (by decide), other '\r' (by decide), id⟩
  | lineFeed keep => exact ⟨'\n', [], rfl, by decide, by decide, id⟩
  | escaped he =>
      obtain ⟨m, rest, rfl, -⟩ := he.mark
      exact ⟨'\\', m :: rest, rfl, by decide, by decide, fun h => absurd h (by decide)⟩

end Toml
end BuildStamp
