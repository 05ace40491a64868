/-!
# Order — texts compared character by character

Texts are compared at the first place at which they differ, so what they begin with decides before
what stands behind it, as long as both beginnings have one length.  Digits in equal number are
compared like the numbers that they stand for.

* `Text.compare_toList` — a text is compared as the row of its characters;
* `Text.compare_append` — rows behind others of one length;
* `Text.compare_mul_add` — numbers, by a quotient and a remainder;
* `Text.compare_digits` — digits in equal number.
-/

namespace BuildStamp
namespace Text

/-! ## Outcomes -/

/-- What comes second does not matter unless the first is undecided. -/
theorem then_congr {o x y : Ordering} (h : o = .eq → x = y) : o.then x = o.then y := by
  cases o with
  | eq => exact h rfl
  | lt => rfl
  | gt => rfl

theorem compare_eq_of {a b : Int} {o : Ordering} (hlt : o = .lt → a < b) (heq : o = .eq → a = b)
    (hgt : o = .gt → b < a) : compare a b = o := by
  cases o with
  | lt => exact Int.compare_eq_lt.2 (hlt rfl)
  | eq => exact Std.compare_eq_iff_eq.2 (heq rfl)
  | gt => exact Int.compare_eq_gt.2 (hgt rfl)

theorem compare_add_right (a b c : Int) : compare (a + c) (b + c) = compare a b := by
  apply compare_eq_of
  · intro h
    exact Int.add_lt_add_right (Int.compare_eq_lt.1 h) c
  · intro h
    rw [Std.compare_eq_iff_eq.1 h]
  · intro h
    exact Int.add_lt_add_right (Int.compare_eq_gt.1 h) c

theorem compare_natCast (m n : Nat) : compare (m : Int) (n : Int) = compare m n := by
  apply compare_eq_of
  · intro h
    exact Int.ofNat_lt.2 (Nat.compare_eq_lt.1 h)
  · intro h
    exact congrArg Int.ofNat (Nat.compare_eq_eq.1 h)
  · intro h
    exact Int.ofNat_lt.2 (Nat.compare_eq_gt.1 h)

/-- A smaller quotient makes a number smaller, whatever the remainders are. -/
theorem mul_add_lt {k r s : Nat} {a b : Int} (hr : r < k) (h : a < b) :
    a * k + r < b * k + s := by
  have hstep : (a + 1) * k ≤ b * k := Int.mul_le_mul_of_nonneg_right h (Int.natCast_nonneg k)
  rw [Int.add_mul, Int.one_mul] at hstep
  omega

/-- Numbers are compared by their quotients, and where these are equal by their remainders. -/
theorem compare_mul_add {k r s : Nat} (hr : r < k) (hs : s < k) (a b : Int) :
    compare (a * k + r) (b * k + s) = (compare a b).then (compare r s) := by
  apply compare_eq_of
  · intro h
    rcases Ordering.then_eq_lt.1 h with hquotient | ⟨hquotient, hremainder⟩
    · exact mul_add_lt hr (Int.compare_eq_lt.1 hquotient)
    · obtain rfl := Std.compare_eq_iff_eq.1 hquotient
      exact Int.add_lt_add_left (Int.ofNat_lt.2 (Nat.compare_eq_lt.1 hremainder)) _
  · intro h
    rcases Ordering.then_eq_eq.1 h with ⟨hquotient, hremainder⟩
    obtain rfl := Std.compare_eq_iff_eq.1 hquotient
    rw [Nat.compare_eq_eq.1 hremainder]
  · intro h
    rcases Ordering.then_eq_gt.1 h with hquotient | ⟨hquotient, hremainder⟩
    · exact mul_add_lt hs (Int.compare_eq_gt.1 hquotient)
    · obtain rfl := Std.compare_eq_iff_eq.1 hquotient
      exact Int.add_lt_add_left (Int.ofNat_lt.2 (Nat.compare_eq_gt.1 hremainder)) _

theorem compare_mul_add_nat {k r s : Nat} (hr : r < k) (hs : s < k) (a b : Nat) :
    compare (a * k + r) (b * k + s) = (compare a b).then (compare r s) := by
  rw [← compare_natCast, ← compare_natCast a b, ← compare_mul_add hr hs]
  simp only [Int.natCast_add, Int.natCast_mul]

/-! ## Rows of characters -/

theorem compare_char_eq_lt_iff {c d : Char} : compare c d = .lt ↔ c < d :=
  compareOfLessAndEq_eq_lt

theorem compare_eq_lt_iff {cs ds : List Char} : compare cs ds = .lt ↔ cs < ds := by
  induction cs generalizing ds with
  | nil => cases ds <;> simp
  | cons c cs ih =>
      cases ds with
      | nil => simp
      | cons d ds =>
          rw [List.compare_cons_cons, Ordering.then_eq_lt, List.cons_lt_cons_iff, ih,
            compare_char_eq_lt_iff, Std.compare_eq_iff_eq]

/-- Texts are compared like the rows of their characters. -/
theorem compare_toList (s t : String) : compare s t = compare s.toList t.toList := by
  have hlt (s t : String) : compare s t = .lt ↔ compare s.toList t.toList = .lt :=
    calc
      compare s t = .lt ↔ s < t := compareOfLessAndEq_eq_lt
      _ ↔ s.toList < t.toList := String.lt_iff
      _ ↔ compare s.toList t.toList = .lt := compare_eq_lt_iff.symm
  cases h : compare s.toList t.toList with
  | lt => exact (hlt s t).2 h
  | eq =>
      obtain rfl := String.toList_injective (Std.compare_eq_iff_eq.1 h)
      exact Std.compare_self
  | gt =>
      have hswap : compare t.toList s.toList = .lt := by
        rw [Std.OrientedOrd.eq_swap, h]
        rfl
      rw [Std.OrientedOrd.eq_swap, (hlt t s).2 hswap]
      rfl

/-- What two rows of one length begin with decides before what stands behind it. -/
theorem compare_append {cs ds xs ys : List Char} (h : cs.length = ds.length) :
    compare (cs ++ xs) (ds ++ ys) = (compare cs ds).then (compare xs ys) := by
  induction cs generalizing ds with
  | nil =>
      obtain rfl := List.eq_nil_of_length_eq_zero h.symm
      rfl
  | cons c cs ih =>
      cases ds with
      | nil => cases h
      | cons d ds =>
          rw [List.cons_append, List.cons_append, List.compare_cons_cons, List.compare_cons_cons,
            ih (Nat.succ.inj h), Ordering.then_assoc]

/-! ## Digits -/

theorem compare_digit {c d : Char} (hc : c.isDigit = true) (hd : d.isDigit = true) :
    compare (c.toNat - '0'.toNat) (d.toNat - '0'.toNat) = compare c d := by
  have hzero : '0'.toNat = 48 := rfl
  rw [Char.isDigit_iff_toNat] at hc hd
  rcases Std.lt_trichotomy c d with hless | rfl | hgreater
  · rw [compare_char_eq_lt_iff.2 hless, Nat.compare_eq_lt]
    have hnumber : c.toNat < d.toNat := hless
    omega
  · rw [Std.compare_self, Std.compare_self]
  · rw [Std.OrientedOrd.eq_swap (a := c), compare_char_eq_lt_iff.2 hgreater, Ordering.swap_lt,
      Nat.compare_eq_gt]
    have hnumber : d.toNat < c.toNat := hgreater
    omega

/-- Behind digits that were read before, digits in equal number add the same to both numbers. -/
theorem compare_ofDigitChars {cs ds : List Char} (hlength : cs.length = ds.length)
    (hcs : ∀ c ∈ cs, c.isDigit = true) (hds : ∀ d ∈ ds, d.isDigit = true) (m n : Nat) :
    compare (Nat.ofDigitChars 10 cs m) (Nat.ofDigitChars 10 ds n) =
      (compare m n).then (compare cs ds) := by
  -- The numbers read so far are generalized: the digits in front have decided, or they are equal.
  induction cs generalizing ds m n with
  | nil =>
      obtain rfl := List.eq_nil_of_length_eq_zero hlength.symm
      simp
  | cons c cs ih =>
      cases ds with
      | nil => cases hlength
      | cons d ds =>
          rw [List.forall_mem_cons] at hcs hds
          have hbound {e : Char} (he : e.isDigit = true) : e.toNat - '0'.toNat < 10 := by
            have hzero : '0'.toNat = 48 ∧ '9'.toNat = 57 := ⟨rfl, rfl⟩
            rw [Char.isDigit_iff_toNat] at he
            omega
          rw [Nat.ofDigitChars_cons, Nat.ofDigitChars_cons, ih (Nat.succ.inj hlength) hcs.2 hds.2,
            Nat.mul_comm 10 m, Nat.mul_comm 10 n,
            compare_mul_add_nat (hbound hcs.1) (hbound hds.1), compare_digit hcs.1 hds.1,
            List.compare_cons_cons, Ordering.then_assoc]

/-- Digits in equal number are compared like their numbers. -/
theorem compare_digits {cs ds : List Char} (hlength : cs.length = ds.length)
    (hcs : ∀ c ∈ cs, c.isDigit = true) (hds : ∀ d ∈ ds, d.isDigit = true) :
    compare cs ds = compare (Nat.ofDigitChars 10 cs 0) (Nat.ofDigitChars 10 ds 0) := by
  rw [compare_ofDigitChars hlength hcs hds, Nat.compare_eq_eq.2 rfl]
  rfl

end Text
end BuildStamp
