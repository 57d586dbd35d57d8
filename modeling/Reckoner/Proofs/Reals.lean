import Mathlib.Analysis.SpecialFunctions.Pow.Real
import Reckoner.Number.Shape
/-!
# Doubles as real numbers

The real number that a finite shape stands for, and what the tests on a
shape say of it: zero, less than zero, whole and odd (`Shape.isZero_iff`,
`Shape.isNegative_iff`, `Shape.isWhole_iff`, `Shape.isOdd_iff`). A whole
number is odd where its remainder by two, rounded down, is one, whatever
its sign and size (`Shape.isOdd_iff_remainder`).
-/

namespace Reckoner

namespace Number

/-- A power of two is a quotient of two that are whole. -/
theorem two_zpow_eq (e : ℤ) : (2 : ℝ) ^ e = (wholePower 2 e : ℝ) / (wholePower 2 (-e) : ℝ) := by
  have hsplit : e = (e.toNat : ℤ) - ((-e).toNat : ℤ) := by omega
  rw [wholePower, wholePower, Nat.pow_eq, Nat.pow_eq, Nat.cast_pow, Nat.cast_pow, Nat.cast_two]
  conv_lhs => rw [hsplit]
  rw [zpow_sub₀ two_ne_zero, zpow_natCast, zpow_natCast]

theorem wholePower_pos (e : ℤ) : 0 < wholePower 2 e :=
  Nat.pow_pos two_pos

theorem wholePower_of_nonpos {e : ℤ} (h : e ≤ 0) : wholePower 2 e = 1 := by
  have hzero : e.toNat = 0 := by omega
  rw [wholePower, hzero]

theorem even_wholePower {e : ℤ} (h : 0 < e) : Even (wholePower 2 e) := by
  rw [wholePower, Nat.pow_eq, Nat.even_pow]
  exact ⟨even_two, by omega⟩

namespace Shape

variable {s : Shape} {negative : Bool} {significand : ℕ} {exponent n : ℤ}

/-- **The real number a shape stands for;** zero where there is none. -/
noncomputable def real : Shape → ℝ
  | .finite negative significand exponent =>
    (if negative then -1 else 1) * (significand * 2 ^ exponent)
  | _ => 0

theorem exists_eq_finite (h : s.isFinite = true) :
    ∃ negative significand exponent, s = finite negative significand exponent := by
  cases s with
  | nan => cases h
  | infinite negative => cases h
  | finite negative significand exponent => exact ⟨_, _, _, rfl⟩

/-! ## Zero and sign -/

theorem isZero_iff (h : s.isFinite = true) : s.isZero = true ↔ s.real = 0 := by
  obtain ⟨negative, significand, exponent, rfl⟩ := exists_eq_finite h
  have hsign : (if negative = true then -1 else 1 : ℝ) ≠ 0 := by split <;> norm_num
  have hpow : (2 : ℝ) ^ exponent ≠ 0 := zpow_ne_zero _ two_ne_zero
  have hzero : (finite negative significand exponent).isZero = true ↔ significand = 0 := by
    cases significand <;> simp [isZero]
  rw [hzero, real, mul_eq_zero_iff_left hsign, mul_eq_zero_iff_right hpow, Nat.cast_eq_zero]

theorem isNegative_iff (h : s.isFinite = true) : s.isNegative = true ↔ s.real < 0 := by
  obtain ⟨negative, significand, exponent, rfl⟩ := exists_eq_finite h
  have hpow : (0 : ℝ) < 2 ^ exponent := zpow_pos two_pos _
  cases negative with
  | false =>
    have hnonneg : (0 : ℝ) ≤ significand * 2 ^ exponent := by positivity
    simpa [isNegative, real] using hnonneg
  | true => simp [isNegative, real, hpow, Nat.pos_iff_ne_zero]

theorem abs_real :
    |(finite negative significand exponent).real| = significand * 2 ^ exponent := by
  have hnonneg : (0 : ℝ) ≤ significand * 2 ^ exponent := by positivity
  cases negative <;> simp only [real, if_true, if_false, Bool.false_eq_true, one_mul, neg_mul,
    abs_neg, abs_of_nonneg hnonneg]

/-! ## Whole and odd numbers -/

/-- **The whole number** that a finite shape stands for, if the
significand is cut where the exponent says. -/
theorem real_of_dvd (h : wholePower 2 (-exponent) ∣ significand) :
    (finite negative significand exponent).real =
      (((if negative then -1 else 1) *
        (significand / wholePower 2 (-exponent) * wholePower 2 exponent : ℕ) : ℤ) : ℝ) := by
  obtain ⟨k, rfl⟩ := h
  have hpos := wholePower_pos (-exponent)
  have hne : (wholePower 2 (-exponent) : ℝ) ≠ 0 := by exact_mod_cast hpos.ne'
  rw [real, two_zpow_eq, Nat.mul_div_cancel_left k hpos]
  push_cast
  congr 1
  field_simp

/-- And it cuts off nothing where the shape stands for one. -/
theorem dvd_of_real_eq (h : (finite negative significand exponent).real = n) :
    wholePower 2 (-exponent) ∣ significand := by
  by_cases hexponent : 0 ≤ exponent
  · rw [wholePower_of_nonpos (by omega)]
    exact one_dvd _
  · have hne : (wholePower 2 (-exponent) : ℝ) ≠ 0 := by
      exact_mod_cast (wholePower_pos _).ne'
    have habs : (n.natAbs : ℝ) = significand * 2 ^ exponent := by
      rw [Nat.cast_natAbs, Int.cast_abs, ← h, abs_real]
    rw [two_zpow_eq, wholePower_of_nonpos (by omega : exponent ≤ 0), Nat.cast_one,
      mul_one_div, eq_div_iff hne] at habs
    exact ⟨n.natAbs, by rw [mul_comm]; exact_mod_cast habs.symm⟩

theorem isWhole_iff (h : s.isFinite = true) : s.isWhole = true ↔ ∃ n : ℤ, s.real = n := by
  obtain ⟨negative, significand, exponent, rfl⟩ := exists_eq_finite h
  have hdvd : (finite negative significand exponent).isWhole = true ↔
      wholePower 2 (-exponent) ∣ significand := by
    rw [isWhole, beq_iff_eq, Nat.dvd_iff_mod_eq_zero]
  rw [hdvd]
  exact ⟨fun h => ⟨_, real_of_dvd h⟩, fun ⟨n, hn⟩ => dvd_of_real_eq hn⟩

/-- A whole number is odd where the significand is, cut where the exponent
says, and nothing is behind it. -/
theorem isOdd_of_real_eq (h : (finite negative significand exponent).real = n) :
    (finite negative significand exponent).isOdd = true ↔ Odd n := by
  have hdvd := dvd_of_real_eq h
  have hwhole : (finite negative significand exponent).isWhole = true :=
    (isWhole_iff rfl).2 ⟨n, h⟩
  have hn : n = (if negative then -1 else 1) *
      (significand / wholePower 2 (-exponent) * wholePower 2 exponent : ℕ) := by
    have hreal : (finite negative significand exponent).real = _ := real_of_dvd hdvd
    rw [h] at hreal
    exact_mod_cast hreal
  have hodd : Odd n ↔ Odd (significand / wholePower 2 (-exponent) * wholePower 2 exponent) := by
    rw [hn, ← Int.odd_coe_nat]
    cases negative with
    | false => rw [if_neg Bool.false_ne_true, one_mul]
    | true => rw [if_pos rfl, neg_one_mul, odd_neg]
  rw [hodd, isOdd, hwhole, Bool.true_and, Bool.and_eq_true, decide_eq_true_iff, beq_iff_eq]
  by_cases hexponent : exponent ≤ 0
  · rw [wholePower_of_nonpos hexponent, mul_one, Nat.odd_iff]
    exact and_iff_right hexponent
  · have heven := even_wholePower (lt_of_not_ge hexponent)
    rw [Nat.odd_mul, ← Nat.not_even_iff_odd (n := wholePower 2 exponent)]
    exact iff_of_false (fun h => hexponent h.1) (fun h => h.2 heven)

theorem isOdd_iff (h : s.isFinite = true) :
    s.isOdd = true ↔ ∃ n : ℤ, Odd n ∧ s.real = n := by
  obtain ⟨negative, significand, exponent, rfl⟩ := exists_eq_finite h
  constructor
  · intro hodd
    have hwhole : (finite negative significand exponent).isWhole = true := by
      rw [isOdd, Bool.and_eq_true, Bool.and_eq_true] at hodd
      exact hodd.1.1
    obtain ⟨n, hn⟩ := (isWhole_iff rfl).1 hwhole
    exact ⟨n, (isOdd_of_real_eq hn).1 hodd, hn⟩
  · rintro ⟨n, hodd, hn⟩
    exact (isOdd_of_real_eq hn).2 hodd

/-- **An odd number** has the remainder one by two, rounded down. -/
theorem isOdd_iff_remainder (h : s.isFinite = true) :
    s.isOdd = true ↔ s.real - 2 * ⌊s.real / 2⌋ = 1 := by
  rw [isOdd_iff h]
  constructor
  · rintro ⟨n, ⟨k, rfl⟩, hn⟩
    have hfloor : ⌊s.real / 2⌋ = k := by
      rw [hn, Int.floor_eq_iff]
      push_cast
      constructor <;> linarith
    rw [hfloor, hn]
    push_cast
    ring
  · intro hremainder
    refine ⟨2 * ⌊s.real / 2⌋ + 1, odd_two_mul_add_one _, ?_⟩
    push_cast
    linarith

end Shape

end Number

end Reckoner
