import Reckoner.Proofs.Reals
import Reckoner.Stacks
/-!
# Powers

Raising one finite double to the power of another, over any primitive that
keeps to the real power (`Power.Faithful`): it says where there is none and
where there is one beyond the range. The tests that are made around the
primitive then part the operands without a gap (`Power.undefined_iff`), and
a power beyond the range comes out with the sign of the real one
(`Power.rpow_neg_iff`).
-/

namespace Reckoner

namespace Power

open Number

variable {power : Float → Float → Power} {a b : Float} {x y : ℝ}

/-! ## Real powers -/

/-- Zero has no negative powers, and a number less than zero none that are
not whole. -/
def Undefined (x y : ℝ) : Prop :=
  x = 0 ∧ y < 0 ∨ x < 0 ∧ ¬ ∃ n : ℤ, y = n

/-- Beyond the range of the doubles: half a step above the greatest of
them, from where on rounding to the nearest gives none. -/
def Beyond (x : ℝ) : Prop :=
  ((2 ^ 1024 - 2 ^ 970 : ℤ) : ℝ) ≤ |x|

/-- **The sign of a power:** it is negative where the base is and the
exponent is odd. -/
theorem rpow_neg_iff (h : ¬ Undefined x y) :
    x ^ y < 0 ↔ x < 0 ∧ ∃ n : ℤ, Odd n ∧ y = n := by
  rcases le_or_gt 0 x with hx | hx
  · have hnonneg : 0 ≤ x ^ y := Real.rpow_nonneg hx y
    exact iff_of_false (not_lt.2 hnonneg) fun hneg => not_lt.2 hx hneg.1
  · obtain ⟨n, rfl⟩ : ∃ n : ℤ, y = n := by
      by_contra hwhole
      exact h (Or.inr ⟨hx, hwhole⟩)
    rw [Real.rpow_intCast]
    rcases Int.even_or_odd n with heven | hodd
    · have hpos : 0 < x ^ n := heven.zpow_pos hx.ne
      refine iff_of_false (not_lt.2 hpos.le) ?_
      rintro ⟨-, m, hodd, hm⟩
      rw [← Int.cast_inj.1 hm, ← Int.not_even_iff_odd] at hodd
      exact hodd heven
    · exact iff_of_true (hodd.zpow_neg hx) ⟨hx, n, hodd, rfl⟩

/-! ## Powers of doubles -/

/-- **A primitive that keeps to the real power** of finite doubles: it says
where there is none, and where it is beyond the range. -/
structure Faithful (power : Float → Float → Power) : Prop where
  undefined_iff : ∀ a b, (shape a).isFinite = true → (shape b).isFinite = true →
    (power a b = .undefined ↔ Undefined (shape a).real (shape b).real)
  overflow_iff : ∀ a b, (shape a).isFinite = true → (shape b).isFinite = true →
    ¬ Undefined (shape a).real (shape b).real →
    (power a b = .overflow ↔ Beyond ((shape a).real ^ (shape b).real))

/-- The test on the shapes is whether there is no power. -/
theorem undefined_iff (ha : (shape a).isFinite = true) (hb : (shape b).isFinite = true) :
    ((shape a).isZero && (shape b).isNegative || (shape a).isNegative && !(shape b).isWhole) = true
      ↔ Undefined (shape a).real (shape b).real := by
  have hwhole : (!(shape b).isWhole) = true ↔ ¬ ∃ n : ℤ, (shape b).real = n := by
    rw [Bool.not_eq_true', ← Bool.not_eq_true, Shape.isWhole_iff hb]
  rw [Bool.or_eq_true, Bool.and_eq_true, Bool.and_eq_true, Shape.isZero_iff ha,
    Shape.isNegative_iff ha, Shape.isNegative_iff hb, hwhole]
  rfl

/-- **The primitive that runs** is faithful, if the power of the processor
is infinite where the real one is beyond the range. -/
theorem faithful_of
    (h : ∀ a b, (shape a).isFinite = true → (shape b).isFinite = true →
      ¬ Undefined (shape a).real (shape b).real →
      ((∃ negative, shape (Float.pow a b) = .infinite negative) ↔
        Beyond ((shape a).real ^ (shape b).real))) :
    Faithful of where
  undefined_iff a b ha hb := by
    rw [← undefined_iff ha hb, of]
    simp only [ha, hb, Bool.and_self, if_true]
    split_ifs with hundefined
    · exact iff_of_true rfl hundefined
    · refine iff_of_false ?_ hundefined
      split <;> exact Power.noConfusion
  overflow_iff a b ha hb hdefined := by
    rw [← h a b ha hb hdefined, of]
    simp only [ha, hb, Bool.and_self, if_true, if_neg (mt (undefined_iff ha hb).1 hdefined)]
    split
    · next negative hinfinite => exact iff_of_true rfl ⟨negative, hinfinite⟩
    · next hfinite =>
      exact iff_of_false Power.noConfusion fun ⟨negative, hinfinite⟩ => hfinite negative hinfinite

open Classical in
/-- The primitive that goes by the real power alone. -/
noncomputable def ideal (a b : Float) : Power :=
  if Undefined (shape a).real (shape b).real then undefined
  else if Beyond ((shape a).real ^ (shape b).real) then overflow
  else value (Float.pow a b)

theorem faithful_ideal : Faithful ideal where
  undefined_iff a b _ _ := by
    by_cases hundefined : Undefined (shape a).real (shape b).real
    · exact iff_of_true (if_pos hundefined) hundefined
    · refine iff_of_false ?_ hundefined
      rw [ideal, if_neg hundefined]
      split <;> exact Power.noConfusion
  overflow_iff a b _ _ hdefined := by
    rw [ideal, if_neg hdefined]
    by_cases hbeyond : Beyond ((shape a).real ^ (shape b).real)
    · exact iff_of_true (if_pos hbeyond) hbeyond
    · refine iff_of_false ?_ hbeyond
      rw [if_neg hbeyond]
      exact Power.noConfusion

/-! ## Raising -/

theorem shape_infinity (negative : Bool) : shape (infinity negative) = .infinite negative := by
  cases negative <;> decide +kernel

/-- A negative power of zero is refused before the primitive is asked. -/
theorem raiseWith_of_zero (ha : (shape a).isFinite = true) (hb : (shape b).isFinite = true)
    (hzero : (shape a).real = 0 ∧ (shape b).real < 0) :
    raiseWith power a b = .error .zeroToNegativePower := by
  rw [← Shape.isZero_iff ha, ← Shape.isNegative_iff hb, ← Bool.and_eq_true] at hzero
  exact if_pos hzero

/-- For all else the primitive is. -/
theorem raiseWith_of_not_zero (ha : (shape a).isFinite = true) (hb : (shape b).isFinite = true)
    (hzero : ¬ ((shape a).real = 0 ∧ (shape b).real < 0)) :
    raiseWith power a b =
      match power a b with
      | value r => .ok r
      | undefined => .error (.negativeToFractionalPower a b)
      | overflow => .ok (infinity ((shape a).isNegative && (shape b).isOdd)) := by
  rw [← Shape.isZero_iff ha, ← Shape.isNegative_iff hb, ← Bool.and_eq_true] at hzero
  exact if_neg hzero

/-- **Raising fails** where there is no power, and says why. -/
theorem raiseWith_eq_error_iff (h : Faithful power) (ha : (shape a).isFinite = true)
    (hb : (shape b).isFinite = true) {fault : Fault} :
    raiseWith power a b = .error fault ↔
      ((shape a).real = 0 ∧ (shape b).real < 0) ∧ fault = .zeroToNegativePower ∨
      ((shape a).real < 0 ∧ ¬ ∃ n : ℤ, (shape b).real = n) ∧
        fault = .negativeToFractionalPower a b := by
  by_cases hzero : (shape a).real = 0 ∧ (shape b).real < 0
  · rw [raiseWith_of_zero ha hb hzero]
    constructor
    · intro hfault
      cases hfault
      exact Or.inl ⟨hzero, rfl⟩
    · rintro (⟨-, rfl⟩ | ⟨⟨hnegative, -⟩, -⟩)
      · rfl
      · exact absurd hzero.1 hnegative.ne
  · rw [raiseWith_of_not_zero ha hb hzero]
    constructor
    · intro hfault
      cases hpower : power a b with
      | undefined =>
        rw [hpower] at hfault
        cases hfault
        exact Or.inr ⟨((h.undefined_iff a b ha hb).1 hpower).resolve_left hzero, rfl⟩
      | _ =>
        rw [hpower] at hfault
        cases hfault
    · rintro (⟨hzero', -⟩ | ⟨hnegative, rfl⟩)
      · exact absurd hzero' hzero
      · rw [(h.undefined_iff a b ha hb).2 (Or.inr hnegative)]

/-- **Within the range** it gives what the primitive gives. -/
theorem raiseWith_of_within (h : Faithful power) (ha : (shape a).isFinite = true)
    (hb : (shape b).isFinite = true) (hdefined : ¬ Undefined (shape a).real (shape b).real)
    (hwithin : ¬ Beyond ((shape a).real ^ (shape b).real)) :
    ∃ r, power a b = value r ∧ raiseWith power a b = .ok r := by
  rw [raiseWith_of_not_zero ha hb (mt Or.inl hdefined)]
  cases hpower : power a b with
  | value r => exact ⟨r, rfl, rfl⟩
  | undefined => exact absurd ((h.undefined_iff a b ha hb).1 hpower) hdefined
  | overflow => exact absurd ((h.overflow_iff a b ha hb hdefined).1 hpower) hwithin

/-- **Beyond the range** it gives an infinity, negative where the base is and
the exponent leaves one of two. -/
theorem raiseWith_of_beyond (h : Faithful power) (ha : (shape a).isFinite = true)
    (hb : (shape b).isFinite = true) (hdefined : ¬ Undefined (shape a).real (shape b).real)
    (hbeyond : Beyond ((shape a).real ^ (shape b).real)) :
    ∃ r negative, raiseWith power a b = .ok r ∧ shape r = .infinite negative ∧
      (negative = true ↔
        (shape a).real < 0 ∧ (shape b).real - 2 * ⌊(shape b).real / 2⌋ = 1) := by
  refine ⟨_, (shape a).isNegative && (shape b).isOdd, ?_, shape_infinity _, ?_⟩
  · rw [raiseWith_of_not_zero ha hb (mt Or.inl hdefined),
      (h.overflow_iff a b ha hb hdefined).2 hbeyond]
  · rw [Bool.and_eq_true, Shape.isNegative_iff ha, Shape.isOdd_iff_remainder hb]

/-- **Raising a finite double to a finite power** fails where there is no
real power, and in no other way. Elsewhere it has the value that the
primitive gives, or beyond the range an infinity of the sign of the real
power, which is negative where the base is and the exponent is odd. -/
theorem raiseWith_finite (h : Faithful power) (ha : (shape a).isFinite = true)
    (hb : (shape b).isFinite = true) :
    ((∃ fault, raiseWith power a b = .error fault) ↔ Undefined (shape a).real (shape b).real) ∧
    (∀ fault, raiseWith power a b = .error fault → fault.kind? = some .invalidDomain) ∧
    (¬ Undefined (shape a).real (shape b).real →
      ¬ Beyond ((shape a).real ^ (shape b).real) →
      ∃ r, power a b = value r ∧ raiseWith power a b = .ok r) ∧
    (¬ Undefined (shape a).real (shape b).real →
      Beyond ((shape a).real ^ (shape b).real) →
      ∃ r negative, raiseWith power a b = .ok r ∧ shape r = .infinite negative ∧
        (negative = true ↔ (shape a).real ^ (shape b).real < 0) ∧
        (negative = true ↔ (shape a).real < 0 ∧ ∃ n : ℤ, Odd n ∧ (shape b).real = n)) := by
  refine ⟨⟨?_, ?_⟩, ?_, raiseWith_of_within h ha hb, ?_⟩
  · rintro ⟨fault, hfault⟩
    exact ((raiseWith_eq_error_iff h ha hb).1 hfault).imp And.left And.left
  · rintro (hzero | hnegative)
    · exact ⟨_, (raiseWith_eq_error_iff h ha hb).2 (Or.inl ⟨hzero, rfl⟩)⟩
    · exact ⟨_, (raiseWith_eq_error_iff h ha hb).2 (Or.inr ⟨hnegative, rfl⟩)⟩
  · intro fault hfault
    rcases (raiseWith_eq_error_iff h ha hb).1 hfault with ⟨-, rfl⟩ | ⟨-, rfl⟩
    · rfl
    · rfl
  · intro hdefined hbeyond
    obtain ⟨r, negative, hr, hshape, hsign⟩ := raiseWith_of_beyond h ha hb hdefined hbeyond
    rw [← Shape.isOdd_iff_remainder hb, Shape.isOdd_iff hb] at hsign
    exact ⟨r, negative, hr, hshape, hsign.trans (rpow_neg_iff hdefined).symm, hsign⟩

/-- **A negative power of a small negative base,** beyond the range and odd,
is negative infinity. -/
theorem raiseWith_finite_negative_exponent :
    Faithful ideal ∧ (shape (-0.5)).isFinite = true ∧ (shape (-1025)).isFinite = true ∧
      ∃ r, raiseWith ideal (-0.5) (-1025) = .ok r ∧ shape r = .infinite true := by
  have hbase : shape (-0.5) = .finite true 4503599627370496 (-53) := by decide +kernel
  have hexponent : shape (-1025) = .finite true 4507997673881600 (-42) := by decide +kernel
  have hx : (shape (-0.5)).real = -1 / 2 := by
    rw [hbase, Shape.real]
    norm_num
  have hy : (shape (-1025)).real = ((-1025 : ℤ) : ℝ) := by
    rw [hexponent, Shape.real]
    norm_num
  have ha : (shape (-0.5)).isFinite = true := by rw [hbase]; rfl
  have hb : (shape (-1025)).isFinite = true := by rw [hexponent]; rfl
  have hdefined : ¬ Undefined (shape (-0.5)).real (shape (-1025)).real := by
    rintro (⟨hzero, -⟩ | ⟨-, hwhole⟩)
    · rw [hx] at hzero
      norm_num at hzero
    · exact hwhole ⟨_, hy⟩
  have hbeyond : Beyond ((shape (-0.5)).real ^ (shape (-1025)).real) := by
    have hhalf : |(-1 / 2 : ℝ)| = 2⁻¹ := by rw [abs_of_neg] <;> norm_num
    rw [hx, hy, Real.rpow_intCast, Beyond, abs_zpow, hhalf, inv_zpow', neg_neg, Int.cast_sub,
      Int.cast_pow, Int.cast_pow, Int.cast_ofNat]
    calc (2 : ℝ) ^ 1024 - 2 ^ 970 ≤ 2 ^ 1024 := sub_le_self _ (by positivity)
      _ ≤ 2 ^ 1025 := pow_le_pow_right₀ one_le_two (by omega)
      _ = 2 ^ (1025 : ℤ) := (zpow_natCast _ _).symm
  obtain ⟨-, -, -, hinfinite⟩ := raiseWith_finite faithful_ideal ha hb
  obtain ⟨r, negative, hr, hshape, -, hsign⟩ := hinfinite hdefined hbeyond
  have hnegative : negative = true := by
    refine hsign.2 ⟨?_, -1025, by decide, hy⟩
    rw [hx]
    norm_num
  exact ⟨faithful_ideal, ha, hb, r, hr, hnegative ▸ hshape⟩

end Power

end Reckoner
