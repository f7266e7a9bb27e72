import Mathlib.Algebra.Order.Ring.Nat
import Mathlib.Tactic.Linarith
import Mathlib.Tactic.Ring
import Rulebook.Binary64

/-!
# Rounding Is Monotone

A quotient of so many units is rounded to the representable magnitude nearest to it. How coarse the
grid is on which that magnitude lies hangs on the quotient itself, so that the order of two
quotients is kept on two grounds: on one grid whole numbers are rounded in order, and between two
grids stands a power of two, which neither rounding passes.

So rounding never reverses an order, though it may make two numbers one. What it is exact on is not
touched, and nothing is carried past a representable magnitude.

## Main results

* `roundHalfEven_mono`, `roundUnits_mono`: rounding is monotone.
* `roundUnits_congr`: it depends on the quotient alone.
* `le_roundUnits`: it does not fall below a representable magnitude.
* `roundUnits_eq_of_near`: what lies within half a step of a magnitude is rounded to it.
* `Binary64.ofInt?_eq_none_iff`: which integers are too large.
-/

namespace Rulebook

/-! ### To whole numbers -/

section Whole

variable {n d n' d' : ℕ}

theorem div_le_div_of_mul_le (hd : 0 < d) (hd' : 0 < d') (h : n * d' ≤ n' * d) :
    n / d ≤ n' / d' := by
  rw [Nat.le_div_iff_mul_le hd']
  refine Nat.le_of_mul_le_mul_right ?_ hd
  calc n / d * d' * d = n / d * d * d' := Nat.mul_right_comm _ _ _
    _ ≤ n * d' := Nat.mul_le_mul_right _ (Nat.div_mul_le_self n d)
    _ ≤ n' * d := h

/-- **Rounding to whole numbers is monotone.** -/
theorem roundHalfEven_mono (hd : 0 < d) (hd' : 0 < d') (h : n * d' ≤ n' * d) :
    roundHalfEven n d ≤ roundHalfEven n' d' := by
  rcases Nat.lt_or_eq_of_le (div_le_div_of_mul_le hd hd' h) with hlt | hwhole
  · calc roundHalfEven n d ≤ n / d + 1 := roundHalfEven_le n d
      _ ≤ n' / d' := hlt
      _ ≤ roundHalfEven n' d' := le_roundHalfEven n' d'
  · -- Between the same whole numbers the rests decide.
    have hrest : n % d * d' ≤ n' % d' * d := by
      have hn := Nat.div_add_mod n d
      have hn' := Nat.div_add_mod n' d'
      rw [hwhole] at hn
      nlinarith
    simp only [roundHalfEven, hwhole]
    by_cases hbelow : 2 * (n % d) < d
    · rw [if_pos hbelow]
      split
      · exact Nat.le_refl _
      · split <;> omega
    · have hnot : ¬2 * (n' % d') < d' := fun hlt => by nlinarith
      rw [if_neg hbelow, if_neg hnot]
      by_cases habove : d < 2 * (n % d)
      · have hlt : d' < 2 * (n' % d') := by
          by_contra hle
          nlinarith
        rw [if_pos habove, if_pos hlt]
      · rw [if_neg habove]
        split <;> omega

/-- What lies within a half of a whole number is rounded to it, at both ends if it is even. -/
theorem roundHalfEven_eq {m : ℕ} (hd : 0 < d) (hlow : 2 * m * d ≤ 2 * n + d)
    (hhigh : 2 * n ≤ 2 * m * d + d)
    (htie : 2 * m * d = 2 * n + d ∨ 2 * n = 2 * m * d + d → m % 2 = 0) :
    roundHalfEven n d = m := by
  have hn := Nat.div_add_mod n d
  have hmod := Nat.mod_lt n hd
  simp only [roundHalfEven]
  generalize n / d = whole at *
  generalize n % d = rest at *
  have hle : whole ≤ m := by
    by_contra hlt
    have hstep : d * (m + 1) ≤ d * whole := Nat.mul_le_mul_left d (by omega)
    nlinarith
  have hge : m ≤ whole + 1 := by
    by_contra hlt
    have hstep : d * (whole + 2) ≤ d * m := Nat.mul_le_mul_left d (by omega)
    nlinarith
  obtain rfl | rfl : m = whole ∨ m = whole + 1 := by omega
  · have hdm : 2 * m * d = 2 * (d * m) := by ring
    rw [hdm] at hlow hhigh htie
    split
    · rfl
    · split <;> omega
  · have hdm : 2 * (whole + 1) * d = 2 * (d * whole) + 2 * d := by ring
    rw [hdm] at hlow hhigh htie
    split
    · omega
    · split <;> omega

end Whole

/-! ### To magnitudes -/

section Units

variable {num den num' den' : ℕ}

theorem roundUnits_of_shift {shift : ℕ} (h : (num / den).log2 - 52 = shift) :
    roundUnits num den = roundHalfEven num (den * 2 ^ shift) * 2 ^ shift := by
  rw [roundUnits, h]
  rfl

/-- What is below a power of two is not rounded past it. -/
theorem roundUnits_le_pow {k : ℕ} (h : num / den < 2 ^ k) : roundUnits num den ≤ 2 ^ k := by
  obtain ⟨shift, hshift⟩ : ∃ shift, (num / den).log2 - 52 = shift := ⟨_, rfl⟩
  have hle : shift ≤ k := by
    by_cases hzero : num / den = 0
    · rw [hzero] at hshift
      exact hshift ▸ Nat.zero_le _
    · have := (Nat.log2_lt hzero).mpr h
      omega
  rw [roundUnits_of_shift hshift, ← Nat.sub_add_cancel hle, Nat.pow_add]
  refine Nat.mul_le_mul_right _ ((roundHalfEven_le _ _).trans ?_)
  rw [← Nat.div_div_eq_div_mul, Nat.succ_le_iff, Nat.div_lt_iff_lt_mul (Nat.two_pow_pos _),
    ← Nat.pow_add, Nat.sub_add_cancel hle]
  exact h

/-- Nothing is rounded below the power of two that it starts with. -/
theorem pow_log2_le_roundUnits (h : num / den ≠ 0) : 2 ^ (num / den).log2 ≤ roundUnits num den := by
  obtain ⟨shift, hshift⟩ : ∃ shift, (num / den).log2 - 52 = shift := ⟨_, rfl⟩
  have hle : shift ≤ (num / den).log2 := by omega
  rw [roundUnits_of_shift hshift]
  calc 2 ^ (num / den).log2 = 2 ^ ((num / den).log2 - shift) * 2 ^ shift := by
        rw [← Nat.pow_add, Nat.sub_add_cancel hle]
    _ ≤ num / (den * 2 ^ shift) * 2 ^ shift := by
        refine Nat.mul_le_mul_right _ ?_
        rw [← Nat.div_div_eq_div_mul, Nat.le_div_iff_mul_le (Nat.two_pow_pos _), ← Nat.pow_add,
          Nat.sub_add_cancel hle]
        exact Nat.log2_self_le h
    _ ≤ _ := Nat.mul_le_mul_right _ (le_roundHalfEven _ _)

theorem log2_le_log2 {m n : ℕ} (h : m ≤ n) : m.log2 ≤ n.log2 := by
  by_cases hm : m = 0
  · rw [hm, Nat.log2_zero]
    exact Nat.zero_le _
  · exact (Nat.le_log2 (by omega)).mpr ((Nat.log2_self_le hm).trans h)

/-- **Rounding is monotone.** -/
theorem roundUnits_mono (hden : 0 < den) (hden' : 0 < den') (h : num * den' ≤ num' * den) :
    roundUnits num den ≤ roundUnits num' den' := by
  have hquotient : num / den ≤ num' / den' := div_le_div_of_mul_le hden hden' h
  by_cases hlog : (num / den).log2 < (num' / den').log2
  · -- The power of two that the greater quotient starts with stands between both.
    have hpos' : num' / den' ≠ 0 := by
      intro hzero
      rw [hzero, Nat.log2_zero] at hlog
      exact Nat.not_lt_zero _ hlog
    refine Nat.le_trans (roundUnits_le_pow ?_) (pow_log2_le_roundUnits hpos')
    exact Nat.lt_of_lt_of_le Nat.lt_log2_self (Nat.pow_le_pow_right (by omega) hlog)
  · have hsame : (num / den).log2 = (num' / den').log2 :=
      Nat.le_antisymm (log2_le_log2 hquotient) (Nat.le_of_not_lt hlog)
    rw [roundUnits_of_shift (congrArg (· - 52) hsame), roundUnits_of_shift rfl]
    refine Nat.mul_le_mul_right _ (roundHalfEven_mono (Nat.mul_pos hden (Nat.two_pow_pos _))
      (Nat.mul_pos hden' (Nat.two_pow_pos _)) ?_)
    rw [← Nat.mul_assoc, ← Nat.mul_assoc]
    exact Nat.mul_le_mul_right _ h

/-- **Rounding depends on the quotient alone.** -/
theorem roundUnits_congr (hden : 0 < den) (hden' : 0 < den') (h : num * den' = num' * den) :
    roundUnits num den = roundUnits num' den' :=
  Nat.le_antisymm (roundUnits_mono hden hden' h.le) (roundUnits_mono hden' hden h.ge)

/-- A representable number of units is not rounded. -/
theorem roundUnits_one {units : ℕ} (h : Representable units) : roundUnits units 1 = units := by
  have hround := roundUnits_of_representable 1 Nat.one_pos h
  rwa [Nat.mul_one] at hround

theorem le_roundUnits {units : ℕ} (hden : 0 < den) (h : Representable units)
    (hle : units * den ≤ num) : units ≤ roundUnits num den := by
  have hmono : roundUnits units 1 ≤ roundUnits num den :=
    roundUnits_mono Nat.one_pos hden (by rwa [Nat.mul_one])
  rwa [roundUnits_one h] at hmono

/-- **What lies within half a step of a magnitude is rounded to it**, at both ends if its
significand is even. -/
theorem roundUnits_eq_of_near {units significand shift : ℕ} (hden : 0 < den)
    (hunits : significand * 2 ^ shift = units) (hshift : (num / den).log2 - 52 = shift)
    (hlow : 2 * (units * den) ≤ 2 * num + 2 ^ shift * den)
    (hhigh : 2 * num ≤ 2 * (units * den) + 2 ^ shift * den)
    (htie : 2 * (units * den) = 2 * num + 2 ^ shift * den ∨
      2 * num = 2 * (units * den) + 2 ^ shift * den → significand % 2 = 0) :
    roundUnits num den = units := by
  subst hunits
  have hscaled : 2 * (significand * 2 ^ shift * den) = 2 * significand * (2 ^ shift * den) := by
    ring
  rw [hscaled] at hlow hhigh htie
  rw [roundUnits_of_shift hshift, Nat.mul_comm den,
    roundHalfEven_eq (Nat.mul_pos (Nat.two_pow_pos _) hden) hlow hhigh htie]

theorem representable_pow (k : ℕ) : Representable (Nat.pow 2 k) := by
  have h := representable_mul_pow k (m := 1) (by decide)
  rwa [Nat.one_mul] at h

theorem representable_overflowUnits : Representable overflowUnits := by
  unfold overflowUnits
  exact representable_pow overflowExponent

theorem representable_unitsPerOne : Representable unitsPerOne := by
  unfold unitsPerOne
  exact representable_pow unitExponent

end Units

/-! ### To numbers -/

theorem Magnitude.eq_of_units {m n : Magnitude} (h : m.units = n.units) : m = n := by
  obtain ⟨units, _, _⟩ := m
  obtain ⟨units', _, _⟩ := n
  obtain rfl : units = units' := h
  rfl

namespace Binary64

variable {num den num' den' : ℕ} {negative : Bool}

theorem round_of_lt (negative : Bool) {units : ℕ} (h : roundUnits num den = units)
    (hbound : units < overflowUnits) :
    ∃ m : Magnitude, m.units = units ∧ round negative num den = .finite negative m := by
  subst h
  refine ⟨⟨_, representable_roundUnits num den, hbound⟩, rfl, ?_⟩
  simp only [round, hbound, dite_true]

theorem round_of_le (h : overflowUnits ≤ roundUnits num den) :
    round negative num den = .infinite negative := by
  simp only [round, Nat.not_lt_of_le h, dite_false]

/-- The number nearest to a quotient depends on the quotient alone. -/
theorem round_congr (hden : 0 < den) (hden' : 0 < den') (h : num * den' = num' * den) :
    round negative num den = round negative num' den' := by
  simp only [round, roundUnits_congr hden hden' h]

theorem round_magnitude (m : Magnitude) : round negative m.units 1 = .finite negative m := by
  obtain ⟨m', hunits, hround⟩ := round_of_lt negative
    (roundUnits_one m.representable) m.bounded
  rw [hround, Magnitude.eq_of_units hunits]

/-- An integer that is not too large is rounded to a finite number of its sign. -/
theorem exists_magnitude_of_ofInt? {n : ℤ} {x : Binary64} (h : ofInt? n = some x) :
    ∃ m : Magnitude, m.units = roundUnits (n.natAbs * unitsPerOne) 1 ∧
      x = .finite (decide (n < 0)) m := by
  obtain ⟨hround, hfinite⟩ := finite?_eq_some_iff.mp h
  by_cases hover : overflowUnits ≤ roundUnits (n.natAbs * unitsPerOne) 1
  · rw [← hround, round_of_le hover] at hfinite
    cases hfinite
  · obtain ⟨m, hunits, hm⟩ := round_of_lt (decide (n < 0)) rfl (Nat.lt_of_not_le hover)
    exact ⟨m, hunits, hround.symm.trans hm⟩

/-- A multiple of an integer has the sign of the integer. -/
theorem mul_eq_signed (n : ℤ) (k : ℕ) : n * k = signed (decide (n < 0)) (n.natAbs * k) := by
  by_cases hn : n < 0
  · rw [decide_eq_true hn, signed, if_pos rfl, Int.natCast_mul, Int.ofNat_natAbs_of_nonpos hn.le,
      Int.neg_mul, Int.neg_neg]
  · rw [decide_eq_false hn, signed, if_neg Bool.false_ne_true, Int.natCast_mul,
      Int.natAbs_of_nonneg (Int.le_of_not_gt hn)]

/-- The first whole number that counts as infinite: it lies halfway between the greatest finite
number and `2¹⁰²⁴`. -/
def firstTooLarge : ℕ := 2 ^ 1024 - 2 ^ 970

/-- Rounding overflows there, and not just before. -/
theorem roundUnits_of_firstTooLarge :
    roundUnits ((firstTooLarge - 1) * unitsPerOne) 1 < overflowUnits ∧
      overflowUnits ≤ roundUnits (firstTooLarge * unitsPerOne) 1 := by
  decide +kernel

/-- **Which integers are too large** to be rounded to a finite number. -/
theorem ofInt?_eq_none_iff {n : ℤ} : ofInt? n = none ↔ firstTooLarge ≤ n.natAbs := by
  have hiff : ofInt? n = none ↔ overflowUnits ≤ roundUnits (n.natAbs * unitsPerOne) 1 := by
    rw [ofInt?]
    by_cases h : overflowUnits ≤ roundUnits (n.natAbs * unitsPerOne) 1
    · rw [round_of_le h]
      exact iff_of_true rfl h
    · obtain ⟨m, -, hround⟩ := round_of_lt (decide (n < 0)) rfl (Nat.lt_of_not_le h)
      rw [hround]
      exact iff_of_false (fun hnone => by cases hnone) h
  rw [hiff]
  constructor
  · intro h
    by_contra hlt
    have hbelow : n.natAbs ≤ firstTooLarge - 1 := by omega
    have hmono : roundUnits (n.natAbs * unitsPerOne) 1 ≤
        roundUnits ((firstTooLarge - 1) * unitsPerOne) 1 :=
      roundUnits_mono Nat.one_pos Nat.one_pos
        (Nat.mul_le_mul_right _ (Nat.mul_le_mul_right _ hbelow))
    exact Nat.not_lt_of_le (h.trans hmono) roundUnits_of_firstTooLarge.1
  · intro h
    exact roundUnits_of_firstTooLarge.2.trans (roundUnits_mono Nat.one_pos Nat.one_pos
      (Nat.mul_le_mul_right _ (Nat.mul_le_mul_right _ h)))

end Binary64

end Rulebook
