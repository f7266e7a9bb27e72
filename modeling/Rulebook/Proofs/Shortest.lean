import Mathlib.Algebra.Order.Field.Rat
import Mathlib.Data.Rat.Cast.Order
import Mathlib.Tactic.FieldSimp
import Mathlib.Tactic.Positivity.Basic
import Rulebook.Binary64.Decimal
import Rulebook.Proofs.Rounding

/-!
# The Shortest Decimal Reads Back

A number is written as the shortest decimal that is rounded to it. Which decimals these are is told
by a **neighbourhood** of the number, which reaches halfway to the numbers beside it. That covering
a decimal means being what it is rounded to is shown in three cases: above the magnitude, below it
on the same grid, and below a power of two, where the grid is finer.

The search ends with a decimal of eighteen digits if no shorter one is found, and such a decimal is
always covered.

## Main definitions

* `Decimal.value`: the rational number that a decimal is.

## Main results

* `Decimal.toBinary64_congr`: decimals of one value are rounded to one number.
* `Binary64.roundUnits_of_neighbourhood`: what a neighbourhood covers is rounded to its magnitude.
* `Binary64.covers_shortest`: the shortest decimal is covered.
* `Binary64.toBinary64_shortest`: the shortest decimal of a number is rounded to it.
-/

namespace Rulebook

/-! ### Decimals as rationals -/

namespace Decimal

variable {d d' : Decimal} {negative : Bool}

/-- The rational number that a decimal is. -/
def value (d : Decimal) : ℚ := d.digits * 10 ^ d.exponent

theorem scaleUp_pos (e : ℤ) : 0 < scaleUp e := Nat.pow_pos (by decide)

theorem scaleDown_pos (e : ℤ) : 0 < scaleDown e := Nat.pow_pos (by decide)

theorem pow_le_scaleUp {k : ℕ} {e : ℤ} (h : k ≤ e) : 10 ^ k ≤ scaleUp e :=
  Nat.pow_le_pow_right (by decide) (by omega)

theorem pow_le_scaleDown {k : ℕ} {e : ℤ} (h : k ≤ -e) : 10 ^ k ≤ scaleDown e :=
  Nat.pow_le_pow_right (by decide) (by omega)

theorem scaleUp_of_nonpos {e : ℤ} (h : e ≤ 0) : scaleUp e = 1 := by
  rw [scaleUp, Int.toNat_of_nonpos h]

theorem scaleDown_of_nonneg {e : ℤ} (h : 0 ≤ e) : scaleDown e = 1 := by
  rw [scaleDown, Int.toNat_of_nonpos (Int.neg_nonpos_of_nonneg h)]

/-- A power of ten is the one factor over the other. -/
theorem ten_zpow_eq (e : ℤ) : (10 : ℚ) ^ e = scaleUp e / scaleDown e := by
  rcases Int.le_total 0 e with he | he
  · obtain ⟨n, rfl⟩ := Int.eq_ofNat_of_zero_le he
    simp [scaleUp, scaleDown]
  · obtain ⟨n, hn⟩ := Int.eq_ofNat_of_zero_le (Int.neg_nonneg.mpr he)
    obtain rfl : e = -n := by omega
    simp [scaleUp, scaleDown]

theorem value_eq (d : Decimal) :
    d.value = (d.digits * scaleUp d.exponent : ℕ) / (scaleDown d.exponent : ℕ) := by
  rw [value, ten_zpow_eq, Nat.cast_mul, mul_div_assoc]

/-- Decimals of one value have one quotient. -/
theorem mul_scaleDown_of_value (h : d.value = d'.value) :
    d.digits * scaleUp d.exponent * scaleDown d'.exponent =
      d'.digits * scaleUp d'.exponent * scaleDown d.exponent := by
  rw [value_eq, value_eq, div_eq_div_iff (Nat.cast_ne_zero.mpr (scaleDown_pos _).ne')
    (Nat.cast_ne_zero.mpr (scaleDown_pos _).ne')] at h
  exact_mod_cast h

theorem toBinary64_large (hdigits : d.digits ≠ 0) (h : 310 < d.exponent) :
    Binary64.round negative (d.digits * scaleUp d.exponent * unitsPerOne) (scaleDown d.exponent) =
      .infinite negative := by
  refine Binary64.round_of_le (le_roundUnits (scaleDown_pos _) representable_overflowUnits ?_)
  have hscale : 10 ^ 310 ≤ d.digits * scaleUp d.exponent :=
    (pow_le_scaleUp (by omega)).trans (Nat.le_mul_of_pos_left _ (Nat.pos_of_ne_zero hdigits))
  rw [scaleDown_of_nonneg (by omega), Nat.mul_one]
  calc overflowUnits ≤ 10 ^ 310 * unitsPerOne := by decide +kernel
    _ ≤ d.digits * scaleUp d.exponent * unitsPerOne := Nat.mul_le_mul_right _ hscale

theorem toBinary64_small (h : d.exponent < -(d.digits.log2 + 400 : ℤ)) :
    Binary64.round negative (d.digits * scaleUp d.exponent * unitsPerOne) (scaleDown d.exponent) =
      .finite negative .zero := by
  have hhalf : 2 * (d.digits * unitsPerOne) ≤ scaleDown d.exponent :=
    calc 2 * (d.digits * unitsPerOne) ≤ 2 * (2 ^ (d.digits.log2 + 1) * unitsPerOne) :=
          Nat.mul_le_mul_left _ (Nat.mul_le_mul_right _ Nat.lt_log2_self.le)
      _ = 2 ^ d.digits.log2 * (4 * unitsPerOne) := by rw [Nat.pow_succ]; ring
      _ ≤ 10 ^ d.digits.log2 * 10 ^ 401 :=
          Nat.mul_le_mul (Nat.pow_le_pow_left (by decide) _) (by decide +kernel)
      _ = 10 ^ (d.digits.log2 + 401) := by rw [Nat.pow_add]
      _ ≤ scaleDown d.exponent := pow_le_scaleDown (by omega)
  rw [scaleUp_of_nonpos (by omega), Nat.mul_one]
  have hquotient : d.digits * unitsPerOne / scaleDown d.exponent = 0 := by
    have := scaleDown_pos d.exponent
    exact Nat.div_eq_of_lt (by omega)
  have hround : roundUnits (d.digits * unitsPerOne) (scaleDown d.exponent) = 0 :=
    roundUnits_eq_of_near (scaleDown_pos d.exponent) (Nat.zero_mul _)
      (congrArg (fun q => Nat.log2 q - 52) hquotient) (by simp) (by simpa using hhalf) (by simp)
  obtain ⟨m, hm, hfinite⟩ := Binary64.round_of_lt negative hround overflowUnits_pos
  rw [hfinite, Magnitude.eq_of_units (n := .zero) hm]

/-- **A decimal is rounded once**, also where its power of ten is not written out. -/
theorem toBinary64_eq_round (negative : Bool) (d : Decimal) :
    d.toBinary64 negative = .round negative (d.digits * scaleUp d.exponent * unitsPerOne)
      (scaleDown d.exponent) := by
  rw [toBinary64]
  split
  · next hdigits =>
      have hzero : 0 * 1 = Magnitude.zero.units * scaleDown d.exponent := (Nat.zero_mul _).symm
      rw [hdigits, Nat.zero_mul, Nat.zero_mul,
        Binary64.round_congr (scaleDown_pos _) Nat.one_pos hzero, Binary64.round_magnitude]
  · next hdigits =>
      split
      · next hlarge => exact (toBinary64_large hdigits hlarge).symm
      · split
        · next hsmall => exact (toBinary64_small hsmall).symm
        · rfl

/-- **Decimals of one value are rounded to one number.** -/
theorem toBinary64_congr (h : d.value = d'.value) :
    d.toBinary64 negative = d'.toBinary64 negative := by
  rw [toBinary64_eq_round, toBinary64_eq_round]
  refine Binary64.round_congr (scaleDown_pos _) (scaleDown_pos _) ?_
  rw [Nat.mul_right_comm, mul_scaleDown_of_value h, Nat.mul_right_comm]

end Decimal

namespace Binary64

/-! ### Neighbourhoods -/

section Neighbourhood

variable {units significand shift num den : ℕ}

/-- Two magnitudes on a grid are a step apart. -/
theorem add_step_le {m n step : ℕ} (h : m * step < n * step) : m * step + step ≤ n * step := by
  rw [← Nat.succ_mul]
  exact Nat.mul_le_mul_right _ (Nat.lt_of_mul_lt_mul_right h)

/-- A power of two lies on each coarser grid below it. -/
theorem mul_pow_sub {k : ℕ} (h : shift ≤ k) : 2 ^ (k - shift) * 2 ^ shift = 2 ^ k := by
  rw [← Nat.pow_add, Nat.sub_add_cancel h]

/-- A quotient between two powers of two. -/
theorem log2_div_eq {k : ℕ} (hden : 0 < den) (hlow : 2 ^ k * den ≤ num)
    (hhigh : num < 2 ^ (k + 1) * den) : (num / den).log2 = k := by
  have hle : 2 ^ k ≤ num / den := (Nat.le_div_iff_mul_le hden).mpr hlow
  have hpos : num / den ≠ 0 := Nat.ne_of_gt ((Nat.two_pow_pos k).trans_le hle)
  exact (Nat.log2_eq_iff hpos).mpr ⟨hle, (Nat.div_lt_iff_lt_mul hden).mpr hhigh⟩

/-- What lies at most half a step above a magnitude is rounded to it. -/
theorem roundUnits_of_above (hden : 0 < den) (hpos : 0 < units)
    (hunits : significand * 2 ^ shift = units) (hshift : units.log2 - 52 = shift)
    (hlow : units * den ≤ num) (hhigh : 2 * num ≤ 2 * (units * den) + 2 ^ shift * den)
    (htie : 2 * num = 2 * (units * den) + 2 ^ shift * den → significand % 2 = 0) :
    roundUnits num den = units := by
  have hstep : 0 < 2 ^ shift * den := Nat.mul_pos (Nat.two_pow_pos _) hden
  have hlog : (num / den).log2 = units.log2 := by
    refine log2_div_eq hden ?_ ?_
    · exact (Nat.mul_le_mul_right den (Nat.log2_self_le hpos.ne')).trans hlow
    · have hpow : 2 ^ (units.log2 + 1 - shift) * 2 ^ shift = 2 ^ (units.log2 + 1) :=
        mul_pow_sub (by omega)
      have hnext := add_step_le ((hunits.trans_lt Nat.lt_log2_self).trans_eq hpow.symm)
      rw [hunits, hpow] at hnext
      have hscaled := Nat.mul_le_mul_right den hnext
      rw [Nat.add_mul] at hscaled
      omega
  refine roundUnits_eq_of_near hden hunits (by rw [hlog, hshift]) (by omega) hhigh ?_
  rintro (hend | hend)
  · omega
  · exact htie hend

/-- What lies at most half a step below a magnitude is rounded to it, if it lies on the same
grid. -/
theorem roundUnits_of_below (hden : 0 < den) (hpos : 0 < units)
    (hunits : significand * 2 ^ shift = units) (hshift : units.log2 - 52 = shift)
    (hgrid : units = 2 ^ units.log2 → shift = 0) (hhigh : num < units * den)
    (hlow : 2 * (units * den) ≤ 2 * num + 2 ^ shift * den)
    (htie : 2 * (units * den) = 2 * num + 2 ^ shift * den → significand % 2 = 0) :
    roundUnits num den = units := by
  have hstep : 0 < 2 ^ shift * den := Nat.mul_pos (Nat.two_pow_pos _) hden
  have hlog : (num / den).log2 - 52 = shift := by
    have hle : (num / den).log2 ≤ units.log2 :=
      log2_le_log2 (Nat.le_of_lt ((Nat.div_lt_iff_lt_mul hden).mpr hhigh))
    rcases Nat.eq_zero_or_pos shift with hzero | hshiftpos
    · omega
    · -- The magnitude is not the power of two that it starts with, so it is a step beyond it.
      have hbeyond : 2 ^ units.log2 + 2 ^ shift ≤ units := by
        have hlt : 2 ^ units.log2 < units :=
          Nat.lt_of_le_of_ne (Nat.log2_self_le hpos.ne') fun heq =>
            hshiftpos.ne' (hgrid heq.symm)
        have hpow : 2 ^ (units.log2 - shift) * 2 ^ shift = 2 ^ units.log2 :=
          mul_pow_sub (by omega)
        have hstep := add_step_le (hpow.trans_lt (hlt.trans_eq hunits.symm))
        rwa [hpow, hunits] at hstep
      have hscaled := Nat.mul_le_mul_right den hbeyond
      rw [Nat.add_mul] at hscaled
      have hquotient : 2 ^ units.log2 ≤ num / den :=
        (Nat.le_div_iff_mul_le hden).mpr (by omega)
      have hge := log2_le_log2 hquotient
      rw [Nat.log2_two_pow] at hge
      omega
  refine roundUnits_eq_of_near hden hunits hlog hlow (by omega) ?_
  rintro (hend | hend)
  · exact htie hend
  · omega

/-- What lies at most a quarter of a step below a power of two is rounded to it: there the grid is
finer. -/
theorem roundUnits_of_below_pow {k : ℕ} (hden : 0 < den) (hk : 52 < k) (hhigh : num < 2 ^ k * den)
    (hlow : 4 * (2 ^ k * den) ≤ 4 * num + 2 ^ (k - 52) * den) :
    roundUnits num den = 2 ^ k := by
  obtain ⟨shift, rfl⟩ := Nat.exists_eq_add_of_lt hk
  have hhalf : 2 ^ (52 + shift + 1) * den = 2 * (2 ^ (52 + shift) * den) := by
    rw [Nat.pow_succ]
    ring
  have hstep : 2 ^ (52 + shift + 1 - 52) * den = 2 * (2 ^ shift * den) := by
    rw [show 52 + shift + 1 - 52 = shift + 1 by omega, Nat.pow_succ]
    ring
  have hsmall : 2 ^ shift * den ≤ 2 ^ (52 + shift) * den :=
    Nat.mul_le_mul_right den (Nat.pow_le_pow_right (by decide) (by omega))
  have hlog : (num / den).log2 = 52 + shift := log2_div_eq hden (by omega) hhigh
  have hunits : 2 ^ 53 * 2 ^ shift = 2 ^ (52 + shift + 1) := by
    rw [← Nat.pow_add]
    exact congrArg _ (by omega)
  exact roundUnits_eq_of_near hden hunits (by omega) (by omega) (by omega) fun _ => by decide

/-- How far a neighbourhood reaches below its magnitude, in quarters of a unit. -/
def reachBelow (units : ℕ) : ℕ :=
  if units = 2 ^ units.log2 ∧ 0 < units.log2 - 52 then 2 ^ (units.log2 - 52)
  else 2 * 2 ^ (units.log2 - 52)

/-- **What a neighbourhood covers is rounded to its magnitude.** -/
theorem roundUnits_of_neighbourhood (hden : 0 < den) (hpos : 0 < units) (h : Representable units)
    (hlow : 4 * (units * den) ≤ 4 * num + reachBelow units * den)
    (hhigh : 4 * num ≤ 4 * (units * den) + 2 * (2 ^ (units.log2 - 52) * den))
    (htie : 4 * (units * den) = 4 * num + reachBelow units * den ∨
      4 * num = 4 * (units * den) + 2 * (2 ^ (units.log2 - 52) * den) →
      units / 2 ^ (units.log2 - 52) % 2 = 0) :
    roundUnits num den = units := by
  obtain ⟨significand, hsignificand⟩ := h
  have hunits : significand * 2 ^ (units.log2 - 52) = units := by
    rw [Nat.mul_comm]
    exact hsignificand.symm
  have hquotient : units / 2 ^ (units.log2 - 52) = significand := by
    rw [Nat.div_eq_iff_eq_mul_left (Nat.two_pow_pos _) ⟨significand, hsignificand⟩]
    exact hunits.symm
  rw [hquotient] at htie
  rcases Nat.lt_or_ge num (units * den) with hbelow | habove
  · by_cases hpow : units = 2 ^ units.log2 ∧ 0 < units.log2 - 52
    · obtain ⟨heq, hshift⟩ := hpow
      rw [reachBelow, if_pos ⟨heq, hshift⟩] at hlow
      have hround := roundUnits_of_below_pow (k := units.log2) hden (by omega) (by rwa [← heq])
        (by rwa [← heq])
      rwa [← heq] at hround
    · rw [reachBelow, if_neg hpow, Nat.mul_assoc] at hlow htie
      refine roundUnits_of_below hden hpos hunits rfl ?_ hbelow (by omega) fun hend =>
        htie (.inl (by omega))
      intro heq
      by_contra hzero
      exact hpow ⟨heq, Nat.pos_of_ne_zero hzero⟩
  · exact roundUnits_of_above hden hpos hunits rfl habove (by omega) fun hend =>
      htie (.inr (by omega))

theorem reachBelow_le (hpos : 0 < units) : reachBelow units ≤ 2 * units := by
  have hpow : 2 ^ (units.log2 - 52) ≤ 2 ^ units.log2 :=
    Nat.pow_le_pow_right (by decide) (Nat.sub_le _ _)
  have hlog := Nat.log2_self_le hpos.ne'
  rw [reachBelow]
  split <;> omega

/-- What it is for a decimal to be covered, as an order of whole numbers. -/
theorem covers_neighbourhood_iff {d : Decimal} {num den : ℕ} (hpos : 0 < units)
    (hnum : num = d.digits * Decimal.scaleUp d.exponent * unitsPerOne)
    (hden : den = Decimal.scaleDown d.exponent) :
    (neighbourhood units).covers d = true ↔
      if units / 2 ^ (units.log2 - 52) % 2 = 0 then
        4 * (units * den) ≤ 4 * num + reachBelow units * den ∧
          4 * num ≤ 4 * (units * den) + 2 * (2 ^ (units.log2 - 52) * den)
      else
        4 * (units * den) < 4 * num + reachBelow units * den ∧
          4 * num < 4 * (units * den) + 2 * (2 ^ (units.log2 - 52) * den) := by
  have hvalue : d.digits * Decimal.scaleUp d.exponent * (4 * unitsPerOne) = 4 * num := by
    rw [hnum]
    ring
  have hhigh : (4 * units + 2 * 2 ^ (units.log2 - 52)) * den =
      4 * (units * den) + 2 * (2 ^ (units.log2 - 52) * den) := by ring
  have hlow : (4 * units - reachBelow units) * den =
      4 * (units * den) - reachBelow units * den := by
    rw [Nat.sub_mul, Nat.mul_assoc]
  have hnear : neighbourhood units = ⟨4 * units - reachBelow units,
    4 * units + 2 * 2 ^ (units.log2 - 52), units / 2 ^ (units.log2 - 52) % 2 == 0⟩ := rfl
  rw [hnear, Neighbourhood.covers, hvalue, ← hden, hhigh, hlow]
  by_cases heven : units / 2 ^ (units.log2 - 52) % 2 = 0
  · simp [heven]
  · have hreach := Nat.mul_le_mul_right den (reachBelow_le hpos)
    have hunits : 0 < units * den := Nat.mul_pos hpos (hden ▸ Decimal.scaleDown_pos _)
    rw [Nat.mul_assoc] at hreach
    simp [heven]
    omega

/-- **What a neighbourhood covers is rounded to its magnitude**, as decimals are written. -/
theorem toBinary64_of_covers {d : Decimal} {m : Magnitude} (negative : Bool) (hpos : 0 < m.units)
    (h : (neighbourhood m.units).covers d = true) : d.toBinary64 negative = .finite negative m := by
  have hden := Decimal.scaleDown_pos d.exponent
  rw [covers_neighbourhood_iff hpos rfl rfl] at h
  have hround : roundUnits (d.digits * Decimal.scaleUp d.exponent * unitsPerOne)
      (Decimal.scaleDown d.exponent) = m.units := by
    split at h
    · next heven =>
        exact roundUnits_of_neighbourhood hden hpos m.representable h.1 h.2 fun _ => heven
    · exact roundUnits_of_neighbourhood hden hpos m.representable h.1.le h.2.le
        fun hend => by omega
  obtain ⟨m', hunits, hfinite⟩ := round_of_lt negative hround m.bounded
  rw [Decimal.toBinary64_eq_round, hfinite, Magnitude.eq_of_units hunits]

end Neighbourhood

/-! ### The shortest decimal -/

section Shortest

variable {units : ℕ} {d : Decimal}

/-- A decimal that is found on a grid is covered. -/
theorem covers_of_onGrid? {e : ℤ} (h : onGrid? units e = some d) :
    (neighbourhood units).covers d = true := by
  simp only [onGrid?] at h
  split at h
  · next hbelow habove =>
      obtain rfl := Option.some.inj h
      have hle := roundHalfEven_le (units * Decimal.scaleDown e) (unitsPerOne * Decimal.scaleUp e)
      have hge := le_roundHalfEven (units * Decimal.scaleDown e) (unitsPerOne * Decimal.scaleUp e)
      rcases Nat.lt_or_eq_of_le hge with hlt | heq
      · rw [Nat.le_antisymm hle hlt]
        exact habove
      · rw [← heq]
        exact hbelow
  · next hbelow _ =>
      obtain rfl := Option.some.inj h
      exact hbelow
  · next _ habove =>
      obtain rfl := Option.some.inj h
      exact habove
  · cases h

/-- The power of ten that a positive number starts with. -/
theorem exists_decimalLength {n : ℕ} (hpos : 0 < n) :
    ∃ k, decimalLength n = k + 1 ∧ 10 ^ k ≤ n := by
  obtain ⟨k, hk⟩ := Nat.exists_eq_add_of_lt (Nat.length_toDigits_pos (b := 10) (n := n))
  rw [Nat.zero_add] at hk
  refine ⟨k, hk, ?_⟩
  rcases Nat.eq_zero_or_pos k with rfl | hkpos
  · exact hpos
  · have hlong : ¬(Nat.toDigits 10 n).length ≤ k := by omega
    rw [Nat.length_toDigits_le_iff (by decide) hkpos] at hlong
    exact Nat.le_of_not_lt hlong

theorem exists_decimalLength_scaled {j : ℕ} (h : unitsPerOne ≤ units * Nat.pow 10 j) :
    ∃ n, decimalLength (units * Nat.pow 10 j / unitsPerOne) = n + 1 ∧
      10 ^ n * unitsPerOne ≤ units * 10 ^ j := by
  obtain ⟨n, hlength, hle⟩ := exists_decimalLength (Nat.div_pos h unitsPerOne_pos)
  exact ⟨n, hlength, (Nat.le_div_iff_mul_le unitsPerOne_pos).mp hle⟩

/-- The leading exponent is not too great. -/
theorem exists_leadingExponent (hpos : 0 < units) :
    ∃ n j : ℕ, leadingExponent units = n - j ∧ 10 ^ n * unitsPerOne ≤ units * 10 ^ j := by
  have hscaled : unitsPerOne ≤ units * Nat.pow 10 400 :=
    calc unitsPerOne ≤ Nat.pow 10 400 := by decide +kernel
      _ ≤ units * Nat.pow 10 400 := Nat.le_mul_of_pos_left _ hpos
  obtain ⟨n, hlength, hle⟩ := exists_decimalLength_scaled hscaled
  refine ⟨n, _, ?_, hle⟩
  rw [leadingExponent, hlength]
  omega

/-- A grid on which a number has `k` more digits than its first. -/
theorem pow_mul_scaleUp_le {num den n j : ℕ} (k : ℕ) (h : 10 ^ n * den ≤ num * 10 ^ j) :
    10 ^ k * (den * Decimal.scaleUp (n - j - k)) ≤ num * Decimal.scaleDown (n - j - k) := by
  have hscale : Decimal.scaleUp (n - j - k) * 10 ^ (j + k) =
      Decimal.scaleDown (n - j - k) * 10 ^ n := by
    change 10 ^ (_ : ℕ) * _ = 10 ^ (_ : ℕ) * _
    rw [← Nat.pow_add, ← Nat.pow_add]
    exact congrArg _ (by omega)
  refine Nat.le_of_mul_le_mul_right ?_ (Nat.pow_pos (n := j) (by decide : 0 < 10))
  calc 10 ^ k * (den * Decimal.scaleUp (n - j - k)) * 10 ^ j
      = den * (Decimal.scaleUp (n - j - k) * 10 ^ (j + k)) := by rw [Nat.pow_add]; ring
    _ = Decimal.scaleDown (n - j - k) * (10 ^ n * den) := by rw [hscale]; ring
    _ ≤ Decimal.scaleDown (n - j - k) * (num * 10 ^ j) := Nat.mul_le_mul_left _ h
    _ = num * Decimal.scaleDown (n - j - k) * 10 ^ j := by ring

/-- A neighbourhood reaches down by more than the part of the magnitude that eighteen digits
leave. -/
theorem lt_pow_mul_reachBelow (units : ℕ) : units < 2 ^ 53 * reachBelow units := by
  have hstep : units < 2 ^ 53 * 2 ^ (units.log2 - 52) := by
    rw [← Nat.pow_add]
    exact Nat.lt_log2_self.trans_le (Nat.pow_le_pow_right (by decide) (by omega))
  refine hstep.trans_le (Nat.mul_le_mul_left _ ?_)
  rw [reachBelow]
  split <;> omega

/-- What is cut off on a fine grid is less than a neighbourhood reaches down. -/
theorem lt_cut_add {num grid reach : ℕ} (hgrid : 0 < grid) (hfine : 10 ^ 17 * grid ≤ num)
    (hreach : num < 2 ^ 53 * reach) : 4 * num < 4 * (grid * (num / grid)) + reach := by
  have hcut := Nat.div_add_mod num grid
  have hrest := Nat.mod_lt num hgrid
  omega

/-- Eighteen digits are enough, wherever they are cut off. -/
theorem covers_of_grid {e : ℤ} (hpos : 0 < units)
    (h : 10 ^ 17 * (unitsPerOne * Decimal.scaleUp e) ≤ units * Decimal.scaleDown e) :
    (neighbourhood units).covers
      ⟨units * Decimal.scaleDown e / (unitsPerOne * Decimal.scaleUp e), e⟩ = true := by
  have hreach := Nat.mul_lt_mul_of_pos_right (lt_pow_mul_reachBelow units)
    (Decimal.scaleDown_pos e)
  rw [Nat.mul_assoc] at hreach
  have hlow := lt_cut_add (Nat.mul_pos unitsPerOne_pos (Decimal.scaleUp_pos e)) h hreach
  have hstep : 0 < 2 * (2 ^ (units.log2 - 52) * Decimal.scaleDown e) :=
    Nat.mul_pos (by decide) (Nat.mul_pos (Nat.two_pow_pos _) (Decimal.scaleDown_pos e))
  have hhigh := (Nat.mul_le_mul_left 4 (Nat.mul_div_le (units * Decimal.scaleDown e)
    (unitsPerOne * Decimal.scaleUp e))).trans_lt (Nat.lt_add_of_pos_right hstep)
  have hnum : (unitsPerOne * Decimal.scaleUp e) *
      (units * Decimal.scaleDown e / (unitsPerOne * Decimal.scaleUp e)) =
      units * Decimal.scaleDown e / (unitsPerOne * Decimal.scaleUp e) * Decimal.scaleUp e *
        unitsPerOne := by ring
  refine (covers_neighbourhood_iff (d := ⟨_, e⟩) hpos hnum rfl).mpr ?_
  split
  · exact ⟨hlow.le, hhigh.le⟩
  · exact ⟨hlow, hhigh⟩

/-- **The shortest decimal is covered.** -/
theorem covers_shortest (hpos : 0 < units) :
    (neighbourhood units).covers (shortest units) = true := by
  simp only [shortest]
  cases hfound :
    (List.range 17).findSome? fun (n : ℕ) => onGrid? units (leadingExponent units - n) with
  | some d =>
      obtain ⟨n, -, hgrid⟩ := List.exists_of_findSome?_eq_some hfound
      exact covers_of_onGrid? hgrid
  | none =>
      obtain ⟨n, j, hleading, hle⟩ := exists_leadingExponent hpos
      rw [Option.getD_none, hleading]
      exact covers_of_grid hpos (pow_mul_scaleUp_le 17 hle)

/-- **The shortest decimal of a number is rounded to it.** -/
theorem toBinary64_shortest (negative : Bool) {m : Magnitude} (hpos : 0 < m.units) :
    (shortest m.units).toBinary64 negative = .finite negative m :=
  toBinary64_of_covers negative hpos (covers_shortest hpos)

/-- The shortest decimal of a positive number is not zero. -/
theorem digits_shortest_ne_zero {m : Magnitude} (hpos : 0 < m.units) :
    (shortest m.units).digits ≠ 0 := by
  intro hzero
  have hread := toBinary64_shortest false hpos
  rw [Decimal.toBinary64, if_pos hzero] at hread
  injection hread with _ hm
  exact hpos.ne (congrArg Magnitude.units hm)

end Shortest

end Binary64

end Rulebook
