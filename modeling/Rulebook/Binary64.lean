/-!
# Binary64 numbers

The numbers of a tenant's data that carry a fraction are IEEE 754 binary64 numbers. Every finite
one is a whole multiple of the smallest positive one, `2⁻¹⁰⁷⁴`, so a finite number is held here as
a sign and a count of those **units**. Two finite numbers are then compared by comparing integers,
and each arithmetic operation is an exact quotient of integers followed by one rounding, `round`.

## Main definitions

* `Representable n`: `n` units are a finite binary64 magnitude;
* `roundUnits num den`: the representable magnitude nearest to `num / den` units, a tie going to
  the even significand;
* `Binary64`, its order `lt` and `le`, and its arithmetic `add`, `mul`, `divNat`, `ofInt?`.

## Main results

* `representable_roundUnits`: rounding gives a representable magnitude;
* `roundUnits_of_representable`: a representable magnitude rounds to itself.
-/

namespace Rulebook

/-! ### Magnitudes -/

/-- A unit is `2⁻¹⁰⁷⁴`, the smallest positive number of the format. -/
def unitExponent : Nat := 1074

/-- Magnitudes end at `2¹⁰²⁴`, which is `2²⁰⁹⁸` units. -/
def overflowExponent : Nat := 1024 + unitExponent

/-- The number of units in one. -/
def unitsPerOne : Nat := Nat.pow 2 unitExponent

/-- The first magnitude that is too large, in units. -/
def overflowUnits : Nat := Nat.pow 2 overflowExponent

theorem pow_two_pos (k : Nat) : 0 < Nat.pow 2 k := Nat.two_pow_pos k

theorem unitsPerOne_pos : 0 < unitsPerOne := by
  unfold unitsPerOne
  exact pow_two_pos unitExponent

theorem overflowUnits_pos : 0 < overflowUnits := by
  unfold overflowUnits
  exact pow_two_pos overflowExponent

/-- A magnitude is representable when at most 53 significant bits stand before its trailing
zeros. -/
def Representable (n : Nat) : Prop := Nat.pow 2 (n.log2 - 52) ∣ n

instance (n : Nat) : Decidable (Representable n) :=
  inferInstanceAs (Decidable (_ ∣ _))

/-- The whole number nearest to `num / den`; a half goes to the even neighbour. -/
def roundHalfEven (num den : Nat) : Nat :=
  let whole := num / den
  let rest := 2 * (num % den)
  if rest < den then whole
  else if den < rest then whole + 1
  else whole + whole % 2

/-- The magnitude nearest to `num / den` units that has at most 53 significant bits, a tie going
to the even significand. -/
def roundUnits (num den : Nat) : Nat :=
  let shift := (num / den).log2 - 52
  roundHalfEven num (den * Nat.pow 2 shift) * Nat.pow 2 shift

theorem le_roundHalfEven (num den : Nat) : num / den ≤ roundHalfEven num den := by
  simp only [roundHalfEven]
  split
  · exact Nat.le_refl _
  · split <;> omega

theorem roundHalfEven_le (num den : Nat) : roundHalfEven num den ≤ num / den + 1 := by
  simp only [roundHalfEven]
  split
  · omega
  · split <;> omega

/-- A quotient without remainder is its own rounding. -/
theorem roundHalfEven_mul (n den : Nat) (h : 0 < den) : roundHalfEven (n * den) den = n := by
  simp [roundHalfEven, Nat.mul_div_cancel _ h, h]

theorem representable_mul_pow {m : Nat} (k : Nat) (h : m ≤ Nat.pow 2 53) :
    Representable (m * Nat.pow 2 k) := by
  change m ≤ 2 ^ 53 at h
  change 2 ^ ((m * 2 ^ k).log2 - 52) ∣ m * 2 ^ k
  rcases Nat.eq_zero_or_pos m with rfl | hm
  · simp
  rcases Nat.lt_or_eq_of_le h with hlt | rfl
  · have hne : m * 2 ^ k ≠ 0 := Nat.mul_ne_zero (by omega) (Nat.ne_of_gt (Nat.two_pow_pos k))
    have hlog : (m * 2 ^ k).log2 < 53 + k := by
      rw [Nat.log2_lt hne, Nat.pow_add]
      exact Nat.mul_lt_mul_of_pos_right hlt (Nat.two_pow_pos k)
    have hle : (m * 2 ^ k).log2 - 52 ≤ k := by omega
    exact Nat.dvd_trans (Nat.pow_dvd_pow 2 hle) (Nat.dvd_mul_left _ _)
  · rw [← Nat.pow_add]
    exact Nat.pow_dvd_pow 2 (by rw [Nat.log2_two_pow]; omega)

theorem representable_of_le {n : Nat} (h : n ≤ Nat.pow 2 53) : Representable n := by
  have hscaled := representable_mul_pow 0 h
  change Representable (n * 1) at hscaled
  rwa [Nat.mul_one] at hscaled

/-- Rounding gives a representable magnitude. -/
theorem representable_roundUnits (num den : Nat) : Representable (roundUnits num den) := by
  refine representable_mul_pow _ ?_
  refine Nat.le_trans (roundHalfEven_le _ _) ?_
  change num / (den * 2 ^ ((num / den).log2 - 52)) + 1 ≤ 2 ^ 53
  rw [← Nat.div_div_eq_div_mul]
  have hlt : num / den < 2 ^ ((num / den).log2 + 1) := Nat.lt_log2_self
  have hpow : (2 : Nat) ^ ((num / den).log2 + 1) ≤ 2 ^ (53 + ((num / den).log2 - 52)) :=
    Nat.pow_le_pow_right (by omega) (by omega)
  have : num / den / 2 ^ ((num / den).log2 - 52) < 2 ^ 53 := by
    rw [Nat.div_lt_iff_lt_mul (Nat.two_pow_pos _), ← Nat.pow_add]
    omega
  omega

/-- A representable magnitude rounds to itself. -/
theorem roundUnits_of_representable {n : Nat} (den : Nat) (hden : 0 < den)
    (h : Representable n) : roundUnits (n * den) den = n := by
  change 2 ^ (n.log2 - 52) ∣ n at h
  simp only [roundUnits, Nat.mul_div_cancel _ hden]
  change roundHalfEven (n * den) (den * 2 ^ (n.log2 - 52)) * 2 ^ (n.log2 - 52) = n
  obtain ⟨m, hm⟩ := h
  have hpos : 0 < den * 2 ^ (n.log2 - 52) := Nat.mul_pos hden (Nat.two_pow_pos _)
  have : n * den = m * (den * 2 ^ (n.log2 - 52)) := by
    conv => lhs; rw [hm]
    rw [Nat.mul_comm (2 ^ _) m, Nat.mul_assoc, Nat.mul_comm (2 ^ _) den]
  rw [this, roundHalfEven_mul _ _ hpos, Nat.mul_comm]
  exact hm.symm

/-! ### Numbers -/

/-- A finite magnitude: a representable number of units below the overflow threshold. -/
structure Magnitude where
  /-- How many units of `2⁻¹⁰⁷⁴` the magnitude counts. -/
  units : Nat
  /-- At most 53 significant bits are used. -/
  representable : Representable units
  /-- The magnitude is below `2¹⁰²⁴`. -/
  bounded : units < overflowUnits
deriving DecidableEq

/-- The magnitude zero. -/
def Magnitude.zero : Magnitude where
  units := 0
  representable := representable_of_le (Nat.zero_le _)
  bounded := overflowUnits_pos

/-- A binary64 number. The sign is kept apart, so zero has two signs. -/
inductive Binary64 where
  | nan
  | infinite (negative : Bool)
  | finite (negative : Bool) (magnitude : Magnitude)
deriving DecidableEq

namespace Binary64

/-- The number nearest to `num / den` units with the given sign; infinite when that is too
large. -/
def round (negative : Bool) (num den : Nat) : Binary64 :=
  let units := roundUnits num den
  if h : units < overflowUnits then
    .finite negative ⟨units, representable_roundUnits num den, h⟩
  else
    .infinite negative

/-- Zero, with the positive sign. -/
def zero : Binary64 := .finite false .zero

/-- The whole number `n`, rounded; infinite from `2¹⁰²⁴` on. -/
def ofNat (n : Nat) : Binary64 := round false (n * unitsPerOne) 1

/-- The number one. -/
def one : Binary64 := ofNat 1

/-- Is this a number other than NaN and the infinities? -/
def isFinite : Binary64 → Bool
  | .finite _ _ => true
  | _ => false

/-- A number, if it is finite. -/
def finite? (x : Binary64) : Option Binary64 := if x.isFinite then some x else none

/-- The integer `n` rounded to a number, or nothing when it is too large for one. -/
def ofInt? (n : Int) : Option Binary64 :=
  (round (decide (n < 0)) (n.natAbs * unitsPerOne) 1).finite?

/-- The quotient of an integer by a positive whole number, rounded once, or nothing when it is too
large. -/
def ofQuotient? (n : Int) (d : Nat) : Option Binary64 :=
  (round (decide (n < 0)) (n.natAbs * unitsPerOne) d).finite?

/-- The count of units with its sign. -/
def signed (negative : Bool) (units : Nat) : Int :=
  if negative then -(units : Int) else units

/-- Where a number stands on the line, in units; an infinity stands at the overflow threshold,
beyond every finite number, and a NaN stands nowhere. -/
def position? : Binary64 → Option Int
  | .nan => none
  | .infinite s => some (signed s overflowUnits)
  | .finite s m => some (signed s m.units)

/-- Strictly smaller; false as soon as one side is a NaN. -/
def lt (x y : Binary64) : Bool :=
  match x.position?, y.position? with
  | some a, some b => decide (a < b)
  | _, _ => false

/-- Smaller or equal; false as soon as one side is a NaN. -/
def le (x y : Binary64) : Bool :=
  match x.position?, y.position? with
  | some a, some b => decide (a ≤ b)
  | _, _ => false

/-- Numerically equal: the two zeros are, a NaN is equal to nothing. -/
def sameNumber (x y : Binary64) : Bool :=
  match x.position?, y.position? with
  | some a, some b => decide (a = b)
  | _, _ => false

/-- Numerically equal to an integer of any size, without rounding it. -/
def isInteger (x : Binary64) (n : Int) : Bool :=
  match x with
  | .finite s m => decide (signed s m.units = n * unitsPerOne)
  | _ => false

/-- Is this a NaN? -/
def isNaN : Binary64 → Bool
  | .nan => true
  | _ => false

/-- Is this one of the two zeros? -/
def isZero : Binary64 → Bool
  | .finite _ m => m.units == 0
  | _ => false

/-- The integer a finite number without a fraction is equal to. -/
def toInt? : Binary64 → Option Int
  | .finite s m =>
    if unitsPerOne ∣ m.units then some (signed s (m.units / unitsPerOne)) else none
  | _ => none

theorem finite?_eq_some_iff {x y : Binary64} : x.finite? = some y ↔ x = y ∧ y.isFinite = true := by
  rw [finite?]
  split
  · next hx =>
    constructor
    · intro h
      obtain rfl := Option.some.inj h
      exact ⟨rfl, hx⟩
    · rintro ⟨rfl, -⟩
      rfl
  · next hx =>
    constructor
    · intro h
      cases h
    · rintro ⟨rfl, hy⟩
      exact absurd hy hx

/-- An integer is rounded to a finite number. -/
theorem isFinite_of_ofInt? {n : Int} {x : Binary64} (h : ofInt? n = some x) : x.isFinite = true :=
  (finite?_eq_some_iff.1 h).2

/-! ### Arithmetic -/

/-- The sum, rounded once. A sum of exactly zero is negative only when both sides are. -/
def add : Binary64 → Binary64 → Binary64
  | .nan, _ => .nan
  | _, .nan => .nan
  | .infinite s, .infinite t => if s = t then .infinite s else .nan
  | .infinite s, .finite _ _ => .infinite s
  | .finite _ _, .infinite t => .infinite t
  | .finite s m, .finite t n =>
    let sum := signed s m.units + signed t n.units
    if sum = 0 then .finite (s && t) .zero
    else round (decide (sum < 0)) sum.natAbs 1

/-- The product, rounded once. -/
def mul : Binary64 → Binary64 → Binary64
  | .nan, _ => .nan
  | _, .nan => .nan
  | .infinite s, .infinite t => .infinite (s != t)
  | .infinite s, .finite t n => if n.units = 0 then .nan else .infinite (s != t)
  | .finite s m, .infinite t => if m.units = 0 then .nan else .infinite (s != t)
  | .finite s m, .finite t n => round (s != t) (m.units * n.units) unitsPerOne

/-- The quotient by a positive whole number, rounded once. -/
def divNat (x : Binary64) (d : Nat) : Binary64 :=
  match x with
  | .finite s m => round s m.units d
  | x => x

/-- The sum of a list, from zero, left to right. -/
def sum (xs : List Binary64) : Binary64 := xs.foldl add zero

end Binary64

end Rulebook
