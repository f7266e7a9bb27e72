import Mathlib.Tactic.Ring
import Rulebook.Proofs.Numerals
import Rulebook.Proofs.Shortest
import Rulebook.Value.Text

/-!
# Numbers Are Read as They Were Written

The spelling of a number sets out the digits of its shortest decimal in one of several ways: with
zeros before them or after them, with a point among them, or with an exponent. Each of them is a
decimal literal, and all that matters of it is the decimal that it writes: whatever zeros are added
or left out, its value is that of the shortest decimal, and so it is read as the number itself.

## Main definitions

* `Numeral.Spells`: a literal of the value of a decimal.

## Main results

* `Layout.spells_positional`, `Layout.spells_scientific`: digits are spelt, wherever the point is.
* `Layout.spells_writeUnits`: the spelling of a number spells its shortest decimal.
* `Numeral.read_write`: a finite number is read as it was written.
* `Numeral.read_toString`: an integer is read as the number nearest to it.
-/

namespace Rulebook

/-- Zeros at the end of the digits may stand in the exponent. -/
theorem Decimal.value_mul_pow (n k : ℕ) (e : ℤ) :
    (Decimal.mk (n * 10 ^ k) e).value = (Decimal.mk n (e + k)).value := by
  rw [value, value, zpow_add₀ (by norm_num), zpow_natCast]
  push_cast
  ring

namespace Numeral

/-- **A literal of the value of a decimal.** -/
def Spells (cs : List Char) (d : Decimal) : Prop := ∃ d', DecimalLiteral cs d' ∧ d'.value = d.value

variable {cs sign : List Char} {negative : Bool} {d : Decimal}

theorem Spells.of_value {d' : Decimal} (h : Spells cs d) (hvalue : d.value = d'.value) :
    Spells cs d' := by
  obtain ⟨d'', hd'', hvalue'⟩ := h
  exact ⟨d'', hd'', hvalue'.trans hvalue⟩

/-- What spells a decimal is read as the number nearest to it. -/
theorem Spells.read (hsign : Sign sign negative) (h : Spells cs d) :
    read (sign ++ cs) = .ok (d.toBinary64 negative) := by
  obtain ⟨d', hd', hvalue⟩ := h
  rw [read_of_literal hsign hd', Decimal.toBinary64_congr hvalue]

end Numeral

namespace Layout

open Numeral (Spells DecimalLiteral ExponentPart Sign)

/-! ### Digits -/

section Digits

variable {n : ℕ} {cs : List Char}

theorem isDigit_toDigits {c : Char} (h : c ∈ Nat.toDigits 10 n) : c.isDigit = true :=
  Nat.isDigit_of_mem_toDigits (by decide) (by decide) h

theorem isDigit_zeros {c : Char} (h : c ∈ zeros n) : c.isDigit = true := by
  rw [List.eq_of_mem_replicate h]
  decide

/-- Zeros in front do not matter. -/
theorem ofDigitChars_zeros_append (n : ℕ) (cs : List Char) :
    Nat.ofDigitChars 10 (zeros n ++ cs) 0 = Nat.ofDigitChars 10 cs 0 := by
  rw [Nat.ofDigitChars_append, zeros, Nat.ofDigitChars_replicate_zero, Nat.mul_zero]

/-- Zeros at the end multiply. -/
theorem ofDigitChars_append_zeros (n : ℕ) (cs : List Char) :
    Nat.ofDigitChars 10 (cs ++ zeros n) 0 = Nat.ofDigitChars 10 cs 0 * 10 ^ n := by
  rw [Nat.ofDigitChars_append, zeros, Nat.ofDigitChars_replicate_zero, Nat.mul_comm]

/-- The digits of a decimal are the significant ones and zeros. -/
theorem exists_zeros (d : Decimal) :
    ∃ k, Nat.toDigits 10 d.digits = significant d ++ zeros k := by
  have hzeros : ∀ c ∈ (Nat.toDigits 10 d.digits).reverse.takeWhile (· == '0'), c = '0' :=
    fun c hc => by simpa using List.mem_takeWhile_imp hc
  refine ⟨((Nat.toDigits 10 d.digits).reverse.takeWhile (· == '0')).length, ?_⟩
  calc Nat.toDigits 10 d.digits
      = ((Nat.toDigits 10 d.digits).reverse.takeWhile (· == '0') ++
          (Nat.toDigits 10 d.digits).reverse.dropWhile (· == '0')).reverse := by
        rw [List.takeWhile_append_dropWhile, List.reverse_reverse]
    _ = significant d ++ ((Nat.toDigits 10 d.digits).reverse.takeWhile (· == '0')).reverse := by
        rw [List.reverse_append, significant]
    _ = significant d ++ zeros _ := by
        rw [zeros, ← List.reverse_replicate, ← List.eq_replicate_of_mem hzeros]

theorem isDigit_significant {d : Decimal} {c : Char} (h : c ∈ significant d) :
    c.isDigit = true := by
  obtain ⟨k, hk⟩ := exists_zeros d
  refine isDigit_toDigits (n := d.digits) ?_
  rw [hk]
  exact List.mem_append_left _ h

/-- A decimal that is not zero has significant digits. -/
theorem significant_ne_nil {d : Decimal} (h : d.digits ≠ 0) : significant d ≠ [] := by
  intro hnil
  obtain ⟨k, hk⟩ := exists_zeros d
  have hvalue := ofDigitChars_append_zeros k (significant d)
  rw [← hk, Nat.ofDigitChars_ten_toDigits, hnil, Nat.ofDigitChars_nil, Nat.zero_mul] at hvalue
  exact h hvalue

/-- **The significant digits and the place of the point tell the value.** -/
theorem value_significant (d : Decimal) :
    (Decimal.mk (Nat.ofDigitChars 10 (significant d) 0)
      ((Nat.toDigits 10 d.digits).length + d.exponent - (significant d).length)).value =
        d.value := by
  obtain ⟨k, hk⟩ := exists_zeros d
  have hdigits := ofDigitChars_append_zeros k (significant d)
  rw [← hk, Nat.ofDigitChars_ten_toDigits] at hdigits
  have hlength : (Nat.toDigits 10 d.digits).length = (significant d).length + k := by
    rw [hk, List.length_append, zeros, List.length_replicate]
  calc (Decimal.mk (Nat.ofDigitChars 10 (significant d) 0)
        ((Nat.toDigits 10 d.digits).length + d.exponent - (significant d).length)).value
      = (Decimal.mk (Nat.ofDigitChars 10 (significant d) 0) (d.exponent + k)).value := by
        rw [hlength]
        congr 2
        push_cast
        ring
    _ = (Decimal.mk (Nat.ofDigitChars 10 (significant d) 0 * 10 ^ k) d.exponent).value :=
        (Decimal.value_mul_pow _ _ _).symm
    _ = d.value := by rw [← hdigits]

end Digits

/-! ### Points and exponents -/

section Points

variable {digits : List Char} {point : ℤ}

/-- A run of digits spells the whole number that they write. -/
theorem spells_digits (hne : digits ≠ []) (hdigits : ∀ c ∈ digits, c.isDigit = true) :
    Spells digits ⟨Nat.ofDigitChars 10 digits 0, 0⟩ := by
  have hliteral := DecimalLiteral.whole hne hdigits .absent
  rw [List.append_nil] at hliteral
  exact ⟨_, hliteral, rfl⟩

/-- Digits on both sides of a point. -/
theorem spells_point {whole fraction : List Char} (hne : whole ++ fraction ≠ [])
    (hdigits : ∀ c ∈ whole ++ fraction, c.isDigit = true) :
    Spells (whole ++ '.' :: fraction)
      ⟨Nat.ofDigitChars 10 (whole ++ fraction) 0, -fraction.length⟩ := by
  have hliteral := DecimalLiteral.point hne hdigits .absent
  rw [List.append_nil, Int.zero_sub] at hliteral
  exact ⟨_, hliteral, rfl⟩

theorem spells_before (hdigits : ∀ c ∈ digits, c.isDigit = true) (n : ℕ) :
    Spells ('0' :: '.' :: (zeros n ++ digits))
      ⟨Nat.ofDigitChars 10 digits 0, -n - digits.length⟩ := by
  have hzeros : ['0'] ++ (zeros n ++ digits) = zeros (n + 1) ++ digits := rfl
  have hall : ∀ c ∈ zeros (n + 1) ++ digits, c.isDigit = true :=
    List.forall_mem_append.mpr ⟨fun c hc => isDigit_zeros hc, hdigits⟩
  have hpoint : Spells (['0'] ++ '.' :: (zeros n ++ digits)) _ := spells_point (by simp) hall
  rw [hzeros, ofDigitChars_zeros_append] at hpoint
  refine hpoint.of_value (congrArg Decimal.value ?_)
  rw [List.length_append, zeros, List.length_replicate]
  congr 1
  push_cast
  ring

theorem spells_after (hdigits : ∀ c ∈ digits, c.isDigit = true) (n : ℕ) :
    Spells (digits ++ zeros n ++ ".0".toList) ⟨Nat.ofDigitChars 10 digits 0, n⟩ := by
  have hzeros : digits ++ zeros n ++ ['0'] = digits ++ zeros (n + 1) := by
    rw [List.append_assoc, zeros, zeros, List.replicate_succ']
  have hall : ∀ c ∈ digits ++ zeros n ++ ['0'], c.isDigit = true := by
    rw [hzeros]
    exact List.forall_mem_append.mpr ⟨hdigits, fun c hc => isDigit_zeros hc⟩
  have hpoint := spells_point (by simp) hall
  rw [hzeros, ofDigitChars_append_zeros] at hpoint
  refine hpoint.of_value ?_
  rw [Decimal.value_mul_pow, List.length_singleton]
  congr 2
  push_cast
  ring

/-- **Digits are spelt, wherever the point is**: before them, after them or among them. -/
theorem spells_positional (hne : digits ≠ []) (hdigits : ∀ c ∈ digits, c.isDigit = true) :
    Spells (positional ".0".toList digits point)
      ⟨Nat.ofDigitChars 10 digits 0, point - digits.length⟩ := by
  simp only [positional]
  split
  · next hbefore =>
      refine (spells_before hdigits _).of_value (congrArg Decimal.value ?_)
      rw [Int.toNat_of_nonneg (by omega), Int.neg_neg]
  · next hbefore =>
      split
      · next hafter =>
          refine (spells_after hdigits _).of_value (congrArg Decimal.value ?_)
          congr 1
          omega
      · next hamong =>
          have hsplit := List.take_append_drop point.toNat digits
          have hpoint := spells_point (hsplit.symm ▸ hne) (hsplit.symm ▸ hdigits)
          rw [hsplit] at hpoint
          refine hpoint.of_value (congrArg Decimal.value ?_)
          rw [List.length_drop]
          congr 1
          omega

theorem exponentPart_mark (e : ℤ) (n : ℕ) :
    ExponentPart ('e' :: (if e < 0 then '-' else '+') :: (zeros n ++ Nat.toDigits 10 e.natAbs))
      e := by
  have hne : zeros n ++ Nat.toDigits 10 e.natAbs ≠ [] :=
    List.append_ne_nil_of_right_ne_nil _ Nat.toDigits_ne_nil
  have hall : ∀ c ∈ zeros n ++ Nat.toDigits 10 e.natAbs, c.isDigit = true :=
    List.forall_mem_append.mpr ⟨fun c hc => isDigit_zeros hc, fun c hc => isDigit_toDigits hc⟩
  have hvalue : Nat.ofDigitChars 10 (zeros n ++ Nat.toDigits 10 e.natAbs) 0 = e.natAbs := by
    rw [ofDigitChars_zeros_append, Nat.ofDigitChars_ten_toDigits]
  by_cases hnegative : e < 0
  · have hpart := ExponentPart.given (.inl rfl) .minus hne hall
    rw [hvalue, if_pos rfl, show -(e.natAbs : ℤ) = e by omega] at hpart
    rwa [if_pos hnegative]
  · have hpart := ExponentPart.given (.inl rfl) .plus hne hall
    rw [hvalue, if_neg Bool.false_ne_true, Int.natAbs_of_nonneg (by omega)] at hpart
    rwa [if_neg hnegative]

/-- **Digits are spelt with an exponent.** -/
theorem spells_scientific (hne : digits ≠ []) (hdigits : ∀ c ∈ digits, c.isDigit = true)
    (e : ℤ) :
    Spells (plain.scientific digits e)
      ⟨Nat.ofDigitChars 10 digits 0, e + 1 - digits.length⟩ := by
  have hmark := exponentPart_mark e (2 - (Nat.toDigits 10 e.natAbs).length)
  obtain ⟨c, rest, rfl⟩ := List.exists_cons_of_ne_nil hne
  by_cases hrest : rest = []
  · subst hrest
    have hliteral := DecimalLiteral.whole hne hdigits hmark
    refine ⟨_, hliteral, congrArg Decimal.value ?_⟩
    simp
  · have hlayout : plain.scientific (c :: rest) e = [c] ++ '.' :: (rest ++
        'e' :: (if e < 0 then '-' else '+') ::
          (zeros (2 - (Nat.toDigits 10 e.natAbs).length) ++ Nat.toDigits 10 e.natAbs)) := by
      simp [scientific, plain, hrest]
    rw [hlayout]
    refine ⟨_, DecimalLiteral.point hne hdigits hmark, congrArg Decimal.value ?_⟩
    rw [List.singleton_append, List.length_cons]
    congr 1
    push_cast
    ring

end Points

/-! ### Numbers -/

/-- **The spelling of a number spells its shortest decimal.** -/
theorem spells_writeUnits {m : Magnitude} (hpos : 0 < m.units) :
    Spells (plain.writeUnits m.units) (Binary64.shortest m.units) := by
  have hne := significant_ne_nil (Binary64.digits_shortest_ne_zero hpos)
  have hdigits : ∀ c ∈ significant (Binary64.shortest m.units), c.isDigit = true :=
    fun c hc => isDigit_significant hc
  have hvalue := value_significant (Binary64.shortest m.units)
  simp only [writeUnits]
  split
  · refine (spells_positional hne hdigits).of_value (Eq.trans ?_ hvalue)
    rw [Int.sub_add_cancel]
  · refine (spells_scientific hne hdigits _).of_value (Eq.trans ?_ hvalue)
    rw [Int.sub_add_cancel]

end Layout

namespace Numeral

/-- **A finite number is read as it was written**, if it is not zero. -/
theorem read_write (negative : Bool) {m : Magnitude} (hpos : 0 < m.units) :
    read (Layout.plain.write (.finite negative m)).toList = .ok (.finite negative m) := by
  have hsign : ∃ sign, Sign sign negative ∧
      (Layout.plain.write (.finite negative m)).toList =
        sign ++ Layout.plain.writeUnits m.units := by
    cases negative with
    | false => exact ⟨[], .unsigned, by simp [Layout.write, hpos.ne']⟩
    | true => exact ⟨['-'], .minus, by simp [Layout.write, hpos.ne']⟩
  obtain ⟨sign, hsign, hwrite⟩ := hsign
  rw [hwrite, (Layout.spells_writeUnits hpos).read hsign,
    Binary64.toBinary64_shortest negative hpos]

theorem exists_sign_toString (n : ℤ) :
    ∃ sign, Sign sign (decide (n < 0)) ∧
      (toString n).toList = sign ++ Nat.toDigits 10 n.natAbs := by
  rw [Int.toString_eq_repr, Int.repr_eq_if]
  by_cases hn : 0 ≤ n
  · refine ⟨[], ?_, ?_⟩
    · rw [decide_eq_false (Int.not_lt.mpr hn)]
      exact .unsigned
    · rw [if_pos hn, Nat.toList_repr, List.nil_append, show n.toNat = n.natAbs by omega]
  · refine ⟨['-'], ?_, ?_⟩
    · rw [decide_eq_true (Int.not_le.mp hn)]
      exact .minus
    · rw [if_neg hn, String.toList_append, Nat.toList_repr, show (-n).toNat = n.natAbs by omega]
      rfl

/-- **An integer is read as the number nearest to it.** -/
theorem read_toString (n : ℤ) :
    read (toString n).toList = .ok (.round (decide (n < 0)) (n.natAbs * unitsPerOne) 1) := by
  obtain ⟨sign, hsign, htext⟩ := exists_sign_toString n
  have hspells : Spells (Nat.toDigits 10 n.natAbs) _ :=
    Layout.spells_digits Nat.toDigits_ne_nil fun c hc => Layout.isDigit_toDigits hc
  rw [Nat.ofDigitChars_ten_toDigits] at hspells
  rw [htext, hspells.read hsign, Decimal.toBinary64_eq_round,
    Decimal.scaleUp_of_nonpos (le_refl 0), Decimal.scaleDown_of_nonneg (le_refl 0), Nat.mul_one]

end Numeral

end Rulebook
