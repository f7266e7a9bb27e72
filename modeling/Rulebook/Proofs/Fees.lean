import Rulebook.Outcome
import Rulebook.Proofs.Fusion
import Rulebook.Proofs.Positions
import Rulebook.Proofs.Rounding

/-!
# Fees

A fee is a percentage of the total, or a fixed value where there is no percentage. A percentage may
be any value that counts as a number, and two notions meet here. Whether there is a percentage is
decided by whether the value counts as given, and how much it is by the number that it counts as.

For numbers and truth values the two agree: what counts as zero is what does not count as given. But
a text that is not empty counts as given whatever it says, and so does a list that has items, so
that a zero which is spelt out or put in a list is a percentage like any other.

## Main definitions

* `Value.IsScalarOrList`: numbers, truth values, texts and lists.
* `Value.IsFilled`: a text that is not empty, or a list that has items.

## Main results

* `Value.isTruthy_iff_of_toNumber`: which percentages count as given.
* `Outcome.step_fee`: what a fee leads to.
-/

namespace Rulebook

namespace Value

/-- **The values that a percentage may be**: numbers, truth values, texts and lists. -/
def IsScalarOrList : Value → Prop
  | bool _ | int _ | float _ | text _ | list _ => True
  | _ => False

/-- **A text that is not empty, or a list that has items.** -/
def IsFilled : Value → Prop
  | text s => s ≠ ""
  | list items => items ≠ []
  | _ => False

section Numbers

variable {v : Value} {n : ℤ} {x : Binary64}

/-- Only zero is rounded to zero. -/
theorem isZero_of_ofInt? (h : Binary64.ofInt? n = some x) : x.isZero = true ↔ n = 0 := by
  obtain ⟨m, hunits, rfl⟩ := Binary64.exists_magnitude_of_ofInt? h
  rw [Binary64.isZero, hunits, beq_iff_eq]
  constructor
  · intro hzero
    by_contra hn
    have hone : unitsPerOne ≤ roundUnits (n.natAbs * unitsPerOne) 1 := by
      refine le_roundUnits Nat.one_pos representable_unitsPerOne ?_
      rw [Nat.mul_one]
      exact Nat.le_mul_of_pos_left _ (Int.natAbs_pos.mpr hn)
    have := unitsPerOne_pos
    omega
  · rintro rfl
    rw [Int.natAbs_zero, Nat.zero_mul]
    exact roundUnits_one (representable_of_le (Nat.zero_le _))

/-- **Which percentages count as given**: those that do not count as zero, and those that are spelt
out or put in a list. -/
theorem isTruthy_iff_of_toNumber (hv : v.IsScalarOrList) (hx : v.toNumber = .ok x) :
    v.isTruthy = true ↔ x.isZero = false ∨ v.IsFilled := by
  have hzero : Binary64.zero.isZero = true := by decide +kernel
  have hone : Binary64.one.isZero = false := by decide +kernel
  cases v with
  | bool b =>
      obtain rfl := Except.ok.inj hx
      cases b with
      | false => simp [IsFilled, hzero]
      | true => simp [IsFilled, hone]
  | int n =>
      have hint : Numeral.ofInt n = .ok x := hx
      rw [Numeral.ofInt, Fault.ifNone_eq_ok_iff] at hint
      rw [isTruthy, bne_iff_ne, ne_eq, ← isZero_of_ofInt? hint, Bool.not_eq_true]
      simp [IsFilled]
  | float y =>
      obtain rfl := Except.ok.inj hx
      simp [isTruthy, IsFilled]
  | text s =>
      rw [isTruthy, Bool.not_eq_true', String.isEmpty_eq_false_iff]
      refine (or_iff_right_of_imp ?_).symm
      rintro hnonzero rfl
      obtain rfl := Except.ok.inj hx
      cases hzero.symm.trans hnonzero
  | list items =>
      rw [isTruthy, Bool.not_eq_true', List.isEmpty_eq_false_iff]
      refine (or_iff_right_of_imp ?_).symm
      rintro hnonzero rfl
      obtain rfl := Except.ok.inj hx
      cases hzero.symm.trans hnonzero
  | _ => exact hv.elim

end Numbers

end Value

/-! ### The total -/

/-- The total that a fee is a percentage of can always be looked for. -/
theorem Action.exists_total (context : Value) :
    ∃ total, context.getPath Action.feeBasePath = .ok total := by
  have hreadable : ∀ part ∈ Text.splitOn '.' "entity.total".toList, ¬Value.IsUnreadable part := by
    have hletters : ∀ part ∈ Text.splitOn '.' "entity.total".toList,
        part.all Text.isDigit = false := by decide
    intro part hpart h
    have hdigits : part.all Text.isDigit = true := List.all_eq_true.mpr h.digits
    rw [hletters part hpart] at hdigits
    cases hdigits
  have hfollowed : ¬∃ fault, context.resolvePath Action.feeBasePath = .error fault := fun hfault =>
    Value.forall_not_stumbles_iff.mpr hreadable context
      (Value.exists_resolve_eq_error_iff.mp hfault)
  obtain ⟨total, htotal, -⟩ := Value.exists_getPath_iff.mpr hfollowed
  exact ⟨total, htotal⟩

/-! ### What a fee does -/

section Fees

variable {context total : Value} {a : Action} {i : Instruction} {p base : Binary64}

theorem Action.feeShare_of_nan (hp : a.percentage.toNumber = .ok p) (hnan : p.isNaN = true) :
    feeShare a.percentage context = .error (notNumberFault "percentage" a.percentage) := by
  rw [feeShare, hp]
  exact (if_pos hnan).trans rfl

theorem Action.feeShare_of_number (htotal : context.getPath feeBasePath = .ok total)
    (hp : a.percentage.toNumber = .ok p) (hnumber : p.isNaN = false)
    (hbase : (total.orElse (.int 0)).toNumber = .ok base) :
    feeShare a.percentage context = .ok (base.mul (p.divNat 100)) := by
  rw [feeShare, hp, htotal]
  refine (if_neg (Bool.eq_false_iff.mp hnumber)).trans ?_
  change (total.orElse (.int 0)).toNumber >>= _ = _
  rw [hbase]
  rfl

/-- The key of a fee may be written under if its field may. -/
theorem Action.isKey_feeField (hfield : a.field.IsKey) :
    (a.field.orElse defaultFeeField).IsKey := by
  rw [Value.orElse]
  split
  · exact hfield
  · rfl

theorem Action.effect_of_fee (hkind : a.kind = .addFee) :
    a.effect context = a.feeEffect context := by
  rw [effect, hkind]

/-- What a fee writes under its key is written. -/
theorem Outcome.step_of_writing (notifier : Option Notifier) (o : Outcome) {value : Value}
    (ha : i.action? = .ok a) (hkind : a.kind = .addFee) (hfield : a.field.IsKey)
    (heffect : a.feeEffect context =
      Action.writing (a.field.orElse Action.defaultFeeField) value) :
    step notifier context o i =
      { o with values := o.values.set (a.field.orElse Action.defaultFeeField) value } := by
  have hwrite : Action.writing (a.field.orElse Action.defaultFeeField) value = .ok _ :=
    Action.writing_eq_ok_iff.mpr ⟨Action.isKey_feeField hfield, rfl⟩
  rw [step, Instruction.effect_of_action ha, Action.effect_of_fee hkind, heffect, hwrite]
  rfl

/-- A fee whose percentage does not count as given writes its fixed value, if it has one. -/
theorem Outcome.step_of_fixed (notifier : Option Notifier) (context : Value) (o : Outcome)
    (ha : i.action? = .ok a) (hkind : a.kind = .addFee) (hfield : a.field.IsKey)
    (hpercentage : a.percentage.isTruthy = false) :
    step notifier context o i = if a.value.isAbsent then o
      else { o with values := o.values.set (a.field.orElse Action.defaultFeeField) a.value } := by
  have heffect : a.feeEffect context = if a.value.isAbsent then .ok .nothing
      else Action.writing (a.field.orElse Action.defaultFeeField) a.value := by
    rw [Action.feeEffect, hpercentage]
    rfl
  by_cases hvalue : a.value.isAbsent = true
  · rw [if_pos hvalue] at heffect ⊢
    rw [step, Instruction.effect_of_action ha, Action.effect_of_fee hkind, heffect]
    rfl
  · rw [if_neg hvalue] at heffect ⊢
    exact step_of_writing notifier o ha hkind hfield heffect

/-- A fee whose percentage counts as given writes a share of the total. -/
theorem Outcome.step_of_share (notifier : Option Notifier) (o : Outcome)
    (ha : i.action? = .ok a) (hkind : a.kind = .addFee) (hfield : a.field.IsKey)
    (hpercentage : a.percentage.isTruthy = true)
    (htotal : context.getPath Action.feeBasePath = .ok total)
    (hp : a.percentage.toNumber = .ok p) (hnumber : p.isNaN = false)
    (hbase : (total.orElse (.int 0)).toNumber = .ok base) :
    step notifier context o i =
      { o with
        values := o.values.set (a.field.orElse Action.defaultFeeField)
          (.float (base.mul (p.divNat 100))) } := by
  refine step_of_writing notifier o ha hkind hfield ?_
  rw [Action.feeEffect, if_pos hpercentage,
    Action.feeShare_of_number htotal hp hnumber hbase]
  rfl

/-- A fee whose percentage is a NaN fails. -/
theorem Outcome.step_of_nan (notifier : Option Notifier) (o : Outcome)
    (ha : i.action? = .ok a) (hkind : a.kind = .addFee)
    (hpercentage : a.percentage.isTruthy = true) (hp : a.percentage.toNumber = .ok p)
    (hnan : p.isNaN = true) :
    step notifier context o i =
      o.fail i.label (Action.notNumberFault "percentage" a.percentage).message := by
  rw [step, Instruction.effect_of_action ha, Action.effect_of_fee hkind, Action.feeEffect,
    if_pos hpercentage, Action.feeShare_of_nan hp hnan]
  rfl

end Fees

/-- **What a fee leads to.** A percentage that is a NaN makes it fail, and the failure shows the
percentage if it can be written. One that counts as zero gives
way to the fixed value, as if there were none, unless it is a text or a list that is filled: that is
a percentage like any other, and a share of zero is written. -/
theorem Outcome.step_fee (notifier : Option Notifier) (context : Value) (o : Outcome)
    {i : Instruction} {a : Action} (ha : i.action? = .ok a) (hkind : a.kind = .addFee)
    (hfield : a.field.IsKey) (hpercentage : a.percentage.IsScalarOrList) :
    ∃ total, context.getPath Action.feeBasePath = .ok total ∧
      ∀ p base, a.percentage.toNumber = .ok p → (total.orElse (.int 0)).toNumber = .ok base →
        let key := a.field.orElse Action.defaultFeeField
        (p.isNaN = true →
          step notifier context o i =
            o.fail i.label (Fault.message (if a.percentage.isWritable
              then .notNumber "percentage" a.percentage.inspect else .integerTooLong))) ∧
        (p.isNaN = false → p.isZero = false ∨ a.percentage.IsFilled →
          step notifier context o i =
            { o with values := o.values.set key (.float (base.mul (p.divNat 100))) }) ∧
        (p.isZero = true → ¬a.percentage.IsFilled →
          step notifier context o i =
              step notifier context o (.typed { a with percentage := .null }) ∧
            step notifier context o i =
              if a.value.isAbsent then o else { o with values := o.values.set key a.value }) := by
  obtain ⟨total, htotal⟩ := Action.exists_total context
  refine ⟨total, htotal, fun p base hp hbase => ?_⟩
  have hgiven := Value.isTruthy_iff_of_toNumber hpercentage hp
  refine ⟨fun hnan => ?_, fun hnumber hcounts => ?_, fun hzero hspelt => ?_⟩
  · have hnonzero : p.isZero = false := by
      cases p with
      | nan => rfl
      | _ => cases hnan
    rw [← Action.notNumberFault_eq]
    exact step_of_nan notifier o ha hkind (hgiven.mpr (.inl hnonzero)) hp hnan
  · exact step_of_share notifier o ha hkind hfield (hgiven.mpr hcounts) htotal hp hnumber hbase
  · have hpercentage : a.percentage.isTruthy = false := by
      rw [← Bool.not_eq_true, hgiven]
      rintro (hnonzero | hfilled)
      · rw [hzero] at hnonzero
        cases hnonzero
      · exact hspelt hfilled
    have hfixed := step_of_fixed notifier context o ha hkind hfield hpercentage
    refine ⟨hfixed.trans (Eq.symm ?_), hfixed⟩
    exact step_of_fixed (a := { a with percentage := .null }) notifier context o rfl hkind hfield
      rfl

/-- A fee of so many percent, or of 250. -/
def deliveryFee (percentage : Value) : Instruction :=
  .typed { Action.ofKind .addFee with field := .text "fee", value := .int 250, percentage }

/-- An entity with a total of 2000. -/
def totalContext : Value := .mapping [("entity", .mapping [("total", .int 2000)])]

/-- Five percent are a share, whether they are spelt out or not, and zero percent are not. -/
theorem Outcome.step_fee_delivery :
    step none totalContext .empty (deliveryFee (.text "5")) =
      { empty with
        values := Ledger.empty.set (.text "fee")
          (.float ((Binary64.ofNat 2000).mul ((Binary64.ofNat 5).divNat 100))) } ∧
    step none totalContext .empty (deliveryFee (.int 0)) =
      step none totalContext .empty (deliveryFee .null) := by
  obtain ⟨total, htotal, hspelt⟩ := step_fee none totalContext .empty (i := deliveryFee (.text "5"))
    rfl rfl rfl trivial
  obtain ⟨total', htotal', hzero⟩ := step_fee none totalContext .empty (i := deliveryFee (.int 0))
    rfl rfl rfl trivial
  obtain rfl := Except.ok.inj htotal
  obtain rfl := Except.ok.inj htotal'
  have hbase : (Value.int 2000).toNumber = .ok (.ofNat 2000) := by
    rw [Value.toNumber]
    decide +kernel
  have hfive : (Value.text "5").toNumber = .ok (.ofNat 5) := by
    rw [Value.toNumber]
    decide +kernel
  have hnone : (Value.int 0).toNumber = .ok .zero := by
    rw [Value.toNumber]
    decide +kernel
  have hnonzero : (Binary64.ofNat 5).isNaN = false ∧ (Binary64.ofNat 5).isZero = false := by
    decide +kernel
  obtain ⟨-, hshare, -⟩ := hspelt _ _ hfive hbase
  obtain ⟨-, -, hfixed⟩ := hzero _ _ hnone hbase
  exact ⟨hshare hnonzero.1 (.inl hnonzero.2), (hfixed rfl id).1⟩

/-- Zero percent that are spelt out are a share of zero, and not the fixed value. -/
theorem Outcome.step_fee_spelt :
    (Value.text "0").toNumber = .ok .zero ∧
    ((step none totalContext .empty (deliveryFee (.text "0"))).values.entries.map
      fun e => (e.1.plain, e.2.plain)) = [("fee", "0.0")] ∧
    ((step none totalContext .empty (deliveryFee .null)).values.entries.map
      fun e => (e.1.plain, e.2.plain)) = [("fee", "250")] := by
  refine ⟨?_, by decide +kernel, by decide +kernel⟩
  rw [Value.toNumber]
  decide +kernel

end Rulebook
