import Mathlib.Algebra.Order.BigOperators.Group.List
import Mathlib.Data.List.ReduceOption
import Rulebook.Proofs.Counting
import Rulebook.Proofs.Fees

/-!
# Sums of Integers

The sum of an aggregation is an integer as long as integers are added, and then it is exact, in
whatever order they come. A `null` among them counts as zero, but as the binary64 number zero: it
makes the sum a binary64 number, and from there on every integer is rounded before it is added and
every total after that. An integer or a total that is too large to be rounded makes the aggregation
fail.

So a sum with a `null` is exact where nothing has to be rounded from the first `null` on. This is so
for integers whose magnitudes add up to at most `2⁵³`, in whatever order they come, but not beyond.

## Main definitions

* `Value.wholeOrNull`: an integer, or `null`.
* `Binary64.Carries`: a number that is the rounding of an integer and equal to it.

## Main results

* `Binary64.carries_foldl_add`: adding is exact as long as every total is carried.
* `Amount.sumOf_wholes`: the sum of integers.
* `Amount.sumOf_beyond_null`, `Amount.sumOf_of_tooLarge`: the sum with a `null` among them.
* `Outcome.step_sum`: what an aggregation of integers and `null`s leads to.
-/

namespace Rulebook

/-- An integer, or `null`. -/
def Value.wholeOrNull : Option ℤ → Value
  | some n => .int n
  | none => .null

namespace Binary64

/-! ### Adding zero -/

theorem natAbs_signed (s : Bool) (units : ℕ) : (signed s units).natAbs = units := by
  cases s with
  | false => rfl
  | true => exact Int.natAbs_neg units

theorem signed_eq_zero_iff {s : Bool} {units : ℕ} : signed s units = 0 ↔ units = 0 := by
  rw [← Int.natAbs_eq_zero, natAbs_signed]

theorem decide_signed_neg {s : Bool} {units : ℕ} (h : units ≠ 0) :
    decide (signed s units < 0) = s := by
  cases s with
  | false => exact decide_eq_false (Int.not_lt.mpr (Int.natCast_nonneg units))
  | true => exact decide_eq_true (by rw [signed, if_pos rfl]; omega)

/-- The number at a position other than zero that a magnitude stands for is not rounded. -/
theorem round_signed {s : Bool} {m : Magnitude} (h : m.units ≠ 0) :
    round (decide (signed s m.units < 0)) (signed s m.units).natAbs 1 = .finite s m := by
  rw [decide_signed_neg h, natAbs_signed, round_magnitude]

/-- The zero that adding zero changes. -/
def negativeZero : Binary64 := .finite true .zero

variable {x y z : Binary64} {m n : ℤ}

/-- No integer is rounded to the negative zero. -/
theorem ne_negativeZero_of_ofInt? (h : ofInt? n = some x) : x ≠ negativeZero := by
  rintro rfl
  obtain rfl := (Value.isZero_of_ofInt? h).mp rfl
  obtain ⟨m, -, hx⟩ := exists_magnitude_of_ofInt? h
  cases hx

/-- **Adding zero changes nothing** but the negative zero. -/
theorem add_zero (h : x ≠ negativeZero) : x.add zero = x := by
  cases x with
  | nan => rfl
  | infinite s => rfl
  | finite s m =>
      have hsum : signed s m.units + signed false Magnitude.zero.units = signed s m.units :=
        Int.add_zero _
      simp only [zero, add, hsum, signed_eq_zero_iff]
      by_cases hm : m.units = 0
      · obtain rfl : m = .zero := Magnitude.eq_of_units hm
        cases s with
        | false => rfl
        | true => exact absurd rfl h
      · rw [if_neg hm, round_signed hm]

/-- What is not zero is not rounded to the negative zero. -/
theorem round_ne_negativeZero {s : Bool} {units : ℕ} (h : units ≠ 0) :
    round s units 1 ≠ negativeZero := by
  have hone : 1 ≤ roundUnits units 1 :=
    le_roundUnits Nat.one_pos (representable_of_le Nat.one_le_two_pow) (by omega)
  by_cases hbound : roundUnits units 1 < overflowUnits
  · obtain ⟨m, hm, hround⟩ := round_of_lt s rfl hbound
    rw [hround]
    rintro ⟨⟩
    have hzero : 0 = roundUnits units 1 := hm
    omega
  · rw [round_of_le (Nat.le_of_not_lt hbound)]
    rintro ⟨⟩

/-- No sum is the negative zero unless both sides are. -/
theorem add_ne_negativeZero (hy : y ≠ negativeZero) : x.add y ≠ negativeZero := by
  cases x with
  | nan => rintro ⟨⟩
  | infinite s =>
      cases y with
      | nan => rintro ⟨⟩
      | infinite t =>
          rw [add]
          split <;> rintro ⟨⟩
      | finite t k => rintro ⟨⟩
  | finite s j =>
      cases y with
      | nan => rintro ⟨⟩
      | infinite t => rintro ⟨⟩
      | finite t k =>
          simp only [add]
          split
          · next hsum =>
              intro hzero
              obtain ⟨rfl, rfl⟩ : s = true ∧ t = true := by simpa [negativeZero] using hzero
              have hk : k.units = 0 := by
                simp only [signed, if_true] at hsum
                omega
              exact hy (congrArg (Binary64.finite true) (Magnitude.eq_of_units hk))
          · next hsum => exact round_ne_negativeZero (Int.natAbs_ne_zero.mpr hsum)

/-! ### Integers that are not rounded -/

/-- **A number carries an integer** when the integer is rounded to it and equal to it. -/
def Carries (n : ℤ) (x : Binary64) : Prop := ofInt? n = some x ∧ x.isInteger n = true

theorem carries_iff :
    Carries n x ↔ ∃ k : Magnitude, k.units = n.natAbs * unitsPerOne ∧
      x = .finite (decide (n < 0)) k := by
  constructor
  · rintro ⟨hround, hexact⟩
    obtain ⟨k, -, rfl⟩ := exists_magnitude_of_ofInt? hround
    refine ⟨k, ?_, rfl⟩
    rw [isInteger, decide_eq_true_eq, mul_eq_signed] at hexact
    rw [← natAbs_signed (decide (n < 0)) k.units, hexact, natAbs_signed]
  · rintro ⟨k, hk, rfl⟩
    constructor
    · rw [ofInt?, ← hk, round_magnitude]
      rfl
    · rw [isInteger, decide_eq_true_eq, mul_eq_signed, hk]

/-- An integer within the bound is carried. -/
theorem exists_carries_of_le (h : n.natAbs ≤ exactBound) : ∃ x, Carries n x := by
  obtain ⟨k, hk, -⟩ := exists_magnitude_ofNat h
  exact ⟨_, carries_iff.mpr ⟨k, hk, rfl⟩⟩

/-- **The sum of two carried integers carries their sum**, if anything does. -/
theorem Carries.add (hx : Carries m x) (hy : Carries n y) (hz : Carries (m + n) z) :
    x.add y = z := by
  obtain ⟨j, hj, rfl⟩ := carries_iff.mp hx
  obtain ⟨k, hk, rfl⟩ := carries_iff.mp hy
  obtain ⟨l, hl, rfl⟩ := carries_iff.mp hz
  have hsum : signed (decide (m < 0)) j.units + signed (decide (n < 0)) k.units =
      signed (decide (m + n < 0)) l.units := by
    rw [hj, hk, hl, ← mul_eq_signed, ← mul_eq_signed, ← mul_eq_signed, Int.add_mul]
  simp only [Binary64.add, hsum, signed_eq_zero_iff]
  by_cases hzero : l.units = 0
  · -- Of two integers that cancel out not both are negative.
    have hcancel : m + n = 0 := by
      rw [hl, Nat.mul_eq_zero, Int.natAbs_eq_zero] at hzero
      exact hzero.resolve_right (Nat.ne_of_gt unitsPerOne_pos)
    have hsign : (decide (m < 0) && decide (n < 0)) = decide (m + n < 0) := by
      rw [Bool.eq_iff_iff, Bool.and_eq_true, decide_eq_true_eq, decide_eq_true_eq,
        decide_eq_true_eq]
      omega
    rw [if_pos hzero, hsign, Magnitude.eq_of_units (m := l) (n := .zero) hzero]
  · rw [if_neg hzero, round_signed hzero]

/-- **Adding is exact as long as every total is carried.** -/
theorem carries_foldl_add {start : ℤ} {ns : List ℤ} {xs : List Binary64} (hx : Carries start x)
    (hns : List.Forall₂ Carries ns xs)
    (htotals : ∀ front, front <+: ns → ∃ z, Carries (start + front.sum) z) :
    Carries (start + ns.sum) (xs.foldl Binary64.add x) := by
  induction hns generalizing start x with
  | nil => rwa [List.sum_nil, Int.add_zero]
  | @cons n y ns ys hy _ ih =>
      obtain ⟨z, hz⟩ := htotals [n] (List.prefix_append [n] ns)
      rw [List.sum_singleton] at hz
      rw [List.foldl_cons, hx.add hy hz, List.sum_cons, ← Int.add_assoc]
      refine ih hz fun front hfront => ?_
      have htotal := htotals (n :: front) ((List.prefix_cons_inj n).mpr hfront)
      rwa [List.sum_cons, ← Int.add_assoc] at htotal

end Binary64

/-! ### The sum -/

namespace Amount

open Value (wholeOrNull)

variable {x : Binary64} {ns : List ℤ} {after : List (Option ℤ)} {terms : List Binary64}

/-- Integers are added to an integer exactly. -/
theorem foldlM_add_whole (n : ℤ) (ns : List ℤ) :
    (ns.map Value.int).foldlM add (whole n) = .ok (whole (n + ns.sum)) := by
  induction ns generalizing n with
  | nil => rw [List.map_nil, List.foldlM_nil, List.sum_nil, Int.add_zero]; rfl
  | cons k ns ih =>
      rw [List.sum_cons, ← Int.add_assoc]
      exact ih (n + k)

/-- **The sum of integers** is their sum. -/
theorem sumOf_wholes (ns : List ℤ) : sumOf (ns.map Value.int) = .ok (whole ns.sum) := by
  rw [sumOf, foldlM_add_whole, Int.zero_add]

theorem add_null (hx : x ≠ Binary64.negativeZero) : (real x).add .null = .ok (real x) := by
  have hadd : (real x).add .null = .ok (real (x.add .zero)) := rfl
  rw [hadd, Binary64.add_zero hx]

/-- `null` makes an integer a binary64 number. -/
theorem add_null_whole (n : ℤ) : (whole n).add .null = (Numeral.ofInt n).map real := by
  have hadd : (whole n).add .null = (Numeral.ofInt n).map fun x => real (x.add .zero) := by
    rw [add, Value.toNumber, toBinary64]
    · cases Numeral.ofInt n <;> rfl
    · intro _ _ _ hitem
      cases hitem
    · intro _ _ _ hitem
      cases hitem
  rw [hadd]
  cases hn : Numeral.ofInt n with
  | error fault => rfl
  | ok x =>
      have hne := Binary64.ne_negativeZero_of_ofInt? (Fault.ifNone_eq_ok_iff.mp hn)
      rw [Except.map, Except.map, Binary64.add_zero hne]

theorem add_int (x : Binary64) (n : ℤ) :
    (real x).add (.int n) = (Numeral.ofInt n).map fun y => real (x.add y) := by
  rw [add]
  cases Numeral.ofInt n <;> rfl

/-- Once it is a binary64 number a total goes on as one, and `null` adds nothing to it. -/
theorem foldlM_add_real (hx : x ≠ Binary64.negativeZero)
    (hterms : List.Forall₂ (fun n y => Binary64.ofInt? n = some y) after.reduceOption terms) :
    (after.map wholeOrNull).foldlM add (real x) = .ok (real (terms.foldl Binary64.add x)) := by
  induction after generalizing x terms with
  | nil =>
      rw [List.reduceOption_nil, List.forall₂_nil_left_iff] at hterms
      rw [hterms]
      rfl
  | cons item after ih =>
      cases item with
      | none =>
          rw [List.reduceOption_cons_of_none] at hterms
          rw [List.map_cons, List.foldlM_cons, wholeOrNull, add_null hx]
          exact ih hx hterms
      | some n =>
          rw [List.reduceOption_cons_of_some, List.forall₂_cons_left_iff] at hterms
          obtain ⟨y, rest, hy, hrest, rfl⟩ := hterms
          have hread : Numeral.ofInt n = .ok y := Fault.ifNone_eq_ok_iff.mpr hy
          rw [List.map_cons, List.foldlM_cons, wholeOrNull, add_int, hread]
          exact ih (Binary64.add_ne_negativeZero (Binary64.ne_negativeZero_of_ofInt? hy)) hrest

/-- There it fails when an integer is too large. -/
theorem foldlM_add_real_of_tooLarge (hx : x ≠ Binary64.negativeZero)
    (h : ∃ n ∈ after.reduceOption, Binary64.ofInt? n = none) :
    (after.map wholeOrNull).foldlM add (real x) = .error .integerTooLarge := by
  induction after generalizing x with
  | nil =>
      obtain ⟨n, hn, -⟩ := h
      cases hn
  | cons item after ih =>
      cases item with
      | none =>
          rw [List.reduceOption_cons_of_none] at h
          rw [List.map_cons, List.foldlM_cons, wholeOrNull, add_null hx]
          exact ih hx h
      | some n =>
          rw [List.map_cons, List.foldlM_cons, wholeOrNull, add_int, Numeral.ofInt]
          cases hn : Binary64.ofInt? n with
          | none => rfl
          | some y =>
              refine ih (Binary64.add_ne_negativeZero (Binary64.ne_negativeZero_of_ofInt? hn)) ?_
              obtain ⟨k, hk, hlarge⟩ := h
              rw [List.reduceOption_cons_of_some, List.mem_cons] at hk
              rcases hk with rfl | hk
              · cases hn.symm.trans hlarge
              · exact ⟨k, hk, hlarge⟩

/-- **The sum with a `null` among them** goes on from the rounded sum of the integers before it. -/
theorem sumOf_beyond_null (before : List ℤ) (after : List (Option ℤ)) :
    sumOf ((before.map some ++ none :: after).map wholeOrNull) =
      Numeral.ofInt before.sum >>= fun x => (after.map wholeOrNull).foldlM add (real x) := by
  have hbefore : (before.map some).map wholeOrNull = before.map Value.int := List.map_map
  have hnull : (none :: after).map wholeOrNull = .null :: after.map wholeOrNull := rfl
  have hwhole := foldlM_add_whole 0 before
  rw [Int.zero_add] at hwhole
  rw [sumOf, List.map_append, hbefore, hnull, foldlM_append_of_ok hwhole, List.foldlM_cons,
    add_null_whole]
  cases Numeral.ofInt before.sum <;> rfl

/-- It fails when that sum is too large, or an integer behind the `null` is. -/
theorem sumOf_of_tooLarge {before : List ℤ}
    (h : ∃ n ∈ before.sum :: after.reduceOption, Binary64.firstTooLarge ≤ n.natAbs) :
    sumOf ((before.map some ++ none :: after).map wholeOrNull) = .error .integerTooLarge := by
  simp only [← Binary64.ofInt?_eq_none_iff] at h
  rw [sumOf_beyond_null, Numeral.ofInt]
  cases hsum : Binary64.ofInt? before.sum with
  | none => rfl
  | some x =>
      refine foldlM_add_real_of_tooLarge (Binary64.ne_negativeZero_of_ofInt? hsum) ?_
      obtain ⟨n, hn, hlarge⟩ := h
      rcases List.mem_cons.mp hn with rfl | hn
      · cases hsum.symm.trans hlarge
      · exact ⟨n, hn, hlarge⟩

/-- Otherwise it is the rounded sum of what these integers are rounded to. -/
theorem exists_sumOf_of_lt {before : List ℤ}
    (h : ∀ n ∈ before.sum :: after.reduceOption, n.natAbs < Binary64.firstTooLarge) :
    ∃ start terms,
      List.Forall₂ (fun n y => Binary64.ofInt? n = some y) (before.sum :: after.reduceOption)
        (start :: terms) ∧
      sumOf ((before.map some ++ none :: after).map wholeOrNull) =
        .ok (real (terms.foldl Binary64.add start)) := by
  have hrounded : ∀ n ∈ before.sum :: after.reduceOption, ∃ y, Binary64.ofInt? n = some y := by
    intro n hn
    rw [← Option.isSome_iff_exists, ← Option.ne_none_iff_isSome, ne_eq,
      Binary64.ofInt?_eq_none_iff]
    exact Nat.not_le_of_lt (h n hn)
  obtain ⟨hstart, hterms⟩ := List.forall_mem_cons.mp hrounded
  obtain ⟨start, hstart⟩ := hstart
  obtain ⟨terms, hterms⟩ := exists_forall₂ hterms
  have hsum : Numeral.ofInt before.sum = .ok start := Fault.ifNone_eq_ok_iff.mpr hstart
  refine ⟨start, terms, .cons hstart hterms, ?_⟩
  rw [sumOf_beyond_null, hsum]
  exact foldlM_add_real (Binary64.ne_negativeZero_of_ofInt? hstart) hterms

/-- **It is exact where nothing is rounded** from the first `null` on. -/
theorem exists_sumOf_of_carries {before : List ℤ}
    (hterms : ∀ n ∈ after.reduceOption, ∃ y, Binary64.Carries n y)
    (htotals : ∀ front, front <+: after.reduceOption →
      ∃ z, Binary64.Carries (before.sum + front.sum) z) :
    ∃ x, Binary64.Carries (before.sum + after.reduceOption.sum) x ∧
      sumOf ((before.map some ++ none :: after).map wholeOrNull) = .ok (real x) := by
  obtain ⟨start, hstart⟩ := htotals [] List.nil_prefix
  rw [List.sum_nil, Int.add_zero] at hstart
  obtain ⟨terms, hterms⟩ := exists_forall₂ hterms
  have hsum : Numeral.ofInt before.sum = .ok start := Fault.ifNone_eq_ok_iff.mpr hstart.1
  refine ⟨_, Binary64.carries_foldl_add hstart hterms htotals, ?_⟩
  rw [sumOf_beyond_null, hsum]
  exact foldlM_add_real (Binary64.ne_negativeZero_of_ofInt? hstart.1)
    (hterms.imp fun _ _ h => h.1)

end Amount

/-! ### Small integers -/

theorem natAbs_sum_le (ns : List ℤ) : ns.sum.natAbs ≤ (ns.map Int.natAbs).sum := by
  induction ns with
  | nil => exact Nat.le_refl 0
  | cons n ns ih =>
      rw [List.sum_cons, List.map_cons, List.sum_cons]
      omega

/-- Of integers whose magnitudes add up to little nothing has to be rounded. -/
theorem Binary64.carries_of_sum_le {before ns : List ℤ}
    (h : ((before ++ ns).map Int.natAbs).sum ≤ exactBound) :
    (∀ n ∈ ns, ∃ y, Carries n y) ∧
      ∀ front, front <+: ns → ∃ z, Carries (before.sum + front.sum) z := by
  rw [List.map_append, List.sum_append] at h
  constructor
  · intro n hn
    have hle : n.natAbs ≤ (ns.map Int.natAbs).sum :=
      List.single_le_sum (by simp) _ (List.mem_map_of_mem hn)
    exact exists_carries_of_le (by omega)
  · rintro front ⟨rest, rfl⟩
    rw [List.map_append, List.sum_append] at h
    have hbefore := natAbs_sum_le before
    have hfront := natAbs_sum_le front
    exact exists_carries_of_le (by omega)

/-- Integers and `null`s are integers alone, or stand on both sides of a first `null`. -/
theorem eq_map_some_of_not_mem {items : List (Option ℤ)} (h : none ∉ items) :
    items = items.reduceOption.map some := by
  induction items with
  | nil => rfl
  | cons item items ih =>
      obtain ⟨hitem, hitems⟩ := not_or.mp (List.mem_cons.not.mp h)
      cases item with
      | none => exact absurd rfl hitem
      | some n => rw [List.reduceOption_cons_of_some, List.map_cons, ← ih hitems]

theorem exists_split_of_mem {items : List (Option ℤ)} (h : none ∈ items) :
    ∃ (before : List ℤ) (after : List (Option ℤ)), items = before.map some ++ none :: after := by
  obtain ⟨front, after, rfl, hfront⟩ := List.eq_append_cons_of_mem h
  exact ⟨front.reduceOption, after, by rw [← eq_map_some_of_not_mem hfront]⟩

theorem reduceOption_split (before : List ℤ) (after : List (Option ℤ)) :
    (before.map some ++ none :: after).reduceOption = before ++ after.reduceOption := by
  rw [List.reduceOption_append, List.reduceOption_cons_of_none]
  congr 1
  induction before with
  | nil => rfl
  | cons n before ih => rw [List.map_cons, List.reduceOption_cons_of_some, ih]

/-! ### Aggregations -/

/-- **An action sums up some items under a key**: it is an aggregation by sum whose source leads to
the list of these items. -/
structure Action.Sums (a : Action) (context : Value) (key : String) (items : List Value) :
    Prop where
  kind : a.kind = .aggregate
  operation : a.operation = some .sum
  field : a.field = .text key
  named : key ≠ ""
  source : ∃ path, path ≠ "" ∧ a.source = .text path ∧
    context.resolvePath (.text path) = .ok (.list items)

section Aggregations

variable {context : Value} {a : Action} {i : Instruction} {key : String} {items : List Value}

/-- A sum is written under its key, if it does not fail. -/
theorem Action.Sums.effect (h : a.Sums context key items) :
    a.effect context =
      (Amount.sumOf items).map fun total => .write (.text key) total.toValue := by
  obtain ⟨path, hpath, hsource, hitems⟩ := h.source
  have hoperation : a.operationValue.isTruthy = true := by
    rw [Action.operationValue, h.operation]
    rfl
  rw [Action.effect_of_aggregate h.kind, Action.aggregateEffect, hoperation, hsource, h.field,
    Value.isTruthy_text h.named, Value.isTruthy_text hpath, Value.getPath, hitems, h.operation]
  cases hsum : Amount.sumOf items with
  | error fault =>
      simp [Except.map, Value.orNull, Value.isAbsent, bind, Except.bind, Aggregation.ofItems, hsum]
  | ok total =>
      simp [Except.map, Value.orNull, Value.isAbsent, bind, Except.bind, Aggregation.ofItems, hsum,
        Action.writing, Value.hashable]

theorem Outcome.step_of_sumOf_ok (notifier : Option Notifier) (o : Outcome)
    (ha : i.action? = .ok a) (h : a.Sums context key items) {total : Amount}
    (hsum : Amount.sumOf items = .ok total) :
    step notifier context o i = { o with values := o.values.set (.text key) total.toValue } := by
  rw [step, Instruction.effect_of_action ha, h.effect, hsum]
  rfl

theorem Outcome.step_of_sumOf_error (notifier : Option Notifier) (o : Outcome)
    (ha : i.action? = .ok a) (h : a.Sums context key items) {fault : Fault}
    (hsum : Amount.sumOf items = .error fault) :
    step notifier context o i = o.fail i.label fault.message := by
  rw [step, Instruction.effect_of_action ha, h.effect, hsum]
  rfl

end Aggregations

open Binary64 in
/-- **What an aggregation of integers and `null`s leads to.** Without a `null` their sum is written,
which is that of the integers in any order. With a `null` the sum of the integers before the first
one is rounded, and so is every integer behind it and every total from there on. The aggregation
fails when that sum or one of these integers is too large. What is written is still the sum of the
integers where nothing has to be rounded, and so it is, in any order, when the magnitudes of all
integers add up to at most `2⁵³`. -/
theorem Outcome.step_sum (notifier : Option Notifier) (o : Outcome) {context : Value}
    {i : Instruction} {a : Action} {key : String} {items : List (Option ℤ)}
    (ha : i.action? = .ok a) (h : a.Sums context key (items.map Value.wholeOrNull)) :
    let written (v : Value) : Outcome := { o with values := o.values.set (.text key) v }
    let ns := items.reduceOption
    (none ∉ items → ∀ ms : List ℤ, ms.Perm ns →
      step notifier context o i = written (.int ms.sum)) ∧
    (none ∈ items → (ns.map Int.natAbs).sum ≤ exactBound →
      ∃ x, Carries ns.sum x ∧ step notifier context o i = written (.float x)) ∧
    ∀ (before : List ℤ) (after : List (Option ℤ)), items = before.map some ++ none :: after →
      let later := after.reduceOption
      ((∃ n ∈ before.sum :: later, firstTooLarge ≤ n.natAbs) →
        step notifier context o i = o.fail i.label Fault.integerTooLarge.message) ∧
      ((∀ n ∈ before.sum :: later, n.natAbs < firstTooLarge) →
        ∃ start terms,
          List.Forall₂ (fun n y => ofInt? n = some y) (before.sum :: later) (start :: terms) ∧
          step notifier context o i = written (.float (terms.foldl Binary64.add start))) ∧
      ((∀ n ∈ later, ∃ y, Carries n y) →
        (∀ front, front <+: later → ∃ z, Carries (before.sum + front.sum) z) →
        ∃ x, Carries ns.sum x ∧ step notifier context o i = written (.float x)) := by
  intro written ns
  have hexact : ∀ (before : List ℤ) (after : List (Option ℤ)),
      items = before.map some ++ none :: after →
      (∀ n ∈ after.reduceOption, ∃ y, Carries n y) →
      (∀ front, front <+: after.reduceOption → ∃ z, Carries (before.sum + front.sum) z) →
      ∃ x, Carries ns.sum x ∧ step notifier context o i = written (.float x) := by
    rintro before after rfl hterms htotals
    obtain ⟨x, hx, hsum⟩ := Amount.exists_sumOf_of_carries hterms htotals
    rw [← List.sum_append, ← reduceOption_split] at hx
    exact ⟨x, hx, step_of_sumOf_ok notifier o ha h hsum⟩
  refine ⟨fun hwhole ms hms => ?_, fun hnull hsmall => ?_, fun before after hitems => ?_⟩
  · have hints : items.map Value.wholeOrNull = ns.map Value.int := by
      conv_lhs => rw [eq_map_some_of_not_mem hwhole]
      exact List.map_map
    rw [hints] at h
    rw [hms.sum_eq]
    exact step_of_sumOf_ok notifier o ha h (Amount.sumOf_wholes ns)
  · obtain ⟨before, after, hitems⟩ := exists_split_of_mem hnull
    have hparts : ns = before ++ after.reduceOption := by
      rw [← reduceOption_split, ← hitems]
    rw [hparts] at hsmall
    obtain ⟨hterms, htotals⟩ := carries_of_sum_le hsmall
    exact hexact before after hitems hterms htotals
  · refine ⟨fun hlarge => ?_, fun hfits => ?_, hexact before after hitems⟩
    · rw [hitems] at h
      exact step_of_sumOf_error notifier o ha h (Amount.sumOf_of_tooLarge hlarge)
    · rw [hitems] at h
      obtain ⟨start, terms, hterms, hsum⟩ := Amount.exists_sumOf_of_lt hfits
      exact ⟨start, terms, hterms, step_of_sumOf_ok notifier o ha h hsum⟩

/-- Crates by their weights, some of them not weighed. -/
def someCrates (weights : List (Option ℤ)) : Value :=
  .mapping [("crates", .list (weights.map Value.wholeOrNull))]

/-- The weights of crates are added up, those of crates that are not weighed being nothing. -/
theorem Outcome.step_sum_crates :
    step none (someCrates [some 5, some 7]) .empty (summing "crates") =
      { empty with values := Ledger.empty.set (.text "weight") (.int 12) } ∧
    ∃ x, x.isInteger 12 = true ∧
      step none (someCrates [some 5, none, some 7]) .empty (summing "crates") =
        { empty with values := Ledger.empty.set (.text "weight") (.float x) } := by
  obtain ⟨hwhole, -, -⟩ := @step_sum none .empty (someCrates [some 5, some 7]) (summing "crates")
    _ "weight" [some 5, some 7] rfl ⟨rfl, rfl, rfl, by decide, "crates", by decide, rfl, rfl⟩
  obtain ⟨-, hnull, -⟩ := @step_sum none .empty (someCrates [some 5, none, some 7])
    (summing "crates") _ "weight" [some 5, none, some 7] rfl
    ⟨rfl, rfl, rfl, by decide, "crates", by decide, rfl, rfl⟩
  obtain ⟨x, hx, hstep⟩ := hnull (by decide) (by decide)
  exact ⟨hwhole (by decide) [5, 7] (List.Perm.refl _), x, hx.2, hstep⟩

/-- One crate that is not weighed is enough for a weight to be lost, for the order to make a
difference, and for the aggregation to fail. -/
theorem Outcome.step_sum_rounded :
    let written (weights : List (Option ℤ)) :=
      step none (someCrates weights) .empty (summing "crates")
    (∃ x, (written [some 9007199254740993, none]).values.get? (.text "weight") = some (.float x) ∧
      x.isInteger 9007199254740993 = false) ∧
    ((written [some 9007199254740992, some 1, some 1, none]).values.entries.map fun e =>
      e.2.plain) = ["9007199254740994.0"] ∧
    ((written [none, some 9007199254740992, some 1, some 1]).values.entries.map fun e =>
      e.2.plain) = ["9007199254740992.0"] ∧
    (written [some (10 ^ 400), none]).failed = ["aggregate"] := by
  intro written
  have hround : Numeral.ofInt 9007199254740993 = .ok (.ofNat 9007199254740992) := by decide +kernel
  have hsum : Amount.sumOf ([some 9007199254740993, none].map Value.wholeOrNull) =
      .ok (.real (.ofNat 9007199254740992)) :=
    (Amount.sumOf_beyond_null [9007199254740993] []).trans (by rw [List.sum_singleton, hround]; rfl)
  have hwritten : written [some 9007199254740993, none] = _ :=
    step_of_sumOf_ok none .empty rfl ⟨rfl, rfl, rfl, by decide, "crates", by decide, rfl, rfl⟩ hsum
  refine ⟨⟨_, by rw [hwritten]; rfl, by decide +kernel⟩, by decide +kernel, by decide +kernel,
    by decide +kernel⟩

end Rulebook
