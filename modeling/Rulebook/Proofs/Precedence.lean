import Mathlib.Data.Rat.Cast.Order
import Rulebook.Proofs.Counting
import Rulebook.Proofs.Run

/-!
# Which Rule Comes First

A priority is kept as it was given, an integer of any size or a binary64 number, but rules are
sorted by their ranks, the binary64 numbers nearest to their priorities. Rounding is monotone, so
that a smaller priority never has the greater rank. But it may have the same one: then the places
in the set decide, and the rule with the greater priority comes first if it stands first.

This takes an integer beyond `2⁵³`. Integers up to there, and all binary64 numbers, are their own
ranks, and among them a smaller priority always comes first.

## Main definitions

* `Value.rational?`: the number that a priority exactly is.
* `Binary64.nearest`: where the number stands that is nearest to so many units.
* `Value.IsBeyond`: an integer beyond `2⁵³`.

## Main results

* `Binary64.nearest_mono`: rounding keeps the order of priorities.
* `Rule.InOrder.precedes_iff`: which of two rules comes first.
* `evaluateAll_ascending`: the results of rules with different priorities.
-/

namespace Rulebook

/-! ### Rounding positions -/

namespace Binary64

variable {p q : ℤ}

/-- The position of the number nearest to so many units. -/
def nearest (p : ℤ) : ℤ := signed (decide (p < 0)) (roundUnits p.natAbs 1)

theorem nearest_of_nonneg (h : 0 ≤ p) : nearest p = roundUnits p.natAbs 1 := by
  rw [nearest, decide_eq_false (Int.not_lt.mpr h)]
  rfl

theorem nearest_of_neg (h : p < 0) : nearest p = -(roundUnits p.natAbs 1 : ℤ) := by
  rw [nearest, decide_eq_true h]
  rfl

/-- **Rounding keeps the order** of positions. -/
theorem nearest_mono (h : p ≤ q) : nearest p ≤ nearest q := by
  have hmono : ∀ {m n : ℕ}, m ≤ n → (roundUnits m 1 : ℤ) ≤ roundUnits n 1 := fun hmn =>
    Int.ofNat_le.mpr (roundUnits_mono Nat.one_pos Nat.one_pos (Nat.mul_le_mul_right 1 hmn))
  by_cases hp : 0 ≤ p
  · rw [nearest_of_nonneg hp, nearest_of_nonneg (hp.trans h)]
    exact hmono (by omega)
  · rw [nearest_of_neg (Int.lt_of_not_ge hp)]
    by_cases hq : 0 ≤ q
    · rw [nearest_of_nonneg hq]
      omega
    · rw [nearest_of_neg (Int.lt_of_not_ge hq)]
      exact Int.neg_le_neg (hmono (by omega))

/-- A representable number of units is its own nearest position. -/
theorem nearest_signed (negative : Bool) {units : ℕ} (h : Representable units) :
    nearest (signed negative units) = signed negative units := by
  have hround := roundUnits_one h
  cases negative with
  | false =>
      have hnonneg : (0 : ℤ) ≤ signed false units := Int.natCast_nonneg units
      rw [nearest_of_nonneg hnonneg]
      change ((roundUnits units 1 : ℕ) : ℤ) = units
      rw [hround]
  | true =>
      change nearest (-(units : ℤ)) = -(units : ℤ)
      rcases Nat.eq_zero_or_pos units with rfl | hpos
      · rw [Int.natCast_zero, Int.neg_zero, nearest_of_nonneg (Int.le_refl 0)]
        exact congrArg Int.ofNat hround
      · rw [nearest_of_neg (by omega), Int.natAbs_neg, Int.natAbs_natCast, hround]

/-- A finite rounded number stands at the nearest position. -/
theorem position?_of_ofInt? {n : ℤ} {x : Binary64} (h : ofInt? n = some x) :
    x.position? = some (nearest (n * unitsPerOne)) := by
  obtain ⟨m, hm, rfl⟩ := exists_magnitude_of_ofInt? h
  have hsign : decide (n * (unitsPerOne : ℤ) < 0) = decide (n < 0) := by
    have hunits : (0 : ℤ) < unitsPerOne := Int.natCast_pos.mpr unitsPerOne_pos
    rw [decide_eq_decide]
    exact ⟨fun hneg => neg_of_mul_neg_left hneg hunits.le,
      fun hneg => mul_neg_of_neg_of_pos hneg hunits⟩
  have habs : (n * (unitsPerOne : ℤ)).natAbs = n.natAbs * unitsPerOne := by
    rw [Int.natAbs_mul, Int.natAbs_natCast]
  rw [nearest, hsign, habs, position?, hm]

end Binary64

/-! ### Priorities and ranks -/

namespace Value

/-- The number that an integer or a finite binary64 number exactly is. -/
def rational? : Value → Option ℚ
  | int n => some n
  | float (.finite negative m) => some ((Binary64.signed negative m.units : ℚ) / unitsPerOne)
  | _ => none

/-- An integer beyond the bound up to which integers are binary64 numbers. -/
def IsBeyond (v : Value) : Prop := ∃ n, v = int n ∧ Binary64.exactBound < n.natAbs

variable {v : Value}

/-- A rational beyond the bound is greater than it. -/
theorem IsBeyond.exactBound_lt {p : ℚ} (h : v.IsBeyond) (hp : v.rational? = some p) :
    (Binary64.exactBound : ℚ) < |p| := by
  obtain ⟨n, rfl, hn⟩ := h
  obtain rfl := Option.some.inj hp
  rw [← Int.cast_abs, Int.abs_eq_natAbs, Int.cast_natCast]
  exact Nat.cast_lt.mpr hn

/-- A finite number is a rational, and as a binary64 number it stands at the nearest position, which
is its own unless it is an integer beyond the bound. -/
theorem exists_rational? {x : Binary64} (hkind : v.kind = .number) (hx : v.toNumber = .ok x)
    (hfinite : x.isFinite = true) :
    ∃ p : ℤ, v.rational? = some ((p : ℚ) / unitsPerOne) ∧
      x.position? = some (Binary64.nearest p) ∧ (¬v.IsBeyond → Binary64.nearest p = p) := by
  cases v with
  | int n =>
      have hunits : (unitsPerOne : ℚ) ≠ 0 := Nat.cast_ne_zero.mpr (Nat.ne_of_gt unitsPerOne_pos)
      have hround : Numeral.ofInt n = .ok x := hx
      rw [Numeral.ofInt, Fault.ifNone_eq_ok_iff] at hround
      refine ⟨n * unitsPerOne, ?_, Binary64.position?_of_ofInt? hround, ?_⟩
      · rw [rational?, Int.cast_mul, Int.cast_natCast, mul_div_cancel_right₀ _ hunits]
      · intro hwithin
        have hbound : n.natAbs ≤ Binary64.exactBound := by
          by_contra hlt
          exact hwithin ⟨n, rfl, Nat.lt_of_not_le hlt⟩
        rw [Binary64.mul_eq_signed,
          Binary64.nearest_signed _ (Binary64.representable_mul_unitsPerOne hbound)]
  | float y =>
      obtain rfl : y = x := Except.ok.inj hx
      cases y with
      | finite negative m =>
          have hnearest := Binary64.nearest_signed negative m.representable
          exact ⟨Binary64.signed negative m.units, rfl, by rw [hnearest]; rfl, fun _ => hnearest⟩
      | _ => cases hfinite
  | _ => cases hkind

end Value

namespace Rule

variable {r s : Rule} {p q : ℚ}

theorem IsRead.kind_priority (h : r.IsRead) : r.priority.kind = .number := by
  obtain ⟨_, _, _, _, _, hpriority, rfl⟩ := h.exists_assembled
  exact (checkPriority_eq_ok_iff.mp hpriority).1

/-- The priority of a rule that was read is a rational, and its rank stands at the position nearest
to it. -/
theorem IsRead.exists_priority (h : r.IsRead) :
    ∃ p : ℤ, r.priority.rational? = some ((p : ℚ) / unitsPerOne) ∧
      r.rank.position? = some (Binary64.nearest p) ∧
      (¬r.priority.IsBeyond → Binary64.nearest p = p) := by
  obtain ⟨x, hx, hfinite⟩ := h.priority_finite
  obtain rfl : x = r.rank := Except.ok.inj (hx.symm.trans h.toNumber_priority)
  exact Value.exists_rational? h.kind_priority hx hfinite

/-- **A smaller priority has the smaller rank, or the same one**, and the same one only where one of
the two priorities is beyond the bound. -/
theorem IsRead.rank_lt_or_same (hr : r.IsRead) (hs : s.IsRead) (hp : r.priority.rational? = some p)
    (hq : s.priority.rational? = some q) (hpq : p < q) :
    (r.rank.lt s.rank = true ∧ r.rank.sameNumber s.rank = false) ∨
    (r.rank.lt s.rank = false ∧ r.rank.sameNumber s.rank = true ∧
      (r.priority.IsBeyond ∨ s.priority.IsBeyond)) := by
  obtain ⟨a, ha, hrank, hexact⟩ := hr.exists_priority
  obtain ⟨b, hb, hrank', hexact'⟩ := hs.exists_priority
  obtain rfl := Option.some.inj (hp.symm.trans ha)
  obtain rfl := Option.some.inj (hq.symm.trans hb)
  have hunits : (0 : ℚ) < unitsPerOne := Nat.cast_pos.mpr unitsPerOne_pos
  have hab : a < b := Int.cast_lt.mp ((div_lt_div_iff_of_pos_right hunits).mp hpq)
  rw [Binary64.lt_eq_of_position? hrank hrank', Binary64.sameNumber_eq_of_position? hrank hrank']
  rcases (Binary64.nearest_mono hab.le).lt_or_eq with hlt | heq
  · exact .inl ⟨decide_eq_true hlt, decide_eq_false hlt.ne⟩
  · refine .inr ⟨decide_eq_false heq.not_lt, decide_eq_true heq, ?_⟩
    by_contra hwithin
    rw [not_or] at hwithin
    have hsame : a = b := by rw [← hexact hwithin.1, ← hexact' hwithin.2, heq]
    exact hab.ne hsame

end Rule

/-! ### Precedence -/

/-- Of two items of a list one comes before the other. -/
theorem pair_sublist_or {α : Type} {a b : α} {l : List α} (ha : a ∈ l) (hb : b ∈ l) (hne : a ≠ b) :
    [a, b].Sublist l ∨ [b, a].Sublist l := by
  obtain ⟨before, after, rfl⟩ := List.append_of_mem ha
  rcases List.mem_append.mp hb with hbefore | hafter
  · exact .inr ((List.singleton_sublist.mpr hbefore).append
      (List.singleton_sublist.mpr List.mem_cons_self))
  · have hrest : b ∈ after := (List.mem_cons.mp hafter).resolve_left hne.symm
    exact .inl (List.sublist_append_of_sublist_right
      ((List.singleton_sublist.mpr hrest).cons_cons a))

namespace Rule

variable {rules : List Rule} {ordered : List (Rule × ℕ)} {a b : Rule × ℕ}

/-- **Which of two rules comes first**: the one with the smaller rank, and of two rules of one rank
the one that stands first. -/
theorem InOrder.precedes_iff (h : InOrder rules ordered) (ha : a ∈ rules.zipIdx)
    (hb : b ∈ rules.zipIdx) : [a, b].Sublist ordered ↔ Before a b := by
  have hsorted : ∀ {x y}, [x, y].Sublist ordered → Before x y :=
    List.pairwise_iff_forall_sublist.mp h.sorted
  constructor
  · exact fun hab => hsorted hab
  · intro hbefore
    have hne : a ≠ b := by
      rintro rfl
      exact hbefore.asymm hbefore
    rcases pair_sublist_or (h.perm.mem_iff.mpr ha) (h.perm.mem_iff.mpr hb) hne with hab | hba
    · exact hab
    · exact (hbefore.asymm (hsorted hba)).elim

end Rule

/-- **The results of rules with different priorities.** The full run of rules that were read has the
results of the rules alone, in the order of evaluation, when all of them are labelled, and breaks
off when they are not. Every priority is a rational number. Of two
rules with different priorities the one with the smaller priority comes first, unless both
priorities are rounded to one binary64 number and the other rule stands first in the set. This takes
an integer beyond `2⁵³`. -/
theorem evaluateAll_ascending (notifier : Option Notifier) (context : Value) {rules : List Rule}
    (h : ∀ r ∈ rules, r.IsRead) :
    ∃ ordered,
      Rule.InOrder rules ordered ∧
      ((∀ r ∈ rules, r.IsLabelled context) → ∃ results,
        (evaluateAll false notifier context (rules.map .rule)).finish = .ok results ∧
        List.Forall₂ (fun r result => r.1.evaluate notifier context = .ok result)
          ordered results) ∧
      ((¬∀ r ∈ rules, r.IsLabelled context) →
        (evaluateAll false notifier context (rules.map .rule)).finish = .error .integerTooLong) ∧
      (∀ r ∈ rules, ∃ p, r.priority.rational? = some p) ∧
      ∀ a ∈ rules.zipIdx, ∀ b ∈ rules.zipIdx, ∀ p q,
        a.1.priority.rational? = some p → b.1.priority.rational? = some q → p < q →
        ([a, b].Sublist ordered ↔ ¬(a.1.rank.sameNumber b.1.rank = true ∧ b.2 < a.2)) ∧
        (a.1.rank.sameNumber b.1.rank = true →
          a.1.priority.IsBeyond ∨ b.1.priority.IsBeyond) := by
  obtain ⟨ordered, hordered, -⟩ := Rule.existsUnique_inOrder rules
  refine ⟨ordered, hordered, ?_, finish_full_of_not_isLabelled notifier h, ?_, ?_⟩
  · intro hlabelled
    obtain ⟨results, hrun, hresults⟩ := evaluateAll_full notifier h hlabelled
    rw [← hordered.map_fst, List.forall₂_map_left_iff] at hresults
    exact ⟨results, by rw [hrun]; rfl, hresults⟩
  · intro r hr
    obtain ⟨p, hp, -⟩ := (h r hr).exists_priority
    exact ⟨_, hp⟩
  · intro a ha b hb p q hp hq hpq
    have hread : ∀ c ∈ rules.zipIdx, c.1.IsRead := fun c hc =>
      h c.1 (List.fst_mem_of_mem_zipIdx hc)
    rw [hordered.precedes_iff ha hb, Rule.Before]
    rcases (hread a ha).rank_lt_or_same (hread b hb) hp hq hpq with
      ⟨hlt, hsame⟩ | ⟨hlt, hsame, hbeyond⟩
    · simp [hlt, hsame]
    · have hplaces : a.2 ≠ b.2 := by
        intro heq
        have hrule : a.1 = b.1 := by
          have hb' := List.mem_zipIdx_iff_getElem?.mp hb
          rw [← heq, List.mem_zipIdx_iff_getElem?.mp ha] at hb'
          exact Option.some.inj hb'
        rw [hrule, hq] at hp
        exact hpq.ne (Option.some.inj hp).symm
      simp only [hlt, hsame, Bool.false_eq_true, false_or, true_and, not_lt, forall_const]
      exact ⟨⟨Nat.le_of_lt, fun hle => Nat.lt_of_le_of_ne hle hplaces⟩, hbeyond⟩

/-- Definitions of two rules with priorities that are rounded to one number, the greater one
first. -/
def tightDefinitions : List Value :=
  [feeDefinition "late" 9007199254740993 1 true, feeDefinition "soon" 9007199254740992 2 true]

/-- The same with an inactive rule of a smaller priority behind them. -/
def crowdedDefinitions : List Value := tightDefinitions ++ [feeDefinition "early" (-1) 3 false]

/-- The rule that stands last comes before the one in the middle. -/
theorem evaluateAll_ascending_crowded :
    let rules := readable .epoch crowdedDefinitions
    (∀ r ∈ rules, r.IsRead) ∧
    (∀ r ∈ rules, r.IsLabelled orderContext) ∧
    rules.map (·.priority.rational?) =
      [some 9007199254740993, some 9007199254740992, some (-1)] ∧
    ∃ ordered results,
      Rule.InOrder rules ordered ∧
      (evaluateAll false none orderContext (rules.map .rule)).finish = .ok results ∧
      List.Forall₂ (fun r result => r.1.evaluate none orderContext = .ok result) ordered results ∧
      ∀ soon early, (soon, 1) ∈ rules.zipIdx → (early, 2) ∈ rules.zipIdx →
        [(early, 2), (soon, 1)].Sublist ordered := by
  intro rules
  have hread : ∀ r ∈ rules, r.IsRead := fun _ hr => Rule.isRead_of_mem_readable hr
  have hlabelled : ∀ r ∈ rules, r.IsLabelled orderContext := by decide +kernel
  have hpriorities : rules.map (·.priority.rational?) =
      [some 9007199254740993, some 9007199254740992, some (-1)] := by decide +kernel
  obtain ⟨ordered, hordered, hfull, -, -, hascending⟩ :=
    evaluateAll_ascending none orderContext hread
  obtain ⟨results, hrun, hresults⟩ := hfull hlabelled
  refine ⟨hread, hlabelled, hpriorities, ordered, results, hordered, hrun, hresults, ?_⟩
  intro soon early hsoon hearly
  have hlookup : ∀ r n, (r, n) ∈ rules.zipIdx →
      [some 9007199254740993, some 9007199254740992, some (-1)][n]? =
        some r.priority.rational? := by
    intro r n hr
    rw [← hpriorities, List.getElem?_map, List.mem_zipIdx_iff_getElem?.mp hr]
    rfl
  have hp := (Option.some.inj (hlookup early 2 hearly)).symm
  have hq := (Option.some.inj (hlookup soon 1 hsoon)).symm
  obtain ⟨hprecedes, hbeyond⟩ := hascending _ hearly _ hsoon _ _ hp hq (by norm_num)
  refine hprecedes.mpr fun hovertaken => ?_
  rcases hbeyond hovertaken.1 with hlarge | hlarge
  · have hlt := hlarge.exactBound_lt hp
    norm_num [Binary64.exactBound] at hlt
  · have hlt := hlarge.exactBound_lt hq
    norm_num [Binary64.exactBound] at hlt

/-- The rule with the greater priority comes first where it stands first: both priorities are
rounded to the same number. -/
theorem evaluateAll_overtakes :
    ∃ late soon lateResult soonResult,
      readable .epoch tightDefinitions = [late, soon] ∧ late.IsRead ∧ soon.IsRead ∧
      soon.priority.rational? = some 9007199254740992 ∧
      late.priority.rational? = some 9007199254740993 ∧
      late.evaluate none orderContext = .ok lateResult ∧
      soon.evaluate none orderContext = .ok soonResult ∧
      (evaluateAll false none orderContext ([late, soon].map .rule)).finish =
        .ok [lateResult, soonResult] := by
  have hlength : (readable .epoch tightDefinitions).length = 2 := by decide +kernel
  have hpriorities : (readable .epoch tightDefinitions).map (·.priority.rational?) =
      [some 9007199254740993, some 9007199254740992] := by decide +kernel
  have hsorted : (readable .epoch tightDefinitions).Pairwise fun r s =>
      Rule.ranksBefore r s = true := by decide +kernel
  have hread : ∀ r ∈ readable .epoch tightDefinitions, r.IsRead :=
    fun _ hr => Rule.isRead_of_mem_readable hr
  have hlabelled : ∀ r ∈ readable .epoch tightDefinitions, r.IsLabelled orderContext := by
    decide +kernel
  obtain ⟨late, soon, hrules⟩ := List.length_eq_two.mp hlength
  rw [hrules] at hpriorities hsorted hread hlabelled
  obtain ⟨hlate, htail⟩ := List.cons_eq_cons.mp hpriorities
  have hsoon := (List.cons_eq_cons.mp htail).1
  obtain ⟨results, hrun, hresults⟩ := evaluateAll_full none hread hlabelled
  rw [Rule.arranged, List.mergeSort_of_pairwise hsorted] at hresults
  obtain ⟨lateResult, rest, hlateResult, hrest, rfl⟩ := List.forall₂_cons_left_iff.mp hresults
  obtain ⟨soonResult, rest', hsoonResult, hnone, rfl⟩ := List.forall₂_cons_left_iff.mp hrest
  obtain rfl := List.forall₂_nil_left_iff.mp hnone
  exact ⟨late, soon, lateResult, soonResult, hrules, hread _ (by simp), hread _ (by simp), hsoon,
    hlate, hlateResult, hsoonResult, by rw [hrun]; rfl⟩

end Rulebook
