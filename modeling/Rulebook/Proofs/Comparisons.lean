import Mathlib.Data.Rat.Cast.Order
import Mathlib.Order.WithBot
import Rulebook.Condition.Tree
import Rulebook.Proofs.Priority
import Rulebook.Proofs.Writing

/-!
# Comparisons and Their Complements

Most comparisons have a complement: of the two, exactly one matches. This holds only where both are
defined. A value that is no list has no items to be among, a side that counts as a NaN or as no
number at all has no place in the order, a text is not searched for a value that cannot be written,
and where the field of a leaf cannot be followed nothing is compared. There neither of the two
matches.

The order of numbers is that of the extended rationals they denote.

## Main definitions

* `Tree.found?`: what the field of a leaf leads to.
* `Binary64.denoted?`, `Value.number?`: the extended rational that a number denotes, and that a
  value counts as.
* `Comparison.Paired`: which of the comparisons of two values hold together.

## Main results

* `Tree.matches_leaf_iff`: a leaf matches when its test holds of what its field leads to.
* `Binary64.lt_iff_of_denoted?`, `Binary64.le_iff_of_denoted?`: numbers are ordered as what they
  denote.
* `Comparison.paired_holds`: the comparisons of two values are paired.
* `matches_paired`: so are the leaves that apply them under one field.
* `contains_unpaired`: there is a leaf that neither contains a value nor does not contain it.
-/

namespace Rulebook

/-! ### Leaves -/

namespace Tree

/-- Does a tree match in a context? -/
def Matches (context : Value) (t : Tree) : Prop := t.eval context = .ok true

/-- What the field of a leaf leads to. A field is a text that is not empty; nothing is found where
it cannot be followed. -/
def found? (context field : Value) : Option Value :=
  match field with
  | .text path => if path.isEmpty then none else (context.resolvePath (.text path)).toOption
  | _ => none

variable {context field value : Value} {op : Operator} {children : List Tree}

/-- A node that connects nothing is a leaf. -/
theorem eval_leaf (h : connective? op children = none) :
    (node op field value children).eval context = leafHolds context op field value := by
  rw [eval, evalTo, h]
  rfl

/-- **A leaf matches when its test holds of what its field leads to.** -/
theorem matches_leaf_iff (h : connective? op children = none) :
    (node op field value children).Matches context ↔
      ∃ found, found? context field = some found ∧ op.holds found value = .ok true := by
  rw [Matches, eval_leaf h, leafHolds_eq_true_iff]
  cases field with
  | text path =>
      simp only [Value.text.injEq, exists_eq_left', found?, tested, bind_eq_ok_iff]
      by_cases hpath : path.isEmpty = true
      · simp [hpath]
      · cases context.resolvePath (.text path) with
        | error fault => simp [hpath, Except.toOption]
        | ok found => simp [hpath, Except.toOption]
  | _ => simp [found?]

end Tree

/-! ### The numbers that values count as -/

namespace Binary64

/-- The extended rational that a number denotes; a NaN denotes none. -/
def denoted? : Binary64 → Option (WithBot (WithTop ℚ))
  | .nan => none
  | .infinite negative => some (if negative then ⊥ else ⊤)
  | .finite negative m => some (((signed negative m.units / unitsPerOne : ℚ) : WithTop ℚ))

/-- A place on a line of so many units, which has the infinities at its ends, and the extended
rational that it stands for when so many units make one. -/
inductive Marks (ends unit : ℕ) : ℤ → WithBot (WithTop ℚ) → Prop
  | bot : Marks ends unit (-ends) ⊥
  | top : Marks ends unit ends ⊤
  | between {n : ℤ} : -(ends : ℤ) < n → n < ends →
      Marks ends unit n ((n / unit : ℚ) : WithTop ℚ)

/-- **Places on a line stand in the order of what they mark.** -/
theorem Marks.lt_iff {ends unit : ℕ} {p q : ℤ} {a b : WithBot (WithTop ℚ)} (hends : 0 < ends)
    (hunit : 0 < unit) (hp : Marks ends unit p a) (hq : Marks ends unit q b) : p < q ↔ a < b := by
  cases hp with
  | bot =>
      cases hq with
      | bot => exact iff_of_false (lt_irrefl _) (lt_irrefl _)
      | top => exact iff_of_true (by omega) bot_lt_top
      | between hlow _ => exact iff_of_true hlow (WithBot.bot_lt_coe _)
  | top =>
      cases hq with
      | bot => exact iff_of_false (by omega) not_lt_bot
      | top => exact iff_of_false (lt_irrefl _) (lt_irrefl _)
      | between _ hhigh => exact iff_of_false hhigh.not_gt not_top_lt
  | between hlow hhigh =>
      cases hq with
      | bot => exact iff_of_false hlow.not_gt not_lt_bot
      | top => exact iff_of_true hhigh (WithBot.coe_lt_coe.mpr (WithTop.coe_lt_top _))
      | between _ _ =>
          have hunit : (0 : ℚ) < unit := Nat.cast_pos.mpr hunit
          rw [WithBot.coe_lt_coe, WithTop.coe_lt_coe, div_lt_div_iff_of_pos_right hunit,
            Int.cast_lt]

variable {x y : Binary64} {a b : WithBot (WithTop ℚ)}

/-- The position of a number marks what it denotes. -/
theorem exists_marks_of_denoted? (h : x.denoted? = some a) :
    ∃ p, x.position? = some p ∧ Marks overflowUnits unitsPerOne p a := by
  cases x with
  | nan => cases h
  | infinite negative =>
      obtain rfl := Option.some.inj h
      cases negative with
      | false => exact ⟨_, rfl, .top⟩
      | true => exact ⟨_, rfl, .bot⟩
  | finite negative m =>
      obtain rfl := Option.some.inj h
      have hbound := m.bounded
      refine ⟨_, rfl, .between ?_ ?_⟩
      · simp only [signed]
        split <;> omega
      · simp only [signed]
        split <;> omega

/-- **Numbers are ordered as what they denote.** -/
theorem lt_iff_of_denoted? (hx : x.denoted? = some a) (hy : y.denoted? = some b) :
    x.lt y = true ↔ a < b := by
  obtain ⟨p, hp, hpa⟩ := exists_marks_of_denoted? hx
  obtain ⟨q, hq, hqb⟩ := exists_marks_of_denoted? hy
  rw [lt_eq_of_position? hp hq, decide_eq_true_eq]
  exact hpa.lt_iff overflowUnits_pos unitsPerOne_pos hqb

theorem le_iff_of_denoted? (hx : x.denoted? = some a) (hy : y.denoted? = some b) :
    x.le y = true ↔ a ≤ b := by
  obtain ⟨p, hp, hpa⟩ := exists_marks_of_denoted? hx
  obtain ⟨q, hq, hqb⟩ := exists_marks_of_denoted? hy
  rw [le_eq_of_position? hp hq, decide_eq_true_eq, ← not_lt, ← not_lt,
    hqb.lt_iff overflowUnits_pos unitsPerOne_pos hpa]

theorem position?_of_not_denoted (h : x.denoted? = none) : x.position? = none := by
  cases x with
  | nan => rfl
  | _ => cases h

/-- **One number is less than another one when it denotes less.** -/
theorem lt_iff : x.lt y = true ↔ ∃ a b, x.denoted? = some a ∧ y.denoted? = some b ∧ a < b := by
  cases hx : x.denoted? with
  | none => simp [lt, position?_of_not_denoted hx]
  | some a =>
      cases hy : y.denoted? with
      | none => simp [lt, position?_of_not_denoted hy]
      | some b => simp [lt_iff_of_denoted? hx hy]

/-- **One number is at most another one when it denotes at most that.** -/
theorem le_iff : x.le y = true ↔ ∃ a b, x.denoted? = some a ∧ y.denoted? = some b ∧ a ≤ b := by
  cases hx : x.denoted? with
  | none => simp [le, position?_of_not_denoted hx]
  | some a =>
      cases hy : y.denoted? with
      | none => simp [le, position?_of_not_denoted hy]
      | some b => simp [le_iff_of_denoted? hx hy]

end Binary64

namespace Value

variable {v w : Value}

/-- The extended rational that a value counts as, if it counts as a number at all. -/
def number? (v : Value) : Option (WithBot (WithTop ℚ)) := v.toNumber.toOption.bind Binary64.denoted?

theorem number?_of_toNumber {x : Binary64} (h : v.toNumber = .ok x) : v.number? = x.denoted? := by
  rw [number?, h]
  rfl

theorem number?_of_fault {fault : Fault} (h : v.toNumber = .error fault) : v.number? = none := by
  rw [number?, h]
  rfl

/-- **Values are compared as the numbers they count as**, and only where both count as one. -/
theorem compareNumbers_iff {order : Binary64 → Binary64 → Bool}
    {R : WithBot (WithTop ℚ) → WithBot (WithTop ℚ) → Prop}
    (horder : ∀ x y, order x y = true ↔ ∃ a b, x.denoted? = some a ∧ y.denoted? = some b ∧ R a b) :
    v.compareNumbers order w = .ok true ↔
      ∃ a b, v.number? = some a ∧ w.number? = some b ∧ R a b := by
  rw [compareNumbers]
  cases hv : v.toNumber with
  | error fault => simp [number?_of_fault hv, bind, Except.bind]
  | ok x =>
      cases hw : w.toNumber with
      | error fault => simp [number?_of_fault hw, bind, Except.bind]
      | ok y =>
          rw [number?_of_toNumber hv, number?_of_toNumber hw, ← horder]
          simp [bind, Except.bind, pure, Except.pure]

end Value

/-! ### Pairs -/

namespace Comparison

/-- **Which of the comparisons of two values hold together.** Of a comparison and its complement
exactly one does, where both are defined, and none where they are not. -/
structure Paired (found given : Value) (Holds : Comparison → Prop) : Prop where
  equality : Xor (Holds .equal) (Holds .notEqual)
  containment : (found.kind = .text → given.isWritable = true) →
    Xor (Holds .contains) (Holds .notContains)
  /-- A text is not searched for what cannot be written. -/
  no_containment : found.kind = .text → given.isWritable = false →
    ¬Holds .contains ∧ ¬Holds .notContains
  emptiness : Xor (Holds .empty) (Holds .notEmpty)
  membership : given.kind = .list → Xor (Holds .among) (Holds .notAmong)
  no_membership : given.kind ≠ .list → ¬Holds .among ∧ ¬Holds .notAmong
  /-- Where both sides count as numbers the order is that of the numbers. -/
  order : ∀ a b, found.number? = some a → given.number? = some b →
    Xor (Holds .less) (Holds .atLeast) ∧ Xor (Holds .greater) (Holds .atMost) ∧
      (Holds .less ↔ a < b) ∧ (Holds .greater ↔ b < a)
  no_order : found.number? = none ∨ given.number? = none →
    ¬Holds .less ∧ ¬Holds .atLeast ∧ ¬Holds .greater ∧ ¬Holds .atMost

/-- Of a truth value and its negation exactly one is true. -/
theorem xor_ok_not (b : Bool) :
    Xor ((Except.ok b : Except Fault Bool) = .ok true)
      ((Except.ok !b : Except Fault Bool) = .ok true) := by
  cases b <;> simp [Xor]

section Containment

variable {found given : Value}

/-- Whether a value contains another one is told, unless a text would be searched for what cannot be
written. -/
theorem exists_holds (h : found.kind = .text → given.isWritable = true) :
    ∃ b, Value.holds found given = .ok b := by
  cases found with
  | text s =>
      rw [Value.holds, Value.toText?, Value.ifWritable_of_isWritable (h rfl)]
      exact ⟨_, rfl⟩
  | _ => exact ⟨_, rfl⟩

theorem holds_eq_error (hfound : found.kind = .text) (hgiven : given.isWritable = false) :
    Value.holds found given = .error .integerTooLong := by
  cases found with
  | text s =>
      rw [Value.holds, Value.toText?, Value.ifWritable_of_not_isWritable hgiven]
      rfl
  | _ => cases hfound

end Containment

section Order

variable {found given : Value}

theorem holds_less_iff :
    less.holds found given = .ok true ↔
      ∃ a b, found.number? = some a ∧ given.number? = some b ∧ a < b :=
  Value.compareNumbers_iff fun _ _ => Binary64.lt_iff

theorem holds_atMost_iff :
    atMost.holds found given = .ok true ↔
      ∃ a b, found.number? = some a ∧ given.number? = some b ∧ a ≤ b :=
  Value.compareNumbers_iff fun _ _ => Binary64.le_iff

theorem holds_greater_iff :
    greater.holds found given = .ok true ↔
      ∃ a b, found.number? = some a ∧ given.number? = some b ∧ b < a :=
  Value.compareNumbers_iff fun _ _ =>
    Binary64.lt_iff.trans (exists_comm.trans (exists₂_congr fun _ _ => and_left_comm))

theorem holds_atLeast_iff :
    atLeast.holds found given = .ok true ↔
      ∃ a b, found.number? = some a ∧ given.number? = some b ∧ b ≤ a :=
  Value.compareNumbers_iff fun _ _ =>
    Binary64.le_iff.trans (exists_comm.trans (exists₂_congr fun _ _ => and_left_comm))

end Order

/-- **The comparisons of two values are paired.** -/
theorem paired_holds (found given : Value) :
    Paired found given fun c => c.holds found given = .ok true where
  equality := xor_ok_not _
  containment := by
    intro hwritable
    obtain ⟨b, hb⟩ := exists_holds hwritable
    simp only [holds, hb]
    exact xor_ok_not b
  no_containment := by
    intro hfound hgiven
    simp [holds, holds_eq_error hfound hgiven, Except.map]
  emptiness := xor_ok_not _
  membership := by
    intro hlist
    cases given with
    | list items => exact xor_ok_not _
    | _ => cases hlist
  no_membership := by
    intro hother
    cases given with
    | list items => exact absurd rfl hother
    | _ => simp [holds, Value.isItemOf, Value.isNoItemOf]
  order := by
    intro a b ha hb
    simp only [holds_less_iff, holds_atLeast_iff, holds_greater_iff, holds_atMost_iff, ha, hb,
      Option.some.injEq, exists_and_left, exists_eq_left', and_true]
    exact ⟨xor_iff_iff_not.mpr not_le.symm, xor_iff_iff_not.mpr not_le.symm⟩
  no_order := by
    rintro (hnone | hnone) <;>
      simp [holds_less_iff, holds_atLeast_iff, holds_greater_iff, holds_atMost_iff, hnone]

end Comparison

/-! ### Leaves that compare -/

section Leaves

variable {context field value found : Value} {children : List Tree}

theorem Tree.found?_text {path : String} (hpath : path ≠ "") :
    found? context (.text path) = (context.resolvePath (.text path)).toOption := by
  simp [found?, hpath]

/-- Where something is found under its field a leaf that compares matches when the comparison
holds. -/
theorem Tree.matches_compare_iff (hfound : found? context field = some found) (c : Comparison) :
    (node (.compare c) field value children).Matches context ↔ c.holds found value = .ok true := by
  rw [matches_leaf_iff rfl, hfound]
  simp [Operator.holds]

/-- **Leaves with complementary comparisons under one field**, whatever is written below them. Every
leaf has an answer if its operator can be written. Where the field leads to a value, the answers are
paired as the comparisons of that value are. Where it cannot be followed, no leaf matches, whatever
its operator. -/
theorem matches_paired (context value : Value) (children : List Tree) {path : String}
    (hpath : path ≠ "") :
    (∀ op, Tree.connective? op children = none → op.toValue.isWritable = true →
      ∃ b, (Tree.node op (.text path) value children).eval context = .ok b) ∧
    (∀ found, context.resolvePath (.text path) = .ok found →
      Comparison.Paired found value fun c =>
        (Tree.node (.compare c) (.text path) value children).Matches context) ∧
    ∀ fault, context.resolvePath (.text path) = .error fault →
      ∀ op, Tree.connective? op children = none →
        ¬(Tree.node op (.text path) value children).Matches context := by
  have hfound : Tree.found? context (.text path) = _ := Tree.found?_text hpath
  refine ⟨?_, ?_, ?_⟩
  · intro op hleaf hop
    rw [Tree.eval_leaf hleaf]
    exact Tree.exists_leafHolds hop _ _
  · intro found hresolve
    rw [hresolve] at hfound
    simp only [Tree.matches_compare_iff hfound]
    exact Comparison.paired_holds found value
  · intro fault hresolve op hleaf
    rw [hresolve] at hfound
    rw [Tree.matches_leaf_iff hleaf, hfound]
    simp [Except.toOption]

/-- A crate with a weight that is written in base sixteen, and two sizes. -/
def crateContext : Value :=
  .mapping [("crate", .mapping [("weight", .text " 0x10 "),
    ("sizes", .list [.int 1, .float .nan])])]

/-- The weight is compared with a list that counts as sixteen; no size stands at a position written
with a digit that is not decimal. -/
theorem matches_paired_crate :
    (∃ found, crateContext.resolvePath (.text "crate.weight") = .ok found ∧
      Comparison.Paired found (.list [.text "16"]) fun c =>
        (Tree.node (.compare c) (.text "crate.weight") (.list [.text "16"]) []).Matches
          crateContext) ∧
    (∃ fault, crateContext.resolvePath (.text "crate.sizes.²") = .error fault) ∧
    ∀ op, ¬(Tree.node op (.text "crate.sizes.²") .absent []).Matches crateContext := by
  obtain ⟨-, hpaired, -⟩ :=
    matches_paired crateContext (.list [.text "16"]) [] (by decide : "crate.weight" ≠ "")
  obtain ⟨-, -, hnone⟩ :=
    matches_paired crateContext .absent [] (by decide : "crate.sizes.²" ≠ "")
  refine ⟨⟨_, rfl, hpaired _ rfl⟩, ⟨_, rfl⟩, fun op => hnone _ rfl op ?_⟩
  cases op <;> rfl

/-- A context with one text. -/
def codeContext : Value := .mapping [("code", .text "abc")]

/-- **A text may neither contain a value nor not contain it.** The value is an integer that cannot
be written. -/
theorem contains_unpaired :
    codeContext.resolvePath (.text "code") = .ok (.text "abc") ∧
      ¬(Tree.node (.compare .contains) (.text "code") .tooLong []).Matches codeContext ∧
      ¬(Tree.node (.compare .notContains) (.text "code") .tooLong []).Matches codeContext := by
  have hfound : Tree.found? codeContext (.text "code") = some (.text "abc") := rfl
  refine ⟨rfl, ?_⟩
  rw [Tree.matches_compare_iff hfound, Tree.matches_compare_iff hfound]
  exact (Comparison.paired_holds _ _).no_containment rfl Value.not_isWritable_tooLong

end Leaves

end Rulebook
