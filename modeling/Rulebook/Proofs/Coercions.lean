import Rulebook.Proofs.Literals
import Rulebook.Proofs.Spelling

/-!
# Lists as Numbers and as Texts

The number that a list counts as may be had in two ways: from its items, where a list of one item
counts as that item, or from its text, in which the items are joined by commas. The two are compared
here for lists of texts, numbers, truth values, `null` and such lists.

A text of several items has a comma in it and is a NaN both ways. So what matters is the one item
that is wrapped in lists, and there the two ways are one: a text is read as itself, a number as it
was written, and `null` and an empty list write nothing, which is zero. Only a truth value is told
apart. It counts as one or zero, but its text is a word.

## Main definitions

* `Value.IsSimple`: texts, numbers, truth values, `null` and lists of these.
* `Value.Wraps`: a value with lists of one item around it.
* `Binary64.Agrees`: the same number, or both a NaN.

## Main results

* `Value.agrees_numberText`: a number agrees with what is read from its text.
* `Value.toNumber_itemText`: so does what an item counts as, unless it wraps a truth value.
* `Value.toNumber_listText`: so does what a list counts as.
-/

namespace Rulebook

namespace Binary64

/-- **The same number**, or both a NaN. -/
def Agrees (x y : Binary64) : Prop := x.sameNumber y = true ∨ x.isNaN = true ∧ y.isNaN = true

theorem agrees_self (x : Binary64) : x.Agrees x := by
  cases x with
  | nan => exact .inr ⟨rfl, rfl⟩
  | infinite negative => exact .inl (by simp [sameNumber, position?])
  | finite negative m => exact .inl (by simp [sameNumber, position?])

/-- The sign of a zero does not matter. -/
theorem agrees_of_signed {s t : Bool} {m : Magnitude} (h : signed s m.units = signed t m.units) :
    (finite s m).Agrees (finite t m) :=
  .inl (by simp [sameNumber, position?, h])

theorem signed_mul (s : Bool) (k l : ℕ) : signed s (k * l) = signed s k * l := by
  cases s <;> simp [signed]

/-- A number without a fraction is as many units as its integer. -/
theorem signed_units_of_toInt? {s : Bool} {m : Magnitude} {n : ℤ}
    (h : (finite s m).toInt? = some n) :
    n.natAbs * unitsPerOne = m.units ∧ signed s m.units = signed (decide (n < 0)) m.units := by
  rw [toInt?, Option.ite_none_right_eq_some] at h
  obtain ⟨⟨k, hk⟩, hn⟩ := h
  rw [hk, Nat.mul_div_cancel_left _ unitsPerOne_pos, Option.some.injEq] at hn
  have habs : n.natAbs * unitsPerOne = m.units := by
    rw [hk, ← hn, Nat.mul_comm]
    cases s <;> simp [signed]
  have hmul : signed s m.units = n * unitsPerOne := by
    rw [hk, ← hn, Nat.mul_comm, signed_mul]
  exact ⟨habs, by rw [hmul, mul_eq_signed, habs]⟩

end Binary64

namespace Value

open Binary64 (Agrees)

/-! ### The text of a number -/

section Numbers

variable {x y : Binary64} {n : ℤ}

/-- An integer that counts as a number is read as that number. -/
theorem read_toString_of_ofInt (h : Numeral.ofInt n = .ok x) :
    Numeral.read (toString n).toList = .ok x := by
  obtain ⟨hround, -⟩ := Binary64.finite?_eq_some_iff.mp (Fault.ifNone_eq_ok_iff.mp h)
  rw [Numeral.read_toString, hround]

/-- **A number agrees with what is read from its text.** -/
theorem agrees_numberText (x : Binary64) :
    ∃ y, Numeral.read (numberText x).toList = .ok y ∧ x.Agrees y := by
  cases x with
  | nan => exact ⟨.nan, by decide +kernel, Binary64.agrees_self _⟩
  | infinite negative =>
      refine ⟨_, ?_, Binary64.agrees_self _⟩
      cases negative with
      | false => exact Numeral.read_infinity .unsigned
      | true => exact Numeral.read_infinity .minus
  | finite s m =>
      cases hwhole : (Binary64.finite s m).toInt? with
      | some n =>
          obtain ⟨habs, hsigned⟩ := Binary64.signed_units_of_toInt? hwhole
          refine ⟨.finite (decide (n < 0)) m, ?_, Binary64.agrees_of_signed hsigned⟩
          have htext : numberText (.finite s m) = toString n := by simp [numberText, hwhole]
          rw [htext, Numeral.read_toString, habs, Binary64.round_magnitude]
      | none =>
          have hpos : 0 < m.units := by
            refine Nat.pos_of_ne_zero fun hzero => ?_
            simp [Binary64.toInt?, hzero] at hwhole
          have htext : numberText (.finite s m) = Layout.plain.write (.finite s m) := by
            simp [numberText, hwhole]
          exact ⟨_, by rw [htext, Numeral.read_write s hpos], Binary64.agrees_self _⟩

end Numbers

/-! ### Lists -/

/-- **Values without mappings**: texts, numbers, truth values, `null` and lists of these. -/
inductive IsSimple : Value → Prop
  | null : IsSimple .null
  | bool (b : Bool) : IsSimple (.bool b)
  | int (n : ℤ) : IsSimple (.int n)
  | float (x : Binary64) : IsSimple (.float x)
  | text (s : String) : IsSimple (.text s)
  | list {items : List Value} : (∀ v ∈ items, IsSimple v) → IsSimple (.list items)

/-- **A value with lists of one item around it.** -/
inductive Wraps (core : Value) : Value → Prop
  | self : Wraps core core
  | list {v : Value} : Wraps core v → Wraps core (.list [v])

/-- The text of an item of a list. -/
def itemText : Value → String
  | absent | null => ""
  | v => v.toText

theorem itemTexts_eq_map (items : List Value) : itemTexts items = items.map itemText := by
  induction items with
  | nil => rw [itemTexts, List.map_nil]
  | cons v rest ih => cases v <;> simp [itemTexts, itemText, ih]

theorem toText_list (items : List Value) :
    (list items).toText = ",".intercalate (items.map itemText) := by
  rw [toText, itemTexts_eq_map]

@[simp] theorem itemText_list (items : List Value) :
    (list items).itemText = (list items).toText := rfl

theorem toNumber_wrapped (v : Value) : (list [v]).toNumber = v.toNumber := by
  rw [toNumber, itemsToNumber]
  rfl

theorem itemText_wrapped (v : Value) : (list [v]).itemText = v.itemText := by
  rw [itemText_list, toText_list]
  rfl

theorem toNumber_several (v w : Value) (rest : List Value) :
    (list (v :: w :: rest)).toNumber = .ok .nan := by
  rw [toNumber, itemsToNumber]
  rfl

theorem comma_mem_itemText (v w : Value) (rest : List Value) :
    ',' ∈ (list (v :: w :: rest)).itemText.toList := by
  rw [itemText_list, toText_list]
  simp [String.toList_intercalate]

/-- **What is read from the text of an item**: the number that the item counts as, unless it wraps a
truth value. -/
theorem toNumber_itemText {v : Value} (hv : IsSimple v) {x y : Binary64} (hx : v.toNumber = .ok x)
    (hy : Numeral.read v.itemText.toList = .ok y) :
    (∃ b, Wraps (.bool b) v ∧ x = (if b then .one else .zero) ∧ y = .nan) ∨
      (∀ b, ¬Wraps (.bool b) v) ∧ x.Agrees y := by
  induction hv generalizing x y with
  | null =>
      obtain rfl := Except.ok.inj hx
      obtain rfl := Except.ok.inj hy
      exact .inr ⟨fun b hb => (by cases hb), Binary64.agrees_self _⟩
  | bool b =>
      have hnan : Numeral.read (bool b).itemText.toList = .ok .nan := by
        cases b <;> decide +kernel
      obtain rfl := Except.ok.inj hx
      obtain rfl := Except.ok.inj (hnan.symm.trans hy)
      exact .inl ⟨b, .self, rfl, rfl⟩
  | int n =>
      have hread : Numeral.read (int n).itemText.toList = .ok x := read_toString_of_ofInt hx
      obtain rfl := Except.ok.inj (hread.symm.trans hy)
      exact .inr ⟨fun b hb => (by cases hb), Binary64.agrees_self _⟩
  | float z =>
      obtain ⟨y', hread, hagrees⟩ := agrees_numberText z
      obtain rfl := Except.ok.inj hx
      obtain rfl := Except.ok.inj (hread.symm.trans hy)
      exact .inr ⟨fun b hb => (by cases hb), hagrees⟩
  | text s =>
      rw [toNumber] at hx
      obtain rfl := Except.ok.inj (hx.symm.trans hy)
      exact .inr ⟨fun b hb => (by cases hb), Binary64.agrees_self _⟩
  | @list items hitems ih =>
      rcases items with _ | ⟨v, _ | ⟨w, rest⟩⟩
      · obtain rfl := Except.ok.inj hx
        obtain rfl := Except.ok.inj hy
        exact .inr ⟨fun b hb => (by cases hb), Binary64.agrees_self _⟩
      · rw [toNumber_wrapped] at hx
        rw [itemText_wrapped] at hy
        rcases ih v List.mem_cons_self hx hy with ⟨b, hb, hvalues⟩ | ⟨hnot, hagrees⟩
        · exact .inl ⟨b, hb.list, hvalues⟩
        · refine .inr ⟨fun b hb => ?_, hagrees⟩
          cases hb with
          | list hb => exact hnot b hb
      · rw [toNumber_several] at hx
        rw [Numeral.read_of_comma (comma_mem_itemText v w rest)] at hy
        obtain rfl := Except.ok.inj hx
        obtain rfl := Except.ok.inj hy
        exact .inr ⟨fun b hb => (by cases hb), Binary64.agrees_self _⟩

/-- **A list counts as the number that is read from its text**, or as no number where that is none,
unless it wraps a truth value: then it counts as one or zero, and its text is a NaN. -/
theorem toNumber_listText {items : List Value} (hitems : ∀ v ∈ items, IsSimple v) {x y : Binary64}
    (hx : (list items).toNumber = .ok x) (hy : (text (list items).toText).toNumber = .ok y) :
    (∃ b, Wraps (.bool b) (.list items) ∧ x = (if b then .one else .zero) ∧ y = .nan) ∨
      (∀ b, ¬Wraps (.bool b) (.list items)) ∧ x.Agrees y := by
  rw [toNumber] at hy
  exact toNumber_itemText (.list hitems) hx hy

/-- The number nearest to a tenth. -/
def tenth : Binary64 := Decimal.toBinary64 false ⟨1, -1⟩

/-- A tenth within two lists is told by its text. -/
theorem toNumber_listText_tenth : ∃ x y, (list [list [float tenth]]).toNumber = .ok x ∧
    (text (list [list [float tenth]]).toText).toNumber = .ok y ∧ x.Agrees y := by
  have hsimple : ∀ v ∈ [list [float tenth]], IsSimple v := by
    intro v hv
    rw [List.mem_singleton.mp hv]
    exact .list fun w hw => List.mem_singleton.mp hw ▸ .float tenth
  have hread : (text (list [list [float tenth]]).toText).toNumber = .ok tenth := by
    rw [toNumber]
    decide +kernel
  refine ⟨tenth, tenth, rfl, hread, ?_⟩
  rcases toNumber_listText hsimple rfl hread with ⟨b, hb, -⟩ | ⟨-, hagrees⟩
  · cases hb with
    | list hb => cases hb with
      | list hb => cases hb
  · exact hagrees

/-- A truth value in a list counts as one, but the text of the list is a NaN. -/
theorem toNumber_listText_flag :
    (list [bool true]).toNumber = .ok .one ∧ (list [bool true]).toText = "true" ∧
    (text "true").toNumber = .ok .nan ∧ ¬Binary64.one.Agrees .nan := by
  refine ⟨?_, rfl, ?_, ?_⟩
  · rw [toNumber_wrapped, toNumber, if_pos rfl]
  · rw [toNumber]
    decide +kernel
  · rintro (hsame | ⟨hnan, -⟩)
    · exact absurd hsame (by decide +kernel)
    · exact absurd hnan (by decide +kernel)

end Value

end Rulebook
