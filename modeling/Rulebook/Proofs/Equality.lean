import Rulebook.Value.Equality

/-!
# Plain Equality of Keys

Numbers of every kind are compared by their value, without rounding, so that 1, 1.0 and `true` are
one key. That this is a sensible notion of being one key is shown by giving each value without parts
a **form**, in which only what the comparison looks at is left: two such values are plainly equal
exactly when they have one form (`Value.sameScalar_iff`). Symmetry and transitivity follow. A NaN
has no form, for it is equal to nothing.

## Main definitions

* `Form`, `Value.form?`: what plain equality sees of a value without parts.
* `Value.IsKey`: a value that may be a key.

## Main results

* `Value.sameScalar_iff`: plain equality of values without parts is equality of their forms.
* `Value.same_comm`, `Value.same_congr_left`, `Value.same_congr_right`: plain equality of keys is
  symmetric, and equal keys are equal to the same values.
-/

namespace Rulebook

/-! ### Numbers -/

namespace Binary64

/-- What plain equality sees of a number: how many units it counts, or which infinity it is. -/
def exactUnits? : Binary64 → Option (Int ⊕ Bool)
  | .nan => none
  | .infinite s => some (.inr s)
  | .finite s m => some (.inl (signed s m.units))

/-- No finite number stands where an infinity does. -/
theorem signed_units_ne (s t : Bool) (m : Magnitude) :
    signed s m.units ≠ signed t overflowUnits := by
  have hbound := m.bounded
  have hpos := overflowUnits_pos
  simp only [signed]
  split <;> split <;> omega

/-- A place other than zero tells its sign. -/
theorem signed_inj {s t : Bool} {n : Nat} (hn : 0 < n) : signed s n = signed t n ↔ s = t := by
  constructor
  · intro h
    cases s with
    | false =>
        cases t with
        | false => rfl
        | true =>
            have hplace : (n : Int) = -n := h
            omega
    | true =>
        cases t with
        | false =>
            have hplace : -(n : Int) = n := h
            omega
        | true => rfl
  · rintro rfl
    rfl

/-- The two infinities stand at different places. -/
theorem signed_overflow_inj {s t : Bool} :
    signed s overflowUnits = signed t overflowUnits ↔ s = t := signed_inj overflowUnits_pos

/-- Two numbers are the same when they have one exact value. -/
theorem sameNumber_iff {x y : Binary64} :
    x.sameNumber y = true ↔ ∃ p, x.exactUnits? = some p ∧ y.exactUnits? = some p := by
  cases x with
  | nan => simp [sameNumber, position?, exactUnits?]
  | infinite s =>
      cases y with
      | nan => simp [sameNumber, position?, exactUnits?]
      | infinite t => simp [sameNumber, position?, exactUnits?, signed_overflow_inj, eq_comm]
      | finite t n => simp [sameNumber, position?, exactUnits?, (signed_units_ne t s n).symm]
  | finite s m =>
      cases y with
      | nan => simp [sameNumber, position?, exactUnits?]
      | infinite t => simp [sameNumber, position?, exactUnits?, signed_units_ne s t m]
      | finite t n => simp [sameNumber, position?, exactUnits?, eq_comm]

/-- A number is an integer when that is its exact value. -/
theorem isInteger_iff {x : Binary64} {n : Int} :
    x.isInteger n = true ↔ x.exactUnits? = some (.inl (n * unitsPerOne)) := by
  cases x with
  | nan => exact ⟨fun h => (nomatch h), fun h => (nomatch h)⟩
  | infinite s => exact ⟨fun h => (nomatch h), fun h => (nomatch Option.some.inj h)⟩
  | finite s m => rw [isInteger, exactUnits?, decide_eq_true_eq, Option.some.injEq, Sum.inl.injEq]

end Binary64

namespace Value

/-- The exact value of an integer or a binary64 number. -/
def exactNumber? : Int ⊕ Binary64 → Option (Int ⊕ Bool)
  | .inl n => some (.inl (n * unitsPerOne))
  | .inr x => x.exactUnits?

/-- **Numbers of any sort are equal when they have one exact value.** -/
theorem sameNumber_iff {m n : Int ⊕ Binary64} :
    sameNumber m n = true ↔ ∃ p, exactNumber? m = some p ∧ exactNumber? n = some p := by
  have hunits : (unitsPerOne : Int) ≠ 0 := by
    have hpos := unitsPerOne_pos
    omega
  rcases m with m | x <;> rcases n with n | y
  · simp only [sameNumber, exactNumber?, decide_eq_true_eq, Option.some.injEq, exists_eq_left',
      Sum.inl.injEq]
    rw [Int.mul_eq_mul_right_iff hunits]
    exact eq_comm
  · simp only [sameNumber, exactNumber?, Binary64.isInteger_iff, Option.some.injEq,
      exists_eq_left']
  · simp only [sameNumber, exactNumber?, Binary64.isInteger_iff, Option.some.injEq,
      exists_eq_right']
  · exact Binary64.sameNumber_iff

/-! ### Values without parts -/

end Value

/-- What plain equality sees of a value without parts. -/
inductive Form where
  | absent
  | null
  | number (p : Int ⊕ Bool)
  | text (s : String)
  /-- A moment, with or without an offset. -/
  | moment (offset : Bool) (instant : Int)

namespace Value

/-- The form of a value that is neither a number nor made of parts. -/
def otherForm? : Value → Option Form
  | absent => some .absent
  | null => some .null
  | text s => some (.text s)
  | timestamp t => some (.moment t.offset.isSome t.instant)
  | _ => none

/-- The form of a value without parts; a NaN has none. -/
def form? (v : Value) : Option Form :=
  match v.numeric? with
  | some m => (exactNumber? m).map .number
  | none => v.otherForm?

theorem form?_of_numeric {v : Value} {m : Int ⊕ Binary64} (h : v.numeric? = some m) :
    v.form? = (exactNumber? m).map .number := by
  rw [form?, h]

theorem form?_of_not_numeric {v : Value} (h : v.numeric? = none) : v.form? = v.otherForm? := by
  rw [form?, h]

/-- Only a number has the form of a number. -/
theorem form?_ne_number {v : Value} (h : v.numeric? = none) (p : Int ⊕ Bool) :
    v.form? ≠ some (.number p) := by
  rw [form?_of_not_numeric h]
  cases v with
  | _ => simp [otherForm?]

/-- Values that are no numbers are plainly equal when they have one form. -/
theorem sameScalar_of_not_numeric {v w : Value} (hv : v.numeric? = none) (hw : w.numeric? = none) :
    v.sameScalar w = true ↔ ∃ f, v.form? = some f ∧ w.form? = some f := by
  rw [form?_of_not_numeric hv, form?_of_not_numeric hw]
  simp only [sameScalar]
  rw [hv, hw]
  cases v with
  | absent => cases w <;> simp [otherForm?]
  | null => cases w <;> simp [otherForm?]
  | text s =>
      cases w with
      | text t =>
          simp only [beq_iff_eq, otherForm?, Option.some.injEq, exists_eq_left', Form.text.injEq]
          exact eq_comm
      | _ => simp [otherForm?]
  | timestamp t =>
      cases w with
      | timestamp u =>
          simp only [Timestamp.same, Bool.and_eq_true, beq_iff_eq, decide_eq_true_eq, otherForm?,
            Option.some.injEq, exists_eq_left', Form.moment.injEq]
          exact and_congr eq_comm eq_comm
      | _ => simp [otherForm?]
  | _ => cases w <;> simp [otherForm?]

/-- A number has no form in common with what is no number. -/
theorem no_common_form {v w : Value} {m : Int ⊕ Binary64} (hv : v.numeric? = some m)
    (hw : w.numeric? = none) : ¬∃ f, v.form? = some f ∧ w.form? = some f := by
  rintro ⟨f, hfv, hfw⟩
  rw [form?_of_numeric hv] at hfv
  obtain ⟨p, -, rfl⟩ := Option.map_eq_some_iff.mp hfv
  exact form?_ne_number hw p hfw

/-- Numbers are plainly equal when they have one form. -/
theorem sameScalar_of_numeric {v w : Value} {m n : Int ⊕ Binary64} (hv : v.numeric? = some m)
    (hw : w.numeric? = some n) :
    v.sameScalar w = true ↔ ∃ f, v.form? = some f ∧ w.form? = some f := by
  rw [form?_of_numeric hv, form?_of_numeric hw]
  simp only [sameScalar]
  rw [hv, hw]
  refine sameNumber_iff.trans ⟨?_, ?_⟩
  · rintro ⟨p, hm, hn⟩
    exact ⟨.number p, by rw [hm]; rfl, by rw [hn]; rfl⟩
  · rintro ⟨f, hm, hn⟩
    obtain ⟨p, hp, rfl⟩ := Option.map_eq_some_iff.mp hm
    obtain ⟨q, hq, hqp⟩ := Option.map_eq_some_iff.mp hn
    obtain rfl := Form.number.inj hqp
    exact ⟨_, hp, hq⟩

/-- **Values without parts are plainly equal when they have one form.** -/
theorem sameScalar_iff {v w : Value} :
    v.sameScalar w = true ↔ ∃ f, v.form? = some f ∧ w.form? = some f := by
  cases hv : v.numeric? with
  | some m =>
      cases hw : w.numeric? with
      | some n => exact sameScalar_of_numeric hv hw
      | none =>
          have hfalse : v.sameScalar w = false := by
            simp only [sameScalar]
            rw [hv, hw]
            cases v <;> first | rfl | cases hv
          rw [hfalse]
          exact iff_of_false Bool.false_ne_true (no_common_form hv hw)
  | none =>
      cases hw : w.numeric? with
      | some n =>
          have hfalse : v.sameScalar w = false := by
            simp only [sameScalar]
            rw [hv, hw]
            cases v <;> first | rfl | (cases w <;> first | rfl | cases hw)
          rw [hfalse]
          exact iff_of_false Bool.false_ne_true fun ⟨f, hfv, hfw⟩ =>
            no_common_form hw hv ⟨f, hfw, hfv⟩
      | none => exact sameScalar_of_not_numeric hv hw

/-! ### Keys -/

/-- A value that may be a key. -/
def IsKey (v : Value) : Prop := v.hashable = .ok ()

/-- Comparing a key with anything compares values without parts. -/
theorem same_eq_sameScalar {v w : Value} (h : v.IsKey ∨ w.IsKey) : v.same w = v.sameScalar w := by
  cases v with
  | list xs =>
      rcases h with h | h
      · cases h
      · cases w with
        | list ys => cases h
        | _ => rfl
  | mapping es =>
      rcases h with h | h
      · cases h
      · cases w with
        | mapping fs => cases h
        | _ => rfl
  | _ => rfl

/-- A key is equal to what has its form. -/
theorem IsKey.same_iff {v w : Value} (h : v.IsKey) :
    v.same w = true ↔ ∃ f, v.form? = some f ∧ w.form? = some f := by
  rw [same_eq_sameScalar (.inl h)]
  exact sameScalar_iff

/-- A key is equal to what is equal to it. -/
theorem same_comm {v w : Value} (h : v.IsKey) : v.same w = w.same v := by
  rw [Bool.eq_iff_iff, h.same_iff, same_eq_sameScalar (.inr h), sameScalar_iff]
  exact exists_congr fun f => and_comm

/-- Equal keys have one form. -/
theorem form?_eq_of_same {v w : Value} (h : v.IsKey) (hsame : v.same w = true) :
    v.form? = w.form? := by
  obtain ⟨f, hv, hw⟩ := h.same_iff.mp hsame
  rw [hv, hw]

/-- **Equal keys are equal to the same values.** -/
theorem same_congr_left {v w : Value} (hv : v.IsKey) (hw : w.IsKey) (h : v.same w = true)
    (k : Value) : v.same k = w.same k := by
  rw [Bool.eq_iff_iff, hv.same_iff, hw.same_iff, form?_eq_of_same hv h]

/-- Equal keys have the same keys equal to them. -/
theorem same_congr_right {k v w : Value} (hk : k.IsKey) (hv : v.IsKey) (h : v.same w = true) :
    k.same v = k.same w := by
  rw [Bool.eq_iff_iff, hk.same_iff, hk.same_iff, form?_eq_of_same hv h]

/-- Two values that one key is equal to are equal, when one of them may be a key, too. -/
theorem same_of_same {k v w : Value} (hk : k.IsKey) (hw : w.IsKey) (hkv : k.same v = true)
    (hkw : k.same w = true) : v.same w = true := by
  obtain ⟨f, hf, hfv⟩ := hk.same_iff.mp hkv
  obtain ⟨g, hg, hgw⟩ := hk.same_iff.mp hkw
  obtain rfl := Option.some.inj (hf.symm.trans hg)
  rw [same_eq_sameScalar (.inr hw), sameScalar_iff]
  exact ⟨f, hfv, hgw⟩

/-- A key that is equal to one value and not to another one is no bridge between them. -/
theorem not_same_of_same {k v w : Value} (hk : k.IsKey) (hv : v.IsKey) (hkw : k.same w = true)
    (hkv : k.same v = false) : v.same w = false := by
  cases h : v.same w with
  | false => rfl
  | true =>
      have hsame := same_congr_right hk hv h
      rw [hkv, hkw] at hsame
      cases hsame

end Value

end Rulebook
