import Mathlib.Data.List.Forall2
import Rulebook.Refusal

/-!
# Success of Operations That May Fail

An operation gives a value or the cause of its failure. The lemmas here open a successful sequence
of operations: what succeeds as a whole succeeded step by step, and item by item. A sequence also
fails only as one of its steps does.

## Main definitions

* `FailsOnly`: an operation fails only in certain ways, if it fails.

## Main results

* `bind_eq_ok_iff`: a sequence of two steps succeeds when both do.
* `mapM_eq_ok_iff`, `mapM_eq_some_iff`: going through a list succeeds when every item does, and
  gives what each item gives.
* `exists_mapM_eq_error_iff`: it fails when some item does.
* `FailsOnly.bind`, `FailsOnly.mapM`: a sequence fails only as one of its steps does.
-/

namespace Rulebook

variable {ε α β : Type}

/-- A sequence of two steps succeeds exactly when both of them do. -/
theorem bind_eq_ok_iff {x : Except ε α} {f : α → Except ε β} {b : β} :
    x >>= f = .ok b ↔ ∃ a, x = .ok a ∧ f a = .ok b := by
  cases x with
  | error e => simp [bind, Except.bind]
  | ok a => simp [bind, Except.bind]

/-- Going through two lists one after the other, when the first one succeeds. -/
theorem foldlM_append_of_ok {f : β → α → Except ε β} {as as' : List α} {b b' : β}
    (h : as.foldlM f b = .ok b') : (as ++ as').foldlM f b = as'.foldlM f b' := by
  rw [List.foldlM_append, h]
  rfl

/-- A result that is mapped is one that was there. -/
theorem map_eq_ok_iff {x : Except ε α} {f : α → β} {b : β} :
    x.map f = .ok b ↔ ∃ a, x = .ok a ∧ f a = b := by
  cases x with
  | error e => simp [Except.map]
  | ok a => simp [Except.map]

/-- Going through a list succeeds exactly when every item does, item by item. -/
theorem mapM_eq_ok_iff {f : α → Except ε β} {as : List α} {bs : List β} :
    as.mapM f = .ok bs ↔ List.Forall₂ (fun a b => f a = .ok b) as bs := by
  induction as generalizing bs with
  | nil =>
      rw [List.mapM_nil, List.forall₂_nil_left_iff]
      exact ⟨fun h => (Except.ok.inj h).symm, fun h => by rw [h]; rfl⟩
  | cons a as ih =>
      rw [List.mapM_cons, bind_eq_ok_iff, List.forall₂_cons_left_iff]
      constructor
      · rintro ⟨b, hb, hrest⟩
        obtain ⟨bs', hbs, heq⟩ := bind_eq_ok_iff.mp hrest
        exact ⟨b, bs', hb, ih.mp hbs, (Except.ok.inj heq).symm⟩
      · rintro ⟨b, bs', hb, hbs, rfl⟩
        exact ⟨b, hb, bind_eq_ok_iff.mpr ⟨bs', ih.mpr hbs, rfl⟩⟩

/-- A result that is mapped fails as it failed before. -/
theorem map_eq_error_iff {x : Except ε α} {f : α → β} {e : ε} :
    x.map f = .error e ↔ x = .error e := by
  cases x with
  | error e' => simp [Except.map]
  | ok a => simp [Except.map]

/-- What succeeds does not fail. -/
theorem not_exists_ok_eq_error (a : α) : ¬∃ e, (.ok a : Except ε α) = .error e := by
  rintro ⟨e, h⟩
  cases h

/-- Going through a list fails exactly when some item does. -/
theorem exists_mapM_eq_error_iff {f : α → Except ε β} {as : List α} :
    (∃ e, as.mapM f = .error e) ↔ ∃ a ∈ as, ∃ e, f a = .error e := by
  induction as with
  | nil =>
      refine iff_of_false (not_exists_ok_eq_error []) ?_
      rintro ⟨a, ha, -⟩
      cases ha
  | cons a as ih =>
      simp only [List.mapM_cons, List.mem_cons, exists_eq_or_imp]
      rw [← ih]
      cases f a with
      | error e => simp [bind, Except.bind]
      | ok b => cases as.mapM f <;> simp [bind, Except.bind, pure, Except.pure]

/-- Going through a list with an operation that gives something for every item. -/
theorem mapM_eq_ok_map {f : α → Except ε β} {g : α → β} {as : List α}
    (h : ∀ a ∈ as, f a = .ok (g a)) : as.mapM f = .ok (as.map g) := by
  rw [mapM_eq_ok_iff, List.forall₂_map_right_iff, List.forall₂_same]
  exact h

/-- What every item of a list has, the items of another list are. -/
theorem exists_forall₂ {R : α → β → Prop} {as : List α} (h : ∀ a ∈ as, ∃ b, R a b) :
    ∃ bs, List.Forall₂ R as bs := by
  induction as with
  | nil => exact ⟨[], .nil⟩
  | cons a as ih =>
      obtain ⟨⟨b, hb⟩, hrest⟩ := List.forall_mem_cons.mp h
      obtain ⟨bs, hbs⟩ := ih hrest
      exact ⟨b :: bs, .cons hb hbs⟩

/-- Each item of a list is what some item of another list is related to. -/
theorem exists_of_mem_forall₂ {R : α → β → Prop} {as : List α} {bs : List β}
    (h : List.Forall₂ R as bs) {b : β} (hb : b ∈ bs) : ∃ a ∈ as, R a b := by
  induction h with
  | nil => cases hb
  | @cons a b' as bs hab _ ih =>
      rcases List.mem_cons.mp hb with rfl | hb
      · exact ⟨a, List.mem_cons_self, hab⟩
      · obtain ⟨a', ha', hR⟩ := ih hb
        exact ⟨a', List.mem_cons_of_mem a ha', hR⟩

/-- Each item of a list has an item in its place that it is related to. -/
theorem exists_mem_zip_of_forall₂ {R : α → β → Prop} {as : List α} {bs : List β}
    (h : List.Forall₂ R as bs) {a : α} (ha : a ∈ as) : ∃ b, (a, b) ∈ as.zip bs ∧ R a b := by
  induction h with
  | nil => cases ha
  | @cons a' b as bs hab _ ih =>
      rcases List.mem_cons.mp ha with rfl | ha
      · exact ⟨b, List.mem_cons_self, hab⟩
      · obtain ⟨b', hb', hR⟩ := ih ha
        exact ⟨b', List.mem_cons_of_mem _ hb', hR⟩

/-- What related items have or have not alike, all items of related lists have alike. -/
theorem forall_mem_iff_of_forall₂ {R : α → β → Prop} {P : α → Prop} {Q : β → Prop} {as : List α}
    {bs : List β} (h : List.Forall₂ R as bs) (hPQ : ∀ a b, R a b → (P a ↔ Q b)) :
    (∀ a ∈ as, P a) ↔ ∀ b ∈ bs, Q b := by
  induction h with
  | nil => simp
  | cons hab _ ih => rw [List.forall_mem_cons, List.forall_mem_cons, ih, hPQ _ _ hab]

/-- Each place of a list holds what is related to the item in that place of another list. -/
theorem exists_getElem?_of_forall₂ {R : α → β → Prop} {as : List α} {bs : List β}
    (h : List.Forall₂ R as bs) {n : ℕ} {a : α} (ha : as[n]? = some a) :
    ∃ b, bs[n]? = some b ∧ R a b := by
  induction h generalizing n with
  | nil => cases ha
  | @cons a' b _ _ hab _ ih =>
      cases n with
      | zero =>
          obtain rfl : a' = a := Option.some.inj ha
          exact ⟨b, rfl, hab⟩
      | succ n => exact ih ha

/-- Going through a list gives something exactly when every item does, item by item. -/
theorem mapM_eq_some_iff {f : α → Option β} {as : List α} {bs : List β} :
    as.mapM f = some bs ↔ List.Forall₂ (fun a b => f a = some b) as bs := by
  induction as generalizing bs with
  | nil =>
      rw [List.mapM_nil, List.forall₂_nil_left_iff]
      exact ⟨fun h => (Option.some.inj h).symm, fun h => by rw [h]; rfl⟩
  | cons a as ih =>
      rw [List.mapM_cons, List.forall₂_cons_left_iff]
      constructor
      · intro h
        obtain ⟨b, hb, hrest⟩ := Option.bind_eq_some_iff.mp h
        obtain ⟨bs', hbs, heq⟩ := Option.bind_eq_some_iff.mp hrest
        exact ⟨b, bs', hb, ih.mp hbs, (Option.some.inj heq).symm⟩
      · rintro ⟨b, bs', hb, hbs, rfl⟩
        exact Option.bind_eq_some_iff.mpr
          ⟨b, hb, Option.bind_eq_some_iff.mpr ⟨bs', ih.mpr hbs, rfl⟩⟩

theorem isSome_mapM_iff {f : α → Option β} {as : List α} :
    (as.mapM f).isSome = true ↔ ∀ a ∈ as, (f a).isSome = true := by
  constructor
  · intro h a ha
    obtain ⟨bs, hbs⟩ := Option.isSome_iff_exists.mp h
    obtain ⟨b, -, hb⟩ := exists_mem_zip_of_forall₂ (mapM_eq_some_iff.mp hbs) ha
    exact Option.isSome_iff_exists.mpr ⟨b, hb⟩
  · intro h
    obtain ⟨bs, hbs⟩ := exists_forall₂ fun a ha => Option.isSome_iff_exists.mp (h a ha)
    exact Option.isSome_iff_exists.mpr ⟨bs, mapM_eq_some_iff.mpr hbs⟩

/-- The value of an operation that goes on with a function, if there is one. -/
theorem toOption_map (x : Except ε α) (f : α → β) : (x.map f).toOption = x.toOption.map f := by
  cases x with
  | error e => rfl
  | ok a => rfl

/-- A fault passed on as a failure is still a fault: the successes are the same. -/
theorem orFail_eq_ok_iff {x : Except Fault α} {a : α} : Fault.orFail x = .ok a ↔ x = .ok a := by
  cases x with
  | error f => simp [Fault.orFail]
  | ok a' => simp [Fault.orFail]

/-! ### Ways to fail -/

/-- An operation fails only in certain ways, if it fails. -/
def FailsOnly (P : ε → Prop) (x : Except ε α) : Prop := ∀ e, x = .error e → P e

section FailsOnly

variable {P : ε → Prop}

theorem failsOnly_ok (a : α) : FailsOnly P (.ok a) := by
  intro e he
  cases he

theorem failsOnly_error {e : ε} (h : P e) : FailsOnly P (.error e : Except ε α) := by
  intro e' he
  obtain rfl := Except.error.inj he
  exact h

/-- A sequence of two steps fails only as one of them does. -/
theorem FailsOnly.bind {x : Except ε α} {f : α → Except ε β} (hx : FailsOnly P x)
    (hf : ∀ a, FailsOnly P (f a)) : FailsOnly P (x >>= f) := by
  cases x with
  | error e => exact failsOnly_error (hx e rfl)
  | ok a => exact hf a

theorem FailsOnly.map {x : Except ε α} (hx : FailsOnly P x) (f : α → β) :
    FailsOnly P (x.map f) := by
  cases x with
  | error e => exact failsOnly_error (hx e rfl)
  | ok a => exact failsOnly_ok (f a)

/-- Going through a list fails only as an item does. -/
theorem FailsOnly.mapM {f : α → Except ε β} {as : List α} (h : ∀ a ∈ as, FailsOnly P (f a)) :
    FailsOnly P (as.mapM f) := by
  induction as with
  | nil => exact failsOnly_ok []
  | cons a as ih =>
      obtain ⟨ha, hrest⟩ := List.forall_mem_cons.mp h
      rw [List.mapM_cons]
      exact ha.bind fun b => (ih hrest).bind fun bs => failsOnly_ok (b :: bs)

theorem FailsOnly.mono {Q : ε → Prop} {x : Except ε α} (hx : FailsOnly P x)
    (hPQ : ∀ e, P e → Q e) : FailsOnly Q x := fun e he => hPQ e (hx e he)

end FailsOnly

end Rulebook
