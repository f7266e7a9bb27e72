import Rulebook.Path
import Rulebook.Proofs.Equality
import Rulebook.Proofs.Success

/-!
# Parts of Values

A list is made of its items and a mapping of the values of its entries, and each of them may be made
of parts again. A value without parts may be a key, so that there are three cases to an induction
over values: a key, a list and a mapping.

## Main definitions

* `Value.IsPart`: one value is part of another one, at some depth, or is that value.
* `Value.WellKeyed`: in no mapping within a value does a key stand twice.
* `Value.height`: how many lists and mappings of a value are nested in one another.

## Main results

* `Value.induction`: induction over values.
* `Value.wellKeyed_list`, `Value.wellKeyed_mapping`: a value is well keyed when its parts are.
* `Value.lookup_eq_some_iff_mem`: where keys stand once, looking up finds the entries there are.
* `Value.WellKeyed.resolvePath`: a path leads from a well keyed value to well keyed ones.
-/

namespace Rulebook.Value

/-! ### Induction -/

/-- **Induction over values**: a statement holds of every value when it holds of keys, and of lists
and mappings of whose parts it holds. -/
@[elab_as_elim]
theorem induction {motive : Value → Prop} (key : ∀ v : Value, v.IsKey → motive v)
    (list : ∀ items, (∀ v ∈ items, motive v) → motive (.list items))
    (mapping : ∀ entries : List (String × Value), (∀ e ∈ entries, motive e.2) →
      motive (.mapping entries)) (v : Value) : motive v :=
  @Value.rec motive (fun items => ∀ v ∈ items, motive v)
    (fun entries => ∀ e ∈ entries, motive e.2) (fun e => motive e.2)
    (key _ rfl) (key _ rfl) (fun _ => key _ rfl) (fun _ => key _ rfl) (fun _ => key _ rfl)
    (fun _ => key _ rfl) (fun _ => key _ rfl) list mapping
    (List.forall_mem_nil _) (fun _ _ hv hrest => List.forall_mem_cons.mpr ⟨hv, hrest⟩)
    (List.forall_mem_nil _) (fun _ _ he hrest => List.forall_mem_cons.mpr ⟨he, hrest⟩)
    (fun _ _ hv => hv) v

/-! ### Parts -/

/-- One value is part of another one, at some depth, or is that value. -/
inductive IsPart (part : Value) : Value → Prop
  | self : IsPart part part
  | item {v : Value} {items : List Value} : v ∈ items → IsPart part v → IsPart part (.list items)
  | entry {e : String × Value} {entries : List (String × Value)} : e ∈ entries →
      IsPart part e.2 → IsPart part (.mapping entries)

/-- A key is its only part. -/
theorem IsKey.eq_of_isPart {part v : Value} (hv : v.IsKey) (h : part.IsPart v) : part = v := by
  cases h with
  | self => rfl
  | item => cases hv
  | entry => cases hv

/-! ### Keys of mappings -/

/-- In no mapping within a value does a key stand twice. -/
def WellKeyed (v : Value) : Prop :=
  ∀ entries, (mapping entries).IsPart v → (entries.map Prod.fst).Nodup

theorem IsKey.wellKeyed {v : Value} (h : v.IsKey) : v.WellKeyed := by
  intro entries hpart
  obtain rfl := h.eq_of_isPart hpart
  cases h

theorem wellKeyed_list {items : List Value} :
    (list items).WellKeyed ↔ ∀ v ∈ items, v.WellKeyed := by
  constructor
  · intro h v hv entries hpart
    exact h entries (.item hv hpart)
  · intro h entries hpart
    cases hpart with
    | item hv hpart => exact h _ hv entries hpart

theorem wellKeyed_mapping {entries : List (String × Value)} :
    (mapping entries).WellKeyed ↔
      (entries.map Prod.fst).Nodup ∧ ∀ e ∈ entries, e.2.WellKeyed := by
  constructor
  · intro h
    exact ⟨h entries .self, fun e he inner hpart => h inner (.entry he hpart)⟩
  · rintro ⟨hkeys, hentries⟩ inner hpart
    cases hpart with
    | self => exact hkeys
    | entry he hpart => exact hentries _ he inner hpart

/-- What is found under a key is the value of an entry. -/
theorem mem_of_lookup {key : String} {v : Value} {entries : List (String × Value)}
    (h : lookup key entries = some v) : (key, v) ∈ entries := by
  induction entries with
  | nil => cases h
  | cons e rest ih =>
      obtain ⟨k, w⟩ := e
      rw [lookup] at h
      by_cases hk : k = key
      · rw [if_pos hk] at h
        obtain rfl := Option.some.inj h
        subst hk
        exact List.mem_cons_self
      · rw [if_neg hk] at h
        exact List.mem_cons_of_mem _ (ih h)

/-- **Where keys stand once looking up finds the entries there are.** -/
theorem lookup_eq_some_iff_mem {key : String} {v : Value} {entries : List (String × Value)}
    (hkeys : (entries.map Prod.fst).Nodup) :
    lookup key entries = some v ↔ (key, v) ∈ entries := by
  refine ⟨mem_of_lookup, fun h => ?_⟩
  induction entries with
  | nil => cases h
  | cons e rest ih =>
      obtain ⟨k, w⟩ := e
      rw [List.map_cons, List.nodup_cons] at hkeys
      rw [lookup]
      rcases List.mem_cons.mp h with heq | hmem
      · obtain ⟨rfl, rfl⟩ := Prod.mk.inj heq
        rw [if_pos rfl]
      · have hne : k ≠ key := by
          intro hk
          exact hkeys.1 (List.mem_map.mpr ⟨(key, v), hmem, hk.symm⟩)
        rw [if_neg hne]
        exact ih hkeys.2 hmem

/-! ### Following paths -/

theorem wellKeyed_absent : absent.WellKeyed := IsKey.wellKeyed rfl

/-- What a segment leads to in a list is one of its items, or a number, or absent. -/
theorem WellKeyed.itemAt {items : List Value} {segment w : Value}
    (hitems : ∀ v ∈ items, v.WellKeyed) (h : Value.itemAt items segment = .ok w) :
    w.WellKeyed := by
  cases segment with
  | text s =>
      simp only [Value.itemAt] at h
      split at h
      · obtain rfl := Except.ok.inj h
        exact IsKey.wellKeyed rfl
      · split at h
        · obtain rfl := Except.ok.inj h
          exact wellKeyed_absent
        · obtain ⟨n, -, rfl⟩ := map_eq_ok_iff.mp h
          rw [List.getD_eq_getElem?_getD]
          cases hn : items[n]? with
          | none => exact wellKeyed_absent
          | some v => exact hitems v (List.mem_of_getElem? hn)
  | _ => cases h

/-- What a segment leads to in a mapping is the value of an entry, or absent. -/
theorem WellKeyed.entryAt {entries : List (String × Value)} {segment w : Value}
    (hentries : ∀ e ∈ entries, e.2.WellKeyed) (h : Value.entryAt entries segment = .ok w) :
    w.WellKeyed := by
  cases segment with
  | text s =>
      obtain rfl := Except.ok.inj h
      cases hs : lookup s entries with
      | none => exact wellKeyed_absent
      | some v => exact hentries _ (mem_of_lookup hs)
  | _ =>
      rw [Value.entryAt, map_eq_ok_iff] at h
      · obtain ⟨-, -, rfl⟩ := h
        exact wellKeyed_absent
      · intro s hs
        cases hs

theorem WellKeyed.step {v segment w : Value} (hv : v.WellKeyed) (h : v.step segment = .ok w) :
    w.WellKeyed := by
  cases v with
  | list items => exact WellKeyed.itemAt (wellKeyed_list.mp hv) h
  | mapping entries => exact WellKeyed.entryAt (wellKeyed_mapping.mp hv).2 h
  | _ =>
      obtain rfl := Except.ok.inj h
      exact wellKeyed_absent

/-- A wildcard spreads over the items of a list. -/
theorem eq_list_of_spread? {v segment : Value} {items : List Value}
    (h : v.spread? segment = some items) : v = list items := by
  cases v with
  | list xs =>
      obtain ⟨-, heq⟩ := Option.ite_none_right_eq_some.mp h
      rw [Option.some.inj heq]
  | _ => cases h

theorem WellKeyed.resolve {v w : Value} {segments : List Value} (hv : v.WellKeyed)
    (h : v.resolve segments = .ok w) : w.WellKeyed := by
  induction segments generalizing v w with
  | nil =>
      obtain rfl := Except.ok.inj h
      exact hv
  | cons segment rest ih =>
      rw [Value.resolve] at h
      cases hspread : v.spread? segment with
      | none =>
          cases hstep : v.step segment with
          | error fault => simp [hspread, hstep] at h
          | ok next =>
              rw [hspread, hstep] at h
              exact ih (hv.step hstep) h
      | some items =>
          simp only [hspread] at h
          by_cases hrest : rest.isEmpty = true
          · rw [if_pos hrest] at h
            obtain rfl := Except.ok.inj h
            exact hv
          · rw [if_neg hrest] at h
            obtain ⟨found, hfound, rfl⟩ := map_eq_ok_iff.mp h
            obtain rfl := eq_list_of_spread? hspread
            refine wellKeyed_list.mpr fun x hx => ?_
            obtain ⟨item, hitem, hresolve⟩ :=
              exists_of_mem_forall₂ (mapM_eq_ok_iff.mp hfound) (List.mem_filter.mp hx).1
            exact ih (wellKeyed_list.mp hv item hitem) hresolve

/-- **A path leads from a well keyed value to well keyed ones.** -/
theorem WellKeyed.resolvePath {v w path : Value} (hv : v.WellKeyed)
    (h : v.resolvePath path = .ok w) : w.WellKeyed := by
  obtain ⟨segments, -, hsegments⟩ := bind_eq_ok_iff.mp h
  exact hv.resolve hsegments

/-! ### Height -/

mutual

/-- How many lists and mappings of a value are nested in one another. -/
def height : Value → Nat
  | list items => itemsHeight items + 1
  | mapping entries => entriesHeight entries + 1
  | _ => 0

/-- The greatest height of some items. -/
def itemsHeight : List Value → Nat
  | [] => 0
  | v :: rest => max (height v) (itemsHeight rest)

/-- The greatest height of the values of some entries. -/
def entriesHeight : List (String × Value) → Nat
  | [] => 0
  | (_, v) :: rest => max (height v) (entriesHeight rest)

end

theorem height_lt_of_mem {v : Value} {items : List Value} (h : v ∈ items) :
    v.height < (list items).height := by
  rw [height]
  induction items with
  | nil => cases h
  | cons w rest ih =>
      rw [itemsHeight]
      rcases List.mem_cons.mp h with rfl | hrest
      · omega
      · have hlt := ih hrest
        omega

theorem height_lt_of_mem_entries {e : String × Value} {entries : List (String × Value)}
    (h : e ∈ entries) : e.2.height < (mapping entries).height := by
  rw [height]
  induction entries with
  | nil => cases h
  | cons f rest ih =>
      rw [entriesHeight]
      rcases List.mem_cons.mp h with rfl | hrest
      · omega
      · have hlt := ih hrest
        omega

theorem height_lt_of_lookup {key : String} {v : Value} {entries : List (String × Value)}
    (h : lookup key entries = some v) : v.height < (mapping entries).height :=
  height_lt_of_mem_entries (mem_of_lookup h)

end Rulebook.Value
