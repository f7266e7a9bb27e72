import Rulebook.Proofs.Strictness

/-!
# Kinds at Corresponding Places

A place in a value is reached by steps to items of lists and to entries of mappings. Plainly equal
values have the same places, with plainly equal parts there, and the parts are of one kind but for
one confusion: a truth value may stand where the other value has a number.

Strict equality rules the confusion out along lists, and nowhere else. It is plain equality with the
same kinds at all places that no mapping is passed on the way to (`strictlySame_iff_kinds`). Below
a mapping, and in lists below it, 1 and `true` are one.

## Main definitions

* `Inward`, `Value.partAt?`: steps into a value, and what is at the place they lead to.
* `Kind.Confused`: a truth value and a number.

## Main results

* `Value.exists_partAt?_of_same`: plainly equal values have plainly equal parts at the same places.
* `Value.kind_of_same`: which kinds plainly equal values have.
* `Value.strictlySame_iff_kinds`: what strict equality adds to plain equality.
* `strictlySame_places`: these together, of all places in strictly equal values.
-/

namespace Rulebook

/-- A step into a value: to an item of a list, or to the entry of a key of a mapping. -/
inductive Inward where
  | item (n : ℕ)
  | entry (key : String)

/-- Does a step lead into a list? -/
def Inward.IsItem : Inward → Prop
  | item _ => True
  | entry _ => False

/-- Two kinds that plain equality takes for one: those of truth values and of numbers. -/
def Kind.Confused (k l : Kind) : Prop :=
  k = .boolean ∧ l = .number ∨ k = .number ∧ l = .boolean

/-- The kinds of the values that have a form. -/
def Form.kinds : Form → List Kind
  | .absent => [.absent]
  | .null => [.null]
  | .number _ => [.boolean, .number]
  | .text _ => [.text]
  | .moment _ _ => [.timestamp]

namespace Value

/-- The part of a value that one step leads to. -/
def part? (v : Value) (s : Inward) : Option Value :=
  match v, s with
  | list items, .item n => items[n]?
  | mapping entries, .entry key => lookup key entries
  | _, _ => none

/-- The part of a value at a place. -/
def partAt? (v : Value) : List Inward → Option Value
  | [] => some v
  | s :: rest => (v.part? s).bind fun x => x.partAt? rest

variable {v w x y : Value} {place : List Inward}

theorem partAt?_cons_eq_some_iff {s : Inward} :
    v.partAt? (s :: place) = some y ↔ ∃ x, v.part? s = some x ∧ x.partAt? place = some y :=
  Option.bind_eq_some_iff

/-! ### Plain equality -/

/-- A step leads from plainly equal values to plainly equal ones. -/
theorem exists_part?_of_same (h : v.same w = true) {s : Inward} (hx : v.part? s = some x) :
    ∃ y, w.part? s = some y ∧ x.same y = true := by
  cases v with
  | list xs =>
      obtain ⟨ys, rfl, hitems⟩ := same_list_iff.mp h
      cases s with
      | item n => exact exists_getElem?_of_forall₂ hitems hx
      | entry key => cases hx
  | mapping es =>
      obtain ⟨fs, rfl, -, hentries⟩ := same_mapping_iff.mp h
      cases s with
      | item n => cases hx
      | entry key => exact hentries _ (mem_of_lookup hx)
  | _ => cases hx

/-- **Plainly equal values have plainly equal parts at the same places.** -/
theorem exists_partAt?_of_same (h : v.same w = true) (hx : v.partAt? place = some x) :
    ∃ y, w.partAt? place = some y ∧ x.same y = true := by
  induction place generalizing v w with
  | nil =>
      obtain rfl : v = x := Option.some.inj hx
      exact ⟨w, rfl, h⟩
  | cons s rest ih =>
      obtain ⟨next, hnext, hrest⟩ := partAt?_cons_eq_some_iff.mp hx
      obtain ⟨next', hnext', hsame⟩ := exists_part?_of_same h hnext
      obtain ⟨y, hy, hxy⟩ := ih hsame hrest
      exact ⟨y, partAt?_cons_eq_some_iff.mpr ⟨next', hnext', hy⟩, hxy⟩

theorem kind_mem_kinds {f : Form} (h : v.form? = some f) : v.kind ∈ f.kinds := by
  cases hv : v.numeric? with
  | none =>
      rw [form?_of_not_numeric hv] at h
      cases v <;> cases h <;> exact List.mem_singleton.mpr rfl
  | some m =>
      rw [form?_of_numeric hv] at h
      obtain ⟨p, -, rfl⟩ := Option.map_eq_some_iff.mp h
      cases v with
      | bool b => exact List.mem_pair.mpr (.inl rfl)
      | int n => exact List.mem_pair.mpr (.inr rfl)
      | float x => exact List.mem_pair.mpr (.inr rfl)
      | _ => cases hv

/-- **Plainly equal values are of one kind**, or the one is a truth value and the other a number. -/
theorem kind_of_same (h : v.same w = true) : v.kind = w.kind ∨ v.kind.Confused w.kind := by
  induction v using Value.induction with
  | key v hkey =>
      obtain ⟨f, hv, hw⟩ := hkey.same_iff.mp h
      have hkindv := kind_mem_kinds hv
      have hkindw := kind_mem_kinds hw
      cases f with
      | number p =>
          rw [Form.kinds, List.mem_pair] at hkindv hkindw
          rcases hkindv with hkindv | hkindv <;> rcases hkindw with hkindw | hkindw
          · exact .inl (hkindv.trans hkindw.symm)
          · exact .inr (.inl ⟨hkindv, hkindw⟩)
          · exact .inr (.inr ⟨hkindv, hkindw⟩)
          · exact .inl (hkindv.trans hkindw.symm)
      | _ => exact .inl ((List.mem_singleton.mp hkindv).trans (List.mem_singleton.mp hkindw).symm)
  | list items _ =>
      obtain ⟨ys, rfl, -⟩ := same_list_iff.mp h
      exact .inl rfl
  | mapping entries _ =>
      obtain ⟨fs, rfl, -⟩ := same_mapping_iff.mp h
      exact .inl rfl

/-! ### Strict equality -/

theorem same_of_strictlySame (h : v.strictlySame w = true) : v.same w = true := by
  induction v using inductionAlongLists generalizing w with
  | other v hlist => exact ((strictlySame_iff_of_not_list hlist).mp h).2
  | list xs ih =>
      obtain ⟨ys, rfl, hitems⟩ := strictlySame_list_iff.mp h
      refine same_list_iff.mpr ⟨ys, rfl, List.forall₂_iff_zip.mpr ⟨hitems.length_eq, ?_⟩⟩
      intro x y hxy
      exact ih x (List.of_mem_zip hxy).1 ((List.forall₂_iff_zip.mp hitems).2 hxy)

theorem kind_of_strictlySame (h : v.strictlySame w = true) : v.kind = w.kind := by
  by_cases hlist : v.kind = .list
  · cases v with
    | list xs =>
        obtain ⟨ys, rfl, -⟩ := strictlySame_list_iff.mp h
        rfl
    | _ => cases hlist
  · exact ((strictlySame_iff_of_not_list hlist).mp h).1

/-- Along lists strictly equal values have parts of the same kinds. -/
theorem kind_partAt?_of_strictlySame (h : v.strictlySame w = true)
    (hplace : ∀ s ∈ place, s.IsItem) (hx : v.partAt? place = some x)
    (hy : w.partAt? place = some y) : x.kind = y.kind := by
  induction place generalizing v w with
  | nil =>
      obtain rfl : v = x := Option.some.inj hx
      obtain rfl : w = y := Option.some.inj hy
      exact kind_of_strictlySame h
  | cons s rest ih =>
      obtain ⟨hs, hrest⟩ := List.forall_mem_cons.mp hplace
      obtain ⟨next, hnext, hxrest⟩ := partAt?_cons_eq_some_iff.mp hx
      obtain ⟨next', hnext', hyrest⟩ := partAt?_cons_eq_some_iff.mp hy
      cases s with
      | entry key => cases hs
      | item n =>
          cases v with
          | list xs =>
              obtain ⟨ys, rfl, hitems⟩ := strictlySame_list_iff.mp h
              obtain ⟨z, hz, hsame⟩ := exists_getElem?_of_forall₂ hitems hnext
              obtain rfl : z = next' := Option.some.inj (hz.symm.trans hnext')
              exact ih hsame hrest hxrest hyrest
          | _ => cases hnext

/-- Two values have parts of the same kinds at all places along lists. -/
def KindsAgree (v w : Value) : Prop :=
  ∀ place, (∀ s ∈ place, Inward.IsItem s) → ∀ x y, v.partAt? place = some x →
    w.partAt? place = some y → x.kind = y.kind

/-- Where kinds agree they agree in the items of lists. -/
theorem KindsAgree.of_mem_zip {xs ys : List Value} (h : (list xs).KindsAgree (list ys))
    (hxy : (x, y) ∈ xs.zip ys) : x.KindsAgree y := by
  obtain ⟨n, hn⟩ := List.mem_iff_getElem?.mp hxy
  obtain ⟨hx, hy⟩ := List.getElem?_zip_eq_some.mp hn
  intro place hplace x' y' hx' hy'
  exact h (.item n :: place) (List.forall_mem_cons.mpr ⟨trivial, hplace⟩) x' y'
    (partAt?_cons_eq_some_iff.mpr ⟨x, hx, hx'⟩) (partAt?_cons_eq_some_iff.mpr ⟨y, hy, hy'⟩)

/-- **Strict equality adds to plain equality** that kinds agree at all places along lists. -/
theorem strictlySame_iff_kinds : v.strictlySame w = true ↔ v.same w = true ∧ v.KindsAgree w := by
  constructor
  · intro h
    exact ⟨same_of_strictlySame h, fun _ hplace _ _ => kind_partAt?_of_strictlySame h hplace⟩
  · rintro ⟨hsame, hkinds⟩
    -- Strict equality ends at a mapping, so that the induction goes along lists only.
    induction v using inductionAlongLists generalizing w with
    | other v hlist =>
        have hkind : v.kind = w.kind := hkinds [] (List.forall_mem_nil _) v w rfl rfl
        exact (strictlySame_iff_of_not_list hlist).mpr ⟨hkind, hsame⟩
    | list xs ih =>
        obtain ⟨ys, rfl, hitems⟩ := same_list_iff.mp hsame
        refine strictlySame_list_iff.mpr
          ⟨ys, rfl, List.forall₂_iff_zip.mpr ⟨hitems.length_eq, ?_⟩⟩
        intro x y hxy
        exact ih x (List.of_mem_zip hxy).1 ((List.forall₂_iff_zip.mp hitems).2 hxy)
          (hkinds.of_mem_zip hxy)

/-- Plainly equal values have the same places. -/
theorem isSome_partAt?_of_same (hv : v.WellKeyed) (h : v.same w = true) (place : List Inward) :
    (v.partAt? place).isSome = (w.partAt? place).isSome := by
  rw [Bool.eq_iff_iff, Option.isSome_iff_exists, Option.isSome_iff_exists]
  constructor
  · rintro ⟨x, hx⟩
    obtain ⟨y, hy, -⟩ := exists_partAt?_of_same h hx
    exact ⟨y, hy⟩
  · rintro ⟨y, hy⟩
    obtain ⟨x, hx, -⟩ := exists_partAt?_of_same (same_symm hv h) hy
    exact ⟨x, hx⟩

end Value

/-- **What strict equality says of all places.** Strictly equal values are those that are plainly
equal and agree in the kinds of their parts at all places along lists. They have the same places,
and plainly equal parts there. Where kinds differ at a place, a truth value stands for a number, and
a mapping is passed on the way. -/
theorem strictlySame_places (v w : Value) :
    (v.strictlySame w = true ↔ v.same w = true ∧
      ∀ place : List Inward, (∀ s ∈ place, s.IsItem) → ∀ x y, v.partAt? place = some x →
        w.partAt? place = some y → x.kind = y.kind) ∧
    (v.WellKeyed → v.strictlySame w = true → ∀ place : List Inward,
      (v.partAt? place).isSome = (w.partAt? place).isSome ∧
      ∀ x y, v.partAt? place = some x → w.partAt? place = some y →
        x.same y = true ∧
        (x.kind ≠ y.kind → x.kind.Confused y.kind ∧ ∃ s ∈ place, ¬s.IsItem)) := by
  refine ⟨Value.strictlySame_iff_kinds, fun hv h place => ?_⟩
  have hsame := Value.same_of_strictlySame h
  refine ⟨Value.isSome_partAt?_of_same hv hsame place, fun x y hx hy => ?_⟩
  obtain ⟨y', hy', hxy⟩ := Value.exists_partAt?_of_same hsame hx
  obtain rfl : y' = y := Option.some.inj (hy'.symm.trans hy)
  refine ⟨hxy, fun hkind => ⟨(Value.kind_of_same hxy).resolve_left hkind, ?_⟩⟩
  by_contra hlists
  have hplace : ∀ s ∈ place, s.IsItem := by
    intro s hs
    by_contra hitem
    exact hlists ⟨s, hs, hitem⟩
  exact hkind (Value.kind_partAt?_of_strictlySame h hplace hx hy)

/-- Two lists of boxes, the second box counted in the one and marked in the other. -/
theorem strictlySame_places_boxes :
    let counted : Value := .list [.int 1, countedBox]
    let marked : Value := .list [.int 1, markedBox]
    counted.strictlySame marked = true ∧
    counted.partAt? [.item 1, .entry "count"] = some (.int 1) ∧
    marked.partAt? [.item 1, .entry "count"] = some (.bool true) ∧
    (Value.int 1).same (.bool true) = true ∧
    ∃ s ∈ [Inward.item 1, .entry "count"], ¬s.IsItem := by
  intro counted marked
  obtain ⟨-, hplaces⟩ := strictlySame_places counted marked
  have hcounted : counted.WellKeyed := by
    rw [Value.wellKeyed_list, List.forall_mem_cons, List.forall_mem_cons]
    exact ⟨Value.IsKey.wellKeyed rfl, wellKeyed_countedBox, List.forall_mem_nil _⟩
  obtain ⟨-, hparts⟩ := hplaces hcounted rfl [.item 1, .entry "count"]
  obtain ⟨hsame, hkinds⟩ := hparts (.int 1) (.bool true) rfl rfl
  exact ⟨rfl, rfl, rfl, hsame, (hkinds (by decide)).2⟩

/-- Two boxes are strictly equal although the one holds a number where the other one holds a truth
value: below a mapping kinds are not kept apart. -/
theorem strictlySame_confuses :
    countedBox.strictlySame markedBox = true ∧
    countedBox.partAt? [.entry "count"] = some (.int 1) ∧
    markedBox.partAt? [.entry "count"] = some (.bool true) ∧
    (Value.int 1).kind ≠ (Value.bool true).kind :=
  ⟨rfl, rfl, rfl, by decide⟩

end Rulebook
