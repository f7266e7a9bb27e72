import Rulebook.Proofs.Safe
import Rulebook.Proofs.Parts

/-!
# What Making Safe Keeps

A number that is infinite or no number at all is lost on the way to JSON, and `null` stands in its
place. Everything else about a value is kept: lists keep their length, mappings their keys in order,
and every other value without parts is what it was. `Value.MadeSafe` says so of two values, whatever
computes the one from the other, and `Value.jsonSafe` computes the only value that it holds of.

## Main definitions

* `Value.IsLost`: a number that JSON cannot carry.
* `Value.MadeSafe`: one value is another one with `null` in the place of every lost number.

## Main results

* `Value.madeSafe_iff`: `jsonSafe` computes the one value that was made safe.
* `Value.isCarried_iff`: JSON carries a value exactly when no part of it is lost.
* `Value.jsonSafe_keeps_shape`: these together, and that what has nothing to lose is left alone.
-/

namespace Rulebook

/-- Lists are related item by item when the one is the image of the other one, if that is so of
every item. -/
theorem forall₂_iff_eq_map {α β : Type} {R : α → β → Prop} {f : α → β} {xs : List α} {ys : List β}
    (h : ∀ x ∈ xs, ∀ y, R x y ↔ y = f x) : List.Forall₂ R xs ys ↔ ys = xs.map f := by
  induction xs generalizing ys with
  | nil => rw [List.forall₂_nil_left_iff, List.map_nil]
  | cons x rest ih =>
      obtain ⟨hx, hrest⟩ := List.forall_mem_cons.mp h
      rw [List.forall₂_cons_left_iff, List.map_cons]
      constructor
      · rintro ⟨y, tail, hy, htail, rfl⟩
        rw [(hx y).mp hy, (ih hrest).mp htail]
      · rintro rfl
        exact ⟨f x, rest.map f, (hx _).mpr rfl, (ih hrest).mpr rfl, rfl⟩

namespace Value

variable {v w : Value} {items : List Value} {entries : List (String × Value)}

/-! ### Lost numbers -/

/-- A number that JSON cannot carry: an infinity or no number at all. -/
def IsLost (v : Value) : Prop := ∃ x : Binary64, v = float x ∧ x.isFinite = false

theorem isKey_of_isLost (h : v.IsLost) : v.IsKey := by
  obtain ⟨x, rfl, -⟩ := h
  rfl

/-- A value without parts is carried unless it is lost. -/
theorem IsKey.isCarried_iff (h : v.IsKey) : v.isCarried = true ↔ ¬ v.IsLost := by
  cases v with
  | float x => simp [isCarried, IsLost]
  | list items => cases h
  | mapping entries => cases h
  | _ => simp [isCarried, IsLost]

/-- **JSON carries a value exactly when no part of it is lost.** -/
theorem isCarried_iff (v : Value) :
    v.isCarried = true ↔ ∀ part : Value, part.IsPart v → ¬ part.IsLost := by
  induction v using Value.induction with
  | key v hkey =>
      rw [hkey.isCarried_iff]
      constructor
      · intro hkept part hpart
        obtain rfl := hkey.eq_of_isPart hpart
        exact hkept
      · intro h
        exact h v .self
  | list items ih =>
      rw [isCarried, itemsCarried_iff]
      constructor
      · intro h part hpart hlost
        cases hpart with
        | self => cases isKey_of_isLost hlost
        | item hv hpart => exact (ih _ hv).mp (h _ hv) part hpart hlost
      · intro h v hv
        exact (ih v hv).mpr fun part hpart => h part (.item hv hpart)
  | mapping entries ih =>
      rw [isCarried, entriesCarried_iff]
      constructor
      · intro h part hpart hlost
        cases hpart with
        | self => cases isKey_of_isLost hlost
        | entry he hpart => exact (ih _ he).mp (h _ he) part hpart hlost
      · intro h e he
        exact (ih e he).mpr fun part hpart => h part (.entry he hpart)

/-- What making safe leaves alone is carried, and nothing else is. -/
theorem jsonSafe_eq_self_iff : v.jsonSafe = v ↔ v.isCarried = true := by
  constructor
  · intro h
    rw [← h]
    exact isCarried_jsonSafe v
  · exact jsonSafe_of_isCarried v

/-! ### Made safe -/

/-- One value is another one made safe: `null` stands in the place of a lost number, every other
value without parts is kept, a list is made safe item by item, and a mapping has the same keys, in
order, over values that were made safe. -/
inductive MadeSafe : Value → Value → Prop
  | lost {v : Value} : v.IsLost → MadeSafe v null
  | kept {v : Value} : v.IsKey → ¬ v.IsLost → MadeSafe v v
  | list {xs ys : List Value} : List.Forall₂ MadeSafe xs ys → MadeSafe (list xs) (list ys)
  | mapping {es fs : List (String × Value)} : es.map Prod.fst = fs.map Prod.fst →
      List.Forall₂ MadeSafe (es.map Prod.snd) (fs.map Prod.snd) →
      MadeSafe (mapping es) (mapping fs)

theorem jsonSafe_of_isLost (h : v.IsLost) : v.jsonSafe = null := by
  obtain ⟨x, rfl, hx⟩ := h
  rw [jsonSafe, if_neg (Bool.eq_false_iff.mp hx)]

theorem madeSafe_iff_of_isKey (h : v.IsKey) : v.MadeSafe w ↔ w = v.jsonSafe := by
  constructor
  · intro hsafe
    cases hsafe with
    | lost hlost => exact (jsonSafe_of_isLost hlost).symm
    | kept _ hkept => exact (jsonSafe_of_isCarried v (h.isCarried_iff.mpr hkept)).symm
    | list => cases h
    | mapping => cases h
  · rintro rfl
    by_cases hlost : v.IsLost
    · rw [jsonSafe_of_isLost hlost]
      exact .lost hlost
    · rw [jsonSafe_of_isCarried v (h.isCarried_iff.mpr hlost)]
      exact .kept h hlost

theorem madeSafe_list_iff :
    (Value.list items).MadeSafe w ↔ ∃ ys, w = Value.list ys ∧ List.Forall₂ MadeSafe items ys := by
  constructor
  · intro h
    cases h with
    | lost hlost => cases isKey_of_isLost hlost
    | kept hkey => cases hkey
    | list hitems => exact ⟨_, rfl, hitems⟩
  · rintro ⟨ys, rfl, hitems⟩
    exact .list hitems

theorem madeSafe_mapping_iff :
    (Value.mapping entries).MadeSafe w ↔ ∃ fs, w = Value.mapping fs ∧
      entries.map Prod.fst = fs.map Prod.fst ∧
        List.Forall₂ MadeSafe (entries.map Prod.snd) (fs.map Prod.snd) := by
  constructor
  · intro h
    cases h with
    | lost hlost => cases isKey_of_isLost hlost
    | kept hkey => cases hkey
    | mapping hkeys hvalues => exact ⟨_, rfl, hkeys, hvalues⟩
  · rintro ⟨fs, rfl, hkeys, hvalues⟩
    exact .mapping hkeys hvalues

/-- Entries are given by their keys and their values. -/
theorem entries_eq_iff {es fs : List (String × Value)} :
    es = fs ↔ es.map Prod.fst = fs.map Prod.fst ∧ es.map Prod.snd = fs.map Prod.snd := by
  constructor
  · rintro rfl
    exact ⟨rfl, rfl⟩
  · rintro ⟨hkeys, hvalues⟩
    rw [← List.zip_unzip es, ← List.zip_unzip fs, List.unzip_fst, List.unzip_snd, List.unzip_fst,
      List.unzip_snd, hkeys, hvalues]

/-- **Making safe computes the one value that was made safe**, at every depth. -/
theorem madeSafe_iff (v : Value) : ∀ w, v.MadeSafe w ↔ w = v.jsonSafe := by
  induction v using Value.induction with
  | key v hkey => exact fun w => madeSafe_iff_of_isKey hkey
  | list items ih =>
      intro w
      rw [madeSafe_list_iff, jsonSafe_list]
      constructor
      · rintro ⟨ys, rfl, hitems⟩
        rw [(forall₂_iff_eq_map ih).mp hitems]
      · rintro rfl
        exact ⟨_, rfl, (forall₂_iff_eq_map ih).mpr rfl⟩
  | mapping entries ih =>
      intro w
      have hvalues : ∀ v ∈ entries.map Prod.snd, ∀ w, v.MadeSafe w ↔ w = v.jsonSafe :=
        List.forall_mem_map.mpr ih
      -- The entries that were made safe, by their keys and by their values.
      have hentries : ∀ fs, fs = entries.map (fun e => (e.1, e.2.jsonSafe)) ↔
          entries.map Prod.fst = fs.map Prod.fst ∧
            List.Forall₂ MadeSafe (entries.map Prod.snd) (fs.map Prod.snd) := by
        intro fs
        rw [entries_eq_iff, forall₂_iff_eq_map hvalues, List.map_map, List.map_map, List.map_map,
          eq_comm (a := fs.map Prod.fst)]
        rfl
      rw [madeSafe_mapping_iff, jsonSafe_mapping]
      constructor
      · rintro ⟨fs, rfl, hsafe⟩
        rw [← (hentries fs).mpr hsafe]
      · rintro rfl
        exact ⟨_, rfl, (hentries _).mp rfl⟩

/-- **Making safe keeps the shape of every value**, at every depth. Its result is the one value with
`null` in the place of every number that is lost and everything else kept: the length of each list,
the keys of each mapping in order, and every other value without parts. No part of the result is
lost; the result is the value itself exactly when no part of that is lost; and making safe again
changes nothing. -/
theorem jsonSafe_keeps_shape (v : Value) :
    (∀ w, v.MadeSafe w ↔ w = v.jsonSafe) ∧
      (∀ part : Value, part.IsPart v.jsonSafe → ¬ part.IsLost) ∧
      (v.jsonSafe = v ↔ ∀ part : Value, part.IsPart v → ¬ part.IsLost) ∧
      v.jsonSafe.jsonSafe = v.jsonSafe :=
  ⟨madeSafe_iff v, (isCarried_iff v.jsonSafe).mp (isCarried_jsonSafe v),
    jsonSafe_eq_self_iff.trans (isCarried_iff v), jsonSafe_jsonSafe v⟩

end Value

end Rulebook
