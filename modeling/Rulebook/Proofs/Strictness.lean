import Mathlib.Data.List.Perm.Subperm
import Rulebook.Proofs.Comparisons
import Rulebook.Proofs.Parts

/-!
# Plain and Strict Equality of All Values

Strict equality mixes two notions: along lists it keeps kinds apart, and below a mapping it is
plain, so that there 1, 1.0 and `true` are one. Each of the two is a partial equivalence on values
in whose mappings no key stands twice. Only NaNs keep them from being equivalences.

For mappings plain equality looks in one direction only: every entry of the one has to be found in
the other one, which has as many. Where keys stand once, there is nothing else in the other one.

## Main results

* `Value.same_list_iff`, `Value.same_mapping_iff`, `Value.strictlySame_list_iff`: equality of values
  that are made of parts.
* `Value.same_symm`, `Value.same_trans`, `Value.same_self`: the laws of plain equality.
* `Value.strictlySame_symm`, `Value.strictlySame_trans`, `Value.strictlySame_self`: those of strict
  equality.
* `strictlySame_laws`: these together, and what they mean for the membership tests of leaves.
-/

namespace Rulebook

/-! ### Lists item by item -/

section Items

variable {α : Type} {R : α → α → Prop} {xs ys zs : List α}

theorem forall₂_symm_of_mem (hsymm : ∀ x ∈ xs, ∀ y, R x y → R y x) (h : List.Forall₂ R xs ys) :
    List.Forall₂ R ys xs := by
  induction h with
  | nil => exact .nil
  | cons hxy _ ih =>
      obtain ⟨hhead, hrest⟩ := List.forall_mem_cons.mp hsymm
      exact .cons (hhead _ hxy) (ih hrest)

theorem forall₂_trans_of_mem (htrans : ∀ x ∈ xs, ∀ y z, R x y → R y z → R x z)
    (h : List.Forall₂ R xs ys) (h' : List.Forall₂ R ys zs) : List.Forall₂ R xs zs := by
  induction h generalizing zs with
  | nil => exact h'
  | cons hxy _ ih =>
      obtain ⟨hhead, hrest⟩ := List.forall_mem_cons.mp htrans
      cases h' with
      | cons hyz hyzs => exact .cons (hhead _ _ hxy hyz) (ih hrest hyzs)

end Items

namespace Value

variable {u v w : Value} {xs ys : List Value} {es fs : List (String × Value)}

/-! ### Values that are made of parts -/

theorem sameItems_iff :
    sameItems xs ys = true ↔ List.Forall₂ (fun x y => x.same y = true) xs ys := by
  induction xs generalizing ys with
  | nil => simp [sameItems, List.forall₂_nil_left_iff]
  | cons x xs ih =>
      cases ys with
      | nil => simp [sameItems]
      | cons y ys => simp [sameItems, ih]

theorem strictlySameItems_iff :
    strictlySameItems xs ys = true ↔ List.Forall₂ (fun x y => x.strictlySame y = true) xs ys := by
  induction xs generalizing ys with
  | nil => simp [strictlySameItems, List.forall₂_nil_left_iff]
  | cons x xs ih =>
      cases ys with
      | nil => simp [strictlySameItems]
      | cons y ys => simp [strictlySameItems, ih]

theorem sameEntries_iff :
    sameEntries es fs = true ↔ ∀ e ∈ es, ∃ w, lookup e.1 fs = some w ∧ e.2.same w = true := by
  induction es with
  | nil => simp [sameEntries]
  | cons e es ih =>
      obtain ⟨k, v⟩ := e
      rw [List.forall_mem_cons, ← ih, sameEntries]
      cases lookup k fs with
      | none => simp
      | some w => simp

/-- Lists are plainly equal when they are so item by item. -/
theorem same_list_iff :
    (list xs).same w = true ↔
      ∃ ys, w = list ys ∧ List.Forall₂ (fun x y => x.same y = true) xs ys := by
  cases w with
  | list ys => simp [same, sameItems_iff]
  | _ => simp [same]

/-- Mappings are plainly equal when they are of one size and the entries of the one are found, with
an equal value, in the other one. -/
theorem same_mapping_iff :
    (mapping es).same w = true ↔ ∃ fs, w = mapping fs ∧ es.length = fs.length ∧
      ∀ e ∈ es, ∃ x, lookup e.1 fs = some x ∧ e.2.same x = true := by
  cases w with
  | mapping fs => simp [same, sameEntries_iff]
  | _ => simp [same]

/-- Lists are strictly equal when they are so item by item. -/
theorem strictlySame_list_iff :
    (list xs).strictlySame w = true ↔
      ∃ ys, w = list ys ∧ List.Forall₂ (fun x y => x.strictlySame y = true) xs ys := by
  cases w with
  | list ys => simp [strictlySame, strictlySameItems_iff]
  | _ => simp [strictlySame]

/-- A value that is no list is strictly equal to what is plainly equal to it and of its kind. -/
theorem strictlySame_iff_of_not_list (h : v.kind ≠ .list) :
    v.strictlySame w = true ↔ v.kind = w.kind ∧ v.same w = true := by
  cases v with
  | list xs => exact absurd rfl h
  | _ => simp [strictlySame]

/-! ### Plain equality -/

/-- What is plainly equal to a key is a key. -/
theorem isKey_of_same (hv : v.IsKey) (h : v.same w = true) : w.IsKey := by
  obtain ⟨f, -, hw⟩ := hv.same_iff.mp h
  cases w with
  | list ys => cases hw
  | mapping fs => cases hw
  | _ => rfl

/-- Where the entries of a mapping are all found in another one of its size, both have the same
keys. -/
theorem keys_perm_of_same (hes : (es.map Prod.fst).Nodup)
    (h : (mapping es).same (mapping fs) = true) :
    (es.map Prod.fst).Perm (fs.map Prod.fst) := by
  obtain ⟨_, heq, hlength, hentries⟩ := same_mapping_iff.mp h
  obtain rfl := mapping.inj heq
  have hsubset : es.map Prod.fst ⊆ fs.map Prod.fst := by
    intro k hk
    obtain ⟨e, he, rfl⟩ := List.mem_map.mp hk
    obtain ⟨x, hx, -⟩ := hentries e he
    exact List.mem_map.mpr ⟨_, mem_of_lookup hx, rfl⟩
  refine (hes.subperm hsubset).perm_of_length_le ?_
  rw [List.length_map, List.length_map, hlength]

/-- Plain equality of mappings can be seen from the other one, too. -/
theorem same_mapping_symm (hes : (es.map Prod.fst).Nodup)
    (hsymm : ∀ e ∈ es, ∀ w, e.2.same w = true → w.same e.2 = true)
    (h : (mapping es).same (mapping fs) = true) : (mapping fs).same (mapping es) = true := by
  have hperm := keys_perm_of_same hes h
  obtain ⟨_, heq, hlength, hentries⟩ := same_mapping_iff.mp h
  obtain rfl := mapping.inj heq
  refine same_mapping_iff.mpr ⟨es, rfl, hlength.symm, fun f hf => ?_⟩
  -- The keys are the same, so `f` is what was found for some entry `e` of the first mapping.
  obtain ⟨e, he, hkey⟩ := List.mem_map.mp (hperm.mem_iff.mpr (List.mem_map_of_mem hf))
  obtain ⟨x, hx, hsame⟩ := hentries e he
  have hfound : lookup f.1 fs = some f.2 :=
    (lookup_eq_some_iff_mem (hperm.nodup_iff.mp hes)).mpr hf
  obtain rfl : f.2 = x := Option.some.inj (hfound.symm.trans (hkey ▸ hx))
  exact ⟨e.2, hkey ▸ (lookup_eq_some_iff_mem hes).mpr he, hsymm e he _ hsame⟩

/-- **Plain equality is symmetric.** -/
theorem same_symm (hv : v.WellKeyed) (h : v.same w = true) : w.same v = true := by
  induction v using Value.induction generalizing w with
  | key v hkey => rw [← same_comm hkey, h]
  | list xs ih =>
      have hxs := wellKeyed_list.mp hv
      obtain ⟨ys, rfl, hitems⟩ := same_list_iff.mp h
      exact same_list_iff.mpr
        ⟨xs, rfl, forall₂_symm_of_mem (fun x hx y hxy => ih x hx (hxs x hx) hxy) hitems⟩
  | mapping es ih =>
      obtain ⟨hkeys, hes⟩ := wellKeyed_mapping.mp hv
      obtain ⟨fs, rfl, -⟩ := same_mapping_iff.mp h
      exact same_mapping_symm hkeys (fun e he w hw => ih e he (hes e he) hw) h

/-- **Plain equality is transitive.** -/
theorem same_trans (huv : u.same v = true) (hvw : v.same w = true) : u.same w = true := by
  induction u using Value.induction generalizing v w with
  | key u hkey => rw [same_congr_left hkey (isKey_of_same hkey huv) huv, hvw]
  | list xs ih =>
      obtain ⟨ys, rfl, hxys⟩ := same_list_iff.mp huv
      obtain ⟨zs, rfl, hyzs⟩ := same_list_iff.mp hvw
      exact same_list_iff.mpr
        ⟨zs, rfl, forall₂_trans_of_mem (fun x hx _ _ hxy hyz => ih x hx hxy hyz) hxys hyzs⟩
  | mapping es ih =>
      obtain ⟨fs, rfl, hlength, hes⟩ := same_mapping_iff.mp huv
      obtain ⟨gs, rfl, hlength', hfs⟩ := same_mapping_iff.mp hvw
      refine same_mapping_iff.mpr ⟨gs, rfl, hlength.trans hlength', fun e he => ?_⟩
      obtain ⟨x, hx, hsame⟩ := hes e he
      obtain ⟨y, hy, hsame'⟩ := hfs _ (mem_of_lookup hx)
      exact ⟨y, hy, ih e he hsame hsame'⟩

/-- A key that is no NaN is equal to itself. -/
theorem IsKey.same_self (hv : v.IsKey) (hnan : v ≠ float .nan) : v.same v = true := by
  rw [hv.same_iff]
  cases v with
  | float x =>
      cases x with
      | nan => exact absurd rfl hnan
      | _ => exact ⟨_, rfl, rfl⟩
  | list xs => cases hv
  | mapping es => cases hv
  | _ => exact ⟨_, rfl, rfl⟩

/-- **Without a NaN plain equality is reflexive.** -/
theorem same_self (hv : v.WellKeyed) (hnan : ¬(float .nan).IsPart v) : v.same v = true := by
  induction v using Value.induction with
  | key v hkey =>
      refine hkey.same_self ?_
      rintro rfl
      exact hnan .self
  | list xs ih =>
      have hxs := wellKeyed_list.mp hv
      exact same_list_iff.mpr
        ⟨xs, rfl, List.forall₂_same.mpr fun x hx => ih x hx (hxs x hx) fun h => hnan (.item hx h)⟩
  | mapping es ih =>
      obtain ⟨hkeys, hes⟩ := wellKeyed_mapping.mp hv
      refine same_mapping_iff.mpr ⟨es, rfl, rfl, fun e he => ?_⟩
      exact ⟨e.2, (lookup_eq_some_iff_mem hkeys).mpr he,
        ih e he (hes e he) fun h => hnan (.entry he h)⟩

/-! ### Strict equality -/

/-- **Induction along lists**: a statement holds of every value when it holds of values that are no
lists, and of lists of whose items it holds. -/
@[elab_as_elim]
theorem inductionAlongLists {motive : Value → Prop} (other : ∀ v, v.kind ≠ .list → motive v)
    (list : ∀ items, (∀ v ∈ items, motive v) → motive (.list items)) (v : Value) : motive v := by
  induction v using Value.induction with
  | key v hkey =>
      refine other v ?_
      cases v with
      | list items => cases hkey
      | _ => exact nofun
  | list items ih => exact list items ih
  | mapping entries _ => exact other _ nofun

/-- **Strict equality is symmetric.** -/
theorem strictlySame_symm (hv : v.WellKeyed) (h : v.strictlySame w = true) :
    w.strictlySame v = true := by
  induction v using inductionAlongLists generalizing w with
  | other v hlist =>
      obtain ⟨hkind, hsame⟩ := (strictlySame_iff_of_not_list hlist).mp h
      exact (strictlySame_iff_of_not_list (hkind ▸ hlist)).mpr ⟨hkind.symm, same_symm hv hsame⟩
  | list xs ih =>
      have hxs := wellKeyed_list.mp hv
      obtain ⟨ys, rfl, hitems⟩ := strictlySame_list_iff.mp h
      exact strictlySame_list_iff.mpr
        ⟨xs, rfl, forall₂_symm_of_mem (fun x hx y hxy => ih x hx (hxs x hx) hxy) hitems⟩

/-- **Strict equality is transitive.** -/
theorem strictlySame_trans (huv : u.strictlySame v = true) (hvw : v.strictlySame w = true) :
    u.strictlySame w = true := by
  induction u using inductionAlongLists generalizing v w with
  | other u hlist =>
      obtain ⟨hkind, hsame⟩ := (strictlySame_iff_of_not_list hlist).mp huv
      obtain ⟨hkind', hsame'⟩ := (strictlySame_iff_of_not_list (hkind ▸ hlist)).mp hvw
      exact (strictlySame_iff_of_not_list hlist).mpr
        ⟨hkind.trans hkind', same_trans hsame hsame'⟩
  | list xs ih =>
      obtain ⟨ys, rfl, hxys⟩ := strictlySame_list_iff.mp huv
      obtain ⟨zs, rfl, hyzs⟩ := strictlySame_list_iff.mp hvw
      exact strictlySame_list_iff.mpr
        ⟨zs, rfl, forall₂_trans_of_mem (fun x hx _ _ hxy hyz => ih x hx hxy hyz) hxys hyzs⟩

/-- **Without a NaN strict equality is reflexive.** -/
theorem strictlySame_self (hv : v.WellKeyed) (hnan : ¬(float .nan).IsPart v) :
    v.strictlySame v = true := by
  induction v using inductionAlongLists with
  | other v hlist => exact (strictlySame_iff_of_not_list hlist).mpr ⟨rfl, same_self hv hnan⟩
  | list xs ih =>
      have hxs := wellKeyed_list.mp hv
      exact strictlySame_list_iff.mpr
        ⟨xs, rfl, List.forall₂_same.mpr fun x hx => ih x hx (hxs x hx) fun h => hnan (.item hx h)⟩

/-- Strict equality can be asked from either side. -/
theorem strictlySame_comm (hv : v.WellKeyed) (hw : w.WellKeyed) :
    v.strictlySame w = w.strictlySame v := by
  rw [Bool.eq_iff_iff]
  exact ⟨strictlySame_symm hv, strictlySame_symm hw⟩

/-- A list holds a value when the value is among its items. -/
theorem holds_eq_isAmong (hv : v.WellKeyed) (hxs : (list xs).WellKeyed) :
    (list xs).holds v = .ok (v.isAmong xs) := by
  rw [isAmong, holds, Except.ok.injEq, Bool.eq_iff_iff, List.any_eq_true, List.any_eq_true]
  refine exists_congr fun x => and_congr_right fun hx => ?_
  rw [strictlySame_comm hv (wellKeyed_list.mp hxs x hx)]

end Value

/-! ### Leaves -/

variable {context field found : Value}

/-- What a field leads to in a well keyed context is well keyed. -/
theorem Tree.wellKeyed_of_found? (hcontext : context.WellKeyed)
    (h : found? context field = some found) : found.WellKeyed := by
  cases field with
  | text path =>
      obtain ⟨-, hresolve⟩ := Option.ite_none_left_eq_some.mp h
      cases hfound : context.resolvePath (.text path) with
      | error fault => simp [hfound, Except.toOption] at hresolve
      | ok v =>
          obtain rfl : v = found := by simpa [hfound, Except.toOption] using hresolve
          exact hcontext.resolvePath hfound
  | _ => cases h

/-- **The laws of strict equality.** It is symmetric and transitive, and reflexive on what has no
NaN as a part, for values in whose mappings no key stands twice. So a value that one field leads to
is in the list that another field leads to exactly when that list contains it. -/
theorem strictlySame_laws :
    (∀ v w : Value, v.WellKeyed → w.WellKeyed → v.strictlySame w = w.strictlySame v) ∧
    (∀ u v w : Value, u.strictlySame v = true → v.strictlySame w = true →
      u.strictlySame w = true) ∧
    (∀ v : Value, v.WellKeyed → ¬(Value.float .nan).IsPart v → v.strictlySame v = true) ∧
    ∀ (context f g v : Value) (items : List Value) (below below' : List Tree),
      context.WellKeyed → Tree.found? context f = some v →
      Tree.found? context g = some (.list items) →
      ((Tree.node (.compare .among) f (.list items) below).Matches context ↔
        (Tree.node (.compare .contains) g v below').Matches context) := by
  refine ⟨fun v w => Value.strictlySame_comm, fun u v w => Value.strictlySame_trans,
    fun v => Value.strictlySame_self, ?_⟩
  intro context f g v items below below' hcontext hf hg
  rw [Tree.matches_compare_iff hf, Tree.matches_compare_iff hg, Comparison.holds, Comparison.holds,
    Value.isItemOf, Value.holds_eq_isAmong (Tree.wellKeyed_of_found? hcontext hf)
      (Tree.wellKeyed_of_found? hcontext hg)]

/-- A box that counts one. -/
def countedBox : Value := .mapping [("size", .text "s"), ("count", .int 1)]

/-- The same box, with the count as a truth value. -/
def markedBox : Value := .mapping [("count", .bool true), ("size", .text "s")]

theorem wellKeyed_countedBox : countedBox.WellKeyed := by
  rw [countedBox, Value.wellKeyed_mapping, List.forall_mem_cons, List.forall_mem_cons]
  exact ⟨by decide, Value.IsKey.wellKeyed rfl, Value.IsKey.wellKeyed rfl, List.forall_mem_nil _⟩

theorem wellKeyed_markedBox : markedBox.WellKeyed := by
  rw [markedBox, Value.wellKeyed_mapping, List.forall_mem_cons, List.forall_mem_cons]
  exact ⟨by decide, Value.IsKey.wellKeyed rfl, Value.IsKey.wellKeyed rfl, List.forall_mem_nil _⟩

/-- Below a mapping one is as good as `true`, and a box is among others when they contain it. -/
theorem strictlySame_laws_boxes :
    let boxes : List Value := [.list [countedBox], markedBox]
    let context : Value := .mapping [("box", countedBox), ("boxes", .list boxes)]
    markedBox.strictlySame countedBox = countedBox.strictlySame markedBox ∧
    countedBox.strictlySame markedBox = true ∧
    countedBox.strictlySame countedBox = true ∧
    ((Tree.node (.compare .among) (.text "box") (.list boxes) []).Matches context ↔
      (Tree.node (.compare .contains) (.text "boxes") countedBox []).Matches context) := by
  intro boxes context
  obtain ⟨hcomm, htrans, hself, hdual⟩ := strictlySame_laws
  have hboxes : (Value.list boxes).WellKeyed := by
    rw [Value.wellKeyed_list, List.forall_mem_cons, List.forall_mem_cons, Value.wellKeyed_list,
      List.forall_mem_cons]
    exact ⟨⟨wellKeyed_countedBox, List.forall_mem_nil _⟩, wellKeyed_markedBox,
      List.forall_mem_nil _⟩
  have hcontext : context.WellKeyed := by
    rw [Value.wellKeyed_mapping, List.forall_mem_cons, List.forall_mem_cons]
    exact ⟨by decide, wellKeyed_countedBox, hboxes, List.forall_mem_nil _⟩
  refine ⟨hcomm _ _ wellKeyed_markedBox wellKeyed_countedBox, ?_, ?_, ?_⟩
  · exact htrans countedBox (.mapping [("count", .int 1), ("size", .text "s")]) _ rfl rfl
  · refine hself _ wellKeyed_countedBox ?_
    rintro (_ | _ | ⟨he, hpart⟩)
    simp only [List.mem_cons, List.not_mem_nil, or_false] at he
    rcases he with rfl | rfl
    · cases hpart
    · cases hpart
  · exact hdual context _ _ _ _ _ _ hcontext rfl rfl

end Rulebook
