import Rulebook.Signature

/-!
# Binding Fields by Name

Fields that come by name are bound as they are, in their order, when all is in order with their
names: each is known, none comes twice, and the required ones are among them.

## Main results

* `Signature.bind?_named`: fields whose names are known and differ are bound as they are.
-/

namespace Rulebook

namespace Signature

variable {α : Type} {s : Signature}

/-- A name is bound when it is known and has no argument yet. -/
theorem bindNamed_ok {b : Bound α} {name : String} {argument : α} (hknown : name ∈ s.parameters)
    (hnew : name ∉ b.entries.map Prod.fst) :
    s.bindNamed b name argument = .ok ⟨b.entries ++ [(name, argument)]⟩ := by
  have hcontains : s.parameters.contains name = true := List.contains_iff_mem.mpr hknown
  have hfree : b.has name = false := by
    rw [Bound.has, Bound.get?]
    rw [Option.isSome_map, Option.isSome_eq_false_iff, Option.isNone_iff_eq_none,
      List.find?_eq_none]
    intro e he heq
    exact hnew (List.mem_map.mpr ⟨e, he, of_decide_eq_true heq⟩)
  rw [bindNamed, hcontains, hfree]
  rfl

/-- Names are bound one after the other when they are known and differ. -/
theorem foldlM_bindNamed_ok {fields : List (String × α)} {b : Bound α}
    (hknown : ∀ e ∈ fields, e.1 ∈ s.parameters)
    (hdistinct : ((b.entries ++ fields).map Prod.fst).Nodup) :
    fields.foldlM (fun b e => s.bindNamed b e.1 e.2) b = .ok ⟨b.entries ++ fields⟩ := by
  induction fields generalizing b with
  | nil =>
      rw [List.append_nil]
      rfl
  | cons e rest ih =>
      obtain ⟨he, hrest⟩ := List.forall_mem_cons.mp hknown
      have hnew : e.1 ∉ b.entries.map Prod.fst := by
        rw [List.map_append, List.map_cons] at hdistinct
        intro hmem
        exact (List.nodup_append.mp hdistinct).2.2 _ hmem _ (List.mem_cons_self) rfl
      rw [List.append_cons] at hdistinct
      rw [List.foldlM_cons, bindNamed_ok he hnew, List.append_cons b.entries e rest]
      exact ih hrest hdistinct

/-- **Fields whose names are known and differ are bound as they are**, when the required ones are
among them. -/
theorem bind?_named {fields : List (String × α)} (hknown : ∀ e ∈ fields, e.1 ∈ s.parameters)
    (hdistinct : (fields.map Prod.fst).Nodup)
    (hrequired : ∀ p ∈ s.required, p ∈ fields.map Prod.fst) :
    s.bind? [] fields = .ok ⟨fields⟩ := by
  have hmissing : s.missing (⟨fields⟩ : Bound α) = [] := by
    rw [missing, List.filter_eq_nil_iff]
    intro p hp
    obtain ⟨e, he, rfl⟩ := List.mem_map.mp (hrequired p hp)
    have hhas : (⟨fields⟩ : Bound α).has e.1 = true := by
      rw [Bound.has, Bound.get?, Option.isSome_map, List.find?_isSome]
      exact ⟨e, he, decide_eq_true rfl⟩
    rw [hhas]
    exact Bool.false_ne_true
  rw [bind?, List.zip_nil_right]
  have hfold := foldlM_bindNamed_ok (b := (⟨[]⟩ : Bound α)) hknown hdistinct
  rw [hfold]
  simp [bind, Except.bind, hmissing, pure, Except.pure]

end Signature

end Rulebook
