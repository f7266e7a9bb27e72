import Rulebook.Proofs.Binding
import Rulebook.Proofs.Catalogue
import Rulebook.Proofs.Parts

/-!
# Arguments of Templates

Arguments fit the parameters of a signature when each argument finds a parameter of its own and each
required parameter an argument: those by position take the first parameters, and those by name take
others (`Signature.Fits`). Binding succeeds exactly then, and otherwise it says what is wrong.

All that a template asks of its arguments is that they fit. Only the template for delivery zones
asks more, for the places it allows have to be something that can be gone through. When what a
template asks for is not met, it refuses the arguments. Two things are not refused, though. An
argument by the name of `category` or `name` gets in the way of naming the template, and an argument
that is too long to be written cannot be shown in a text of the rule. The faults of these are
reported by nobody.

## Main definitions

* `Signature.Fits`: arguments fit the parameters of a signature.
* `Value.IsIterable`: a value can be gone through.
* `Template.Accepts`: what a template asks of its arguments.
* `Template.CanShow`: what it shows of its arguments can be written.

## Main results

* `Signature.bind?_eq_ok_iff`: arguments are bound exactly when they fit.
* `Template.madeIf_draft?`: a template makes a draft of what it accepts, if it can show it.
* `Template.draft?_of_not_accepts`: it makes none of anything else.
* `instantiate?_arguments`: how the building of a rule ends.
-/

namespace Rulebook

/-! ### Binding -/

namespace Signature

variable {α : Type} {s : Signature} {b b' : Bound α} {positional : List α}
  {named fields : List (String × α)}

theorem has_iff {parameter : String} :
    b.has parameter = true ↔ parameter ∈ b.entries.map Prod.fst := by
  rw [Bound.has, Bound.get?, Option.isSome_map, List.find?_isSome, List.mem_map]
  exact exists_congr fun e => and_congr_right fun _ => decide_eq_true_iff

/-- A name is bound exactly when it is known and has no argument yet. -/
theorem bindNamed_eq_ok_iff {name : String} {argument : α} :
    s.bindNamed b name argument = .ok b' ↔
      (name ∈ s.parameters ∧ name ∉ b.entries.map Prod.fst) ∧
        b' = ⟨b.entries ++ [(name, argument)]⟩ := by
  constructor
  · intro h
    rw [bindNamed] at h
    split at h
    · cases h
    · next hknown =>
        split at h
        · cases h
        · next hnew =>
            refine ⟨⟨?_, fun hmem => hnew (has_iff.mpr hmem)⟩, (Except.ok.inj h).symm⟩
            simpa using hknown
  · rintro ⟨⟨hknown, hnew⟩, rfl⟩
    exact bindNamed_ok hknown hnew

/-- Names are bound one after the other exactly when they are known, have no arguments yet and
differ. -/
theorem foldlM_bindNamed_eq_ok_iff :
    fields.foldlM (fun b e => s.bindNamed b e.1 e.2) b = .ok b' ↔
      (∀ e ∈ fields, e.1 ∈ s.parameters ∧ e.1 ∉ b.entries.map Prod.fst) ∧
        (fields.map Prod.fst).Nodup ∧ b' = ⟨b.entries ++ fields⟩ := by
  induction fields generalizing b with
  | nil =>
      simp only [List.foldlM_nil, List.map_nil, List.nodup_nil, List.append_nil, List.not_mem_nil,
        false_implies, implies_true, true_and]
      exact ⟨fun h => (Except.ok.inj h).symm, fun h => by rw [h]; rfl⟩
  | cons e rest ih =>
      rw [List.foldlM_cons, bind_eq_ok_iff, List.forall_mem_cons, List.map_cons, List.nodup_cons]
      -- The first name joins those that are bound, so the rest may not come with it again.
      constructor
      · rintro ⟨next, hnext, hrest⟩
        obtain ⟨he, rfl⟩ := bindNamed_eq_ok_iff.mp hnext
        obtain ⟨hknown, hdistinct, rfl⟩ := ih.mp hrest
        simp only [List.map_append, List.mem_append, not_or] at hknown
        refine ⟨⟨he, fun f hf => ⟨(hknown f hf).1, (hknown f hf).2.1⟩⟩, ⟨?_, hdistinct⟩, ?_⟩
        · intro hmem
          obtain ⟨f, hf, heq⟩ := List.mem_map.mp hmem
          exact (hknown f hf).2.2 (List.mem_singleton.mpr heq)
        · rw [List.append_assoc]
          rfl
      · rintro ⟨⟨he, hknown⟩, ⟨hnew, hdistinct⟩, rfl⟩
        refine ⟨_, bindNamed_eq_ok_iff.mpr ⟨he, rfl⟩, ih.mpr ⟨?_, hdistinct, ?_⟩⟩
        · intro f hf
          refine ⟨(hknown f hf).1, ?_⟩
          simp only [List.map_append, List.mem_append, not_or]
          refine ⟨(hknown f hf).2, fun heq => hnew ?_⟩
          rw [← List.mem_singleton.mp heq]
          exact List.mem_map_of_mem hf
        · rw [List.append_assoc]
          rfl

/-- Arguments fit the parameters of a signature. -/
structure Fits (s : Signature) (positional : List α) (named : List (String × α)) : Prop where
  /-- There are no more arguments by position than parameters. -/
  few : positional.length ≤ s.parameters.length
  /-- Arguments by name have the names of parameters that no argument by position takes. -/
  known : ∀ e ∈ named, e.1 ∈ s.parameters ∧ e.1 ∉ s.parameters.take positional.length
  /-- No name comes twice. -/
  distinct : (named.map Prod.fst).Nodup
  /-- Every required parameter gets an argument. -/
  required : ∀ p ∈ s.required, p ∈ s.parameters.take positional.length ∨ p ∈ named.map Prod.fst

theorem map_fst_zip_eq_take (names : List String) (as : List α) :
    (names.zip as).map Prod.fst = names.take as.length := by
  induction names generalizing as with
  | nil => simp
  | cons name names ih =>
      cases as with
      | nil => rfl
      | cons a as => simp [ih]

/-- No required parameter is missing when all of them have arguments. -/
theorem missing_eq_nil_iff :
    s.missing b = [] ↔ ∀ p ∈ s.required, p ∈ b.entries.map Prod.fst := by
  rw [missing, List.filter_eq_nil_iff]
  refine forall_congr' fun p => imp_congr_right fun _ => ?_
  rw [← has_iff, Bool.not_eq_true', Bool.not_eq_false]

/-- **Arguments are bound exactly when they fit**, and then as they are. -/
theorem bind?_eq_ok_iff :
    s.bind? positional named = .ok b ↔
      s.Fits positional named ∧ b = ⟨s.parameters.zip positional ++ named⟩ := by
  rw [bind?, bind_eq_ok_iff]
  constructor
  · rintro ⟨bound, hfold, h⟩
    obtain ⟨hknown, hdistinct, rfl⟩ := foldlM_bindNamed_eq_ok_iff.mp hfold
    split at h
    · cases h
    · next hfew =>
        dsimp only at h
        split at h
        · cases h
        · next hmissing =>
            rw [Bool.not_eq_true', Bool.not_eq_false, List.isEmpty_iff,
              missing_eq_nil_iff] at hmissing
            simp only [map_fst_zip_eq_take, List.map_append, List.mem_append] at hknown hmissing
            exact ⟨⟨Nat.le_of_not_lt hfew, hknown, hdistinct, hmissing⟩, (Except.ok.inj h).symm⟩
  · rintro ⟨h, rfl⟩
    refine ⟨_, foldlM_bindNamed_eq_ok_iff.mpr ⟨?_, h.distinct, rfl⟩, ?_⟩
    · rw [map_fst_zip_eq_take]
      exact h.known
    · have hmissing : s.missing ⟨s.parameters.zip positional ++ named⟩ = [] := by
        simp only [missing_eq_nil_iff, map_fst_zip_eq_take, List.map_append, List.mem_append]
        exact h.required
      rw [if_neg (Nat.not_lt_of_le h.few), hmissing]
      rfl

/-- The names of bound arguments differ, when those of the parameters do. -/
theorem Fits.nodup (h : s.Fits positional named) (hs : s.parameters.Nodup) :
    ((s.parameters.zip positional ++ named).map Prod.fst).Nodup := by
  rw [List.map_append, map_fst_zip_eq_take, List.nodup_append]
  refine ⟨hs.sublist (List.take_sublist _ _), h.distinct, ?_⟩
  rintro name hname _ hmem rfl
  obtain ⟨e, he, rfl⟩ := List.mem_map.mp hmem
  exact (h.known e he).2 hname

/-- A fault of arguments. -/
def IsArguments (f : Fault) : Prop := ∃ reason, f = .arguments reason

theorem failsOnly_bindNamed (b : Bound α) (e : String × α) :
    FailsOnly IsArguments (s.bindNamed b e.1 e.2) := by
  rw [bindNamed]
  split
  · exact failsOnly_error ⟨_, rfl⟩
  · split
    · exact failsOnly_error ⟨_, rfl⟩
    · exact failsOnly_ok _

theorem failsOnly_foldlM_bindNamed (b : Bound α) (fields : List (String × α)) :
    FailsOnly IsArguments (fields.foldlM (fun b e => s.bindNamed b e.1 e.2) b) := by
  induction fields generalizing b with
  | nil => exact failsOnly_ok b
  | cons e rest ih =>
      rw [List.foldlM_cons]
      exact (failsOnly_bindNamed b e).bind ih

/-- Binding fails with a fault of arguments. -/
theorem failsOnly_bind? (positional : List α) (named : List (String × α)) :
    FailsOnly IsArguments (s.bind? positional named) := by
  rw [bind?]
  refine (failsOnly_foldlM_bindNamed _ named).bind fun b => ?_
  split
  · exact failsOnly_error ⟨_, rfl⟩
  · dsimp only
    split
    · exact failsOnly_error ⟨_, rfl⟩
    · exact failsOnly_ok _

end Signature

theorem Bound.get?_eq_lookup (b : Bound Value) (parameter : String) :
    b.get? parameter = Value.lookup parameter b.entries := by
  obtain ⟨entries⟩ := b
  induction entries with
  | nil => rfl
  | cons e rest ih =>
      obtain ⟨key, v⟩ := e
      rw [Value.lookup, ← ih, get?, List.find?_cons]
      by_cases hkey : key = parameter
      · simp [hkey]
      · simp [hkey, get?]

/-! ### Templates -/

/-- A value can be gone through: it is a list, a text or a mapping. -/
inductive Value.IsIterable : Value → Prop
  | list (items : List Value) : IsIterable (.list items)
  | text (s : String) : IsIterable (.text s)
  | mapping (entries : List (String × Value)) : IsIterable (.mapping entries)

theorem Value.exists_items?_iff {v : Value} : (∃ items, v.items? = .ok items) ↔ v.IsIterable := by
  constructor
  · rintro ⟨items, h⟩
    cases v with
    | list items => exact .list items
    | text s => exact .text s
    | mapping entries => exact .mapping entries
    | _ => cases h
  · rintro (_ | _ | _) <;> exact ⟨_, rfl⟩

/-- What cannot be gone through fails as a value of the wrong type. -/
theorem Value.items?_of_not_isIterable {v : Value} (h : ¬v.IsIterable) :
    ∃ f, v.items? = .error f ∧ f.category = .type := by
  cases v with
  | list items => exact absurd (.list items) h
  | text s => exact absurd (.text s) h
  | mapping entries => exact absurd (.mapping entries) h
  | _ => exact ⟨_, rfl, rfl⟩

namespace Template

variable {t : Template} {b : Bound Value} {positional : List Value} {named : List (String × Value)}

/-- What a template asks of its arguments: they fit its parameters, and the places that the template
for delivery zones allows can be gone through. -/
structure Accepts (t : Template) (positional : List Value) (named : List (String × Value)) :
    Prop where
  fits : t.signature.Fits positional named
  iterable : t = deliveryZone →
    ∀ v, ("allowed_wilayas", v) ∈ t.signature.parameters.zip positional ++ named → v.IsIterable

/-- The template for delivery zones makes a draft when the places it allows can be gone through. -/
theorem exists_draft_deliveryZone_iff :
    (∃ d, deliveryZone.draft b = .ok d) ↔ (argument b "allowed_wilayas").IsIterable := by
  rw [← Value.exists_items?_iff]
  constructor
  · rintro ⟨d, hd⟩
    obtain ⟨places, hplaces, -⟩ := bind_eq_ok_iff.mp hd
    exact ⟨places, hplaces⟩
  · rintro ⟨places, hplaces⟩
    exact ⟨_, bind_eq_ok_iff.mpr ⟨places, hplaces, rfl⟩⟩

theorem nodup_parameters : ∀ t ∈ catalogue, t.signature.parameters.Nodup := by decide

/-- No template has a parameter by the name of what names it. -/
theorem not_mem_ownParameters :
    ∀ t ∈ catalogue, ∀ p ∈ t.signature.parameters, p ∉ ownParameters := by decide

/-- An argument is what was given for the parameter, where names differ. -/
theorem argument_eq_of_mem (hnodup : (b.entries.map Prod.fst).Nodup) {parameter : String}
    {v : Value} (h : (parameter, v) ∈ b.entries) : argument b parameter = v := by
  rw [argument, Bound.getD, Bound.get?_eq_lookup, (Value.lookup_eq_some_iff_mem hnodup).mpr h]
  rfl

/-! ### Texts that show arguments -/

/-- A draft is made when certain texts can be written, and they cannot for one reason only. -/
structure MadeIf (P : Prop) (x : Except Fault Draft) : Prop where
  made : P → ∃ d, x = .ok d
  fault : ¬P → x = .error .integerTooLong

theorem madeIf_ok (d : Draft) : MadeIf True (.ok d) :=
  ⟨fun _ => ⟨d, rfl⟩, fun h => absurd trivial h⟩

/-- A draft that shows one more value. -/
theorem MadeIf.show {P : Prop} {v : Value} {spelling : String} {f : String → Except Fault Draft}
    (h : ∀ s, MadeIf P (f s)) :
    MadeIf (v.isWritable = true ∧ P) (v.ifWritable spelling >>= f) := by
  cases hv : v.isWritable with
  | false =>
      rw [Value.ifWritable_of_not_isWritable hv]
      exact ⟨fun hall => absurd hall.1 Bool.false_ne_true, fun _ => rfl⟩
  | true =>
      rw [Value.ifWritable_of_isWritable hv, eq_self_iff_true, true_and]
      exact h spelling

theorem MadeIf.congr {P Q : Prop} {x : Except Fault Draft} (h : MadeIf P x) (hPQ : P ↔ Q) :
    MadeIf Q x :=
  propext hPQ ▸ h

/-- What stands in the stead of an argument can be written when its template gives it. -/
theorem isWritable_getD {instead : Value} (h : instead.isWritable = true) (b : Bound Value)
    (parameter : String) :
    (b.getD parameter instead).isWritable = (argument b parameter).isWritable := by
  rw [argument, Bound.getD, Bound.getD]
  cases b.get? parameter with
  | none => exact h
  | some v => rfl

/-- **All templates but that for delivery zones show their arguments**, which they have to write
for it. -/
theorem madeIf_draft (ht : t ∈ catalogue) (hzone : t ≠ deliveryZone) (b : Bound Value) :
    MadeIf (∀ p ∈ t.signature.parameters, (argument b p).isWritable = true) (t.draft b) := by
  simp only [catalogue, List.mem_cons, List.not_mem_nil, or_false] at ht
  rcases ht with rfl | rfl | rfl | rfl | rfl | rfl | rfl | rfl | rfl | rfl | rfl | rfl | rfl | rfl
  · refine (MadeIf.show fun _ => .show fun _ => madeIf_ok _).congr ?_
    rw [isWritable_getD rfl]
    simp [minOrderAmount, Signature.parameters]
  · exact (madeIf_ok _).congr (by simp [requireStock, Signature.parameters])
  · exact (madeIf_ok _).congr (by simp [requireNutritionInfo, Signature.parameters])
  · exact (madeIf_ok _).congr (by simp [requireSizeSelection, Signature.parameters])
  · exact (MadeIf.show fun _ => madeIf_ok _).congr (by simp [serviceCharge, Signature.parameters])
  · exact (MadeIf.show fun _ => madeIf_ok _).congr
      (by simp [freeDeliveryThreshold, Signature.parameters])
  · exact (madeIf_ok _).congr (by simp [calculateTotalCalories, Signature.parameters])
  · exact (MadeIf.show fun _ => .show fun _ => madeIf_ok _).congr
      (by simp [bulkDiscount, Signature.parameters, and_comm])
  · exact (madeIf_ok _).congr (by simp [sendToKitchen, Signature.parameters])
  · exact (MadeIf.show fun _ => madeIf_ok _).congr (by simp [lowStockAlert, Signature.parameters])
  · exact (madeIf_ok _).congr (by simp [autoConfirmPickup, Signature.parameters])
  · exact (MadeIf.show fun _ => madeIf_ok _).congr
      (by simp [maxQuantityPerProduct, Signature.parameters])
  · exact (MadeIf.show fun _ => .show fun _ => madeIf_ok _).congr
      (by simp [businessHours, Signature.parameters])
  · exact absurd rfl hzone

/-- What a template shows of its arguments can be written. Only that for delivery zones shows
nothing of them. -/
def CanShow (t : Template) (positional : List Value) (named : List (String × Value)) : Prop :=
  t ≠ deliveryZone →
    ∀ e ∈ t.signature.parameters.zip positional ++ named, e.2.isWritable = true

/-- The arguments that parameters get are those that were given. -/
theorem forall_argument_iff (ht : t ∈ catalogue) (hfits : t.signature.Fits positional named) :
    (∀ p ∈ t.signature.parameters,
        (argument ⟨t.signature.parameters.zip positional ++ named⟩ p).isWritable = true) ↔
      ∀ e ∈ t.signature.parameters.zip positional ++ named, e.2.isWritable = true := by
  have hnodup := hfits.nodup (nodup_parameters _ ht)
  constructor
  · intro h e he
    have hknown : e.1 ∈ t.signature.parameters := by
      rcases List.mem_append.mp he with hzip | hnamed
      · exact (List.of_mem_zip hzip).1
      · exact (hfits.known e hnamed).1
    have hargument := h _ hknown
    rwa [argument_eq_of_mem hnodup he] at hargument
  · intro h p _
    rw [argument, Bound.getD, Bound.get?_eq_lookup]
    cases hp : Value.lookup p (t.signature.parameters.zip positional ++ named) with
    | none => rfl
    | some v => exact h _ (Value.mem_of_lookup hp)

/-- **A template makes a draft of what it accepts**, if it can show it. -/
theorem madeIf_draft? (ht : t ∈ catalogue) (h : t.Accepts positional named) :
    MadeIf (t.CanShow positional named) (t.draft? positional named) := by
  have hb := Signature.bind?_eq_ok_iff.mpr ⟨h.fits, rfl⟩
  have hdraft : t.draft? positional named =
      t.draft ⟨t.signature.parameters.zip positional ++ named⟩ := by
    rw [draft?, hb]
    rfl
  rw [hdraft]
  by_cases hzone : t = deliveryZone
  · subst hzone
    obtain ⟨e, he, hkey⟩ := List.mem_map.mp
      (Signature.has_iff.mp (Signature.bind?_ok hb "allowed_wilayas" List.mem_cons_self))
    obtain ⟨parameter, v⟩ := e
    obtain rfl : parameter = "allowed_wilayas" := hkey
    have hmade : ∃ d, deliveryZone.draft ⟨deliveryZone.signature.parameters.zip positional ++
        named⟩ = .ok d := by
      rw [exists_draft_deliveryZone_iff,
        argument_eq_of_mem (h.fits.nodup (nodup_parameters _ ht)) he]
      exact h.iterable rfl v he
    exact ⟨fun _ => hmade, fun hnot => absurd (fun hne => absurd rfl hne) hnot⟩
  · refine (madeIf_draft ht hzone _).congr ?_
    rw [forall_argument_iff ht h.fits, CanShow, imp_iff_right hzone]

/-- What a template does not accept it makes no draft of, with a fault that is reported. -/
theorem draft?_of_not_accepts (ht : t ∈ catalogue) (h : ¬t.Accepts positional named) :
    ∃ f, t.draft? positional named = .error f ∧ f.category = .type := by
  rw [draft?]
  cases hb : t.signature.bind? positional named with
  | error f =>
      obtain ⟨reason, rfl⟩ := Signature.failsOnly_bind? positional named f hb
      exact ⟨_, rfl, rfl⟩
  | ok b =>
      obtain ⟨hfits, rfl⟩ := Signature.bind?_eq_ok_iff.mp hb
      by_cases hzone : t = deliveryZone
      · subst hzone
        have hiterable : ¬(argument ⟨deliveryZone.signature.parameters.zip positional ++ named⟩
            "allowed_wilayas").IsIterable := by
          intro hargument
          refine h ⟨hfits, fun _ v hv => ?_⟩
          rwa [argument_eq_of_mem (hfits.nodup (nodup_parameters _ ht)) hv] at hargument
        obtain ⟨f, hf, hcategory⟩ := Value.items?_of_not_isIterable hiterable
        refine ⟨f, ?_, hcategory⟩
        change (argument _ "allowed_wilayas").items? >>= _ = _
        rw [hf]
        rfl
      · exact absurd ⟨hfits, fun heq => absurd heq hzone⟩ h

/-! ### Building a rule -/

theorem find?_of_mem_catalogue (ht : t ∈ catalogue) :
    find? (.text t.category) (.text t.name) = .ok t := by
  simp only [catalogue, List.mem_cons, List.not_mem_nil, or_false] at ht
  rcases ht with rfl | rfl | rfl | rfl | rfl | rfl | rfl | rfl | rfl | rfl | rfl | rfl | rfl | rfl
  all_goals rfl

/-- Some argument by name gets in the way of naming the template. -/
def Interferes (named : List (String × Value)) : Prop := ∃ e ∈ named, e.1 ∈ ownParameters

theorem any_ownParameters_iff :
    (named.any fun e => ownParameters.contains e.1) = true ↔ Interferes named := by
  simp [Interferes]

/-- Arguments that get in the way of naming the template are not reported as bad ones. -/
theorem instantiate?_of_interferes (now : Timestamp) (category name : Value)
    (positional : List Value) (h : Interferes named) :
    ∃ reason, instantiate? now category name positional named =
      .error (.fault (.arguments reason)) := by
  rw [instantiate?, if_pos (any_ownParameters_iff.mpr h)]
  exact ⟨_, rfl⟩

/-- Otherwise the rule of a template is that of the draft it makes, or its fault is reported. -/
theorem instantiate?_of_not_interferes (now : Timestamp) (ht : t ∈ catalogue)
    (h : ¬Interferes named) :
    instantiate? now (.text t.category) (.text t.name) positional named =
      (reported (.text t.category) (.text t.name) (t.draft? positional named)).map
        (Rule.ofDraft now) := by
  rw [instantiate?, if_neg (any_ownParameters_iff.not.mpr h), find?_of_mem_catalogue ht]
  cases h : reported (.text t.category) (.text t.name) (t.draft? positional named) <;>
    simp [h, bind, Except.bind, Except.map, pure, Except.pure]

theorem Accepts.not_interferes (ht : t ∈ catalogue) (h : t.Accepts positional named) :
    ¬Interferes named := by
  rintro ⟨e, he, hown⟩
  exact not_mem_ownParameters t ht e.1 (h.fits.known e he).1 hown

/-- A template builds a rule exactly of what it accepts and can show. -/
theorem exists_instantiate?_iff (now : Timestamp) (ht : t ∈ catalogue) :
    (∃ r, instantiate? now (.text t.category) (.text t.name) positional named = .ok r) ↔
      t.Accepts positional named ∧ t.CanShow positional named := by
  have hdraft : (∃ d, t.draft? positional named = .ok d) ↔
      t.Accepts positional named ∧ t.CanShow positional named := by
    constructor
    · rintro ⟨d, hd⟩
      have haccepts : t.Accepts positional named := by
        by_contra hnot
        obtain ⟨f, hf, -⟩ := draft?_of_not_accepts ht hnot
        cases hd.symm.trans hf
      refine ⟨haccepts, ?_⟩
      by_contra hnot
      cases hd.symm.trans ((madeIf_draft? ht haccepts).fault hnot)
    · rintro ⟨haccepts, hshow⟩
      exact (madeIf_draft? ht haccepts).made hshow
  by_cases hown : Interferes named
  · obtain ⟨reason, hfault⟩ := instantiate?_of_interferes now (.text t.category) (.text t.name)
      positional hown
    refine iff_of_false ?_ fun h => h.1.not_interferes ht hown
    rintro ⟨r, hr⟩
    cases hfault.symm.trans hr
  · rw [instantiate?_of_not_interferes now ht hown, ← hdraft]
    simp only [map_eq_ok_iff, reported_eq_ok_iff]
    constructor
    · rintro ⟨-, d, hd, -⟩
      exact ⟨d, hd⟩
    · rintro ⟨d, hd⟩
      exact ⟨_, d, hd, rfl⟩

/-- What a template does not accept it refuses, unless it gets in the way. -/
theorem exists_refusal_of_not_accepts (now : Timestamp) (ht : t ∈ catalogue)
    (haccepts : ¬t.Accepts positional named) (hown : ¬Interferes named) :
    ∃ reason, instantiate? now (.text t.category) (.text t.name) positional named =
      .error (.refused (.templateArguments (.text t.category) (.text t.name) reason)) := by
  obtain ⟨f, hf, htype⟩ := draft?_of_not_accepts ht haccepts
  rw [instantiate?_of_not_interferes now ht hown, hf, reported, if_pos htype]
  exact ⟨_, rfl⟩

/-- What a template accepts and cannot show ends in a fault that is not reported. -/
theorem instantiate?_of_not_canShow (now : Timestamp) (ht : t ∈ catalogue)
    (haccepts : t.Accepts positional named) (hshow : ¬t.CanShow positional named) :
    instantiate? now (.text t.category) (.text t.name) positional named =
      .error (.fault .integerTooLong) := by
  rw [instantiate?_of_not_interferes now ht (haccepts.not_interferes ht),
    (madeIf_draft? ht haccepts).fault hshow]
  rfl

end Template

open Template in
/-- **How the building of a rule ends**, for every template of the catalogue. It gives a rule exactly
when the template accepts the arguments and can show them. What a template does not accept is
refused as such, with the category and the name for details. The exception are arguments by the name
of `category` or `name`: no template accepts these, and they end in a fault that is not reported. So
do arguments that are accepted and too long to be shown. -/
theorem instantiate?_arguments (now : Timestamp) {t : Template} (ht : t ∈ catalogue)
    (positional : List Value) (named : List (String × Value)) :
    let built := instantiate? now (.text t.category) (.text t.name) positional named
    ((∃ r, built = .ok r) ↔ t.Accepts positional named ∧ t.CanShow positional named) ∧
    (¬t.Accepts positional named → ¬Interferes named →
      ∃ r : Refusal, built = .error (.refused r) ∧ r.code = "VALIDATION_ERROR" ∧
        r.details = [("category", .text t.category), ("name", .text t.name)]) ∧
    (Interferes named → ∃ reason, built = .error (.fault (.arguments reason))) ∧
    (t.Accepts positional named → ¬t.CanShow positional named →
      built = .error (.fault .integerTooLong)) := by
  refine ⟨exists_instantiate?_iff now ht, fun haccepts hown => ?_,
    instantiate?_of_interferes now _ _ positional, instantiate?_of_not_canShow now ht⟩
  obtain ⟨reason, hbuilt⟩ := exists_refusal_of_not_accepts now ht haccepts hown
  exact ⟨_, hbuilt, rfl, rfl⟩

/-- A bulk discount is built of a quantity by position and a percentage by name, a delivery zone of
one number is refused, and one with a name of its own ends in a fault. -/
theorem instantiate?_arguments_bulk :
    (∃ r, Template.instantiate? .epoch (.text "calculation") (.text "bulk_discount") [.int 10]
      [("discount_percent", .int 5)] = .ok r) ∧
    (∃ r : Refusal, Template.instantiate? .epoch (.text "constraint") (.text "delivery_zone")
      [.int 16] [] = .error (.refused r) ∧ r.code = "VALIDATION_ERROR") ∧
    ∃ reason, Template.instantiate? .epoch (.text "constraint") (.text "delivery_zone")
      [.list []] [("name", .text "zone")] = .error (.fault (.arguments reason)) := by
  have hbulk : Template.bulkDiscount ∈ Template.catalogue := by simp [Template.catalogue]
  have hzone : Template.deliveryZone ∈ Template.catalogue := by simp [Template.catalogue]
  obtain ⟨hbuilt, -, -, -⟩ := instantiate?_arguments .epoch hbulk [.int 10]
    [("discount_percent", .int 5)]
  obtain ⟨-, hrefused, -, -⟩ := instantiate?_arguments .epoch hzone [.int 16] []
  obtain ⟨-, -, hfault, -⟩ := instantiate?_arguments .epoch hzone [.list []] [("name", .text "zone")]
  refine ⟨hbuilt.mpr ⟨⟨⟨by decide, ?_, by decide, by decide⟩, ?_⟩, fun _ => ?_⟩, ?_, ?_⟩
  · intro e he
    obtain rfl := List.mem_singleton.mp he
    decide
  · intro h
    exact absurd (congrArg Template.name h) (by decide)
  · decide +kernel
  · have hnumber : ¬Template.deliveryZone.Accepts [.int 16] [] := by
      intro h
      cases h.iterable rfl (.int 16) List.mem_cons_self
    have hnone : ¬Template.Interferes [] := by
      rintro ⟨e, he, -⟩
      cases he
    obtain ⟨r, hr, hcode, -⟩ := hrefused hnumber hnone
    exact ⟨r, hr, hcode⟩
  · exact hfault ⟨_, List.mem_cons_self, by decide⟩

/-- The name of a template given as one of its arguments is no argument that fits, and yet it is not
refused as one. -/
theorem instantiate?_arguments_unreported :
    ∃ f, Template.instantiate? .epoch (.text "validation") (.text "require_stock") []
      [("name", .text "stock")] = .error (.fault f) := ⟨_, rfl⟩

end Rulebook
