import Rulebook.Engine
import Rulebook.Proofs.RoundTrip
import Rulebook.Proofs.Run
import Rulebook.Template

/-!
# Rules of Templates Are Restorable

The rules that templates make are composed in code and were never read, and yet they are written as
rules that are read again: the parts they are composed of restore, whatever the arguments are. With
the rules that were read, these are the rules that a tenant comes by, and all of them survive being
stored and loaded.

## Main definitions

* `Draft.IsRestorable`: the parts of a draft restore.
* `Rule.Obtained`: a rule that was read from a definition or made by a template.

## Main results

* `Template.isRestorable_of_mem_catalogue`: the drafts of all templates are restorable.
* `Rule.Obtained.isRestorable`: a rule that a tenant comes by is restorable.
* `ofValue?_toValue_of_obtained`: it is read as it was written, alone and among others.
-/

namespace Rulebook

/-! ### Conditions composed in code -/

namespace Condition

variable {depth : Nat}

theorem ofValue_toValue_compare (c : Comparison) :
    Operator.ofValue (Operator.compare c).toValue = .compare c := by
  rw [Operator.toValue, Operator.ofValue, Operator.ofName?_name_comparison]
  rfl

theorem ofValue_toValue_connect (c : Connective) :
    Operator.ofValue (Operator.connect c).toValue = .connect c := by
  rw [Operator.toValue, Operator.ofValue, Operator.ofName?_name_connective]
  rfl

theorem restores_test (c : Comparison) (field value : Value) :
    Restores (depth + 1) (test c field value) :=
  restores_node (ofValue_toValue_compare c) field value fun _ h => nomatch h

theorem restores_probe (c : Comparison) (field : Value) :
    Restores (depth + 1) (probe c field) :=
  restores_node (ofValue_toValue_compare c) field .absent fun _ h => nomatch h

theorem restores_connecting (c : Connective) {children : List Condition}
    (h : ∀ child ∈ children, Restores depth child) :
    Restores (depth + 1) (connecting c children) := by
  refine restores_node (ofValue_toValue_connect c) _ _ ?_
  rintro cs hcs
  obtain rfl := Option.some.inj hcs
  exact h

/-- Two conditions under a connective. -/
theorem restores_connecting_pair (c : Connective) {first second : Condition}
    (hfirst : Restores depth first) (hsecond : Restores depth second) :
    Restores (depth + 1) (connecting c [first, second]) := by
  refine restores_connecting c ?_
  rintro child hchild
  rcases List.mem_pair.mp hchild with rfl | rfl
  · exact hfirst
  · exact hsecond

theorem restores_negation {child : Condition} (h : Restores depth child) :
    Restores (depth + 1) (negation child) := by
  refine restores_connecting .negated ?_
  intro other hother
  obtain rfl := List.mem_singleton.mp hother
  exact h

end Condition

/-! ### Actions composed in code -/

namespace Action

@[simp] theorem restores_setField (field value : Value) : (setField field value).Restores :=
  restores_of_names rfl rfl

@[simp] theorem restores_addFee (field percentage fixed : Value) :
    (addFee field percentage fixed).Restores :=
  restores_of_names rfl rfl

@[simp] theorem restores_reportError (message : Value) : (reportError message).Restores :=
  restores_of_names rfl rfl

@[simp] theorem restores_aggregate (field operation source : Value) :
    (aggregate field operation source).Restores :=
  restores_of_names rfl (operationOf_toValue operation)

@[simp] theorem restores_notify (message : Value) : (notify message).Restores :=
  restores_of_names rfl rfl

@[simp] theorem restores_triggerWorkflow (workflow : Value) : (triggerWorkflow workflow).Restores :=
  restores_of_names rfl rfl

end Action

/-! ### Drafts -/

/-- Every part of a draft reads as it was written. -/
structure Draft.IsRestorable (d : Draft) : Prop where
  name : d.name ≠ ""
  kind : RuleKind.ofValue d.kind.toValue = d.kind
  guard : ∃ c, d.guard = .typed c ∧ Condition.ofValue? (Condition.optionToValue c) = .ok c
  actions : ∃ as : List Action, d.actions = as.map .typed ∧ ∀ a ∈ as, a.Restores
  priority : ∀ ruleId, Rule.checkPriority ruleId (d.priority.orElse Rule.defaultPriority) = .ok ()

/-- The rule of a restorable draft is restorable. -/
theorem Draft.IsRestorable.ofDraft {d : Draft} (h : d.IsRestorable) {now : Timestamp}
    (hnow : now.IsRestorable) : (Rule.ofDraft now d).IsRestorable := by
  obtain ⟨actions, hactions, hrestores⟩ := h.actions
  exact {
    id := by
      refine ⟨_, rfl, ?_⟩
      exact fun hid => absurd (String.append_eq_empty_iff.mp hid).1 (by decide)
    name := by
      change (!d.name.isEmpty) = true
      rw [String.isEmpty_eq_false_iff.mpr h.name]
      rfl
    kind := h.kind
    trigger := Rule.isTruthy_orElse rfl
    guard := h.guard
    actions := ⟨actions, congrArg Sum.inl hactions, hrestores⟩
    priority := h.priority _
    active := ⟨true, rfl⟩
    created := hnow
    updated := hnow }

namespace Template

/-- The priorities that the templates give. -/
def priorities : List Int := [5, 10, 15, 20, 30, 40, 50, 60, 70]

theorem checkPriority_of_mem {n : Int} (h : n ∈ priorities) (ruleId : Value) :
    Rule.checkPriority ruleId ((Value.int n).orElse Rule.defaultPriority) = .ok () := by
  have hnumbers : ∀ n ∈ priorities, (Binary64.ofInt? n).isSome = true := by decide +kernel
  have hnonzero : ∀ n ∈ priorities, (Value.int n).isTruthy = true := by decide
  obtain ⟨x, hx⟩ := Option.isSome_iff_exists.mp (hnumbers n h)
  have hread : Numeral.ofInt n = .ok x := Fault.ifNone_eq_ok_iff.mpr hx
  rw [Value.orElse, if_pos (hnonzero n h), Rule.checkPriority_eq_ok_iff]
  exact ⟨rfl, x, hread, Numeral.isFinite_of_ofInt hread⟩

/-- The draft that a template is ready with is restorable when its parts restore. -/
theorem isRestorable_of_ready {name : String} {kind : RuleKind} {description trigger : String}
    {c : Condition} {actions : List Action} {priority : Int} {d : Draft}
    (hd : (.ok (ready name kind description trigger c actions priority) : Except Fault Draft) =
      .ok d)
    (hcondition : Condition.Restores Condition.depthLimit c) (hname : name ≠ "")
    (hkind : RuleKind.ofValue kind.toValue = kind) (hactions : ∀ a ∈ actions, a.Restores)
    (hpriority : priority ∈ priorities) : d.IsRestorable := by
  obtain rfl := Except.ok.inj hd
  exact {
    name := hname
    kind := hkind
    guard := ⟨some c, rfl, hcondition⟩
    actions := ⟨actions, rfl, hactions⟩
    priority := checkPriority_of_mem hpriority }

open Condition in
/-- **The drafts of all templates are restorable**, whatever the arguments are. -/
theorem isRestorable_of_mem_catalogue {t : Template} (ht : t ∈ catalogue) {b : Bound Value}
    {d : Draft} (hd : t.draft b = .ok d) : d.IsRestorable := by
  simp only [catalogue, List.mem_cons, List.not_mem_nil, or_false] at ht
  rcases ht with rfl | rfl | rfl | rfl | rfl | rfl | rfl | rfl | rfl | rfl | rfl | rfl | rfl | rfl
  -- A template that shows its arguments writes them first.
  · obtain ⟨amount, -, hd⟩ := bind_eq_ok_iff.mp hd
    obtain ⟨currency, -, hd⟩ := bind_eq_ok_iff.mp hd
    exact isRestorable_of_ready hd (restores_test _ _ _) (by decide) rfl (by simp) (by decide)
  · exact isRestorable_of_ready hd (restores_test _ _ _) (by decide) rfl (by simp) (by decide)
  · exact isRestorable_of_ready hd
      (restores_connecting_pair _ (restores_test _ _ _) (restores_probe _ _))
      (by decide) rfl (by simp) (by decide)
  · exact isRestorable_of_ready hd
      (restores_connecting_pair _ (restores_test _ _ _) (restores_probe _ _))
      (by decide) rfl (by simp) (by decide)
  · obtain ⟨amount, -, hd⟩ := bind_eq_ok_iff.mp hd
    exact isRestorable_of_ready hd (restores_test _ _ _) (by decide) rfl (by simp) (by decide)
  · obtain ⟨amount, -, hd⟩ := bind_eq_ok_iff.mp hd
    exact isRestorable_of_ready hd (restores_test _ _ _) (by decide) rfl (by simp) (by decide)
  · exact isRestorable_of_ready hd (restores_test _ _ _) (by decide) rfl (by simp) (by decide)
  · obtain ⟨percent, -, hd⟩ := bind_eq_ok_iff.mp hd
    obtain ⟨amount, -, hd⟩ := bind_eq_ok_iff.mp hd
    exact isRestorable_of_ready hd (restores_test _ _ _) (by decide) rfl (by simp) (by decide)
  · exact isRestorable_of_ready hd
      (restores_connecting_pair _ (restores_test _ _ _) (restores_test _ _ _))
      (by decide) rfl (by simp) (by decide)
  · obtain ⟨amount, -, hd⟩ := bind_eq_ok_iff.mp hd
    exact isRestorable_of_ready hd
      (restores_connecting_pair _ (restores_test _ _ _) (restores_test _ _ _))
      (by decide) rfl (by simp) (by decide)
  · exact isRestorable_of_ready hd (restores_test _ _ _) (by decide) rfl (by simp) (by decide)
  · obtain ⟨amount, -, hd⟩ := bind_eq_ok_iff.mp hd
    exact isRestorable_of_ready hd (restores_test _ _ _) (by decide) rfl (by simp) (by decide)
  · obtain ⟨first, -, hd⟩ := bind_eq_ok_iff.mp hd
    obtain ⟨last, -, hd⟩ := bind_eq_ok_iff.mp hd
    exact isRestorable_of_ready hd
      (restores_connecting_pair _ (restores_test _ _ _) (restores_test _ _ _))
      (by decide) rfl (by simp) (by decide)
  · -- The last template first asks for the items of its argument.
    obtain ⟨places, -, hplaces⟩ := bind_eq_ok_iff.mp hd
    exact isRestorable_of_ready hplaces
      (restores_connecting_pair _ (restores_test _ _ _) (restores_negation (restores_test _ _ _)))
      (by decide) rfl (by simp) (by decide)

/-! ### Building by name -/

/-- What is missing is not there. -/
theorem missing_ne_ok {α : Type} (category name : Value) (a : α) :
    missing category name ≠ .ok a := by
  rw [missing]
  split <;> exact fun h => by cases h

/-- The template of a category and a name is one of the catalogue. -/
theorem mem_catalogue_of_find? {category name : Value} {t : Template}
    (h : find? category name = .ok t) : t ∈ catalogue := by
  rw [find?] at h
  obtain ⟨_, -, h⟩ := bind_eq_ok_iff.mp h
  dsimp only at h
  split at h
  · exact absurd h (missing_ne_ok category name t)
  · obtain ⟨_, -, h⟩ := bind_eq_ok_iff.mp h
    split at h
    · obtain rfl := Except.ok.inj h
      exact (List.mem_filter.mp (List.mem_of_find?_eq_some ‹_›)).1
    · exact absurd h (missing_ne_ok category name t)

theorem reported_eq_ok_iff {α : Type} {category name : Value} {x : Except Fault α} {a : α} :
    reported category name x = .ok a ↔ x = .ok a := by
  cases x with
  | ok b => simp [reported]
  | error f =>
      constructor
      · intro h
        simp only [reported] at h
        split at h <;> cases h
      · intro h
        cases h

/-- A rule that a template makes is that of a draft which some template of the catalogue makes. -/
theorem exists_made_of_instantiate? {now : Timestamp} {category name : Value}
    {positional : List Value} {named : List (String × Value)} {r : Rule}
    (h : instantiate? now category name positional named = .ok r) :
    ∃ t ∈ catalogue, ∃ b d, t.draft b = .ok d ∧ Rule.ofDraft now d = r := by
  rw [instantiate?] at h
  split at h
  · cases h
  · obtain ⟨t, ht, hdraft⟩ := bind_eq_ok_iff.mp h
    obtain ⟨d, hd, hr⟩ := bind_eq_ok_iff.mp hdraft
    obtain ⟨b, -, hmade⟩ := bind_eq_ok_iff.mp (reported_eq_ok_iff.mp hd)
    exact ⟨t, mem_catalogue_of_find? ht, b, d, hmade, Except.ok.inj hr⟩

/-- A rule that a template makes is that of a restorable draft, whatever the arguments are. -/
theorem exists_draft_of_instantiate? {now : Timestamp} {category name : Value}
    {positional : List Value} {named : List (String × Value)} {r : Rule}
    (h : instantiate? now category name positional named = .ok r) :
    ∃ d : Draft, d.IsRestorable ∧ Rule.ofDraft now d = r := by
  obtain ⟨t, ht, b, d, hd, hr⟩ := exists_made_of_instantiate? h
  exact ⟨d, isRestorable_of_mem_catalogue ht hd, hr⟩

/-- **A rule that a template makes is restorable**, whatever the arguments are. -/
theorem isRestorable_of_instantiate? {now : Timestamp} {category name : Value}
    {positional : List Value} {named : List (String × Value)} {r : Rule}
    (h : instantiate? now category name positional named = .ok r) (hnow : now.IsRestorable) :
    r.IsRestorable := by
  obtain ⟨d, hd, rfl⟩ := exists_draft_of_instantiate? h
  exact hd.ofDraft hnow

end Template

/-! ### Rules that a tenant comes by -/

/-- A rule that was read from a definition or made by a template, at a moment, with stamps that are
written without loss. -/
inductive Rule.Obtained : Rule → Prop
  | read {now : Timestamp} {d : Value} {r : Rule} :
      now.IsRestorable → Rule.HasRestorableStamps d → Rule.ofValue? now d = .ok r → Obtained r
  | made {now : Timestamp} {category name : Value} {positional : List Value}
      {named : List (String × Value)} {r : Rule} :
      now.IsRestorable → Template.instantiate? now category name positional named = .ok r →
        Obtained r

/-- **A rule that a tenant comes by is restorable.** -/
theorem Rule.Obtained.isRestorable {r : Rule} (h : r.Obtained) : r.IsRestorable := by
  cases h with
  | read hnow hstamps hread => exact isRestorable_of_ofValue? hread hnow hstamps
  | made hnow hmade => exact Template.isRestorable_of_instantiate? hmade hnow

/-- **Rules that a tenant comes by are read as they were written**, each on its own, and all of them
in their order where a configuration holds them. -/
theorem ofValue?_toValue_of_obtained (now : Timestamp) {rules : List Rule}
    (h : ∀ r ∈ rules, r.Obtained) :
    (∀ r ∈ rules, Rule.ofValue? now r.toValue = .ok r) ∧
    loadRules? now (.mapping [("rules", .list (rules.map Rule.toValue))]) = .ok rules := by
  have hread : ∀ r ∈ rules, Rule.ofValue? now r.toValue = .ok r :=
    fun r hr => (h r hr).isRestorable.ofValue?_toValue now
  refine ⟨hread, ?_⟩
  have hall : readable now (rules.map Rule.toValue) = rules := by
    clear h
    rw [readable]
    induction rules with
    | nil => rfl
    | cons r rest ih =>
        obtain ⟨hr, hrest⟩ := List.forall_mem_cons.mp hread
        rw [List.map_cons, List.filterMap_cons, hr, ih hrest]
        rfl
  have hdefinitions : tenantDefinitions? (.mapping [("rules", .list (rules.map Rule.toValue))]) =
      .ok (rules.map Rule.toValue) := rfl
  rw [loadRules?, hdefinitions]
  exact congrArg Except.ok hall

theorem isRestorable_epoch : Timestamp.epoch.IsRestorable := by
  rintro offset ⟨⟩
  exact .inl rfl

/-- A rule that a template makes could as well have been read from a definition, at any moment. -/
theorem Template.isRead_of_instantiate? {now : Timestamp} {category name : Value}
    {positional : List Value} {named : List (String × Value)} {r : Rule}
    (h : instantiate? now category name positional named = .ok r) : r.IsRead := by
  obtain ⟨d, hd, rfl⟩ := exists_draft_of_instantiate? h
  -- What is written of a draft at a moment that is written without loss is read, and reads alike
  -- with the stamps of any other moment.
  have hepoch : (Rule.ofDraft .epoch d).IsRead :=
    ⟨.epoch, _, (hd.ofDraft isRestorable_epoch).ofValue?_toValue .epoch⟩
  exact hepoch.rewritten (hd.ofDraft isRestorable_epoch).priority now now

/-- A rule with a service charge from the catalogue and the tied rules, stored and loaded. -/
theorem ofValue?_toValue_of_obtained_tied :
    ∃ made, Template.instantiate? .epoch (.text "calculation") (.text "service_charge") [.int 10] [] =
        .ok made ∧
      (made :: readable .epoch tiedDefinitions).length = 4 ∧
      (∀ r ∈ made :: readable .epoch tiedDefinitions, r.Obtained) ∧
      Rule.ofValue? .epoch made.toValue = .ok made ∧
      loadRules? .epoch (.mapping [("rules",
          .list ((made :: readable .epoch tiedDefinitions).map Rule.toValue))]) =
        .ok (made :: readable .epoch tiedDefinitions) := by
  have hstamps : ∀ d ∈ tiedDefinitions, Rule.HasRestorableStamps d := by
    intro d hd key hkey t ht
    simp only [tiedDefinitions, feeDefinition, List.mem_cons, List.not_mem_nil, or_false] at hd hkey
    rcases hd with rfl | rfl | rfl <;> rcases hkey with rfl | rfl <;>
      simp [Value.get?, Value.lookup] at ht
  cases hmade : Template.instantiate? .epoch (.text "calculation") (.text "service_charge")
      [.int 10] [] with
  | error failure =>
      have hok : (Template.instantiate? .epoch (.text "calculation") (.text "service_charge")
          [.int 10] []).toBool = true := by decide +kernel
      rw [hmade] at hok
      cases hok
  | ok made =>
      have hlength : (readable .epoch tiedDefinitions).length = 3 := by decide +kernel
      have hobtained : ∀ r ∈ made :: readable .epoch tiedDefinitions, r.Obtained := by
        intro r hr
        rcases List.mem_cons.mp hr with rfl | hr
        · exact .made isRestorable_epoch hmade
        · obtain ⟨d, hd, hread⟩ := Rule.exists_of_mem_readable hr
          exact .read isRestorable_epoch (hstamps d hd) hread
      obtain ⟨hread, hload⟩ := ofValue?_toValue_of_obtained .epoch hobtained
      exact ⟨made, rfl, congrArg (· + 1) hlength, hobtained, hread made List.mem_cons_self, hload⟩

end Rulebook
