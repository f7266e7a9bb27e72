import Rulebook.Proofs.Success
import Rulebook.Rule
import Rulebook.Value.Number

/-!
# What Reading a Rule Establishes

A rule is read from the entries of a mapping, check by check. `Rule.ofEntries?_eq_ok_iff` says once
what all checks together come to: reading succeeds exactly when the required fields are given and
every part of the definition reads, and it gives the rule assembled from these parts. What holds of
a rule because it was read is derived from there.

## Main definitions

* `Rule.assembled`: the rule of the entries of a definition, once its parts are read.
* `Rule.IsRead`: a rule that was read from some definition.

## Main results

* `Action.ofValue?_eq_ok_iff`: an action is read from a mapping that names its kind.
* `Rule.ofEntries?_eq_ok_iff`: reading succeeds exactly when every part reads.
* `Rule.checkPriority_eq_ok_iff`: a priority passes exactly when it is a finite number.
* `Rule.IsRead.priority_finite`, `Rule.IsRead.actions_typed`: a rule that was read has a finite
  priority, and its actions are read.
* `Rule.IsRead.rewritten`: it is also read with any other priority that passes, and any stamps.
-/

namespace Rulebook

namespace Action

/-- Only a mapping with a kind reads as an action. -/
theorem ofValue?_eq_ok_iff {v : Value} {a : Action} :
    ofValue? v = .ok a ↔
      ∃ entries kind, v = .mapping entries ∧ Value.lookup "type" entries = some kind ∧
        ofEntries kind entries = a := by
  constructor
  · intro h
    cases v with
    | mapping entries =>
        simp only [ofValue?] at h
        split at h
        · exact ⟨entries, _, rfl, ‹_›, Except.ok.inj h⟩
        · cases h
    | _ => cases h
  · rintro ⟨entries, kind, rfl, hkind, rfl⟩
    simp only [ofValue?, hkind]

end Action

namespace Rule

/-- The priority that a definition gives. -/
def givenPriority (entries : List (String × Value)) : Value :=
  (Value.lookup "priority" entries).getD defaultPriority

/-- The rule of the entries of a definition whose stamps, condition and actions are read. -/
def assembled (entries : List (String × Value)) (created updated : Timestamp)
    (condition : Option Condition) (actions : List Action) : Rule where
  id := .text (fieldOf entries "id").plain
  name := fieldOf entries "name"
  kind := RuleKind.ofValue ((Value.lookup "rule_type" entries).getD defaultKind)
  trigger := (fieldOf entries "trigger_event").orElse defaultTrigger
  guard := .typed condition
  actions := .inl (actions.map .typed)
  priority := givenPriority entries
  active := .bool ((Value.lookup "is_active" entries).getD (.bool true)).isTruthy
  tenantId := fieldOf entries "tenant_id"
  description := fieldOf entries "description"
  created
  updated

/-- **Reading succeeds exactly when every part reads**: the required fields are given, the id can be
written, the actions are a list of actions, the priority passes, the stamps and the condition
read. -/
theorem ofEntries?_eq_ok_iff {now : Timestamp} {entries : List (String × Value)} {r : Rule} :
    ofEntries? now entries = .ok r ↔
      missingFields entries = [] ∧ (fieldOf entries "id").isWritable = true ∧
      ∃ written created updated condition actions,
        actionsOf? (fieldOf entries "id") (fieldOf entries "actions") = .ok written ∧
        checkPriority (fieldOf entries "id") (givenPriority entries) = .ok () ∧
        stampOf? now (fieldOf entries "id") "created_at" (fieldOf entries "created_at") =
          .ok created ∧
        stampOf? now (fieldOf entries "id") "updated_at" (fieldOf entries "updated_at") =
          .ok updated ∧
        Condition.ofValue? (fieldOf entries "conditions") = .ok condition ∧
        written.mapM Action.ofValue? = .ok actions ∧
        assembled entries created updated condition actions = r := by
  by_cases hmissing : missingFields entries = []
  · simp only [ofEntries?, hmissing, List.isEmpty_nil, Bool.not_true, Bool.false_eq_true, if_false,
      bind_eq_ok_iff, true_and]
    constructor
    · rintro ⟨written, hwritten, _, hpriority, created, hcreated, updated, hupdated, id, hid,
        condition, hcondition, actions, hactions, hr⟩
      obtain ⟨hlong, rfl⟩ := Value.ifWritable_eq_ok_iff.mp (orFail_eq_ok_iff.mp hid)
      exact ⟨hlong, written, created, updated, condition, actions, hwritten, hpriority, hcreated,
        hupdated, hcondition, hactions, Except.ok.inj hr⟩
    · rintro ⟨hlong, written, created, updated, condition, actions, hwritten, hpriority, hcreated,
        hupdated, hcondition, hactions, rfl⟩
      exact ⟨written, hwritten, (), hpriority, created, hcreated, updated, hupdated, _,
        orFail_eq_ok_iff.mpr (Value.ifWritable_of_isWritable hlong _), condition, hcondition,
        actions, hactions, rfl⟩
  · have hempty : (missingFields entries).isEmpty = false := by
      rw [List.isEmpty_eq_false_iff]
      exact hmissing
    simp only [ofEntries?, hempty, Bool.not_false, if_true]
    constructor
    · intro h
      cases h
    · rintro ⟨h, -⟩
      exact absurd h hmissing

/-- Only a mapping reads as a rule. -/
theorem ofValue?_eq_ok_iff {now : Timestamp} {v : Value} {r : Rule} :
    ofValue? now v = .ok r ↔ ∃ entries, v = .mapping entries ∧ ofEntries? now entries = .ok r := by
  constructor
  · intro h
    cases v with
    | mapping entries => exact ⟨entries, rfl, h⟩
    | _ => cases h
  · rintro ⟨entries, rfl, h⟩
    exact h

/-! ### The priority -/

/-- **A priority passes exactly when it is a finite number**, whatever rule it belongs to. -/
theorem checkPriority_eq_ok_iff {ruleId v : Value} :
    checkPriority ruleId v = .ok () ↔
      v.kind = .number ∧ ∃ x, v.toNumber = .ok x ∧ x.isFinite = true := by
  cases v with
  | int n =>
      rw [checkPriority, map_eq_ok_iff, Value.toNumber]
      constructor
      · rintro ⟨x, hx, -⟩
        have hn := orFail_eq_ok_iff.mp hx
        exact ⟨rfl, x, hn, Numeral.isFinite_of_ofInt hn⟩
      · rintro ⟨-, x, hx, -⟩
        exact ⟨x, orFail_eq_ok_iff.mpr hx, rfl⟩
  | float x =>
      simp only [checkPriority, Value.kind, Value.toNumber, true_and]
      by_cases hx : x.isFinite = true
      · rw [if_pos hx]
        exact ⟨fun _ => ⟨x, rfl, hx⟩, fun _ => rfl⟩
      · rw [if_neg hx]
        constructor
        · intro h
          cases h
        · rintro ⟨y, hy, hfinite⟩
          obtain rfl := Except.ok.inj hy
          exact absurd hfinite hx
  | _ => simp [checkPriority, Value.kind]

/-! ### Rules that were read -/

/-- A rule that was read from some definition. -/
def IsRead (r : Rule) : Prop := ∃ now v, ofValue? now v = .ok r

/-- A rule that was read is assembled from the parts of its definition. -/
theorem IsRead.exists_assembled {r : Rule} (h : r.IsRead) :
    ∃ entries created updated condition actions,
      checkPriority (fieldOf entries "id") (givenPriority entries) = .ok () ∧
      assembled entries created updated condition actions = r := by
  obtain ⟨now, v, hv⟩ := h
  obtain ⟨entries, -, hentries⟩ := ofValue?_eq_ok_iff.mp hv
  obtain ⟨-, -, _, created, updated, condition, actions, -, hpriority, -, -, -, -, hr⟩ :=
    ofEntries?_eq_ok_iff.mp hentries
  exact ⟨entries, created, updated, condition, actions, hpriority, hr⟩

/-- The priority of a rule that was read is a finite number. -/
theorem IsRead.priority_finite {r : Rule} (h : r.IsRead) :
    ∃ x, r.priority.toNumber = .ok x ∧ x.isFinite = true := by
  obtain ⟨_, _, _, _, _, hpriority, rfl⟩ := h.exists_assembled
  exact (checkPriority_eq_ok_iff.mp hpriority).2

/-- The actions of a rule that was read are read. -/
theorem IsRead.actions_typed {r : Rule} (h : r.IsRead) :
    ∃ actions : List Action, r.actions = .inl (actions.map .typed) := by
  obtain ⟨_, _, _, _, actions, _, rfl⟩ := h.exists_assembled
  exact ⟨actions, rfl⟩

/-! ### Definitions with other entries -/

/-- The entries of a definition with its priority and its stamps written anew. -/
def rewritten (entries : List (String × Value)) (priority : Value) (created updated : Timestamp) :
    List (String × Value) :=
  Value.write "priority" priority (Value.write "created_at" (.timestamp created)
    (Value.write "updated_at" (.timestamp updated) entries))

section Rewritten

variable (entries : List (String × Value)) (priority : Value) (created updated : Timestamp)

theorem lookup_rewritten_of_ne {key : String} (hpriority : key ≠ "priority")
    (hcreated : key ≠ "created_at") (hupdated : key ≠ "updated_at") :
    Value.lookup key (rewritten entries priority created updated) = Value.lookup key entries := by
  rw [rewritten, Value.lookup_write_of_ne hpriority, Value.lookup_write_of_ne hcreated,
    Value.lookup_write_of_ne hupdated]

theorem fieldOf_rewritten_of_ne {key : String} (hpriority : key ≠ "priority")
    (hcreated : key ≠ "created_at") (hupdated : key ≠ "updated_at") :
    fieldOf (rewritten entries priority created updated) key = fieldOf entries key := by
  rw [fieldOf, lookup_rewritten_of_ne entries priority created updated hpriority hcreated hupdated,
    fieldOf]

theorem givenPriority_rewritten :
    givenPriority (rewritten entries priority created updated) = priority := by
  rw [givenPriority, rewritten, Value.lookup_write_self, Option.getD_some]

theorem fieldOf_rewritten_created :
    fieldOf (rewritten entries priority created updated) "created_at" = .timestamp created := by
  rw [fieldOf, rewritten, Value.lookup_write_of_ne (by decide), Value.lookup_write_self,
    Option.getD_some]

theorem fieldOf_rewritten_updated :
    fieldOf (rewritten entries priority created updated) "updated_at" = .timestamp updated := by
  rw [fieldOf, rewritten, Value.lookup_write_of_ne (by decide),
    Value.lookup_write_of_ne (by decide), Value.lookup_write_self, Option.getD_some]

end Rewritten

/-- **A rule that was read is read with any other priority that passes**, and with any stamps. -/
theorem IsRead.rewritten {r : Rule} (h : r.IsRead) {priority : Value}
    (hpriority : checkPriority r.id priority = .ok ()) (created updated : Timestamp) :
    ({ r with priority, created, updated } : Rule).IsRead := by
  obtain ⟨now, v, hv⟩ := h
  obtain ⟨entries, -, hentries⟩ := ofValue?_eq_ok_iff.mp hv
  obtain ⟨hmissing, hlong, written, _, _, condition, actions, hwritten, -, -, -, hcondition,
    hactions, rfl⟩ := ofEntries?_eq_ok_iff.mp hentries
  have hlookup : ∀ key, key ≠ "priority" → key ≠ "created_at" → key ≠ "updated_at" →
      Value.lookup key (Rule.rewritten entries priority created updated) =
        Value.lookup key entries :=
    fun _ => lookup_rewritten_of_ne entries priority created updated
  have hfield : ∀ key, key ≠ "priority" → key ≠ "created_at" → key ≠ "updated_at" →
      fieldOf (Rule.rewritten entries priority created updated) key = fieldOf entries key :=
    fun _ => fieldOf_rewritten_of_ne entries priority created updated
  refine ⟨now, .mapping (Rule.rewritten entries priority created updated),
    ofValue?_eq_ok_iff.mpr ⟨_, rfl, ofEntries?_eq_ok_iff.mpr ⟨?_, ?_, ?_⟩⟩⟩
  · rw [← hmissing]
    simp [missingFields, requiredFields, List.filter_cons, hfield]
  · rw [hfield "id" (by decide) (by decide) (by decide)]
    exact hlong
  · rw [givenPriority_rewritten, fieldOf_rewritten_created, fieldOf_rewritten_updated,
      hfield "id" (by decide) (by decide) (by decide),
      hfield "actions" (by decide) (by decide) (by decide),
      hfield "conditions" (by decide) (by decide) (by decide)]
    refine ⟨written, created, updated, condition, actions, hwritten, ?_, rfl, rfl, hcondition,
      hactions, ?_⟩
    · exact checkPriority_eq_ok_iff.mpr (checkPriority_eq_ok_iff.mp hpriority)
    · simp [assembled, hfield, hlookup, givenPriority_rewritten]

end Rule

end Rulebook
