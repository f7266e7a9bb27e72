import Rulebook.Proofs.Catalogue
import Rulebook.Proofs.Textual

/-!
# Reading What Was Made Safe

A definition that is sent to a tenant is made safe first: JSON has no infinities and no NaN, so
`null` stands in their place. What is read from it then is no longer what it was written from, but
it is as near as can be: reading goes along with making safe. The parts of a rule are made safe as
their fields are, and a definition that was made safe is read as the rule that was made safe.

Only the fields that reading looks into have to be free of infinities: the id, the name, the trigger
and whether the rule is active. The priority is finite anyway, for otherwise nothing is read.

## Main definitions

* `Condition.safe`, `Action.safe`, `Rule.safe`: parts with `null` for every infinity and NaN.

## Main results

* `Value.jsonSafe_of_isCarried`: what JSON carries is safe as it is.
* `Condition.readTo?_jsonSafe`, `Action.ofValue?_jsonSafe`, `Rule.ofValue?_jsonSafe`: reading goes
  along with making safe.
* `Condition.map_safe_of_isCarried`: a condition that is written without them is safe as it is.
-/

namespace Rulebook

/-! ### Values -/

namespace Value

mutual

/-- What JSON carries is safe as it is. -/
theorem jsonSafe_of_isCarried : (v : Value) → v.isCarried = true → v.jsonSafe = v
  | float x, h => by
      rw [isCarried] at h
      rw [jsonSafe, if_pos h]
  | list items, h => congrArg list (itemsSafe_of_itemsCarried items h)
  | mapping entries, h => congrArg mapping (entriesSafe_of_entriesCarried entries h)
  | absent, _ | null, _ | bool _, _ | int _, _ | text _, _ | timestamp _, _ => rfl

theorem itemsSafe_of_itemsCarried :
    (items : List Value) → itemsCarried items = true → itemsSafe items = items
  | [], _ => rfl
  | v :: rest, h => by
      rw [itemsCarried, Bool.and_eq_true] at h
      rw [itemsSafe, jsonSafe_of_isCarried v h.1, itemsSafe_of_itemsCarried rest h.2]

theorem entriesSafe_of_entriesCarried :
    (entries : List (String × Value)) → entriesCarried entries = true →
      entriesSafe entries = entries
  | [], _ => rfl
  | (_, v) :: rest, h => by
      rw [entriesCarried, Bool.and_eq_true] at h
      rw [entriesSafe, jsonSafe_of_isCarried v h.1, entriesSafe_of_entriesCarried rest h.2]

end

/-- What does not count as given is carried. -/
theorem isCarried_of_not_truthy {v : Value} (h : v.isTruthy = false) : v.isCarried = true := by
  cases v with
  | float x =>
      cases x with
      | finite s m => rfl
      | _ => cases h
  | list items =>
      cases items with
      | nil => rfl
      | cons v rest => cases h
  | mapping entries =>
      cases entries with
      | nil => rfl
      | cons e rest => cases h
  | _ => rfl

/-- What was made safe is safe. -/
theorem jsonSafe_jsonSafe (v : Value) : v.jsonSafe.jsonSafe = v.jsonSafe :=
  jsonSafe_of_isCarried v.jsonSafe (isCarried_jsonSafe v)

@[simp] theorem jsonSafe_null : null.jsonSafe = null := rfl

@[simp] theorem jsonSafe_absent : absent.jsonSafe = absent := rfl

@[simp] theorem jsonSafe_text (s : String) : (text s).jsonSafe = text s := rfl

theorem isAbsent_jsonSafe (v : Value) : v.jsonSafe.isAbsent = v.isAbsent := by
  cases v with
  | float x =>
      rw [jsonSafe]
      split <;> rfl
  | _ => rfl

/-- Nothing is read from what was made safe when nothing was read before. -/
theorem isBlank_jsonSafe {v : Value} (h : v.isBlank = true) : v.jsonSafe.isBlank = true := by
  cases v with
  | null => rfl
  | mapping entries =>
      cases entries with
      | nil => rfl
      | cons e rest => cases h
  | _ => cases h

theorem lookup_entriesSafe (key : String) (entries : List (String × Value)) :
    lookup key (entriesSafe entries) = (lookup key entries).map jsonSafe := by
  induction entries with
  | nil => rfl
  | cons e rest ih =>
      obtain ⟨k, v⟩ := e
      rw [entriesSafe, lookup, lookup, ih]
      split <;> rfl

theorem getD_lookup_entriesSafe (key : String) (entries : List (String × Value)) {default : Value}
    (h : default.jsonSafe = default) :
    (lookup key (entriesSafe entries)).getD default =
      ((lookup key entries).getD default).jsonSafe := by
  rw [lookup_entriesSafe]
  cases lookup key entries with
  | none => exact h.symm
  | some v => rfl

/-- What a value stands for: a text for what it names, if that is known, and any other value for
itself. -/
def named {α : Type} (ofName? : String → Option α) (other : Value → α) (v : Value) : α :=
  match v with
  | text name => (ofName? name).getD (other v)
  | _ => other v

/-- Looking up a name goes along with making safe, when only what is not known changes by it. -/
theorem named_jsonSafe {α : Type} (ofName? : String → Option α) (other : Value → α) (safe : α → α)
    (hother : ∀ v, safe (other v) = other v.jsonSafe)
    (hknown : ∀ name a, ofName? name = some a → safe a = a) (v : Value) :
    named ofName? other v.jsonSafe = safe (named ofName? other v) := by
  cases v with
  | text name =>
      rw [jsonSafe_text, named]
      cases hname : ofName? name with
      | none => exact (hother (text name)).symm
      | some a => exact (hknown name a hname).symm
  | float x =>
      have hwritten : safe (named ofName? other (float x)) = other (float x).jsonSafe := hother _
      rw [hwritten, jsonSafe]
      split <;> rfl
  | _ => exact (hother _).symm

end Value

/-! ### Names -/

/-- An operator whose name was made safe. -/
def Operator.safe : Operator → Operator
  | other written => other written.jsonSafe
  | op => op

theorem Operator.ofValue_jsonSafe (v : Value) : ofValue v.jsonSafe = (ofValue v).safe := by
  refine Value.named_jsonSafe ofName? other safe (fun _ => rfl) (fun name op hop => ?_) v
  rw [ofName?] at hop
  split at hop
  · obtain rfl := Option.some.inj hop
    rfl
  · obtain ⟨c, -, rfl⟩ := Option.map_eq_some_iff.mp hop
    rfl

/-- A kind whose name was made safe. -/
def ActionKind.safe : ActionKind → ActionKind
  | other written => other written.jsonSafe
  | kind => kind

theorem ActionKind.ofValue_jsonSafe (v : Value) : ofValue v.jsonSafe = (ofValue v).safe := by
  refine Value.named_jsonSafe ofName? other safe (fun _ => rfl) (fun name kind hkind => ?_) v
  rw [ofName?] at hkind
  (repeat' split at hkind) <;> cases hkind <;> rfl

/-- A kind of rules whose name was made safe. -/
def RuleKind.safe : RuleKind → RuleKind
  | other written => other written.jsonSafe
  | kind => kind

theorem RuleKind.ofValue_jsonSafe (v : Value) : ofValue v.jsonSafe = (ofValue v).safe := by
  refine Value.named_jsonSafe ofName? other safe (fun _ => rfl) (fun name kind hkind => ?_) v
  rw [ofName?] at hkind
  (repeat' split at hkind) <;> cases hkind <;> rfl

/-! ### Conditions -/

namespace Condition

mutual

/-- A condition with `null` for every infinity and NaN. -/
def safe : Condition → Condition
  | node op field value children =>
    node op.safe field.jsonSafe value.jsonSafe (childrenSafe children)

/-- The conditions below a node with `null` for every infinity and NaN. -/
def childrenSafe : Option (List Condition) → Option (List Condition)
  | none => none
  | some children => some (allSafe children)

/-- Conditions with `null` for every infinity and NaN. -/
def allSafe : List Condition → List Condition
  | [] => []
  | c :: rest => safe c :: allSafe rest

end

theorem allSafe_eq_map (cs : List Condition) : allSafe cs = cs.map safe := by
  induction cs with
  | nil => rfl
  | cons c rest ih => rw [allSafe, ih, List.map_cons]

theorem ofEntries_entriesSafe (entries : List (String × Value)) (operator : Value)
    (children : Option (List Condition)) :
    ofEntries (Value.entriesSafe entries) operator.jsonSafe (childrenSafe children) =
      (ofEntries entries operator children).safe := by
  rw [ofEntries, ofEntries, safe, Operator.ofValue_jsonSafe,
    Value.getD_lookup_entriesSafe _ _ Value.jsonSafe_null,
    Value.getD_lookup_entriesSafe _ _ Value.jsonSafe_absent]

/-- **Reading a condition goes along with making safe**, at every depth. -/
theorem readTo?_jsonSafe {depth : Nat} {v : Value} {c : Option Condition}
    (h : readTo? depth v = .ok c) : readTo? depth v.jsonSafe = .ok (c.map safe) := by
  induction depth generalizing v c with
  | zero => cases h
  | succ depth ih =>
      refine readTo?_of_readStep ?_
      cases readStep_of_readTo? h with
      | blank hblank => exact .blank (Value.isBlank_jsonSafe hblank)
      | @childless entries operator hoperator hchildren =>
          rw [Option.map_some, ← ofEntries_entriesSafe]
          refine .childless (by rw [Value.lookup_entriesSafe, hoperator, Option.map_some]) ?_
          rcases hchildren with hnone | hnull
          · exact .inl (by rw [Value.lookup_entriesSafe, hnone, Option.map_none])
          · exact .inr (by
              rw [Value.lookup_entriesSafe, hnull, Option.map_some, Value.jsonSafe_null])
      | @parent entries operator items read hoperator hitems hread =>
          have hchildren : childrenSafe (some (read.filterMap id)) =
              some ((read.map (Option.map safe)).filterMap id) := by
            rw [childrenSafe, allSafe_eq_map, List.filterMap_map, List.map_filterMap]
            rfl
          rw [Option.map_some, ← ofEntries_entriesSafe, hchildren]
          refine .parent (by rw [Value.lookup_entriesSafe, hoperator, Option.map_some])
            (by rw [Value.lookup_entriesSafe, hitems, Option.map_some, Value.jsonSafe_list]) ?_
          rw [List.forall₂_map_left_iff, List.forall₂_map_right_iff]
          exact hread.imp fun _ _ => ih

/-- Reading a condition goes along with making safe. -/
theorem ofValue?_jsonSafe {v : Value} {c : Option Condition} (h : ofValue? v = .ok c) :
    ofValue? v.jsonSafe = .ok (c.map safe) := readTo?_jsonSafe h

/-- A condition that reads as it is written is safe when JSON carries what is written. -/
theorem map_safe_of_isCarried {c : Option Condition} (h : ofValue? (optionToValue c) = .ok c)
    (hcarried : (optionToValue c).isCarried = true) : c.map safe = c := by
  have hsafe := ofValue?_jsonSafe h
  rw [Value.jsonSafe_of_isCarried _ hcarried, h] at hsafe
  exact (Except.ok.inj hsafe).symm

end Condition

/-! ### Actions -/

namespace Action

/-- An action with `null` for every infinity and NaN. -/
def safe (a : Action) : Action where
  kind := a.kind.safe
  field := a.field.jsonSafe
  value := a.value.jsonSafe
  message := a.message.jsonSafe
  percentage := a.percentage.jsonSafe
  operation := operationOf a.operationValue.jsonSafe
  source := a.source.jsonSafe

/-- **Reading an action goes along with making safe.** -/
theorem ofValue?_jsonSafe {v : Value} {a : Action} (h : ofValue? v = .ok a) :
    ofValue? v.jsonSafe = .ok a.safe := by
  obtain ⟨entries, kind, rfl, hkind, rfl⟩ := ofValue?_eq_ok_iff.mp h
  refine ofValue?_eq_ok_iff.mpr ⟨Value.entriesSafe entries, kind.jsonSafe, rfl, ?_, ?_⟩
  · rw [Value.lookup_entriesSafe, hkind, Option.map_some]
  · simp only [ofEntries, safe, operationValue, getD_operationOf, ActionKind.ofValue_jsonSafe,
      Value.getD_lookup_entriesSafe _ _ Value.jsonSafe_null,
      Value.getD_lookup_entriesSafe _ _ Value.jsonSafe_absent]

end Action

/-- An instruction with `null` for every infinity and NaN. -/
def Instruction.safe : Instruction → Instruction
  | typed a => typed a.safe
  | written v => written v.jsonSafe

/-! ### Rules -/

/-- A guard with `null` for every infinity and NaN. -/
def Guard.safe : Guard → Guard
  | typed c => typed (c.map Condition.safe)
  | written v => written v.jsonSafe

namespace Rule

/-- A rule with `null` for every infinity and NaN in its guard, in its instructions and in what is
said about it. -/
def safe (r : Rule) : Rule :=
  { r with
    kind := r.kind.safe
    guard := r.guard.safe
    actions := r.actions.map (List.map Instruction.safe) Value.jsonSafe
    tenantId := r.tenantId.jsonSafe
    description := r.description.jsonSafe }

theorem fieldOf_entriesSafe (entries : List (String × Value)) (key : String) :
    fieldOf (Value.entriesSafe entries) key = (fieldOf entries key).jsonSafe :=
  Value.getD_lookup_entriesSafe key entries Value.jsonSafe_null

/-- Making safe does not change a stamp. -/
theorem stampOf?_jsonSafe (now : Timestamp) (ruleId : Value) (key : String) (v : Value) :
    stampOf? now ruleId key v.jsonSafe = stampOf? now ruleId key v := by
  cases v with
  | float x =>
      rw [Value.jsonSafe]
      split <;> rfl
  | _ => rfl

/-- A priority that passes is carried. -/
theorem isCarried_of_checkPriority {ruleId v : Value} (h : checkPriority ruleId v = .ok ()) :
    v.isCarried = true := by
  cases v with
  | float x =>
      simp only [checkPriority] at h
      split at h
      · assumption
      · cases h
  | int n => rfl
  | _ => cases h

theorem actionsOf?_jsonSafe {ruleId v : Value} {written : List Value}
    (h : actionsOf? ruleId v = .ok written) :
    actionsOf? ruleId v.jsonSafe = .ok (written.map Value.jsonSafe) := by
  cases htruthy : v.isTruthy with
  | false =>
      have hnone : actionsOf? ruleId v = .ok [] := by
        rw [actionsOf?, Value.orElse, htruthy]
        rfl
      obtain rfl := Except.ok.inj (hnone.symm.trans h)
      rw [Value.jsonSafe_of_isCarried v (Value.isCarried_of_not_truthy htruthy)]
      exact hnone
  | true =>
      rw [actionsOf?, Value.orElse, if_pos htruthy] at h
      cases v with
      | list items =>
          obtain rfl := Except.ok.inj h
          rw [Value.jsonSafe_list]
          exact actionsOf?_list _ _
      | _ => cases h

theorem missingFields_eq {entries entries' : List (String × Value)}
    (hid : fieldOf entries "id" = fieldOf entries' "id")
    (hname : fieldOf entries "name" = fieldOf entries' "name") :
    missingFields entries = missingFields entries' := by
  simp only [missingFields, requiredFields, List.filter_cons, List.filter_nil, hid, hname]

/-- The fields that reading looks into, apart from the priority. -/
def decisiveFields : List String := ["id", "name", "trigger_event", "is_active"]

section DecisiveFields

variable {entries : List (String × Value)}
  (hcarried : ∀ key ∈ decisiveFields, ∀ v, Value.lookup key entries = some v → v.isCarried = true)

include hcarried

theorem lookup_decisive (key : String) (hkey : key ∈ decisiveFields) :
    Value.lookup key (Value.entriesSafe entries) = Value.lookup key entries := by
  rw [Value.lookup_entriesSafe]
  cases hlookup : Value.lookup key entries with
  | none => rfl
  | some v => exact congrArg some (Value.jsonSafe_of_isCarried v (hcarried key hkey v hlookup))

theorem fieldOf_decisive (key : String) (hkey : key ∈ decisiveFields) :
    fieldOf (Value.entriesSafe entries) key = fieldOf entries key := by
  rw [fieldOf, lookup_decisive hcarried key hkey, fieldOf]

/-- What is assembled from entries that were made safe is the rule that was made safe. -/
theorem assembled_entriesSafe
    (hgiven : givenPriority (Value.entriesSafe entries) = givenPriority entries)
    (created updated : Timestamp) (condition : Option Condition) (actions : List Action) :
    assembled (Value.entriesSafe entries) created updated (condition.map Condition.safe)
        (actions.map Action.safe) =
      (assembled entries created updated condition actions).safe := by
  have hid := fieldOf_decisive hcarried "id" (by decide)
  have hname := fieldOf_decisive hcarried "name" (by decide)
  have htrigger := fieldOf_decisive hcarried "trigger_event" (by decide)
  have hactive := lookup_decisive hcarried "is_active" (by decide)
  have hinstructions : (actions.map Action.safe).map Instruction.typed =
      (actions.map Instruction.typed).map Instruction.safe := by
    rw [List.map_map, List.map_map]
    rfl
  simp only [assembled, safe, hid, hname, htrigger, hgiven, hactive, hinstructions,
    fieldOf_entriesSafe, Value.getD_lookup_entriesSafe _ _ (Value.jsonSafe_text _), defaultKind,
    RuleKind.ofValue_jsonSafe, Guard.safe, Sum.map_inl]

end DecisiveFields

/-- **Reading a rule goes along with making safe**, when the fields that reading looks into are free
of infinities and NaNs. -/
theorem ofValue?_jsonSafe {now : Timestamp} {d : Value} {r : Rule} (h : ofValue? now d = .ok r)
    (hcarried : ∀ key ∈ decisiveFields, ∀ v, d.get? key = some v → v.isCarried = true) :
    ofValue? now d.jsonSafe = .ok r.safe := by
  obtain ⟨entries, rfl, hentries⟩ := ofValue?_eq_ok_iff.mp h
  obtain ⟨hmissing, hwritable, written, created, updated, condition, actions, hwritten, hpriority,
    hcreated, hupdated, hcondition, hactions, rfl⟩ := ofEntries?_eq_ok_iff.mp hentries
  have hid := fieldOf_decisive hcarried "id" (by decide)
  have hname := fieldOf_decisive hcarried "name" (by decide)
  have hgiven : givenPriority (Value.entriesSafe entries) = givenPriority entries := by
    rw [givenPriority, Value.getD_lookup_entriesSafe _ _ rfl]
    exact Value.jsonSafe_of_isCarried _ (isCarried_of_checkPriority hpriority)
  refine ofValue?_eq_ok_iff.mpr ⟨Value.entriesSafe entries, rfl, ofEntries?_eq_ok_iff.mpr ⟨?_, ?_,
    written.map Value.jsonSafe, created, updated, condition.map Condition.safe,
    actions.map Action.safe, ?_, ?_, ?_, ?_, ?_, ?_, ?_⟩⟩
  · rw [missingFields_eq hid hname]
    exact hmissing
  · rw [hid]
    exact hwritable
  · rw [hid, fieldOf_entriesSafe]
    exact actionsOf?_jsonSafe hwritten
  · rw [hid, hgiven]
    exact hpriority
  · rw [hid, fieldOf_entriesSafe, stampOf?_jsonSafe]
    exact hcreated
  · rw [hid, fieldOf_entriesSafe, stampOf?_jsonSafe]
    exact hupdated
  · rw [fieldOf_entriesSafe]
    exact Condition.ofValue?_jsonSafe hcondition
  · rw [mapM_eq_ok_iff, List.forall₂_map_left_iff, List.forall₂_map_right_iff]
    exact (mapM_eq_ok_iff.mp hactions).imp fun _ _ => Action.ofValue?_jsonSafe
  · exact assembled_entriesSafe hcarried hgiven created updated condition actions

end Rule

end Rulebook
