import Rulebook.Proofs.Condition
import Rulebook.Proofs.Reading
import Rulebook.Proofs.Timestamp

/-!
# What Is Written Is Read Again

Conditions, actions and rules are written as mappings in which a field that was not given has no
entry, and reading puts its default in its place. Whatever was read is written so that it is read
again: the operators, kinds and operations that are not known stay as they were, and so do fields
that are `null` beside fields that are absent.

## Main definitions

* `Condition.Restores`, `Action.Restores`: what is written reads as what it was written from.
* `Rule.IsRestorable`: every part of a rule reads as it was written.

## Main results

* `Condition.restores_node`: a node restores when its operator and its children do.
* `Condition.restores_of_readTo?`, `Action.restores_of_ofValue?`: what was read restores.
* `Rule.IsRestorable.ofValue?_toValue`: a restorable rule is read as it was written.
* `Rule.isRestorable_of_ofValue?`: a rule that was read is restorable.
-/

namespace Rulebook

namespace Value

/-- The first entry of a key is looked for in the first entries, then in the others. -/
theorem lookup_append (key : String) (es fs : List (String × Value)) :
    lookup key (es ++ fs) = (lookup key es).or (lookup key fs) := by
  induction es with
  | nil => rfl
  | cons e rest ih =>
      obtain ⟨k, v⟩ := e
      rw [List.cons_append, lookup, lookup, ih]
      split <;> rfl

theorem lookup_cons_self (key : String) (v : Value) (rest : List (String × Value)) :
    lookup key ((key, v) :: rest) = some v := by
  rw [lookup, if_pos rfl]

theorem lookup_cons_of_ne {key k : String} (h : k ≠ key) (v : Value)
    (rest : List (String × Value)) : lookup key ((k, v) :: rest) = lookup key rest := by
  rw [lookup, if_neg h]

end Value

/-! ### Conditions -/

namespace Condition

theorem lookup_unlessNull (key : String) (v : Value) :
    (Value.lookup key (unlessNull key v)).getD .null = v := by
  rw [unlessNull]
  cases v with
  | null => rfl
  | _ => simp [Value.isNull, Value.lookup]

theorem lookup_unlessNull_of_ne {key k : String} (h : k ≠ key) (v : Value) :
    Value.lookup key (unlessNull k v) = none := by
  rw [unlessNull]
  split
  · rfl
  · rw [Value.lookup_cons_of_ne h]
    rfl

theorem lookup_unlessAbsent (key : String) (v : Value) :
    (Value.lookup key (unlessAbsent key v)).getD .absent = v := by
  rw [unlessAbsent]
  cases v with
  | absent => rfl
  | _ => simp [Value.isAbsent, Value.lookup]

theorem lookup_unlessAbsent_of_ne {key k : String} (h : k ≠ key) (v : Value) :
    Value.lookup key (unlessAbsent k v) = none := by
  rw [unlessAbsent]
  split
  · rfl
  · rw [Value.lookup_cons_of_ne h]
    rfl

theorem lookup_childrenEntry_of_ne {key : String} (h : "conditions" ≠ key)
    (children : Option (List Condition)) : Value.lookup key (childrenEntry children) = none := by
  cases children with
  | none => rfl
  | some cs =>
      rw [childrenEntry, Value.lookup_cons_of_ne h]
      rfl

theorem toValues_eq_map (cs : List Condition) : toValues cs = cs.map toValue := by
  induction cs with
  | nil => rfl
  | cons c rest ih => rw [toValues, ih, List.map_cons]

/-- The entries of a node, as they are written. -/
def written (op : Operator) (field value : Value) (children : Option (List Condition)) :
    List (String × Value) :=
  ("operator", op.toValue) ::
    (unlessNull "field" field ++ unlessAbsent "value" value ++ childrenEntry children)

section Entries

variable (op : Operator) (field value : Value) (children : Option (List Condition))

theorem lookup_operator : Value.lookup "operator" (written op field value children) =
    some op.toValue := Value.lookup_cons_self _ _ _

theorem lookup_field : (Value.lookup "field" (written op field value children)).getD .null =
    field := by
  rw [written, Value.lookup_cons_of_ne (by decide), Value.lookup_append, Value.lookup_append,
    lookup_unlessAbsent_of_ne (by decide), lookup_childrenEntry_of_ne (by decide), Option.or_none,
    Option.or_none, lookup_unlessNull]

theorem lookup_value : (Value.lookup "value" (written op field value children)).getD .absent =
    value := by
  rw [written, Value.lookup_cons_of_ne (by decide), Value.lookup_append, Value.lookup_append,
    lookup_unlessNull_of_ne (by decide), lookup_childrenEntry_of_ne (by decide), Option.or_none,
    Option.none_or, lookup_unlessAbsent]

theorem lookup_conditions : Value.lookup "conditions" (written op field value children) =
    children.map fun cs => .list (cs.map toValue) := by
  rw [written, Value.lookup_cons_of_ne (by decide), Value.lookup_append, Value.lookup_append,
    lookup_unlessNull_of_ne (by decide), lookup_unlessAbsent_of_ne (by decide), Option.or_none,
    Option.none_or]
  cases children with
  | none => rfl
  | some cs =>
      rw [childrenEntry, Value.lookup_cons_self, toValues_eq_map]
      rfl

end Entries

/-- A condition reads as it was written, nested at most so deep. -/
def Restores (depth : Nat) (c : Condition) : Prop := readTo? depth c.toValue = .ok (some c)

/-- **A node reads as it was written when its operator and its children do.** -/
theorem restores_node {depth : Nat} {op : Operator} (hop : Operator.ofValue op.toValue = op)
    (field value : Value) {children : Option (List Condition)}
    (hchildren : ∀ cs ∈ children, ∀ c ∈ cs, Restores depth c) :
    Restores (depth + 1) (node op field value children) := by
  have hentries : ofEntries (written op field value children) op.toValue children =
      node op field value children := by
    rw [ofEntries, hop, lookup_field, lookup_value]
  have hoperator := lookup_operator op field value children
  have hconditions := lookup_conditions op field value children
  rw [Restores, toValue]
  change readTo? (depth + 1) (.mapping (written op field value children)) = _
  refine readTo?_of_readStep ?_
  rw [← hentries]
  cases children with
  | none => exact .childless hoperator (.inl hconditions)
  | some cs =>
      have hkept : (cs.map some).filterMap id = cs := by simp
      have hread : List.Forall₂ (fun item c => readTo? depth item = .ok c) (cs.map toValue)
          (cs.map some) := by
        rw [List.forall₂_map_left_iff, List.forall₂_map_right_iff, List.forall₂_same]
        exact hchildren cs rfl
      have hstep := ReadStep.parent hoperator hconditions hread
      rwa [hkept] at hstep

/-- **A condition that was read reads as it is written**, at the depth it was read at. -/
theorem restores_of_readTo? {depth : Nat} {v : Value} {c : Condition}
    (h : readTo? depth v = .ok (some c)) : Restores depth c := by
  induction depth generalizing v c with
  | zero => cases h
  | succ depth ih =>
      cases readStep_of_readTo? h with
      | childless _ _ =>
          refine restores_node ?_ _ _ ?_
          · rw [Operator.toValue_ofValue]
          · intro cs hcs
            cases hcs
      | @parent entries operator items read _ _ hread =>
          refine restores_node ?_ _ _ ?_
          · rw [Operator.toValue_ofValue]
          · intro cs hcs c hc
            obtain rfl := Option.some.inj hcs
            obtain ⟨r, hr, rfl⟩ := List.mem_filterMap.mp hc
            obtain ⟨item, -, hitem⟩ := exists_of_mem_forall₂ hread hr
            exact ih hitem

/-- An optional condition that was read reads as it is written. -/
theorem ofValue?_optionToValue {v : Value} {c : Option Condition} (h : ofValue? v = .ok c) :
    ofValue? (optionToValue c) = .ok c := by
  cases c with
  | none => rfl
  | some c => exact restores_of_readTo? h

end Condition

/-! ### Actions -/

namespace Action

/-- An action reads as it was written. -/
def Restores (a : Action) : Prop := ofValue? a.toValue = .ok a

theorem lookup_operationEntry (a : Action) :
    (Value.lookup "operation" a.operationEntry).getD .null = a.operationValue := by
  rw [operationEntry, operationValue]
  cases a.operation with
  | none => rfl
  | some op =>
      dsimp only
      rw [Value.lookup_cons_self]
      rfl

theorem lookup_operationEntry_of_ne {key : String} (h : "operation" ≠ key) (a : Action) :
    Value.lookup key a.operationEntry = none := by
  rw [operationEntry]
  cases a.operation with
  | none => rfl
  | some op =>
      dsimp only
      rw [Value.lookup_cons_of_ne h]
      rfl

/-- The entries of an action, as they are written. -/
def written (a : Action) : List (String × Value) :=
  ("type", a.kind.toValue) :: (Condition.unlessAbsent "value" a.value ++
    Condition.unlessNull "field" a.field ++ Condition.unlessNull "message" a.message ++
    Condition.unlessNull "percentage" a.percentage ++ Condition.unlessNull "source" a.source ++
    a.operationEntry)

/-- Every field of an action is read from its entries. -/
theorem ofEntries_written (a : Action) :
    ofEntries a.kind.toValue a.written =
      { a with
        kind := ActionKind.ofValue a.kind.toValue
        operation := operationOf a.operationValue } := by
  simp [ofEntries, written, Value.lookup_cons_of_ne, Value.lookup_append,
    Condition.lookup_unlessNull, Condition.lookup_unlessNull_of_ne, Condition.lookup_unlessAbsent,
    Condition.lookup_unlessAbsent_of_ne, lookup_operationEntry, lookup_operationEntry_of_ne]

/-- **An action reads as it was written when its kind and its operation do.** -/
theorem restores_of_names {a : Action} (hkind : ActionKind.ofValue a.kind.toValue = a.kind)
    (hoperation : operationOf a.operationValue = a.operation) : a.Restores := by
  refine ofValue?_eq_ok_iff.mpr ⟨a.written, a.kind.toValue, rfl, Value.lookup_cons_self _ _ _, ?_⟩
  rw [ofEntries_written, hkind, hoperation]

/-- An operation is written as the value that it was read from. -/
theorem getD_operationOf (v : Value) :
    ((operationOf v).map Aggregation.toValue).getD .null = v := by
  cases v with
  | null => rfl
  | _ => simp [operationOf, Value.isNull]

/-- The operation that a value names is named by what it is written as. -/
theorem operationOf_toValue (v : Value) :
    operationOf (((operationOf v).map Aggregation.toValue).getD .null) = operationOf v := by
  rw [getD_operationOf]

/-- An action that was read reads as it is written. -/
theorem restores_of_ofValue? {v : Value} {a : Action} (h : ofValue? v = .ok a) : a.Restores := by
  obtain ⟨entries, kind, -, -, rfl⟩ := ofValue?_eq_ok_iff.mp h
  refine restores_of_names ?_ ?_
  · rw [ofEntries, ActionKind.toValue_ofValue]
  · exact operationOf_toValue _

end Action

/-! ### What is shown of a value -/

theorem Layout.writeUnits_ne_nil (units : Nat) : plain.writeUnits units ≠ [] := by
  simp only [writeUnits]
  split
  · rw [positional]
    split
    · exact List.cons_ne_nil _ _
    · dsimp only
      split
      · exact List.append_ne_nil_of_right_ne_nil _ (by decide)
      · exact List.append_ne_nil_of_right_ne_nil _ (List.cons_ne_nil _ _)
  · rw [scientific]
    exact List.append_ne_nil_of_right_ne_nil _ (List.cons_ne_nil _ _)

theorem Layout.write_ne_empty (x : Binary64) : plain.write x ≠ "" := by
  cases x with
  | nan => decide
  | infinite s => cases s <;> decide
  | finite s m =>
      rw [write, Ne, String.ofList_eq_empty_iff]
      split
      · exact List.cons_ne_nil _ _
      · split
        · exact List.cons_ne_nil _ _
        · exact writeUnits_ne_nil m.units

namespace Value

theorem plain_int (n : Int) : (int n).plain = n.repr := rfl

theorem plain_list (items : List Value) :
    (list items).plain = "[" ++ ", ".intercalate (inspectItems items) ++ "]" := rfl

theorem plain_mapping (entries : List (String × Value)) :
    (mapping entries).plain =
      "\x7b" ++ ", ".intercalate (inspectEntries entries) ++ "\x7d" := rfl

/-- An integer is not shown as an empty text. -/
theorem repr_int_ne_empty (n : Int) : n.repr ≠ "" := by
  cases n with
  | ofNat m =>
      intro hm
      have hlength := Nat.length_repr_pos (n := m)
      have hempty : m.repr = "" := hm
      rw [hempty] at hlength
      exact absurd hlength (by decide)
  | negSucc m => exact fun hm => absurd (String.append_eq_empty_iff.mp hm).1 (by decide)

/-- What counts as given is not shown as an empty text. -/
theorem plain_ne_empty {v : Value} (h : v.isTruthy = true) : v.plain ≠ "" := by
  cases v with
  | absent => cases h
  | null => cases h
  | bool b => cases b <;> decide
  | int n =>
      rw [plain_int]
      exact repr_int_ne_empty n
  | float x => exact Layout.write_ne_empty x
  | text s =>
      rintro rfl
      cases h
  | timestamp t =>
      rw [plain, Timestamp.isoText, Ne, String.ofList_eq_empty_iff]
      simp
  | list items =>
      rw [plain_list]
      exact fun hs => absurd (String.append_eq_empty_iff.mp hs).2 (by decide)
  | mapping entries =>
      rw [plain_mapping]
      exact fun hs => absurd (String.append_eq_empty_iff.mp hs).2 (by decide)

end Value

/-! ### Rules -/

/-- A text without a character stays as it is when that character is replaced. -/
theorem Text.replace_of_forall_ne {c : Char} {by' cs : List Char} (h : ∀ d ∈ cs, d ≠ c) :
    replace c by' cs = cs := by
  induction cs with
  | nil => rfl
  | cons d rest ih =>
      obtain ⟨hd, hrest⟩ := List.forall_mem_cons.mp h
      rw [replace] at ih ⊢
      rw [List.flatMap_cons, if_neg hd, ih hrest]
      rfl

namespace Rule

/-- A restorable stamp reads as it is written. -/
theorem readStamp?_isoText {t : Timestamp} (h : t.IsRestorable) :
    readStamp? (t.isoText 'T') = some t := by
  rw [readStamp?, Text.replace_of_forall_ne fun _ hc => Timestamp.ne_of_mem_isoText hc]
  exact Timestamp.read?_isoText h

/-- Every part of a rule reads as it was written. -/
structure IsRestorable (r : Rule) : Prop where
  id : ∃ s, r.id = .text s ∧ s ≠ ""
  name : r.name.isTruthy = true
  kind : RuleKind.ofValue r.kind.toValue = r.kind
  trigger : r.trigger.isTruthy = true
  guard : ∃ c, r.guard = .typed c ∧ Condition.ofValue? (Condition.optionToValue c) = .ok c
  actions : ∃ as : List Action, r.actions = .inl (as.map .typed) ∧ ∀ a ∈ as, a.Restores
  priority : checkPriority r.id r.priority = .ok ()
  active : ∃ b, r.active = .bool b
  created : r.created.IsRestorable
  updated : r.updated.IsRestorable

/-- The entries of a rule, as they are written. -/
def written (r : Rule) : List (String × Value) := [
  ("id", r.id),
  ("tenant_id", r.tenantId),
  ("name", r.name),
  ("description", r.description),
  ("rule_type", r.kind.toValue),
  ("trigger_event", r.trigger),
  ("conditions", r.guard.toValue),
  ("actions", actionsToValue r.actions),
  ("priority", r.priority),
  ("is_active", r.active),
  ("created_at", .text (r.created.isoText 'T')),
  ("updated_at", .text (r.updated.isoText 'T'))]

theorem actionsOf?_list (ruleId : Value) (items : List Value) :
    actionsOf? ruleId (.list items) = .ok items := by
  cases items with
  | nil => rfl
  | cons v rest => rfl

/-- A stamp that was written is read. -/
theorem stampOf?_isoText {t : Timestamp} (h : t.IsRestorable) (now : Timestamp) (ruleId : Value)
    (key : String) : stampOf? now ruleId key (.text (t.isoText 'T')) = .ok t := by
  simp only [stampOf?]
  rw [readStamp?_isoText h]

/-- What is assembled from the entries of a restorable rule is the rule. -/
theorem IsRestorable.assembled_written {r : Rule} (h : r.IsRestorable) {c : Option Condition}
    {actions : List Action} (hguard : r.guard = .typed c)
    (hactions : r.actions = .inl (actions.map .typed)) :
    assembled r.written r.created r.updated c actions = r := by
  obtain ⟨id, hid, -⟩ := h.id
  obtain ⟨active, hactive⟩ := h.active
  have htrigger : r.trigger.orElse defaultTrigger = r.trigger := by
    rw [Value.orElse, if_pos h.trigger]
  have hkind := h.kind
  obtain ⟨rid, name, kind, trigger, guard, as, priority, ractive, tenantId, description, created,
    updated⟩ := r
  dsimp only at hid hactive hguard hactions htrigger hkind
  subst hid hactive hguard hactions
  simp [assembled, givenPriority, fieldOf, written, Value.lookup, Value.plain, htrigger, hkind]

/-- **A restorable rule is read as it was written.** -/
theorem IsRestorable.ofValue?_toValue {r : Rule} (h : r.IsRestorable) (now : Timestamp) :
    ofValue? now r.toValue = .ok r := by
  obtain ⟨id, hid, hnonempty⟩ := h.id
  obtain ⟨condition, hguard, hcondition⟩ := h.guard
  obtain ⟨actions, hactions, hrestores⟩ := h.actions
  have hidField : fieldOf r.written "id" = r.id := by simp [fieldOf, written, Value.lookup]
  have hnameField : fieldOf r.written "name" = r.name := by simp [fieldOf, written, Value.lookup]
  have hactionsField : fieldOf r.written "actions" = .list (actions.map Action.toValue) := by
    simp [fieldOf, written, Value.lookup, hactions, actionsToValue, Instruction.toValue]
  have hconditionField : fieldOf r.written "conditions" = Condition.optionToValue condition := by
    simp [fieldOf, written, Value.lookup, hguard, Guard.toValue]
  have hpriority : givenPriority r.written = r.priority := by
    simp [givenPriority, written, Value.lookup]
  have hcreated : fieldOf r.written "created_at" = .text (r.created.isoText 'T') := by
    simp [fieldOf, written, Value.lookup]
  have hupdated : fieldOf r.written "updated_at" = .text (r.updated.isoText 'T') := by
    simp [fieldOf, written, Value.lookup]
  have hmissing : missingFields r.written = [] := by
    have htruthy : r.id.isTruthy = true := by
      rw [hid, Value.isTruthy, String.isEmpty_eq_false_iff.mpr hnonempty]
      rfl
    simp [missingFields, requiredFields, hidField, hnameField, htruthy, h.name]
  have hread : (actions.map Action.toValue).mapM Action.ofValue? = .ok actions := by
    rw [mapM_eq_ok_iff, List.forall₂_map_left_iff, List.forall₂_same]
    exact hrestores
  have hlong : (fieldOf r.written "id").isWritable = true := by
    rw [hidField, hid]
    rfl
  refine ofValue?_eq_ok_iff.mpr ⟨r.written, rfl, ofEntries?_eq_ok_iff.mpr ⟨hmissing, hlong, ?_⟩⟩
  rw [hidField, hactionsField, hconditionField, hpriority, hcreated, hupdated]
  exact ⟨actions.map Action.toValue, r.created, r.updated, condition, actions,
    actionsOf?_list _ _, h.priority, stampOf?_isoText h.created now _ _,
    stampOf?_isoText h.updated now _ _, hcondition, hread, h.assembled_written hguard hactions⟩

/-! ### Rules that were read -/

/-- The stamps that a definition gives as timestamps are restorable. -/
def HasRestorableStamps (d : Value) : Prop :=
  ∀ key ∈ ["created_at", "updated_at"], ∀ t, d.get? key = some (.timestamp t) → t.IsRestorable

/-- A stamp that was read is restorable, when the present moment and a given timestamp are. -/
theorem isRestorable_of_stampOf? {now t : Timestamp} {ruleId v : Value} {key : String}
    (hnow : now.IsRestorable) (hgiven : ∀ u, v = .timestamp u → u.IsRestorable)
    (h : stampOf? now ruleId key v = .ok t) : t.IsRestorable := by
  simp only [stampOf?] at h
  split at h
  · obtain rfl := Except.ok.inj h
    exact hgiven _ rfl
  · split at h
    · obtain rfl := Except.ok.inj h
      exact Timestamp.isRestorable_of_read? ‹_›
    · cases h
  · obtain rfl := Except.ok.inj h
    exact hnow

/-- A given timestamp among the entries of a definition is restorable. -/
theorem HasRestorableStamps.fieldOf {entries : List (String × Value)}
    (h : HasRestorableStamps (.mapping entries)) {key : String}
    (hkey : key ∈ ["created_at", "updated_at"]) {t : Timestamp}
    (ht : Rule.fieldOf entries key = .timestamp t) : t.IsRestorable := by
  rw [Rule.fieldOf] at ht
  cases hlookup : Value.lookup key entries with
  | none =>
      rw [hlookup] at ht
      cases ht
  | some v =>
      rw [hlookup, Option.getD_some] at ht
      exact h key hkey t (hlookup.trans (congrArg some ht))

/-- A value that is written in the place of one that does not count as given counts as given. -/
theorem isTruthy_orElse {v w : Value} (hw : w.isTruthy = true) : (v.orElse w).isTruthy = true := by
  rw [Value.orElse]
  split
  · assumption
  · exact hw

/-- The required fields are given when none is missing. -/
theorem isTruthy_of_missingFields {entries : List (String × Value)}
    (h : missingFields entries = []) : ∀ key ∈ requiredFields,
      (Rule.fieldOf entries key).isTruthy = true := by
  intro key hkey
  have hgiven := List.filter_eq_nil_iff.mp h key hkey
  simpa using hgiven

/-- **A rule that was read is restorable.** -/
theorem isRestorable_of_ofValue? {now : Timestamp} {d : Value} {r : Rule}
    (h : ofValue? now d = .ok r) (hnow : now.IsRestorable) (hgiven : HasRestorableStamps d) :
    r.IsRestorable := by
  obtain ⟨entries, rfl, hentries⟩ := ofValue?_eq_ok_iff.mp h
  obtain ⟨hmissing, -, written, created, updated, condition, actions, -, hpriority, hcreated,
    hupdated, hcondition, hactions, rfl⟩ := ofEntries?_eq_ok_iff.mp hentries
  have hid := isTruthy_of_missingFields hmissing "id" (by decide)
  have hname := isTruthy_of_missingFields hmissing "name" (by decide)
  exact {
    id := ⟨_, rfl, Value.plain_ne_empty hid⟩
    name := hname
    kind := by rw [assembled, RuleKind.toValue_ofValue]
    trigger := isTruthy_orElse rfl
    guard := ⟨condition, rfl, Condition.ofValue?_optionToValue hcondition⟩
    actions := by
      refine ⟨actions, rfl, fun a ha => ?_⟩
      obtain ⟨v, -, hv⟩ := exists_of_mem_forall₂ (mapM_eq_ok_iff.mp hactions) ha
      exact Action.restores_of_ofValue? hv
    priority := checkPriority_eq_ok_iff.mpr (checkPriority_eq_ok_iff.mp hpriority)
    active := ⟨_, rfl⟩
    created := isRestorable_of_stampOf? hnow (fun _ => hgiven.fieldOf (by decide)) hcreated
    updated := isRestorable_of_stampOf? hnow (fun _ => hgiven.fieldOf (by decide)) hupdated }

end Rule

end Rulebook
