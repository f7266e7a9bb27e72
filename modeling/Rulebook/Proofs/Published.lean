import Rulebook.Proofs.Answers
import Rulebook.Proofs.Told

/-!
# Published Definitions

A tenant who asks for a template is answered with a definition, and may ask for its evaluation. What
is evaluated then is the rule that the template made, with `null` for every infinity and NaN, for
these cannot be sent. In a value that is only written under a field this makes no difference to
what is told. But a rule decides otherwise when it compares with a `null`, which counts as zero, in
the place of an infinity, or when a fee lost its percentage. And what is told has to be written: a
sum may be too long for that.

## Main definitions

* `Action.IsNamed`, `Draft.IsNamed`: what is named is named by texts.
* `Rule.isPublishable`: a rule decides by what JSON carries.
* `Request.Posts`: a request asks for the evaluation of a definition.

## Main results

* `Action.toldAlike_safe`: an action and what was made safe of it are told alike.
* `Template.isNamed_of_mem_catalogue`: the drafts of all templates name by texts.
* `respond_published`: a definition is evaluated as the rule that was made safe, and as the rule
  itself when it is publishable.
-/

namespace Rulebook

open Service (isText)

/-! ### Actions that name by texts -/

/-- Is a value a name: a text, or `null` where there is none? -/
def Value.isName (v : Value) : Bool := v.isNull || isText v

theorem Value.isText_of_isName {v : Value} (h : v.isName = true) (htruthy : v.isTruthy = true) :
    isText v = true := by
  cases v with
  | null => cases htruthy
  | _ => exact h

/-- A name is safe as it is. -/
theorem Value.jsonSafe_of_isName {v : Value} (h : v.isName = true) : v.jsonSafe = v := by
  cases v with
  | null => rfl
  | text s => rfl
  | _ => cases h

/-- A kind that is written as a text is safe as it is. -/
theorem ActionKind.safe_of_isText {kind : ActionKind} (h : isText kind.toValue = true) :
    kind.safe = kind := by
  cases kind with
  | other written =>
      obtain ⟨s, rfl⟩ := Service.isText_eq_true_iff.mp h
      rfl
  | _ => rfl

namespace Action

/-- What an action names is named by texts: its kind, its field, its message, its operation with the
source, and the workflow that it triggers. -/
structure IsNamed (a : Action) : Prop where
  kind : isText a.kind.toValue = true
  field : a.field.isName = true
  message : a.message.isName = true
  source : a.source.isName = true
  operation : a.operationValue.isName = true ∧ operationOf a.operationValue = a.operation
  workflow : a.kind = .triggerWorkflow → isText a.value = true

@[simp] theorem isNamed_setField (field : String) (value : Value) :
    (setField (.text field) value).IsNamed :=
  ⟨rfl, rfl, rfl, rfl, ⟨rfl, rfl⟩, fun h => nomatch h⟩

@[simp] theorem isNamed_addFee (field : String) (percentage fixed : Value) :
    (addFee (.text field) percentage fixed).IsNamed :=
  ⟨rfl, rfl, rfl, rfl, ⟨rfl, rfl⟩, fun h => nomatch h⟩

@[simp] theorem isNamed_reportError (message : String) : (reportError (.text message)).IsNamed :=
  ⟨rfl, rfl, rfl, rfl, ⟨rfl, rfl⟩, fun h => nomatch h⟩

@[simp] theorem isNamed_aggregate (field operation source : String) :
    (aggregate (.text field) (.text operation) (.text source)).IsNamed := by
  have hvalue : (aggregate (.text field) (.text operation) (.text source)).operationValue =
      .text operation := getD_operationOf (.text operation)
  refine ⟨rfl, rfl, rfl, rfl, ?_, fun h => nomatch h⟩
  rw [hvalue]
  exact ⟨rfl, rfl⟩

@[simp] theorem isNamed_notify (message : String) : (notify (.text message)).IsNamed :=
  ⟨rfl, rfl, rfl, rfl, ⟨rfl, rfl⟩, fun h => nomatch h⟩

@[simp] theorem isNamed_triggerWorkflow (workflow : String) :
    (triggerWorkflow (.text workflow)).IsNamed :=
  ⟨rfl, rfl, rfl, rfl, ⟨rfl, rfl⟩, fun _ => rfl⟩

variable {a : Action} {context : Value}

/-- Making an action safe that names by texts changes its value and its percentage alone. -/
theorem IsNamed.safe_eq (h : a.IsNamed) :
    a.safe = { a with value := a.value.jsonSafe, percentage := a.percentage.jsonSafe } := by
  have hoperation : operationOf a.operationValue.jsonSafe = a.operation := by
    rw [Value.jsonSafe_of_isName h.operation.1, h.operation.2]
  simp only [safe, ActionKind.safe_of_isText h.kind, Value.jsonSafe_of_isName h.field,
    Value.jsonSafe_of_isName h.message, Value.jsonSafe_of_isName h.source, hoperation]

theorem map_orFail {α β : Type} (f : α → β) (x : Except Fault α) :
    (Fault.orFail x).map f = Fault.orFail (x.map f) := by
  cases x <;> rfl

theorem told_writing (key value : Value) :
    (writing key value.jsonSafe).map Effect.told = (writing key value).map Effect.told := by
  rw [writing, writing]
  cases key.hashable with
  | error f => rfl
  | ok _ =>
      exact congrArg (fun v => (.ok (.write key v) : Except Fault Effect))
        (Value.jsonSafe_jsonSafe value)

/-- What an action does is told alike when its value was made safe, unless it triggers what the
value names. -/
theorem told_effect_value (a : Action)
    (hworkflow : a.kind = .triggerWorkflow → isText a.value = true) (context : Value) :
    (({ a with value := a.value.jsonSafe } : Action).effect context).map Effect.told =
      (a.effect context).map Effect.told := by
  rw [effect, effect]
  cases hkind : a.kind with
  | setField =>
      dsimp only
      rw [Value.isAbsent_jsonSafe]
      split
      · exact told_writing _ _
      · rfl
  | addFee =>
      dsimp only
      rw [feeEffect, feeEffect]
      dsimp only
      rw [Value.isAbsent_jsonSafe]
      split
      · rfl
      · split
        · rfl
        · exact told_writing _ _
  | triggerWorkflow =>
      obtain ⟨workflow, hvalue⟩ := Service.isText_eq_true_iff.mp (hworkflow hkind)
      dsimp only
      rw [hvalue, Value.jsonSafe_text]
  | error | aggregate | notify | other _ => rfl

/-- An action can be written when all that stands in it can. -/
theorem isWritable_toValue (a : Action) :
    a.toValue.isWritable = (a.kind.toValue.isWritable && a.value.isWritable && a.field.isWritable &&
      a.message.isWritable && a.percentage.isWritable && a.source.isWritable &&
      a.operationValue.isWritable) := by
  have hnull : ∀ key v, Value.entriesWritable (Condition.unlessNull key v) = v.isWritable := by
    intro key v
    rw [Condition.unlessNull]
    cases v <;> simp [Value.isNull, Value.entriesWritable]
  have habsent : ∀ key v, Value.entriesWritable (Condition.unlessAbsent key v) = v.isWritable := by
    intro key v
    rw [Condition.unlessAbsent]
    cases v <;> simp [Value.isAbsent, Value.entriesWritable, Value.isWritable]
  have hoperation : Value.entriesWritable a.operationEntry = a.operationValue.isWritable := by
    rw [operationEntry, operationValue]
    cases a.operation <;> simp [Value.entriesWritable]
  rw [toValue, Value.isWritable]
  simp only [Value.entriesWritable, Value.entriesWritable_append, hnull, habsent, hoperation,
    Bool.and_assoc]

theorem IsNamed.isWritable_toValue_safe (h : a.IsNamed) :
    a.safe.toValue.isWritable = a.toValue.isWritable := by
  rw [h.safe_eq, isWritable_toValue, isWritable_toValue]
  simp only [Value.isWritable_jsonSafe]
  rfl

/-- The label of an action that names by texts can be written. -/
theorem IsNamed.isWritable_kindValue (h : a.IsNamed) :
    (Instruction.typed a).kindValue.isWritable = true := by
  obtain ⟨s, hs⟩ := Service.isText_eq_true_iff.mp h.kind
  rw [Instruction.kindValue, hs]
  rfl

theorem IsNamed.isWritable_kindValue_safe (h : a.IsNamed) :
    (Instruction.typed a.safe).kindValue.isWritable = true := by
  rw [h.safe_eq]
  exact h.isWritable_kindValue

/-- **An action and what was made safe of it are told alike**, when it names by texts and its
percentage is free of infinities and NaNs. -/
theorem toldAlike_safe (h : a.IsNamed) (hpercentage : a.percentage.isCarried = true) :
    (Instruction.typed a).ToldAlike context (.typed a.safe) := by
  rw [h.safe_eq, Value.jsonSafe_of_isCarried _ hpercentage]
  refine ⟨rfl, ?_⟩
  change (Fault.orFail _).map Effect.told = (Fault.orFail _).map Effect.told
  rw [map_orFail, map_orFail, told_effect_value a h.workflow context]

/-- An action that names by texts deals in texts. -/
theorem isTextual_typed (hfield : a.field.isName = true) (hmessage : a.message.isName = true) :
    (Instruction.typed a).isTextual context = true := by
  have heffect : (Instruction.typed a).effect context = Fault.orFail (a.effect context) := rfl
  rw [Instruction.isTextual, heffect]
  cases hresult : a.effect context with
  | error f => rfl
  | ok e =>
      cases does_of_effect hresult with
      | report _ hgiven => exact Value.isText_of_isName hmessage hgiven
      | write _ =>
          change isText (a.field.orElse defaultFeeField) = true
          rw [Value.orElse]
          split
          · exact Value.isText_of_isName hfield ‹_›
          · rfl
      | _ => rfl

theorem IsNamed.isTextual_safe (h : a.IsNamed) :
    (Instruction.typed a.safe).isTextual context = true := by
  rw [h.safe_eq]
  exact isTextual_typed h.field h.message

end Action

/-! ### Rules of templates -/

/-- What a draft names is named by texts. -/
structure Draft.IsNamed (d : Draft) : Prop where
  trigger : isText d.trigger = true
  actions : ∃ as : List Action, d.actions = as.map .typed ∧ ∀ a ∈ as, a.IsNamed

/-- **The drafts of all templates name by texts**, whatever the arguments are. -/
theorem Template.isNamed_of_mem_catalogue {t : Template} (ht : t ∈ catalogue) {b : Bound Value}
    {d : Draft} (hd : t.draft b = .ok d) : d.IsNamed := by
  simp only [catalogue, List.mem_cons, List.not_mem_nil, or_false] at ht
  rcases ht with rfl | rfl | rfl | rfl | rfl | rfl | rfl | rfl | rfl | rfl | rfl | rfl | rfl | rfl
  -- A template may first write its arguments, and the last one asks for the items of its argument.
  all_goals
    repeat obtain ⟨_, -, hd⟩ := bind_eq_ok_iff.mp hd
    obtain rfl := Except.ok.inj hd
    exact ⟨rfl, _, rfl, by simp⟩

/-- Is the percentage of an instruction free of infinities and NaNs? -/
def Instruction.percentageCarried : Instruction → Bool
  | typed a => a.percentage.isCarried
  | written v => v.isCarried

namespace Rule

/-- Does a rule decide by what JSON carries? Its condition and the percentages of its fees are free
of infinities and NaNs. -/
def isPublishable (r : Rule) : Bool :=
  r.guard.toValue.isCarried &&
    match r.actions with
    | .inl is => is.all Instruction.percentageCarried
    | .inr v => v.isCarried

/-- A rule that a template makes. -/
structure IsMade (r : Rule) : Prop where
  restorable : r.IsRestorable
  trigger : r.trigger.isCarried = true
  name : r.name.isCarried = true
  actions : ∃ as : List Action, r.actions = .inl (as.map .typed) ∧ ∀ a ∈ as, a.IsNamed

theorem isMade_of_instantiate? {now : Timestamp} {category name : Value} {positional : List Value}
    {named : List (String × Value)} {r : Rule}
    (h : Template.instantiate? now category name positional named = .ok r)
    (hnow : now.IsRestorable) : r.IsMade := by
  have hrestorable := Template.isRestorable_of_instantiate? h hnow
  obtain ⟨t, ht, b, d, hd, rfl⟩ := Template.exists_made_of_instantiate? h
  obtain ⟨htrigger, as, has, hnamed⟩ := Template.isNamed_of_mem_catalogue ht hd
  obtain ⟨trigger, hd⟩ := Service.isText_eq_true_iff.mp htrigger
  refine ⟨hrestorable, ?_, rfl, as, congrArg Sum.inl has, hnamed⟩
  change (d.trigger.orElse defaultTrigger).isCarried = true
  rw [hd, Value.orElse]
  split <;> rfl

variable {r : Rule} {context : Value}

/-- **A definition that was published is read as the rule that was made safe.** -/
theorem IsMade.ofValue?_jsonSafe (h : r.IsMade) (now : Timestamp) :
    ofValue? now r.toValue.jsonSafe = .ok r.safe := by
  refine Rule.ofValue?_jsonSafe (h.restorable.ofValue?_toValue now) ?_
  obtain ⟨id, hid, -⟩ := h.restorable.id
  obtain ⟨active, hactive⟩ := h.restorable.active
  intro key hkey v hv
  simp only [decisiveFields, List.mem_cons, List.not_mem_nil, or_false] at hkey
  rcases hkey with rfl | rfl | rfl | rfl
  · obtain rfl : r.id = v := Option.some.inj hv
    rw [hid]
    rfl
  · obtain rfl : r.name = v := Option.some.inj hv
    exact h.name
  · obtain rfl : r.trigger = v := Option.some.inj hv
    exact h.trigger
  · obtain rfl : r.active = v := Option.some.inj hv
    rw [hactive]
    rfl

/-- The instructions of a rule that was made safe. -/
theorem actions_safe {as : List Action} (h : r.actions = .inl (as.map .typed)) :
    r.safe.actions = .inl (as.map fun a => .typed a.safe) := by
  rw [safe, h, Sum.map_inl, List.map_map]
  rfl

theorem instructions?_safe {as : List Action} (h : r.actions = .inl (as.map .typed)) :
    r.safe.instructions? = .ok (as.map fun a => .typed a.safe) := by
  rw [instructions?, actions_safe h]

/-- A rule whose actions name by texts is labelled in every context. -/
theorem isLabelled_of_isNamed {as : List Action} (h : r.actions = .inl (as.map .typed))
    (hnamed : ∀ a ∈ as, a.IsNamed) (context : Value) : r.IsLabelled context := by
  intro _
  rw [instructions?, h]
  exact List.forall_mem_map.mpr fun a ha => (hnamed a ha).isWritable_kindValue

theorem IsMade.isLabelled (h : r.IsMade) (context : Value) : r.IsLabelled context := by
  obtain ⟨as, has, hnamed⟩ := h.actions
  exact isLabelled_of_isNamed has hnamed context

theorem IsMade.isLabelled_safe (h : r.IsMade) (context : Value) : r.safe.IsLabelled context := by
  obtain ⟨as, has, hnamed⟩ := h.actions
  intro _
  rw [instructions?_safe has]
  exact List.forall_mem_map.mpr fun a ha => (hnamed a ha).isWritable_kindValue_safe

/-- What was made safe of a rule of a template deals in texts. -/
theorem IsMade.isTextual_safe (h : r.IsMade) {result : Result}
    (hresult : r.safe.evaluate (some .silent) context = .ok result) :
    result.outcome.IsTextual := by
  obtain ⟨as, has, hnamed⟩ := h.actions
  rw [(isCarriedOut_of_evaluate hresult).outcome, Outcome.isTextual_ofInstructions]
  rcases evaluate_eq_ok_iff.mp hresult with ⟨-, rfl⟩ | ⟨-, is, his, -, rfl⟩
  · exact List.forall_mem_nil _
  · obtain rfl := Except.ok.inj ((instructions?_safe has).symm.trans his)
    exact List.forall_mem_map.mpr fun a ha => (hnamed a ha).isTextual_safe

/-- What was made safe of a rule of a template has results that can be written as far as their
values can, when the rule can be written. -/
theorem IsMade.isWritable_safe (h : r.IsMade) (hwritable : r.toValue.isWritable = true)
    {result : Result} (hresult : r.safe.evaluate (some .silent) context = .ok result) :
    result.isWritable = decide (Ledger.Writable result.outcome.values.entries) := by
  obtain ⟨as, has, hnamed⟩ := h.actions
  obtain ⟨id, hid, -⟩ := h.restorable.id
  have hactions : ∀ a ∈ as, a.toValue.isWritable = true := by
    simp only [toValue, Value.isWritable, Value.entriesWritable, has, actionsToValue,
      Bool.and_eq_true, Value.itemsWritable_iff, List.map_map, List.forall_mem_map] at hwritable
    tauto
  rcases evaluate_eq_ok_iff.mp hresult with ⟨-, rfl⟩ | ⟨-, is, his, -, rfl⟩
  · simp [Result.isWritable, Result.unmatched, safe, hid]
  · obtain rfl := Except.ok.inj ((instructions?_safe has).symm.trans his)
    have hall : (as.map fun a => Instruction.typed a.safe).all (·.toValue.isWritable) = true := by
      rw [List.all_eq_true]
      refine List.forall_mem_map.mpr fun a ha => ?_
      exact (hnamed a ha).isWritable_toValue_safe.trans (hactions a ha)
    rw [Result.isWritable, hall]
    simp [safe, hid]

/-- The guard of a publishable rule is safe as it is. -/
theorem IsMade.guard_safe (h : r.IsMade) (hpublishable : r.isPublishable = true) :
    r.safe.guard = r.guard := by
  obtain ⟨c, hguard, hrestores⟩ := h.restorable.guard
  have hcarried := (Bool.and_eq_true_iff.mp hpublishable).1
  rw [hguard] at hcarried
  rw [safe]
  dsimp only
  rw [hguard, Guard.safe, Condition.map_safe_of_isCarried hrestores hcarried]

/-- **A publishable rule of a template and what was made safe of it have results that are told
alike.** -/
theorem IsMade.evaluate_told (h : r.IsMade) (context : Value)
    (hpublishable : r.isPublishable = true) {notifier notifier' : Option Notifier}
    (hnotifier : TakesAll notifier) (hnotifier' : TakesAll notifier') :
    ∃ result result', r.evaluate notifier context = .ok result ∧
      r.safe.evaluate notifier' context = .ok result' ∧ result.matched = result'.matched ∧
      result.outcome.told = result'.outcome.told := by
  obtain ⟨as, has, hnamed⟩ := h.actions
  have happlies : r.applies context = r.safe.applies context := by
    rw [applies, applies, h.guard_safe hpublishable]
    rfl
  refine Rule.evaluate_told context has (actions_safe has) (h.isLabelled context)
    (h.isLabelled_safe context) happlies ?_ hnotifier hnotifier'
  have hpercentages := (Bool.and_eq_true_iff.mp hpublishable).2
  rw [has] at hpercentages
  rw [List.forall₂_map_left_iff, List.forall₂_map_right_iff, List.forall₂_same]
  intro a ha
  exact Action.toldAlike_safe (hnamed a ha)
    (List.all_eq_true.mp hpercentages _ (List.mem_map_of_mem ha))

end Rule

/-! ### Requests -/

/-- A request asks for the evaluation of a definition in a context. -/
structure Request.Posts (r : Request) (definition : Value) (context : List (String × Value)) :
    Prop where
  verb : r.verb = "POST"
  path : r.path = "/rules/evaluate-rule"
  body : ∃ rule, Form.ofBody Form.rule none r.body = .ok ⟨rule, context⟩ ∧
    .mapping rule = definition

namespace Service

variable {s : Service} {o : Occasion} {r : Request}

/-- What a template answers with is the definition of the rule that it makes, which can be
written. -/
theorem exists_made_of_status_respond {category name : String} (hverb : r.verb = "POST")
    (hroute : Destination.of s.isLocal r.path "POST" = .reached (.template category name))
    (h : (s.respond o r).2.status = 200) :
    ∃ form rule, Form.ofBody Form.template (some ⟨[], []⟩) r.body = .ok form ∧
      Template.instantiate? o.now (.text category) (.text name) form.positional form.named =
        .ok rule ∧
      (s.respond o r).2.content = .json rule.toValue.jsonSafe ∧
      rule.toValue.isWritable = true := by
  obtain ⟨content, hending, hcontent, hcarries⟩ := answered_of_status_respond h
  rw [work_of_post hverb hroute, workOn, withForm] at hending
  cases hbody : Form.ofBody Form.template (some ⟨[], []⟩) r.body with
  | error refused =>
      rw [hbody] at hending
      cases refused with
      | unreadable => cases hending
      | findings fs =>
          simp only [misformed] at hending
          split at hending <;> cases hending
  | ok form =>
      rw [hbody] at hending
      dsimp only at hending
      rw [buildTemplate] at hending
      cases hmade : Template.instantiate? o.now (.text category) (.text name) form.positional
          form.named with
      | error failure =>
          rw [hmade] at hending
          cases failure <;> cases hending
      | ok rule =>
          rw [hmade] at hending
          obtain ⟨-, rfl⟩ := Ending.answered.inj hending
          have hsent : rule.toValue.jsonSafe.isSent = true := hcarries
          rw [Value.isSent_jsonSafe] at hsent
          exact ⟨form, rule, rfl, hmade, hcontent, hsent⟩

/-- The response to a posted definition tells the result of the rule that is read from it, if that
deals in texts and can be written. -/
theorem tells_respond {definition : Value} {context : List (String × Value)} {rule : Rule}
    (hposts : r.Posts definition context) (hread : Rule.ofValue? o.now definition = .ok rule)
    {result : Result} (hresult : rule.evaluate (some .silent) (.mapping context) = .ok result)
    (htextual : result.outcome.IsTextual) :
    (result.isWritable = true → (s.respond o r).2.Tells result) ∧
    (result.isWritable = false → (s.respond o r).2.status = 500) := by
  obtain ⟨entries, hbody, rfl⟩ := hposts.body
  obtain ⟨answer, hanswer⟩ :=
    Option.isSome_iff_exists.mp (isSome_resultAnswer?_iff.mpr htextual)
  have hrun : runAlone? o ⟨entries, context⟩ = .ok ⟨[result], none,
      rule.notified (some .silent) (.mapping context)⟩ := by
    rw [runAlone?, hread, Except.map, runRule, hresult]
  have hending : (s.work o r).ending = Service.answer answer := by
    rw [work_evaluateRule hposts.verb hposts.path, withForm, hbody]
    dsimp only
    rw [evaluateRule_eq, hrun]
    simp only [Run.finish, List.head?_cons, Option.bind_some, hanswer]
    rfl
  have hsent := isSent_of_resultAnswer? hanswer
  constructor
  · intro hwritable
    obtain ⟨hstatus, hcontent⟩ := respond_of_answer hending (hsent.trans hwritable)
    exact ⟨hstatus, answer, hcontent, isToldBy_of_resultAnswer? hanswer⟩
  · intro hlong
    rw [respond_of_unsent_answer hending (hsent.trans hlong) s.metrics]
    rfl

/-- The response to what a template published accounts for the result of the rule that was made
safe. -/
theorem exists_accountsFor {definition : Value} {context : List (String × Value)} {rule : Rule}
    (hrule : rule.IsMade) (hwritable : rule.toValue.isWritable = true)
    (hdefinition : rule.toValue.jsonSafe = definition) (hposts : r.Posts definition context) :
    ∃ result, rule.safe.evaluate (some .silent) (.mapping context) = .ok result ∧
      (s.respond o r).2.AccountsFor result := by
  obtain ⟨as, has, -⟩ := hrule.actions
  have hresult : rule.safe.evaluate (some .silent) (.mapping context) = _ :=
    Rule.evaluate_of_isLabelled (Rule.instructions?_safe has)
      (hrule.isLabelled_safe (.mapping context))
  have hread := hrule.ofValue?_jsonSafe o.now
  rw [hdefinition] at hread
  obtain ⟨htells, hfails⟩ := tells_respond (s := s) hposts hread hresult
    (hrule.isTextual_safe hresult)
  rw [hrule.isWritable_safe hwritable hresult] at htells hfails
  exact ⟨_, hresult, fun hvalues => htells (decide_eq_true hvalues),
    fun hvalues => hfails (decide_eq_false hvalues)⟩

end Service

/-- **A published definition is evaluated as the rule of the template.** Whenever a template answers
with a definition, that is the definition of the rule which it makes. Posting it for evaluation, to
any service and in any context, is responded to with an answer that tells the result of the rule,
with `null` for every infinity and NaN in it. If the rule decides by what JSON carries, it tells
the result of the rule itself. Only a result with an integer that is too long to be written is not
told, but answered with the status 500. -/
theorem respond_published {s : Service} {o : Occasion} {r : Request} {category name : String}
    {definition : Value} (hverb : r.verb = "POST")
    (hroute : Destination.of s.isLocal r.path "POST" = .reached (.template category name))
    (hnow : o.now.IsRestorable) (hstatus : (s.respond o r).2.status = 200)
    (hcontent : (s.respond o r).2.content = .json definition) :
    ∃ form rule, Form.ofBody Form.template (some ⟨[], []⟩) r.body = .ok form ∧
      Template.instantiate? o.now (.text category) (.text name) form.positional form.named =
        .ok rule ∧
      ∀ (s' : Service) (o' : Occasion) (r' : Request) (context : List (String × Value))
        (notifier : Option Notifier), r'.Posts definition context → TakesAll notifier →
        (∃ result, rule.safe.evaluate notifier (.mapping context) = .ok result ∧
          (s'.respond o' r').2.AccountsFor result) ∧
        (rule.isPublishable = true →
          ∃ result, rule.evaluate notifier (.mapping context) = .ok result ∧
            (s'.respond o' r').2.AccountsFor result) := by
  obtain ⟨form, rule, hform, hmade, hdefinition, hwritable⟩ :=
    Service.exists_made_of_status_respond hverb hroute hstatus
  obtain rfl : rule.toValue.jsonSafe = definition :=
    Content.json.inj (hdefinition.symm.trans hcontent)
  have h := Rule.isMade_of_instantiate? hmade hnow
  refine ⟨form, rule, hform, hmade, ?_⟩
  intro s' o' r' context notifier hposts hnotifier
  -- What is told is the result with the notifier of the service; any other that takes all messages
  -- gives a result that is told alike.
  obtain ⟨told, htold, haccounts⟩ :=
    Service.exists_accountsFor (s := s') (o := o') h hwritable rfl hposts
  constructor
  · obtain ⟨as, has, -⟩ := h.actions
    obtain ⟨result, told', hresult, htold', hmatched, houtcome⟩ := Rule.evaluate_told
      (.mapping context) (Rule.actions_safe has) (Rule.actions_safe has)
      (h.isLabelled_safe _) (h.isLabelled_safe _) rfl
      (List.forall₂_same.mpr fun i _ => .refl i) hnotifier takesAll_silent
    obtain rfl := Except.ok.inj (htold'.symm.trans htold)
    exact ⟨result, hresult, haccounts.congr hmatched houtcome⟩
  · intro hpublishable
    obtain ⟨result, told', hresult, htold', hmatched, houtcome⟩ :=
      h.evaluate_told (.mapping context) hpublishable hnotifier takesAll_silent
    obtain rfl := Except.ok.inj (htold'.symm.trans htold)
    exact ⟨result, hresult, haccounts.congr hmatched houtcome⟩

/-- A request for the rule of a template. -/
def templateRequest (target : String) (positional : List Value) : Request where
  method := "POST"
  target
  headers := []
  body := some (.ok (.mapping [("args", .list positional)]))

/-- A request for the evaluation of a definition. -/
def postedRequest (definition : Value) (context : List (String × Value)) : Request where
  method := "POST"
  target := "/rules/evaluate-rule"
  headers := []
  body := some (.ok (.mapping [("rule", definition), ("context", .mapping context)]))

theorem posts_postedRequest (entries context : List (String × Value)) :
    (postedRequest (.mapping entries) context).Posts (.mapping entries) context where
  verb := by
    change (postedRequest .null []).verb = "POST"
    decide +kernel
  path := by
    change (postedRequest .null []).path = "/rules/evaluate-rule"
    decide +kernel
  body := ⟨entries, rfl, rfl⟩

theorem destination_template {s : Service} {r : Request} {category name : String}
    (h : Route.ofPath? s.isLocal r.path = some (.template category name)) :
    Destination.of s.isLocal r.path "POST" = .reached (.template category name) := by
  rw [Destination.of, h]
  rfl

/-- A discount without bound for three items and more. -/
def discountRequest : Request :=
  templateRequest "/rules/templates/calculation/bulk_discount" [.int 3, .float (.infinite false)]

/-- Five items. -/
def fiveItems : List (String × Value) := [("entity", .mapping [("item_count", .int 5)])]

/-- The definition of the discount without bound is evaluated as its rule, which is publishable. -/
theorem respond_published_discount :
    discountRequest.verb = "POST" ∧ firstOccasion.now.IsRestorable ∧
    (freshService.respond firstOccasion discountRequest).2.status = 200 ∧
    ∃ rule : Rule,
      (freshService.respond firstOccasion discountRequest).2.content =
        .json rule.toValue.jsonSafe ∧
      rule.isPublishable = true ∧
      ∃ result, rule.evaluate none (.mapping fiveItems) = .ok result ∧ result.matched = true ∧
        (freshService.respond firstOccasion
          (postedRequest rule.toValue.jsonSafe fiveItems)).2.Tells result := by
  have hverb : discountRequest.verb = "POST" := by decide +kernel
  have hroute : Destination.of freshService.isLocal discountRequest.path "POST" =
      .reached (.template "calculation" "bulk_discount") :=
    destination_template (by decide +kernel)
  have hstatus : (freshService.respond firstOccasion discountRequest).2.status = 200 := by
    decide +kernel
  obtain ⟨form, rule, hform, hmade, hcontent, -⟩ := Service.exists_made_of_status_respond hverb
    hroute hstatus
  obtain ⟨form', rule', hform', hmade', hposted⟩ := respond_published hverb hroute
    isRestorable_epoch hstatus hcontent
  obtain rfl := Except.ok.inj (hform.symm.trans hform')
  obtain rfl := Except.ok.inj (hmade.symm.trans hmade')
  obtain rfl : ⟨[.int 3, .float (.infinite false)], []⟩ = form := Except.ok.inj hform
  have hdecided : ((Template.instantiate? firstOccasion.now (.text "calculation")
      (.text "bulk_discount") [.int 3, .float (.infinite false)] []).toOption.map fun rule =>
        (rule.isPublishable, (rule.evaluate none (.mapping fiveItems)).toOption.map
          fun result => (result.matched, decide (Ledger.Writable result.outcome.values.entries)))) =
      some (true, some (true, true)) := by decide +kernel
  rw [hmade] at hdecided
  obtain ⟨hpublishable, hresults⟩ := Prod.mk.inj (Option.some.inj hdecided)
  obtain ⟨result, hresult, haccounts⟩ := (hposted freshService firstOccasion
    (postedRequest rule.toValue.jsonSafe fiveItems) fiveItems none
    (posts_postedRequest _ _) (fun _ hn => nomatch hn)).2 hpublishable
  rw [hresult] at hresults
  obtain ⟨hmatched, hwritable⟩ := Prod.mk.inj (Option.some.inj hresults)
  exact ⟨hverb, isRestorable_epoch, hstatus, rule, hcontent, hpublishable, result, hresult,
    hmatched, haccounts.tells (of_decide_eq_true hwritable)⟩

/-- A minimum amount without bound. -/
def minimumRequest : Request :=
  templateRequest "/rules/templates/validation/min_order_amount" [.float (.infinite false)]

/-- A total of ten. -/
def totalTen : List (String × Value) := [("entity", .mapping [("total", .int 10)])]

/-- The definition of the minimum without bound is not evaluated as its rule: in the definition it
is a `null`, which every total reaches. -/
theorem respond_published_unbounded :
    ∃ rule : Rule,
      Template.instantiate? firstOccasion.now (.text "validation") (.text "min_order_amount")
        [.float (.infinite false)] [] = .ok rule ∧
      (freshService.respond firstOccasion minimumRequest).2.status = 200 ∧
      (freshService.respond firstOccasion minimumRequest).2.content =
        .json rule.toValue.jsonSafe ∧
      (postedRequest rule.toValue.jsonSafe totalTen).Posts rule.toValue.jsonSafe totalTen ∧
      ∃ result, rule.evaluate none (.mapping totalTen) = .ok result ∧ result.matched = true ∧
        ¬(freshService.respond firstOccasion
          (postedRequest rule.toValue.jsonSafe totalTen)).2.Tells result := by
  have hverb : minimumRequest.verb = "POST" := by decide +kernel
  have hroute : Destination.of freshService.isLocal minimumRequest.path "POST" =
      .reached (.template "validation" "min_order_amount") :=
    destination_template (by decide +kernel)
  have hstatus : (freshService.respond firstOccasion minimumRequest).2.status = 200 := by
    decide +kernel
  obtain ⟨form, rule, hform, hmade, hcontent, hwritable⟩ :=
    Service.exists_made_of_status_respond hverb hroute hstatus
  obtain rfl : ⟨[.float (.infinite false)], []⟩ = form := Except.ok.inj hform
  have hdecided : ((Template.instantiate? firstOccasion.now (.text "validation")
      (.text "min_order_amount") [.float (.infinite false)] []).toOption.map fun rule =>
        ((rule.evaluate none (.mapping totalTen)).toOption.map (·.matched),
          (rule.safe.evaluate (some .silent) (.mapping totalTen)).toOption.map (·.matched))) =
      some (some true, some false) := by decide +kernel
  rw [hmade] at hdecided
  obtain ⟨hmatched, hunmatched⟩ := Prod.mk.inj (Option.some.inj hdecided)
  have hrule := Rule.isMade_of_instantiate? hmade isRestorable_epoch
  have hposts : (postedRequest rule.toValue.jsonSafe totalTen).Posts rule.toValue.jsonSafe
      totalTen := posts_postedRequest _ _
  obtain ⟨told, htold, haccounts⟩ := Service.exists_accountsFor (s := freshService)
    (o := firstOccasion) hrule hwritable rfl hposts
  rw [htold] at hunmatched
  cases hresult : rule.evaluate none (.mapping totalTen) with
  | error f =>
      rw [hresult] at hmatched
      cases hmatched
  | ok result =>
      rw [hresult] at hmatched
      have htrue : result.matched = true := Option.some.inj hmatched
      refine ⟨rule, hmade, hstatus, hcontent, hposts, result, hresult, htrue, fun h => ?_⟩
      have hfalse : told.matched = false := Option.some.inj hunmatched
      by_cases hvalues : Ledger.Writable told.outcome.values.entries
      · have hsame := (haccounts.tells hvalues).matched_eq h
        rw [hfalse, htrue] at hsame
        cases hsame
      · have hstatus' := (haccounts.fails hvalues).symm.trans h.1
        cases hstatus'

end Rulebook
