import Rulebook.Merged
import Rulebook.Proofs.Ledger
import Rulebook.Proofs.Run

/-!
# The Fusion of Merged Results

Each rule that matches carries out its own actions, and the outcomes are merged. Carrying out all
these actions in one go comes to the same, but for the workflows, which an outcome gathers and a
merge does not: an instruction adds a share of its own to an outcome, whatever the outcome was
before (`Outcome.adds_step`), and merging repeats all writes (`Ledger.update_ofWrites`).

## Main definitions

* `Action.Does`: what an action may do.
* `Instruction.write?`, `Instruction.writesOf`: the writes of instructions in a context.
* `Outcome.Adds`: an outcome is another one with a share added to it.
* `Outcome.ordinary`: the values of an outcome but for the workflows.
* `Result.IsCarriedOut`: a result's outcome is that of its actions.

## Main results

* `Action.does_of_effect`, `Action.effectKeyed_of_effect`: what an action does is one of these; it
  writes only under keys.
* `Outcome.adds_foldl`: what instructions add to an outcome does not hang on the outcome.
* `Outcome.ordinary_ofInstructions`: the ordinary values of an outcome are its ordinary writes.
* `evaluateAll_fusion`: merging a run is carrying out the actions of its matches.
-/

namespace Rulebook

open Value (IsKey)

/-! ### What an instruction writes -/

namespace Action

theorem writing_eq_ok_iff {key value : Value} {e : Effect} :
    writing key value = .ok e ↔ key.IsKey ∧ Effect.write key value = e := by
  rw [writing, map_eq_ok_iff]
  exact ⟨fun ⟨_, hkey, he⟩ => ⟨hkey, he⟩, fun ⟨hkey, he⟩ => ⟨(), hkey, he⟩⟩

variable {a : Action} {context : Value}

/-- **What an action may do**: it writes under its field, or under the field for fees when it has
none, and only an action of the kind for errors reports its message, if it has one. -/
inductive Does (a : Action) : Effect → Prop
  | nothing : Does a .nothing
  | write {value : Value} : (a.field.orElse defaultFeeField).IsKey →
      Does a (.write (a.field.orElse defaultFeeField) value)
  | report : a.kind = .error → a.message.isTruthy = true → Does a (.report a.message)
  | notify : Does a (.notify a.message)
  | trigger : Does a (.trigger a.value.plain)

theorem does_of_writing {value : Value} {e : Effect}
    (h : writing (a.field.orElse defaultFeeField) value = .ok e) : a.Does e := by
  obtain ⟨hkey, rfl⟩ := writing_eq_ok_iff.mp h
  exact .write hkey

/-- A field that counts as given is written under. -/
theorem does_of_writing_field {value : Value} {e : Effect} (hfield : a.field.isTruthy = true)
    (h : writing a.field value = .ok e) : a.Does e := by
  refine does_of_writing (?_ : writing _ value = .ok e)
  rw [Value.orElse, if_pos hfield]
  exact h

theorem does_of_feeEffect {e : Effect} (h : a.feeEffect context = .ok e) : a.Does e := by
  rw [feeEffect] at h
  split at h
  · obtain ⟨share, -, hwriting⟩ := bind_eq_ok_iff.mp h
    exact does_of_writing hwriting
  · split at h
    · obtain rfl := Except.ok.inj h
      exact .nothing
    · exact does_of_writing h

theorem does_of_aggregateEffect {e : Effect} (h : a.aggregateEffect context = .ok e) :
    a.Does e := by
  rw [aggregateEffect] at h
  split at h
  · obtain rfl := Except.ok.inj h
    exact .nothing
  · next hgiven =>
    have hfield : a.field.isTruthy = true := by simp_all
    obtain ⟨source, -, hsource⟩ := bind_eq_ok_iff.mp h
    split at hsource
    · obtain ⟨result, -, hwriting⟩ := bind_eq_ok_iff.mp hsource
      exact does_of_writing_field hfield hwriting
    · obtain rfl := Except.ok.inj hsource
      exact .nothing

/-- What an action does is one of these. -/
theorem does_of_effect {e : Effect} (h : a.effect context = .ok e) : a.Does e := by
  rw [effect] at h
  split at h
  · split at h
    · next hgiven => exact does_of_writing_field (Bool.and_eq_true_iff.mp hgiven).1 h
    · obtain rfl := Except.ok.inj h
      exact .nothing
  · exact does_of_feeEffect h
  · obtain rfl := Except.ok.inj h
    split
    · exact .report ‹a.kind = .error› ‹_›
    · exact .nothing
  · exact does_of_aggregateEffect h
  · obtain rfl := Except.ok.inj h
    split
    · exact .notify
    · exact .nothing
  · split at h
    · obtain ⟨workflow, hworkflow, rfl⟩ := map_eq_ok_iff.mp h
      obtain ⟨-, rfl⟩ := Value.ifWritable_eq_ok_iff.mp hworkflow
      exact .trigger
    · obtain rfl := Except.ok.inj h
      exact .nothing
  · obtain rfl := Except.ok.inj h
    exact .nothing

/-- An effect that may be carried out: what it writes under is a key. -/
def EffectKeyed : Effect → Prop
  | .write key _ => key.IsKey
  | _ => True

/-- **An action writes only under keys**, whatever its kind. -/
theorem effectKeyed_of_effect {e : Effect} (h : a.effect context = .ok e) : EffectKeyed e := by
  cases does_of_effect h with
  | write hkey => exact hkey
  | _ => trivial

end Action

namespace Instruction

/-- What an instruction writes in a context: a value under a key, unless it fails or does something
else. -/
def write? (context : Value) (i : Instruction) : Option (Value × Value) :=
  match i.effect context with
  | .ok (.write key value) => some (key, value)
  | _ => none

/-- An instruction writes only under keys. -/
theorem isKey_of_effect {i : Instruction} {context key value : Value}
    (h : i.effect context = .ok (.write key value)) : key.IsKey := by
  obtain ⟨a, -, ha⟩ := bind_eq_ok_iff.mp h
  exact Action.effectKeyed_of_effect (orFail_eq_ok_iff.mp ha)

/-- The writes of some instructions in a context, in order. -/
def writesOf (context : Value) (is : List Instruction) : List (Value × Value) :=
  is.filterMap (write? context)

theorem writesOf_append (context : Value) (is js : List Instruction) :
    writesOf context (is ++ js) = writesOf context is ++ writesOf context js :=
  List.filterMap_append

/-- Instructions write only under keys. -/
theorem keyed_writesOf (context : Value) (is : List Instruction) :
    Ledger.Keyed (writesOf context is) := by
  intro w hw
  obtain ⟨i, -, hi⟩ := List.mem_filterMap.mp hw
  rw [write?] at hi
  split at hi
  · obtain rfl := Option.some.inj hi
    exact isKey_of_effect ‹_›
  · cases hi

end Instruction

namespace Outcome

variable {notifier : Option Notifier} {context : Value} {o : Outcome}

/-! ### What is reported -/

/-- One outcome is another one with a share added to what was reported, what failed and what was
handed over. -/
structure Adds (o share after : Outcome) : Prop where
  errors : after.errors = o.errors ++ share.errors
  failed : after.failed = o.failed ++ share.failed
  notified : after.notified = o.notified ++ share.notified

/-- What an instruction adds to an outcome does not hang on the outcome. -/
theorem adds_step (notifier : Option Notifier) (context : Value) (o : Outcome) (i : Instruction) :
    Adds o (step notifier context empty i) (step notifier context o i) := by
  simp only [step]
  cases i.effect context with
  | error failure => constructor <;> simp [fail, empty]
  | ok effect =>
      cases effect with
      | nothing => constructor <;> simp [apply, empty]
      | write key value => constructor <;> simp [apply, empty]
      | report message => constructor <;> simp [apply, empty]
      | trigger workflow => constructor <;> simp [apply, empty]
      | notify message =>
          cases notifier with
          | none => constructor <;> simp [apply, notify, empty]
          | some n =>
              cases hreason : n.refuses message with
              | none => constructor <;> simp [apply, notify, hreason, empty]
              | some reason => constructor <;> simp [apply, notify, hreason, empty, fail]

theorem adds_empty (o : Outcome) : Adds o empty o := by
  constructor <;> simp [empty]

/-- A share that is added to a share is added to the whole. -/
theorem Adds.assoc {first share more both after : Outcome} (h : Adds o first share)
    (hafter : Adds share more after) (hboth : Adds first more both) : Adds o both after where
  errors := by rw [hafter.errors, h.errors, hboth.errors, List.append_assoc]
  failed := by rw [hafter.failed, h.failed, hboth.failed, List.append_assoc]
  notified := by rw [hafter.notified, h.notified, hboth.notified, List.append_assoc]

/-- What instructions add to an outcome does not hang on the outcome. -/
theorem adds_foldl (notifier : Option Notifier) (context : Value) (o : Outcome)
    (is : List Instruction) :
    Adds o (ofInstructions notifier context is) (is.foldl (step notifier context) o) := by
  rw [ofInstructions]
  induction is generalizing o with
  | nil => exact adds_empty o
  | cons i is ih =>
      rw [List.foldl_cons, List.foldl_cons]
      exact (adds_step notifier context o i).assoc (ih (step notifier context o i))
        (ih (step notifier context empty i))

/-- Instructions carried out after others add their own outcome. -/
theorem adds_ofInstructions (notifier : Option Notifier) (context : Value)
    (is js : List Instruction) :
    Adds (ofInstructions notifier context is) (ofInstructions notifier context js)
      (ofInstructions notifier context (is ++ js)) := by
  have hsplit : ofInstructions notifier context (is ++ js) =
      js.foldl (step notifier context) (ofInstructions notifier context is) := List.foldl_append
  rw [hsplit]
  exact adds_foldl notifier context _ js

/-! ### What is written -/

theorem isKey_workflowsKey : workflowsKey.IsKey := rfl

theorem same_workflowsKey : workflowsKey.same workflowsKey = true := by decide

/-- The values of an outcome but for the workflows that were triggered. -/
def ordinary (o : Outcome) : Ledger := o.values.without workflowsKey

/-- The writes of some instructions but for those to the key of the workflows. -/
def ordinaryWrites (context : Value) (is : List Instruction) : List (Value × Value) :=
  (Instruction.writesOf context is).filter fun w => !w.1.same workflowsKey

theorem ordinaryWrites_append (context : Value) (is js : List Instruction) :
    ordinaryWrites context (is ++ js) = ordinaryWrites context is ++ ordinaryWrites context js := by
  simp only [ordinaryWrites]
  rw [Instruction.writesOf_append, List.filter_append]

theorem keyed_ordinaryWrites (context : Value) (is : List Instruction) :
    Ledger.Keyed (ordinaryWrites context is) :=
  Ledger.keyed_filter (Instruction.keyed_writesOf context is) _

theorem values_notify (o : Outcome) (notifier : Option Notifier) (label : String)
    (message : Value) : (o.notify notifier label message).values = o.values := by
  simp only [notify]
  cases notifier with
  | none => rfl
  | some n =>
      dsimp only
      split <;> rfl

/-- **What a step does to the values**: it writes what its instruction writes, or gathers a
workflow, or leaves them. -/
theorem values_step (notifier : Option Notifier) (context : Value) (o : Outcome)
    (i : Instruction) :
    (∃ w, i.write? context = some w ∧ (step notifier context o i).values = o.values.set w.1 w.2) ∨
    (i.write? context = none ∧
      ((step notifier context o i).values = o.values ∨
        ∃ items, (step notifier context o i).values = o.values.set workflowsKey items)) := by
  rw [step, Instruction.write?]
  cases i.effect context with
  | error failure => exact .inr ⟨rfl, .inl rfl⟩
  | ok effect =>
      cases effect with
      | nothing => exact .inr ⟨rfl, .inl rfl⟩
      | write key value => exact .inl ⟨(key, value), rfl, rfl⟩
      | report message => exact .inr ⟨rfl, .inl rfl⟩
      | notify message => exact .inr ⟨rfl, .inl (values_notify o notifier i.label message)⟩
      | trigger workflow => exact .inr ⟨rfl, .inr ⟨_, rfl⟩⟩

/-- A step keeps the keys of an outcome keys, and adds its own ordinary write. -/
theorem ordinary_step (notifier : Option Notifier) (context : Value)
    (ho : Ledger.Keyed o.values.entries) (i : Instruction) :
    Ledger.Keyed (step notifier context o i).values.entries ∧
      (step notifier context o i).ordinary =
        o.ordinary.writeAll (ordinaryWrites context [i]) := by
  simp only [ordinary, ordinaryWrites, Instruction.writesOf]
  rcases values_step notifier context o i with ⟨w, hw, hvalues⟩ | ⟨hnone, hvalues | ⟨v, hvalues⟩⟩
  · have hkey : w.1.IsKey := by
      refine Instruction.keyed_writesOf context [i] w ?_
      exact List.mem_filterMap.mpr ⟨i, List.mem_singleton_self i, hw⟩
    rw [hvalues, Ledger.without_set ho hkey, List.filterMap_cons_some hw, List.filterMap_nil]
    refine ⟨Ledger.keyed_set ho hkey, ?_⟩
    cases hsame : w.1.same workflowsKey with
    | true => simp [hsame, Ledger.writeAll_nil]
    | false => simp [hsame, Ledger.writeAll_cons, Ledger.writeAll_nil]
  · rw [hvalues, List.filterMap_cons_none hnone]
    exact ⟨ho, rfl⟩
  · rw [hvalues, List.filterMap_cons_none hnone, Ledger.without_set ho isKey_workflowsKey,
      same_workflowsKey]
    exact ⟨Ledger.keyed_set ho isKey_workflowsKey, rfl⟩

/-- What some steps do to the ordinary values. -/
theorem ordinary_foldl (ho : Ledger.Keyed o.values.entries) (is : List Instruction) :
    Ledger.Keyed (is.foldl (step notifier context) o).values.entries ∧
      (is.foldl (step notifier context) o).ordinary =
        o.ordinary.writeAll (ordinaryWrites context is) := by
  induction is generalizing o with
  | nil => exact ⟨ho, rfl⟩
  | cons i is ih =>
      obtain ⟨hkeyed, hstep⟩ := ordinary_step notifier context ho i
      obtain ⟨hall, hrest⟩ := ih hkeyed
      rw [List.foldl_cons]
      refine ⟨hall, ?_⟩
      rw [hrest, hstep, ← Ledger.writeAll_append, ← ordinaryWrites_append]
      rfl

theorem keyed_values (notifier : Option Notifier) (context : Value) (is : List Instruction) :
    Ledger.Keyed (ofInstructions notifier context is).values.entries :=
  (ordinary_foldl Ledger.wellFormed_empty.keyed is).1

/-- **The ordinary values of an outcome are its ordinary writes.** -/
theorem ordinary_ofInstructions (notifier : Option Notifier) (context : Value)
    (is : List Instruction) :
    (ofInstructions notifier context is).ordinary = .ofWrites (ordinaryWrites context is) :=
  (ordinary_foldl Ledger.wellFormed_empty.keyed is).2

/-- Under an ordinary key an outcome holds the last write to it. -/
theorem get?_ofInstructions (notifier : Option Notifier) (context : Value)
    (is : List Instruction) {key : Value} (hkey : key.same workflowsKey = false) :
    (ofInstructions notifier context is).values.get? key =
      Ledger.last? (Instruction.writesOf context is) key := by
  rw [← Ledger.get?_without (keyed_values notifier context is) isKey_workflowsKey hkey]
  have hordinary := ordinary_ofInstructions notifier context is
  rw [ordinary] at hordinary
  rw [hordinary, Ledger.get?_ofWrites (keyed_ordinaryWrites context is)]
  exact Ledger.last?_filter (Instruction.keyed_writesOf context is) isKey_workflowsKey hkey

end Outcome

/-! ### Results that were carried out -/

namespace Result

/-- The outcome of a result is that of its actions, and it has none unless it matched. -/
structure IsCarriedOut (notifier : Option Notifier) (context : Value) (r : Result) : Prop where
  outcome : r.outcome = Outcome.ofInstructions notifier context r.actions
  actions : r.matched = false → r.actions = []

/-- The actions of the results that matched, in order. -/
def carried (results : List Result) : List Instruction :=
  (results.filter (·.matched)).flatMap (·.actions)

variable {notifier : Option Notifier} {context : Value}

/-- The actions of the results that matched are those of all results. -/
theorem flatMap_actions {results : List Result}
    (h : ∀ r ∈ results, IsCarriedOut notifier context r) :
    results.flatMap (·.actions) = carried results := by
  rw [carried]
  induction results with
  | nil => rfl
  | cons r rest ih =>
      obtain ⟨hr, hrest⟩ := List.forall_mem_cons.mp h
      cases hmatched : r.matched with
      | true =>
          rw [List.filter_cons_of_pos hmatched, List.flatMap_cons, List.flatMap_cons, ih hrest]
      | false =>
          rw [List.filter_cons_of_neg (Bool.not_eq_true _ ▸ hmatched), List.flatMap_cons,
            hr.actions hmatched, ih hrest]
          rfl

/-- What carrying out some actions reports is what the results report. -/
theorem adds_flatMap {results : List Result}
    (h : ∀ r ∈ results, IsCarriedOut notifier context r) (is : List Instruction) :
    Outcome.Adds (Outcome.ofInstructions notifier context is)
      ⟨.empty, results.flatMap (·.outcome.errors), results.flatMap (·.outcome.failed),
        results.flatMap (·.outcome.notified)⟩
      (Outcome.ofInstructions notifier context (is ++ results.flatMap (·.actions))) := by
  induction results generalizing is with
  | nil =>
      have hall : is ++ [].flatMap Result.actions = is := List.append_nil is
      rw [hall]
      exact Outcome.adds_empty _
  | cons r rest ih =>
      obtain ⟨hr, hrest⟩ := List.forall_mem_cons.mp h
      have hfirst := Outcome.adds_ofInstructions notifier context is r.actions
      rw [← hr.outcome] at hfirst
      have hall : is ++ (r :: rest).flatMap (·.actions) =
          is ++ r.actions ++ rest.flatMap (·.actions) := (List.append_assoc _ _ _).symm
      rw [hall]
      exact hfirst.assoc (ih hrest (is ++ r.actions)) ⟨rfl, rfl, rfl⟩

end Result

namespace Rule

/-- Evaluating a rule carries out the actions of the result. -/
theorem isCarriedOut_of_evaluate {notifier : Option Notifier} {context : Value} {r : Rule}
    {result : Result} (h : r.evaluate notifier context = .ok result) :
    result.IsCarriedOut notifier context := by
  rcases evaluate_eq_ok_iff.mp h with ⟨-, rfl⟩ | ⟨-, is, -, -, rfl⟩
  · exact ⟨rfl, fun _ => rfl⟩
  · exact ⟨rfl, fun hmatched => by cases hmatched⟩

/-- The results of some rules, one by one, carry out their actions. -/
theorem isCarriedOut_of_forall₂ {notifier : Option Notifier} {context : Value}
    {rules : List Rule} {results : List Result}
    (h : List.Forall₂ (fun r result => evaluate notifier context r = .ok result)
      rules results) : ∀ result ∈ results, result.IsCarriedOut notifier context := by
  intro result hresult
  obtain ⟨r, -, hevaluate⟩ := exists_of_mem_forall₂ h hresult
  exact isCarriedOut_of_evaluate hevaluate

end Rule

/-- The results of a run carry out their actions. -/
theorem Run.isCarriedOut_of_mem {stop : Bool} {notifier : Option Notifier} {context : Value}
    {cs : List Candidate} {result : Result}
    (h : result ∈ (Run.ofCandidates stop notifier context cs).results) :
    result.IsCarriedOut notifier context := by
  induction cs with
  | nil => cases h
  | cons c rest ih =>
      rw [ofCandidates] at h
      cases hc : c.evaluate notifier context with
      | error fault =>
          rw [hc] at h
          cases h
      | ok first =>
          rw [hc] at h
          have hfirst : first.IsCarriedOut notifier context := by
            cases c with
            | rule r => exact Rule.isCarriedOut_of_evaluate hc
            | other v =>
                obtain rfl := Except.ok.inj hc
                exact ⟨rfl, fun _ => rfl⟩
          dsimp only at h
          split at h
          · obtain rfl := List.mem_singleton.mp h
            exact hfirst
          · rcases List.mem_cons.mp h with rfl | hrest
            · exact hfirst
            · exact ih hrest

theorem isCarriedOut_of_mem_evaluateAll {stop : Bool} {notifier : Option Notifier}
    {context : Value} {cs : List Candidate} {result : Result}
    (h : result ∈ (evaluateAll stop notifier context cs).results) :
    result.IsCarriedOut notifier context := by
  rw [evaluateAll] at h
  cases hordered : Candidate.inOrder cs with
  | error fault =>
      rw [hordered] at h
      cases h
  | ok ordered =>
      rw [hordered] at h
      exact Run.isCarriedOut_of_mem h

/-! ### Merging -/

namespace Merged

/-- Merged results hold what carrying out some instructions in one go leads to. -/
structure Fuses (notifier : Option Notifier) (context : Value) (m : Merged)
    (is : List Instruction) : Prop where
  keyed : Ledger.Keyed m.values.entries
  values : m.values.without Outcome.workflowsKey = .ofWrites (Outcome.ordinaryWrites context is)
  errors : m.errors = (Outcome.ofInstructions notifier context is).errors

variable {notifier : Option Notifier} {context : Value}

theorem fuses_empty : Fuses notifier context empty [] where
  keyed := Ledger.wellFormed_empty.keyed
  values := rfl
  errors := rfl

/-- Taking in one more result is carrying out its actions, too. -/
theorem Fuses.add {m : Merged} {is : List Instruction} (h : m.Fuses notifier context is)
    {r : Result} (hr : r.IsCarriedOut notifier context) :
    (m.add r).Fuses notifier context (is ++ r.actions) := by
  rw [Merged.add]
  cases hmatched : r.matched with
  | false =>
      rw [hr.actions hmatched, List.append_nil]
      exact h
  | true =>
      have hkeyed := Outcome.keyed_values notifier context r.actions
      rw [← hr.outcome] at hkeyed
      have hordinary := Outcome.ordinary_ofInstructions notifier context r.actions
      rw [← hr.outcome] at hordinary
      have hnothing : Ledger.Keyed (m.values.without Outcome.workflowsKey).entries :=
        Ledger.keyed_filter h.keyed _
      refine ⟨Ledger.keyed_writeAll h.keyed hkeyed, ?_, ?_⟩
      · calc (m.values.update r.outcome.values).without Outcome.workflowsKey
            = (m.values.without Outcome.workflowsKey).update r.outcome.ordinary :=
              Ledger.without_writeAll h.keyed hkeyed _
          _ = (m.values.without Outcome.workflowsKey).writeAll
                (Outcome.ordinaryWrites context r.actions) := by
              rw [hordinary, Ledger.update_ofWrites hnothing
                (Outcome.keyed_ordinaryWrites context r.actions)]
          _ = .ofWrites (Outcome.ordinaryWrites context (is ++ r.actions)) := by
              rw [h.values, Outcome.ordinaryWrites_append]
              exact (Ledger.writeAll_append _ _ _).symm
      · rw [(Outcome.adds_ofInstructions notifier context is r.actions).errors, ← hr.outcome,
          ← h.errors]
        rfl

/-- Taking in some results is carrying out all their actions. -/
theorem Fuses.foldl {results : List Result} (h : ∀ r ∈ results, r.IsCarriedOut notifier context)
    {m : Merged} {is : List Instruction} (hm : m.Fuses notifier context is) :
    (results.foldl Merged.add m).Fuses notifier context (is ++ results.flatMap (·.actions)) := by
  induction results generalizing m is with
  | nil =>
      rw [List.flatMap_nil, List.append_nil]
      exact hm
  | cons r rest ih =>
      obtain ⟨hr, hrest⟩ := List.forall_mem_cons.mp h
      rw [List.foldl_cons, List.flatMap_cons, ← List.append_assoc]
      exact ih hrest (hm.add hr)

/-- **Merging results is carrying out all their actions in one go.** -/
theorem fuses_ofResults {results : List Result}
    (h : ∀ r ∈ results, r.IsCarriedOut notifier context) :
    (ofResults results).Fuses notifier context (Result.carried results) := by
  have hall := fuses_empty.foldl h
  rw [List.nil_append, Result.flatMap_actions h] at hall
  exact hall

end Merged

/-- **Merging a run is carrying out the actions of its matches in one go**, for rules that were
read, to the end or up to the first match. The errors, the failures and the messages are the same,
in the same order, and so are the values but for the workflows: under every other key stands the
last write of these actions. A run that breaks off at a rule which is not labelled has merged that
much before, and has the messages of this rule besides. -/
theorem evaluateAll_fusion (stop : Bool) (notifier : Option Notifier) (context : Value)
    {rules : List Rule} (h : ∀ r ∈ rules, r.IsRead) :
    ∃ results,
      (∀ ordered, Rule.InOrder rules ordered →
        List.Forall₂ (fun r result => r.1.evaluate notifier context = .ok result)
          (ordered.take results.length) results) ∧
      let run := evaluateAll stop notifier context (rules.map .rule)
      let merged := Merged.ofResults results
      let fused := Outcome.ofInstructions notifier context (Result.carried results)
      (run.finish = .ok results ∧ run.notified = fused.notified ∨
        ∃ r ∈ rules, ¬r.IsLabelled context ∧
          run.results = results ∧ run.finish = .error .integerTooLong ∧
          run.notified = fused.notified ++ r.notified notifier context) ∧
      merged.errors = fused.errors ∧
      results.flatMap (·.outcome.failed) = fused.failed ∧
      merged.values.without Outcome.workflowsKey = fused.values.without Outcome.workflowsKey ∧
      ∀ key, key.same Outcome.workflowsKey = false →
        merged.values.get? key = fused.values.get? key ∧
        merged.values.get? key =
          Ledger.last? (Instruction.writesOf context (Result.carried results)) key := by
  obtain ⟨results, hresults, hrun⟩ := evaluateAll_beginning stop notifier context h
  have hcarried := Rule.isCarriedOut_of_forall₂ hresults
  have hfuses := Merged.fuses_ofResults hcarried
  have hadds := Result.adds_flatMap hcarried []
  rw [List.nil_append, Result.flatMap_actions hcarried] at hadds
  have hordinary := Outcome.ordinary_ofInstructions notifier context (Result.carried results)
  refine ⟨results, ?_, ?_, hfuses.errors, hadds.failed.symm, hfuses.values.trans hordinary.symm, ?_⟩
  · intro ordered hordered
    rw [← hordered.map_fst, ← List.map_take] at hresults
    exact List.forall₂_map_left_iff.mp hresults
  · rcases hrun with hrun | ⟨r, hr, hnot, hrun⟩
    · rw [hrun]
      exact .inl ⟨rfl, hadds.notified.symm⟩
    · have hmem := Rule.mem_of_getElem?_arranged hr
      rw [hrun, hadds.notified]
      exact .inr ⟨r, hmem, hnot, rfl, rfl, rfl⟩
  · intro key hkey
    have hlast := Outcome.get?_ofInstructions notifier context (Result.carried results) hkey
    have hmerged : (Merged.ofResults results).values.get? key =
        (Outcome.ofInstructions notifier context (Result.carried results)).values.get? key := by
      rw [← Ledger.get?_without hfuses.keyed Outcome.isKey_workflowsKey hkey, hfuses.values,
        ← hordinary, Outcome.ordinary,
        Ledger.get?_without (Outcome.keyed_values _ _ _) Outcome.isKey_workflowsKey hkey]
    exact ⟨hmerged, hmerged.trans hlast⟩

/-- Merging the runs of two tied rules and an inactive one. -/
theorem evaluateAll_fusion_tied :
    (readable .epoch tiedDefinitions).length = 3 ∧
    (∀ r ∈ readable .epoch tiedDefinitions, r.IsRead) ∧
    (∀ r ∈ readable .epoch tiedDefinitions, r.IsLabelled orderContext) ∧
    (Value.text "fee").same Outcome.workflowsKey = false ∧
    ∀ stop, ∃ results,
      (evaluateAll stop (some .silent) orderContext
        ((readable .epoch tiedDefinitions).map .rule)).finish = .ok results ∧
      (Merged.ofResults results).errors =
        (Outcome.ofInstructions (some .silent) orderContext (Result.carried results)).errors ∧
      (Merged.ofResults results).values.get? (.text "fee") =
        Ledger.last? (Instruction.writesOf orderContext (Result.carried results))
          (.text "fee") := by
  have hlength : (readable .epoch tiedDefinitions).length = 3 := by decide +kernel
  have hread : ∀ r ∈ readable .epoch tiedDefinitions, r.IsRead :=
    fun _ hr => Rule.isRead_of_mem_readable hr
  have hlabelled : ∀ r ∈ readable .epoch tiedDefinitions, r.IsLabelled orderContext := by
    decide +kernel
  have hkey : (Value.text "fee").same Outcome.workflowsKey = false := by decide
  refine ⟨hlength, hread, hlabelled, hkey, fun stop => ?_⟩
  obtain ⟨results, -, ⟨hfinish, -⟩ | ⟨r, hr, hnot, -⟩, herrors, -, -, hvalues⟩ :=
    evaluateAll_fusion stop (some .silent) orderContext hread
  · exact ⟨results, hfinish, herrors, (hvalues _ hkey).2⟩
  · exact absurd (hlabelled r hr) hnot

end Rulebook
