import Rulebook.Proofs.Fusion
import Rulebook.Proofs.Writing

/-!
# Failures Stay Where They Are

An action that fails is reported, and the actions around it do not notice. Whether it fails is a
matter of the action, the context and the notifier (`Instruction.failure?`); what the actions before
it wrote and reported plays no part. Where it stands it adds one error and one label, between those
of the actions before it and those of the actions after it, and it leaves the values to the others:
they are what they are without it. An action that does not fail adds no label, and it adds an error
only on purpose (`Instruction.reported?`).

All that holds where the labels of the actions can be written. An action whose label cannot is not
isolated: it takes the outcome of the actions before it along, and those after it are not reached.

## Main definitions

* `Instruction.failure?`: why an instruction fails, if it does.
* `Instruction.reported?`: the error that an instruction reports on purpose, if it does.

## Main results

* `Instruction.reported?_eq_some_iff_of_effect`: only what is reported on purpose is an effect.
* `Outcome.alone_of_failure`, `Outcome.alone_of_success`: what an instruction adds.
* `Outcome.values_foldl_congr`: the values that steps leave depend on the values before them alone.
* `ofInstructions_isolates`: an instruction among others.
* `ofInstructions_breaks_off`: an instruction that keeps the next one from being carried out.
-/

namespace Rulebook

namespace Instruction

variable {notifier : Option Notifier} {context : Value} {i : Instruction}

/-- Why an instruction fails, if it does: it comes to no effect, or the notifier refuses its
message. -/
def failure? (notifier : Option Notifier) (context : Value) (i : Instruction) : Option String :=
  match i.effect context with
  | .error failure => some failure.message
  | .ok (.notify message) => notifier.bind fun n => n.refuses message
  | .ok _ => none

/-- The error that an instruction reports on purpose, if it does: the message of an action of the
kind for errors, when that counts as given. -/
def reported? (i : Instruction) : Option Value :=
  match i.action? with
  | .error _ => none
  | .ok a =>
    match a.kind with
    | .error => if a.message.isTruthy then some a.message else none
    | _ => none

theorem reported?_eq_some_iff {message : Value} :
    i.reported? = some message ↔
      ∃ a, i.action? = .ok a ∧ a.kind = .error ∧ a.message.isTruthy = true ∧
        a.message = message := by
  rw [reported?]
  cases i.action? with
  | error failure => simp
  | ok a =>
      cases hkind : a.kind with
      | error => simp [hkind]
      | _ => simp [hkind]

/-- **Only what is reported on purpose is an effect** that reports. -/
theorem reported?_eq_some_iff_of_effect {e : Effect} (h : i.effect context = .ok e)
    {message : Value} : i.reported? = some message ↔ e = .report message := by
  obtain ⟨a, ha, heffect⟩ := bind_eq_ok_iff.mp h
  have hdone : a.effect context = .ok e := orFail_eq_ok_iff.mp heffect
  rw [reported?_eq_some_iff]
  constructor
  · rintro ⟨a', ha', hkind, hgiven, rfl⟩
    obtain rfl := Except.ok.inj (ha'.symm.trans ha)
    rw [Action.effect, hkind] at hdone
    dsimp only at hdone
    rw [if_pos hgiven] at hdone
    exact (Except.ok.inj hdone).symm
  · rintro rfl
    cases Action.does_of_effect hdone with
    | report hkind hgiven => exact ⟨a, ha, hkind, hgiven, rfl⟩

theorem reported?_eq_none_of_effect {e : Effect} (h : i.effect context = .ok e)
    (hother : ∀ message, e ≠ .report message) : i.reported? = none := by
  refine Option.eq_none_iff_forall_not_mem.mpr fun message hmessage => ?_
  exact hother message ((reported?_eq_some_iff_of_effect h).mp hmessage)

end Instruction

namespace Outcome

variable {notifier : Option Notifier} {context : Value} {i : Instruction}

/-! ### An instruction alone -/

/-- **What an instruction adds that fails**: one error, which names it, and its label. -/
theorem alone_of_failure {reason : String} (h : i.failure? notifier context = some reason) :
    (ofInstructions notifier context [i]).errors = [.text (failureText i.label reason)] ∧
      (ofInstructions notifier context [i]).failed = [i.label] := by
  change (step notifier context empty i).errors = _ ∧ (step notifier context empty i).failed = _
  rw [Instruction.failure?] at h
  rw [step]
  cases heffect : i.effect context with
  | error failure =>
      rw [heffect] at h
      obtain rfl := Option.some.inj h
      exact ⟨rfl, rfl⟩
  | ok effect =>
      rw [heffect] at h
      cases effect with
      | notify message =>
          obtain ⟨n, rfl, hreason⟩ := Option.bind_eq_some_iff.mp h
          simp [apply, notify, hreason, fail, empty]
      | _ => cases h

/-- **What an instruction adds that does not fail**: what it reports on purpose, if anything. -/
theorem alone_of_success (h : i.failure? notifier context = none) :
    (ofInstructions notifier context [i]).errors = i.reported?.toList ∧
      (ofInstructions notifier context [i]).failed = [] := by
  change (step notifier context empty i).errors = _ ∧ (step notifier context empty i).failed = _
  rw [Instruction.failure?] at h
  rw [step]
  cases heffect : i.effect context with
  | error failure =>
      rw [heffect] at h
      cases h
  | ok effect =>
      rw [heffect] at h
      cases effect with
      | report message =>
          rw [(Instruction.reported?_eq_some_iff_of_effect heffect).mpr rfl]
          exact ⟨rfl, rfl⟩
      | notify message =>
          rw [Instruction.reported?_eq_none_of_effect heffect fun _ => Effect.noConfusion]
          cases notifier with
          | none => exact ⟨rfl, rfl⟩
          | some n =>
              have hreason : n.refuses message = none := h
              simp [apply, notify, hreason, empty]
      | _ =>
          rw [Instruction.reported?_eq_none_of_effect heffect fun _ => Effect.noConfusion]
          exact ⟨rfl, rfl⟩

/-! ### Values -/

/-- A step that fails leaves the values as they were. -/
theorem values_step_of_failure {reason : String}
    (h : i.failure? notifier context = some reason) (o : Outcome) :
    (step notifier context o i).values = o.values := by
  rw [Instruction.failure?] at h
  rw [step]
  cases heffect : i.effect context with
  | error failure => rfl
  | ok effect =>
      rw [heffect] at h
      cases effect with
      | notify message => exact values_notify o notifier i.label message
      | _ => cases h

/-- The values that a step leaves depend on the values before it alone. -/
theorem values_step_congr {o o' : Outcome} (h : o.values = o'.values) (i : Instruction) :
    (step notifier context o i).values = (step notifier context o' i).values := by
  rw [step, step]
  cases i.effect context with
  | error failure => exact h
  | ok effect =>
      cases effect with
      | notify message =>
          exact (values_notify o _ _ _).trans (h.trans (values_notify o' _ _ _).symm)
      | nothing => exact h
      | report message => exact h
      | write key value => simp only [apply, h]
      | trigger workflow => simp only [apply, h]

/-- **The values that steps leave depend on the values before them alone.** -/
theorem values_foldl_congr {o o' : Outcome} (h : o.values = o'.values) (is : List Instruction) :
    (is.foldl (step notifier context) o).values =
      (is.foldl (step notifier context) o').values := by
  induction is generalizing o o' with
  | nil => exact h
  | cons i is ih => exact ih (values_step_congr h i)

/-- An instruction that fails may as well be left out, as far as the values go. -/
theorem values_ofInstructions_of_failure {reason : String}
    (h : i.failure? notifier context = some reason) (before after : List Instruction) :
    (ofInstructions notifier context (before ++ i :: after)).values =
      (ofInstructions notifier context (before ++ after)).values := by
  simp only [ofInstructions, List.foldl_append, List.foldl_cons]
  exact values_foldl_congr (values_step_of_failure h _) after

end Outcome

/-- An instruction is **isolated** among others: of the outcomes of those before it, of those after
it, of both without it and of all, the last adds to the third what the instruction alone accounts
for. -/
structure Instruction.IsIsolated (notifier : Option Notifier) (context : Value) (i : Instruction)
    (first last without whole : Outcome) : Prop where
  errors : without.errors = first.errors ++ last.errors
  failed : without.failed = first.failed ++ last.failed
  failure : ∀ reason, i.failure? notifier context = some reason →
    whole.values = without.values ∧
    whole.errors = first.errors ++ .text (Outcome.failureText i.label reason) :: last.errors ∧
    whole.failed = first.failed ++ i.label :: last.failed
  success : i.failure? notifier context = none →
    whole.failed = without.failed ∧
    whole.errors = first.errors ++ i.reported?.toList ++ last.errors

open Outcome in
/-- The steps of instructions isolate each of them. -/
theorem isIsolated_ofInstructions (notifier : Option Notifier) (context : Value)
    (before after : List Instruction) (i : Instruction) :
    i.IsIsolated notifier context (ofInstructions notifier context before)
      (ofInstructions notifier context after) (ofInstructions notifier context (before ++ after))
      (ofInstructions notifier context (before ++ i :: after)) := by
  have hwithout := adds_ofInstructions notifier context before after
  have hwhole := adds_ofInstructions notifier context before (i :: after)
  have hrest := adds_ofInstructions notifier context [i] after
  rw [List.singleton_append] at hrest
  refine ⟨hwithout.errors, hwithout.failed, ?_, ?_⟩
  · intro reason hreason
    obtain ⟨herrors, hfailed⟩ := alone_of_failure hreason
    refine ⟨values_ofInstructions_of_failure hreason before after, ?_, ?_⟩
    · rw [hwhole.errors, hrest.errors, herrors, List.singleton_append]
    · rw [hwhole.failed, hrest.failed, hfailed, List.singleton_append]
  · intro hnone
    obtain ⟨herrors, hfailed⟩ := alone_of_success hnone
    constructor
    · rw [hwhole.failed, hrest.failed, hfailed, List.nil_append, hwithout.failed]
    · rw [hwhole.errors, hrest.errors, herrors, List.append_assoc]

/-- **A failure stays where it is, if its label can be written.** An instruction among others fails
or not whatever they are. When all labels can be written, the instructions are carried out to the
end. If the one fails, the values are those that the others leave without it, and it adds one error
and its label between theirs. If it does not, it adds no label, and it adds an error only on
purpose: when it is an action of the kind for errors whose message counts as given. But the first
instruction with a label that cannot be written ends everything with a fault. Those after it are not
carried out, and what those before it led to is lost but for their messages. -/
theorem ofInstructions_isolates (notifier : Option Notifier) (context : Value)
    (before after : List Instruction) (i : Instruction) :
    ((∀ j ∈ before ++ i :: after, j.kindValue.isWritable = true) →
      ∃ first last without whole,
        (Course.ofInstructions notifier context before).finish = .ok first ∧
        (Course.ofInstructions notifier context after).finish = .ok last ∧
        (Course.ofInstructions notifier context (before ++ after)).finish = .ok without ∧
        (Course.ofInstructions notifier context (before ++ i :: after)).finish = .ok whole ∧
        i.IsIsolated notifier context first last without whole) ∧
    (∀ message, i.reported? = some message ↔
      ∃ a, i.action? = .ok a ∧ a.kind = .error ∧ a.message.isTruthy = true ∧
        a.message = message) ∧
    ∀ done j rest, before ++ i :: after = done ++ j :: rest →
      (∀ k ∈ done, k.kindValue.isWritable = true) → j.kindValue.isWritable = false →
      let course := Course.ofInstructions notifier context (before ++ i :: after)
      course.finish = .error .integerTooLong ∧
      course.outcome.notified = (Outcome.ofInstructions notifier context done).notified := by
  refine ⟨fun hwritable => ?_, fun _ => Instruction.reported?_eq_some_iff, ?_⟩
  · obtain ⟨hbefore, hrest⟩ := List.forall_mem_append.mp hwritable
    obtain ⟨-, hafter⟩ := List.forall_mem_cons.mp hrest
    have hwithout := List.forall_mem_append.mpr ⟨hbefore, hafter⟩
    exact ⟨_, _, _, _, Course.finish_eq_ok_iff.mpr ⟨hbefore, rfl⟩,
      Course.finish_eq_ok_iff.mpr ⟨hafter, rfl⟩, Course.finish_eq_ok_iff.mpr ⟨hwithout, rfl⟩,
      Course.finish_eq_ok_iff.mpr ⟨hwritable, rfl⟩,
      isIsolated_ofInstructions notifier context before after i⟩
  · intro done j rest hsplit hdone hj course
    have hcourse : course = ⟨.ofInstructions notifier context done, some .integerTooLong⟩ := by
      rw [← Course.ofInstructions_of_not_writable hdone hj rest, ← hsplit]
    rw [hcourse]
    exact ⟨rfl, rfl⟩

/-- An action that would write under a key that cannot be one. -/
def unhashableAction : Instruction :=
  .written (.mapping [("type", .text "set_field"), ("field", .list [.null]), ("value", .int 1)])

/-- An action that reports a message. -/
def lateAction : Instruction :=
  .written (.mapping [("type", .text "error"), ("message", .text "Late")])

/-- An action that triggers a workflow. -/
def packAction : Instruction :=
  .written (.mapping [("type", .text "trigger_workflow"), ("value", .text "pack")])

/-- An action that fails, and one that reports on purpose, between two others. -/
theorem ofInstructions_isolates_unhashable :
    unhashableAction.failure? (some .silent) .null = some "unhashable type: 'list'" ∧
    lateAction.failure? (some .silent) .null = none ∧
    (∃ without whole,
      (Course.ofInstructions (some .silent) .null
        ([packAction, lateAction] ++ [packAction])).finish = .ok without ∧
      (Course.ofInstructions (some .silent) .null
        ([packAction, lateAction] ++ unhashableAction :: [packAction])).finish = .ok whole ∧
      whole.values = without.values ∧
      whole.errors = [.text "Late", .text "Action set_field failed: unhashable type: 'list'"]) ∧
    ∃ whole,
      (Course.ofInstructions (some .silent) .null
        ([unhashableAction] ++ lateAction :: [packAction])).finish = .ok whole ∧
      whole.failed = ["set_field"] := by
  have hfailure : unhashableAction.failure? (some .silent) .null =
      some "unhashable type: 'list'" := by decide
  have hsuccess : lateAction.failure? (some .silent) .null = none := by decide
  refine ⟨hfailure, hsuccess, ?_, ?_⟩
  · obtain ⟨hisolates, -⟩ := ofInstructions_isolates (some .silent) .null
      [packAction, lateAction] [packAction] unhashableAction
    obtain ⟨first, last, without, whole, hfirst, hlast, hwithout, hwhole, hisolated⟩ :=
      hisolates (by decide)
    obtain ⟨hvalues, herrors, -⟩ := hisolated.failure _ hfailure
    obtain rfl : _ = first := Except.ok.inj hfirst
    obtain rfl : _ = last := Except.ok.inj hlast
    exact ⟨without, whole, hwithout, hwhole, hvalues, herrors⟩
  · obtain ⟨hisolates, -⟩ := ofInstructions_isolates (some .silent) .null
      [unhashableAction] [packAction] lateAction
    obtain ⟨first, last, without, whole, -, -, hwithout, hwhole, hisolated⟩ :=
      hisolates (by decide)
    obtain ⟨hfailed, -⟩ := hisolated.success hsuccess
    obtain rfl : _ = without := Except.ok.inj hwithout
    exact ⟨whole, hwhole, hfailed⟩

/-- An action of a kind that cannot be written. -/
def longAction : Instruction := .written (.mapping [("type", .tooLong)])

/-- **A failure may not stay where it is.** An action that reports a message does so alone, but not
after one of a kind that cannot be written. -/
theorem ofInstructions_breaks_off :
    (∃ alone, (Course.ofInstructions none .null ([] ++ [lateAction])).finish = .ok alone ∧
      alone.errors = [.text "Late"]) ∧
    (Course.ofInstructions none .null ([] ++ longAction :: [lateAction])).finish =
      .error .integerTooLong := by
  have hlong : longAction.kindValue.isWritable = false := Value.not_isWritable_tooLong
  refine ⟨⟨_, rfl, rfl⟩, Course.finish_of_not_writable fun hall => ?_⟩
  rw [hall longAction List.mem_cons_self] at hlong
  cases hlong

end Rulebook
