import Rulebook.Engine
import Rulebook.Proofs.Success

/-!
# Labels That Are Written

Carrying out an instruction begins with writing its label, outside of the place where the
instruction may fail. Where all labels can be written, carrying out instructions is the fold of
their steps, and nothing goes wrong. Where one cannot, everything ends there with one fault: the
outcome is lost, and of the instructions before it only the messages remain.

A rule therefore has a result exactly when it is labelled, that is when it does not apply or all its
labels can be written. The two ways to evaluate a rule are split here once, and every statement on
runs, merges and answers builds on the split.

## Main definitions

* `Rule.IsLabelled`: a rule writes no label in a context, or can write all of them.
* `Rule.resultOf`: what evaluating a labelled rule gives.

## Main results

* `Course.ofInstructions_of_writable`, `Course.ofInstructions_of_not_writable`: instructions carried
  out to the end, and up to a label that cannot be written.
* `Rule.evaluate_eq_ok_iff`: what a rule that has a result did.
* `Rule.evaluate_of_isLabelled`, `Rule.evaluate_of_not_isLabelled`: the two ways to evaluate a rule.
* `Rule.notified_of_evaluate`: a rule with a result handed over the messages of the result.
-/

namespace Rulebook

variable {notifier : Option Notifier} {context : Value}

namespace Instruction

variable {i : Instruction}

theorem label?_of_isWritable (h : i.kindValue.isWritable = true) : i.label? = .ok i.label :=
  Value.ifWritable_of_isWritable h _

theorem label?_of_not_isWritable (h : i.kindValue.isWritable = false) :
    i.label? = .error .integerTooLong :=
  Value.ifWritable_of_not_isWritable h _

end Instruction

/-! ### Courses -/

namespace Course

variable {o : Outcome} {is js : List Instruction}

/-- Instructions whose labels can be written are carried out, and others after them. -/
theorem carryOn_append (h : ∀ i ∈ is, i.kindValue.isWritable = true) (o : Outcome)
    (js : List Instruction) :
    carryOn notifier context o (is ++ js) =
      carryOn notifier context (is.foldl (Outcome.step notifier context) o) js := by
  induction is generalizing o with
  | nil => rfl
  | cons i rest ih =>
      obtain ⟨hi, hrest⟩ := List.forall_mem_cons.mp h
      rw [List.cons_append, carryOn, Instruction.label?_of_isWritable hi, List.foldl_cons]
      exact ih hrest _

/-- **Instructions whose labels can be written are carried out to the end.** -/
theorem ofInstructions_of_writable (h : ∀ i ∈ is, i.kindValue.isWritable = true) :
    ofInstructions notifier context is = ⟨.ofInstructions notifier context is, none⟩ := by
  have hall : carryOn notifier context .empty (is ++ []) = _ := carryOn_append h .empty []
  rw [List.append_nil] at hall
  exact hall

/-- **A label that cannot be written ends everything** with one fault. -/
theorem ofInstructions_of_not_writable (h : ∀ i ∈ is, i.kindValue.isWritable = true)
    {i : Instruction} (hi : i.kindValue.isWritable = false) (js : List Instruction) :
    ofInstructions notifier context (is ++ i :: js) =
      ⟨.ofInstructions notifier context is, some .integerTooLong⟩ := by
  rw [ofInstructions, carryOn_append h, carryOn, Instruction.label?_of_not_isWritable hi]
  rfl

/-- Where some label cannot be written there is a first one. -/
theorem exists_first_not_writable (h : ¬∀ i ∈ is, i.kindValue.isWritable = true) :
    ∃ before i after, is = before ++ i :: after ∧
      (∀ j ∈ before, j.kindValue.isWritable = true) ∧ i.kindValue.isWritable = false := by
  induction is with
  | nil => exact absurd (List.forall_mem_nil _) h
  | cons i rest ih =>
      cases hi : i.kindValue.isWritable with
      | false => exact ⟨[], i, rest, rfl, List.forall_mem_nil _, hi⟩
      | true =>
          have hrest : ¬∀ j ∈ rest, j.kindValue.isWritable = true :=
            fun hrest => h (List.forall_mem_cons.mpr ⟨hi, hrest⟩)
          obtain ⟨before, j, after, rfl, hbefore, hj⟩ := ih hrest
          exact ⟨i :: before, j, after, rfl, List.forall_mem_cons.mpr ⟨hi, hbefore⟩, hj⟩

/-- Instructions are carried out to the end exactly when their labels can be written. -/
theorem finish_eq_ok_iff :
    (ofInstructions notifier context is).finish = .ok o ↔
      (∀ i ∈ is, i.kindValue.isWritable = true) ∧ .ofInstructions notifier context is = o := by
  by_cases h : ∀ i ∈ is, i.kindValue.isWritable = true
  · rw [ofInstructions_of_writable h, and_iff_right h]
    exact ⟨fun hok => Except.ok.inj hok, fun heq => congrArg Except.ok heq⟩
  · refine iff_of_false ?_ fun hall => h hall.1
    obtain ⟨before, i, after, rfl, hbefore, hi⟩ := exists_first_not_writable h
    rw [ofInstructions_of_not_writable hbefore hi]
    exact fun hok => by cases hok

theorem finish_of_not_writable (h : ¬∀ i ∈ is, i.kindValue.isWritable = true) :
    (ofInstructions notifier context is).finish = .error .integerTooLong := by
  obtain ⟨before, i, after, rfl, hbefore, hi⟩ := exists_first_not_writable h
  rw [ofInstructions_of_not_writable hbefore hi]
  rfl

end Course

/-! ### Rules -/

namespace Rule

variable {r : Rule} {is : List Instruction} {result : Result}

/-- In a context a rule writes no label, for it does not apply, or can write the labels of all its
instructions. -/
def IsLabelled (context : Value) (r : Rule) : Prop :=
  r.applies context = true →
    ∀ i ∈ r.instructions?.toOption.getD [], i.kindValue.isWritable = true

instance (context : Value) (r : Rule) : Decidable (r.IsLabelled context) :=
  inferInstanceAs (Decidable (r.applies context = true →
    ∀ i ∈ r.instructions?.toOption.getD [], i.kindValue.isWritable = true))

theorem isLabelled_of_not_applies (h : r.applies context = false) : r.IsLabelled context := by
  intro happlies
  rw [h] at happlies
  cases happlies

theorem isLabelled_iff (happlies : r.applies context = true) (his : r.instructions? = .ok is) :
    r.IsLabelled context ↔ ∀ i ∈ is, i.kindValue.isWritable = true := by
  rw [IsLabelled, his, imp_iff_right happlies]
  rfl

/-- What evaluating a labelled rule gives, once its instructions are known. -/
def resultOf (notifier : Option Notifier) (context : Value) (r : Rule) (is : List Instruction) :
    Result :=
  if r.applies context then ⟨r.id, true, is, .ofInstructions notifier context is⟩
  else .unmatched r.id

/-- **What a rule that has a result did**: it did not apply, or it carried out its instructions to
the end, whose labels can all be written. -/
theorem evaluate_eq_ok_iff :
    r.evaluate notifier context = .ok result ↔
      (r.applies context = false ∧ .unmatched r.id = result) ∨
      (r.applies context = true ∧ ∃ is, r.instructions? = .ok is ∧
        (∀ i ∈ is, i.kindValue.isWritable = true) ∧
        ⟨r.id, true, is, .ofInstructions notifier context is⟩ = result) := by
  rw [evaluate]
  cases happlies : r.applies context with
  | false => simp
  | true =>
      cases his : r.instructions? with
      | error fault => simp [bind, Except.bind]
      | ok is =>
          simp only [course, his, bind_eq_ok_iff, Course.finish_eq_ok_iff, if_true, pure,
            Except.pure, Except.ok.injEq, exists_eq_left', and_assoc, true_and,
            Bool.true_eq_false, false_and, false_or]
          constructor
          · rintro ⟨-, hwritable, rfl, rfl⟩
            exact ⟨hwritable, rfl⟩
          · rintro ⟨hwritable, rfl⟩
            exact ⟨_, hwritable, rfl, rfl⟩

/-- **A labelled rule has a result.** -/
theorem evaluate_of_isLabelled (his : r.instructions? = .ok is) (h : r.IsLabelled context) :
    r.evaluate notifier context = .ok (r.resultOf notifier context is) := by
  rw [evaluate_eq_ok_iff, resultOf]
  cases happlies : r.applies context with
  | false => exact .inl ⟨rfl, rfl⟩
  | true => exact .inr ⟨rfl, is, his, (isLabelled_iff happlies his).mp h, rfl⟩

/-- **A rule that is not labelled has none**, but a fault. -/
theorem evaluate_of_not_isLabelled (his : r.instructions? = .ok is) (h : ¬r.IsLabelled context) :
    r.evaluate notifier context = .error .integerTooLong := by
  cases happlies : r.applies context with
  | false => exact absurd (isLabelled_of_not_applies happlies) h
  | true =>
      rw [isLabelled_iff happlies his] at h
      rw [evaluate, happlies, if_pos rfl, course, his]
      simp only [Course.finish_of_not_writable h]
      rfl

/-- A rule with a result handed over the messages of the result. -/
theorem notified_of_evaluate (h : r.evaluate notifier context = .ok result) :
    r.notified notifier context = result.outcome.notified := by
  rw [notified]
  rcases evaluate_eq_ok_iff.mp h with ⟨happlies, rfl⟩ | ⟨happlies, is, his, hwritable, rfl⟩
  · rw [happlies]
    rfl
  · rw [if_pos happlies, course, his]
    simp only [Course.ofInstructions_of_writable hwritable]

end Rule

/-- A candidate with a result handed over the messages of the result. -/
theorem Candidate.notified_of_evaluate {c : Candidate} {result : Result}
    (h : c.evaluate notifier context = .ok result) :
    c.notified notifier context = result.outcome.notified := by
  cases c with
  | rule r => exact Rule.notified_of_evaluate h
  | other v =>
      obtain rfl := Except.ok.inj h
      rfl

end Rulebook
