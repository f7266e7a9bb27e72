import Rulebook.Proofs.Merging
import Rulebook.Proofs.Parts
import Rulebook.Service

/-!
# What Can Be Answered

The answer to an evaluation holds only errors that are texts, and only values under texts, and it
has to be written as JSON. Infinities and NaNs are no difficulty, for they are taken out of values
(`Value.isCarried_jsonSafe`). Errors and keys are: an action may report any value as an error, and
it may write under any key. This module shows that an evaluation can be answered exactly when all
actions that were carried out deal in texts. Integers are a difficulty of another kind: a sum may be
too long to be written, and an answer with it is not sent.

## Main definitions

* `Instruction.isTextual`: what an instruction reports, and what it writes under, are texts.
* `Outcome.IsTextual`: all errors and all keys of an outcome are texts.
* `Result.isWritable`, `Evaluation.isWritable`: no integer that is answered is too long.

## Main results

* `Value.isCarried_jsonSafe`: a value that was made safe is carried by JSON.
* `Outcome.isTextual_ofInstructions`: an outcome is textual when its instructions are.
* `Service.isSome_resultAnswer?_iff`, `Service.isSome_evaluationAnswer?_iff`: what can be answered.
* `Service.isSent_of_resultAnswer?`, `Service.isSent_of_evaluationAnswer?`: which answers are sent.
-/

namespace Rulebook

/-! ### What JSON carries -/

namespace Value

mutual

/-- **A value that was made safe is carried**, whatever stood in it. -/
theorem isCarried_jsonSafe : (v : Value) → v.jsonSafe.isCarried = true
  | float x => by
      rw [jsonSafe]
      split
      · assumption
      · rfl
  | list items => itemsCarried_itemsSafe items
  | mapping entries => entriesCarried_entriesSafe entries
  | absent | null | bool _ | int _ | text _ | timestamp _ => rfl

theorem itemsCarried_itemsSafe : (items : List Value) → itemsCarried (itemsSafe items) = true
  | [] => rfl
  | v :: rest => by
      rw [itemsSafe, itemsCarried, isCarried_jsonSafe v, itemsCarried_itemsSafe rest]
      rfl

theorem entriesCarried_entriesSafe :
    (entries : List (String × Value)) → entriesCarried (entriesSafe entries) = true
  | [] => rfl
  | (_, v) :: rest => by
      rw [entriesSafe, entriesCarried, isCarried_jsonSafe v, entriesCarried_entriesSafe rest]
      rfl

end

mutual

/-- A value that is made safe keeps its integers. -/
theorem isWritable_jsonSafe : (v : Value) → v.jsonSafe.isWritable = v.isWritable
  | float x => by
      rw [jsonSafe]
      split <;> rfl
  | list items => itemsWritable_itemsSafe items
  | mapping entries => entriesWritable_entriesSafe entries
  | absent | null | bool _ | int _ | text _ | timestamp _ => rfl

theorem itemsWritable_itemsSafe :
    (items : List Value) → itemsWritable (itemsSafe items) = itemsWritable items
  | [] => rfl
  | v :: rest => by
      rw [itemsSafe, itemsWritable, isWritable_jsonSafe v, itemsWritable_itemsSafe rest]
      rfl

theorem entriesWritable_entriesSafe :
    (entries : List (String × Value)) →
      entriesWritable (entriesSafe entries) = entriesWritable entries
  | [] => rfl
  | (_, v) :: rest => by
      rw [entriesSafe, entriesWritable, isWritable_jsonSafe v, entriesWritable_entriesSafe rest]
      rfl

end

/-- What was made safe is sent when its integers can be written. -/
theorem isSent_jsonSafe (v : Value) : v.jsonSafe.isSent = v.isWritable := by
  rw [isSent, isCarried_jsonSafe, isWritable_jsonSafe, Bool.true_and]

theorem itemsCarried_iff {items : List Value} :
    itemsCarried items = true ↔ ∀ v ∈ items, v.isCarried = true := by
  induction items with
  | nil => simp [itemsCarried]
  | cons v rest ih => rw [itemsCarried, Bool.and_eq_true, ih, List.forall_mem_cons]

theorem entriesCarried_iff {entries : List (String × Value)} :
    entriesCarried entries = true ↔ ∀ e ∈ entries, e.2.isCarried = true := by
  induction entries with
  | nil => simp [entriesCarried]
  | cons e rest ih => rw [entriesCarried, Bool.and_eq_true, ih, List.forall_mem_cons]

/-- Every part of what is carried is carried. -/
theorem IsPart.isCarried {part v : Value} (h : part.IsPart v) (hv : v.isCarried = true) :
    part.isCarried = true := by
  induction h with
  | self => exact hv
  | item hmem _ ih => exact ih (itemsCarried_iff.mp hv _ hmem)
  | entry hmem _ ih => exact ih (entriesCarried_iff.mp hv _ hmem)

/-- There is no NaN in what is carried. -/
theorem not_isPart_nan_of_isCarried {v : Value} (hv : v.isCarried = true) :
    ¬(float .nan).IsPart v := by
  intro h
  cases h.isCarried hv

end Value

/-! ### Texts -/

open Service (isText)

theorem Service.isText_eq_true_iff {v : Value} : isText v = true ↔ ∃ s, v = .text s := by
  cases v <;> simp [isText]

/-- Only a text is plainly equal to a text. -/
theorem isText_of_same {v w : Value} (hv : isText v = true) (h : v.same w = true) :
    isText w = true := by
  obtain ⟨s, rfl⟩ := Service.isText_eq_true_iff.mp hv
  cases w with
  | text t => rfl
  | _ => cases h

namespace Ledger

/-- All keys of some entries are texts. -/
def Textual (es : List (Value × Value)) : Prop := ∀ e ∈ es, isText e.1 = true

theorem textual_cons {e : Value × Value} {es : List (Value × Value)} :
    Textual (e :: es) ↔ isText e.1 = true ∧ Textual es := List.forall_mem_cons

/-- Keys are texts after a write when they were before and the key written is one. -/
theorem textual_write {es : List (Value × Value)} {k v : Value} :
    Textual (write k v es) ↔ Textual es ∧ isText k = true := by
  induction es with
  | nil => simp [write, Textual]
  | cons e rest ih =>
      cases hsame : e.1.same k with
      | true =>
          rw [write_cons_of_same hsame, textual_cons, textual_cons]
          exact ⟨fun h => ⟨h, isText_of_same h.1 hsame⟩, fun h => h.1⟩
      | false =>
          rw [write_cons_of_not_same hsame, textual_cons, textual_cons, ih, and_assoc]

theorem textual_writeAll {l : Ledger} {ws : List (Value × Value)} :
    Textual (l.writeAll ws).entries ↔ Textual l.entries ∧ Textual ws := by
  induction ws generalizing l with
  | nil => exact ⟨fun h => ⟨h, fun _ hw => by cases hw⟩, fun h => h.1⟩
  | cons w ws ih => rw [writeAll_cons, ih, entries_set, textual_write, textual_cons, and_assoc]

/-- All values of some entries can be written. -/
def Writable (es : List (Value × Value)) : Prop := ∀ e ∈ es, e.2.isWritable = true

instance (es : List (Value × Value)) : Decidable (Writable es) :=
  inferInstanceAs (Decidable (∀ e ∈ es, e.2.isWritable = true))

theorem writable_cons {e : Value × Value} {es : List (Value × Value)} :
    Writable (e :: es) ↔ e.2.isWritable = true ∧ Writable es := List.forall_mem_cons

/-- Values can be written after a write when they could before and the value written can. -/
theorem Writable.write {es : List (Value × Value)} {k v : Value} (hes : Writable es)
    (hv : v.isWritable = true) : Writable (Ledger.write k v es) := by
  induction es with
  | nil => exact List.forall_mem_singleton.mpr hv
  | cons e rest ih =>
      obtain ⟨he, hrest⟩ := writable_cons.mp hes
      cases hsame : e.1.same k with
      | true =>
          rw [write_cons_of_same hsame]
          exact writable_cons.mpr ⟨hv, hrest⟩
      | false =>
          rw [write_cons_of_not_same hsame]
          exact writable_cons.mpr ⟨he, ih hrest⟩

theorem Writable.writeAll {l : Ledger} (hl : Writable l.entries) {ws : List (Value × Value)}
    (hws : Writable ws) : Writable (l.writeAll ws).entries := by
  induction ws generalizing l with
  | nil => exact hl
  | cons w ws ih =>
      obtain ⟨hw, hrest⟩ := writable_cons.mp hws
      rw [writeAll_cons]
      exact ih (hl.write hw) hrest

end Ledger

namespace Instruction

/-- An instruction deals in texts in a context: what it reports is a text, and so is the key that it
writes under. -/
def isTextual (context : Value) (i : Instruction) : Bool :=
  match i.effect context with
  | .ok (.report message) => isText message
  | .ok (.write key _) => isText key
  | _ => true

end Instruction

namespace Outcome

/-- All errors that were reported are texts, and so are all keys that were written under. -/
def IsTextual (o : Outcome) : Prop :=
  (∀ e ∈ o.errors, isText e = true) ∧ Ledger.Textual o.values.entries

variable {notifier : Option Notifier} {context : Value} {o : Outcome}

theorem isTextual_fail {label message : String} :
    (o.fail label message).IsTextual ↔ o.IsTextual := by
  simp [IsTextual, fail, or_imp, forall_and, isText]

theorem isTextual_notify {label : String} {message : Value} :
    (o.notify notifier label message).IsTextual ↔ o.IsTextual := by
  cases notifier with
  | none => rfl
  | some n =>
      simp only [notify]
      split
      · rfl
      · exact isTextual_fail

/-- A step keeps an outcome textual when its instruction is textual. -/
theorem isTextual_step {i : Instruction} :
    (step notifier context o i).IsTextual ↔ o.IsTextual ∧ i.isTextual context = true := by
  rw [step, Instruction.isTextual]
  cases i.effect context with
  | error failure => simp [isTextual_fail]
  | ok effect =>
      cases effect with
      | nothing => simp [apply]
      | notify message => simp [apply, isTextual_notify]
      | report message =>
          simp only [apply, IsTextual, List.forall_mem_append, List.forall_mem_singleton]
          exact and_right_comm
      | write key value =>
          simp only [apply, IsTextual, Ledger.entries_set, Ledger.textual_write]
          exact and_assoc.symm
      | trigger workflow =>
          simp [apply, IsTextual, Ledger.entries_set, Ledger.textual_write, workflowsKey, isText]

theorem isTextual_foldl {is : List Instruction} :
    (is.foldl (step notifier context) o).IsTextual ↔
      o.IsTextual ∧ ∀ i ∈ is, i.isTextual context = true := by
  induction is generalizing o with
  | nil => simp
  | cons i rest ih => rw [List.foldl_cons, ih, isTextual_step, List.forall_mem_cons, and_assoc]

/-- **An outcome is textual when its instructions are.** -/
theorem isTextual_ofInstructions {is : List Instruction} :
    (ofInstructions notifier context is).IsTextual ↔ ∀ i ∈ is, i.isTextual context = true := by
  rw [ofInstructions, isTextual_foldl]
  simp [IsTextual, empty, Ledger.Textual, Ledger.empty]

end Outcome

/-! ### Answers -/

/-- What holds of no entries, and of the entries of a ledger with those of another written over
them, holds of merged results when it holds of all results. -/
theorem Merged.forall_ofResults {P : List (Value × Value) → Prop} (hempty : P [])
    (hwritten : ∀ (l : Ledger) ws, P l.entries → P ws → P (l.writeAll ws).entries)
    {results : List Result} (h : ∀ r ∈ results, P r.outcome.values.entries) :
    P (ofResults results).values.entries := by
  have hmatched : ∀ r ∈ results.filter (·.matched), P r.outcome.values.entries :=
    fun r hr => h r (List.mem_filter.mp hr).1
  rw [ofResults_eq_foldl_take]
  generalize results.filter (·.matched) = matched at hmatched
  have hstart : P empty.values.entries := hempty
  generalize empty = m at hstart
  induction matched generalizing m with
  | nil => exact hstart
  | cons r rest ih =>
      obtain ⟨hr, hrest⟩ := List.forall_mem_cons.mp hmatched
      exact ih hrest _ (hwritten m.values _ hstart hr)

/-- Merged results are textual when all results are. -/
theorem Merged.isTextual_ofResults {results : List Result}
    (h : ∀ r ∈ results, r.outcome.IsTextual) :
    (∀ e ∈ (ofResults results).errors, isText e = true) ∧
      Ledger.Textual (ofResults results).values.entries := by
  constructor
  · intro e he
    rw [errors_ofResults] at he
    obtain ⟨r, hr, hmem⟩ := List.mem_flatMap.mp he
    exact (h r (List.mem_filter.mp hr).1).1 e hmem
  · exact forall_ofResults (List.forall_mem_nil _)
      (fun _ _ hl hws => Ledger.textual_writeAll.mpr ⟨hl, hws⟩) fun r hr => (h r hr).2

/-- A result can be written: its id, its actions and its values. Errors that are texts always
can. -/
def Result.isWritable (r : Result) : Bool :=
  r.ruleId.isWritable && r.actions.all (·.toValue.isWritable) &&
    decide (Ledger.Writable r.outcome.values.entries)

/-- An evaluation can be written: its results, and how many of them matched. -/
def Evaluation.isWritable (e : Evaluation) : Bool :=
  (Value.int e.merged.matched).isWritable && e.results.all (·.isWritable)

theorem Result.writable_of_isWritable {r : Result} (h : r.isWritable = true) :
    Ledger.Writable r.outcome.values.entries := by
  rw [isWritable, Bool.and_eq_true, decide_eq_true_iff] at h
  exact h.2

/-- How many of some results matched can be written, when a number can that is not smaller than
theirs. -/
theorem Merged.isWritable_matched {count : ℕ} {results : List Result}
    (hcount : (Value.int count).isWritable = true) (hlength : results.length ≤ count) :
    (Value.int (ofResults results).matched).isWritable = true := by
  rw [Value.isWritable_int_iff, Int.natAbs_natCast] at hcount ⊢
  have hmatched : (ofResults results).matched ≤ results.length := by
    rw [matched_ofResults]
    exact List.length_filter_le _ _
  exact Nat.lt_of_le_of_lt (Nat.le_trans hmatched hlength) hcount

/-- An evaluation of one result can be written when the result can. -/
theorem Evaluation.isWritable_singleton (r : Result) :
    (ofResults [r]).isWritable = r.isWritable := by
  have hcount : (Value.int (Merged.ofResults [r]).matched).isWritable = true :=
    Merged.isWritable_matched (by decide +kernel : (Value.int (1 : ℕ)).isWritable = true)
      (Nat.le_refl 1)
  simp [isWritable, ofResults, hcount]

namespace Service

theorem isSome_errorsOf?_iff {errors : List Value} :
    (errorsOf? errors).isSome = true ↔ ∀ e ∈ errors, isText e = true := by
  rw [errorsOf?, ← List.all_eq_true]
  split <;> simp_all

/-- Errors are answered as the list of them. -/
theorem eq_list_of_errorsOf? {errors : List Value} {v : Value} (h : errorsOf? errors = some v) :
    v = .list errors := by
  rw [errorsOf?] at h
  split at h
  · exact (Option.some.inj h).symm
  · cases h

/-- Errors that are texts are carried by JSON. -/
theorem isCarried_of_errorsOf? {errors : List Value} {v : Value} (h : errorsOf? errors = some v) :
    v.isCarried = true := by
  rw [errorsOf?] at h
  split at h
  · obtain rfl := Option.some.inj h
    refine Value.itemsCarried_iff.mpr fun e he => ?_
    obtain ⟨s, rfl⟩ := isText_eq_true_iff.mp (List.all_eq_true.mp ‹_› e he)
    rfl
  · cases h

theorem isSome_valuesOf?_iff {l : Ledger} :
    (valuesOf? l).isSome = true ↔ Ledger.Textual l.entries := by
  rw [valuesOf?, Option.isSome_map, isSome_mapM_iff]
  refine forall₂_congr fun e _ => ?_
  obtain ⟨key, value⟩ := e
  cases key <;> simp [entryOf?, isText]

/-- Errors that are texts can be written. -/
theorem isWritable_of_errorsOf? {errors : List Value} {v : Value} (h : errorsOf? errors = some v) :
    v.isWritable = true := by
  rw [errorsOf?] at h
  split at h
  · obtain rfl := Option.some.inj h
    refine Value.itemsWritable_iff.mpr fun e he => ?_
    obtain ⟨s, rfl⟩ := isText_eq_true_iff.mp (List.all_eq_true.mp ‹_› e he)
    rfl
  · cases h

/-- Values under texts can be written when all values of the ledger can. -/
theorem isWritable_of_valuesOf? {l : Ledger} {v : Value} (h : valuesOf? l = some v) :
    v.isWritable = decide (Ledger.Writable l.entries) := by
  rw [valuesOf?] at h
  obtain ⟨entries, hentries, rfl⟩ := Option.map_eq_some_iff.mp h
  rw [Bool.eq_iff_iff, decide_eq_true_iff, Value.isWritable, Value.entriesWritable_iff]
  have hvalues : List.Forall₂ (fun e f => e.2 = f.2) l.entries entries := by
    refine (mapM_eq_some_iff.mp hentries).imp fun e f hef => ?_
    obtain ⟨key, value⟩ := e
    cases key <;> cases hef
    rfl
  exact (forall_mem_iff_of_forall₂ hvalues fun _ _ hef => by rw [hef]).symm

/-- A result can be answered exactly when it is textual. -/
theorem isSome_resultAnswer?_iff {r : Result} :
    (resultAnswer? r).isSome = true ↔ r.outcome.IsTextual := by
  rw [Outcome.IsTextual, ← isSome_errorsOf?_iff, ← isSome_valuesOf?_iff, resultAnswer?]
  cases errorsOf? r.outcome.errors with
  | none => simp
  | some errors => cases valuesOf? r.outcome.values <;> simp

/-- The answer to a result is carried by JSON. -/
theorem isCarried_of_resultAnswer? {r : Result} {v : Value} (h : resultAnswer? r = some v) :
    v.isCarried = true := by
  obtain ⟨errors, -, hrest⟩ := Option.bind_eq_some_iff.mp h
  obtain ⟨values, -, hanswer⟩ := Option.bind_eq_some_iff.mp hrest
  obtain rfl := Option.some.inj hanswer
  exact Value.isCarried_jsonSafe _

/-- **The answer to a result is sent when the result can be written.** -/
theorem isSent_of_resultAnswer? {r : Result} {v : Value} (h : resultAnswer? r = some v) :
    v.isSent = r.isWritable := by
  obtain ⟨errors, herrors, hrest⟩ := Option.bind_eq_some_iff.mp h
  obtain ⟨values, hvalues, hanswer⟩ := Option.bind_eq_some_iff.mp hrest
  obtain rfl := Option.some.inj hanswer
  have hactions : Value.itemsWritable (r.actions.map Instruction.toValue) =
      r.actions.all (·.toValue.isWritable) := by
    rw [Bool.eq_iff_iff, Value.itemsWritable_iff, List.forall_mem_map, List.all_eq_true]
  rw [Value.isSent_jsonSafe, Result.isWritable, ← hactions, ← isWritable_of_valuesOf? hvalues]
  simp [Value.isWritable, Value.entriesWritable, isWritable_of_errorsOf? herrors, Bool.and_assoc]

/-- **An evaluation can be answered exactly when its results are textual.** -/
theorem isSome_evaluationAnswer?_iff {results : List Result} {elapsed : Binary64} :
    (evaluationAnswer? (.ofResults results) elapsed).isSome = true ↔
      ∀ r ∈ results, r.outcome.IsTextual := by
  have heach : (results.mapM resultAnswer?).isSome = true ↔ ∀ r ∈ results, r.outcome.IsTextual :=
    isSome_mapM_iff.trans (forall₂_congr fun _ _ => isSome_resultAnswer?_iff)
  rw [← heach]
  constructor
  · intro h
    obtain ⟨answer, hanswer⟩ := Option.isSome_iff_exists.mp h
    obtain ⟨errors, -, hrest⟩ := Option.bind_eq_some_iff.mp hanswer
    obtain ⟨values, -, hrest⟩ := Option.bind_eq_some_iff.mp hrest
    obtain ⟨answers, hanswers, -⟩ := Option.bind_eq_some_iff.mp hrest
    exact Option.isSome_iff_exists.mpr ⟨answers, hanswers⟩
  · intro h
    obtain ⟨herrors, hvalues⟩ := Merged.isTextual_ofResults (heach.mp h)
    obtain ⟨errors, herrors⟩ := Option.isSome_iff_exists.mp (isSome_errorsOf?_iff.mpr herrors)
    obtain ⟨values, hvalues⟩ := Option.isSome_iff_exists.mp (isSome_valuesOf?_iff.mpr hvalues)
    obtain ⟨answers, hanswers⟩ := Option.isSome_iff_exists.mp h
    simp [evaluationAnswer?, Evaluation.ofResults, herrors, hvalues, hanswers]

/-- The answer to an evaluation is carried by JSON when the time it took is. -/
theorem isCarried_of_evaluationAnswer? {results : List Result} {elapsed : Binary64}
    (helapsed : (elapsed.mul millisecondsPerSecond).isFinite = true) {v : Value}
    (h : evaluationAnswer? (.ofResults results) elapsed = some v) : v.isCarried = true := by
  obtain ⟨errors, herrors, hrest⟩ := Option.bind_eq_some_iff.mp h
  obtain ⟨values, -, hrest⟩ := Option.bind_eq_some_iff.mp hrest
  obtain ⟨answers, hanswers, hanswer⟩ := Option.bind_eq_some_iff.mp hrest
  obtain rfl := Option.some.inj hanswer
  have hcarriedErrors : errors.isCarried = true := isCarried_of_errorsOf? herrors
  have hcarriedAnswers : Value.itemsCarried answers = true := by
    refine Value.itemsCarried_iff.mpr fun v hv => ?_
    obtain ⟨r, -, hr⟩ := exists_of_mem_forall₂ (mapM_eq_some_iff.mp hanswers) hv
    exact isCarried_of_resultAnswer? hr
  simp [Value.isCarried, Value.entriesCarried, hcarriedErrors, hcarriedAnswers, helapsed,
    Value.isCarried_jsonSafe]

/-- **The answer to an evaluation is sent when the evaluation can be written**, and the time it took
can. -/
theorem isSent_of_evaluationAnswer? {results : List Result} {elapsed : Binary64}
    (helapsed : (elapsed.mul millisecondsPerSecond).isFinite = true) {v : Value}
    (h : evaluationAnswer? (.ofResults results) elapsed = some v) :
    v.isSent = (Evaluation.ofResults results).isWritable := by
  rw [Value.isSent, isCarried_of_evaluationAnswer? helapsed h, Bool.true_and]
  obtain ⟨errors, herrors, hrest⟩ := Option.bind_eq_some_iff.mp h
  obtain ⟨values, hvalues, hrest⟩ := Option.bind_eq_some_iff.mp hrest
  obtain ⟨answers, hanswers, hanswer⟩ := Option.bind_eq_some_iff.mp hrest
  obtain rfl := Option.some.inj hanswer
  have heach : Value.itemsWritable answers = results.all (·.isWritable) := by
    rw [Bool.eq_iff_iff, Value.itemsWritable_iff, List.all_eq_true]
    refine (forall_mem_iff_of_forall₂ (mapM_eq_some_iff.mp hanswers) fun r v hr => ?_).symm
    rw [← isSent_of_resultAnswer? hr, Value.isSent, isCarried_of_resultAnswer? hr, Bool.true_and]
  have hmerged : results.all (·.isWritable) = true → values.isWritable = true := by
    intro hall
    rw [isWritable_of_valuesOf? hvalues, decide_eq_true_iff]
    refine Merged.forall_ofResults (List.forall_mem_nil _) (fun _ _ hl hws => hl.writeAll hws) ?_
    exact fun r hr => Result.writable_of_isWritable (List.all_eq_true.mp hall r hr)
  rw [Evaluation.isWritable, Evaluation.ofResults]
  simp only [Value.isWritable, Value.entriesWritable, Value.isWritable_jsonSafe,
    isWritable_of_errorsOf? herrors, heach, Bool.true_and, Bool.and_true]
  cases hall : results.all (·.isWritable) with
  | false => rw [Bool.and_false, Bool.and_false]
  | true => rw [hmerged hall, Bool.true_and]

end Service

end Rulebook
