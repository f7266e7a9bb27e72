import Rulebook.Proofs.Catalogue
import Rulebook.Proofs.Merging
import Rulebook.Proofs.Writing

/-!
# How Evaluations End

A tenant's data may run an operation into many faults: a number too large for its format, a key that
cannot be one, digits that are no position, a notifier that refuses its message. None of them leaves
an evaluation. What goes wrong inside a condition makes it false, and what goes wrong inside an
action is reported; this module shows what can go wrong outside of these two. For that it follows
what is left: the sort keys, the instructions, the triggers, and the merging of results, which is
shown for records that nothing has checked. Only the labels of actions remain. One that cannot be
written ends an evaluation, and nothing else does.

## Main definitions

* `Rule.IsSupplied`: a rule that was read from a definition or made by a template.
* `Rule.registeredFor`: the rules registered for an event.
* `Result.record`: a result as a record.

## Main results

* `Rule.IsSupplied.isRead`: rules of templates are no different from rules that were read.
* `Engine.evaluateContext_rules`: what an evaluation in a mapping comes to.
* `Merged.ofRecords?_record`: merging the records of results is merging the results.
* `evaluation_ends`: an operation of the evaluation gives a result, or comes to a rule that is not
  labelled.
* `evaluation_breaks_off`: there are rules with which none does.
-/

namespace Rulebook

/-! ### Rules that are supplied -/

namespace Rule

/-- A rule that a tenant is supplied with: read from any definition, or made by any template from
any arguments, at any moment. -/
inductive IsSupplied : Rule → Prop
  | read {now : Timestamp} {d : Value} {r : Rule} : ofValue? now d = .ok r → IsSupplied r
  | made {now : Timestamp} {category name : Value} {positional : List Value}
      {named : List (String × Value)} {r : Rule} :
      Template.instantiate? now category name positional named = .ok r → IsSupplied r

/-- **A rule that is supplied could have been read**, wherever it comes from. -/
theorem IsSupplied.isRead {r : Rule} (h : r.IsSupplied) : r.IsRead := by
  cases h with
  | @read now d _ hread => exact ⟨now, d, hread⟩
  | made hmade => exact Template.isRead_of_instantiate? hmade

/-- The rules that are registered for an event; all of them when no event is given. -/
def registeredFor (event : Value) (rules : List Rule) : List Rule :=
  if event.isTruthy then rules.filter fun r => r.trigger.same event else rules

theorem mem_of_mem_registeredFor {event : Value} {rules : List Rule} {r : Rule}
    (h : r ∈ registeredFor event rules) : r ∈ rules := by
  rw [registeredFor] at h
  split at h
  · exact (List.mem_filter.mp h).1
  · exact h

theorem mem_of_getElem?_registeredFor {event : Value} {rules : List Rule} {n : ℕ} {r : Rule}
    (h : (arranged (registeredFor event rules))[n]? = some r) : r ∈ rules :=
  mem_of_mem_registeredFor (mem_of_getElem?_arranged h)

theorem length_registeredFor_le (event : Value) (rules : List Rule) :
    (registeredFor event rules).length ≤ rules.length := by
  rw [registeredFor]
  split
  · exact List.length_filter_le _ _
  · exact Nat.le_refl _

end Rule

namespace Candidate

/-- Every rule can be asked for its trigger. -/
theorem registered?_rules (event : Value) (rules : List Rule) :
    registered? event (rules.map .rule) =
      .ok ((rules.filter fun r => r.trigger.same event).map .rule) := by
  induction rules with
  | nil => rfl
  | cons r rest ih =>
      have htrigger : hasTrigger? event (rule r) = .ok (r.trigger.same event) := rfl
      rw [List.map_cons, registered?, htrigger, ih, List.filter_cons]
      cases r.trigger.same event with
      | true => rfl
      | false => rfl

theorem withTrigger?_rules (event : Value) (rules : List Rule) :
    withTrigger? event (rules.map .rule) = .ok ((Rule.registeredFor event rules).map .rule) := by
  rw [withTrigger?, Rule.registeredFor]
  split
  · exact registered?_rules event rules
  · rfl

end Candidate

/-- An evaluation in a mapping is the run of the rules registered for the event, merged and recorded
if it went through. -/
theorem Engine.evaluateContext_eq (engine : Engine) (elapsed : Binary64) (rules : List Rule)
    (entries : List (String × Value)) (event : Value) (stop : Bool) :
    engine.evaluateContext elapsed (rules.map .rule) (.mapping entries) event stop =
      let run := evaluateAll stop engine.notifier (.mapping entries)
        ((Rule.registeredFor event rules).map .rule)
      match run.finish with
      | .error fault => ⟨.error fault, run.notified, engine⟩
      | .ok results => ⟨.ok (.ofResults results), run.notified,
          engine.record elapsed (.ofResults results)⟩ := by
  rw [evaluateContext, Candidate.withTrigger?_rules]
  rfl

/-- **What an evaluation in a mapping comes to**, for rules that were read: the results of the rules
registered for the event, of all of them or of the first ones, merged and recorded. Where the run of
these breaks off the evaluation ends with its fault, and records nothing. -/
theorem Engine.evaluateContext_rules (engine : Engine) (elapsed : Binary64) {rules : List Rule}
    (h : ∀ r ∈ rules, r.IsRead) (entries : List (String × Value)) (event : Value) (stop : Bool) :
    ∃ results,
      List.Forall₂ (fun r result => Rule.evaluate engine.notifier (.mapping entries) r = .ok result)
        ((Rule.arranged (Rule.registeredFor event rules)).take results.length) results ∧
      (engine.evaluateContext elapsed (rules.map .rule) (.mapping entries) event stop =
          ⟨.ok (.ofResults results), results.flatMap (·.outcome.notified),
            engine.record elapsed (.ofResults results)⟩ ∨
        ∃ r, (Rule.arranged (Rule.registeredFor event rules))[results.length]? = some r ∧
          ¬r.IsLabelled (.mapping entries) ∧
          engine.evaluateContext elapsed (rules.map .rule) (.mapping entries) event stop =
            ⟨.error .integerTooLong,
              results.flatMap (·.outcome.notified) ++ r.notified engine.notifier (.mapping entries),
              engine⟩) := by
  have hselected : ∀ r ∈ Rule.registeredFor event rules, r.IsRead :=
    fun r hr => h r (Rule.mem_of_mem_registeredFor hr)
  obtain ⟨results, hresults, hrun⟩ :=
    evaluateAll_beginning stop engine.notifier (.mapping entries) hselected
  refine ⟨results, hresults, ?_⟩
  rw [evaluateContext_eq]
  rcases hrun with hrun | ⟨r, hr, hnot, hrun⟩
  · rw [hrun]
    exact .inl rfl
  · rw [hrun]
    exact .inr ⟨r, hr, hnot, rfl⟩

/-! ### Merging what nothing has checked -/

/-- A result as a record, its values as a list of pairs. -/
def Result.record (r : Result) : Record where
  matched := .bool r.matched
  errors := .list r.outcome.errors
  values := .list (r.outcome.values.entries.map fun e => .list [e.1, e.2])

namespace Record

/-- Pairs are taken as they are when their keys may be keys. -/
theorem pairs?_of_keyed {es : List (Value × Value)} (h : Ledger.Keyed es) (place : Nat) :
    pairs? place (es.map fun e => .list [e.1, e.2]) = .ok es := by
  induction es generalizing place with
  | nil => rfl
  | cons e rest ih =>
      obtain ⟨he, hrest⟩ := Ledger.keyed_cons.mp h
      have hpair : pair? place (.list [e.1, e.2]) = .ok e := by
        have hkey : e.1.hashable = .ok () := he
        simp only [pair?, Value.items?]
        rw [hkey]
        rfl
      rw [List.map_cons, pairs?, hpair, ih hrest]
      rfl

end Record

namespace Merged

/-- Taking in the record of a result is taking in the result. -/
theorem addRecord?_record {r : Result} (h : Ledger.Keyed r.outcome.values.entries) (m : Merged) :
    m.addRecord? r.record = .ok (m.add r) := by
  rw [addRecord?, add]
  cases hmatched : r.matched with
  | false => simp [Result.record, hmatched]
  | true =>
      have hvalues : Record.ledger? r.record.values = .ok r.outcome.values := by
        rw [Result.record, Record.ledger?]
        · simp only [Value.items?]
          dsimp only [bind, Except.bind]
          rw [Record.pairs?_of_keyed h]
          rfl
        · intro entries hentries
          cases hentries
      rw [hvalues]
      simp [Result.record, hmatched, Value.items?, bind, Except.bind, pure, Except.pure]

/-- **Merging the records of results is merging the results**, which therefore never fails. -/
theorem ofRecords?_record {results : List Result}
    (h : ∀ r ∈ results, Ledger.Keyed r.outcome.values.entries) :
    ofRecords? (results.map Result.record) = .ok (ofResults results) := by
  rw [ofRecords?, ofResults]
  generalize empty = m
  induction results generalizing m with
  | nil => rfl
  | cons r rest ih =>
      obtain ⟨hr, hrest⟩ := List.forall_mem_cons.mp h
      rw [List.map_cons, List.foldlM_cons, addRecord?_record hr, List.foldl_cons]
      exact ih hrest (m.add r)

end Merged

/-! ### How operations end -/

/-- **How the operations of an evaluation end** for rules that are supplied. One rule, in any context
and for any notifier, gives a result exactly when it is labelled there, and otherwise one fault. A
run to the end or to the first match has the results of the first rules in their order, and they
merge; it ends there only at a rule that is not labelled. So does the whole evaluation by an engine
in a context that is a mapping. -/
theorem evaluation_ends {rules : List Rule} (h : ∀ r ∈ rules, r.IsSupplied) :
    (∀ notifier context, ∀ r ∈ rules,
      (r.IsLabelled context → ∃ result, r.evaluate notifier context = .ok result) ∧
      (¬r.IsLabelled context → r.evaluate notifier context = .error .integerTooLong)) ∧
    (∀ stop notifier context, ∃ results,
      List.Forall₂ (fun r result => Rule.evaluate notifier context r = .ok result)
        ((Rule.arranged rules).take results.length) results ∧
      Merged.ofRecords? (results.map Result.record) = .ok (Merged.ofResults results) ∧
      let run := evaluateAll stop notifier context (rules.map .rule)
      (run.finish = .ok results ∨
        ∃ r, (Rule.arranged rules)[results.length]? = some r ∧ ¬r.IsLabelled context ∧
          run.finish = .error .integerTooLong)) ∧
    ∀ (engine : Engine) (elapsed : Binary64) (entries : List (String × Value)) (event : Value)
      (stop : Bool), ∃ results : List Result,
        let answer :=
          engine.evaluateContext elapsed (rules.map .rule) (.mapping entries) event stop
        (answer.outcome = .ok (.ofResults results) ∨
          ∃ r, (Rule.arranged (Rule.registeredFor event rules))[results.length]? = some r ∧
            ¬r.IsLabelled (.mapping entries) ∧ answer.outcome = .error .integerTooLong) := by
  have hread : ∀ r ∈ rules, r.IsRead := fun r hr => (h r hr).isRead
  refine ⟨fun notifier context r hr => ⟨(hread r hr).evaluate_ok notifier,
    (hread r hr).evaluate_error notifier⟩, ?_, ?_⟩
  · intro stop notifier context
    obtain ⟨results, hresults, hrun⟩ := evaluateAll_beginning stop notifier context hread
    have hkeyed : ∀ r ∈ results, Ledger.Keyed r.outcome.values.entries :=
      fun r hr => (Rule.isCarriedOut_of_forall₂ hresults r hr).wellFormed.keyed
    refine ⟨results, hresults, Merged.ofRecords?_record hkeyed, ?_⟩
    rcases hrun with hrun | ⟨r, hr, hnot, hrun⟩
    · rw [hrun]
      exact .inl rfl
    · rw [hrun]
      exact .inr ⟨r, hr, hnot, rfl⟩
  · intro engine elapsed entries event stop
    obtain ⟨results, -, hanswer | ⟨r, hr, hnot, hanswer⟩⟩ :=
      engine.evaluateContext_rules elapsed hread entries event stop
    · exact ⟨results, .inl (by rw [hanswer])⟩
    · exact ⟨results, .inr ⟨r, hr, hnot, by rw [hanswer]⟩⟩

/-- A notifier that refuses every message. -/
def Notifier.deaf : Notifier := ⟨fun _ => some "not at home"⟩

/-- Definitions of rules whose conditions and actions run into faults: a position of digits that are
not decimal, a list as a key, a sum that leaves its format, an operation that is not known. -/
def strainedDefinitions : List Value := [
  .mapping [
    ("id", .text "lost"), ("name", .text "Lost"),
    ("conditions", .mapping [("operator", .text "=="), ("field", .text "sizes.²"),
      ("value", .int 1)])],
  .mapping [
    ("id", .text "strained"), ("name", .text "Strained"), ("priority", .int (-3)),
    ("actions", .list [
      .mapping [("type", .text "set_field"), ("field", .list []), ("value", .int 1)],
      .mapping [("type", .text "set_field"), ("field", .list [.null]), ("value", .int 1)],
      .mapping [("type", .text "aggregate"), ("operation", .text "sum"), ("field", .text "total"),
        ("source", .text "sizes")],
      .mapping [("type", .text "aggregate"), ("operation", .text "most"), ("field", .text "most"),
        ("source", .text "sizes")],
      .mapping [("type", .text "notify"), ("message", .text "Strained")]])]]

/-- A context with a list of sizes, of which the first is beyond every binary64 number. -/
def strainedContext : List (String × Value) :=
  [("sizes", .list [.int (Nat.pow 10 400), .float .one])]

/-- The evaluation of rules that run into faults, with a notifier that refuses every message. -/
theorem evaluation_ends_strained :
    (readable .epoch strainedDefinitions).length = 2 ∧
    (∀ r ∈ readable .epoch strainedDefinitions, r.IsSupplied) ∧
    (∀ r ∈ readable .epoch strainedDefinitions, ∃ result,
      r.evaluate (some .deaf) (.list [.null]) = .ok result) ∧
    (∃ results,
      (evaluateAll false (some .deaf) (.mapping strainedContext)
        ((readable .epoch strainedDefinitions).map .rule)).finish = .ok results ∧
      Merged.ofRecords? (results.map Result.record) = .ok (Merged.ofResults results)) ∧
    ∃ evaluation,
      ((⟨some .deaf, some (.ofService "rules")⟩ : Engine).evaluateContext .one
        ((readable .epoch strainedDefinitions).map .rule) (.mapping strainedContext)
        (.text "manual") true).outcome = .ok evaluation := by
  have hlength : (readable .epoch strainedDefinitions).length = 2 := by decide +kernel
  have hsupplied : ∀ r ∈ readable .epoch strainedDefinitions, r.IsSupplied := by
    intro r hr
    obtain ⟨d, -, hread⟩ := Rule.exists_of_mem_readable hr
    exact .read hread
  have hlist : ∀ r ∈ readable .epoch strainedDefinitions, r.IsLabelled (.list [.null]) := by
    decide +kernel
  have hmapping : ∀ r ∈ readable .epoch strainedDefinitions,
      r.IsLabelled (.mapping strainedContext) := by
    decide +kernel
  obtain ⟨halone, hruns, hengine⟩ := evaluation_ends hsupplied
  refine ⟨hlength, hsupplied, fun r hr => (halone _ _ r hr).1 (hlist r hr), ?_, ?_⟩
  · obtain ⟨results, -, hmerge, hfinish | ⟨r, hr, hnot, -⟩⟩ :=
      hruns false (some .deaf) (.mapping strainedContext)
    · exact ⟨results, hfinish, hmerge⟩
    · exact absurd (hmapping r (Rule.mem_of_getElem?_arranged hr)) hnot
  · obtain ⟨results, houtcome | ⟨r, hr, hnot, -⟩⟩ :=
      hengine ⟨some .deaf, some (.ofService "rules")⟩ .one strainedContext (.text "manual") true
    · exact ⟨_, houtcome⟩
    · exact absurd (hmapping r (Rule.mem_of_getElem?_registeredFor hr)) hnot

/-- The definition of a rule with one action, of a kind that cannot be written. -/
def longDefinition : Value :=
  .mapping [("id", .text "r"), ("name", .text "R"),
    ("actions", .list [.mapping [("type", .tooLong)]])]

/-- **A rule that was read may have no result**, not even in an empty context. -/
theorem evaluation_breaks_off :
    (readable .epoch [longDefinition]).length = 1 ∧
    ∀ r ∈ readable .epoch [longDefinition],
      r.evaluate none (.mapping []) = .error .integerTooLong ∧
      (evaluateAll false none (.mapping []) [.rule r]).finish = .error .integerTooLong ∧
      ((⟨none, none⟩ : Engine).evaluateContext .one [.rule r] (.mapping []) .null false).outcome =
        .error .integerTooLong := by
  have hnot : ∀ r ∈ readable .epoch [longDefinition], ¬r.IsLabelled (.mapping []) := by
    decide +kernel
  refine ⟨by decide +kernel, fun r hr => ?_⟩
  have hread : r.IsRead := Rule.isRead_of_mem_readable hr
  have hfinish : (evaluateAll false none (.mapping []) [.rule r]).finish =
      .error .integerTooLong := by
    have hall : ¬∀ s ∈ [r], s.IsLabelled (.mapping []) :=
      fun hall => hnot r hr (hall r (List.mem_singleton_self r))
    exact finish_full_of_not_isLabelled none (List.forall_mem_singleton.mpr hread) hall
  refine ⟨hread.evaluate_error none (hnot r hr), hfinish, ?_⟩
  have hselected : Candidate.withTrigger? .null [.rule r] = .ok [.rule r] := rfl
  rw [Engine.evaluateContext, hselected]
  simp only [hfinish]

end Rulebook
