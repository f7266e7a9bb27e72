import Rulebook.Proofs.Labels
import Rulebook.Proofs.Priority

/-!
# Full Runs and Runs That Stop

A set of rules is evaluated to the end, or up to the first rule that matches. The run that stops is
simulated by the full one: it gives what the full run gives, cut at the first match
(`evaluateAll_stop`), whatever stands among the rules and whatever faults come up. For rules that
were read one fault may come up, that of a label which cannot be written, and a run breaks off
there. Without it the full run has one result for each rule, in the order of evaluation.

A run keeps the messages as it goes. That they are the messages of its results, one result after the
other, is shown on the way (`Run.ofCandidates_append`); a run that breaks off has those of the rule
it breaks off at besides.

## Main definitions

* `Result.EndInMatch`: the last of some results matched.
* `Result.IsCut`: some results are cut at the first match.
* `Run.through`, `Run.brokenOff`: a run that went through, and one that broke off at a rule.
* `Run.cut`: a run cut at its first match.

## Main results

* `evaluateAll_stop`: stopping at the first match cuts the full run there.
* `Rule.IsRead.evaluate_ok`: evaluating a rule that was read gives a result if it is labelled.
* `evaluateAll_beginning`: what a run of rules that were read comes to.
* `evaluateAll_full_and_cut`: the results of both runs, their order, and their messages.
-/

namespace Rulebook

/-! ### Results up to the first match -/

namespace Result

/-- The last of some results matched. -/
def EndInMatch (results : List Result) : Prop :=
  ∃ last, results.getLast? = some last ∧ last.matched = true

/-- Some results are others **cut at the first match**: of the beginnings that end in a match they
are the shortest one, and where nothing matches they are all results. -/
structure IsCut (full cut : List Result) : Prop where
  /-- The results that are left come first. -/
  isPrefix : cut <+: full
  /-- No shorter beginning ends in a match. -/
  shortest : ∀ other, other <+: full → EndInMatch other → cut <+: other
  /-- They end in a match unless nothing matches. -/
  ends : EndInMatch cut ∨ (cut = full ∧ ∀ r ∈ full, r.matched = false)

/-- Some results up to the first that matched. -/
def toFirstMatch : List Result → List Result
  | [] => []
  | r :: rest => if r.matched then [r] else r :: toFirstMatch rest

theorem toFirstMatch_of_matched {r : Result} (h : r.matched = true) (rest : List Result) :
    toFirstMatch (r :: rest) = [r] := by
  rw [toFirstMatch, if_pos h]

theorem toFirstMatch_of_not_matched {r : Result} (h : r.matched = false) (rest : List Result) :
    toFirstMatch (r :: rest) = r :: toFirstMatch rest := by
  rw [toFirstMatch, h]
  rfl

theorem toFirstMatch_of_none {results : List Result} (h : ∀ r ∈ results, r.matched = false) :
    toFirstMatch results = results := by
  induction results with
  | nil => rfl
  | cons r rest ih =>
      obtain ⟨hr, hrest⟩ := List.forall_mem_cons.mp h
      rw [toFirstMatch_of_not_matched hr, ih hrest]

/-- A first result that did not match does not decide whether the last one did. -/
theorem endInMatch_cons {r : Result} (h : r.matched = false) {results : List Result} :
    EndInMatch (r :: results) ↔ EndInMatch results := by
  cases results with
  | nil => simp [EndInMatch, h]
  | cons s rest => simp [EndInMatch, List.getLast?_cons_cons]

/-- The results up to the first that matched are cut there. -/
theorem isCut_toFirstMatch (results : List Result) : IsCut results (toFirstMatch results) := by
  induction results with
  | nil =>
      refine ⟨List.prefix_rfl, fun other _ _ => List.nil_prefix, Or.inr ⟨rfl, ?_⟩⟩
      intro r hr
      cases hr
  | cons r rest ih =>
      cases hr : r.matched with
      | true =>
          rw [toFirstMatch_of_matched hr]
          refine ⟨⟨rest, rfl⟩, ?_, Or.inl ⟨r, rfl, hr⟩⟩
          rintro other hother ⟨last, hlast, -⟩
          -- A beginning that has a last result has the first one.
          cases other with
          | nil => cases hlast
          | cons s tail =>
              obtain ⟨rfl, -⟩ := List.cons_prefix_cons.mp hother
              exact ⟨tail, rfl⟩
      | false =>
          rw [toFirstMatch_of_not_matched hr]
          refine ⟨List.cons_prefix_cons.mpr ⟨rfl, ih.isPrefix⟩, ?_, ?_⟩
          · intro other hother hmatch
            cases other with
            | nil =>
                obtain ⟨last, hlast, -⟩ := hmatch
                cases hlast
            | cons s tail =>
                obtain ⟨rfl, htail⟩ := List.cons_prefix_cons.mp hother
                have hrest := ih.shortest tail htail ((endInMatch_cons hr).mp hmatch)
                exact List.cons_prefix_cons.mpr ⟨rfl, hrest⟩
          · rcases ih.ends with hmatch | ⟨heq, hnone⟩
            · exact Or.inl ((endInMatch_cons hr).mpr hmatch)
            · rw [heq]
              exact Or.inr ⟨rfl, List.forall_mem_cons.mpr ⟨hr, hnone⟩⟩

end Result

/-! ### The run that stops -/

namespace Run

variable {notifier : Option Notifier} {context : Value}

theorem finish_eq_ok_iff {run : Run} {results : List Result} :
    run.finish = .ok results ↔ run.fault? = none ∧ run.results = results := by
  rw [finish]
  cases run.fault? <;> simp

/-- A run that went through: without fault, and with the messages of its results. -/
def through (results : List Result) : Run := ⟨results, none, results.flatMap (·.outcome.notified)⟩

/-- A run that broke off at a rule with a label that cannot be written. -/
def brokenOff (notifier : Option Notifier) (context : Value) (results : List Result) (r : Rule) :
    Run :=
  ⟨results, some .integerTooLong,
    results.flatMap (·.outcome.notified) ++ r.notified notifier context⟩

/-- A run cut at its first match. A fault that comes up later is cut away with the rest. -/
def cut (run : Run) : Run :=
  if run.results.any (·.matched) then through (Result.toFirstMatch run.results) else run

/-- The run that stops at the first match is the full run cut there, for candidates in any
order. -/
theorem ofCandidates_stop (cs : List Candidate) :
    ofCandidates true notifier context cs = (ofCandidates false notifier context cs).cut := by
  induction cs with
  | nil => rfl
  | cons c rest ih =>
      rw [ofCandidates, ofCandidates]
      cases hc : c.evaluate notifier context with
      | error fault => rfl
      | ok result =>
          have hsent := Candidate.notified_of_evaluate hc
          cases hresult : result.matched with
          | true => simp [cut, through, hresult, hsent, Result.toFirstMatch_of_matched]
          | false =>
              simp only [hresult, Bool.and_false, Bool.false_eq_true, if_false, ih, cut,
                List.any_cons, Bool.false_or]
              split
              · rw [Result.toFirstMatch_of_not_matched hresult, hsent]
                rfl
              · rfl

/-- **A full run goes on after candidates that have results**, and has their messages first. -/
theorem ofCandidates_append {cs : List Candidate} {results : List Result}
    (h : List.Forall₂ (fun c result => c.evaluate notifier context = .ok result) cs results)
    (rest : List Candidate) :
    ofCandidates false notifier context (cs ++ rest) =
      let run := ofCandidates false notifier context rest
      ⟨results ++ run.results, run.fault?,
        results.flatMap (·.outcome.notified) ++ run.notified⟩ := by
  induction h with
  | nil => rfl
  | cons hhead _ ih =>
      rw [List.cons_append, ofCandidates, hhead]
      simp [ih, Candidate.notified_of_evaluate hhead]

/-- The full run of candidates that all have results goes through. -/
theorem ofCandidates_full {cs : List Candidate} {results : List Result}
    (h : List.Forall₂ (fun c result => c.evaluate notifier context = .ok result) cs results) :
    ofCandidates false notifier context cs = through results := by
  have hall := ofCandidates_append h []
  simp only [List.append_nil, ofCandidates] at hall
  exact hall

/-- A run that went through goes through when it is cut at its first match. -/
theorem cut_through (results : List Result) :
    (through results).cut = through (Result.toFirstMatch results) := by
  rw [cut]
  cases hany : results.any (·.matched) with
  | true => exact if_pos hany
  | false =>
      have hnone : ∀ r ∈ results, r.matched = false := by
        intro r hr
        exact Bool.eq_false_iff.mpr fun h =>
          Bool.eq_false_iff.mp hany (List.any_eq_true.mpr ⟨r, hr, h⟩)
      rw [Result.toFirstMatch_of_none hnone]
      exact if_neg (Bool.eq_false_iff.mp hany)

end Run

/-- **The run that stops at the first match is the full run cut there.** -/
theorem evaluateAll_stop (notifier : Option Notifier) (context : Value) (cs : List Candidate) :
    evaluateAll true notifier context cs = (evaluateAll false notifier context cs).cut := by
  simp only [evaluateAll]
  cases Candidate.inOrder cs with
  | error fault => rfl
  | ok ordered => exact Run.ofCandidates_stop ordered

/-! ### Rules that were read -/

namespace Rule

variable {notifier : Option Notifier} {context : Value}

/-- The instructions of a rule that was read are known. -/
theorem IsRead.instructions_ok {r : Rule} (h : r.IsRead) : ∃ is, r.instructions? = .ok is := by
  obtain ⟨actions, hactions⟩ := h.actions_typed
  exact ⟨actions.map .typed, by rw [instructions?, hactions]⟩

/-- **Evaluating a rule that was read gives a result** if the rule is labelled. -/
theorem IsRead.evaluate_ok {r : Rule} (h : r.IsRead) (notifier : Option Notifier)
    (hlabelled : r.IsLabelled context) : ∃ result, r.evaluate notifier context = .ok result := by
  obtain ⟨is, his⟩ := h.instructions_ok
  exact ⟨_, evaluate_of_isLabelled his hlabelled⟩

theorem IsRead.evaluate_error {r : Rule} (h : r.IsRead) (notifier : Option Notifier)
    (hlabelled : ¬r.IsLabelled context) :
    r.evaluate notifier context = .error .integerTooLong := by
  obtain ⟨is, his⟩ := h.instructions_ok
  exact evaluate_of_not_isLabelled his hlabelled

/-- The rules that some definitions give were read from them. -/
theorem exists_of_mem_readable {now : Timestamp} {definitions : List Value} {r : Rule}
    (h : r ∈ readable now definitions) : ∃ v ∈ definitions, ofValue? now v = .ok r := by
  obtain ⟨v, hv, hread⟩ := List.mem_filterMap.mp h
  refine ⟨v, hv, ?_⟩
  cases hr : ofValue? now v with
  | error failure =>
      rw [hr] at hread
      cases hread
  | ok s =>
      rw [hr] at hread
      obtain rfl := Option.some.inj hread
      rfl

theorem isRead_of_mem_readable {now : Timestamp} {definitions : List Value} {r : Rule}
    (h : r ∈ readable now definitions) : r.IsRead := by
  obtain ⟨v, -, hv⟩ := exists_of_mem_readable h
  exact ⟨now, v, hv⟩

end Rule

/-- Rules that were read are evaluated one after the other in their order. -/
theorem evaluateAll_rules (stop : Bool) (notifier : Option Notifier) (context : Value)
    {rules : List Rule} (h : ∀ r ∈ rules, r.IsRead) :
    evaluateAll stop notifier context (rules.map .rule) =
      Run.ofCandidates stop notifier context ((Rule.arranged rules).map .rule) := by
  rw [evaluateAll, Candidate.inOrder_rules h]

/-- The full run of labelled rules that were read has one result for each, in the order of
evaluation. -/
theorem evaluateAll_full (notifier : Option Notifier) {context : Value} {rules : List Rule}
    (h : ∀ r ∈ rules, r.IsRead) (hlabelled : ∀ r ∈ rules, r.IsLabelled context) :
    ∃ results, evaluateAll false notifier context (rules.map .rule) = .through results ∧
      List.Forall₂ (fun r result => Rule.evaluate notifier context r = .ok result)
        (Rule.arranged rules) results := by
  have hread : ∀ r ∈ Rule.arranged rules, ∃ result, r.evaluate notifier context = .ok result := by
    intro r hr
    have hmem := List.mem_mergeSort.mp hr
    exact (h r hmem).evaluate_ok notifier (hlabelled r hmem)
  obtain ⟨results, hresults⟩ := exists_forall₂ hread
  refine ⟨results, ?_, hresults⟩
  rw [evaluateAll_rules false notifier context h]
  exact Run.ofCandidates_full (List.forall₂_map_left_iff.mpr hresults)

/-- The full run of rules that were read breaks off at the first that is not labelled. -/
theorem evaluateAll_full_brokenOff (notifier : Option Notifier) {context : Value}
    {rules : List Rule} (h : ∀ r ∈ rules, r.IsRead) {before after : List Rule} {r : Rule}
    (harranged : Rule.arranged rules = before ++ r :: after)
    (hbefore : ∀ s ∈ before, s.IsLabelled context) (hr : ¬r.IsLabelled context) :
    ∃ reached,
      evaluateAll false notifier context (rules.map .rule) =
        .brokenOff notifier context reached r ∧
      List.Forall₂ (fun r result => Rule.evaluate notifier context r = .ok result)
        before reached := by
  have hall : ∀ s ∈ before ++ r :: after, s.IsRead := by
    rw [← harranged]
    exact fun s hs => h s (List.mem_mergeSort.mp hs)
  have hresults : ∀ s ∈ before, ∃ result, s.evaluate notifier context = .ok result :=
    fun s hs => (hall s (List.mem_append_left _ hs)).evaluate_ok notifier (hbefore s hs)
  obtain ⟨reached, hreached⟩ := exists_forall₂ hresults
  refine ⟨reached, ?_, hreached⟩
  have hfault : (Candidate.rule r).evaluate notifier context = .error .integerTooLong :=
    (hall r (List.mem_append_right _ List.mem_cons_self)).evaluate_error notifier hr
  have hcandidates : List.Forall₂
      (fun (c : Candidate) result => c.evaluate notifier context = .ok result)
      (before.map .rule) reached := List.forall₂_map_left_iff.mpr hreached
  rw [evaluateAll_rules false notifier context h, harranged, List.map_append, List.map_cons,
    Run.ofCandidates_append hcandidates, Run.ofCandidates, hfault]
  simp [Run.brokenOff, Candidate.notified]

/-- Of rules that are not all labelled there is a first one in the order of evaluation that is
not. -/
theorem Rule.exists_first_not_isLabelled {context : Value} {rules : List Rule}
    (h : ¬∀ r ∈ rules, r.IsLabelled context) :
    ∃ before r after, arranged rules = before ++ r :: after ∧
      (∀ s ∈ before, s.IsLabelled context) ∧ ¬r.IsLabelled context := by
  have harranged : ¬∀ r ∈ arranged rules, r.IsLabelled context :=
    fun hall => h fun r hr => hall r (List.mem_mergeSort.mpr hr)
  generalize arranged rules = ordered at harranged
  induction ordered with
  | nil => exact absurd (List.forall_mem_nil _) harranged
  | cons r rest ih =>
      by_cases hr : r.IsLabelled context
      · have hrest : ¬∀ s ∈ rest, s.IsLabelled context :=
          fun hrest => harranged (List.forall_mem_cons.mpr ⟨hr, hrest⟩)
        obtain ⟨before, s, after, rfl, hbefore, hs⟩ := ih hrest
        exact ⟨r :: before, s, after, rfl, List.forall_mem_cons.mpr ⟨hr, hbefore⟩, hs⟩
      · exact ⟨[], r, rest, rfl, List.forall_mem_nil _, hr⟩

/-- A full run of rules that are not all labelled has no results in the end. -/
theorem finish_full_of_not_isLabelled (notifier : Option Notifier) {context : Value}
    {rules : List Rule} (h : ∀ r ∈ rules, r.IsRead)
    (hlabelled : ¬∀ r ∈ rules, r.IsLabelled context) :
    (evaluateAll false notifier context (rules.map .rule)).finish = .error .integerTooLong := by
  obtain ⟨before, r, after, harranged, hbefore, hr⟩ := Rule.exists_first_not_isLabelled hlabelled
  obtain ⟨reached, hfull, -⟩ := evaluateAll_full_brokenOff notifier h harranged hbefore hr
  rw [hfull]
  rfl

/-- The results of a run that is cut at its first match are those of the first rules. -/
theorem forall₂_toFirstMatch {α : Type} {R : α → Result → Prop} {as : List α}
    {results : List Result} (h : List.Forall₂ R as results) :
    List.Forall₂ R (as.take (Result.toFirstMatch results).length) (Result.toFirstMatch results) := by
  have hcut := List.prefix_iff_eq_take.mp (Result.isCut_toFirstMatch results).isPrefix
  have htaken := List.forall₂_take (Result.toFirstMatch results).length h
  rw [← hcut] at htaken
  exact htaken

/-- **What a run of rules that were read comes to.** It has the results of the first of them, in the
order of evaluation. It goes through, or it breaks off at the next one, which is not labelled. -/
theorem evaluateAll_beginning (stop : Bool) (notifier : Option Notifier) (context : Value)
    {rules : List Rule} (h : ∀ r ∈ rules, r.IsRead) :
    ∃ results,
      List.Forall₂ (fun r result => Rule.evaluate notifier context r = .ok result)
        ((Rule.arranged rules).take results.length) results ∧
      (evaluateAll stop notifier context (rules.map .rule) = .through results ∨
        ∃ r, (Rule.arranged rules)[results.length]? = some r ∧ ¬r.IsLabelled context ∧
          evaluateAll stop notifier context (rules.map .rule) =
            .brokenOff notifier context results r) := by
  by_cases hlabelled : ∀ r ∈ rules, r.IsLabelled context
  · obtain ⟨full, hfull, hresults⟩ := evaluateAll_full notifier h hlabelled
    cases stop with
    | false =>
        refine ⟨full, ?_, .inl hfull⟩
        rw [← hresults.length_eq, List.take_length]
        exact hresults
    | true =>
        refine ⟨Result.toFirstMatch full, forall₂_toFirstMatch hresults, .inl ?_⟩
        rw [evaluateAll_stop, hfull, Run.cut_through]
  · obtain ⟨before, r, after, harranged, hbefore, hr⟩ :=
      Rule.exists_first_not_isLabelled hlabelled
    obtain ⟨reached, hfull, hreached⟩ :=
      evaluateAll_full_brokenOff notifier h harranged hbefore hr
    have hfirst : List.Forall₂ (fun r result => Rule.evaluate notifier context r = .ok result)
        ((Rule.arranged rules).take reached.length) reached := by
      rw [harranged, ← hreached.length_eq, List.take_left]
      exact hreached
    have hnext : (Rule.arranged rules)[reached.length]? = some r := by
      rw [harranged, ← hreached.length_eq, List.getElem?_append_right (Nat.le_refl _),
        Nat.sub_self]
      rfl
    have hbroken := hfull
    cases stop with
    | false => exact ⟨reached, hfirst, .inr ⟨r, hnext, hr, hfull⟩⟩
    | true =>
        rw [evaluateAll_stop, hfull, Run.cut]
        cases hany : (Run.brokenOff notifier context reached r).results.any (·.matched) with
        | true =>
            refine ⟨Result.toFirstMatch reached, ?_, .inl rfl⟩
            have hcut := forall₂_toFirstMatch hfirst
            rw [List.take_take, Nat.min_eq_left
              (Result.isCut_toFirstMatch reached).isPrefix.length_le] at hcut
            exact hcut
        | false => exact ⟨reached, hfirst, .inr ⟨r, hnext, hr, rfl⟩⟩

/-- A run of labelled rules that were read goes through. -/
theorem evaluateAll_through (stop : Bool) (notifier : Option Notifier) {context : Value}
    {rules : List Rule} (h : ∀ r ∈ rules, r.IsRead)
    (hlabelled : ∀ r ∈ rules, r.IsLabelled context) :
    ∃ results, evaluateAll stop notifier context (rules.map .rule) = .through results ∧
      List.Forall₂ (fun r result => Rule.evaluate notifier context r = .ok result)
        ((Rule.arranged rules).take results.length) results := by
  obtain ⟨results, hresults, hrun | ⟨r, hr, hnot, -⟩⟩ :=
    evaluateAll_beginning stop notifier context h
  · exact ⟨results, hrun, hresults⟩
  · have hmem := Rule.mem_of_getElem?_arranged hr
    exact absurd (hlabelled r hmem) hnot

/-- The condition that an order comes to something. -/
def totalCondition : Value :=
  .mapping [("operator", .text ">"), ("field", .text "entity.total"), ("value", .int 0)]

/-- A definition of a rule with a fee, a message and a workflow, of a priority. -/
def feeDefinition (id : String) (priority fee : Int) (active : Bool) : Value :=
  .mapping [
    ("id", .text id), ("name", .text "Fee"), ("priority", .int priority),
    ("is_active", .bool active),
    ("conditions", totalCondition),
    ("actions", .list [
      .mapping [("type", .text "set_field"), ("field", .text "fee"), ("value", .int fee)],
      .mapping [("type", .text "notify"), ("message", .text id)],
      .mapping [("type", .text "trigger_workflow"), ("value", .text id)]])]

/-- Definitions of two rules of one priority and of an inactive rule of a smaller one. -/
def tiedDefinitions : List Value :=
  [feeDefinition "first" 5 1 true, feeDefinition "second" 5 2 true,
    feeDefinition "inactive" 1 3 false]

/-- A context with an order to which the tied rules apply. -/
def orderContext : Value := .mapping [("entity", .mapping [("total", .int 10)])]

end Rulebook
