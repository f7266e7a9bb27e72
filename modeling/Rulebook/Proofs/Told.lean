import Rulebook.Proofs.Safe

/-!
# What an Answer Tells

The answer to the evaluation of one rule tells whether the rule matched, which errors were reported,
and which values were applied, with `null` for every infinity and NaN among them. It does not tell
more of an outcome, and so two outcomes may differ and still be told alike: in what stands for a
`null`, and in the messages that were handed on, as long as nobody refused them. Instructions with
effects that are told alike lead to outcomes that are told alike.

## Main definitions

* `TakesAll`: nobody refuses a message.
* `Effect.told`, `Outcome.told`: what is told of an effect and of an outcome.
* `Instruction.ToldAlike`: two instructions fail alike, or their effects are told alike.
* `Result.IsToldBy`, `Response.Tells`: an answer, and a response, tell a result.
* `Response.AccountsFor`: a response tells a result as far as the result can be told.

## Main results

* `Outcome.told_step`, `Outcome.told_ofInstructions`: one step, and all steps, of instructions that
  are told alike are told alike.
* `Service.isToldBy_of_resultAnswer?`: the answer to a result tells it.
* `Result.IsToldBy.congr`: an answer tells all results that are told alike.
* `Response.AccountsFor.congr`: a response accounts for all results that are told alike.
-/

namespace Rulebook

/-- Nobody refuses a message: there is no notifier, or one that takes every message. -/
def TakesAll (notifier : Option Notifier) : Prop :=
  ∀ n ∈ notifier, ∀ message, n.refuses message = none

theorem takesAll_silent : TakesAll (some .silent) := by
  rintro n hn message
  obtain rfl := Option.some.inj hn
  rfl

/-! ### Values -/

namespace Ledger

/-- Entries with `null` for every infinity and NaN in their values. -/
def entriesTold (es : List (Value × Value)) : List (Value × Value) :=
  es.map fun e => (e.1, e.2.jsonSafe)

/-- A ledger with `null` for every infinity and NaN in its values. -/
def told (l : Ledger) : Ledger := ⟨entriesTold l.entries⟩

theorem entriesTold_write (k v : Value) (es : List (Value × Value)) :
    entriesTold (write k v es) = write k v.jsonSafe (entriesTold es) := by
  induction es with
  | nil => rfl
  | cons e rest ih =>
      cases hsame : e.1.same k with
      | true =>
          have htold : (e.1, e.2.jsonSafe).1.same k = true := hsame
          rw [write_cons_of_same hsame, entriesTold, entriesTold, List.map_cons, List.map_cons,
            write_cons_of_same htold]
      | false =>
          have htold : (e.1, e.2.jsonSafe).1.same k = false := hsame
          rw [entriesTold] at ih
          rw [write_cons_of_not_same hsame, entriesTold, entriesTold, List.map_cons, List.map_cons,
            write_cons_of_not_same htold, ih]
          rfl

theorem told_set (l : Ledger) (k v : Value) : (l.set k v).told = l.told.set k v.jsonSafe :=
  congrArg mk (entriesTold_write k v l.entries)

theorem get?_told (l : Ledger) (k : Value) : l.told.get? k = (l.get? k).map Value.jsonSafe := by
  obtain ⟨es⟩ := l
  rw [told, get?, get?]
  dsimp only
  induction es with
  | nil => rfl
  | cons e rest ih =>
      rw [entriesTold] at ih ⊢
      rw [List.map_cons, find?, find?, ih]
      split <;> rfl

end Ledger

/-! ### Outcomes -/

/-- What is told of an effect: a value with `null` for every infinity and NaN, and no message. -/
def Effect.told : Effect → Effect
  | write key value => write key value.jsonSafe
  | notify _ => nothing
  | effect => effect

/-- Two instructions are told alike in a context: they fail alike, or their effects are told
alike. -/
structure Instruction.ToldAlike (context : Value) (i j : Instruction) : Prop where
  label : i.label = j.label
  effect : (i.effect context).map Effect.told = (j.effect context).map Effect.told

theorem Instruction.ToldAlike.refl {context : Value} (i : Instruction) : i.ToldAlike context i :=
  ⟨rfl, rfl⟩

namespace Outcome

/-- What is told of an outcome: everything but the messages, with `null` for every infinity and NaN
among the values. -/
def told (o : Outcome) : Outcome := { o with values := o.values.told, notified := [] }

variable {o p : Outcome} {notifier notifier' : Option Notifier} {context : Value}

theorem told_fail (o : Outcome) (label message : String) :
    (o.fail label message).told = o.told.fail label message := rfl

/-- A message that nobody refuses is not told. -/
theorem told_notify (h : TakesAll notifier) (o : Outcome) (label : String) (message : Value) :
    (o.notify notifier label message).told = o.told := by
  cases notifier with
  | none => rfl
  | some n =>
      simp only [notify, h n rfl message]
      rfl

/-- The workflows that were triggered are told as values are. -/
theorem workflows_told (l : Ledger) : workflows l.told = (workflows l).map Value.jsonSafe := by
  rw [workflows, workflows, Ledger.get?_told]
  cases l.get? workflowsKey with
  | none => rfl
  | some v =>
      cases v with
      | list items => rw [Option.map_some, Value.jsonSafe_list]
      | float x =>
          rw [Option.map_some, Value.jsonSafe]
          by_cases hx : x.isFinite = true
          · rw [if_pos hx]
            rfl
          · rw [if_neg hx]
            rfl
      | _ => rfl

/-- What is told after an effect hangs on what was told before, and on what is told of it. -/
theorem told_apply (h : TakesAll notifier) (o : Outcome) (label : String) (effect : Effect) :
    (o.apply notifier label effect).told = o.told.apply none label effect.told := by
  cases effect with
  | nothing => rfl
  | write key value =>
      simp only [apply, told, Effect.told, Ledger.told_set]
  | report message => rfl
  | notify message => exact told_notify h o label message
  | trigger workflow =>
      simp only [apply, told, Effect.told, Ledger.told_set, workflows_told, Value.jsonSafe_list,
        List.map_append, List.map_singleton, Value.jsonSafe_text]

/-- **A step of instructions that are told alike is told alike**, when nobody refuses a message. -/
theorem told_step {i j : Instruction} (hnotifier : TakesAll notifier)
    (hnotifier' : TakesAll notifier') (h : i.ToldAlike context j) (ho : o.told = p.told) :
    (step notifier context o i).told = (step notifier' context p j).told := by
  have heffect := h.effect
  rw [step, step, h.label]
  cases hi : i.effect context with
  | ok effect =>
      cases hj : j.effect context with
      | ok effect' =>
          rw [hi, hj] at heffect
          have hsame : effect.told = effect'.told := Except.ok.inj heffect
          dsimp only
          rw [told_apply hnotifier, told_apply hnotifier', ho, hsame]
      | error failure =>
          rw [hi, hj] at heffect
          cases heffect
  | error failure =>
      cases hj : j.effect context with
      | ok effect =>
          rw [hi, hj] at heffect
          cases heffect
      | error failure' =>
          rw [hi, hj] at heffect
          obtain rfl := Except.error.inj heffect
          dsimp only
          rw [told_fail, told_fail, ho]

/-- **All steps of instructions that are told alike are told alike.** -/
theorem told_ofInstructions {is js : List Instruction} (hnotifier : TakesAll notifier)
    (hnotifier' : TakesAll notifier') (h : List.Forall₂ (Instruction.ToldAlike context) is js) :
    (ofInstructions notifier context is).told = (ofInstructions notifier' context js).told := by
  have hrun : ∀ o p : Outcome, o.told = p.told →
      (is.foldl (step notifier context) o).told = (js.foldl (step notifier' context) p).told := by
    induction h with
    | nil => exact fun _ _ ho => ho
    | cons hij _ ih => exact fun o p ho => ih _ _ (told_step hnotifier hnotifier' hij ho)
  exact hrun empty empty rfl

end Outcome

/-- Two labelled rules that apply alike, with instructions that are told alike, have results that
are told alike, whoever the messages are handed to. -/
theorem Rule.evaluate_told {r r' : Rule} {is js : List Instruction} (context : Value)
    {notifier notifier' : Option Notifier} (hr : r.actions = .inl is) (hr' : r'.actions = .inl js)
    (hlabelled : r.IsLabelled context) (hlabelled' : r'.IsLabelled context) (happlies : r.applies context = r'.applies context)
    (halike : List.Forall₂ (Instruction.ToldAlike context) is js) (hnotifier : TakesAll notifier)
    (hnotifier' : TakesAll notifier') :
    ∃ result result', r.evaluate notifier context = .ok result ∧
      r'.evaluate notifier' context = .ok result' ∧ result.matched = result'.matched ∧
      result.outcome.told = result'.outcome.told := by
  have his : r.instructions? = .ok is := by rw [instructions?, hr]
  have hjs : r'.instructions? = .ok js := by rw [instructions?, hr']
  refine ⟨_, _, evaluate_of_isLabelled his hlabelled, evaluate_of_isLabelled hjs hlabelled', ?_⟩
  rw [resultOf, resultOf, happlies]
  cases r'.applies context with
  | false => exact ⟨rfl, rfl⟩
  | true => exact ⟨rfl, Outcome.told_ofInstructions hnotifier hnotifier' halike⟩

/-- Outcomes that are told alike can be written alike, as far as their values go. -/
theorem Outcome.writable_iff_of_told {o p : Outcome} (h : o.told = p.told) :
    Ledger.Writable o.values.entries ↔ Ledger.Writable p.values.entries := by
  have htold : ∀ l : Ledger, Ledger.Writable l.told.entries ↔ Ledger.Writable l.entries := by
    intro l
    change (∀ e ∈ l.entries.map _, _) ↔ ∀ e ∈ l.entries, _
    rw [List.forall_mem_map]
    exact forall₂_congr fun e _ => by rw [Value.isWritable_jsonSafe]
  have hvalues : o.values.told = p.values.told := congrArg Outcome.values h
  rw [← htold, hvalues, htold]

/-! ### Answers -/

/-- An answer tells a result: whether the rule matched, the errors, and the applied values with
`null` for every infinity and NaN. -/
structure Result.IsToldBy (r : Result) (answer : Value) : Prop where
  matched : answer.get? "matched" = some (.bool r.matched)
  errors : answer.get? "errors" = some (.list r.outcome.errors)
  values : ∃ values, Service.valuesOf? r.outcome.values = some values ∧
    answer.get? "applied_values" = some values.jsonSafe

/-- A response tells a result: it is an answer that does. -/
def Response.Tells (response : Response) (r : Result) : Prop :=
  response.status = 200 ∧ ∃ answer, response.content = .json answer ∧ r.IsToldBy answer

/-- A response **accounts for** a result: it tells the result when the values can be written, and
has the status 500 when they cannot. -/
structure Response.AccountsFor (response : Response) (r : Result) : Prop where
  tells : Ledger.Writable r.outcome.values.entries → response.Tells r
  fails : ¬Ledger.Writable r.outcome.values.entries → response.status = 500

/-- Results that one response tells match alike. -/
theorem Response.Tells.matched_eq {response : Response} {r r' : Result} (h : response.Tells r)
    (h' : response.Tells r') : r.matched = r'.matched := by
  obtain ⟨-, answer, hanswer, htells⟩ := h
  obtain ⟨-, answer', hanswer', htells'⟩ := h'
  obtain rfl := Content.json.inj (hanswer.symm.trans hanswer')
  exact Value.bool.inj (Option.some.inj (htells.matched.symm.trans htells'.matched))

namespace Service

/-- The values of a ledger are told as the mapping that they make is made safe. -/
theorem valuesOf?_told (l : Ledger) : valuesOf? l.told = (valuesOf? l).map Value.jsonSafe := by
  have hentries : ∀ es : List (Value × Value),
      (Ledger.entriesTold es).mapM entryOf? = (es.mapM entryOf?).map Value.entriesSafe := by
    intro es
    induction es with
    | nil => rfl
    | cons e rest ih =>
        obtain ⟨key, v⟩ := e
        have hcons : Ledger.entriesTold ((key, v) :: rest) =
            (key, v.jsonSafe) :: Ledger.entriesTold rest := rfl
        rw [hcons, List.mapM_cons, List.mapM_cons, ih]
        cases key with
        | text name => cases rest.mapM entryOf? <;> rfl
        | _ => rfl
  rw [valuesOf?, valuesOf?, Ledger.told]
  dsimp only
  rw [hentries, Option.map_map, Option.map_map]
  rfl

/-- **The answer to a result tells it.** -/
theorem isToldBy_of_resultAnswer? {r : Result} {answer : Value}
    (h : resultAnswer? r = some answer) : r.IsToldBy answer := by
  obtain ⟨errors, herrors, hrest⟩ := Option.bind_eq_some_iff.mp h
  obtain ⟨values, hvalues, hanswer⟩ := Option.bind_eq_some_iff.mp hrest
  obtain rfl := Option.some.inj hanswer
  have hlist := eq_list_of_errorsOf? herrors
  have hsafe : errors.jsonSafe = errors :=
    Value.jsonSafe_of_isCarried errors (isCarried_of_errorsOf? herrors)
  refine ⟨rfl, ?_, values, hvalues, rfl⟩
  rw [← hlist]
  exact congrArg some hsafe

end Service

/-- An answer tells all results that are told alike. -/
theorem Result.IsToldBy.congr {r r' : Result} {answer : Value} (h : r.IsToldBy answer)
    (hmatched : r'.matched = r.matched) (houtcome : r'.outcome.told = r.outcome.told) :
    r'.IsToldBy answer := by
  obtain ⟨values, hvalues, happlied⟩ := h.values
  obtain ⟨hledger, herrors, -, -⟩ := Outcome.mk.inj houtcome
  have htold : (Service.valuesOf? r'.outcome.values).map Value.jsonSafe = some values.jsonSafe := by
    rw [← Service.valuesOf?_told, hledger, Service.valuesOf?_told, hvalues, Option.map_some]
  obtain ⟨values', hvalues', hsafe⟩ := Option.map_eq_some_iff.mp htold
  refine ⟨?_, ?_, values', hvalues', ?_⟩
  · rw [hmatched]
    exact h.matched
  · rw [herrors]
    exact h.errors
  · rw [hsafe]
    exact happlied

/-- A response accounts for all results that are told alike. -/
theorem Response.AccountsFor.congr {response : Response} {r r' : Result}
    (h : response.AccountsFor r) (hmatched : r'.matched = r.matched)
    (houtcome : r'.outcome.told = r.outcome.told) : response.AccountsFor r' := by
  have hwritable := Outcome.writable_iff_of_told houtcome
  constructor
  · intro hvalues
    obtain ⟨hstatus, answer, hanswer, htells⟩ := h.tells (hwritable.mp hvalues)
    exact ⟨hstatus, answer, hanswer, htells.congr hmatched houtcome⟩
  · exact fun hvalues => h.fails (mt hwritable.mpr hvalues)

end Rulebook
