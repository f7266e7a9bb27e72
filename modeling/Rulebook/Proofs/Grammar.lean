import Rulebook.Proofs.Condition
import Rulebook.Proofs.Parts
import Rulebook.Proofs.Refusals
import Rulebook.Proofs.Writing

/-!
# The Grammar of Definitions

What a tenant may write as the definition of a rule is spread over many checks and defaults: some
fields have to be there, some may be anything, and some may be anything that does not count as
given. Here the definitions that read are described as they are written, with no mention of reading.
Whether a definition reads does not depend on the time at which it is read, nor do any of its fields
depend on each other.

The description is exact as long as reading can follow the definition, which it cannot when its
conditions are nested too deeply or its priority is an integer beyond the largest binary64 number.
Within these bounds there is one thing that reading does not foresee. The id of a rule is written as
a text, whatever it was, and a definition in the grammar does not read when its id is too long to be
written.

## Main definitions

* `Condition.InGrammar`, `Action.InGrammar`, `Rule.Grammatical`, `Rule.InGrammar`: what is written
  as a condition, an action, the entries of a rule, a rule.

## Main results

* `Condition.exists_readTo?_iff`, `Action.exists_ofValue?_iff`, `Rule.exists_ofEntries?_iff`: what
  reads is what the grammar describes.
* `Rule.ofEntries?_of_not_isWritable`: what is in the grammar ends in a fault when its id cannot be
  written.
* `Rule.ofValue?_grammar`: a definition whose id can be written reads exactly when it is in the
  grammar, and is refused otherwise.
-/

namespace Rulebook

open Rule (fieldOf)

/-! ### Fields -/

namespace Rule

variable {entries : List (String × Value)} {key : String} {v : Value}

theorem fieldOf_eq_null_iff :
    fieldOf entries key = .null ↔
      Value.lookup key entries = none ∨ Value.lookup key entries = some .null := by
  rw [fieldOf]
  cases Value.lookup key entries with
  | none => simp
  | some w => simp

/-- Every other value of a field stands in its entry. -/
theorem fieldOf_eq_iff (hv : v ≠ .null) :
    fieldOf entries key = v ↔ Value.lookup key entries = some v := by
  rw [fieldOf]
  cases Value.lookup key entries with
  | none => simp [hv.symm]
  | some w => simp

theorem height_fieldOf_lt (entries : List (String × Value)) (key : String) :
    (fieldOf entries key).height < (Value.mapping entries).height := by
  rw [fieldOf]
  cases hlookup : Value.lookup key entries with
  | none => exact Nat.succ_pos _
  | some v => exact Value.height_lt_of_lookup hlookup

end Rule

/-! ### Conditions -/

namespace Condition

/-- **What is written as a condition**: `null` or an empty mapping, which stand for none, or a
mapping with an operator. Under `conditions` it has nothing, or `null`, or a list of such values. -/
inductive InGrammar : Value → Prop
  | null : InGrammar .null
  | empty : InGrammar (.mapping [])
  | childless {entries : List (String × Value)} :
      (Value.lookup "operator" entries).isSome = true → fieldOf entries "conditions" = .null →
      InGrammar (.mapping entries)
  | parent {entries : List (String × Value)} {items : List Value} :
      (Value.lookup "operator" entries).isSome = true →
      fieldOf entries "conditions" = .list items → (∀ item ∈ items, InGrammar item) →
      InGrammar (.mapping entries)

theorem inGrammar_of_isBlank {v : Value} (h : v.isBlank = true) : InGrammar v := by
  cases v with
  | null => exact .null
  | mapping entries =>
      cases entries with
      | nil => exact .empty
      | cons e rest => cases h
  | _ => cases h

/-- What reads is in the grammar. -/
theorem inGrammar_of_readTo? {depth : ℕ} {v : Value} {c : Option Condition}
    (h : readTo? depth v = .ok c) : InGrammar v := by
  induction depth generalizing v c with
  | zero => cases h
  | succ depth ih =>
      cases readStep_of_readTo? h with
      | blank hblank => exact inGrammar_of_isBlank hblank
      | childless hoperator hchildren =>
          refine .childless (Option.isSome_of_eq_some hoperator) ?_
          rcases hchildren with hnone | hnull
          · rw [fieldOf, hnone, Option.getD_none]
          · rw [fieldOf, hnull, Option.getD_some]
      | parent hoperator hitems hread =>
          refine .parent (Option.isSome_of_eq_some hoperator) (by rw [fieldOf, hitems]; rfl) ?_
          intro item hitem
          obtain ⟨c, -, hc⟩ := exists_mem_zip_of_forall₂ hread hitem
          exact ih hc

/-- There is a step of reading for what is in the grammar and not nested too deeply. -/
theorem InGrammar.exists_readStep {depth : ℕ} {v : Value} (hv : InGrammar v)
    (hheight : v.height ≤ depth) : ∃ c, ReadStep depth v c := by
  -- Of a step and not of the reading itself: at depth 0 nothing reads, not even what is blank.
  induction hv generalizing depth with
  | null => exact ⟨none, .blank rfl⟩
  | empty => exact ⟨none, .blank rfl⟩
  | childless hoperator hchildren =>
      obtain ⟨operator, hoperator⟩ := Option.isSome_iff_exists.mp hoperator
      exact ⟨_, .childless hoperator (Rule.fieldOf_eq_null_iff.mp hchildren)⟩
  | @parent entries items hoperator hitems _ ih =>
      obtain ⟨operator, hoperator⟩ := Option.isSome_iff_exists.mp hoperator
      have hlookup := (Rule.fieldOf_eq_iff Value.noConfusion).mp hitems
      have hlist := Value.height_lt_of_lookup hlookup
      cases depth with
      | zero => omega
      | succ depth =>
          have hread : ∀ item ∈ items, ∃ c, readTo? (depth + 1) item = .ok c := by
            intro item hitem
            have hitemHeight := Value.height_lt_of_mem hitem
            have hle : item.height ≤ depth := by omega
            obtain ⟨c, hc⟩ := ih item hitem hle
            exact ⟨c, readTo?_of_readStep hc⟩
          obtain ⟨read, hread⟩ := exists_forall₂ hread
          exact ⟨_, .parent hoperator hlookup hread⟩

/-- **What reads as a condition is what is written as one**, as far as reading can follow. -/
theorem exists_readTo?_iff {depth : ℕ} {v : Value} (hheight : v.height < depth) :
    (∃ c, readTo? depth v = .ok c) ↔ InGrammar v := by
  constructor
  · rintro ⟨c, hc⟩
    exact inGrammar_of_readTo? hc
  · intro hv
    cases depth with
    | zero => omega
    | succ depth =>
        obtain ⟨c, hc⟩ := hv.exists_readStep (Nat.le_of_lt_succ hheight)
        exact ⟨c, readTo?_of_readStep hc⟩

/-- What is not nested too deeply fails to read only because it is refused. -/
theorem failsOnly_readTo?_of_height_lt {P : Failure → Prop}
    (hrefused : ∀ r : Refusal, r.family = .definition → P (.refused r)) {depth : ℕ} {v : Value}
    (hheight : v.height < depth) : FailsOnly P (readTo? depth v) := by
  induction depth generalizing v with
  | zero => omega
  | succ depth ih =>
      refine failsOnly_readTo?_succ hrefused fun items hitems item hitem => ih ?_
      have hitemHeight := Value.height_lt_of_mem hitem
      cases v with
      | mapping entries =>
          have hlist := Value.height_lt_of_lookup hitems
          omega
      | _ => cases hitems

end Condition

/-! ### Actions -/

namespace Action

/-- **What is written as an action**: a mapping that has a type, whatever that is. -/
def InGrammar (v : Value) : Prop := (v.get? "type").isSome = true

theorem exists_ofValue?_iff {v : Value} : (∃ a, ofValue? v = .ok a) ↔ InGrammar v := by
  constructor
  · rintro ⟨a, ha⟩
    obtain ⟨entries, kind, rfl, hkind, -⟩ := ofValue?_eq_ok_iff.mp ha
    exact Option.isSome_of_eq_some hkind
  · intro hv
    obtain ⟨kind, hkind⟩ := Option.isSome_iff_exists.mp hv
    cases v with
    | mapping entries => exact ⟨_, ofValue?_eq_ok_iff.mpr ⟨entries, kind, rfl, hkind, rfl⟩⟩
    | _ => cases hkind

end Action

/-! ### Rules -/

namespace Rule

/-- **What is written as the entries of a rule.** Everything that is not mentioned may be missing or
be anything. -/
structure Grammatical (entries : List (String × Value)) : Prop where
  /-- There are an id and a name that count as given. -/
  id : (fieldOf entries "id").isTruthy = true
  name : (fieldOf entries "name").isTruthy = true
  /-- There is nothing that counts as given under `actions`, or a list of actions. -/
  actions : (fieldOf entries "actions").isTruthy = false ∨
    ∃ items, fieldOf entries "actions" = .list items ∧ ∀ item ∈ items, Action.InGrammar item
  /-- A priority that is there, be it `null`, has to be a number, and finite. -/
  priority : ∀ v, Value.lookup "priority" entries = some v →
    (∃ n, v = .int n) ∨ ∃ x, v = .float x ∧ x.isFinite = true
  conditions : Condition.InGrammar (fieldOf entries "conditions")
  /-- Stamps that are texts read as timestamps. -/
  created : ∀ s, fieldOf entries "created_at" = .text s → (readStamp? s).isSome = true
  updated : ∀ s, fieldOf entries "updated_at" = .text s → (readStamp? s).isSome = true

/-- **What is written as a rule.** -/
def InGrammar (v : Value) : Prop := ∃ entries, v = .mapping entries ∧ Grammatical entries

/-- A priority that is an integer is not beyond the largest binary64 number. -/
def PriorityInRange (v : Value) : Prop :=
  ∀ n, v.get? "priority" = some (.int n) → (Binary64.ofInt? n).isSome = true

/-- An id that is given can be written. -/
def IdWritable (v : Value) : Prop := ∀ id, v.get? "id" = some id → id.isWritable = true

variable {now : Timestamp} {entries : List (String × Value)} {v : Value} (ruleId : Value)

/-- An id that is not given is no difficulty. -/
theorem idWritable_mapping_iff :
    IdWritable (.mapping entries) ↔ (fieldOf entries "id").isWritable = true := by
  rw [IdWritable, Value.get?, fieldOf]
  cases Value.lookup "id" entries with
  | none => simp
  | some id => simp

theorem missingFields_eq_nil_iff :
    missingFields entries = [] ↔
      (fieldOf entries "id").isTruthy = true ∧ (fieldOf entries "name").isTruthy = true := by
  simp [missingFields, requiredFields]

/-- The actions read where there are none or a list of actions. -/
theorem exists_actions_iff :
    (∃ written actions, actionsOf? ruleId v = .ok written ∧
        written.mapM Action.ofValue? = .ok actions) ↔
      v.isTruthy = false ∨ ∃ items, v = .list items ∧ ∀ item ∈ items, Action.InGrammar item := by
  simp only [← Action.exists_ofValue?_iff]
  constructor
  · rintro ⟨written, actions, hwritten, hactions⟩
    by_cases hv : v.isTruthy = true
    · rw [actionsOf?, Value.orElse, if_pos hv] at hwritten
      cases v with
      | list items =>
          obtain rfl := Except.ok.inj hwritten
          refine .inr ⟨_, rfl, fun item hitem => ?_⟩
          obtain ⟨a, -, ha⟩ := exists_mem_zip_of_forall₂ (mapM_eq_ok_iff.mp hactions) hitem
          exact ⟨a, ha⟩
      | _ => cases hwritten
    · exact .inl (Bool.eq_false_iff.mpr hv)
  · intro h
    by_cases hv : v.isTruthy = true
    · obtain hfalse | ⟨items, rfl, hitems⟩ := h
      · rw [hv] at hfalse
        cases hfalse
      · obtain ⟨actions, hactions⟩ := exists_forall₂ hitems
        refine ⟨items, actions, ?_, mapM_eq_ok_iff.mpr hactions⟩
        rw [actionsOf?, Value.orElse, if_pos hv]
    · refine ⟨[], [], ?_, rfl⟩
      rw [actionsOf?, Value.orElse, if_neg hv]

/-- A stamp fails to read only where it is a text. -/
theorem exists_stampOf?_iff {key : String} :
    (∃ t, stampOf? now ruleId key v = .ok t) ↔ ∀ s, v = .text s → (readStamp? s).isSome = true := by
  cases v with
  | text s =>
      rw [stampOf?]
      cases hs : readStamp? s with
      | none => simp [hs]
      | some t => simp [hs]
  | _ => simp [stampOf?]

/-- An integer passes as a priority where it counts as a number. -/
theorem checkPriority_int {n : Int} (h : (Binary64.ofInt? n).isSome = true) :
    checkPriority ruleId (.int n) = .ok () := by
  obtain ⟨x, hx⟩ := Option.isSome_iff_exists.mp h
  rw [checkPriority, Numeral.ofInt, hx]
  rfl

/-- The priority that a definition gives or leaves to its default counts as a number. -/
theorem isSome_ofInt?_of_givenPriority (hrange : PriorityInRange (.mapping entries)) (n : Int)
    (h : givenPriority entries = .int n) : (Binary64.ofInt? n).isSome = true := by
  rw [givenPriority] at h
  cases hlookup : Value.lookup "priority" entries with
  | none =>
      obtain rfl : 100 = n := by simpa [hlookup, defaultPriority] using h
      decide +kernel
  | some v =>
      obtain rfl : v = .int n := by simpa [hlookup] using h
      exact hrange n hlookup

/-- The priority passes where it is missing, and where it is a number: an integer that is not too
large, or a finite one. -/
theorem checkPriority_given_iff (hrange : PriorityInRange (.mapping entries)) :
    checkPriority ruleId (givenPriority entries) = .ok () ↔
      ∀ v, Value.lookup "priority" entries = some v →
        (∃ n, v = .int n) ∨ ∃ x, v = .float x ∧ x.isFinite = true := by
  have hint := isSome_ofInt?_of_givenPriority hrange
  rw [givenPriority] at hint ⊢
  cases hlookup : Value.lookup "priority" entries with
  | none =>
      have hdefault : checkPriority ruleId defaultPriority = .ok () :=
        checkPriority_int ruleId (hint 100 (by rw [hlookup]; rfl))
      simp [hdefault]
  | some v =>
      cases v with
      | int n => simp [checkPriority_int ruleId (hint _ (by rw [hlookup]; rfl))]
      | float x => simp [checkPriority]
      | _ => simp [checkPriority]

/-- **What reads as a rule is what is written as one**, with an id that can be written, as far as
reading can follow. -/
theorem exists_ofEntries?_iff (hheight : (Value.mapping entries).height ≤ Condition.depthLimit)
    (hrange : PriorityInRange (.mapping entries)) :
    (∃ r, ofEntries? now entries = .ok r) ↔
      Grammatical entries ∧ (fieldOf entries "id").isWritable = true := by
  have hconditions := Nat.lt_of_lt_of_le (height_fieldOf_lt entries "conditions") hheight
  constructor
  · rintro ⟨r, hr⟩
    obtain ⟨hmissing, hwritable, written, created, updated, condition, actions, hwritten,
      hpriority, hcreated, hupdated, hcondition, hactions, -⟩ := ofEntries?_eq_ok_iff.mp hr
    obtain ⟨hid, hname⟩ := missingFields_eq_nil_iff.mp hmissing
    refine ⟨?_, hwritable⟩
    exact {
      id := hid
      name := hname
      actions := (exists_actions_iff _).mp ⟨written, actions, hwritten, hactions⟩
      priority := (checkPriority_given_iff _ hrange).mp hpriority
      conditions := (Condition.exists_readTo?_iff hconditions).mp ⟨condition, hcondition⟩
      created := (exists_stampOf?_iff _).mp ⟨created, hcreated⟩
      updated := (exists_stampOf?_iff _).mp ⟨updated, hupdated⟩ }
  · rintro ⟨h, hwritable⟩
    have hmissing := missingFields_eq_nil_iff.mpr ⟨h.id, h.name⟩
    have hpriority := (checkPriority_given_iff (fieldOf entries "id") hrange).mpr h.priority
    obtain ⟨written, actions, hwritten, hactions⟩ :=
      (exists_actions_iff (fieldOf entries "id")).mpr h.actions
    obtain ⟨created, hcreated⟩ := (exists_stampOf?_iff (fieldOf entries "id")).mpr h.created
    obtain ⟨updated, hupdated⟩ := (exists_stampOf?_iff (fieldOf entries "id")).mpr h.updated
    obtain ⟨condition, hcondition⟩ := (Condition.exists_readTo?_iff hconditions).mpr h.conditions
    exact ⟨_, ofEntries?_eq_ok_iff.mpr ⟨hmissing, hwritable, written, created, updated, condition,
      actions, hwritten, hpriority, hcreated, hupdated, hcondition, hactions, rfl⟩⟩

/-- **What is written as a rule ends in a fault when its id cannot be written.** This is met after
everything but the condition and the actions, and these read. -/
theorem ofEntries?_of_not_isWritable (h : Grammatical entries)
    (hrange : PriorityInRange (.mapping entries))
    (hid : (fieldOf entries "id").isWritable = false) :
    ofEntries? now entries = .error (.fault .integerTooLong) := by
  have hmissing := missingFields_eq_nil_iff.mpr ⟨h.id, h.name⟩
  have hpriority : checkPriority (fieldOf entries "id")
      ((Value.lookup "priority" entries).getD defaultPriority) = .ok () :=
    (checkPriority_given_iff _ hrange).mpr h.priority
  obtain ⟨written, -, hwritten, -⟩ := (exists_actions_iff (fieldOf entries "id")).mpr h.actions
  obtain ⟨created, hcreated⟩ : ∃ t, stampOf? now (fieldOf entries "id") "created_at" _ = .ok t :=
    (exists_stampOf?_iff _).mpr h.created
  obtain ⟨updated, hupdated⟩ : ∃ t, stampOf? now (fieldOf entries "id") "updated_at" _ = .ok t :=
    (exists_stampOf?_iff _).mpr h.updated
  have hplain : (fieldOf entries "id").plain? = .error .integerTooLong :=
    Value.ifWritable_of_not_isWritable hid _
  simp [ofEntries?, hmissing, hwritten, hpriority, hcreated, hupdated, hplain, Fault.orFail, bind,
    Except.bind]

/-- What reading can follow fails to read only because it is refused, when its id can be
written. -/
theorem failsOnly_ofEntries?_of_height_le {P : Failure → Prop}
    (hrefused : ∀ r : Refusal, r.family = .definition → P (.refused r)) (now : Timestamp)
    (hheight : (Value.mapping entries).height ≤ Condition.depthLimit)
    (hrange : PriorityInRange (.mapping entries))
    (hid : (fieldOf entries "id").isWritable = true) : FailsOnly P (ofEntries? now entries) := by
  have hplain : (fieldOf entries "id").plain? = .ok (fieldOf entries "id").plain :=
    Value.ifWritable_of_isWritable hid _
  have hconditions := Nat.lt_of_lt_of_le (height_fieldOf_lt entries "conditions") hheight
  refine failsOnly_ofEntries? hrefused now
    (Condition.failsOnly_readTo?_of_height_lt hrefused hconditions) (fun n hn => ?_) ?_
  · rw [hn, checkPriority_int _ (isSome_ofInt?_of_givenPriority hrange n hn)]
    exact failsOnly_ok ()
  · rw [hplain]
    exact failsOnly_ok _

/-- **A definition reads exactly when it is in the grammar and its id can be written**, whenever it
is read, as far as reading can follow: where the definition is not nested too deeply and no priority
is an integer beyond the largest number. With an id that can be written it is refused otherwise. In
the grammar with one that cannot, it ends in a fault. -/
theorem ofValue?_grammar (now : Timestamp) (d : Value) (hheight : d.height ≤ Condition.depthLimit)
    (hrange : PriorityInRange d) :
    ((∃ r, ofValue? now d = .ok r) ↔ InGrammar d ∧ IdWritable d) ∧
    (IdWritable d → ¬InGrammar d →
      ∃ r : Refusal, ofValue? now d = .error (.refused r) ∧ r.family = .definition) ∧
    (¬IdWritable d → InGrammar d → ofValue? now d = .error (.fault .integerTooLong)) := by
  have hreads : (∃ r, ofValue? now d = .ok r) ↔ InGrammar d ∧ IdWritable d := by
    cases d with
    | mapping entries =>
        simp [InGrammar, ofValue?, exists_ofEntries?_iff hheight hrange, idWritable_mapping_iff]
    | _ => simp [InGrammar, ofValue?]
  refine ⟨hreads, fun hid hd => ?_, ?_⟩
  · have hrefused : ∀ r : Refusal, r.family = .definition →
        ∃ r' : Refusal, Failure.refused r = .refused r' ∧ r'.family = .definition :=
      fun r hr => ⟨r, rfl, hr⟩
    have hfails : FailsOnly (fun f => ∃ r : Refusal, f = .refused r ∧ r.family = .definition)
        (ofValue? now d) := by
      cases d with
      | mapping entries =>
          exact failsOnly_ofEntries?_of_height_le hrefused now hheight hrange
            (idWritable_mapping_iff.mp hid)
      | _ => exact failsOnly_error (hrefused _ rfl)
    cases hread : ofValue? now d with
    | ok r => exact absurd (hreads.mp ⟨r, hread⟩).1 hd
    | error f =>
        obtain ⟨r, rfl, hr⟩ := hfails f hread
        exact ⟨r, rfl, hr⟩
  · rintro hid ⟨entries, rfl, hentries⟩
    rw [idWritable_mapping_iff, Bool.not_eq_true] at hid
    exact ofEntries?_of_not_isWritable hentries hrange hid

/-- The entries of a rule that has some of everything. -/
def hamperEntries (actions : List Value) : List (String × Value) :=
  [("id", .int 7), ("name", .text "Hamper"),
    ("conditions", .mapping [("operator", .text "and"),
      ("conditions", .list [.null, .mapping [], .mapping [("operator", .int 3)]])]),
    ("actions", .list actions), ("priority", .int 10),
    ("created_at", .text "2024-01-01T00:00:00Z")]

theorem priorityInRange_hamper (actions : List Value) :
    PriorityInRange (.mapping (hamperEntries actions)) := by
  intro n hn
  obtain rfl : 10 = n := Value.int.inj (Option.some.inj hn)
  decide +kernel

theorem inGrammar_hamper : InGrammar (.mapping (hamperEntries [.mapping [("type", .null)]])) := by
  refine ⟨_, rfl, rfl, rfl, .inr ⟨_, rfl, ?_⟩, ?_, .parent rfl rfl ?_, ?_, ?_⟩
  · simp [Action.InGrammar, Value.get?, Value.lookup]
  · simp [hamperEntries, Value.lookup]
  · simp only [List.forall_mem_cons]
    exact ⟨.null, .empty, .childless rfl rfl, List.forall_mem_nil _⟩
  · rintro s hs
    obtain rfl := Value.text.inj hs
    decide +kernel
  · rintro s hs
    cases hs

theorem idWritable_hamper (actions : List Value) : IdWritable (.mapping (hamperEntries actions)) := by
  rw [idWritable_mapping_iff]
  change (Value.int 7).isWritable = true
  decide +kernel

/-- The type of an action may be anything, but it may not be missing. -/
theorem ofValue?_grammar_hamper :
    (∃ r, ofValue? .epoch (.mapping (hamperEntries [.mapping [("type", .null)]])) = .ok r) ∧
    ∃ r : Refusal, ofValue? .epoch (.mapping (hamperEntries [.mapping []])) = .error (.refused r) ∧
      r.family = .definition := by
  obtain ⟨haccepted, -⟩ := ofValue?_grammar .epoch
    (.mapping (hamperEntries [.mapping [("type", .null)]])) (by decide) (priorityInRange_hamper _)
  obtain ⟨-, hrefused, -⟩ := ofValue?_grammar .epoch (.mapping (hamperEntries [.mapping []]))
    (by decide) (priorityInRange_hamper _)
  refine ⟨haccepted.mpr ⟨inGrammar_hamper, idWritable_hamper _⟩,
    hrefused (idWritable_hamper _) ?_⟩
  rintro ⟨entries, heq, h⟩
  obtain rfl := Value.mapping.inj heq
  rcases h.actions with hfalse | ⟨items, hitems, hall⟩
  · cases hfalse
  · obtain rfl := Value.list.inj hitems
    cases hall _ List.mem_cons_self

/-- The entries of a rule with a name, and an id that is too long to be written. -/
def longEntries : List (String × Value) := [("id", .tooLong), ("name", .text "Hamper")]

/-- **What is in the grammar may end in a fault**, and is then neither read nor refused. -/
theorem ofValue?_breaks_off :
    (Value.mapping longEntries).height ≤ 100 ∧ PriorityInRange (.mapping longEntries) ∧
    InGrammar (.mapping longEntries) ∧
    ofValue? .epoch (.mapping longEntries) = .error (.fault .integerTooLong) := by
  have hrange : PriorityInRange (.mapping longEntries) := by
    intro n hn
    cases hn
  have hgrammatical : Grammatical longEntries := {
    id := by decide +kernel
    name := by decide +kernel
    actions := .inl rfl
    priority := fun v hv => by cases hv
    conditions := .null
    created := fun s hs => by cases hs
    updated := fun s hs => by cases hs }
  have hid : (fieldOf longEntries "id").isWritable = false := by
    have hfield : fieldOf longEntries "id" = .tooLong := rfl
    rw [hfield]
    exact Value.not_isWritable_tooLong
  refine ⟨by decide +kernel, hrange, ⟨longEntries, rfl, hgrammatical⟩, ?_⟩
  rw [ofValue?]
  exact ofEntries?_of_not_isWritable hgrammatical hrange hid

end Rule

end Rulebook
