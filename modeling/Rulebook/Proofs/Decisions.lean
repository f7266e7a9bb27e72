import Rulebook.Context
import Rulebook.Proofs.Arguments
import Rulebook.Proofs.Comparisons
import Rulebook.Proofs.Connectives
import Rulebook.Proofs.Paths
import Rulebook.Proofs.Positions
import Rulebook.Proofs.Precedence
import Rulebook.Proofs.Published
import Rulebook.Proofs.Single

/-!
# What the Rules of Templates Decide

A template is adopted for what it decides: orders below a minimum amount, products without stock,
hours outside the opening hours. This module proves for such templates that the rule that is built
decides just that, in every context, from the lookup of the field to the error that is reported.

Numbers are compared as what they count as, on both sides. A field that is missing, that is a NaN or
that does not count as a number at all has no place in the order, so that no rule matches on it. An
argument is taken as the binary64 number that it counts as. This is the argument itself, unless it
is an integer beyond `2⁵³`: two amounts that differ by one may count as the same there.

## Main definitions

* `Condition.IsMet`: a condition holds in a context, however deeply it is nested.
* `Value.under`: what stands under two keys, one after the other.
* `Value.CountsAs`: a value counts as a finite number.
* `Template.Gives`: what is said of the result of the rule built of some arguments.
* `Result.MatchesIff`, `Result.ReportsIff`: a rule matches, or also reports an error, exactly when
  something is the case.

## Main results

* `Condition.isMet_test`, `Condition.isMet_allOf`, `Condition.isMet_anyOf`,
  `Condition.isMet_negation`: when conditions made in code are met.
* `Value.resolvePath_under`: a path of two names leads to what stands under them.
* `Value.exists_countsAs`: a finite number counts as one, and as itself within the bound.
* `Template.gives_matchesIff`, `Template.gives_reportsIff`: a built rule decides what its condition
  says.
* `Template.gives_decisions`: what six templates decide.
-/

namespace Rulebook

/-! ### Conditions made in code -/

namespace Condition

/-- A condition is met in a context, however deeply it is nested. -/
def IsMet (context : Value) (c : Condition) : Prop := c.tree.truth context = .ok true

variable {context : Value} {c d : Condition}

/-- A comparison with a value is met when it holds of what its field leads to. -/
theorem isMet_test {path : String} {found : Value} (hpath : path ≠ "")
    (hfound : context.resolvePath (.text path) = .ok found) (c : Comparison) (given : Value) :
    IsMet context (test c (.text path) given) ↔ c.holds found given = .ok true := by
  have heval : (test c (.text path) given).tree.eval context =
      (test c (.text path) given).tree.truth context :=
    Tree.eval_of_height_le (show 1 ≤ Tree.depthLimit by decide)
  have hmatches : (test c (.text path) given).tree.Matches context ↔
      c.holds found given = .ok true := by
    refine Tree.matches_compare_iff ?_ c
    rw [Tree.found?_text hpath, hfound]
    rfl
  rw [IsMet, ← hmatches, Tree.Matches, heval]

/-- The operators of conditions that are made in code can be written. -/
theorem isNotable_test (c : Comparison) (field given : Value) :
    (test c field given).tree.isNotable = true := by
  cases c <;> rfl

/-- Conditions under a connective have the truth that it makes of theirs. -/
theorem truth_connecting (c : Connective) {cs : List Condition} (h : cs ≠ []) :
    (connecting c cs).tree.truth context = c.join (cs.map fun c => c.tree.truth context) := by
  rw [Tree.tree_connecting, Tree.truth_connecting c _ _ (by simpa using h), List.map_map]
  rfl

/-- Two conditions are both met. -/
theorem isMet_allOf (hc : c.tree.isNotable = true) (hd : d.tree.isNotable = true) :
    IsMet context (allOf [c, d]) ↔ IsMet context c ∧ IsMet context d := by
  obtain ⟨a, ha⟩ : ∃ a, c.tree.truth context = .ok a := Tree.exists_truth _ hc
  obtain ⟨b, hb⟩ : ∃ b, d.tree.truth context = .ok b := Tree.exists_truth _ hd
  rw [IsMet, allOf, truth_connecting _ (List.cons_ne_nil _ _), IsMet, IsMet, List.map_cons,
    List.map_singleton, ha, hb]
  cases a <;> cases b <;> decide

/-- One of two conditions is met. -/
theorem isMet_anyOf (hc : c.tree.isNotable = true) (hd : d.tree.isNotable = true) :
    IsMet context (anyOf [c, d]) ↔ IsMet context c ∨ IsMet context d := by
  obtain ⟨a, ha⟩ : ∃ a, c.tree.truth context = .ok a := Tree.exists_truth _ hc
  obtain ⟨b, hb⟩ : ∃ b, d.tree.truth context = .ok b := Tree.exists_truth _ hd
  rw [IsMet, anyOf, truth_connecting _ (List.cons_ne_nil _ _), IsMet, IsMet, List.map_cons,
    List.map_singleton, ha, hb]
  cases a <;> cases b <;> decide

/-- A negation is met when what it negates is not. -/
theorem isMet_negation (hc : c.tree.isNotable = true) :
    IsMet context (negation c) ↔ ¬IsMet context c := by
  obtain ⟨a, ha⟩ : ∃ a, c.tree.truth context = .ok a := Tree.exists_truth _ hc
  rw [IsMet, negation, truth_connecting _ (List.cons_ne_nil _ _), IsMet, List.map_singleton, ha]
  cases a <;> decide

end Condition

/-! ### Comparisons of texts and with lists -/

namespace Comparison

/-- Only a text is strictly equal to a text. -/
theorem holds_equal_text_iff {found : Value} {s : String} :
    equal.holds found (.text s) = .ok true ↔ found = .text s := by
  rw [holds, Except.ok.injEq]
  cases found <;>
    simp [Value.strictlySame, Value.same, Value.sameScalar, Value.numeric?, Value.kind]

/-- A value that is not among the items of a list is strictly equal to none of them. -/
theorem not_holds_among_iff {found : Value} {items : List Value} :
    ¬among.holds found (.list items) = .ok true ↔
      ∀ item ∈ items, found.strictlySame item = false := by
  simp [holds, Value.isItemOf, Value.isAmong]

end Comparison

/-! ### Fields -/

namespace Value

/-- What stands under a key of what stands under a key; absent where there is nothing. -/
def under (v : Value) (outer inner : String) : Value :=
  ((v.get? outer).bind fun part => part.get? inner).getD absent

/-- A name that is a key and nothing else: it is neither a position nor stands for the length of a
list or for all of its items. -/
def IsOnlyKey (name : String) : Prop :=
  name ≠ wildcard ∧ name ≠ lengthSegment ∧ name.toList.all Text.isDigit = false

instance (name : String) : Decidable (IsOnlyKey name) := inferInstanceAs (Decidable (_ ∧ _))

/-- A name leads to what stands under it, and nowhere from what is no mapping. -/
theorem step_name {name : String} (h : IsOnlyKey name) (v : Value) :
    v.step (text name) = .ok ((v.get? name).getD absent) := by
  obtain ⟨-, hlength, hdigits⟩ := h
  cases v with
  | list items =>
      have hnone : (!name.toList.all Text.isDigit) = true := by rw [hdigits]; rfl
      rw [step, itemAt, if_neg hlength, hnone, Bool.or_true, if_pos rfl]
      rfl
  | mapping entries => rfl
  | _ => rfl

/-- **A path of two names leads to what stands under them**, whatever stands there. -/
theorem resolvePath_under {path outer inner : String}
    (hpath : segments? (text path) = .ok [text outer, text inner]) (houter : IsOnlyKey outer)
    (hinner : IsOnlyKey inner) (v : Value) :
    v.resolvePath (text path) = .ok (v.under outer inner) := by
  have hnext : ∀ {name : String}, IsOnlyKey name → isWildcard (text name) = false :=
    fun h => beq_eq_false_iff_ne.mpr h.1
  rw [resolvePath, hpath]
  change v.resolve [text outer, text inner] = _
  rw [resolve_cons_of_not_wildcard (hnext houter), step_name houter]
  change ((v.get? outer).getD absent).resolve [text inner] = _
  rw [resolve_cons_of_not_wildcard (hnext hinner), step_name hinner, under]
  cases v.get? outer with
  | none => rfl
  | some part => rfl

/-- What was written under a key stands under it. -/
theorem under_of_written {v : Value} {outer : String} (inner : String) (value : Value)
    {entries : List (String × Value)}
    (h : v.get? outer = some (mapping (write inner value entries))) :
    v.under outer inner = value := by
  have hwritten : (mapping (write inner value entries)).get? inner = some value :=
    lookup_write_self inner value entries
  rw [under, h, Option.bind_some, hwritten, Option.getD_some]

/-! ### Numbers -/

/-- A value counts as a finite number. -/
def CountsAs (v : Value) (q : ℚ) : Prop :=
  v.number? = some ((q : WithTop ℚ) : WithBot (WithTop ℚ))

/-- **A finite number counts as one**, and as itself unless it is an integer beyond the bound. -/
theorem exists_countsAs {v : Value} {x : Binary64} (hkind : v.kind = .number)
    (hx : v.toNumber = .ok x) (hfinite : x.isFinite = true) :
    ∃ q, v.CountsAs q ∧ (¬v.IsBeyond → v.rational? = some q) := by
  obtain ⟨p, hrational, hposition, hexact⟩ := exists_rational? hkind hx hfinite
  cases x with
  | finite negative m =>
      have hnearest : Binary64.signed negative m.units = Binary64.nearest p :=
        Option.some.inj hposition
      refine ⟨(Binary64.nearest p : ℚ) / unitsPerOne, ?_, fun hwithin => ?_⟩
      · rw [CountsAs, number?_of_toNumber hx, Binary64.denoted?, hnearest]
      · rw [hrational, hexact hwithin]
  | _ => cases hfinite

/-- An integer up to the bound counts as itself. -/
theorem countsAs_int {n : ℤ} (h : n.natAbs ≤ Binary64.exactBound) : (int n).CountsAs n := by
  obtain ⟨x, hx⟩ : ∃ x, Binary64.ofInt? n = some x := by
    rw [← Option.isSome_iff_exists, Option.isSome_iff_ne_none, ne_eq,
      Binary64.ofInt?_eq_none_iff, not_le]
    exact lt_of_le_of_lt h (by decide +kernel)
  have hread : Numeral.ofInt n = .ok x := Fault.ifNone_eq_ok_iff.mpr hx
  have hkind : (int n).kind = .number := rfl
  obtain ⟨q, hq, hexact⟩ := exists_countsAs hkind hread (Numeral.isFinite_of_ofInt hread)
  have hwithin : ¬(int n).IsBeyond := by
    rintro ⟨m, hm, hbeyond⟩
    obtain rfl := int.inj hm
    exact absurd h (Nat.not_le_of_lt hbeyond)
  obtain rfl : (n : ℚ) = q := Option.some.inj (hexact hwithin)
  exact hq

theorem number?_zero : (int 0).number? = some 0 := countsAs_int (Nat.zero_le _)

/-- What counts as a number, and not as a NaN, can be written. -/
theorem isWritable_of_toNumber {v : Value} {x : Binary64} (hx : v.toNumber = .ok x)
    (hnumber : x.isNaN = false) : v.isWritable = true := by
  induction v using Value.induction with
  | key v hv =>
      cases v with
      | int n =>
          have hsmall : Binary64.ofInt? n ≠ none := by
            intro hnone
            rw [toNumber, Numeral.ofInt, hnone] at hx
            cases hx
          rw [ne_eq, Binary64.ofInt?_eq_none_iff, not_le] at hsmall
          exact isWritable_int_iff.mpr (lt_trans hsmall (by decide +kernel))
      | list => cases hv
      | mapping => cases hv
      | _ => rfl
  | list items ih =>
      cases items with
      | nil => rfl
      | cons v rest =>
          rw [toNumber, itemsToNumber] at hx
          split at hx
          · next hrest =>
            rw [List.isEmpty_iff.mp hrest]
            exact itemsWritable_iff.mpr
              (List.forall_mem_singleton.mpr (ih v List.mem_cons_self hx))
          · obtain rfl := Except.ok.inj hx
            cases hnumber
  | mapping entries =>
      obtain rfl := Except.ok.inj hx
      cases hnumber

/-- The text of what counts as a number can be written. -/
theorem toText?_of_number? {v : Value} {q : WithBot (WithTop ℚ)} (h : v.number? = some q) :
    v.toText? = .ok v.toText := by
  cases hv : v.toNumber with
  | error fault =>
      rw [number?_of_fault hv] at h
      cases h
  | ok x =>
      rw [number?_of_toNumber hv] at h
      refine ifWritable_of_isWritable (isWritable_of_toNumber hv ?_) _
      cases x with
      | nan => cases h
      | _ => rfl

/-- A value does not count as a number where it counts as a NaN or not at all. -/
theorem number?_eq_none_iff {v : Value} :
    v.number? = none ↔ ∀ x, v.toNumber = .ok x → x.isNaN = true := by
  have hnan : ∀ x : Binary64, x.denoted? = none ↔ x.isNaN = true := by
    intro x
    cases x with
    | nan => exact iff_of_true rfl rfl
    | _ => exact iff_of_false (fun h => by cases h) Bool.false_ne_true
  cases hv : v.toNumber with
  | error fault => exact iff_of_true (number?_of_fault hv) fun x hx => by cases hx
  | ok x =>
      rw [number?_of_toNumber hv, hnan]
      constructor
      · rintro hx y ⟨⟩
        exact hx
      · intro h
        exact h x rfl

end Value

/-! ### Results -/

namespace Result

/-- A rule matches exactly when something is the case. -/
def MatchesIff (result : Result) (P : Prop) : Prop := result.matched = true ↔ P

/-- A rule matches exactly when something is the case, and reports an error exactly then. -/
def ReportsIff (result : Result) (P : Prop) : Prop :=
  result.MatchesIff P ∧ (result.outcome.errors ≠ [] ↔ P)

end Result

namespace Outcome

variable (notifier : Option Notifier) (context : Value)

/-- An action that reports an error adds it to those there are, and does nothing else. -/
theorem ofInstructions_concat_report (before : List Instruction) {s : String} (hs : s ≠ "") :
    ofInstructions notifier context (before ++ [.typed (.reportError (.text s))]) =
      let o := ofInstructions notifier context before
      { o with errors := o.errors ++ [.text s] } := by
  have heffect : (Instruction.typed (.reportError (.text s))).effect context =
      .ok (.report (.text s)) := by
    rw [Instruction.effect_of_action rfl]
    simp [Action.effect, Action.reportError, Action.ofKind, Value.isTruthy_text hs, Fault.orFail]
  rw [ofInstructions, List.foldl_append, List.foldl_cons, List.foldl_nil, step, heffect]
  rfl

/-- An action that sets a field writes its value, whatever that is, unless it is absent. -/
theorem ofInstructions_setField {key : String} (hkey : key ≠ "") {v : Value}
    (hv : v.isAbsent = false) :
    ofInstructions notifier context [.typed (.setField (.text key) v)] =
      { empty with values := Ledger.empty.set (.text key) v } := by
  have heffect : (Instruction.typed (.setField (.text key) v)).effect context =
      .ok (.write (.text key) v) := by
    rw [Instruction.effect_of_action rfl]
    simp [Action.effect, Action.setField, Action.ofKind, Action.writing, Value.isTruthy_text hkey,
      hv, Value.hashable, Fault.orFail, Except.map]
  rw [ofInstructions, List.foldl_cons, List.foldl_nil, step, heffect]
  rfl

end Outcome

/-! ### Rules of templates -/

namespace Template

/-- The rule that a template builds of some arguments gives a result that something can be said of:
it is the result of the rule alone, and the only one of a rule set of this rule. -/
def Gives (t : Template) (now : Timestamp) (args : List Value) (notifier : Option Notifier)
    (context : Value) (P : Result → Prop) : Prop :=
  ∃ r result, instantiate? now (.text t.category) (.text t.name) args [] = .ok r ∧
    r.evaluate notifier context = .ok result ∧
    (∀ stop, evaluateAll stop notifier context [.rule r] = .through [result]) ∧ P result

variable {t : Template} {now : Timestamp} {args : List Value} {notifier : Option Notifier}
  {context : Value} {P Q : Result → Prop}

theorem Gives.imp (h : t.Gives now args notifier context P) (himp : ∀ result, P result → Q result) :
    t.Gives now args notifier context Q := by
  obtain ⟨r, result, hbuilt, hevaluate, hrun, hP⟩ := h
  exact ⟨r, result, hbuilt, hevaluate, hrun, himp result hP⟩

/-- What is said of the result is said of one and the same result. -/
theorem Gives.and (hP : t.Gives now args notifier context P)
    (hQ : t.Gives now args notifier context Q) :
    t.Gives now args notifier context fun result => P result ∧ Q result := by
  obtain ⟨r, result, hbuilt, hevaluate, hrun, hP⟩ := hP
  obtain ⟨r', result', hbuilt', hevaluate', -, hQ⟩ := hQ
  obtain rfl := Except.ok.inj (hbuilt.symm.trans hbuilt')
  obtain rfl := Except.ok.inj (hevaluate.symm.trans hevaluate')
  exact ⟨r, result, hbuilt, hevaluate, hrun, hP, hQ⟩

section Draft

variable {d : Draft} {c : Condition} (ht : t ∈ catalogue) (hdraft : t.draft? args [] = .ok d)
  (hguard : d.guard = .typed (some c)) (hheight : c.tree.height ≤ Tree.depthLimit)

include ht hdraft hguard hheight

/-- The rule of a draft carries out the actions of the draft when its condition is met, and does
nothing otherwise. -/
theorem gives_of_draft
    (hmet : Condition.IsMet context c →
      P ⟨(Rule.ofDraft now d).id, true, d.actions, .ofInstructions notifier context d.actions⟩)
    (hnot : ¬Condition.IsMet context c → P (.unmatched (Rule.ofDraft now d).id)) :
    t.Gives now args notifier context P := by
  have hbuilt : instantiate? now (.text t.category) (.text t.name) args [] =
      .ok (Rule.ofDraft now d) := by
    rw [instantiate?_of_not_interferes now ht (by rintro ⟨e, he, -⟩; cases he), hdraft]
    rfl
  have hholds : (Rule.ofDraft now d).applies context = true ↔ Condition.IsMet context c := by
    have heval : c.eval context = c.tree.truth context := Tree.eval_of_height_le hheight
    change (true && d.guard.holds context) = true ↔ _
    rw [hguard, Guard.holds, heval, Bool.true_and, Condition.IsMet]
    cases c.tree.truth context with
    | error fault => exact iff_of_false Bool.false_ne_true (by simp)
    | ok b => exact Except.ok.injEq b true ▸ Iff.rfl
  -- The labels of a template are texts of its own, whatever its arguments are.
  obtain ⟨b, -, hd⟩ := bind_eq_ok_iff.mp hdraft
  obtain ⟨as, has, hnamed⟩ := (isNamed_of_mem_catalogue ht hd).actions
  have hlabelled : (Rule.ofDraft now d).IsLabelled context :=
    Rule.isLabelled_of_isNamed (congrArg Sum.inl has) hnamed context
  have hactions : (Rule.ofDraft now d).instructions? = .ok d.actions := rfl
  have hevaluate : (Rule.ofDraft now d).evaluate notifier context = .ok _ :=
    Rule.evaluate_of_isLabelled hactions hlabelled
  -- A built rule could as well have been read, so that nothing about it fails in a rule set.
  have hread := isRead_of_instantiate? hbuilt
  refine ⟨_, _, hbuilt, hevaluate, fun stop => ?_, ?_⟩
  · rw [evaluateAll_single hread, Service.runRule, hevaluate, Rule.notified_of_evaluate hevaluate]
    simp [Run.through]
  · rw [Rule.resultOf]
    by_cases hc : Condition.IsMet context c
    · rw [if_pos (hholds.mpr hc)]
      exact hmet hc
    · rw [if_neg (hholds.not.mpr hc)]
      exact hnot hc

/-- **The rule of a draft matches as its condition says.** -/
theorem gives_matchesIff {Q : Prop} (hQ : Condition.IsMet context c ↔ Q) :
    t.Gives now args notifier context (·.MatchesIff Q) := by
  refine gives_of_draft ht hdraft hguard hheight (fun hmet => ?_) fun hnot => ?_
  · exact iff_of_true rfl (hQ.mp hmet)
  · exact iff_of_false Bool.false_ne_true (hQ.not.mp hnot)

/-- **The rule of a draft whose last action reports an error reports one as its condition says.** -/
theorem gives_reportsIff (before : List Instruction) {s : String} {Q : Prop}
    (hactions : d.actions = before ++ [.typed (.reportError (.text s))]) (hs : s ≠ "")
    (hQ : Condition.IsMet context c ↔ Q) : t.Gives now args notifier context (·.ReportsIff Q) := by
  refine gives_of_draft ht hdraft hguard hheight (fun hmet => ?_) fun hnot => ?_
  · refine ⟨iff_of_true rfl (hQ.mp hmet), iff_of_true ?_ (hQ.mp hmet)⟩
    change (Outcome.ofInstructions notifier context d.actions).errors ≠ []
    rw [hactions, Outcome.ofInstructions_concat_report notifier context before hs]
    exact List.append_ne_nil_of_right_ne_nil _ (List.cons_ne_nil _ _)
  · refine ⟨iff_of_false Bool.false_ne_true (hQ.not.mp hnot), iff_of_false ?_ (hQ.not.mp hnot)⟩
    exact fun h => h rfl

end Draft

/-! ### Six templates -/

/-- A draft that shows an argument which counts as a number is made. -/
theorem draft_of_shown {v : Value} {q : WithBot (WithTop ℚ)} (hq : v.number? = some q)
    {f : String → Except Fault Draft} {d : Draft} (hd : f v.toText = .ok d) :
    (v.toText? >>= f) = .ok d := by
  rw [Value.toText?_of_number? hq]
  exact hd

/-- The condition of a rule that compares what stands under two keys. -/
theorem isMet_test_under {path outer inner : String}
    (hpath : Value.segments? (.text path) = .ok [.text outer, .text inner]) (hne : path ≠ "")
    (houter : Value.IsOnlyKey outer) (hinner : Value.IsOnlyKey inner) (c : Comparison)
    (given : Value) :
    Condition.IsMet context (.test c (.text path) given) ↔
      c.holds (context.under outer inner) given = .ok true :=
  Condition.isMet_test hne (Value.resolvePath_under hpath houter hinner context) c given

/-- Of two numbers that are asked for the second one is known. -/
theorem exists_number?_iff {v w : Value} {q : WithBot (WithTop ℚ)} (hq : w.number? = some q)
    {R : WithBot (WithTop ℚ) → WithBot (WithTop ℚ) → Prop} :
    (∃ a b, v.number? = some a ∧ w.number? = some b ∧ R a b) ↔
      ∃ a, v.number? = some a ∧ R a q := by
  simp [hq]

section Templates

variable (now : Timestamp) (notifier : Option Notifier) (context : Value)
  {p q : WithBot (WithTop ℚ)}

/-- Hours are reported that are before opening or from closing on. -/
theorem gives_businessHours {opens closes : Value} (hp : opens.number? = some p)
    (hq : closes.number? = some q) :
    businessHours.Gives now [opens, closes] notifier context (·.ReportsIff
      (∃ h, (context.under "context" "current_hour").number? = some h ∧ ¬(p ≤ h ∧ h < q))) := by
  have hhour := @isMet_test_under context "context.current_hour" "context" "current_hour" rfl
    (by decide) (by decide) (by decide)
  have hmet : Condition.IsMet context (.anyOf [.test .less (.text "context.current_hour") opens,
      .test .atLeast (.text "context.current_hour") closes]) ↔
      ∃ h, (context.under "context" "current_hour").number? = some h ∧ ¬(p ≤ h ∧ h < q) := by
    rw [Condition.isMet_anyOf (Condition.isNotable_test _ _ _) (Condition.isNotable_test _ _ _),
      hhour, hhour, Comparison.holds_less_iff,
      Comparison.holds_atLeast_iff, exists_number?_iff hp, exists_number?_iff hq]
    simp only [← exists_or, ← and_or_left, not_and_or, not_le, not_lt]
  exact gives_reportsIff (by simp [catalogue]) (draft_of_shown hp (draft_of_shown hq rfl)) rfl (Nat.le_of_ble_eq_true rfl) [] rfl
    (fun h => absurd (String.append_eq_empty_iff.mp h).2 (by decide)) hmet

theorem isMet_test_stock (c : Comparison) (given : Value) :
    Condition.IsMet context (.test c (.text "entity.stock_quantity") given) ↔
      c.holds (context.under "entity" "stock_quantity") given = .ok true :=
  isMet_test_under rfl (by decide) (by decide) (by decide) c given

/-- Products are reported whose stock is used up. -/
theorem gives_requireStock :
    requireStock.Gives now [] notifier context (·.ReportsIff
      (∃ n, (context.under "entity" "stock_quantity").number? = some n ∧ n ≤ 0)) := by
  have hmet : Condition.IsMet context (.test .atMost (.text "entity.stock_quantity") (.int 0)) ↔
      ∃ n, (context.under "entity" "stock_quantity").number? = some n ∧ n ≤ 0 := by
    rw [isMet_test_stock, Comparison.holds_atMost_iff, exists_number?_iff Value.number?_zero]
  exact gives_reportsIff (by simp [catalogue]) rfl rfl (Nat.le_of_ble_eq_true rfl) [] rfl
    (by decide) hmet

/-- Little stock is stock that is not used up and at most the threshold. -/
theorem gives_lowStockAlert {threshold : Value} (hq : threshold.number? = some q) :
    lowStockAlert.Gives now [threshold] notifier context (·.MatchesIff
      (∃ n, (context.under "entity" "stock_quantity").number? = some n ∧ 0 < n ∧ n ≤ q)) := by
  have hmet : Condition.IsMet context
      (.allOf [.test .atMost (.text "entity.stock_quantity") threshold,
        .test .greater (.text "entity.stock_quantity") (.int 0)]) ↔
      ∃ n, (context.under "entity" "stock_quantity").number? = some n ∧ 0 < n ∧ n ≤ q := by
    rw [Condition.isMet_allOf (Condition.isNotable_test _ _ _) (Condition.isNotable_test _ _ _),
      isMet_test_stock, isMet_test_stock, Comparison.holds_atMost_iff,
      Comparison.holds_greater_iff, exists_number?_iff hq, exists_number?_iff Value.number?_zero]
    constructor
    · rintro ⟨⟨n, hn, hle⟩, m, hm, hpos⟩
      obtain rfl := Option.some.inj (hn.symm.trans hm)
      exact ⟨n, hn, hpos, hle⟩
    · rintro ⟨n, hn, hpos, hle⟩
      exact ⟨⟨n, hn, hle⟩, n, hn, hpos⟩
  exact gives_matchesIff (by simp [catalogue]) (draft_of_shown hq rfl) rfl (Nat.le_of_ble_eq_true rfl) hmet

/-- Orders are reported whose total is below the least amount. -/
theorem gives_minOrderAmount {least : Value} (hq : least.number? = some q) :
    minOrderAmount.Gives now [least] notifier context (·.ReportsIff
      (∃ n, (context.under "entity" "total").number? = some n ∧ n < q)) := by
  have htotal := @isMet_test_under context "entity.total" "entity" "total" rfl
    (by decide) (by decide) (by decide)
  have hmet : Condition.IsMet context (.test .less (.text "entity.total") least) ↔
      ∃ n, (context.under "entity" "total").number? = some n ∧ n < q := by
    rw [htotal, Comparison.holds_less_iff, exists_number?_iff hq]
  exact gives_reportsIff (by simp [catalogue]) (draft_of_shown hq rfl) rfl (Nat.le_of_ble_eq_true rfl) [] rfl
    (fun h => absurd (String.append_eq_empty_iff.mp h).1 (by decide)) hmet

/-- Quantities are reported that exceed the most. -/
theorem gives_maxQuantityPerProduct {most : Value} (hq : most.number? = some q) :
    maxQuantityPerProduct.Gives now [most] notifier context (·.ReportsIff
      (∃ n, (context.under "entity" "quantity").number? = some n ∧ q < n)) := by
  have hquantity := @isMet_test_under context "entity.quantity" "entity" "quantity" rfl
    (by decide) (by decide) (by decide)
  have hmet : Condition.IsMet context (.test .greater (.text "entity.quantity") most) ↔
      ∃ n, (context.under "entity" "quantity").number? = some n ∧ q < n := by
    rw [hquantity, Comparison.holds_greater_iff, exists_number?_iff hq]
  exact gives_reportsIff (by simp [catalogue]) (draft_of_shown hq rfl) rfl
    (Nat.le_of_ble_eq_true rfl) [.typed (.setField (.text "quantity") most)] rfl
    (fun h => absurd (String.append_eq_empty_iff.mp h).2 (by decide)) hmet

/-- Where the quantity exceeds the most, the most is written as the quantity. -/
theorem gives_written_maxQuantityPerProduct {most : Value} (hq : most.number? = some q) :
    maxQuantityPerProduct.Gives now [most] notifier context fun result =>
      result.matched = true → result.outcome.values.get? (.text "quantity") = some most := by
  refine gives_of_draft (by simp [catalogue]) (draft_of_shown hq rfl) rfl
    (Nat.le_of_ble_eq_true rfl) (fun _ _ => ?_) fun _ hmatched => nomatch hmatched
  have hgiven : most.isAbsent = false := by
    cases most with
    | absent => cases hq
    | _ => rfl
  change (Outcome.ofInstructions notifier context
    ([.typed (.setField (.text "quantity") most)] ++ [.typed (.reportError (.text _))])).values.get?
      (.text "quantity") = some most
  rw [Outcome.ofInstructions_concat_report notifier context _
    (fun h => absurd (String.append_eq_empty_iff.mp h).2 (by decide)),
    Outcome.ofInstructions_setField notifier context (by decide) hgiven]
  rfl

/-- Deliveries are reported to places that are not among those allowed. -/
theorem gives_deliveryZone (places : List Value) :
    deliveryZone.Gives now [.list places] notifier context (·.ReportsIff
      (context.under "entity" "delivery_method" = .text "delivery" ∧
        ∀ place ∈ places,
          (context.under "entity" "shipping_wilaya").strictlySame place = false)) := by
  have hmethod := @isMet_test_under context "entity.delivery_method" "entity" "delivery_method" rfl
    (by decide) (by decide) (by decide)
  have hplace := @isMet_test_under context "entity.shipping_wilaya" "entity" "shipping_wilaya" rfl
    (by decide) (by decide) (by decide)
  have hmet : Condition.IsMet context
      (.allOf [.test .equal (.text "entity.delivery_method") (.text "delivery"),
        .negation (.test .among (.text "entity.shipping_wilaya") (.list places))]) ↔
      context.under "entity" "delivery_method" = .text "delivery" ∧
        ∀ place ∈ places,
          (context.under "entity" "shipping_wilaya").strictlySame place = false := by
    rw [Condition.isMet_allOf (Condition.isNotable_test _ _ _) rfl,
      Condition.isMet_negation (Condition.isNotable_test _ _ _), hmethod, hplace,
      Comparison.holds_equal_text_iff, Comparison.not_holds_among_iff]
  exact gives_reportsIff (by simp [catalogue]) rfl rfl (Nat.le_of_ble_eq_true rfl) [] rfl
    (by decide) hmet

end Templates

/-- **What six templates decide**, in every context, of the fields as they are found there and of
arguments that count as numbers. An hour is reported outside `[opens, closes)`. Stock is reported
that is used up, and little stock is what is left up to the threshold, which is never both. A total
is reported below the least amount and a quantity above the most; with the most written back as the
quantity the rule no longer matches. A delivery is reported to a place that is strictly equal to
none of those allowed, a missing place included. A field that is missing, or that does not count as
a number or only as a NaN, has no number, and none of these rules about numbers matches on it.

The numbers are those that values count as. A finite number counts as itself, unless it is an
integer beyond `2⁵³`. -/
theorem gives_decisions (now : Timestamp) (notifier : Option Notifier) (context : Value) :
    let hour := context.under "context" "current_hour"
    let stock := context.under "entity" "stock_quantity"
    let total := context.under "entity" "total"
    let quantity := context.under "entity" "quantity"
    (∀ (v : Value) (x : Binary64), v.kind = .number → v.toNumber = .ok x → x.isFinite = true →
      ∃ q, v.CountsAs q ∧ (¬v.IsBeyond → v.rational? = some q)) ∧
    (Value.absent.number? = none ∧
      ∀ v : Value, v.number? = none ↔ ∀ x, v.toNumber = .ok x → x.isNaN = true) ∧
    (∀ (opens closes : Value) (p q), opens.number? = some p → closes.number? = some q →
      businessHours.Gives now [opens, closes] notifier context
        (·.ReportsIff (∃ h, hour.number? = some h ∧ ¬(p ≤ h ∧ h < q)))) ∧
    requireStock.Gives now [] notifier context
      (·.ReportsIff (∃ n, stock.number? = some n ∧ n ≤ 0)) ∧
    (∀ (threshold : Value) (q), threshold.number? = some q →
      lowStockAlert.Gives now [threshold] notifier context
        (·.MatchesIff (∃ n, stock.number? = some n ∧ 0 < n ∧ n ≤ q)) ∧
      ¬(requireStock.Gives now [] notifier context (·.matched = true) ∧
        lowStockAlert.Gives now [threshold] notifier context (·.matched = true))) ∧
    (∀ (least : Value) (q), least.number? = some q →
      minOrderAmount.Gives now [least] notifier context
        (·.ReportsIff (∃ n, total.number? = some n ∧ n < q))) ∧
    (∀ (most : Value) (q), most.number? = some q →
      maxQuantityPerProduct.Gives now [most] notifier context (fun result =>
        result.ReportsIff (∃ n, quantity.number? = some n ∧ q < n) ∧
        (result.matched = true → result.outcome.values.get? (.text "quantity") = some most)) ∧
      ∀ (again : Value) (entity : List (String × Value)),
        again.get? "entity" = some (.mapping (Value.write "quantity" most entity)) →
          maxQuantityPerProduct.Gives now [most] notifier again (·.matched = false)) ∧
    ∀ places : List Value, deliveryZone.Gives now [.list places] notifier context (·.ReportsIff
      (context.under "entity" "delivery_method" = .text "delivery" ∧
        ∀ place ∈ places,
          (context.under "entity" "shipping_wilaya").strictlySame place = false)) := by
  intro hour stock total quantity
  refine ⟨fun v x => Value.exists_countsAs, ⟨rfl, fun v => Value.number?_eq_none_iff⟩,
    fun opens closes p q => gives_businessHours now notifier context,
    gives_requireStock now notifier context, fun threshold q hq => ⟨?_, ?_⟩,
    fun least q => gives_minOrderAmount now notifier context, fun most q hq => ⟨?_, ?_⟩,
    gives_deliveryZone now notifier context⟩
  · exact gives_lowStockAlert now notifier context hq
  · -- Both rules look at one and the same stock, which cannot be used up and left.
    rintro ⟨hrequire, hlow⟩
    obtain ⟨_, _, -, -, -, hreports, hmatched⟩ :=
      (gives_requireStock now notifier context).and hrequire
    obtain ⟨_, _, -, -, -, hmatches, hmatched'⟩ :=
      (gives_lowStockAlert now notifier context hq).and hlow
    obtain ⟨n, hn, hle⟩ := hreports.1.mp hmatched
    obtain ⟨m, hm, hpos, -⟩ := hmatches.mp hmatched'
    obtain rfl := Option.some.inj (hn.symm.trans hm)
    exact absurd hle (not_le_of_gt hpos)
  · exact (gives_maxQuantityPerProduct now notifier context hq).and
      (gives_written_maxQuantityPerProduct now notifier context hq)
  · -- The most is compared with itself, however it is rounded.
    intro again entity hwritten
    refine (gives_maxQuantityPerProduct now notifier again hq).imp fun result hreports => ?_
    refine Bool.eq_false_iff.mpr fun hmatched => ?_
    obtain ⟨n, hn, hlt⟩ := hreports.1.mp hmatched
    rw [Value.under_of_written "quantity" most hwritten] at hn
    obtain rfl := Option.some.inj (hq.symm.trans hn)
    exact absurd hlt (lt_irrefl _)

/-- An order for so many of a product of which three are left, for delivery to a place that is not
said. -/
def hastyOrder (quantity : Int) : List (String × Value) :=
  [("total", .int 500), ("quantity", .int quantity), ("stock_quantity", .int 3),
    ("delivery_method", .text "delivery")]

/-- The order at eight. -/
def earlyContext (quantity : Int) : Value :=
  Context.build (.mapping (hastyOrder quantity)) (.text "order") .null
    [("context", .mapping [("current_hour", .int 8)])]

/-- The order is too small, too early and for too many of what is almost gone, and goes nowhere. -/
theorem gives_decisions_order :
    businessHours.Gives .epoch [.int 9, .int 18] none (earlyContext 12) (·.outcome.errors ≠ []) ∧
    lowStockAlert.Gives .epoch [.int 5] none (earlyContext 12) (·.matched = true) ∧
    minOrderAmount.Gives .epoch [.int 1000] none (earlyContext 12) (·.outcome.errors ≠ []) ∧
    maxQuantityPerProduct.Gives .epoch [.int 10] none (earlyContext 12) (·.outcome.errors ≠ []) ∧
    maxQuantityPerProduct.Gives .epoch [.int 10] none (earlyContext 10) (·.matched = false) ∧
    deliveryZone.Gives .epoch [.list [.text "16"]] none (earlyContext 12)
      (·.outcome.errors ≠ []) := by
  have hint : ∀ n : ℤ, n.natAbs ≤ 1000 → (Value.int n).number? = some ((n : ℚ) : WithTop ℚ) :=
    fun n hn => Value.countsAs_int (hn.trans (by decide))
  have hlt : ∀ {m n : ℤ}, m < n →
      (((m : ℚ) : WithTop ℚ) : WithBot (WithTop ℚ)) < ((n : ℚ) : WithTop ℚ) :=
    fun h => WithBot.coe_lt_coe.mpr (WithTop.coe_lt_coe.mpr (Int.cast_lt.mpr h))
  obtain ⟨-, -, hhours, -, hlow, hleast, hmost, hzone⟩ :=
    gives_decisions .epoch none (earlyContext 12)
  refine ⟨?_, ?_, ?_, ?_, ?_, ?_⟩
  · refine (hhours _ _ _ _ (hint 9 (by decide)) (hint 18 (by decide))).imp fun result h => ?_
    exact h.2.mpr ⟨_, hint 8 (by decide), fun hopen => not_lt_of_ge hopen.1 (hlt (by decide))⟩
  · refine (hlow _ _ (hint 5 (by decide))).1.imp fun result h => ?_
    exact h.mpr ⟨_, hint 3 (by decide), hlt (by decide : (0 : ℤ) < 3),
      (hlt (by decide : (3 : ℤ) < 5)).le⟩
  · refine (hleast _ _ (hint 1000 (by decide))).imp fun result h => ?_
    exact h.2.mpr ⟨_, hint 500 (by decide), hlt (by decide)⟩
  · refine (hmost _ _ (hint 10 (by decide))).1.imp fun result h => ?_
    exact h.1.2.mpr ⟨_, hint 12 (by decide), hlt (by decide)⟩
  · exact (hmost _ _ (hint 10 (by decide))).2 (earlyContext 10) (hastyOrder 12) rfl
  · refine (hzone [.text "16"]).imp fun result h => ?_
    exact h.2.mpr ⟨rfl, List.forall_mem_singleton.mpr rfl⟩

/-- Two amounts beyond the bound that differ by one: the total is below the least amount, and yet
the order is not reported. -/
theorem gives_minOrderAmount_rounded :
    let order :=
      Context.build (.mapping [("total", .int 9007199254740992)]) (.text "order") .null []
    let least : Value := .int 9007199254740993
    (order.under "entity" "total").CountsAs 9007199254740992 ∧
    (∃ x, least.toNumber = .ok x ∧ x.isFinite = true) ∧
    least.rational? = some 9007199254740993 ∧ (9007199254740992 : ℚ) < 9007199254740993 ∧
    minOrderAmount.Gives .epoch [least] none order
      (fun result => result.matched = false ∧ result.outcome.errors = []) := by
  intro order least
  have hcounts : (Value.int 9007199254740992).CountsAs (9007199254740992 : ℤ) :=
    Value.countsAs_int (by decide)
  have hround : least.toNumber = .ok (.ofNat 9007199254740992) := by decide +kernel
  have hholds : Comparison.less.holds (.int 9007199254740992) least = .ok false := by
    decide +kernel
  have hunder : order.under "entity" "total" = .int 9007199254740992 := rfl
  have htotal := @isMet_test_under order "entity.total" "entity" "total" rfl
    (by decide) (by decide) (by decide) .less least
  rw [hunder, hholds] at htotal
  have hcast : ((9007199254740992 : ℤ) : ℚ) = 9007199254740992 := by norm_num
  have hfinite : (Binary64.ofNat 9007199254740992).isFinite = true := by decide +kernel
  obtain ⟨q, hleast, -⟩ := Value.exists_countsAs rfl hround hfinite
  refine ⟨?_, ⟨_, hround, hfinite⟩, ?_, by norm_num, ?_⟩
  · rw [hunder, ← hcast]
    exact hcounts
  · change some ((9007199254740993 : ℤ) : ℚ) = some 9007199254740993
    norm_num
  · -- The amount is shown as a text, which is not to be computed here.
    clear_value least
    refine gives_of_draft (by simp [catalogue]) (draft_of_shown hleast rfl) rfl
      (Nat.le_of_ble_eq_true rfl) (fun hmet => ?_) fun _ => ⟨rfl, rfl⟩
    cases htotal.mp hmet

end Template

end Rulebook
