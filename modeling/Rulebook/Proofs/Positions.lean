import Mathlib.Data.List.TakeWhile
import Rulebook.Outcome
import Rulebook.Proofs.Parts
import Rulebook.Proofs.Paths

/-!
# Positions That Cannot Be Read

In a list a segment made of digits is taken for a position. Not all of these are read as one: digit
signs such as a superscript two are no decimal digits, and no more than `Fault.digitLimit` digits
are read. On such a segment following a path stumbles.

This is the only way in which following a written path fails. Whatever else is not there is absent,
so that an aggregation whose source leads to something other than a list does nothing. An
aggregation whose source stumbles fails, though.

## Main definitions

* `Value.IsUnreadable`: a segment that is taken for a position and cannot be read as one.
* `Value.Stumbles`: following segments comes to a list with such a segment.

## Main results

* `Value.exists_position_iff`: which digits are read as a position.
* `Value.exists_resolve_eq_error_iff`: following segments fails exactly when it stumbles.
* `Value.forall_not_stumbles_iff`: from some value it stumbles, unless all segments can be read.
* `resolvePath_stumbles`: the same of written paths, and what it means for aggregations.
-/

namespace Rulebook

/-! ### Reading positions -/

theorem Text.isSome_continueDecimal? (value : Nat) (cs : List Char) :
    (continueDecimal? value cs).isSome = cs.all Numeral.isDecimal := by
  induction cs generalizing value with
  | nil => rfl
  | cons c cs ih =>
      rw [continueDecimal?, List.all_cons, Numeral.isDecimal]
      cases decimalDigit? c with
      | none => rfl
      | some digit => simp [ih]

theorem Text.isDigit_of_isDecimal {c : Char} (h : Numeral.isDecimal c = true) :
    isDigit c = true := by
  rw [isDigit, show (decimalDigit? c).isSome = true from h, Bool.true_or]

namespace Value

/-- **Which digits are read as a position**: decimal digits, at least one and not too many. -/
theorem exists_position_iff {part : List Char} :
    (∃ n, position part = .ok n) ↔
      part ≠ [] ∧ part.all Numeral.isDecimal = true ∧ part.length ≤ Fault.digitLimit := by
  rw [← Text.isSome_continueDecimal? 0, position]
  constructor
  · rintro ⟨n, hn⟩
    split at hn
    · cases hn
    · next hcount =>
        cases hread : Text.readDecimal? part with
        | none => simp [hread] at hn
        | some m =>
            obtain ⟨hempty, hsome⟩ := Option.ite_none_left_eq_some.mp hread
            have hdecimal : ∀ c ∈ part, Numeral.isDecimal c = true := by
              rw [← List.all_eq_true, ← Text.isSome_continueDecimal? 0, hsome]
              rfl
            rw [List.takeWhile_eq_self_iff.mpr hdecimal] at hcount
            exact ⟨by simpa using hempty, by rw [hsome]; rfl, Nat.le_of_not_lt hcount⟩
  · rintro ⟨hgiven, hsome, hlength⟩
    obtain ⟨n, hn⟩ := Option.isSome_iff_exists.mp hsome
    have hcount : ¬Fault.digitLimit < (part.takeWhile Numeral.isDecimal).length := by
      have hle := (List.takeWhile_prefix (l := part) Numeral.isDecimal).length_le
      omega
    have hread : Text.readDecimal? part = some n := by
      rw [Text.readDecimal?, if_neg (by simpa using hgiven), hn]
    exact ⟨n, by simp [hcount, hread]⟩

theorem failsOnly_position (part : List Char) :
    FailsOnly (fun fault => fault.category = .value) (position part) := by
  rw [position]
  split
  · exact failsOnly_error rfl
  · split
    · exact failsOnly_ok _
    · exact failsOnly_error rfl

/-- A segment that is taken for a position and cannot be read as one: it is made of digits, and some
are not decimal or there are too many. -/
structure IsUnreadable (part : List Char) : Prop where
  given : part ≠ []
  digits : ∀ c ∈ part, Text.isDigit c = true
  unread : (∃ c ∈ part, Numeral.isDecimal c = false) ∨ Fault.digitLimit < part.length

theorem not_isUnreadable_length : ¬IsUnreadable lengthSegment.toList := by
  intro h
  have hdigit : Text.isDigit 'l' = true := h.digits 'l' (by decide)
  revert hdigit
  decide

/-- Of the segments made of digits those are unreadable that write no position. -/
theorem not_isUnreadable_iff {part : List Char} (hgiven : part ≠ [])
    (hdigits : ∀ c ∈ part, Text.isDigit c = true) :
    ¬IsUnreadable part ↔ ∃ n, position part = .ok n := by
  rw [exists_position_iff, List.all_eq_true]
  constructor
  · intro h
    refine ⟨hgiven, fun c hc => ?_, ?_⟩
    · by_contra hother
      exact h ⟨hgiven, hdigits, .inl ⟨c, hc, Bool.eq_false_iff.mpr hother⟩⟩
    · by_contra hlong
      exact h ⟨hgiven, hdigits, .inr (by omega)⟩
  · rintro ⟨-, hdecimal, hlength⟩ h
    rcases h.unread with ⟨c, hc, hother⟩ | hlong
    · exact Bool.false_ne_true (hother.symm.trans (hdecimal c hc))
    · omega

/-- What a position that can be read leads to in a list. -/
theorem itemAt_of_position {items : List Value} {part : List Char} {n : ℕ}
    (h : position part = .ok n) :
    itemAt items (text (String.ofList part)) = .ok (items.getD n absent) := by
  obtain ⟨hgiven, hdecimal, -⟩ := exists_position_iff.mp ⟨n, h⟩
  have hdigits : part.all Text.isDigit = true := by
    rw [List.all_eq_true] at hdecimal ⊢
    exact fun c hc => Text.isDigit_of_isDecimal (hdecimal c hc)
  have hlength : String.ofList part ≠ lengthSegment := by
    intro heq
    have hpart : part = lengthSegment.toList := by rw [← heq, String.toList_ofList]
    rw [hpart] at hdigits
    revert hdigits
    decide
  simp [itemAt, hlength, hgiven, hdigits, h, Except.map]

/-- Looking for an item of a list fails exactly where a segment cannot be read as a position. -/
theorem exists_itemAt_eq_error_iff {items : List Value} {part : List Char} :
    (∃ fault, itemAt items (text (String.ofList part)) = .error fault) ↔ IsUnreadable part := by
  by_cases hlength : String.ofList part = lengthSegment
  · have hpart : part = lengthSegment.toList := by rw [← hlength, String.toList_ofList]
    rw [itemAt, if_pos hlength, hpart]
    exact iff_of_false (not_exists_ok_eq_error _) not_isUnreadable_length
  · rw [itemAt, if_neg hlength, String.toList_ofList]
    by_cases hdigits : part ≠ [] ∧ ∀ c ∈ part, Text.isDigit c = true
    · obtain ⟨hgiven, hall⟩ := hdigits
      rw [if_neg (by simpa [hgiven] using hall)]
      simp only [map_eq_error_iff]
      rw [← not_iff_not, not_isUnreadable_iff hgiven hall]
      cases position part with
      | error fault => simp
      | ok n => simp
    · rw [if_pos (by simpa [or_iff_not_imp_left] using hdigits)]
      exact iff_of_false (not_exists_ok_eq_error _) fun h => hdigits ⟨h.given, h.digits⟩

/-- An item of a list that is made of parts stands at a position that can be read. -/
theorem exists_position_of_itemAt {items : List Value} {part : List Char} {next : Value}
    (h : itemAt items (text (String.ofList part)) = .ok next) (hnext : ¬next.IsKey) :
    ∃ n, position part = .ok n ∧ items[n]? = some next := by
  rw [itemAt, String.toList_ofList] at h
  split at h
  · obtain rfl := Except.ok.inj h
    exact absurd rfl hnext
  · split at h
    · obtain rfl := Except.ok.inj h
      exact absurd rfl hnext
    · obtain ⟨n, hn, hitem⟩ := map_eq_ok_iff.mp h
      rw [List.getD_eq_getElem?_getD] at hitem
      cases hfound : items[n]? with
      | none =>
          rw [hfound] at hitem
          obtain rfl : absent = next := hitem
          exact absurd rfl hnext
      | some v =>
          rw [hfound] at hitem
          obtain rfl : v = next := hitem
          exact ⟨n, hn, hfound⟩

/-! ### Stumbling -/

/-- Following segments comes to a list with a segment that cannot be read as a position. -/
inductive Stumbles : Value → List (List Char) → Prop
  | unreadable {items : List Value} {part : List Char} {rest : List (List Char)} :
      IsUnreadable part → Stumbles (list items) (part :: rest)
  | position {items : List Value} {part : List Char} {rest : List (List Char)} {n : ℕ}
      {next : Value} : Value.position part = .ok n → items[n]? = some next → Stumbles next rest →
      Stumbles (list items) (part :: rest)
  | item {items : List Value} {v : Value} {rest : List (List Char)} : v ∈ items →
      Stumbles v rest → Stumbles (list items) (['*'] :: rest)
  | entry {entries : List (String × Value)} {part : List Char} {rest : List (List Char)}
      {next : Value} : lookup (String.ofList part) entries = some next → Stumbles next rest →
      Stumbles (mapping entries) (part :: rest)

theorem IsKey.not_stumbles {v : Value} (hv : v.IsKey) (parts : List (List Char)) :
    ¬v.Stumbles parts := by
  intro h
  cases h <;> cases hv

theorem not_stumbles_nil (v : Value) : ¬v.Stumbles [] := nofun

theorem isWildcard_iff {part : List Char} :
    (text (String.ofList part)).isWildcard = true ↔ part = ['*'] := by
  rw [isWildcard, beq_iff_eq, wildcard, ← String.toList_inj, String.toList_ofList]
  rfl

/-- Nothing is found in what is absent, and no segment fails there. -/
theorem resolve_absent (segments : List Value) : absent.resolve segments = .ok absent := by
  induction segments with
  | nil => rfl
  | cons segment rest ih => exact ih

theorem IsKey.resolve_cons {v : Value} (hv : v.IsKey) (segment : Value) (rest : List Value) :
    v.resolve (segment :: rest) = .ok absent := by
  cases v with
  | list items => cases hv
  | mapping entries => cases hv
  | _ => exact resolve_absent rest

/-! In a mapping the first segment is a key. -/

theorem resolve_mapping_cons (entries : List (String × Value)) (part : List Char)
    (rest : List Value) :
    (mapping entries).resolve (text (String.ofList part) :: rest) =
      ((lookup (String.ofList part) entries).getD absent).resolve rest := rfl

theorem stumbles_mapping_iff {entries : List (String × Value)} {part : List Char}
    {rest : List (List Char)} :
    (mapping entries).Stumbles (part :: rest) ↔
      ((lookup (String.ofList part) entries).getD absent).Stumbles rest := by
  constructor
  · rintro (_ | _ | _ | ⟨hlookup, hrest⟩)
    rw [hlookup]
    exact hrest
  · intro h
    cases hlookup : lookup (String.ofList part) entries with
    | none =>
        rw [hlookup] at h
        exact absurd h (IsKey.not_stumbles (v := absent) rfl rest)
    | some next =>
        rw [hlookup] at h
        exact .entry hlookup h

/-! In a list it is the wildcard, or the position of an item, or it cannot be read as one. -/

theorem stumbles_wildcard_iff {items : List Value} {rest : List (List Char)} :
    (list items).Stumbles (['*'] :: rest) ↔ ∃ v ∈ items, v.Stumbles rest := by
  have hdigit : Text.isDigit '*' = false := by decide
  constructor
  · rintro (h | ⟨hposition, -, -⟩ | ⟨hv, hrest⟩)
    · cases hdigit.symm.trans (h.digits '*' List.mem_cons_self)
    · obtain ⟨-, hdecimal, -⟩ := exists_position_iff.mp ⟨_, hposition⟩
      cases hdigit.symm.trans
        (Text.isDigit_of_isDecimal (List.all_eq_true.mp hdecimal '*' List.mem_cons_self))
    · exact ⟨_, hv, hrest⟩
  · rintro ⟨v, hv, hrest⟩
    exact .item hv hrest

/-- A segment that leads to something stumbles where following the rest from there does. -/
theorem stumbles_list_iff {items : List Value} {part : List Char} {rest : List (List Char)}
    {next : Value} (hpart : part ≠ ['*'])
    (hnext : itemAt items (text (String.ofList part)) = .ok next) :
    (list items).Stumbles (part :: rest) ↔ next.Stumbles rest := by
  constructor
  · rintro (h | ⟨hposition, hitem, hrest⟩ | ⟨hv, hrest⟩)
    · obtain ⟨fault, hfault⟩ := exists_itemAt_eq_error_iff.mpr h
      cases hnext.symm.trans hfault
    · have hitemAt := hnext.symm.trans (itemAt_of_position hposition)
      rw [List.getD_eq_getElem?_getD, hitem] at hitemAt
      obtain rfl : next = _ := Except.ok.inj hitemAt
      exact hrest
    · exact absurd rfl hpart
  · intro hrest
    obtain ⟨n, hposition, hitem⟩ :=
      exists_position_of_itemAt hnext fun hkey => hkey.not_stumbles rest hrest
    exact .position hposition hitem hrest

theorem resolve_list_cons (items : List Value) {part : List Char} (hpart : part ≠ ['*'])
    (rest : List Value) :
    (list items).resolve (text (String.ofList part) :: rest) =
      itemAt items (text (String.ofList part)) >>= fun next => next.resolve rest :=
  resolve_cons_of_not_wildcard (Bool.eq_false_iff.mpr fun h => hpart (isWildcard_iff.mp h)) _ rest

/-- **Following segments fails exactly when it stumbles.** -/
theorem exists_resolve_eq_error_iff {v : Value} {parts : List (List Char)} :
    (∃ fault, v.resolve (ofParts parts) = .error fault) ↔ v.Stumbles parts := by
  induction parts generalizing v with
  | nil => exact iff_of_false (not_exists_ok_eq_error _) (not_stumbles_nil v)
  | cons part rest ih =>
      have hparts : ofParts (part :: rest) = text (String.ofList part) :: ofParts rest := rfl
      induction v using Value.induction with
      | key v hkey =>
          rw [hparts, hkey.resolve_cons]
          exact iff_of_false (not_exists_ok_eq_error _) (hkey.not_stumbles _)
      | mapping entries _ => rw [hparts, resolve_mapping_cons, stumbles_mapping_iff, ih]
      | list items _ =>
          by_cases hpart : part = ['*']
          · subst hpart
            rw [stumbles_wildcard_iff]
            cases rest with
            | nil =>
                -- At the end of a path a wildcard stands for the list itself.
                refine iff_of_false (not_exists_ok_eq_error _) ?_
                rintro ⟨v, -, hv⟩
                exact not_stumbles_nil v hv
            | cons part rest =>
                have hspread := resolve_wildcard items (ofParts_cons_ne_nil part rest)
                simp only [hparts, ← ih, ← exists_mapM_eq_error_iff]
                rw [show String.ofList ['*'] = wildcard from rfl, hspread]
                simp only [map_eq_error_iff]
          · rw [hparts, resolve_list_cons items hpart]
            cases hitem : itemAt items (text (String.ofList part)) with
            | error fault =>
                exact iff_of_true ⟨fault, rfl⟩
                  (.unreadable (exists_itemAt_eq_error_iff.mp ⟨fault, hitem⟩))
            | ok next => exact ih.trans (stumbles_list_iff hpart hitem).symm

/-! ### Paths that never stumble -/

theorem Stumbles.exists_unreadable {v : Value} {parts : List (List Char)} (h : v.Stumbles parts) :
    ∃ part ∈ parts, IsUnreadable part := by
  induction h with
  | unreadable hpart => exact ⟨_, List.mem_cons_self, hpart⟩
  | position _ _ _ ih | item _ _ ih | entry _ _ ih =>
      obtain ⟨part, hpart, hunreadable⟩ := ih
      exact ⟨part, List.mem_cons_of_mem _ hpart, hunreadable⟩

/-- A segment that cannot be read as a position is stumbled over below mappings that lead to a
list. -/
theorem exists_stumbles {parts : List (List Char)} {part : List Char} (hpart : part ∈ parts)
    (h : IsUnreadable part) : ∃ v : Value, v.Stumbles parts := by
  induction parts with
  | nil => cases hpart
  | cons first rest ih =>
      rcases List.mem_cons.mp hpart with rfl | hrest
      · exact ⟨list [], .unreadable h⟩
      · obtain ⟨v, hv⟩ := ih hrest
        exact ⟨mapping [(String.ofList first, v)], .entry (if_pos rfl) hv⟩

/-- **Following segments never stumbles when all of them can be read**, and only then. -/
theorem forall_not_stumbles_iff {parts : List (List Char)} :
    (∀ v : Value, ¬v.Stumbles parts) ↔ ∀ part ∈ parts, ¬IsUnreadable part := by
  constructor
  · intro h part hpart hunreadable
    obtain ⟨v, hv⟩ := exists_stumbles hpart hunreadable
    exact h v hv
  · intro h v hv
    obtain ⟨part, hpart, hunreadable⟩ := hv.exists_unreadable
    exact h part hpart hunreadable

/-! ### What it fails with -/

theorem failsOnly_itemAt (items : List Value) (part : List Char) :
    FailsOnly (fun fault => fault.category = .value)
      (itemAt items (text (String.ofList part))) := by
  rw [itemAt]
  split
  · exact failsOnly_ok _
  · split
    · exact failsOnly_ok _
    · exact (failsOnly_position _).map _

/-- Following segments that are texts fails with a fault in their values. -/
theorem failsOnly_resolve (v : Value) (parts : List (List Char)) :
    FailsOnly (fun fault => fault.category = .value) (v.resolve (ofParts parts)) := by
  induction parts generalizing v with
  | nil => exact failsOnly_ok v
  | cons part rest ih =>
      have hparts : ofParts (part :: rest) = text (String.ofList part) :: ofParts rest := rfl
      rw [hparts]
      induction v using Value.induction with
      | key v hkey =>
          rw [hkey.resolve_cons]
          exact failsOnly_ok _
      | mapping entries _ => exact ih _
      | list items _ =>
          by_cases hpart : part = ['*']
          · subst hpart
            cases rest with
            | nil => exact failsOnly_ok _
            | cons part rest =>
                rw [show String.ofList ['*'] = wildcard from rfl,
                  resolve_wildcard items (ofParts_cons_ne_nil part rest)]
                exact (FailsOnly.mapM fun item _ => ih item).map _
          · rw [resolve_list_cons items hpart]
            exact (failsOnly_itemAt items part).bind ih

/-- A text counts as given unless it is empty. -/
theorem isTruthy_text {s : String} (h : s ≠ "") : (text s).isTruthy = true := by
  rw [isTruthy, String.isEmpty_eq_false_iff.mpr h]
  rfl

end Value

/-! ### Aggregations -/

section Aggregations

variable {context : Value} {path : String} {a : Action} {i : Instruction}

/-- An aggregation does nothing where its source leads to something other than a list. -/
theorem Action.aggregateEffect_of_not_list (hsource : a.source = .text path) {found : Value}
    (hfound : context.resolvePath (.text path) = .ok found)
    (hlist : ∀ items, found ≠ .list items) : a.aggregateEffect context = .ok .nothing := by
  rw [aggregateEffect, hsource, Value.getPath, hfound]
  split
  · rfl
  · cases a.operation with
    | none => rfl
    | some op =>
        cases found with
        | list items => exact absurd rfl (hlist items)
        | _ => rfl

/-- An aggregation that is asked for fails where following its source does. -/
theorem Action.aggregateEffect_of_fault (hsource : a.source = .text path) {fault : Fault}
    (hfault : context.resolvePath (.text path) = .error fault) (hpath : path ≠ "")
    (hoperation : a.operationValue.isTruthy = true) (hfield : a.field.isTruthy = true) :
    a.aggregateEffect context = .error fault := by
  rw [aggregateEffect, hsource, Value.getPath, hfault, hoperation, Value.isTruthy_text hpath, hfield]
  rfl

/-- An instruction is carried out by the effect of its action. -/
theorem Instruction.effect_of_action (ha : i.action? = .ok a) :
    i.effect context = Fault.orFail (a.effect context) := by
  rw [Instruction.effect, ha]
  rfl

theorem Action.effect_of_aggregate (hkind : a.kind = .aggregate) :
    a.effect context = a.aggregateEffect context := by
  rw [effect, hkind]

/-- An aggregation leaves the outcome as it is where its source leads to something other than a
list. -/
theorem Outcome.step_of_not_list (notifier : Option Notifier) (o : Outcome)
    (ha : i.action? = .ok a) (hkind : a.kind = .aggregate) (hsource : a.source = .text path)
    {found : Value} (hfound : context.resolvePath (.text path) = .ok found)
    (hlist : ∀ items, found ≠ .list items) : step notifier context o i = o := by
  rw [step, Instruction.effect_of_action ha, Action.effect_of_aggregate hkind,
    Action.aggregateEffect_of_not_list hsource hfound hlist]
  rfl

/-- An aggregation that is asked for is reported as failed where following its source fails. -/
theorem Outcome.step_of_fault (notifier : Option Notifier) (o : Outcome)
    (ha : i.action? = .ok a) (hkind : a.kind = .aggregate) (hsource : a.source = .text path)
    {fault : Fault} (hfault : context.resolvePath (.text path) = .error fault) (hpath : path ≠ "")
    (hoperation : a.operationValue.isTruthy = true) (hfield : a.field.isTruthy = true) :
    step notifier context o i = o.fail i.label fault.message := by
  rw [step, Instruction.effect_of_action ha, Action.effect_of_aggregate hkind,
    Action.aggregateEffect_of_fault hsource hfault hpath hoperation hfield]
  rfl

end Aggregations

/-- What a written path leads to can be had, as `null` if need be, unless following it fails. -/
theorem Value.exists_getPath_iff {v : Value} {path : String} :
    (∃ found, v.getPath (.text path) = .ok found ∧ found.isAbsent = false) ↔
      ¬∃ fault, v.resolvePath (.text path) = .error fault := by
  rw [getPath]
  cases v.resolvePath (.text path) with
  | error fault => simp [Except.map]
  | ok found => cases found <;> simp [Except.map, orNull, isAbsent]

/-- An empty path is followed without stumbling. -/
theorem Value.Stumbles.ne_empty {v : Value} {path : String}
    (h : v.Stumbles (Text.splitOn '.' path.toList)) : path ≠ "" := by
  rintro rfl
  obtain ⟨part, hpart, hunreadable⟩ := h.exists_unreadable
  exact hunreadable.given (List.mem_singleton.mp hpart)

open Value in
/-- **Following a written path fails exactly when it stumbles** over a segment that is taken for a
position and cannot be read as one, and the fault is one of values. So a path can be followed from
every value exactly when all of its segments can be read. An aggregation by such a path does
nothing where the path does not lead to a list. Where it stumbles, an aggregation that is asked for
fails. -/
theorem resolvePath_stumbles (v : Value) (path : String) :
    let parts := Text.splitOn '.' path.toList
    ((∃ fault, v.resolvePath (.text path) = .error fault) ↔ v.Stumbles parts) ∧
    (∀ fault, v.resolvePath (.text path) = .error fault → fault.category = .value) ∧
    ((∀ w : Value, ∃ found, w.getPath (.text path) = .ok found ∧ found.isAbsent = false) ↔
      ∀ part ∈ parts, ¬IsUnreadable part) ∧
    ∀ (notifier : Option Notifier) (o : Outcome) (i : Instruction) (a : Action),
      i.action? = .ok a → a.kind = .aggregate → a.source = .text path →
      (¬v.Stumbles parts → (∀ items, v.resolvePath (.text path) ≠ .ok (.list items)) →
        Outcome.step notifier v o i = o) ∧
      (v.Stumbles parts → a.operationValue.isTruthy = true → a.field.isTruthy = true →
        ∃ fault, v.resolvePath (.text path) = .error fault ∧
          Outcome.step notifier v o i = o.fail i.label fault.message) := by
  intro parts
  have hstumbles : ∀ w : Value,
      (∃ fault, w.resolvePath (.text path) = .error fault) ↔ w.Stumbles parts :=
    fun w => exists_resolve_eq_error_iff
  refine ⟨hstumbles v, failsOnly_resolve v parts, ?_, ?_⟩
  · rw [← forall_not_stumbles_iff]
    refine forall_congr' fun w => ?_
    rw [exists_getPath_iff, hstumbles w]
  · intro notifier o i a ha hkind hsource
    constructor
    · intro hsafe hlist
      cases hfound : v.resolvePath (.text path) with
      | error fault => exact absurd ((hstumbles v).mp ⟨fault, hfound⟩) hsafe
      | ok found =>
          refine Outcome.step_of_not_list notifier o ha hkind hsource hfound ?_
          rintro items rfl
          exact hlist items hfound
    · intro hv hoperation hfield
      obtain ⟨fault, hfault⟩ := (hstumbles v).mpr hv
      exact ⟨fault, hfault, Outcome.step_of_fault notifier o ha hkind hsource hfault hv.ne_empty
        hoperation hfield⟩

/-- The sum over a source. -/
def summing (source : String) : Instruction :=
  .written (.mapping [("type", .text "aggregate"), ("operation", .text "sum"),
    ("source", .text source), ("field", .text "weight")])

/-- Two crates by their weights. -/
def weighedCrates : Value := .mapping [("crates", .list [.int 5, .int 7])]

/-- A sum over what is not there does nothing, and one over the crate at a superscript fails. -/
theorem resolvePath_stumbles_crates :
    ¬weighedCrates.Stumbles (Text.splitOn '.' "crates.weight".toList) ∧
    Outcome.step none weighedCrates .empty (summing "crates.weight") = .empty ∧
    weighedCrates.Stumbles (Text.splitOn '.' "crates.²".toList) ∧
    ∃ fault, weighedCrates.resolvePath (.text "crates.²") = .error fault ∧
      Outcome.step none weighedCrates .empty (summing "crates.²") =
        Outcome.empty.fail "aggregate" fault.message := by
  obtain ⟨hfails, -, -, hsteps⟩ := resolvePath_stumbles weighedCrates "crates.weight"
  obtain ⟨hfails', -, -, hsteps'⟩ := resolvePath_stumbles weighedCrates "crates.²"
  have hsafe : ¬weighedCrates.Stumbles (Text.splitOn '.' "crates.weight".toList) := by
    intro h
    obtain ⟨fault, hfault⟩ := hfails.mpr h
    cases hfault
  have hstumbles : weighedCrates.Stumbles (Text.splitOn '.' "crates.²".toList) :=
    hfails'.mp ⟨_, rfl⟩
  refine ⟨hsafe, ?_, hstumbles, ?_⟩
  · exact (hsteps none .empty (summing "crates.weight") _ rfl rfl rfl).1 hsafe fun _ => nofun
  · exact (hsteps' none .empty (summing "crates.²") _ rfl rfl rfl).2 hstumbles rfl rfl

/-- A superscript two is a digit, so that it is taken for a position, and it is not decimal: where
nothing should be found a fault is met, and an aggregation fails that should do nothing. -/
theorem resolvePath_superscript :
    (∃ fault, weighedCrates.resolvePath (.text "crates.²") = .error fault) ∧
    (Outcome.ofInstructions none weighedCrates [summing "crates.²"]).errors.map Value.plain =
      ["Action aggregate failed: invalid literal for int() with base 10: '²'"] :=
  ⟨⟨_, rfl⟩, by decide +kernel⟩

end Rulebook
