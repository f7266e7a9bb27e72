import Mathlib.Data.List.Induction
import Rulebook.Ledger
import Rulebook.Proofs.Equality

/-!
# Laws of Ledgers

A ledger is what some writes left behind, in their order. To update a ledger by another one is to
write again only what the other one kept; that this is no less than writing all its writes again is
the law that lets results be merged (`Ledger.update_ofWrites`). It rests on plain equality being a
sensible notion of one key (`Value.same_congr_left`), for the keys of two ledgers need not be written
alike.

## Main definitions

* `Ledger.writeAll`, `Ledger.ofWrites`: writes on top of a ledger, or on top of nothing.
* `Ledger.last?`: the last of some writes to a key.
* `Ledger.Keyed`, `Ledger.WellFormed`: all keys may be keys, and no two of them are one.
* `Ledger.without`: a ledger with the entries of a key left out.

## Main results

* `Ledger.get?_set`, `Ledger.get?_ofWrites`: of the writes to a key the last one stays.
* `Ledger.update_ofWrites`: an update writes again what the other ledger was written from.
* `Ledger.without_writeAll`, `Ledger.get?_without`: leaving a key out leaves out its writes, and
  nothing else.
-/

namespace Rulebook.Ledger

open Value (IsKey)

/-- Some writes on top of a ledger, in order. -/
def writeAll (l : Ledger) (ws : List (Value × Value)) : Ledger :=
  ws.foldl (fun l w => l.set w.1 w.2) l

/-- The ledger that some writes leave behind. -/
def ofWrites (ws : List (Value × Value)) : Ledger := empty.writeAll ws

/-- The keys of some entries may be keys. -/
def Keyed (es : List (Value × Value)) : Prop := ∀ e ∈ es, e.1.IsKey

/-- The keys of a ledger may be keys, and no two of them are one. -/
structure WellFormed (l : Ledger) : Prop where
  keyed : Keyed l.entries
  distinct : l.entries.Pairwise fun e f => e.1.same f.1 = false

theorem update_eq_writeAll (l m : Ledger) : l.update m = l.writeAll m.entries := rfl

theorem writeAll_nil (l : Ledger) : l.writeAll [] = l := rfl

theorem writeAll_cons (l : Ledger) (w : Value × Value) (ws : List (Value × Value)) :
    l.writeAll (w :: ws) = (l.set w.1 w.2).writeAll ws := rfl

theorem writeAll_append (l : Ledger) (ws xs : List (Value × Value)) :
    l.writeAll (ws ++ xs) = (l.writeAll ws).writeAll xs := List.foldl_append

/-! ### One write -/

variable {es : List (Value × Value)} {j k v w key : Value}

theorem keyed_cons {e : Value × Value} : Keyed (e :: es) ↔ e.1.IsKey ∧ Keyed es :=
  List.forall_mem_cons

theorem write_cons_of_same {e : Value × Value} (h : e.1.same k = true) :
    write k v (e :: es) = (e.1, v) :: es := by
  rw [write, if_pos h]

theorem write_cons_of_not_same {e : Value × Value} (h : e.1.same k = false) :
    write k v (e :: es) = e :: write k v es := by
  rw [write, h]
  rfl

theorem find?_cons_of_not_same {e : Value × Value} (h : e.1.same k = false) :
    find? k (e :: es) = find? k es := by
  rw [find?, h]
  rfl

/-- A write adds no key but its own. -/
theorem keyed_write (hes : Keyed es) (hk : k.IsKey) : Keyed (write k v es) := by
  induction es with
  | nil => exact keyed_cons.mpr ⟨hk, hes⟩
  | cons e rest ih =>
      obtain ⟨he, hrest⟩ := keyed_cons.mp hes
      cases hsame : e.1.same k with
      | true =>
          rw [write_cons_of_same hsame]
          exact keyed_cons.mpr ⟨he, hrest⟩
      | false =>
          rw [write_cons_of_not_same hsame]
          exact keyed_cons.mpr ⟨he, ih hrest⟩

theorem keyed_set {l : Ledger} (hl : Keyed l.entries) (hk : k.IsKey) :
    Keyed (l.set k v).entries := keyed_write hl hk

/-- A key that differs from some others still does after a write to one that it differs from. -/
theorem forall_same_write {b : Bool} (hes : ∀ e ∈ es, j.same e.1 = b) (hjk : j.same k = b) :
    ∀ e ∈ write k v es, j.same e.1 = b := by
  induction es with
  | nil =>
      intro e he
      obtain rfl := List.mem_singleton.mp he
      exact hjk
  | cons e rest ih =>
      obtain ⟨he, hrest⟩ := List.forall_mem_cons.mp hes
      cases hsame : e.1.same k with
      | true =>
          rw [write_cons_of_same hsame]
          exact List.forall_mem_cons.mpr ⟨he, hrest⟩
      | false =>
          rw [write_cons_of_not_same hsame]
          exact List.forall_mem_cons.mpr ⟨he, ih hrest⟩

/-- A write keeps a ledger well-formed. -/
theorem WellFormed.set {l : Ledger} (hl : l.WellFormed) (hk : k.IsKey) :
    (l.set k v).WellFormed := by
  refine ⟨keyed_write hl.keyed hk, ?_⟩
  rw [entries_set]
  obtain ⟨es⟩ := l
  obtain ⟨hkeyed, hdistinct⟩ := hl
  induction es with
  | nil => exact List.pairwise_singleton _ _
  | cons e rest ih =>
      obtain ⟨-, hrest⟩ := keyed_cons.mp hkeyed
      obtain ⟨hfirst, hothers⟩ := List.pairwise_cons.mp hdistinct
      cases hsame : e.1.same k with
      | true =>
          rw [write_cons_of_same hsame]
          exact List.pairwise_cons.mpr ⟨hfirst, hothers⟩
      | false =>
          rw [write_cons_of_not_same hsame]
          exact List.pairwise_cons.mpr ⟨forall_same_write hfirst hsame, ih hrest hothers⟩

theorem wellFormed_empty : empty.WellFormed := by
  refine ⟨?_, List.Pairwise.nil⟩
  intro e he
  cases he

theorem keyed_writeAll {l : Ledger} (hl : Keyed l.entries) {ws : List (Value × Value)}
    (hws : Keyed ws) : Keyed (l.writeAll ws).entries := by
  induction ws generalizing l with
  | nil => exact hl
  | cons w ws ih =>
      obtain ⟨hw, hrest⟩ := keyed_cons.mp hws
      exact ih (keyed_set hl hw) hrest

theorem WellFormed.writeAll {l : Ledger} (hl : l.WellFormed) {ws : List (Value × Value)}
    (hws : Keyed ws) : (l.writeAll ws).WellFormed := by
  induction ws generalizing l with
  | nil => exact hl
  | cons w ws ih =>
      obtain ⟨hw, hrest⟩ := keyed_cons.mp hws
      rw [writeAll_cons]
      exact ih (hl.set hw) hrest

theorem wellFormed_ofWrites {ws : List (Value × Value)} (hws : Keyed ws) :
    (ofWrites ws).WellFormed := wellFormed_empty.writeAll hws

/-! ### The last write -/

/-- What is found after a write: the value written, under the key that was written. -/
theorem find?_write (hes : Keyed es) (hk : k.IsKey) (key : Value) :
    find? key (write k v es) = if k.same key then some v else find? key es := by
  induction es with
  | nil => rfl
  | cons e rest ih =>
      obtain ⟨he, hrest⟩ := keyed_cons.mp hes
      cases hsame : e.1.same k with
      | true =>
          -- The entry keeps its own key, which is found when the key written is.
          have hkey : e.1.same key = k.same key := Value.same_congr_left he hk hsame key
          rw [write_cons_of_same hsame, find?, hkey]
          split
          · rfl
          · rw [find?, hkey, if_neg ‹_›]
      | false =>
          rw [write_cons_of_not_same hsame, find?, find?, ih hrest]
          cases hkey : e.1.same key with
          | false => rfl
          | true =>
              rw [if_pos rfl, Value.not_same_of_same he hk hkey hsame]
              rfl

/-- What a ledger holds under a key after a write. -/
theorem get?_set {l : Ledger} (hl : Keyed l.entries) (hk : k.IsKey) (key : Value) :
    (l.set k v).get? key = if k.same key then some v else l.get? key :=
  find?_write hl hk key

/-- The value of the last of some writes to a key. -/
def last? (ws : List (Value × Value)) (key : Value) : Option Value :=
  ((ws.filter fun w => w.1.same key).getLast?).map Prod.snd

/-- **Of the writes to a key the last one stays.** -/
theorem get?_ofWrites {ws : List (Value × Value)} (hws : Keyed ws) (key : Value) :
    (ofWrites ws).get? key = last? ws key := by
  rw [last?]
  induction ws using List.reverseRecOn with
  | nil => rfl
  | append_singleton ws w ih =>
      have hbefore : Keyed ws := fun e he => hws e (List.mem_append_left _ he)
      have hw : w.1.IsKey := hws w (List.mem_append_right _ (List.mem_singleton_self w))
      have hlast : ofWrites (ws ++ [w]) = (ofWrites ws).set w.1 w.2 := writeAll_append empty ws [w]
      rw [hlast, get?_set (wellFormed_ofWrites hbefore).keyed hw, ih hbefore, List.filter_append]
      cases hsame : w.1.same key with
      | true => simp [List.filter, hsame]
      | false => simp [List.filter, hsame]

/-! ### Updates -/

/-- Of two writes to one key only the later one is seen. -/
theorem write_write_of_same (hes : Keyed es) (hj : j.IsKey) (h : j.same k = true) :
    write k v (write j w es) = write j v es := by
  induction es with
  | nil => exact write_cons_of_same h
  | cons e rest ih =>
      obtain ⟨he, hrest⟩ := keyed_cons.mp hes
      have hboth : e.1.same j = e.1.same k := Value.same_congr_right he hj h
      cases hsame : e.1.same j with
      | true =>
          rw [write_cons_of_same hsame, write_cons_of_same hsame]
          exact write_cons_of_same (hboth.symm.trans hsame)
      | false =>
          rw [write_cons_of_not_same hsame, write_cons_of_not_same hsame,
            write_cons_of_not_same (hboth.symm.trans hsame), ih hrest]

/-- A write to a key that is there may as well be done before a write to another key. -/
theorem write_comm (hes : Keyed es) (hj : j.IsKey) (hjk : j.same k = false)
    (hthere : (find? k es).isSome = true) :
    write k v (write j w es) = write j w (write k v es) := by
  induction es with
  | nil => cases hthere
  | cons e rest ih =>
      obtain ⟨he, hrest⟩ := keyed_cons.mp hes
      cases hek : e.1.same k with
      | true =>
          have hej : e.1.same j = false := by
            cases hej : e.1.same j with
            | false => rfl
            | true =>
                have hsame := Value.same_congr_left he hj hej k
                rw [hek, hjk] at hsame
                cases hsame
          rw [write_cons_of_not_same hej, write_cons_of_same hek, write_cons_of_same hek,
            write_cons_of_not_same (e := (e.1, v)) hej]
      | false =>
          rw [find?_cons_of_not_same hek] at hthere
          cases hej : e.1.same j with
          | true =>
              rw [write_cons_of_same hej, write_cons_of_not_same (e := (e.1, w)) hek,
                write_cons_of_not_same hek, write_cons_of_same hej]
          | false =>
              rw [write_cons_of_not_same hej, write_cons_of_not_same hek,
                write_cons_of_not_same hek, write_cons_of_not_same hej, ih hrest hthere]

/-- A write to a key that is there may as well be done before writes to other keys. -/
theorem set_writeAll {l : Ledger} (hl : Keyed l.entries) (hes : Keyed es)
    (hothers : ∀ e ∈ es, e.1.same k = false) (hthere : (l.get? k).isSome = true) :
    (l.writeAll es).set k v = (l.set k v).writeAll es := by
  induction es generalizing l with
  | nil => rfl
  | cons e rest ih =>
      obtain ⟨he, hrest⟩ := keyed_cons.mp hes
      obtain ⟨hek, hrestOthers⟩ := List.forall_mem_cons.mp hothers
      have hstays : ((l.set e.1 e.2).get? k).isSome = true := by
        rw [get?_set hl he, hek]
        exact hthere
      rw [writeAll_cons, writeAll_cons, ih (keyed_set hl he) hrest hrestOthers hstays]
      have hswap : (l.set e.1 e.2).set k v = (l.set k v).set e.1 e.2 :=
        congrArg Ledger.mk (write_comm hl he hek hthere)
      rw [hswap]

/-- A write to the ledger that another one is updated by is a write to the outcome. -/
theorem writeAll_write {l : Ledger} (hl : Keyed l.entries) (hes : Keyed es)
    (hdistinct : es.Pairwise fun e f => e.1.same f.1 = false) :
    l.writeAll (write k v es) = (l.writeAll es).set k v := by
  induction es generalizing l with
  | nil => rfl
  | cons e rest ih =>
      obtain ⟨he, hrest⟩ := keyed_cons.mp hes
      obtain ⟨hfirst, hpairs⟩ := List.pairwise_cons.mp hdistinct
      cases hsame : e.1.same k with
      | false =>
          rw [write_cons_of_not_same hsame, writeAll_cons, writeAll_cons,
            ih (keyed_set hl he) hrest hpairs]
      | true =>
          have hothers : ∀ f ∈ rest, f.1.same k = false := by
            intro f hf
            have hef : f.1.same e.1 = false := by
              rw [Value.same_comm (hrest f hf)]
              exact hfirst f hf
            rw [← Value.same_congr_right (hrest f hf) he hsame]
            exact hef
          have hthere : ((l.set e.1 e.2).get? k).isSome = true := by
            rw [get?_set hl he, hsame]
            rfl
          have hlater : (l.set e.1 e.2).set k v = l.set e.1 v :=
            congrArg Ledger.mk (write_write_of_same hl he hsame)
          rw [write_cons_of_same hsame, writeAll_cons, writeAll_cons,
            set_writeAll (keyed_set hl he) hrest hothers hthere, hlater]

/-- **To update a ledger is to write again all that the other one was written from.** -/
theorem update_ofWrites {l : Ledger} (hl : Keyed l.entries) {ws : List (Value × Value)}
    (hws : Keyed ws) : l.update (ofWrites ws) = l.writeAll ws := by
  induction ws using List.reverseRecOn with
  | nil => rfl
  | append_singleton ws w ih =>
      have hbefore : Keyed ws := fun e he => hws e (List.mem_append_left _ he)
      have hformed := wellFormed_ofWrites hbefore
      have hlast : ofWrites (ws ++ [w]) = (ofWrites ws).set w.1 w.2 := writeAll_append empty ws [w]
      rw [hlast, update_eq_writeAll, entries_set,
        writeAll_write hl hformed.keyed hformed.distinct, ← update_eq_writeAll, ih hbefore,
        writeAll_append]
      rfl

/-! ### Leaving a key out -/

/-- A ledger with the entries of a key left out. -/
def without (l : Ledger) (key : Value) : Ledger := ⟨l.entries.filter fun e => !e.1.same key⟩

theorem without_entries (l : Ledger) (key : Value) :
    (l.without key).entries = l.entries.filter fun e => !e.1.same key := rfl

theorem filter_cons_of_same {e : Value × Value} (h : e.1.same key = true) :
    ((e :: es).filter fun e => !e.1.same key) = es.filter fun e => !e.1.same key :=
  List.filter_cons_of_neg (by simp [h])

theorem filter_cons_of_not_same {e : Value × Value} (h : e.1.same key = false) :
    ((e :: es).filter fun e => !e.1.same key) = e :: es.filter fun e => !e.1.same key :=
  List.filter_cons_of_pos (by simp [h])

theorem filter_write (hes : Keyed es) (hk : k.IsKey) (key : Value) :
    ((write k v es).filter fun e => !e.1.same key) =
      if k.same key then es.filter fun e => !e.1.same key
      else write k v (es.filter fun e => !e.1.same key) := by
  induction es with
  | nil => cases h : k.same key <;> simp [write, h]
  | cons e rest ih =>
      obtain ⟨he, hrest⟩ := keyed_cons.mp hes
      cases hek : e.1.same k with
      | true =>
          have hkey : e.1.same key = k.same key := Value.same_congr_left he hk hek key
          rw [write_cons_of_same hek, ← hkey]
          cases h : e.1.same key with
          | true =>
              rw [filter_cons_of_same (e := (e.1, v)) h, filter_cons_of_same h]
              rfl
          | false =>
              rw [filter_cons_of_not_same (e := (e.1, v)) h, filter_cons_of_not_same h,
                write_cons_of_same hek]
              rfl
      | false =>
          rw [write_cons_of_not_same hek]
          cases h : e.1.same key with
          | true =>
              rw [filter_cons_of_same h, filter_cons_of_same h, ih hrest]
          | false =>
              rw [filter_cons_of_not_same h, filter_cons_of_not_same h, ih hrest]
              split
              · rfl
              · rw [write_cons_of_not_same hek]

/-- A write to the key that is left out is left out, too. -/
theorem without_set {l : Ledger} (hl : Keyed l.entries) (hk : k.IsKey) (key : Value) :
    (l.set k v).without key = if k.same key then l.without key else (l.without key).set k v := by
  have h := filter_write (v := v) hl hk key
  cases hsame : k.same key with
  | true =>
      rw [hsame, if_pos rfl] at h
      exact congrArg Ledger.mk h
  | false =>
      rw [hsame, if_neg Bool.false_ne_true] at h
      exact congrArg Ledger.mk h

theorem keyed_filter (hes : Keyed es) (p : Value × Value → Bool) : Keyed (es.filter p) :=
  fun e he => hes e (List.mem_filter.mp he).1

/-- Leaving a key out leaves out the writes to it. -/
theorem without_writeAll {l : Ledger} (hl : Keyed l.entries) {ws : List (Value × Value)}
    (hws : Keyed ws) (key : Value) :
    (l.writeAll ws).without key =
      (l.without key).writeAll (ws.filter fun w => !w.1.same key) := by
  induction ws generalizing l with
  | nil => rfl
  | cons w ws ih =>
      obtain ⟨hw, hrest⟩ := keyed_cons.mp hws
      rw [writeAll_cons, ih (keyed_set hl hw) hrest, without_set hl hw]
      cases h : w.1.same key with
      | true =>
          rw [filter_cons_of_same h]
          rfl
      | false =>
          rw [filter_cons_of_not_same h, writeAll_cons]
          rfl

/-- An entry of another key is not one of the key that is left out. -/
theorem not_same_key {key other : Value} (hk : k.IsKey) (hkey : key.IsKey)
    (hother : other.same key = false) (h : k.same other = true) : k.same key = false := by
  cases hboth : k.same key with
  | false => rfl
  | true =>
      have hsame := Value.same_of_same hk hkey h hboth
      rw [hother] at hsame
      cases hsame

/-- Leaving a key out leaves the last writes to other keys. -/
theorem last?_filter {ws : List (Value × Value)} (hws : Keyed ws) {key other : Value}
    (hkey : key.IsKey) (hother : other.same key = false) :
    last? (ws.filter fun w => !w.1.same key) other = last? ws other := by
  rw [last?, List.filter_filter]
  refine congrArg (fun ws => (List.getLast? ws).map Prod.snd) (List.filter_congr fun w hw => ?_)
  cases hboth : w.1.same other with
  | false => rfl
  | true => rw [not_same_key (hws w hw) hkey hother hboth]; rfl

/-- Leaving a key out leaves all else. -/
theorem get?_without {l : Ledger} (hl : Keyed l.entries) {key other : Value} (hkey : key.IsKey)
    (hother : other.same key = false) : (l.without key).get? other = l.get? other := by
  obtain ⟨es⟩ := l
  rw [get?, get?, without_entries]
  induction es with
  | nil => rfl
  | cons e rest ih =>
      obtain ⟨he, hrest⟩ := keyed_cons.mp hl
      cases h : e.1.same key with
      | false => rw [filter_cons_of_not_same h, find?, find?, ih hrest]
      | true =>
          have hskipped : e.1.same other = false := by
            cases hboth : e.1.same other with
            | false => rfl
            | true =>
                rw [not_same_key he hkey hother hboth] at h
                cases h
          rw [filter_cons_of_same h, find?_cons_of_not_same hskipped, ih hrest]

end Rulebook.Ledger
