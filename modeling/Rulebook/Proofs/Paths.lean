import Rulebook.Path
import Rulebook.Proofs.Success

/-!
# Paths in Two Parts

A written path that is cut at one of its dots can be followed in two parts: the second part is
followed from what the first one leads to. Nothing is lost at the cut. Where the first part leads
nowhere the second one does neither, and where following it fails the whole path fails alike.

The exception is a first part with a wildcard. At the end of a path a wildcard stands for the list
itself, while in the middle it spreads over the items of the list, so that a path cannot be cut
behind it. What follows a wildcard in the middle is followed from every item instead.

## Main definitions

* `Value.IsDirect`: a written path without wildcard.

## Main results

* `Value.resolvePath_cut`: a path is followed in two parts.
* `Value.resolvePath_spread`: behind a wildcard a path is followed from every item.
* `resolvePath_composes`: both of these, and when following a path with a wildcard fails.
-/

namespace Rulebook

namespace Value

/-- The segments that parts of a text write. -/
def ofParts (parts : List (List Char)) : List Value :=
  parts.map fun part => text (String.ofList part)

/-- No segment of a written path is the wildcard. -/
def IsDirect (path : String) : Prop :=
  ∀ part ∈ Text.splitOn '.' path.toList, String.ofList part ≠ wildcard

instance (path : String) : Decidable (IsDirect path) :=
  inferInstanceAs (Decidable (∀ part ∈ Text.splitOn '.' path.toList, String.ofList part ≠ wildcard))

/-! ### Written paths -/

/-- A written path is followed along the parts between its dots. -/
theorem resolvePath_text (v : Value) (path : String) :
    v.resolvePath (text path) = v.resolve (ofParts (Text.splitOn '.' path.toList)) := rfl

theorem splitOn_join (p q : String) :
    Text.splitOn '.' (p ++ "." ++ q).toList =
      Text.splitOn '.' p.toList ++ Text.splitOn '.' q.toList := by
  rw [← Text.splitOn_append, String.toList_append, String.toList_append, List.append_assoc]
  rfl

theorem ofParts_append (front back : List (List Char)) :
    ofParts (front ++ back) = ofParts front ++ ofParts back := List.map_append

theorem ofParts_cons_ne_nil (part : List Char) (rest : List (List Char)) :
    ofParts (part :: rest) ≠ [] := nofun

theorem ofParts_splitOn_ne_nil (path : String) : ofParts (Text.splitOn '.' path.toList) ≠ [] :=
  fun h => Text.splitOn_ne_nil '.' path.toList (List.map_eq_nil_iff.mp h)

theorem IsDirect.not_isWildcard {path : String} (h : IsDirect path) :
    ∀ segment ∈ ofParts (Text.splitOn '.' path.toList), segment.isWildcard = false := by
  intro segment hsegment
  obtain ⟨part, hpart, rfl⟩ := List.mem_map.mp hsegment
  exact beq_eq_false_iff_ne.mpr (h part hpart)

/-! ### Cutting a path -/

/-- **A path is followed in two parts**, when there is no wildcard in the first one. -/
theorem resolvePath_cut {p : String} (hp : IsDirect p) (v : Value) (q : String) :
    v.resolvePath (text (p ++ "." ++ q)) =
      v.resolvePath (text p) >>= fun w => w.resolvePath (text q) := by
  simp only [resolvePath_text]
  rw [splitOn_join, ofParts_append, resolve_append hp.not_isWildcard]

/-- Behind a wildcard a path is followed from every item. -/
theorem resolve_wildcard (items : List Value) {rest : List Value} (h : rest ≠ []) :
    (list items).resolve (text wildcard :: rest) =
      (items.mapM fun item : Value => item.resolve rest).map collect := by
  have hrest : rest.isEmpty = false := by
    rw [List.isEmpty_eq_false_iff]
    exact h
  simp [resolve, spread?, isWildcard, hrest]

/-- **Behind a wildcard a path is followed from every item** of the list that the path before the
wildcard leads to, and what is absent is left out. -/
theorem resolvePath_spread {p : String} (hp : IsDirect p) {v : Value} {items : List Value}
    (h : v.resolvePath (text p) = .ok (list items)) (q : String) :
    v.resolvePath (text (p ++ ".*." ++ q)) =
      (items.mapM fun item : Value => item.resolvePath (text q)).map collect := by
  have hpath : p ++ ".*." ++ q = p ++ "." ++ (wildcard ++ "." ++ q) := by
    simp only [String.append_assoc]
    rfl
  have hsegments : ofParts (Text.splitOn '.' (wildcard ++ "." ++ q).toList) =
      text wildcard :: ofParts (Text.splitOn '.' q.toList) := by
    rw [splitOn_join, ofParts_append]
    rfl
  rw [hpath, resolvePath_cut hp, h]
  change (list items).resolvePath (text (wildcard ++ "." ++ q)) = _
  rw [resolvePath_text, hsegments, resolve_wildcard items (ofParts_splitOn_ne_nil q)]
  rfl

end Value

open Value in
/-- **Paths compose.** A written path whose first part has no wildcard leads where its second part
leads to from what the first part leads to, or fails as the one or the other does. Where the first
part leads to a list, a wildcard and a further path lead to the list of what the further path leads
to from each item, in order and without what is absent, and this fails exactly when it fails for
some item. -/
theorem resolvePath_composes (v : Value) {p : String} (hp : IsDirect p) (q : String) :
    v.resolvePath (.text (p ++ "." ++ q)) =
      (v.resolvePath (.text p) >>= fun w => w.resolvePath (.text q)) ∧
    ∀ items, v.resolvePath (.text p) = .ok (.list items) →
      (∀ found, v.resolvePath (.text (p ++ ".*." ++ q)) = .ok found ↔
        ∃ ws, List.Forall₂ (fun x w => x.resolvePath (.text q) = .ok w) items ws ∧
          found = .list (ws.filter fun w => !w.isAbsent)) ∧
      ((∃ fault, v.resolvePath (.text (p ++ ".*." ++ q)) = .error fault) ↔
        ∃ x ∈ items, ∃ fault, x.resolvePath (.text q) = .error fault) := by
  refine ⟨resolvePath_cut hp v q, fun items hitems => ?_⟩
  rw [resolvePath_spread hp hitems]
  constructor
  · intro found
    rw [map_eq_ok_iff]
    refine exists_congr fun ws => ?_
    rw [mapM_eq_ok_iff, collect]
    exact and_congr_right fun _ => eq_comm
  · simp only [map_eq_error_iff]
    exact exists_mapM_eq_error_iff

/-- An order of two crates and a gap, with lines that miss a code or hold `null` for it. -/
def crateOrder : Value := .mapping [("crates", .list [
  .mapping [("lines", .list [.mapping [("code", .int 7)], .mapping [("code", .null)]])],
  .null,
  .mapping [("lines", .list [.mapping []])]])]

/-- The codes of all lines of all crates: the crate that is `null` is left out, the code that is
`null` is kept. A path that fails from the first crate fails from the order. -/
theorem resolvePath_composes_crates :
    Value.IsDirect "crates" ∧
    crateOrder.resolvePath (.text "crates.*.lines.*.code") =
      .ok (.list [.list [.int 7, .null], .list []]) ∧
    (∃ fault, crateOrder.resolvePath (.text "crates.*.lines.²") = .error fault) ∧
    crateOrder.resolvePath (.text "crates.1.lines") = .ok .absent := by
  have hdirect : Value.IsDirect "crates" := by decide
  have hdeep : Value.IsDirect "crates.1" := by decide
  refine ⟨hdirect, ?_, ?_, ?_⟩
  · obtain ⟨-, hspread⟩ := resolvePath_composes crateOrder hdirect "lines.*.code"
    obtain ⟨hvalues, -⟩ := hspread _ rfl
    exact (hvalues _).mpr ⟨[.list [.int 7, .null], .absent, .list []],
      .cons rfl (.cons rfl (.cons rfl .nil)), rfl⟩
  · obtain ⟨-, hspread⟩ := resolvePath_composes crateOrder hdirect "lines.²"
    obtain ⟨-, hfails⟩ := hspread _ rfl
    exact hfails.mpr ⟨_, List.mem_cons_self, _, rfl⟩
  · obtain ⟨hcut, -⟩ := resolvePath_composes crateOrder hdeep "lines"
    exact hcut.trans rfl

end Rulebook
