import Rulebook.Fault

/-!
# Signatures

Rules can be built by naming what to build and giving it arguments, some by position and some by
name. A signature says which parameters there are, and `Signature.bind?` says which argument each
of them gets, or what is wrong: a name that is not known or comes twice, too many arguments by
position, or a required parameter that gets none. The faults are looked for in this order.

## Main definitions

* `Signature`, `Bound`;
* `Signature.bind?`.

## Main results

* `bind?_ok`: every required parameter gets an argument.
-/

namespace Rulebook

/-- The parameters of something that can be called. -/
structure Signature where
  name : String
  /-- The parameters that have to be given; they come first. -/
  required : List String
  /-- The parameters that may be left out. -/
  optional : List String

/-- Arguments by the parameters that get them. -/
structure Bound (α : Type) where
  entries : List (String × α)

namespace Bound

variable {α : Type}

/-- The argument of a parameter, if it got one. -/
def get? (b : Bound α) (parameter : String) : Option α :=
  (b.entries.find? fun e => e.1 = parameter).map Prod.snd

/-- The argument of a parameter, or what stands in its stead. -/
def getD (b : Bound α) (parameter : String) (instead : α) : α := (b.get? parameter).getD instead

/-- Does a parameter have an argument? -/
def has (b : Bound α) (parameter : String) : Bool := (b.get? parameter).isSome

end Bound

namespace Signature

variable {α : Type}

/-- All parameters in order. -/
def parameters (s : Signature) : List String := s.required ++ s.optional

/-- The names of parameters in a sentence. -/
def listing (names : List String) : String :=
  let quoted := names.map fun name => "'" ++ name ++ "'"
  match quoted.reverse with
  | [] => ""
  | [a] => a
  | [b, a] => a ++ " and " ++ b
  | last :: before => ", ".intercalate before.reverse ++ ", and " ++ last

/-- The fault of an argument that fits no parameter. -/
def fault (s : Signature) (reason : String) : Fault := .arguments (s.name ++ "() " ++ reason)

/-- How many arguments may come by position, in words. -/
def capacity (s : Signature) : String :=
  let most := s.parameters.length
  if s.optional.isEmpty then
    toString most ++ " positional argument" ++ if most = 1 then "" else "s"
  else "from " ++ toString s.required.length ++ " to " ++ toString most ++ " positional arguments"

/-- The fault of too many arguments by position. -/
def tooMany (s : Signature) (given : Nat) : Fault :=
  s.fault ("takes " ++ s.capacity ++ " but " ++ toString given ++
    (if given = 1 then " was" else " were") ++ " given")

/-- The fault of required parameters without argument. -/
def missingFault (s : Signature) (missing : List String) : Fault :=
  s.fault ("missing " ++ toString missing.length ++ " required positional argument" ++
    (if missing.length = 1 then "" else "s") ++ ": " ++ listing missing)

/-- Binds one more argument that comes by name. -/
def bindNamed (s : Signature) (b : Bound α) (name : String) (argument : α) :
    Except Fault (Bound α) :=
  if !s.parameters.contains name then
    .error (s.fault ("got an unexpected keyword argument '" ++ name ++ "'"))
  else if b.has name then
    .error (s.fault ("got multiple values for argument '" ++ name ++ "'"))
  else .ok ⟨b.entries ++ [(name, argument)]⟩

/-- The required parameters that have no argument. -/
def missing (s : Signature) (b : Bound α) : List String := s.required.filter fun p => !b.has p

/-- Binds arguments to parameters. -/
def bind? (s : Signature) (positional : List α) (named : List (String × α)) :
    Except Fault (Bound α) := do
  let b ← named.foldlM (fun b e => s.bindNamed b e.1 e.2) ⟨s.parameters.zip positional⟩
  if s.parameters.length < positional.length then throw (s.tooMany positional.length)
  let missing := s.missing b
  if !missing.isEmpty then throw (s.missingFault missing)
  return b

/-- When the arguments fit, every required parameter gets one. -/
theorem bind?_ok {s : Signature} {positional : List α} {named : List (String × α)} {b : Bound α}
    (h : s.bind? positional named = .ok b) : ∀ p ∈ s.required, b.has p = true := by
  rw [bind?] at h
  cases hfold : named.foldlM (fun b e => s.bindNamed b e.1 e.2)
      (⟨s.parameters.zip positional⟩ : Bound α) with
  | error fault => simp [hfold, bind, Except.bind] at h
  | ok b' =>
    rw [hfold] at h
    simp only [bind, Except.bind, throw, throwThe, MonadExceptOf.throw, pure, Except.pure] at h
    split at h
    · cases h
    · split at h
      · cases h
      · next hmissing =>
        obtain rfl := Except.ok.inj h
        intro p hp
        cases hb : b'.has p with
        | true => rfl
        | false =>
          have hmem : p ∈ s.missing b' := by simp [missing, hp, hb]
          simp only [Bool.not_eq_true', Bool.not_eq_false, List.isEmpty_iff] at hmissing
          rw [hmissing] at hmem
          exact absurd hmem List.not_mem_nil

end Signature

end Rulebook
