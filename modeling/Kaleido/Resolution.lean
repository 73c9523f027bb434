import Kaleido.Prototype

/-!
# Resolutions

What is known of a function once its names are resolved: the storage that it needs, the storage
that each use of a variable means, and the functions that it calls.
-/
namespace Kaleido

/-- What a piece of storage holds. -/
inductive Origin where
  | parameter
  | loopVariable
  | localVariable
deriving Repr, DecidableEq

/-- A piece of storage that belongs to a function. -/
structure Slot where
  name : String
  origin : Origin
deriving Repr, DecidableEq

/-- The way in which a variable is used. -/
inductive Access where
  | read
  | write
deriving Repr, DecidableEq

/-- A use of a variable, with the number of the slot that it means. -/
structure Reference where
  name : String
  slot : Nat
  access : Access
deriving Repr, DecidableEq

/-- A function with its names resolved. Slots are in the order of their creation, references and
calls in the order of evaluation. -/
structure ResolvedFunction where
  name : String
  slots : Array Slot
  references : Array Reference
  calls : Array Signature
deriving Repr, DecidableEq

/-- The slot that a reference means. -/
def ResolvedFunction.referent? (function : ResolvedFunction) (index : Nat) : Option Slot :=
  function.references[index]?.bind fun reference => function.slots[reference.slot]?

/-- An item with its names resolved. -/
inductive Handle where
  | function (function : ResolvedFunction)
  | external (signature : Signature)
deriving Repr, DecidableEq

end Kaleido
