import Kaleido.Expr
import Kaleido.Prototype

/-!
# Items

A source is a sequence of items: definitions, declarations of functions that are defined
elsewhere, and expressions to be evaluated, each of which is the body of a function of its own.
-/
namespace Kaleido

/-- A prototype with a body. -/
structure Function where
  prototype : Prototype
  body : List Expr
deriving Repr

namespace Function

/-- Whether the function has no name that a call could use. -/
def isAnonymous (function : Function) : Bool := function.prototype.name = ""

/-- A function as an s-expression. -/
def text (function : Function) : String :=
  "(def " ++ function.prototype.name ++ " (" ++ function.prototype.paramsText ++ ")" ++
    Expr.bodyText function.body ++ ")"

end Function

/-- One construct at the top level of a source. -/
inductive Item where
  /-- A function with its body. -/
  | definition (function : Function)
  /-- A function that is defined elsewhere. -/
  | external (prototype : Prototype)
  /-- An expression, as the body of a function without parameters. -/
  | expression (function : Function)
deriving Repr

namespace Item

/-- The prototype of an item. -/
def prototype : Item → Prototype
  | .definition function | .expression function => function.prototype
  | .external prototype => prototype

/-- An item as an s-expression. -/
def text : Item → String
  | .definition function | .expression function => function.text
  | .external prototype => "(extern " ++ prototype.text ++ ")"

end Item

end Kaleido
