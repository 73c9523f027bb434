import Kaleido.Position

/-!
# Prototypes

A prototype declares a function by its name and parameters. An operator is declared by a
prototype too, whose name is built from the operator, so that its uses are calls of that name.
-/
namespace Kaleido

/-- What a prototype declares. -/
inductive Role where
  | function
  | unary
  | binary
deriving Repr, DecidableEq

/-- The name of the function that an operator in a given role stands for. -/
def Role.functionName : Role → Char → String
  | .function, op => op.toString
  | .unary, op => "unary" ++ op.toString
  | .binary, op => "binary" ++ op.toString

/-- The declaration of a function or operator. -/
structure Prototype where
  name : String
  params : List String
  role : Role := .function
  /-- The precedence of a binary operator, if the declaration gives one. -/
  precedence : Option Int := none
  position : Position
deriving Repr, DecidableEq

/-- What a call has to agree with. -/
structure Signature where
  name : String
  arity : Nat
deriving Repr, DecidableEq

/-- The name and the number of parameters, divided by a slash. -/
def Signature.text (signature : Signature) : String :=
  signature.name ++ "/" ++ signature.arity.repr

/-- The precedence of a binary operator declared without one. -/
def defaultPrecedence : Int := 30

namespace Prototype

/-- The declaration of an operator. -/
def ofOperator (role : Role) (op : Char) (params : List String) (precedence : Option Int)
    (position : Position) : Prototype :=
  ⟨role.functionName op, params, role, precedence, position⟩

/-- The number of parameters. -/
def arity (prototype : Prototype) : Nat := prototype.params.length

/-- The name and number of parameters that calls have to agree with. -/
def signature (prototype : Prototype) : Signature := ⟨prototype.name, prototype.arity⟩

/-- Whether this declares a unary operator with its one operand. -/
def isUnary (prototype : Prototype) : Bool := prototype.role = .unary && prototype.arity = 1

/-- Whether this declares a binary operator with its two operands. -/
def isBinary (prototype : Prototype) : Bool := prototype.role = .binary && prototype.arity = 2

/-- The operator that is declared, which ends the name. -/
def operator? (prototype : Prototype) : Option Char :=
  if prototype.role = .function then none else prototype.name.toList.getLast?

/-- The precedence that the declaration gives or implies. -/
def effectivePrecedence (prototype : Prototype) : Int :=
  prototype.precedence.getD defaultPrecedence

/-- The parameters divided by spaces. -/
def paramsText (prototype : Prototype) : String := String.intercalate " " prototype.params

/-- The name, then the parameters in parentheses. -/
def text (prototype : Prototype) : String :=
  prototype.name ++ "(" ++ prototype.paramsText ++ ")"

end Prototype

end Kaleido
