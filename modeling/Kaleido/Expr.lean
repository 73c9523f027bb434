import Kaleido.Number.Shortest

/-!
# Expressions

The trees of the language, in which every value is a number, and their text as s-expressions.
Branches of a conditional and bodies of a loop are lists of expressions, of which the last one
gives the value.
-/
namespace Kaleido

/-- An expression. -/
inductive Expr where
  /-- A number. -/
  | number (value : Binary64)
  /-- A use of a variable. -/
  | var (name : String)
  /-- Gives a variable the value of an expression. -/
  | assign (target : String) (value : Expr)
  /-- A binary operator between its operands. -/
  | binary (op : Char) (left right : Expr)
  /-- A unary operator before its operand. -/
  | unary (op : Char) (operand : Expr)
  /-- A call of a function. -/
  | call (callee : String) (arguments : List Expr)
  /-- A choice between two bodies. -/
  | conditional (condition : Expr) (whenTrue whenFalse : List Expr)
  /-- A body repeated while a variable runs from `first`, by `step`, as long as `last` holds. -/
  | loop (counter : String) (first last : Expr) (step : Option Expr) (body : List Expr)
  /-- Local variables, each with or without an initial value, around a body. -/
  | locals (bindings : List (String × Option Expr)) (body : Expr)
deriving Repr, Inhabited

/-- The binary operators that the language has without a declaration, assignment apart. -/
def builtinOperators : List Char := ['+', '-', '*', '/', '<', '>']

namespace Expr

mutual

/-- An expression as an s-expression. -/
def text : Expr → String
  | .number value => value.text
  | .var name => name
  | .assign target value => "(= " ++ target ++ " " ++ value.text ++ ")"
  | .binary op left right =>
    "(" ++ op.toString ++ " " ++ left.text ++ " " ++ right.text ++ ")"
  | .unary op operand => "(" ++ op.toString ++ " " ++ operand.text ++ ")"
  | .call callee arguments => "(" ++ callee ++ bodyText arguments ++ ")"
  | .conditional condition whenTrue whenFalse =>
    "(if " ++ condition.text ++ bodyText whenTrue ++ bodyText whenFalse ++ ")"
  | .loop counter first last step body =>
    "(for (" ++ counter ++ " " ++ first.text ++ " " ++ last.text ++ stepText step ++ ")" ++
      bodyText body ++ ")"
  | .locals bindings body => "(var (" ++ bindingsText bindings ++ ") " ++ body.text ++ ")"

/-- Expressions one after the other, each after a space. -/
def bodyText : List Expr → String
  | [] => ""
  | expr :: rest => " " ++ expr.text ++ bodyText rest

/-- The step of a loop after a space, if there is one. -/
def stepText : Option Expr → String
  | none => ""
  | some step => " " ++ step.text

/-- A local variable, in parentheses with its initial value if it has one. -/
def bindingText : String × Option Expr → String
  | (name, none) => name
  | (name, some initial) => "(" ++ name ++ " " ++ initial.text ++ ")"

/-- Local variables divided by spaces. -/
def bindingsText : List (String × Option Expr) → String
  | [] => ""
  | [binding] => bindingText binding
  | binding :: rest => bindingText binding ++ " " ++ bindingsText rest

end

end Expr

end Kaleido
