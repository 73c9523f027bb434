import Kaleido.Diagnostic
import Kaleido.Prototype
import Kaleido.Table

/-!
# Declarations and operators

What a source has declared. The prototypes in force are known by name: the first declaration of a
name stays in force for ever, and a later one has to agree with it in the number of parameters and,
where it gives one, in the precedence. The binary operators that expressions can use are known by
their precedences: an operator with a greater precedence binds more tightly.
-/
namespace Kaleido

/-- The precedences of binary operators. -/
abbrev Operators := Table Char Int

namespace Operators

/-- The precedence of assignment, the loosest operator of the language. -/
def assignmentPrecedence : Int := 2

/-- The operators of the language itself. -/
def builtin : Operators :=
  .ofList [('=', assignmentPrecedence), ('<', 10), ('>', 10), ('+', 20), ('-', 20), ('*', 40),
    ('/', 40)]

/-- The precedence of an operator. -/
def precedence? (operators : Operators) (op : Char) : Option Int := operators.find? op

end Operators

/-- The prototype in force for each declared name. -/
abbrev Declarations := Table String Prototype

namespace Declarations

/-- The disagreement of a new prototype with the one in force. -/
def conflict? (inForce new : Prototype) : Option Cause :=
  if inForce.arity ≠ new.arity then
    some (.conflictingPrototype new.name inForce.arity new.arity)
  else
    match new.operator?, new.precedence with
    | some op, some received =>
      if inForce.effectivePrecedence ≠ received then
        some (.conflictingPrecedence op.toString inForce.effectivePrecedence received)
      else none
    | _, _ => none

/-- Declares a prototype. The answer is the prototype in force for its name, or the disagreement
with the one in force; with it come the declarations after it, also if the prototype is refused. -/
def register (declarations : Declarations) (prototype : Prototype) :
    Except Diagnostic Prototype × Declarations :=
  match declarations.find? prototype.name with
  | none => (.ok prototype, declarations.insert prototype.name prototype)
  | some inForce =>
    match conflict? inForce prototype with
    | some cause => (.error ⟨cause, prototype.position⟩, declarations)
    | none => (.ok inForce, declarations)

/-- A prototype that is refused leaves the declarations as they were. -/
theorem register_of_error {declarations : Declarations} {prototype : Prototype}
    {diagnostic : Diagnostic} (refused : (declarations.register prototype).1 = .error diagnostic) :
    declarations.register prototype = (.error diagnostic, declarations) := by
  unfold register at refused ⊢
  split at refused
  · cases refused
  · split at refused
    · exact congrArg (·, declarations) refused
    · cases refused

/-- The signature of a declared name. -/
def signature? (declarations : Declarations) (name : String) : Option Signature :=
  (declarations.find? name).map Prototype.signature

end Declarations

end Kaleido
