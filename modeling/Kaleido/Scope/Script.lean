import Kaleido.Scope

/-!
# Scripts of scope operations

A script is a list of operations on a scope, some of which run a script inside a frame of its own.
A lookup can be required: if it finds nothing, the list that it stands in ends there. So does the
list around a script that is required to run to its end and does not.
-/
namespace Kaleido.Scope

/-- One operation on a scope. -/
inductive Action (α : Type) where
  | push (frame : Frame α)
  | pop
  | declare (name : String) (value : α)
  | get (name : String)
  /-- A lookup that ends its list if it finds nothing. -/
  | require (name : String)
  | clear
  /-- A script inside a frame of its own, which ends its list if it is required to run to its end
  and does not. -/
  | within (frame : Frame α) (script : List (Action α)) (required : Bool := false)
deriving Repr

/-- What an operation answers. -/
inductive Answer (α : Type) where
  | nothing
  /-- The frame that was closed. -/
  | frame (frame : Option (Frame α))
  /-- The value that was found or replaced. -/
  | value (value : Option α)
  /-- Whether a script ran to its end. -/
  | completed (completed : Bool)
deriving Repr, DecidableEq

/-- The answer of an operation and the scope after it. -/
structure Report (α : Type) where
  answer : Answer α
  scope : Scope α
deriving Repr, DecidableEq

variable {α : Type}

/-- The number of frames after an operation. -/
def Report.depth (report : Report α) : Nat := report.scope.depth

mutual

/-- Runs one operation. The reports are in the order in which the operations end; the second part
says whether the list that the operation stands in goes on. -/
def Action.run : Action α → Scope α → (List (Report α) × Bool) × Scope α
  | .push frame, scope => done .nothing (scope.push frame)
  | .pop, scope => done (.frame scope.innermost?) scope.pop
  | .declare name value, scope =>
    done (.value (scope.replaced? name)) (scope.declare name value)
  | .get name, scope => done (.value (scope.find? name)) scope
  | .require name, scope =>
    (([⟨.value (scope.find? name), scope⟩], (scope.find? name).isSome), scope)
  | .clear, _ => done .nothing .empty
  | .within frame script required, scope =>
    let ((reports, completed), after) := withFrame frame (runAll script) scope
    ((reports ++ [⟨.completed completed, after⟩], completed || !required), after)
where
  /-- One report, after which the list goes on. -/
  done (answer : Answer α) (after : Scope α) : (List (Report α) × Bool) × Scope α :=
    (([⟨answer, after⟩], true), after)

/-- Runs a script. The second part says whether it ran to its end. -/
def runAll : List (Action α) → Scope α → (List (Report α) × Bool) × Scope α
  | [], scope => (([], true), scope)
  | action :: rest, scope =>
    match action.run scope with
    | ((reports, false), after) => ((reports, false), after)
    | ((reports, true), after) =>
      let ((later, completed), finish) := runAll rest after
      ((reports ++ later, completed), finish)

end

end Kaleido.Scope
