import Kaleido.Declarations
import Kaleido.Item
import Kaleido.Resolution
import Kaleido.Scope

/-!
# Resolving names

A function is resolved by a walk over its body in the order of evaluation. The walk keeps the
bindings of the constructs around the place where it stands and notes what it finds. Errors stand
at the prototype of the function, since expressions do not know their places.
-/
namespace Kaleido

/-- The bindings in force at a place of a body, and what was found before it. -/
structure Walk where
  scope : Scope Nat := .empty
  slots : Array Slot := #[]
  references : Array Reference := #[]
  calls : Array Signature := #[]
deriving Repr, DecidableEq

instance : HasScope Walk Nat where
  scope := Walk.scope
  setScope scope walk := { walk with scope }

/-- A part of a walk, which can end it by an error. What was found before the error is kept. -/
def WalkM (α : Type) : Type := Walk → Except Diagnostic α × Walk

instance : Monad WalkM where
  pure a walk := (.ok a, walk)
  bind part next walk :=
    match part walk with
    | (.ok a, after) => next a after
    | (.error diagnostic, after) => (.error diagnostic, after)

namespace Walk

/-- Creates a slot and gives its number. -/
def allocate (name : String) (origin : Origin) : WalkM Nat := fun walk =>
  (.ok walk.slots.size, { walk with slots := walk.slots.push ⟨name, origin⟩ })

/-- Binds a name in the innermost frame. -/
def bindName (name : String) (slot : Nat) : WalkM Unit := fun walk =>
  (.ok (), { walk with scope := walk.scope.declare name slot })

/-- Notes a use of a variable. -/
def refer (position : Position) (name : String) (access : Access) : WalkM Unit := fun walk =>
  match walk.scope.find? name with
  | none => (.error ⟨.variableNotDeclared name, position⟩, walk)
  | some slot => (.ok (), { walk with references := walk.references.push ⟨name, slot, access⟩ })

/-- Notes a call, which has to agree with a declaration. -/
def call (declarations : Declarations) (position : Position) (name : String) (received : Nat) :
    WalkM Unit := fun walk =>
  match declarations.signature? name with
  | none => (.error ⟨.unknownFunction name, position⟩, walk)
  | some signature =>
    if signature.arity = received then
      (.ok (), { walk with calls := walk.calls.push signature })
    else (.error ⟨.unexpectedArguments name signature.arity received, position⟩, walk)

/-- Walks inside a frame of its own, which is closed also after an error. -/
def within (frame : Frame Nat) (work : WalkM Unit) : WalkM Unit := withFrame frame work

mutual

/-- Walks over an expression. -/
def expression (declarations : Declarations) (position : Position) : Expr → WalkM Unit
  | .number _ => return
  | .var name => refer position name .read
  | .assign target value => do
    expression declarations position value
    refer position target .write
  | .binary op left right => do
    expression declarations position left
    expression declarations position right
    if op ∉ builtinOperators then
      call declarations position (Role.binary.functionName op) 2
  | .unary op operand => do
    expression declarations position operand
    call declarations position (Role.unary.functionName op) 1
  | .call callee arguments => do
    expressions declarations position arguments
    call declarations position callee arguments.length
  | .conditional condition whenTrue whenFalse => do
    expression declarations position condition
    expressions declarations position whenTrue
    expressions declarations position whenFalse
  | .loop counter first last step body => do
    expression declarations position first
    let slot ← allocate counter .loopVariable
    within (Table.empty.insert counter slot) do
      expression declarations position last
      optional declarations position step
      expressions declarations position body
  | .locals bound body =>
    within .empty do
      bindings declarations position bound
      expression declarations position body

/-- Walks over expressions one after the other. -/
def expressions (declarations : Declarations) (position : Position) : List Expr → WalkM Unit
  | [] => return
  | expr :: rest => do
    expression declarations position expr
    expressions declarations position rest

/-- Walks over an expression if there is one. -/
def optional (declarations : Declarations) (position : Position) : Option Expr → WalkM Unit
  | none => return
  | some expr => expression declarations position expr

/-- Walks over local variables. The initial value of a variable does not see the variable. -/
def bindings (declarations : Declarations) (position : Position) :
    List (String × Option Expr) → WalkM Unit
  | [] => return
  | (name, initial) :: rest => do
    optional declarations position initial
    let slot ← allocate name .localVariable
    bindName name slot
    bindings declarations position rest

end

/-- The frame of the parameters: they have the first slots, and of two parameters of one name the
later one is meant. -/
def parameterFrame (params : List String) : Frame Nat := .ofList params.zipIdx

/-- The walk at the start of a body. -/
def start (params : List String) : Walk :=
  { slots := (params.map fun name => ⟨name, .parameter⟩).toArray }

/-- Walks over a function. -/
def function (declarations : Declarations) (function : Function) : Except Diagnostic Unit × Walk :=
  within (parameterFrame function.prototype.params)
    (expressions declarations function.prototype.position function.body)
    (start function.prototype.params)

end Walk

/-- Resolves items one after the other, and knows which functions have a body. -/
structure Resolver where
  defined : List String := []
deriving Repr, DecidableEq

namespace Resolver

/-- Whether a function of this name has a body. -/
def hasBody (resolver : Resolver) (name : String) : Bool := resolver.defined.contains name

/-- Resolves a function. It must not have a body already; it has one from then on, unless the
resolution fails or it has no name. -/
def function (resolver : Resolver) (function : Function) (declarations : Declarations) :
    Except Diagnostic Handle × Resolver :=
  let name := function.prototype.name
  if resolver.hasBody name then
    (.error ⟨.functionRedefined name, function.prototype.position⟩, resolver)
  else
    match Walk.function declarations function with
    | (.error diagnostic, _) => (.error diagnostic, resolver)
    | (.ok _, walk) =>
      (.ok (.function ⟨name, walk.slots, walk.references, walk.calls⟩),
        if function.isAnonymous then resolver else ⟨name :: resolver.defined⟩)

/-- Resolves an item. -/
def item (resolver : Resolver) (item : Item) (declarations : Declarations) :
    Except Diagnostic Handle × Resolver :=
  match item with
  | .definition function | .expression function => resolver.function function declarations
  | .external prototype => (.ok (.external prototype.signature), resolver)

end Resolver

end Kaleido
