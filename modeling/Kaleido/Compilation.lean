import Kaleido.Grammar.Program
import Kaleido.Resolver

/-!
# Compilations

A source is compiled item by item: each is resolved as soon as it is read, against the
declarations in force at that point. An item that cannot be read or resolved gives a diagnostic,
and the next one is tried.
-/
namespace Kaleido

/-- What becomes of one item. -/
inductive Event where
  /-- The item is read and resolved. -/
  | accepted (item : Item) (handle : Handle)
  /-- The item cannot be read or resolved. -/
  | rejected (diagnostic : Diagnostic)
deriving Repr

/-- Everything that comes of a source. -/
structure Compilation where
  events : List Event
  /-- The session at the end of the source. -/
  session : Session
  /-- The resolver after the last item. -/
  resolver : Resolver
deriving Repr

/-- Resolves what was read of one item. -/
def Resolver.outcome (resolver : Resolver) (outcome : Grammar.Outcome) : Event × Resolver :=
  match outcome.result with
  | .error diagnostic => (.rejected diagnostic, resolver)
  | .ok item =>
    match resolver.item item outcome.after.declarations with
    | (.ok handle, after) => (.accepted item handle, after)
    | (.error diagnostic, after) => (.rejected diagnostic, after)

/-- Resolves the items of a program in their order. -/
def Resolver.outcomes (resolver : Resolver) : List Grammar.Outcome → List Event × Resolver
  | [] => ([], resolver)
  | first :: rest =>
    let (event, after) := resolver.outcome first
    let (events, finish) := after.outcomes rest
    (event :: events, finish)

/-- Compiles a source. -/
def compile (source : String) : Compilation :=
  let (outcomes, session) := Grammar.program (.ofSource source)
  let (events, resolver) := Resolver.outcomes {} outcomes
  ⟨events, session, resolver⟩

namespace Compilation

/-- The diagnostics in the order in which they arose. -/
def diagnostics (compilation : Compilation) : List Diagnostic :=
  compilation.events.filterMap fun
    | .rejected diagnostic => some diagnostic
    | .accepted .. => none

/-- The accepted items with their resolutions. -/
def accepted (compilation : Compilation) : List (Item × Handle) :=
  compilation.events.filterMap fun
    | .accepted item handle => some (item, handle)
    | .rejected _ => none

end Compilation

end Kaleido
