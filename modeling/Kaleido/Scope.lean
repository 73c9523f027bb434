import Kaleido.Table

/-!
# Scopes

A scope is a stack of frames, each of which binds names. A name means what the innermost frame
that binds it says, so an inner binding hides an outer one until its frame is closed. Main
statement: work inside a frame of its own that keeps the frames outside leaves the scope as it was.
-/
namespace Kaleido

/-- The bindings that one construct introduces. -/
abbrev Frame (α : Type) := Table String α

/-- Frames, the innermost first. -/
structure Scope (α : Type) where
  frames : List (Frame α) := []
deriving Repr, DecidableEq

namespace Scope

variable {α : Type}

/-- The scope without frames. -/
def empty : Scope α := ⟨[]⟩

/-- The number of frames. -/
def depth (scope : Scope α) : Nat := scope.frames.length

/-- Opens a frame. -/
def push (scope : Scope α) (frame : Frame α) : Scope α := ⟨frame :: scope.frames⟩

/-- The innermost frame. -/
def innermost? (scope : Scope α) : Option (Frame α) := scope.frames.head?

/-- Closes the innermost frame, if there is one. -/
def pop (scope : Scope α) : Scope α := ⟨scope.frames.tail⟩

/-- What a name means: its binding in the innermost frame that has one. -/
def find? (scope : Scope α) (name : String) : Option α :=
  scope.frames.findSome? (·.find? name)

/-- Binds a name in the innermost frame, and opens a frame if there is none. -/
def declare (scope : Scope α) (name : String) (value : α) : Scope α :=
  match scope.frames with
  | [] => ⟨[Table.empty.insert name value]⟩
  | frame :: outer => ⟨frame.insert name value :: outer⟩

/-- The binding that declaring a name replaces. -/
def replaced? (scope : Scope α) (name : String) : Option α :=
  scope.innermost?.bind (·.find? name)

@[simp] theorem pop_push (scope : Scope α) (frame : Frame α) : (scope.push frame).pop = scope := rfl

/-- A binding in the frame just opened comes before those outside. -/
theorem find?_push (scope : Scope α) (frame : Frame α) (name : String) :
    (scope.push frame).find? name = (frame.find? name).or (scope.find? name) := by
  simp only [find?, push, List.findSome?_cons]
  cases frame.find? name <;> rfl

/-- Binding a name changes no frame but the innermost. -/
theorem pop_declare (scope : Scope α) (name : String) (value : α) :
    (scope.declare name value).pop = scope.pop := by
  obtain ⟨frames⟩ := scope
  cases frames with
  | nil => rfl
  | cons frame outer => rfl

theorem find?_declare (scope : Scope α) (name declared : String) (value : α) :
    (scope.declare declared value).find? name =
      if name = declared then some value else scope.find? name := by
  obtain ⟨frames⟩ := scope
  cases frames with
  | nil =>
    have opened : (Scope.mk []).declare declared value =
        (Scope.mk []).push (Table.empty.insert declared value) := rfl
    rw [opened, find?_push, Table.find?_insert, Table.find?_empty]
    split <;> rfl
  | cons frame outer =>
    have changed : (Scope.mk (frame :: outer)).declare declared value =
        (Scope.mk outer).push (frame.insert declared value) := rfl
    have held : Scope.mk (frame :: outer) = (Scope.mk outer).push frame := rfl
    rw [changed, held, find?_push, find?_push, Table.find?_insert]
    split <;> rfl

end Scope

/-- A state that has a scope as a part of it. -/
class HasScope (σ : Type) (α : outParam Type) where
  scope : σ → Scope α
  setScope : Scope α → σ → σ

instance {α : Type} : HasScope (Scope α) α where
  scope := id
  setScope scope _ := scope

/-- Works inside a frame that is opened before and closed after, whatever the work answers. -/
def withFrame {σ α β : Type} [HasScope σ α] (frame : Frame α) (work : σ → β × σ) : σ → β × σ :=
  fun state =>
    let (answer, after) := work (HasScope.setScope ((HasScope.scope state).push frame) state)
    (answer, HasScope.setScope (HasScope.scope after).pop after)

/-- Work that keeps the frames outside its own leaves the scope as it was. -/
theorem withFrame_restores {α β : Type} (frame : Frame α) (work : Scope α → β × Scope α)
    (scope : Scope α) (keeps : ∃ inner, (work (scope.push frame)).2 = scope.push inner) :
    (withFrame frame work scope).2 = scope := by
  obtain ⟨inner, kept⟩ := keeps
  show (work (scope.push frame)).2.pop = scope
  rw [kept, Scope.pop_push]

end Kaleido
