/-!
# Positions

Places in a text as line and column, both counted from one in 32-bit words. A column is one
character wide, whatever the character; only a line feed begins a new line.
-/
namespace Kaleido

/-- A line and a column of a text. -/
structure Position where
  line : UInt32
  column : UInt32
deriving Repr, DecidableEq

namespace Position

/-- The place of the first character of a text. -/
def start : Position := ⟨1, 1⟩

/-- The place before any text, which no character has. -/
def zero : Position := ⟨0, 0⟩

instance : Inhabited Position := ⟨zero⟩

/-- The line and the column, divided by a colon. -/
def text (position : Position) : String :=
  position.line.toNat.repr ++ ":" ++ position.column.toNat.repr

/-- The place after one character. -/
def step (position : Position) (c : Char) : Position :=
  if c = '\n' then ⟨position.line + 1, 1⟩ else ⟨position.line, position.column + 1⟩

/-- The place after a stretch of text. -/
def after (position : Position) (text : List Char) : Position := text.foldl step position

@[simp] theorem after_nil (position : Position) : position.after [] = position := rfl

@[simp] theorem after_cons (position : Position) (c : Char) (text : List Char) :
    position.after (c :: text) = (position.step c).after text := rfl

@[simp] theorem after_append (position : Position) (first second : List Char) :
    position.after (first ++ second) = (position.after first).after second :=
  List.foldl_append ..

end Position

end Kaleido
