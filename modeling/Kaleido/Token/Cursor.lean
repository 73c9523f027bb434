import Kaleido.Token.Pattern

/-!
# Cursors

A cursor stands at a place of a source and reads its tokens one after the other. It never fails:
a character that begins no token is read as a token of its own kind. Main statement: reading a
token that is not the end makes the text ahead shorter, so a source has finitely many tokens.
-/
namespace Kaleido

/-- The text ahead and the place where it begins. -/
structure Cursor where
  rest : List Char
  position : Position
deriving Repr, DecidableEq

namespace Cursor

/-- A cursor at the start of a source. -/
def ofSource (source : String) : Cursor := ⟨source.toList, .start⟩

/-- Whether there is no text ahead. -/
def atEnd (cursor : Cursor) : Bool := cursor.rest.isEmpty

/-- Passes over a number of characters. -/
def skip (cursor : Cursor) (count : Nat) : Cursor :=
  ⟨cursor.rest.drop count, cursor.position.after (cursor.rest.take count)⟩

/-- The number of characters at the start of a text that take up a given number of bytes, if
there are so many bytes and they end between two characters. -/
def charactersIn? : Nat → List Char → Option Nat
  | 0, _ => some 0
  | _ + 1, [] => none
  | bytes + 1, c :: rest =>
    if c.utf8Size ≤ bytes + 1 then (charactersIn? (bytes + 1 - c.utf8Size) rest).map (· + 1)
    else none

/-- Passes over a number of bytes. This fails past the end of the text and inside a character. -/
def skipBytes? (cursor : Cursor) (bytes : Nat) : Option Cursor :=
  (charactersIn? bytes cursor.rest).map cursor.skip

private theorem covered_of_first? {text : List Char} {pattern : Pattern}
    (found : Pattern.first? text = some pattern) : pattern.covered text ≠ [] := by
  have := List.find?_some found
  simpa using this

theorem rest_skip_lt (cursor : Cursor) {count : Nat} (ahead : cursor.rest ≠ []) (pos : 0 < count) :
    (cursor.skip count).rest.length < cursor.rest.length := by
  have := List.length_pos_iff.2 ahead
  simp only [skip, List.length_drop]
  omega

/-- Reads the next token, passing over the blanks and comments before it. -/
def next (cursor : Cursor) : Token × Cursor :=
  if _ : cursor.rest = [] then (.finish cursor.position, cursor)
  else
    match _ : Pattern.first? cursor.rest with
    | none =>
      (⟨.unexpected, String.ofList (cursor.rest.take 1), cursor.position⟩, cursor.skip 1)
    | some pattern =>
      let lexeme := pattern.covered cursor.rest
      match pattern.kind? lexeme with
      | some kind =>
        (⟨kind, String.ofList lexeme, cursor.position⟩, cursor.skip lexeme.length)
      | none => next (cursor.skip lexeme.length)
termination_by cursor.rest.length
decreasing_by exact rest_skip_lt cursor ‹_› (List.length_pos_iff.2 (covered_of_first? ‹_›))

/-- Reading a token that is not the end makes the text ahead shorter. -/
theorem rest_next_lt (cursor : Cursor) (more : cursor.next.1.kind ≠ .finish) :
    cursor.next.2.rest.length < cursor.rest.length := by
  fun_induction next cursor with
  | case1 => simp at more
  | case2 cursor ahead => exact rest_skip_lt cursor ahead Nat.one_pos
  | case3 cursor ahead pattern found lexeme kind =>
    exact rest_skip_lt cursor ahead (List.length_pos_iff.2 (covered_of_first? found))
  | case4 cursor ahead pattern found lexeme gap ih =>
    exact Nat.lt_trans (ih more)
      (rest_skip_lt cursor ahead (List.length_pos_iff.2 (covered_of_first? found)))

/-- The tokens ahead, and the place where the text ends. -/
def scan (cursor : Cursor) : List Token × Position :=
  let step := cursor.next
  if step.1.kind = .finish then ([], step.1.position)
  else
    let (tokens, finish) := scan step.2
    (step.1 :: tokens, finish)
termination_by cursor.rest.length
decreasing_by exact rest_next_lt cursor ‹_›

end Cursor

/-- All tokens of a source; the last one, and no other, is the end. -/
def tokenize (source : String) : List Token :=
  let (tokens, finish) := (Cursor.ofSource source).scan
  tokens ++ [.finish finish]

end Kaleido
