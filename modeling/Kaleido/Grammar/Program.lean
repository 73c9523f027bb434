import Kaleido.Grammar.Declaration
import Kaleido.Grammar.Progress

/-!
# Reading programs

A program is a sequence of items, with semicolons between them where the writer wants them. After
an item that cannot be read one token is dropped and reading goes on. Main statement: an item, read
or not, uses up a token, so a program has finitely many items.
-/
namespace Kaleido.Grammar

/-- Reads one item, which begins at the next token. -/
def item (s : Session) : Reply s Item :=
  match s.current.kind with
  | .keyword .definition => definition s
  | .keyword .external => external s
  | _ => topLevel s

/-- An item that begins with no declaration is an expression. -/
theorem item_eq_topLevel (s : Session) (plain : beginsDeclaration s.current.kind = false) :
    item s = topLevel s := by
  unfold item
  split <;> simp_all [beginsDeclaration]

/-- Reads the next item after the semicolons before it, if the source has one more. After an item
that cannot be read, the token that it stopped at is dropped. -/
def nextItem (s : Session) : Option (Except Diagnostic Item) × Session :=
  let start := (s.passWhile fun token => token.kind = .semicolon).2
  if start.current.kind = .finish then (none, start)
  else
    let reply := item start
    match reply.result with
    | .ok item => (some (.ok item), reply.after)
    | .error diagnostic => (some (.error diagnostic), reply.after.advance)

/-- An item has at least one token. -/
theorem consumes_item (s : Session) : Consumes (item s) := by
  unfold item
  split
  · exact consumes_andThen (consumes_take (by simp [*])) _
  · exact consumes_andThen (consumes_take (by simp [*])) _
  · exact consumes_andThen (consumes_expression s) _

/-- Reading an item uses up a token, whether or not it succeeds. -/
theorem remaining_nextItem_lt (s : Session) (more : (nextItem s).1 ≠ none) :
    (nextItem s).2.remaining < s.remaining := by
  have passed := (s.passWhile_follows fun token => token.kind = .semicolon).le
  unfold nextItem at more ⊢
  simp only at more ⊢
  generalize (s.passWhile fun token => decide (token.kind = .semicolon)).2 = start at *
  by_cases finish : start.current.kind = .finish
  · simp [finish] at more
  · simp only [finish, if_false]
    have ahead := start.remaining_pos finish
    cases held : (item start).result with
    | ok item => exact Nat.lt_of_lt_of_le (consumes_item start item held) passed
    | error diagnostic =>
      have kept := (item start).follows.le
      simp only [Session.remaining_advance]
      omega

/-- The answer for one item, and the session after it. -/
structure Outcome where
  result : Except Diagnostic Item
  after : Session

/-- Reads all items; the second part is the session at the end of the source. -/
def program (s : Session) : List Outcome × Session :=
  match _ : nextItem s with
  | (none, after) => ([], after)
  | (some result, after) =>
    let (outcomes, finish) := program after
    (⟨result, after⟩ :: outcomes, finish)
termination_by s.remaining
decreasing_by
  have := remaining_nextItem_lt s (by simp [*])
  simp_all

end Kaleido.Grammar
