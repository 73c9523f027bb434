import Kaleido.Grammar.Expression

/-!
# Progress of readers

A reader makes progress if it has no result without reading a token. Main statement: an expression
has at least one token.
-/
namespace Kaleido.Grammar

variable {α β : Type} {s : Session}

/-- A reply that, if it has a result, used up a token. -/
def Consumes (reply : Reply s α) : Prop :=
  ∀ a, reply.result = .ok a → reply.after.remaining < s.remaining

theorem consumes_since {later : Session} (reply : Reply later α) (follows : later.Follows s)
    (lt : later.remaining < s.remaining) : Consumes (reply.since follows) :=
  fun _ _ => Nat.lt_of_le_of_lt reply.follows.le lt

theorem consumes_map {reply : Reply s α} (f : α → β) (consumes : Consumes reply) :
    Consumes (reply.map f) := by
  intro b result
  cases held : reply.result with
  | ok a => exact consumes a held
  | error diagnostic => simp [held, Except.map] at result

theorem consumes_andThen {reply : Reply s α} (consumes : Consumes reply)
    (next : α → (after : Session) → after.remaining ≤ s.remaining → Reply after β) :
    Consumes (reply.andThen next) := by
  intro b result
  unfold Reply.andThen at result ⊢
  cases held : reply.result with
  | ok a =>
    have read := (next a reply.after reply.follows.le).follows.le
    exact Nat.lt_of_le_of_lt read (consumes a held)
  | error diagnostic => simp [held] at result

theorem consumes_take (more : s.current.kind ≠ .finish) : Consumes s.take :=
  fun _ _ => s.remaining_advance_lt more

theorem consumes_fail (diagnostic : Diagnostic) :
    Consumes (Reply.fail s diagnostic : Reply s α) := by
  intro a result
  simp [Reply.fail] at result

/-- The end of the source is no number. -/
private theorem ofText?_finish : Binary64.ofText? "" = none := by decide +kernel

private theorem lexeme_of_finish (finish : s.ahead = []) : s.current.lexeme = "" := by
  simp [Session.current, finish, Token.finish]

theorem consumes_number (s : Session) : Consumes (number s) := by
  unfold number
  split
  · next value read =>
    apply consumes_map
    intro _ _
    cases ahead : s.ahead with
    | nil => simp [lexeme_of_finish ahead, ofText?_finish] at read
    | cons token rest => simp [Session.take, Session.advance, Session.remaining, ahead]
  · exact consumes_fail _

theorem consumes_primary (s : Session) : Consumes (primary s) := by
  rw [primary]
  split
  · exact consumes_number s
  · exact consumes_since _ _ (s.remaining_advance_lt (by simp [*]))
  · exact consumes_since _ _ (s.remaining_advance_lt (by simp [*]))
  · exact consumes_since _ _ (s.remaining_advance_lt (by simp [*]))
  · exact consumes_since _ _ (s.remaining_advance_lt (by simp [*]))
  · exact consumes_since _ _ (s.remaining_advance_lt (by simp [*]))
  · exact consumes_fail _

theorem consumes_unary (s : Session) : Consumes (unary s) := by
  rw [unary]
  split
  · next op named =>
    split
    · exact consumes_primary s
    · exact consumes_since _ _ (s.remaining_advance_lt (Token.kind_ne_finish named))
  · exact consumes_primary s

/-- An expression has at least one token. -/
theorem consumes_expression (s : Session) : Consumes (expression s) := by
  rw [expression]
  exact consumes_andThen (consumes_unary s) _

end Kaleido.Grammar
