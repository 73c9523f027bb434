import Kaleido.Proofs.Climbing
import Kaleido.Proofs.Derivation
import Kaleido.Proofs.OperatorTable

/-!
# How far an expression goes

The sessions that a source can lead to, and the tokens that an expression takes of such a session.
Main statement: the tokens read for an accepted expression derive it, there is at least one of them,
and the token after them is no binary operator that is declared.
-/
namespace Kaleido

namespace Session

/-! ## The sessions of a source -/

/-- That a session stands somewhere in a source: it began at the start, read tokens, and declared
prototypes that it had read. -/
inductive Reached (source : String) : Session → Prop where
  | start : Reached source (.ofSource source)
  | advance {s : Session} (before : Reached source s) : Reached source s.advance
  | declare {s after : Session} {declared : Prototype} (before : Reached source s)
      (read : (Grammar.prototype s).result = .ok declared)
      (registers : (Grammar.prototype s).after.register declared = (.ok (), after)) :
      Reached source after

namespace Reached

variable {source : String} {s after : Session}

theorem reads (reached : s.Reached source) (reads : s.ReadsTo after) : after.Reached source := by
  obtain ⟨count, rfl⟩ := reads
  induction count with
  | zero => exact reached
  | succ count ih =>
    rw [Function.iterate_succ_apply']
    exact .advance ih

theorem passes (reached : s.Reached source) (passes : Grammar.Passes s after) :
    after.Reached source := by
  cases passes with
  | reads reads => exact reached.reads reads
  | declares before read registers rest =>
    exact (Reached.declare (reached.reads before) read registers).reads rest

/-- The session after any number of items of a source is one of its sessions. -/
theorem afterItems (source : String) (count : Nat) :
    (Grammar.afterItems source count).Reached source := by
  induction count with
  | zero => exact .start
  | succ count ih =>
    rw [Grammar.afterItems_succ]
    exact ih.passes (Grammar.passes_afterItem _)

theorem consistent (reached : s.Reached source) : s.Consistent := by
  induction reached with
  | start => exact .ofSource source
  | advance before ih => exact ih.reads (.advance _)
  | @declare s after declared before read registers ih =>
    have declarable := Grammar.prototype_declarable ih.lexed read
    exact (ih.reads (Grammar.closed_reads.prototype s)).register declarable registers

end Reached

/-- The operators of the language are marks. -/
theorem isOperator_of_builtin {op : Char} {precedence : Int}
    (seeded : Operators.builtin.precedence? op = some precedence) : IsOperator op := by
  by_cases assignment : op = '='
  · exact ⟨.equal, rfl, congrArg (List.cons · []) assignment⟩
  · have listed : op ∈ builtinOperators := by
      by_contra free
      cases (Operators.precedence?_builtin_eq_none assignment free).symm.trans seeded
    simp only [builtinOperators, List.mem_cons, List.not_mem_nil, or_false] at listed
    rcases listed with rfl | rfl | rfl | rfl | rfl | rfl
    · exact ⟨.plus, rfl, rfl⟩
    · exact ⟨.minus, rfl, rfl⟩
    · exact ⟨.star, rfl, rfl⟩
    · exact ⟨.slash, rfl, rfl⟩
    · exact ⟨.less, rfl, rfl⟩
    · exact ⟨.greater, rfl, rfl⟩

/-- The operators of the table are marks, and they bind. -/
theorem Consistent.operator {s : Session} (consistent : s.Consistent) {op : Char} {precedence : Int}
    (entry : s.operators.precedence? op = some precedence) : IsOperator op ∧ 0 < precedence := by
  cases seeded : Operators.builtin.precedence? op with
  | none =>
    obtain ⟨mark, inForce, -, -, -, -, least, -⟩ := consistent.inForce entry seeded
    exact ⟨mark, by omega⟩
  | some other =>
    obtain rfl := Option.some.inj ((consistent.builtin op other seeded).symm.trans entry)
    exact ⟨isOperator_of_builtin seeded, Operators.positive_builtin op other seeded⟩

/-- In a table whose operators all bind, a token that does not bind is none of them. -/
theorem Consistent.not_contains {s : Session} (consistent : s.Consistent)
    (loose : s.precedence < 0) {op : Char} (named : s.current.operator? = some op) :
    ¬ s.operators.contains op := by
  intro known
  obtain ⟨precedence, entry⟩ := Option.isSome_iff_exists.mp known
  have binds := (consistent.operator entry).2
  have same : s.precedence = precedence := by
    simp [Session.precedence, named, Operators.precedence?, entry, binds]
  omega

end Session

namespace Grammar

/-! ## Where readers stop -/

/-- That a reader which has a result leaves a session of a certain kind. -/
def Leaves {s : Session} {α : Type} (reply : Reply s α) (kind : Session → Prop) : Prop :=
  ∀ a, reply.result = .ok a → kind reply.after

theorem leaves_since {s later : Session} {α : Type} {kind : Session → Prop} {reply : Reply later α}
    (leaves : Leaves reply kind) (follows : later.Follows s) : Leaves (reply.since follows) kind :=
  leaves

/-- Two readers one after the other leave what the second one leaves. -/
theorem leaves_andThen {s : Session} {α β : Type} {kind : Session → Prop} {reply : Reply s α}
    {next : α → (after : Session) → after.remaining ≤ s.remaining → Reply after β}
    (more : ∀ a after le, Leaves (next a after le) kind) : Leaves (reply.andThen next) kind := by
  intro b result
  obtain ⟨a, held, result⟩ := (Reply.result_andThen_eq_ok_iff ..).mp result
  rw [Reply.after_andThen_of_ok held]
  exact more a _ _ b result

/-- Operations are read until the next token binds too loosely. -/
theorem leaves_operations (least : Int) (left : Expr) (s : Session) :
    Leaves (operations least left s) (·.precedence < least) := by
  rw [operations]
  split
  · next loose => exact fun _ _ => loose
  · split
    · rintro _ ⟨⟩
    · next op named =>
      refine leaves_since (leaves_andThen fun right s₁ _ => ?_) _
      refine leaves_andThen fun right s₂ _ => ?_
      split
      · next combined _ => exact leaves_operations least combined s₂
      · rintro _ ⟨⟩
termination_by s.remaining
decreasing_by
  have := s.remaining_advance_lt (Token.kind_ne_finish ‹_›)
  omega

theorem leaves_expression (s : Session) : Leaves (expression s) (·.precedence < 0) := by
  rw [expression]
  exact leaves_andThen fun left s₁ _ => leaves_operations 0 left s₁

/-- An accepted expression accounts for every token that was read for it: those tokens, of which
there is at least one, derive the expression, and the token after them is no declared operator. -/
theorem tokens_of_expression {source : String} {s : Session} (reached : s.Reached source)
    {expr : Expr} (read : (expression s).result = .ok expr) :
    ∃ tokens, s.ahead = tokens ++ (expression s).after.ahead ∧ tokens ≠ [] ∧
      Derives s.operators tokens expr ∧
      ∀ op, (expression s).after.current.operator? = some op →
        ¬ (expression s).after.operators.contains op := by
  obtain ⟨tokens, ahead, derives⟩ := yields_expression s rfl expr read
  refine ⟨tokens, ahead, ?_, derives, fun op named => ?_⟩
  · rintro rfl
    have fewer := consumes_expression s expr read
    simp only [Session.remaining, ahead, List.nil_append] at fewer
    exact Nat.lt_irrefl _ fewer
  · have after := reached.consistent.reads (closed_reads.expression s)
    exact after.not_contains (leaves_expression s expr read) named

/-- A call and an assignment in parentheses on the two sides of a declared operator, and a name
after them that belongs to the next item. -/
theorem tokens_of_expression_before_name :
    ∃ s expr tokens, s = afterItems "def binary | 5 (a b) a f(1, x) | (y = -2) z" 1 ∧
      (expression s).result = .ok expr ∧ expr.text = "(| (f 1 x) (= y (- 2)))" ∧
      s.ahead = tokens ++ (expression s).after.ahead ∧ tokens ≠ [] ∧
      Derives s.operators tokens expr := by
  have shown : Option.map Expr.text
      (expression (afterItems "def binary | 5 (a b) a f(1, x) | (y = -2) z" 1)).result.toOption =
        some "(| (f 1 x) (= y (- 2)))" := by decide +kernel
  have reached := Session.Reached.afterItems "def binary | 5 (a b) a f(1, x) | (y = -2) z" 1
  generalize session : afterItems "def binary | 5 (a b) a f(1, x) | (y = -2) z" 1 = s
    at shown reached
  cases read : (expression s).result with
  | error diagnostic => simp [read, Except.toOption] at shown
  | ok expr =>
    obtain ⟨tokens, ahead, some, derives, -⟩ := tokens_of_expression reached read
    simp only [read, Except.toOption, Option.map_some, Option.some.injEq] at shown
    exact ⟨s, expr, tokens, rfl, read, shown, ahead, some, derives⟩

end Grammar

end Kaleido
