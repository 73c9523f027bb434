import Kaleido.Grammar.Declaration
import Mathlib.Logic.Function.Iterate

/-!
# What readers do

The readers of expressions and prototypes are put together from a few parts: they read tokens of
certain kinds, answer, fail, and go on where another reader stopped. So a property of replies that
these parts have is one of all readers (`Closed`, `ClosedThroughout`); it can be one of the session
after a reply, or one of the errors (`Reply.FailsBy`). Two such properties are given here. A reader
changes a session in one way only, by reading tokens one after the other, so what a session has
declared is the same before and after it. And no reader complains about the meaning of a name.
-/
namespace Kaleido

namespace Session

/-- That one session becomes another by reading some number of tokens. -/
def ReadsTo (earlier later : Session) : Prop := ∃ count, later = advance^[count] earlier

namespace ReadsTo

theorem refl (s : Session) : s.ReadsTo s := ⟨0, rfl⟩

theorem trans {first second third : Session} (before : first.ReadsTo second)
    (after : second.ReadsTo third) : first.ReadsTo third := by
  obtain ⟨some, rfl⟩ := before
  obtain ⟨more, rfl⟩ := after
  exact ⟨more + some, (Function.iterate_add_apply advance more some first).symm⟩

theorem advance (s : Session) : s.ReadsTo s.advance := ⟨1, rfl⟩

/-- What every token read keeps, reading keeps. -/
theorem keeps {earlier later : Session} (reads : earlier.ReadsTo later) {β : Type}
    (view : Session → β) (step : ∀ s, view s.advance = view s) : view later = view earlier := by
  obtain ⟨count, rfl⟩ := reads
  induction count with
  | zero => rfl
  | succ count ih => rw [Function.iterate_succ_apply', step, ih]

theorem operators {earlier later : Session} (reads : earlier.ReadsTo later) :
    later.operators = earlier.operators :=
  reads.keeps Session.operators fun _ => rfl

theorem declarations {earlier later : Session} (reads : earlier.ReadsTo later) :
    later.declarations = earlier.declarations :=
  reads.keeps Session.declarations fun _ => rfl

theorem follows {earlier later : Session} (reads : earlier.ReadsTo later) :
    later.Follows earlier := by
  obtain ⟨count, rfl⟩ := reads
  induction count with
  | zero => exact .refl earlier
  | succ count ih =>
    rw [Function.iterate_succ_apply']
    exact (advance_follows _).trans ih

end ReadsTo

/-- Passing over tokens is reading them one by one. -/
theorem passWhile_readsTo (s : Session) (condition : Token → Bool) :
    s.ReadsTo (s.passWhile condition).2 := by
  obtain ⟨ahead, finish, previous, operators, declarations⟩ := s
  induction ahead generalizing previous with
  | nil => exact .refl _
  | cons token rest ih =>
    by_cases wanted : condition token
    · refine (ReadsTo.advance _).trans ?_
      have passed := ih (some token)
      simpa [passWhile, wanted, Session.advance, current, List.getLast?_cons] using passed
    · simpa [passWhile, wanted] using ReadsTo.refl _

end Session

/-- A changed result is the change of a result. -/
theorem Reply.result_map_eq_ok_iff {α β : Type} {s : Session} (f : α → β) (reply : Reply s α)
    (b : β) : (reply.map f).result = .ok b ↔ ∃ a, reply.result = .ok a ∧ f a = b := by
  rw [result_map]
  cases reply.result with
  | ok a => simp [Except.map]
  | error diagnostic => simp [Except.map]

/-! ## How readers fail -/

/-- That an error, with the session after it, satisfies a condition. -/
def Reply.FailsBy {s : Session} {α : Type} (reply : Reply s α)
    (allowed : Diagnostic → Session → Prop) : Prop :=
  ∀ diagnostic, reply.result = .error diagnostic → allowed diagnostic reply.after

namespace Reply.FailsBy

variable {s : Session} {α β : Type} {reply : Reply s α} {allowed : Diagnostic → Session → Prop}

theorem of_ok {a : α} (held : reply.result = .ok a) : reply.FailsBy allowed := by
  intro diagnostic failed
  cases held.symm.trans failed

theorem fail {diagnostic : Diagnostic} (holds : allowed diagnostic s) :
    (Reply.fail s diagnostic : Reply s α).FailsBy allowed := by
  rintro _ ⟨⟩
  exact holds

theorem map (fails : reply.FailsBy allowed) (f : α → β) : (reply.map f).FailsBy allowed := by
  intro diagnostic failed
  cases held : reply.result with
  | ok a => simp [held, Except.map] at failed
  | error found =>
    simp only [result_map, held, Except.map, Except.error.injEq] at failed
    exact failed ▸ fails found held

/-- Two readers fail as the first one does, or as the second one where the first one stopped. -/
theorem andThen {next : α → (after : Session) → after.remaining ≤ s.remaining → Reply after β}
    (fails : reply.FailsBy allowed)
    (more : ∀ a, reply.result = .ok a → (next a reply.after reply.follows.le).FailsBy allowed) :
    (reply.andThen next).FailsBy allowed := by
  intro diagnostic failed
  cases held : reply.result with
  | ok a =>
    rw [andThen_of_ok held] at failed ⊢
    exact more a held diagnostic failed
  | error found =>
    rw [andThen_of_error held] at failed ⊢
    exact Except.error.inj failed ▸ fails found held

end Reply.FailsBy

namespace Grammar

/-! ## Properties of all readers -/

/-- Whether a token of this kind can stand inside of an expression or prototype. -/
def isInner : Kind → Bool
  | .finish | .unexpected | .semicolon | .keyword .definition | .keyword .external => false
  | _ => true

/-- What the readers of expressions find fault with where they stand: the next token, with a text
on one line of what could stand there, and an assignment to something other than a name. -/
inductive Fault (s : Session) : Cause → Prop
  | unrecognised : Fault s (.unrecognisedToken s.current.lexeme)
  | unexpected : Fault s (.unexpectedToken s.current.text)
  | misplaced {message : String} (plain : Text.OneLine message) :
    Fault s (.misplacedToken s.current.text message)
  | expected {wanted : String} (plain : Text.OneLine wanted) :
    Fault s (.expectedToken wanted s.current.text)
  | number : Fault s (.malformedNumber s.current.lexeme)
  | assignment : Fault s .invalidAssignmentTarget

theorem Fault.stage {s : Session} {cause : Cause} (fault : Fault s cause) :
    cause.stage ≠ .resolution := by
  cases fault <;> simp [Cause.stage]

/-- A property of replies that the parts of the readers of expressions have, and that is kept when
they are put together. -/
structure Closed (P : (s : Session) → (α : Type) → Reply s α → Prop) : Prop where
  pure : ∀ {s α} (a : α), P s α (.pure s a)
  fail : ∀ {s α} {diagnostic : Diagnostic}, Fault s diagnostic.cause → P s α (.fail s diagnostic)
  map : ∀ {s α β} {reply : Reply s α} (f : α → β), P s α reply → P s β (reply.map f)
  advance : ∀ {s α} {reply : Reply s.advance α}, isInner s.current.kind → P s.advance α reply →
    P s α (reply.since s.advance_follows)
  andThen : ∀ {s α β} {reply : Reply s α}
    {next : α → (after : Session) → after.remaining ≤ s.remaining → Reply after β},
    P s α reply → (∀ a after le, P after β (next a after le)) → P s β (reply.andThen next)

/-- A property of replies that the parts of the readers of prototypes have too. These pass over
parameters, and find fault with what they have read before as well. -/
structure ClosedThroughout (P : (s : Session) → (α : Type) → Reply s α → Prop) : Prop
    extends Closed P where
  refuse : ∀ {s α} {diagnostic : Diagnostic}, diagnostic.cause.stage ≠ .resolution →
    P s α (.fail s diagnostic)
  passWhile : ∀ {s α} {condition : Token → Bool} {reply : Reply (s.passWhile condition).2 α},
    (∀ token, condition token → isInner token.kind) → P _ α reply →
    P s α (reply.since (s.passWhile_follows condition))

theorem isInner_of_operator? {token : Token} {op : Char} (named : token.operator? = some op) :
    isInner token.kind := by
  obtain ⟨kind, lexeme, position⟩ := token
  by_cases operator : kind.isOperator
  · cases kind with
    | equal | plus | minus | star | slash | less | greater | operator => rfl
    | _ => cases operator
  · simp [Token.operator?, operator] at named

/-- An operator that binds is one. -/
theorem operator?_isSome_of_precedence {s : Session} (binds : 0 ≤ s.precedence) :
    ∃ op, s.current.operator? = some op := by
  cases named : s.current.operator? with
  | some op => exact ⟨op, rfl⟩
  | none => simp [Session.precedence, named] at binds

namespace Closed

variable {P : (s : Session) → (α : Type) → Reply s α → Prop} (closed : Closed P)
include closed

theorem take {s : Session} (inner : isInner s.current.kind) : P s Token s.take :=
  closed.advance inner (closed.pure s.current)

theorem expect (s : Session) (wanted : Kind → Bool) {expected : String}
    (plain : Text.OneLine expected) (inner : ∀ kind, wanted kind → isInner kind) :
    P s Token (s.expect wanted expected) := by
  unfold Session.expect
  split
  · next found => exact closed.take (inner _ found)
  · exact closed.fail (.expected plain)

/-- What is expected is told by a literal. -/
theorem expectKind (s : Session) {kind : Kind} (expected : List Char) (inner : isInner kind)
    (plain : '\n' ∉ expected := by decide) :
    P s Token (s.expect (· = kind) (String.ofList expected)) := by
  apply closed.expect s _ (Text.oneLine_ofList plain)
  simp only [decide_eq_true_eq]
  rintro _ rfl
  exact inner

theorem number {s : Session} (kind : s.current.kind = .number) : P s Expr (number s) := by
  unfold Grammar.number
  split
  · exact closed.map _ (closed.take (by simp [kind, isInner]))
  · exact closed.fail .number

theorem closing (s : Session) : P s Token (closing s) := by
  unfold Grammar.closing
  split
  · next kind => exact closed.take (by simp [kind, isInner])
  · exact closed.fail (.expected (Text.oneLine_ofList (by decide)))

theorem unexpected (s : Session) (α : Type) : P s α (.fail s (unexpected s.current)) := by
  apply closed.fail
  unfold Grammar.unexpected
  split
  · exact .unrecognised
  · exact .unexpected

theorem operate_fails {op : Char} {left right : Expr} {position : Position}
    {diagnostic : Diagnostic} (failed : operate op left right position = .error diagnostic)
    (s : Session) (α : Type) :
    P s α (.fail s diagnostic) := by
  apply closed.fail
  unfold operate at failed
  split at failed
  · split at failed <;> cases failed
    exact .assignment
  · cases failed

-- The readers call one another as their definitions do, with the same measure.
mutual

theorem expression (s : Session) : P s Expr (expression s) := by
  rw [Grammar.expression]
  exact closed.andThen (unary s) fun left s _ => operations (Int.le_refl 0) left s
termination_by 8 * s.remaining + 3
decreasing_by all_goals omega

theorem unary (s : Session) : P s Expr (unary s) := by
  rw [Grammar.unary]
  split
  · next op named =>
    split
    · exact primary s
    · exact closed.advance (isInner_of_operator? named) (closed.map _ (unary s.advance))
  · exact primary s
termination_by 8 * s.remaining + 2
decreasing_by
  · have := s.remaining_advance_lt (Token.kind_ne_finish ‹_›)
    omega
  · omega
  · omega

theorem primary (s : Session) : P s Expr (primary s) := by
  rw [Grammar.primary]
  split
  · next kind => exact closed.number kind
  · next kind =>
    exact closed.advance (by simp [kind, isInner]) (application s.current.lexeme s.advance)
  · next kind => exact closed.advance (by simp [kind, isInner]) (parenthesized s.advance)
  · next kind => exact closed.advance (by simp [kind, isInner]) (conditional s.advance)
  · next kind => exact closed.advance (by simp [kind, isInner]) (loop s.advance)
  · next kind => exact closed.advance (by simp [kind, isInner]) (locals s.advance)
  · exact closed.unexpected ..
termination_by 8 * s.remaining + 1
decreasing_by
  all_goals
    have := s.remaining_advance_lt (by simp [*])
    omega

theorem operations {least : Int} (nonneg : 0 ≤ least) (left : Expr) (s : Session) :
    P s Expr (operations least left s) := by
  rw [Grammar.operations]
  split
  · exact closed.pure _
  · next tight =>
    have binds : 0 ≤ s.precedence := by omega
    split
    · next none =>
      obtain ⟨op, named⟩ := operator?_isSome_of_precedence binds
      cases none.symm.trans named
    · next op named =>
      refine closed.advance (isInner_of_operator? named) ?_
      refine closed.andThen (unary s.advance) fun right s₁ _ => ?_
      refine closed.andThen ?_ fun right s₂ _ => ?_
      · split
        · exact operations (by split <;> omega) right s₁
        · exact closed.pure _
      · split
        · next combined _ => exact operations nonneg combined s₂
        · next failed => exact closed.operate_fails failed ..
termination_by 8 * s.remaining
decreasing_by
  all_goals
    have := s.remaining_advance_lt (Token.kind_ne_finish ‹_›)
    omega

theorem application (name : String) (s : Session) : P s Expr (application name s) := by
  rw [Grammar.application]
  split
  · next kind =>
    refine closed.advance (by simp [kind, isInner]) ?_
    split
    · next last => exact closed.map _ (closed.take (by simp [last, isInner]))
    · exact closed.map _ (arguments s.advance)
  · exact closed.pure _
termination_by 8 * s.remaining + 5
decreasing_by
  have := s.remaining_advance_lt (by simp [*])
  omega

theorem arguments (s : Session) : P s (List Expr) (arguments s) := by
  rw [Grammar.arguments]
  refine closed.andThen (expression s) fun argument s₁ _ => ?_
  split
  · next kind => exact closed.map _ (closed.take (by simp [kind, isInner]))
  · next kind =>
    exact closed.advance (by simp [kind, isInner]) (closed.map _ (arguments s₁.advance))
  · exact closed.fail (.misplaced (Text.oneLine_ofList (by decide)))
termination_by 8 * s.remaining + 4
decreasing_by
  · omega
  · have := Session.remaining_advance_lt ‹_› (by simp [*])
    omega

theorem parenthesized (s : Session) : P s Expr (parenthesized s) := by
  rw [Grammar.parenthesized]
  exact closed.andThen (expression s) fun _ s _ => closed.map _ (closed.closing s)
termination_by 8 * s.remaining + 4
decreasing_by omega

theorem conditional (s : Session) : P s Expr (conditional s) := by
  rw [Grammar.conditional]
  refine closed.andThen (expression s) fun _ s₁ _ => ?_
  refine closed.andThen (closed.expectKind _ _ rfl) fun _ s₂ _ => ?_
  refine closed.andThen (expression s₂) fun _ s₃ _ => ?_
  refine closed.andThen (closed.expectKind _ _ rfl) fun _ s₄ _ => ?_
  exact closed.map _ (expression s₄)
termination_by 8 * s.remaining + 4
decreasing_by all_goals omega

theorem loop (s : Session) : P s Expr (loop s) := by
  rw [Grammar.loop]
  refine closed.andThen (closed.expectKind _ _ rfl) fun _ s₁ _ => ?_
  refine closed.andThen (closed.expectKind _ _ rfl) fun _ s₂ _ => ?_
  refine closed.andThen (expression s₂) fun _ s₃ _ => ?_
  refine closed.andThen (closed.expectKind _ _ rfl) fun _ s₄ _ => ?_
  refine closed.andThen (expression s₄) fun _ s₅ _ => ?_
  refine closed.andThen (optional rfl s₅) fun _ s₆ _ => ?_
  refine closed.andThen (closed.expectKind _ _ rfl) fun _ s₇ _ => ?_
  exact closed.map _ (expression s₇)
termination_by 8 * s.remaining + 5
decreasing_by all_goals omega

theorem locals (s : Session) : P s Expr (locals s) := by
  rw [Grammar.locals]
  refine closed.andThen (bindings s) fun _ s₁ _ => ?_
  refine closed.andThen (closed.expectKind _ _ rfl) fun _ s₂ _ => ?_
  exact closed.map _ (expression s₂)
termination_by 8 * s.remaining + 6
decreasing_by all_goals omega

theorem bindings (s : Session) : P s (List (String × Option Expr)) (bindings s) := by
  rw [Grammar.bindings]
  refine closed.andThen (closed.expectKind _ _ rfl) fun _ s₁ _ => ?_
  refine closed.andThen (optional rfl s₁) fun _ s₂ _ => ?_
  split
  · next kind =>
    exact closed.advance (by simp [kind, isInner]) (closed.map _ (bindings s₂.advance))
  · exact closed.pure _
termination_by 8 * s.remaining + 5
decreasing_by
  · omega
  · have := Session.remaining_advance_lt ‹_› (by simp [*])
    omega

theorem optional {mark : Kind} (inner : isInner mark) (s : Session) :
    P s (Option Expr) (optional mark s) := by
  rw [Grammar.optional]
  split
  · next kind =>
    exact closed.advance (by rwa [kind]) (closed.map _ (expression s.advance))
  · exact closed.pure _
termination_by 8 * s.remaining + 4
decreasing_by
  have := s.advance_follows.le
  omega

end

theorem topLevel (s : Session) : P s Item (topLevel s) :=
  closed.andThen (closed.expression s) fun _ _ _ => closed.pure _

end Closed

namespace ClosedThroughout

variable {P : (s : Session) → (α : Type) → Reply s α → Prop} (closed : ClosedThroughout P)
include closed

theorem precedence {s : Session} (kind : s.current.kind = .number) : P s Int (precedence s) := by
  refine closed.andThen (closed.take (by simp [kind, isInner])) fun token s₁ _ => ?_
  split
  · exact closed.pure _
  · exact closed.refuse (by simp [Cause.stage])

theorem optionalPrecedence (s : Session) : P s (Option Int) (optionalPrecedence s) := by
  unfold Grammar.optionalPrecedence
  split
  · next kind => exact closed.map _ (closed.precedence kind)
  · exact closed.pure _

theorem declaredOperator (s : Session) : P s Char (declaredOperator s) := by
  unfold Grammar.declaredOperator
  split
  · exact closed.refuse (by simp [Cause.stage])
  · exact closed.refuse (by simp [Cause.stage])
  · next named _ => exact closed.map _ (closed.take (isInner_of_operator? named))

theorem declaredBinary (s : Session) : P s (Char × Option Int) (declaredBinary s) := by
  refine closed.andThen (closed.declaredOperator s) fun op s₁ _ => ?_
  split
  · exact closed.refuse (by simp [Cause.stage])
  · exact closed.map _ (closed.optionalPrecedence s₁)

theorem parameters (s : Session) : P s (List String) (parameters s) := by
  refine closed.andThen (closed.expectKind _ _ rfl) fun _ s₁ _ => ?_
  refine closed.passWhile ?_ (closed.map _ (closed.expectKind _ _ rfl))
  intro token wanted
  rw [of_decide_eq_true wanted]
  rfl

theorem operands (role : Role) (op : Char) (precedence : Option Int) (expected : Nat)
    (position : Position) (s : Session) :
    P s Prototype (operands role op precedence expected position s) := by
  refine closed.andThen (closed.parameters s) fun params s₁ _ => ?_
  split
  · exact closed.pure _
  · exact closed.refuse (by simp [Cause.stage])

theorem prototype (s : Session) : P s Prototype (prototype s) := by
  unfold Grammar.prototype
  simp only
  split
  · next kind =>
    refine closed.andThen (closed.take (by simp [kind, isInner])) fun _ s₁ _ => ?_
    exact closed.andThen (closed.declaredOperator s₁) fun _ s₂ _ => closed.operands ..
  · next kind =>
    refine closed.andThen (closed.take (by simp [kind, isInner])) fun _ s₁ _ => ?_
    exact closed.andThen (closed.declaredBinary s₁) fun _ s₂ _ => closed.operands ..
  · next kind =>
    refine closed.andThen (closed.take (by simp [kind, isInner])) fun _ s₁ _ => ?_
    exact closed.map _ (closed.parameters s₁)
  · exact closed.refuse (by simp [Cause.stage])

end ClosedThroughout

/-! ## Readers read, and no more -/

/-- What relates a session to the one after each part of a reader relates it to the one after the
whole. -/
theorem closed_of_relation {R : Session → Session → Prop} (refl : ∀ s, R s s)
    (trans : ∀ {first second third}, R first second → R second third → R first third)
    (advance : ∀ s : Session, isInner s.current.kind → R s s.advance)
    (passWhile : ∀ (s : Session) (condition : Token → Bool),
      (∀ token, condition token → isInner token.kind) → R s (s.passWhile condition).2) :
    ClosedThroughout fun s _ reply => R s reply.after where
  pure _ := refl _
  fail _ := refl _
  refuse _ := refl _
  map _ related := related
  advance inner related := trans (advance _ inner) related
  passWhile inner related := trans (passWhile _ _ inner) related
  andThen {s α β reply next} related more := by
    cases held : reply.result with
    | ok a =>
      rw [Reply.after_andThen_of_ok held]
      exact trans related (more ..)
    | error diagnostic =>
      rw [Reply.andThen_of_error held]
      exact related

/-- Readers of expressions and prototypes do nothing to a session but read tokens. -/
theorem closed_reads : ClosedThroughout fun s _ reply => s.ReadsTo reply.after :=
  closed_of_relation .refl .trans (fun s _ => .advance s) fun s _ _ => s.passWhile_readsTo _

/-- Readers of expressions and prototypes find fault with tokens and declarations, and leave it to
the resolver to find fault with the uses of names. -/
theorem closed_unresolved : ClosedThroughout fun _ _ reply =>
    reply.FailsBy fun diagnostic _ => diagnostic.cause.stage ≠ .resolution where
  pure _ := .of_ok rfl
  fail fault := .fail fault.stage
  refuse stage := .fail stage
  map f stage := stage.map f
  advance _ stage := stage
  passWhile _ stage := stage
  andThen stage more := stage.andThen fun a _ => more a _ _

end Grammar

end Kaleido
