import Kaleido.Expr
import Kaleido.Reply

/-!
# Reading expressions

An expression is a chain of operands and binary operators:

    expression    = unary (operator unary)*
    unary         = primary | operator unary
    primary       = number | application | parenthesized | conditional | loop | locals
    application   = identifier | identifier '(' (expression (',' expression)*)? ')'
    parenthesized = '(' expression ')'
    conditional   = 'if' expression 'then' expression 'else' expression
    loop          = 'for' identifier '=' expression ',' expression (',' expression)?
                    'in' expression
    locals        = 'var' binding (',' binding)* 'in' expression
    binding       = identifier ('=' expression)?

The precedences of the session group the chain: an operator takes what binds more tightly on its
right, and operators of one precedence group to the left. Assignment groups to the right, and its
left side has to be a name. A reader ends because each round reads a token.
-/
namespace Kaleido.Grammar

/-- The diagnostic for a token that begins no expression. -/
def unexpected (token : Token) : Diagnostic :=
  if token.kind = .unexpected then ⟨.unrecognisedToken token.lexeme, token.position⟩
  else ⟨.unexpectedToken token.text, token.position⟩

/-- Whether an expression can begin with a token of this kind, operators apart. -/
def beginsPrimary : Kind → Bool
  | .number | .identifier | .leftParen => true
  | .keyword .condition | .keyword .repetition | .keyword .locals => true
  | _ => false

/-- An operator applied to its operands, which for assignment is to a name and a value. -/
def operate (op : Char) (left right : Expr) (position : Position) : Except Diagnostic Expr :=
  if op = '=' then
    match left with
    | .var target => .ok (.assign target right)
    | _ => .error ⟨.invalidAssignmentTarget, position⟩
  else .ok (.binary op left right)

/-- Reads a number. -/
def number (s : Session) : Reply s Expr :=
  match Binary64.ofText? s.current.lexeme with
  | some value => s.take.map fun _ => .number value
  | none => .fail s ⟨.malformedNumber s.current.lexeme, s.current.position⟩

/-- Reads the parenthesis that closes an expression. If it is missing, this is reported where the
expression ends and not at what stands in its place. -/
def closing (s : Session) : Reply s Token :=
  if s.current.kind = .rightParen then s.take
  else .fail s
    ⟨.expectedToken ")" s.current.text, (s.previous.getD s.current).position⟩

mutual

/-- Reads an expression. -/
def expression (s : Session) : Reply s Expr :=
  (unary s).andThen fun left s _ => operations 0 left s
termination_by 8 * s.remaining + 3
decreasing_by all_goals omega

/-- Reads a primary expression with the unary operators before it. -/
def unary (s : Session) : Reply s Expr :=
  match _ : s.current.operator? with
  | some op =>
    if s.current.kind = .equal then primary s
    else ((unary s.advance).map (.unary op)).since s.advance_follows
  | none => primary s
termination_by 8 * s.remaining + 2
decreasing_by
  · omega
  · have := s.remaining_advance_lt (Token.kind_ne_finish ‹_›)
    omega
  · omega

/-- Reads an expression that is no operation. -/
def primary (s : Session) : Reply s Expr :=
  match _ : s.current.kind with
  | .number => number s
  | .identifier => (application s.current.lexeme s.advance).since s.advance_follows
  | .leftParen => (parenthesized s.advance).since s.advance_follows
  | .keyword .condition => (conditional s.advance).since s.advance_follows
  | .keyword .repetition => (loop s.advance).since s.advance_follows
  | .keyword .locals => (locals s.advance).since s.advance_follows
  | _ => .fail s (unexpected s.current)
termination_by 8 * s.remaining + 1
decreasing_by
  all_goals
    have := s.remaining_advance_lt (by simp [*])
    omega

/-- Reads the operations after an operand, as far as their operators bind at least as tightly as
`least`. -/
def operations (least : Int) (left : Expr) (s : Session) : Reply s Expr :=
  if s.precedence < least then .pure s left
  else
    match _ : s.current.operator? with
    | none => (Reply.fail s.advance (unexpected s.current)).since s.advance_follows
    | some op =>
      ((unary s.advance).andThen fun right s₁ _ =>
        (if s.precedence < s₁.precedence ∨ (op = '=' ∧ s.precedence = s₁.precedence) then
            operations (if op = '=' then s.precedence else s.precedence + 1) right s₁
          else .pure s₁ right).andThen fun right s₂ _ =>
        match operate op left right s.current.position with
        | .ok left => operations least left s₂
        | .error diagnostic => .fail s₂ diagnostic).since s.advance_follows
termination_by 8 * s.remaining
decreasing_by
  all_goals
    have := s.remaining_advance_lt (Token.kind_ne_finish ‹_›)
    omega

/-- Reads what follows an identifier: the arguments of a call, or nothing. -/
def application (name : String) (s : Session) : Reply s Expr :=
  if s.current.kind = .leftParen then
    (if s.advance.current.kind = .rightParen then s.advance.take.map fun _ => .call name []
      else (arguments s.advance).map (.call name)).since s.advance_follows
  else .pure s (.var name)
termination_by 8 * s.remaining + 5
decreasing_by
  have := s.remaining_advance_lt (by simp [*])
  omega

/-- Reads the arguments of a call and the parenthesis after them. -/
def arguments (s : Session) : Reply s (List Expr) :=
  (expression s).andThen fun argument s _ =>
    match _ : s.current.kind with
    | .rightParen => s.take.map fun _ => [argument]
    | .comma => ((arguments s.advance).map (argument :: ·)).since s.advance_follows
    | _ => .fail s
      ⟨.misplacedToken s.current.text "expected ')' or ',' in argument list",
        s.current.position⟩
termination_by 8 * s.remaining + 4
decreasing_by
  · omega
  · have := Session.remaining_advance_lt ‹_› (by simp [*])
    omega

/-- Reads what follows an opening parenthesis. -/
def parenthesized (s : Session) : Reply s Expr :=
  (expression s).andThen fun inner s _ => (closing s).map fun _ => inner
termination_by 8 * s.remaining + 4
decreasing_by omega

/-- Reads what follows `if`. -/
def conditional (s : Session) : Reply s Expr :=
  (expression s).andThen fun condition s _ =>
  (s.expectKeyword .consequence).andThen fun _ s _ =>
  (expression s).andThen fun whenTrue s _ =>
  (s.expectKeyword .alternative).andThen fun _ s _ =>
  (expression s).map fun whenFalse => .conditional condition [whenTrue] [whenFalse]
termination_by 8 * s.remaining + 4
decreasing_by all_goals omega

/-- Reads what follows `for`. -/
def loop (s : Session) : Reply s Expr :=
  (s.expect (· = .identifier) "identifier").andThen fun counter s _ =>
  (s.expect (· = .equal) "=").andThen fun _ s _ =>
  (expression s).andThen fun first s _ =>
  (s.expect (· = .comma) ",").andThen fun _ s _ =>
  (expression s).andThen fun last s _ =>
  (optional .comma s).andThen fun step s _ =>
  (s.expectKeyword .within).andThen fun _ s _ =>
  (expression s).map fun body => .loop counter.lexeme first last step [body]
termination_by 8 * s.remaining + 5
decreasing_by all_goals omega

/-- Reads what follows `var`. -/
def locals (s : Session) : Reply s Expr :=
  (bindings s).andThen fun bindings s _ =>
  (s.expectKeyword .within).andThen fun _ s _ =>
  (expression s).map fun body => .locals bindings body
termination_by 8 * s.remaining + 6
decreasing_by all_goals omega

/-- Reads local variables divided by commas. -/
def bindings (s : Session) : Reply s (List (String × Option Expr)) :=
  (s.expect (· = .identifier) "identifier").andThen fun name s _ =>
  (optional .equal s).andThen fun initial s _ =>
    if _ : s.current.kind = .comma then
      ((bindings s.advance).map ((name.lexeme, initial) :: ·)).since s.advance_follows
    else .pure s [(name.lexeme, initial)]
termination_by 8 * s.remaining + 5
decreasing_by
  · omega
  · have := Session.remaining_advance_lt ‹_› (by simp [*])
    omega

/-- Reads an expression after a mark; without the mark there is none. -/
def optional (mark : Kind) (s : Session) : Reply s (Option Expr) :=
  if s.current.kind = mark then
    ((expression s.advance).map some).since s.advance_follows
  else .pure s none
termination_by 8 * s.remaining + 4
decreasing_by
  have := s.advance_follows.le
  omega

end

/-! ## The readers by the next token

The definitions above carry what is known of the next token, for their end to be seen. These are
the same equations without it. -/

theorem unary_eq (s : Session) :
    unary s =
      match s.current.operator? with
      | some op =>
        if s.current.kind = .equal then primary s
        else ((unary s.advance).map (.unary op)).since s.advance_follows
      | none => primary s := by
  rw [unary]
  split <;> simp only [*]

/-- What a primary expression is read as depends on the kind of its first token. -/
theorem primary_eq (s : Session) :
    primary s =
      match s.current.kind with
      | .number => number s
      | .identifier => (application s.current.lexeme s.advance).since s.advance_follows
      | .leftParen => (parenthesized s.advance).since s.advance_follows
      | .keyword .condition => (conditional s.advance).since s.advance_follows
      | .keyword .repetition => (loop s.advance).since s.advance_follows
      | .keyword .locals => (locals s.advance).since s.advance_follows
      | _ => .fail s (unexpected s.current) := by
  rw [primary]
  split <;> simp_all

theorem operations_eq (least : Int) (left : Expr) (s : Session) :
    operations least left s =
      if s.precedence < least then .pure s left
      else
        match s.current.operator? with
        | none => (Reply.fail s.advance (unexpected s.current)).since s.advance_follows
        | some op =>
          ((unary s.advance).andThen fun right s₁ _ =>
            (if s.precedence < s₁.precedence ∨ (op = '=' ∧ s.precedence = s₁.precedence) then
                operations (if op = '=' then s.precedence else s.precedence + 1) right s₁
              else .pure s₁ right).andThen fun right s₂ _ =>
            match operate op left right s.current.position with
            | .ok left => operations least left s₂
            | .error diagnostic => .fail s₂ diagnostic).since s.advance_follows := by
  rw [operations]
  split
  · rfl
  · split <;> simp only [*]

theorem arguments_eq (s : Session) :
    arguments s = (expression s).andThen fun argument s _ =>
      match s.current.kind with
      | .rightParen => s.take.map fun _ => [argument]
      | .comma => ((arguments s.advance).map (argument :: ·)).since s.advance_follows
      | _ => .fail s
        ⟨.misplacedToken s.current.text "expected ')' or ',' in argument list",
          s.current.position⟩ := by
  rw [arguments]
  congr 1
  funext argument s _
  split <;> simp_all

end Kaleido.Grammar
