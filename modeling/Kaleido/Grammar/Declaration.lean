import Kaleido.Grammar.Expression
import Kaleido.Item

/-!
# Reading declarations

    prototype  = identifier '(' identifier* ')'
               | 'unary' operator '(' identifier ')'
               | 'binary' operator number? '(' identifier identifier ')'
    definition = 'def' prototype expression
    external   = 'extern' prototype

The prototype of a definition is in force before its body is read, so that the body can already
use an operator that it declares.
-/
namespace Kaleido.Grammar

/-- Whether a declaration begins with a token of this kind. -/
def beginsDeclaration : Kind → Bool
  | .keyword .definition | .keyword .external => true
  | _ => false

/-- The least precedence that a declaration can give. -/
def leastPrecedence : Nat := 1

/-- The greatest precedence that a declaration can give. -/
def greatestPrecedence : Nat := 100

/-- The precedence that a numeral gives: a whole number in the range of precedences. -/
def precedenceOf? (numeral : String) : Option Int :=
  let word := numeral.toList
  let value := Decimal.digitsValue word
  if !word.isEmpty && word.all Char.isDigit && leastPrecedence ≤ value && value ≤ greatestPrecedence
  then some value
  else none

/-- Reads a precedence. The numeral is read also if it gives none. -/
def precedence (s : Session) : Reply s Int :=
  s.take.andThen fun token s _ =>
    match precedenceOf? token.lexeme with
    | some value => .pure s value
    | none => .fail s ⟨.invalidPrecedence token.lexeme, token.position⟩

/-- Reads a precedence if there is one. -/
def optionalPrecedence (s : Session) : Reply s (Option Int) :=
  if s.current.kind = .number then (precedence s).map some else .pure s none

/-- Reads the operator that a prototype declares. Assignment cannot be declared. -/
def declaredOperator (s : Session) : Reply s Char :=
  match s.current.operator?, s.current.kind with
  | none, _ | some _, .equal =>
    .fail s ⟨.expectedToken "operator" s.current.text, s.current.position⟩
  | some op, _ => s.take.map fun _ => op

/-- Reads an operator in binary use with its precedence. The operators of the language itself
cannot be declared. -/
def declaredBinary (s : Session) : Reply s (Char × Option Int) :=
  (declaredOperator s).andThen fun op s₁ _ =>
    if op ∈ builtinOperators then
      .fail s₁ ⟨.builtinOperator op.toString, s.current.position⟩
    else (optionalPrecedence s₁).map fun precedence => (op, precedence)

/-- Reads parameters in parentheses. -/
def parameters (s : Session) : Reply s (List String) :=
  (s.expect (· = .leftParen) "(").andThen fun _ s _ =>
    let names := s.passWhile fun token => token.kind = .identifier
    ((names.2.expect (· = .rightParen) ")").map fun _ => names.1.map Token.lexeme).since
      (s.passWhile_follows _)

/-- Reads the parameters of an operator, of which there has to be a certain number. -/
def operands (role : Role) (op : Char) (precedence : Option Int) (expected : Nat)
    (position : Position) (s : Session) : Reply s Prototype :=
  (parameters s).andThen fun params s _ =>
    if params.length = expected then
      .pure s (.ofOperator role op params precedence position)
    else .fail s ⟨.invalidOperandCount op.toString expected params.length, position⟩

/-- Reads a prototype. It stands where its first token does. -/
def prototype (s : Session) : Reply s Prototype :=
  let first := s.current
  match first.kind with
  | .keyword .unary =>
    s.take.andThen fun _ s _ =>
    (declaredOperator s).andThen fun op s _ => operands .unary op none 1 first.position s
  | .keyword .binary =>
    s.take.andThen fun _ s _ =>
    (declaredBinary s).andThen fun (op, precedence) s _ =>
      operands .binary op precedence 2 first.position s
  | .identifier =>
    s.take.andThen fun _ s _ =>
    (parameters s).map fun params => { name := first.lexeme, params, position := first.position }
  | _ => .fail s ⟨.expectedToken "function name in prototype" first.text, first.position⟩

/-- Declares a prototype in the session. -/
def declare (prototype : Prototype) (s : Session) : Reply s Unit :=
  ⟨(s.register prototype).1, (s.register prototype).2, Session.register_follows rfl⟩

theorem declare_of_ok {prototype : Prototype} {s after : Session}
    (registers : s.register prototype = (.ok (), after)) :
    declare prototype s = ⟨.ok (), after, Session.register_follows registers⟩ := by
  simp only [declare, registers]

/-- A prototype that is refused leaves the session where it was. -/
theorem declare_of_error {prototype : Prototype} {s : Session} {diagnostic : Diagnostic}
    (refused : (s.register prototype).1 = .error diagnostic) :
    declare prototype s = .fail s diagnostic := by
  simp only [declare, Session.register_of_error refused]
  rfl

/-- Reads a definition from its keyword on. -/
def definition (s : Session) : Reply s Item :=
  s.take.andThen fun _ s _ =>
  (prototype s).andThen fun prototype s _ =>
  (declare prototype s).andThen fun _ s _ =>
  (expression s).map fun body => .definition ⟨prototype, [body]⟩

/-- Reads the declaration of a function that is defined elsewhere, from its keyword on. -/
def external (s : Session) : Reply s Item :=
  s.take.andThen fun _ s _ =>
  (prototype s).andThen fun prototype s _ =>
  (declare prototype s).map fun _ => .external prototype

/-- The name of the function that a top-level expression is the body of: `main` if the expression
ends in that identifier, otherwise none. -/
def topLevelName (previous : Option Token) : String :=
  if previous.any (·.isIdentifier "main") then "main" else ""

/-- Reads an expression at the top level. -/
def topLevel (s : Session) : Reply s Item :=
  (expression s).andThen fun body s₁ _ =>
    .pure s₁ (.expression
      ⟨{ name := topLevelName s₁.previous, params := [], position := s.current.position }, [body]⟩)

end Kaleido.Grammar
