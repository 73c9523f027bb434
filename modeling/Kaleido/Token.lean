import Kaleido.Position

/-!
# Tokens

A token is a kind, the stretch of text that it was read from, and the place of that text. Words
set apart by the language are keywords; the end of the text is a token of its own, without text.
-/
namespace Kaleido

/-- The words set apart by the language. -/
inductive Keyword where
  /-- The word `def`. -/
  | definition
  /-- The word `extern`. -/
  | external
  /-- The word `if`. -/
  | condition
  /-- The word `then`. -/
  | consequence
  /-- The word `else`. -/
  | alternative
  /-- The word `for`. -/
  | repetition
  /-- The word `in`. -/
  | within
  /-- The word `binary`. -/
  | binary
  /-- The word `unary`. -/
  | unary
  /-- The word `var`. -/
  | locals
deriving Repr, DecidableEq

namespace Keyword

/-- Every keyword. -/
def all : List Keyword :=
  [.definition, .external, .condition, .consequence, .alternative, .repetition, .within, .binary,
   .unary, .locals]

/-- The spelling of a keyword. -/
def word : Keyword → String
  | .definition => "def"
  | .external => "extern"
  | .condition => "if"
  | .consequence => "then"
  | .alternative => "else"
  | .repetition => "for"
  | .within => "in"
  | .binary => "binary"
  | .unary => "unary"
  | .locals => "var"

/-- The keyword with a given spelling. -/
def ofWord? (word : String) : Option Keyword := all.find? fun keyword => keyword.word = word

theorem ofWord?_word (keyword : Keyword) : ofWord? keyword.word = some keyword := by
  cases keyword <;> decide

end Keyword

/-- The kinds of tokens. -/
inductive Kind where
  /-- The end of the text. -/
  | finish
  /-- A character that begins no token. -/
  | unexpected
  | identifier
  | number
  | keyword (word : Keyword)
  | leftParen
  | rightParen
  | comma
  | semicolon
  | equal
  | plus
  | minus
  | star
  | slash
  | less
  | greater
  /-- Any other punctuation character, free to be declared as an operator. -/
  | operator
deriving Repr, DecidableEq

namespace Kind

/-- Whether tokens of this kind name an operator. -/
def isOperator : Kind → Bool
  | .equal | .plus | .minus | .star | .slash | .less | .greater | .operator => true
  | _ => false

/-- Whether this is the kind of some keyword. -/
def isKeyword : Kind → Bool
  | .keyword _ => true
  | _ => false

/-- The keyword of the kind, if it is that of one. -/
def keyword? : Kind → Option Keyword
  | .keyword word => some word
  | _ => none

end Kind

/-- A kind, the text of the token and the place where it begins. -/
structure Token where
  kind : Kind
  lexeme : String
  position : Position
deriving Repr, DecidableEq

namespace Token

/-- The token that stands at the end of the text. -/
def finish (position : Position) : Token := ⟨.finish, "", position⟩

/-- How a token is shown in messages. -/
def text (token : Token) : String := if token.lexeme = "" then "End" else token.lexeme

/-- The operator that a token names. -/
def operator? (token : Token) : Option Char :=
  if token.kind.isOperator then token.lexeme.toList.head? else none

/-- Whether a token is the identifier of a given spelling. -/
def isIdentifier (token : Token) (name : String) : Bool :=
  token.kind = .identifier && token.lexeme = name

@[simp] theorem kind_finish (position : Position) : (finish position).kind = .finish := rfl

end Token

end Kaleido
