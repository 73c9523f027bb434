import Kaleido.Text
import Kaleido.Token

/-!
# Patterns

The shapes of text that a source is made of. The table lists them in the order in which they are
tried at a place of the source; blanks and comments divide tokens and give none.
-/
namespace Kaleido

/-- Whether a character begins a word. -/
def isWordStart (c : Char) : Bool := c.isAlpha || c = '_'

/-- Whether a character continues a word. -/
def isWordPart (c : Char) : Bool := c.isAlphanum || c = '_'

/-- Whether a character is one of the thirty-two punctuation characters of ASCII. -/
def isPunctuation (c : Char) : Bool :=
  (0x21 ≤ c.toNat && c.toNat ≤ 0x2f) || (0x3a ≤ c.toNat && c.toNat ≤ 0x40) ||
    (0x5b ≤ c.toNat && c.toNat ≤ 0x60) || (0x7b ≤ c.toNat && c.toNat ≤ 0x7e)

/-- A shape of text. -/
inductive Pattern where
  /-- One or more blank characters. -/
  | blanks
  /-- Two slashes and the rest of the line. -/
  | comment
  /-- A letter or underscore, then letters, digits and underscores. -/
  | word
  /-- Digits with at most one point among them, or a point alone. -/
  | number
  /-- One given character. -/
  | mark (c : Char) (kind : Kind)
  /-- Any one punctuation character. -/
  | punctuation
deriving Repr, DecidableEq

namespace Pattern

/-- The stretch that a pattern covers at the start of a text, as long as possible. It is empty
exactly when the pattern does not fit there. -/
def covered : Pattern → List Char → List Char
  | .blanks, text => text.takeWhile Text.isBlank
  | .comment, '/' :: '/' :: rest => '/' :: '/' :: rest.takeWhile (· ≠ '\n')
  | .comment, _ => []
  | .word, c :: rest => if isWordStart c then c :: rest.takeWhile isWordPart else []
  | .word, [] => []
  | .number, text =>
    text.takeWhile Char.isDigit ++
      match text.dropWhile Char.isDigit with
      | '.' :: rest => '.' :: rest.takeWhile Char.isDigit
      | _ => []
  | .mark m _, c :: _ => if c = m then [c] else []
  | .mark _ _, [] => []
  | .punctuation, c :: _ => if isPunctuation c then [c] else []
  | .punctuation, [] => []

/-- The kind of the token that a stretch covered by the pattern gives, if it gives one. -/
def kind? : Pattern → List Char → Option Kind
  | .blanks, _ => none
  | .comment, _ => none
  | .word, text =>
    match Keyword.ofWord? (String.ofList text) with
    | some keyword => some (.keyword keyword)
    | none => some .identifier
  | .number, _ => some .number
  | .mark _ kind, _ => some kind
  | .punctuation, _ => some .operator

/-- The patterns in the order in which they are tried. -/
def all : List Pattern :=
  [.blanks, .comment, .word, .number, .mark '(' .leftParen, .mark ')' .rightParen,
   .mark ',' .comma, .mark ';' .semicolon, .mark '=' .equal, .mark '+' .plus, .mark '-' .minus,
   .mark '*' .star, .mark '/' .slash, .mark '<' .less, .mark '>' .greater, .punctuation]

/-- The first pattern that fits at the start of a text. -/
def first? (text : List Char) : Option Pattern :=
  all.find? fun pattern => !(pattern.covered text).isEmpty

/-- What a pattern covers is an initial stretch of the text. -/
theorem covered_initial (pattern : Pattern) (text : List Char) :
    ∃ rest, text = pattern.covered text ++ rest := by
  fun_cases pattern.covered text
  case case1 => exact ⟨_, List.takeWhile_append_dropWhile.symm⟩
  case case2 rest =>
    exact ⟨rest.dropWhile (· ≠ '\n'), by simp [List.takeWhile_append_dropWhile]⟩
  case case4 c rest start =>
    exact ⟨rest.dropWhile isWordPart, by simp [List.takeWhile_append_dropWhile]⟩
  case case7 =>
    split
    · next rest point =>
      refine ⟨rest.dropWhile Char.isDigit, ?_⟩
      rw [List.append_assoc, List.cons_append, List.takeWhile_append_dropWhile, ← point,
        List.takeWhile_append_dropWhile]
    · exact ⟨text.dropWhile Char.isDigit, by
        rw [List.append_nil, List.takeWhile_append_dropWhile]⟩
  all_goals exact ⟨_, rfl⟩

end Pattern

end Kaleido
