import Kaleido.Session
import Mathlib.Data.List.TakeWhile

/-!
# The texts of tokens

Which text a token of each kind has, whatever source it was read from. The rest of the theory
knows tokens by these facts and not by the patterns that they were read with. Main statement:
every token ahead in the session of a source is spelled as its kind demands.
-/
namespace Kaleido

/-- A letter or underscore, then letters, digits and underscores. -/
def IsWord (text : List Char) : Prop :=
  ∃ first rest, text = first :: rest ∧ isWordStart first ∧ ∀ c ∈ rest, isWordPart c

/-- Digits with at most one point among them, or a point alone. -/
def IsNumeral (text : List Char) : Prop :=
  ∃ whole, (∀ c ∈ whole, Char.isDigit c) ∧
    ((text = whole ∧ whole ≠ []) ∨
      ∃ fraction, text = whole ++ '.' :: fraction ∧ ∀ c ∈ fraction, Char.isDigit c)

/-- The punctuation characters that the language does not use itself. -/
def isFreeMark (c : Char) : Bool :=
  isPunctuation c && c ∉ ['_', '.', '(', ')', ',', ';', '=', '+', '-', '*', '/', '<', '>']

/-- That tokens of a kind can have a given text. -/
def Kind.Spells (text : List Char) : Kind → Prop
  | .finish => text = []
  | .unexpected => ∃ c, text = [c]
  | .identifier => IsWord text ∧ Keyword.ofWord? (String.ofList text) = none
  | .keyword word => String.ofList text = word.word
  | .number => IsNumeral text
  | .leftParen => text = ['(']
  | .rightParen => text = [')']
  | .comma => text = [',']
  | .semicolon => text = [';']
  | .equal => text = ['=']
  | .plus => text = ['+']
  | .minus => text = ['-']
  | .star => text = ['*']
  | .slash => text = ['/']
  | .less => text = ['<']
  | .greater => text = ['>']
  | .operator => ∃ c, text = [c] ∧ isFreeMark c

/-- That a name is a word that is not set apart as a keyword. -/
def IsIdentifier (name : String) : Prop := Kind.identifier.Spells name.toList

/-- That a token has a text that its kind can have. -/
def Token.Spelled (token : Token) : Prop := token.kind.Spells token.lexeme.toList

namespace Pattern

/-! ## Patterns -/

theorem mem_all_of_first? {text : List Char} {pattern : Pattern}
    (found : first? text = some pattern) : pattern ∈ all :=
  List.mem_of_find?_eq_some found

theorem covered_ne_nil {text : List Char} {pattern : Pattern}
    (found : first? text = some pattern) : pattern.covered text ≠ [] := by
  have fits := List.find?_some found
  simpa using fits

/-- Punctuation is tried last, so a character is read as such only if no other pattern fits. -/
theorem covered_eq_nil_of_punctuation {text : List Char} (found : first? text = some .punctuation)
    {pattern : Pattern} (earlier : pattern ∈ all.dropLast) : pattern.covered text = [] := by
  have divided : all = all.dropLast ++ [.punctuation] := rfl
  rw [first?, divided, List.find?_append, Option.or_eq_some_iff] at found
  rcases found with early | ⟨none, -⟩
  · have := List.mem_of_find?_eq_some early
    simp [all] at this
  · have := List.find?_eq_none.mp none pattern earlier
    simpa using this

theorem isWord_covered {text : List Char} (fits : word.covered text ≠ []) :
    IsWord (word.covered text) := by
  cases text with
  | nil => simp [covered] at fits
  | cons first rest =>
    by_cases start : isWordStart first
    · rw [covered, if_pos start]
      exact ⟨first, _, rfl, start, fun c member => List.mem_takeWhile_imp member⟩
    · rw [covered, if_neg start] at fits
      exact absurd rfl fits

theorem isNumeral_covered {text : List Char} (fits : number.covered text ≠ []) :
    IsNumeral (number.covered text) := by
  refine ⟨text.takeWhile Char.isDigit, fun c member => List.mem_takeWhile_imp member, ?_⟩
  rw [covered] at fits ⊢
  split
  · next rest _ => exact .inr ⟨_, rfl, fun c member => List.mem_takeWhile_imp member⟩
  · next none =>
    refine .inl ⟨by simp, ?_⟩
    split at fits
    · next rest point => exact absurd point (none rest)
    · simpa using fits

theorem spells_word {text : List Char} {kind : Kind} (isWord : IsWord text)
    (given : word.kind? text = some kind) : kind.Spells text := by
  rw [kind?] at given
  split at given
  · next keyword found =>
    obtain rfl := Option.some.inj given
    have same := List.find?_some found
    exact (of_decide_eq_true same).symm
  · next none =>
    obtain rfl := Option.some.inj given
    exact ⟨isWord, none⟩

theorem covered_mark {text : List Char} {c : Char} {kind : Kind}
    (fits : (mark c kind).covered text ≠ []) : (mark c kind).covered text = [c] := by
  cases text with
  | nil => simp [covered] at fits
  | cons first rest =>
    by_cases same : first = c
    · simp [covered, same]
    · simp [covered, same] at fits

theorem spells_mark {text : List Char} {c : Char} {kind : Kind} (listed : mark c kind ∈ all)
    (same : text = [c]) : kind.Spells text := by
  subst same
  simp only [all, List.mem_cons, List.not_mem_nil, or_false, mark.injEq, reduceCtorEq, false_or]
    at listed
  rcases listed with ⟨rfl, rfl⟩ | ⟨rfl, rfl⟩ | ⟨rfl, rfl⟩ | ⟨rfl, rfl⟩ | ⟨rfl, rfl⟩ | ⟨rfl, rfl⟩ |
    ⟨rfl, rfl⟩ | ⟨rfl, rfl⟩ | ⟨rfl, rfl⟩ | ⟨rfl, rfl⟩ | ⟨rfl, rfl⟩ <;> rfl

theorem spells_punctuation {text : List Char} (found : first? text = some .punctuation) :
    Kind.operator.Spells (punctuation.covered text) := by
  have fits := covered_ne_nil found
  cases text with
  | nil => simp [covered] at fits
  | cons c rest =>
    by_cases punctuation : isPunctuation c
    · rw [covered, if_pos punctuation]
      refine ⟨c, rfl, ?_⟩
      have unmarked : ∀ kind, mark c kind ∉ all.dropLast := by
        intro kind earlier
        have none := covered_eq_nil_of_punctuation found earlier
        simp [covered] at none
      simp only [isFreeMark, punctuation, Bool.true_and, decide_eq_true_eq, List.mem_cons,
        List.not_mem_nil, or_false]
      rintro (rfl | rfl | marked)
      · have none := covered_eq_nil_of_punctuation found (show word ∈ all.dropLast by decide)
        simp [covered, isWordStart] at none
      · have none := covered_eq_nil_of_punctuation found (show number ∈ all.dropLast by decide)
        simp [covered] at none
      · rcases marked with rfl | rfl | rfl | rfl | rfl | rfl | rfl | rfl | rfl | rfl | rfl <;>
          simp [all] at unmarked
    · rw [covered, if_neg punctuation] at fits
      exact absurd rfl fits

/-- What the first pattern that fits covers is spelled as its kind demands. -/
theorem spells_covered {text : List Char} {pattern : Pattern} {kind : Kind}
    (found : first? text = some pattern) (given : pattern.kind? (pattern.covered text) = some kind) :
    kind.Spells (pattern.covered text) := by
  have fits := covered_ne_nil found
  cases pattern with
  | blanks => cases given
  | comment => cases given
  | word => exact spells_word (isWord_covered fits) given
  | number =>
    cases given
    exact isNumeral_covered fits
  | mark c marked =>
    cases given
    exact spells_mark (mem_all_of_first? found) (covered_mark fits)
  | punctuation =>
    cases given
    exact spells_punctuation found

end Pattern

/-! ## Tokens of a source -/

theorem Cursor.spelled_next (cursor : Cursor) : cursor.next.1.Spelled := by
  fun_induction next cursor with
  | case1 cursor empty => rfl
  | case2 cursor ahead none =>
    obtain ⟨c, rest, same⟩ := List.exists_cons_of_ne_nil ahead
    exact ⟨c, by simp [same]⟩
  | case3 cursor ahead pattern found lexeme kind given =>
    rw [Token.Spelled, String.toList_ofList]
    exact Pattern.spells_covered found given
  | case4 cursor ahead pattern found lexeme none ih => exact ih

/-- Every token ahead is one that some cursor reads. -/
theorem Cursor.mem_scan {cursor : Cursor} {token : Token} (member : token ∈ cursor.scan.1) :
    token.kind ≠ .finish ∧ ∃ reader : Cursor, reader.next.1 = token := by
  fun_induction scan cursor with
  | case1 cursor step finish => cases member
  | case2 cursor step more tokens finish rest ih =>
    rcases List.mem_cons.mp member with rfl | later
    · exact ⟨more, cursor, rfl⟩
    · exact ih (by simpa [rest] using later)

namespace Session

/-- That the tokens ahead are spelled as their kinds demand. -/
def Lexed (s : Session) : Prop := ∀ token ∈ s.ahead, token.Spelled

/-- The tokens of every source are spelled as their kinds demand. -/
theorem lexed_ofSource (source : String) : (ofSource source).Lexed := by
  intro token member
  obtain ⟨-, reader, rfl⟩ := Cursor.mem_scan member
  exact reader.spelled_next

theorem Lexed.current {s : Session} (lexed : s.Lexed) : s.current.Spelled := by
  unfold Session.current
  split
  · rfl
  · next token rest same => exact lexed token (by simp [same])

/-- Reading on leaves tokens that were ahead before. -/
theorem Lexed.follows {later earlier : Session} (lexed : earlier.Lexed)
    (follows : later.Follows earlier) : later.Lexed :=
  fun token member => lexed token (follows.ahead.subset member)

end Session

theorem Token.Spelled.identifier {token : Token} (spelled : token.Spelled)
    (kind : token.kind = .identifier) : IsIdentifier token.lexeme := by
  rwa [Token.Spelled, kind] at spelled

/-! ## Operators -/

/-- The characters that tokens naming an operator consist of. -/
def IsOperator (c : Char) : Prop := ∃ kind : Kind, kind.isOperator ∧ kind.Spells [c]

/-- The punctuation characters that no word has. -/
def isOperatorMark (c : Char) : Bool := isPunctuation c && c ≠ '_'

theorem not_isAlphanum_of_isPunctuation {c : Char} (punctuation : isPunctuation c) :
    c.isAlphanum = false := by
  have value : c.toNat = c.val.toNat := rfl
  simp only [isPunctuation, value, Bool.or_eq_true, Bool.and_eq_true, decide_eq_true_eq] at punctuation
  have ranges : c.isAlphanum = ((decide ('A'.val ≤ c.val ∧ c.val ≤ 'Z'.val) ||
      (decide ('a'.val ≤ c.val) && decide (c.val ≤ 'z'.val))) ||
      (decide ('0'.val ≤ c.val) && decide (c.val ≤ '9'.val))) := rfl
  simp only [ranges, UInt32.le_iff_toNat_le, Bool.or_eq_false_iff, Bool.and_eq_false_iff,
    decide_eq_false_iff_not, Char.reduceVal, UInt32.reduceToNat]
  omega

theorem not_isWordPart_of_isOperatorMark {c : Char} (mark : isOperatorMark c) : ¬ isWordPart c := by
  simp only [isOperatorMark, Bool.and_eq_true, decide_eq_true_eq] at mark
  simp [isWordPart, not_isAlphanum_of_isPunctuation mark.1, mark.2]

theorem isOperatorMark_of_isFreeMark {c : Char} (free : isFreeMark c) :
    isOperatorMark c ∧ c ≠ '=' := by
  simp only [isFreeMark, Bool.and_eq_true, decide_eq_true_eq, List.mem_cons, not_or] at free
  simp [isOperatorMark, free]

/-- Operators are punctuation marks. -/
theorem IsOperator.mark {c : Char} (operator : IsOperator c) : isOperatorMark c := by
  obtain ⟨kind, isOperator, spells⟩ := operator
  cases kind with
  | operator =>
    obtain ⟨other, same, free⟩ := spells
    obtain rfl : c = other := by simpa using same
    exact (isOperatorMark_of_isFreeMark free).1
  | equal | plus | minus | star | slash | less | greater =>
    obtain rfl := List.singleton_inj.mp spells
    decide
  | _ => cases isOperator

/-- The operator that a token names is all of its text, and only the token for assignment names the
operator of assignment. -/
theorem Token.Spelled.operator {token : Token} {op : Char} (spelled : token.Spelled)
    (named : token.operator? = some op) :
    IsOperator op ∧ (op = '=' ↔ token.kind = .equal) := by
  obtain ⟨kind, lexeme, position⟩ := token
  unfold Token.Spelled at spelled
  unfold Token.operator? at named
  by_cases operator : kind.isOperator
  · rw [if_pos operator] at named
    cases kind with
    | operator =>
      obtain ⟨c, same, free⟩ := spelled
      obtain rfl : c = op := by simpa [same] using named
      have mark := isOperatorMark_of_isFreeMark free
      exact ⟨⟨.operator, rfl, c, rfl, free⟩, by simp [mark]⟩
    | equal | plus | minus | star | slash | less | greater =>
      obtain rfl := Option.some.inj ((congrArg List.head? spelled).symm.trans named)
      exact ⟨⟨_, operator, rfl⟩, by simp⟩
    | _ => cases operator
  · rw [if_neg operator] at named
    cases named

end Kaleido
