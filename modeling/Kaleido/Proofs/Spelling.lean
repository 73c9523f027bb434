import Kaleido.Proofs.Numerals
import Kaleido.Proofs.Scanning
import Kaleido.Proofs.WellFormed

/-!
# Spellings

Every expression can be written down: its parts in parentheses, so that no precedence matters, and a
space between any two tokens. Main statement: the words of a well-formed expression are spelled as
their kinds demand, so they are the tokens of its text.
-/
namespace Kaleido

/-- The kind of the tokens that name an operator. -/
def Kind.ofOperator : Char → Kind
  | '=' => .equal
  | '+' => .plus
  | '-' => .minus
  | '*' => .star
  | '/' => .slash
  | '<' => .less
  | '>' => .greater
  | _ => .operator

namespace Word

def name (name : String) : Word := ⟨.identifier, name⟩

def number (value : Binary64) : Word := ⟨.number, value.text⟩

def keyword (keyword : Keyword) : Word := ⟨.keyword keyword, keyword.word⟩

def operator (op : Char) : Word := ⟨.ofOperator op, String.singleton op⟩

def comma : Word := ⟨.comma, ","⟩

/-- Words in parentheses. -/
def wrapped (words : List Word) : List Word := ⟨.leftParen, "("⟩ :: words ++ [⟨.rightParen, ")"⟩]

theorem wrapped_append (words rest : List Word) :
    wrapped words ++ rest = ⟨.leftParen, "("⟩ :: (words ++ ⟨.rightParen, ")"⟩ :: rest) := by
  simp [wrapped]

/-- Parts with a comma between any two of them. -/
def listed : List (List Word) → List Word
  | [] => []
  | [part] => part
  | part :: rest => part ++ comma :: listed rest

end Word

namespace Expr

open Word

mutual

/-- The words of an expression, with all its parts in parentheses. -/
def spelling : Expr → List Word
  | .number value => [.number value]
  | .var name => [.name name]
  | .assign target value => wrapped [.name target] ++ .operator '=' :: wrapped value.spelling
  | .binary op left right => wrapped left.spelling ++ .operator op :: wrapped right.spelling
  | .unary op operand => .operator op :: wrapped operand.spelling
  | .call callee arguments => .name callee :: wrapped (listed (partSpellings arguments))
  | .conditional condition whenTrue whenFalse =>
    .keyword .condition :: wrapped condition.spelling ++
      .keyword .consequence :: (partSpellings whenTrue).flatten ++
      .keyword .alternative :: (partSpellings whenFalse).flatten
  | .loop counter first last step body =>
    .keyword .repetition :: .name counter :: .operator '=' :: wrapped first.spelling ++
      comma :: wrapped last.spelling ++ clauseSpelling comma step ++
      .keyword .within :: (partSpellings body).flatten
  | .locals bindings body =>
    .keyword .locals :: listed (bindingSpellings bindings) ++
      .keyword .within :: wrapped body.spelling

/-- The words of expressions, each in parentheses. -/
def partSpellings : List Expr → List (List Word)
  | [] => []
  | expr :: rest => wrapped expr.spelling :: partSpellings rest

/-- The words of an expression in parentheses after a mark, if there is one. -/
def clauseSpelling (mark : Word) : Option Expr → List Word
  | none => []
  | some expr => mark :: wrapped expr.spelling

/-- The words of a local variable and its initial value. -/
def bindingSpelling : String × Option Expr → List Word
  | (name, initial) => .name name :: clauseSpelling (.operator '=') initial

def bindingSpellings : List (String × Option Expr) → List (List Word)
  | [] => []
  | binding :: rest => bindingSpelling binding :: bindingSpellings rest

end

/-- The words of an expression with spaces between them. -/
def source (expr : Expr) : String := Word.source expr.spelling

theorem partSpellings_eq_map (exprs : List Expr) :
    partSpellings exprs = exprs.map fun expr => wrapped expr.spelling := by
  induction exprs with
  | nil => rfl
  | cons expr rest ih => rw [partSpellings, ih, List.map_cons]

theorem bindingSpellings_eq_map (bindings : List (String × Option Expr)) :
    bindingSpellings bindings = bindings.map bindingSpelling := by
  induction bindings with
  | nil => rfl
  | cons binding rest ih => rw [bindingSpellings, ih, List.map_cons]

end Expr

/-! ## The words are spelled -/

theorem Kind.ofOperator_spells {op : Char} (operator : IsOperator op) :
    (ofOperator op).isOperator ∧ (ofOperator op).Spells [op] ∧
      (ofOperator op = .equal ↔ op = '=') := by
  obtain ⟨kind, isOperator, spells⟩ := operator
  cases kind with
  | operator =>
    obtain ⟨c, same, free⟩ := spells
    obtain rfl := List.singleton_inj.mp same
    have other : ofOperator op = .operator := by
      unfold ofOperator
      split <;> first | rfl | cases free
    have mark := (isOperatorMark_of_isFreeMark free).2
    rw [other]
    exact ⟨rfl, ⟨op, rfl, free⟩, by simp [mark]⟩
  | equal | plus | minus | star | slash | less | greater =>
    obtain rfl := List.singleton_inj.mp spells
    exact ⟨rfl, rfl, by decide⟩
  | _ => cases isOperator

namespace Word

theorem spelled_name {text : String} (identifier : IsIdentifier text) : (name text).Spelled :=
  ⟨by simp [name], by simp [name], identifier⟩

theorem spelled_number {value : Binary64} (finite : value.isFinite)
    (nonneg : value.isNegative = false) : (number value).Spelled :=
  ⟨by simp [number], by simp [number], Binary64.spells_text finite nonneg⟩

theorem spelled_keyword (set : Keyword) : (keyword set).Spelled :=
  ⟨by simp [keyword], by simp [keyword], by simp [keyword, Kind.Spells]⟩

theorem spelled_operator {op : Char} (mark : IsOperator op) : (operator op).Spelled := by
  obtain ⟨isOperator, spells, -⟩ := Kind.ofOperator_spells mark
  refine ⟨fun finish => ?_, fun unexpected => ?_, by simpa [operator] using spells⟩
  · rw [show Kind.ofOperator op = .finish from finish] at isOperator
    cases isOperator
  · rw [show Kind.ofOperator op = .unexpected from unexpected] at isOperator
    cases isOperator

theorem spelled_comma : comma.Spelled := ⟨by decide, by decide, rfl⟩

theorem spelled_wrapped {words : List Word} (spelled : ∀ word ∈ words, word.Spelled) :
    ∀ word ∈ wrapped words, word.Spelled := by
  intro word member
  simp only [wrapped, List.cons_append, List.mem_cons, List.mem_append, List.not_mem_nil,
    or_false] at member
  rcases member with rfl | inside | rfl
  · exact ⟨by decide, by decide, rfl⟩
  · exact spelled word inside
  · exact ⟨by decide, by decide, rfl⟩

theorem spelled_listed {parts : List (List Word)}
    (spelled : ∀ part ∈ parts, ∀ word ∈ part, word.Spelled) :
    ∀ word ∈ listed parts, word.Spelled := by
  fun_induction listed parts with
  | case1 => simp
  | case2 part => exact spelled part (by simp)
  | case3 part rest _ ih =>
    intro word member
    rcases List.mem_append.mp member with first | later
    · exact spelled part (by simp) word first
    · rcases List.mem_cons.mp later with rfl | later
      · exact spelled_comma
      · exact ih (fun part member => spelled part (by simp [member])) word later

end Word

namespace Expr

/-- The numbers that a numeral can stand for. -/
def Writable (value : Binary64) : Prop := value.isFinite ∧ value.isNegative = false

variable {operators : Char → Prop}

theorem spelled_clauseSpelling {mark : Word} (spelled : mark.Spelled) {clause : Option Expr}
    (inClause : ∀ expr ∈ clause, ∀ word ∈ expr.spelling, word.Spelled) :
    ∀ word ∈ clauseSpelling mark clause, word.Spelled := by
  cases clause with
  | none => simp [clauseSpelling]
  | some expr =>
    rw [clauseSpelling, List.forall_mem_cons]
    exact ⟨spelled, Word.spelled_wrapped (inClause expr rfl)⟩

/-- Every word of a well-formed expression is spelled as its kind demands. -/
theorem WellFormed.spelled {expr : Expr} (wellFormed : expr.WellFormed Writable operators)
    (marks : ∀ op, operators op → IsOperator op) : ∀ word ∈ expr.spelling, word.Spelled := by
  have assignment : (Word.operator '=').Spelled := Word.spelled_operator ⟨.equal, rfl, rfl⟩
  induction wellFormed with
  | number allowed => simp [spelling, Word.spelled_number allowed.1 allowed.2]
  | var identifier => simp [spelling, Word.spelled_name identifier]
  | assign identifier _ inValue =>
    simp only [spelling, List.forall_mem_append, List.forall_mem_cons]
    exact ⟨Word.spelled_wrapped (by simp [Word.spelled_name identifier]), assignment,
      Word.spelled_wrapped inValue⟩
  | binary known _ _ _ inLeft inRight =>
    simp only [spelling, List.forall_mem_append, List.forall_mem_cons]
    exact ⟨Word.spelled_wrapped inLeft, Word.spelled_operator (marks _ known),
      Word.spelled_wrapped inRight⟩
  | unary mark _ _ inOperand =>
    simp only [spelling, List.forall_mem_cons]
    exact ⟨Word.spelled_operator mark, Word.spelled_wrapped inOperand⟩
  | call identifier _ inArguments =>
    simp only [spelling, List.forall_mem_cons, partSpellings_eq_map]
    refine ⟨Word.spelled_name identifier, Word.spelled_wrapped (Word.spelled_listed ?_)⟩
    intro part member
    obtain ⟨argument, listed, rfl⟩ := List.mem_map.mp member
    exact Word.spelled_wrapped (inArguments argument listed)
  | conditional _ _ _ inCondition inTrue inFalse =>
    simp only [spelling, List.forall_mem_append, List.forall_mem_cons, partSpellings,
      List.flatten_cons, List.flatten_nil, List.append_nil, List.cons_append]
    exact ⟨Word.spelled_keyword _, ⟨Word.spelled_wrapped inCondition, Word.spelled_keyword _,
      Word.spelled_wrapped inTrue⟩, Word.spelled_keyword _, Word.spelled_wrapped inFalse⟩
  | loop identifier _ _ _ _ inFirst inLast inStep inBody =>
    simp only [spelling, List.forall_mem_append, List.forall_mem_cons, partSpellings,
      List.flatten_cons, List.flatten_nil, List.append_nil, List.cons_append]
    exact ⟨Word.spelled_keyword _, Word.spelled_name identifier, assignment,
      ⟨⟨Word.spelled_wrapped inFirst, Word.spelled_comma, Word.spelled_wrapped inLast⟩,
        spelled_clauseSpelling Word.spelled_comma inStep⟩,
      Word.spelled_keyword _, Word.spelled_wrapped inBody⟩
  | locals some identifiers _ _ inBindings inBody =>
    simp only [spelling, List.forall_mem_append, List.forall_mem_cons, bindingSpellings_eq_map,
      List.cons_append]
    refine ⟨Word.spelled_keyword _, Word.spelled_listed ?_, Word.spelled_keyword _,
      Word.spelled_wrapped inBody⟩
    intro part member
    obtain ⟨⟨name, initial⟩, listed, rfl⟩ := List.mem_map.mp member
    rw [bindingSpelling, List.forall_mem_cons]
    exact ⟨Word.spelled_name (identifiers _ listed),
      spelled_clauseSpelling assignment (inBindings _ listed)⟩

end Expr

end Kaleido
