import Kaleido.Proofs.Lexemes
import Kaleido.Proofs.Reading

/-!
# The prototypes that a source can declare

A prototype read from a source has a name that tells its role: a function is named by a word, and
an operator by a word with a mark at its end, which no word has. So the names of functions, of
unary operators and of binary operators are kept apart. Main statement: every prototype that the
reader answers with is of one of the three forms.
-/
namespace Kaleido

/-- That every name of a list is an identifier. -/
def Identifiers (names : List String) : Prop := ∀ name ∈ names, IsIdentifier name

/-- The forms of prototypes. An operator has the number of parameters that it has operands, is not
the one for assignment and, in binary use, none of the language itself. -/
inductive Prototype.Declarable : Prototype → Prop where
  | function {name : String} {params : List String} {position : Position}
      (word : IsIdentifier name) (names : Identifiers params) :
      Declarable ⟨name, params, .function, none, position⟩
  | unary {op : Char} {params : List String} {position : Position} (mark : IsOperator op)
      (other : op ≠ '=') (names : Identifiers params) (one : params.length = 1) :
      Declarable (.ofOperator .unary op params none position)
  | binary {op : Char} {params : List String} {precedence : Option Int} {position : Position}
      (mark : IsOperator op) (other : op ≠ '=') (free : op ∉ builtinOperators)
      (names : Identifiers params) (two : params.length = 2)
      (range : ∀ value, precedence = some value → 1 ≤ value ∧ value ≤ 100) :
      Declarable (.ofOperator .binary op params precedence position)

/-! ## Names -/

theorem IsWord.isWordPart {text : List Char} (word : IsWord text) : ∀ c ∈ text, isWordPart c := by
  obtain ⟨first, rest, rfl, start, part⟩ := word
  intro c member
  rcases List.mem_cons.mp member with rfl | later
  · simp only [isWordStart, Bool.or_eq_true] at start
    rcases start with letter | underscore
    · simp [Kaleido.isWordPart, Char.isAlphanum, letter]
    · simp [Kaleido.isWordPart, underscore]
  · exact part c later

theorem toList_functionName (op : Char) :
    (Role.unary.functionName op).toList = ['u', 'n', 'a', 'r', 'y', op] ∧
      (Role.binary.functionName op).toList = ['b', 'i', 'n', 'a', 'r', 'y', op] := by
  simp [Role.functionName]

/-- The names of binary operators tell the operators apart. -/
theorem functionName_binary_inj {op other : Char}
    (same : Role.binary.functionName op = Role.binary.functionName other) : op = other := by
  have := congrArg String.toList same
  simpa [toList_functionName] using this

theorem functionName_unary_ne_binary (op other : Char) :
    Role.unary.functionName op ≠ Role.binary.functionName other := by
  intro same
  have := congrArg String.toList same
  simp [toList_functionName] at this

/-- The name of an operator is no word. -/
theorem functionName_ne_of_word {name : String} (word : IsIdentifier name)
    {op : Char} (mark : ¬ isWordPart op) :
    name ≠ Role.unary.functionName op ∧ name ≠ Role.binary.functionName op := by
  have parts := word.1.isWordPart
  constructor
  · rintro rfl
    exact mark (parts op (by simp [toList_functionName]))
  · rintro rfl
    exact mark (parts op (by simp [toList_functionName]))

theorem operator?_ofOperator {role : Role} (operator : role ≠ .function) (op : Char)
    (params : List String) (precedence : Option Int) (position : Position) :
    (Prototype.ofOperator role op params precedence position).operator? = some op := by
  cases role with
  | function => exact absurd rfl operator
  | unary => simp [Prototype.operator?, Prototype.ofOperator, toList_functionName]
  | binary => simp [Prototype.operator?, Prototype.ofOperator, toList_functionName]

/-! ## Readers -/

namespace Grammar

variable {s : Session}

theorem precedenceOf?_range {numeral : String} {value : Int}
    (given : precedenceOf? numeral = some value) : 1 ≤ value ∧ value ≤ 100 := by
  unfold precedenceOf? leastPrecedence greatestPrecedence at given
  simp only [Bool.and_eq_true, decide_eq_true_eq] at given
  split at given
  · next bounds =>
    obtain rfl := Option.some.inj given
    omega
  · cases given

theorem optionalPrecedence_range {precedence : Option Int}
    (read : (optionalPrecedence s).result = .ok precedence) :
    ∀ value, precedence = some value → 1 ≤ value ∧ value ≤ 100 := by
  unfold optionalPrecedence at read
  split at read
  · obtain ⟨found, numeral, rfl⟩ := (Reply.result_map_eq_ok_iff ..).mp read
    obtain ⟨token, -, given⟩ := (Reply.result_andThen_eq_ok_iff ..).mp numeral
    rintro value ⟨⟩
    split at given
    · next value same =>
      obtain rfl := Except.ok.inj given
      exact precedenceOf?_range same
    · cases given
  · cases read
    rintro value ⟨⟩

/-- The operator that a prototype declares is a mark, and not the one for assignment. -/
theorem declaredOperator_mark (lexed : s.Lexed) {op : Char}
    (read : (declaredOperator s).result = .ok op) : IsOperator op ∧ op ≠ '=' := by
  unfold declaredOperator at read
  split at read
  · cases read
  · cases read
  · next found named other =>
    obtain ⟨token, -, rfl⟩ := (Reply.result_map_eq_ok_iff ..).mp read
    have marked := lexed.current.operator named
    exact ⟨marked.1, fun same => other (marked.2.mp same)⟩

theorem declaredBinary_mark (lexed : s.Lexed) {op : Char} {precedence : Option Int}
    (read : (declaredBinary s).result = .ok (op, precedence)) :
    IsOperator op ∧ op ≠ '=' ∧ op ∉ builtinOperators ∧
      ∀ value, precedence = some value → 1 ≤ value ∧ value ≤ 100 := by
  obtain ⟨found, operator, rest⟩ := (Reply.result_andThen_eq_ok_iff ..).mp read
  split at rest
  · cases rest
  · next free =>
    obtain ⟨given, optional, same⟩ := (Reply.result_map_eq_ok_iff ..).mp rest
    obtain ⟨rfl, rfl⟩ := Prod.mk.inj same
    have marked := declaredOperator_mark lexed operator
    exact ⟨marked.1, marked.2, free, optionalPrecedence_range optional⟩

/-- Parameters are identifiers. -/
theorem parameters_identifiers (lexed : s.Lexed) {params : List String}
    (read : (parameters s).result = .ok params) : Identifiers params := by
  obtain ⟨opening, -, rest⟩ := (Reply.result_andThen_eq_ok_iff ..).mp read
  obtain ⟨closing, -, rfl⟩ := (Reply.result_map_eq_ok_iff ..).mp rest
  intro name member
  obtain ⟨token, passed, rfl⟩ := List.mem_map.mp member
  rw [Session.passWhile] at passed
  have kind := List.mem_takeWhile_imp passed
  rw [decide_eq_true_eq] at kind
  have ahead := (List.takeWhile_prefix _).subset passed
  exact (lexed.follows (s.expect _ _).follows token ahead).identifier kind

theorem operands_form (lexed : s.Lexed) {role : Role} {op : Char} {precedence : Option Int}
    {expected : Nat} {position : Position} {found : Prototype}
    (read : (operands role op precedence expected position s).result = .ok found) :
    ∃ params, found = .ofOperator role op params precedence position ∧ Identifiers params ∧
      params.length = expected := by
  obtain ⟨params, given, rest⟩ := (Reply.result_andThen_eq_ok_iff ..).mp read
  split at rest
  · next enough =>
    obtain rfl := Except.ok.inj rest
    exact ⟨params, rfl, parameters_identifiers lexed given, enough⟩
  · cases rest

/-- Every prototype that can be read is of one of the forms of prototypes. -/
theorem prototype_declarable (lexed : s.Lexed) {found : Prototype}
    (read : (prototype s).result = .ok found) : found.Declarable := by
  have after := lexed.follows s.advance_follows
  unfold prototype at read
  simp only at read
  split at read
  · obtain ⟨_, -, rest⟩ := (Reply.result_andThen_eq_ok_iff ..).mp read
    obtain ⟨op, operator, rest⟩ := (Reply.result_andThen_eq_ok_iff ..).mp rest
    obtain ⟨params, rfl, names, one⟩ :=
      operands_form (after.follows (declaredOperator s.advance).follows) rest
    have marked := declaredOperator_mark after operator
    exact .unary marked.1 marked.2 names one
  · obtain ⟨_, -, rest⟩ := (Reply.result_andThen_eq_ok_iff ..).mp read
    obtain ⟨⟨op, precedence⟩, operator, rest⟩ := (Reply.result_andThen_eq_ok_iff ..).mp rest
    obtain ⟨params, rfl, names, two⟩ :=
      operands_form (after.follows (declaredBinary s.advance).follows) rest
    obtain ⟨mark, other, free, range⟩ := declaredBinary_mark after operator
    exact .binary mark other free names two range
  · next name =>
    obtain ⟨_, -, rest⟩ := (Reply.result_andThen_eq_ok_iff ..).mp read
    obtain ⟨params, given, rfl⟩ := (Reply.result_map_eq_ok_iff ..).mp rest
    exact .function (lexed.current.identifier name) (parameters_identifiers after given)
  · cases read

end Grammar

end Kaleido
