import Kaleido.Proofs.Extent
import Kaleido.Proofs.Spelling

/-!
# Expressions read back

What a reader does before the words of an expression, said without their places. A part in
parentheses is read whatever follows, so each kind of expression is read back if its parts are. Main
statement: in every session of a source, the text of a well-formed expression is read as that
expression and to its end.
-/
namespace Kaleido

/-! ## Readers before words -/

/-- The kind of the first of some words, that of the end if there is none. -/
def Word.kindAhead : List Word → Kind
  | [] => .finish
  | word :: _ => word.kind

/-- That a session stands before some words, with the operators of a table. -/
structure Session.Before (s : Session) (table : Operators) (words : List Word) : Prop where
  operators : s.operators = table
  words : s.ahead.map Token.word = words

namespace Session.Before

variable {s : Session} {table : Operators} {word : Word} {words rest : List Word}

theorem kind (before : s.Before table words) : s.current.kind = Word.kindAhead words := by
  obtain ⟨-, rfl⟩ := before
  unfold current
  cases s.ahead with
  | nil => rfl
  | cons token rest => rfl

theorem lexeme (before : s.Before table (word :: rest)) : s.current.lexeme = word.text := by
  obtain ⟨token, tokens, same, rfl, -⟩ := List.map_eq_cons_iff.mp before.words
  simp [current, same, Token.word]

theorem advance (before : s.Before table (word :: rest)) : s.advance.Before table rest := by
  refine ⟨before.operators, ?_⟩
  rw [Session.advance, List.map_tail]
  exact congrArg List.tail before.words

theorem operator? {op : Char} (mark : IsOperator op)
    (before : s.Before table (.operator op :: rest)) : s.current.operator? = some op := by
  have kind : s.current.kind = .ofOperator op := before.kind
  rw [Token.operator?, kind, before.lexeme, if_pos (Kind.ofOperator_spells mark).1]
  simp [Word.operator]

/-- What names no operator does not bind. -/
theorem precedence (before : s.Before table words)
    (stops : (Word.kindAhead words).isOperator = false) : s.precedence = -1 := by
  rw [← before.kind] at stops
  simp [Session.precedence, Token.operator?, stops]

end Session.Before

namespace Grammar

/-- That a reader answers and stops before some words, with the operators of a table. -/
structure Accepts {s : Session} {α : Type} (reply : Reply s α) (a : α) (table : Operators)
    (rest : List Word) : Prop where
  result : reply.result = .ok a
  after : reply.after.Before table rest

section Accepts

variable {s : Session} {α β : Type} {a : α} {b : β} {table : Operators} {rest left : List Word}

theorem accepts_pure (before : s.Before table rest) : Accepts (.pure s a) a table rest :=
  ⟨rfl, before⟩

theorem accepts_map {reply : Reply s α} (accepts : Accepts reply a table rest) (f : α → β) :
    Accepts (reply.map f) (f a) table rest :=
  ⟨by rw [Reply.result_map, accepts.result]; rfl, accepts.after⟩

theorem accepts_advance {reply : Reply s.advance α} (accepts : Accepts reply a table rest) :
    Accepts (reply.since s.advance_follows) a table rest :=
  ⟨accepts.result, accepts.after⟩

theorem accepts_andThen {reply : Reply s α}
    {next : α → (after : Session) → after.remaining ≤ s.remaining → Reply after β}
    (accepts : Accepts reply a table left)
    (more : ∀ after le, after.Before table left → Accepts (next a after le) b table rest) :
    Accepts (reply.andThen next) b table rest := by
  obtain ⟨result, after⟩ := more reply.after reply.follows.le accepts.after
  refine ⟨(Reply.result_andThen_eq_ok_iff ..).mpr ⟨a, accepts.result, result⟩, ?_⟩
  rw [Reply.after_andThen_of_ok accepts.result]
  exact after

theorem accepts_take {word : Word} (before : s.Before table (word :: rest)) :
    Accepts s.take s.current table rest :=
  ⟨rfl, before.advance⟩

theorem accepts_expect {word : Word} {wanted : Kind → Bool} {expected : String}
    (before : s.Before table (word :: rest)) (fits : wanted word.kind) :
    Accepts (s.expect wanted expected) s.current table rest := by
  rw [Session.expect, if_pos (by rw [before.kind]; exact fits)]
  exact accepts_take before

theorem accepts_expectKeyword {set : Keyword} (before : s.Before table (.keyword set :: rest)) :
    Accepts (s.expectKeyword set) s.current table rest :=
  accepts_expect before (by simp [Word.keyword])

end Accepts

/-! ## Parts in parentheses -/

/-- That words after an expression do not continue it. -/
structure Stops (rest : List Word) : Prop where
  operator : (Word.kindAhead rest).isOperator = false
  call : Word.kindAhead rest ≠ .leftParen

/-- That an expression is read from its words, with the operators of a table. -/
def ReadsBack (table : Operators) (expr : Expr) : Prop :=
  ∀ {s : Session} {rest : List Word}, s.Before table (expr.spelling ++ rest) → Stops rest →
    Accepts (expression s) expr table rest

section Parts

variable {table : Operators} {expr : Expr} {s : Session} {rest : List Word}

theorem unary_eq_primary {word : Word} (before : s.Before table (word :: rest))
    (plain : word.kind.isOperator = false) : unary s = primary s := by
  have kind : s.current.kind = word.kind := before.kind
  rw [unary]
  split
  · next op named => simp [Token.operator?, kind, plain] at named
  · rfl

/-- An operand that no operator follows is an expression. -/
theorem accepts_expression (accepts : Accepts (unary s) expr table rest)
    (stops : (Word.kindAhead rest).isOperator = false) :
    Accepts (expression s) expr table rest := by
  rw [expression]
  refine accepts_andThen accepts fun after _ before => ?_
  have loose : after.precedence < 0 := by
    rw [before.precedence stops]
    decide
  rw [operations, if_pos loose]
  exact accepts_pure before

/-- An expression in parentheses is an operand, whatever follows. -/
theorem accepts_operand (readsBack : ReadsBack table expr)
    (before : s.Before table (Word.wrapped expr.spelling ++ rest)) :
    Accepts (unary s) expr table rest := by
  rw [Word.wrapped_append] at before
  rw [unary_eq_primary before rfl, primary_eq, before.kind]
  refine accepts_advance ?_
  rw [parenthesized]
  refine accepts_andThen (readsBack before.advance ⟨rfl, by simp [Word.kindAhead]⟩)
    fun after _ before => ?_
  rw [closing, if_pos (show _ = Kind.rightParen from before.kind)]
  exact accepts_map (accepts_take before) _

theorem accepts_wrapped (readsBack : ReadsBack table expr)
    (before : s.Before table (Word.wrapped expr.spelling ++ rest))
    (stops : (Word.kindAhead rest).isOperator = false) : Accepts (expression s) expr table rest :=
  accepts_expression (accepts_operand readsBack before) stops

/-- An operator and a part after an operand are an operation, if no operator follows. -/
theorem accepts_operations {op : Char} {left right : Expr} (mark : IsOperator op)
    (binds : 0 < table.tightness op) (readsBack : ReadsBack table right)
    (operates : ∀ position, operate op left right position = .ok expr)
    (before : s.Before table (.operator op :: (Word.wrapped right.spelling ++ rest)))
    (stops : (Word.kindAhead rest).isOperator = false) :
    Accepts (operations 0 left s) expr table rest := by
  have named := before.operator? mark
  have tight : 0 < s.precedence := by
    rw [← before.operators] at binds
    rwa [precedence_eq_tightness named binds]
  have operand : Accepts (unary s.advance) right table rest :=
    accepts_operand readsBack before.advance
  -- Nothing that follows binds, so the operand takes no more and the operation is the last one.
  have loose : (unary s.advance).after.precedence = -1 := operand.after.precedence stops
  have least : 0 ≤ rightLeast op s.precedence := by
    unfold rightLeast
    split <;> omega
  have answered : answer (operations 0 left s) = (.ok expr, (unary s.advance).after) := by
    rw [answer_operations_link left named (by omega) operand.result,
      answer_operations_stop right (by omega)]
    simp only [operates]
    exact answer_operations_stop expr (by omega)
  have after : (operations 0 left s).after = (unary s.advance).after := congrArg Prod.snd answered
  exact ⟨congrArg Prod.fst answered, after ▸ operand.after⟩

/-- An operator between two parts. -/
theorem accepts_operation {op : Char} {left right : Expr} (mark : IsOperator op)
    (binds : 0 < table.tightness op) (inLeft : ReadsBack table left)
    (inRight : ReadsBack table right)
    (operates : ∀ position, operate op left right position = .ok expr)
    (before : s.Before table (Word.wrapped left.spelling ++
      Word.operator op :: Word.wrapped right.spelling ++ rest))
    (stops : (Word.kindAhead rest).isOperator = false) :
    Accepts (expression s) expr table rest := by
  rw [List.append_assoc] at before
  rw [expression]
  refine accepts_andThen (accepts_operand inLeft before) fun after _ before => ?_
  exact accepts_operations mark binds inRight operates before stops

end Parts

/-! ## Lists of parts -/

section Lists

variable {table : Operators} {s : Session} {rest : List Word}

/-- An expression after a mark, or nothing if what follows does not begin with the mark. -/
theorem accepts_optional {mark : Word} {clause : Option Expr}
    (inClause : ∀ expr ∈ clause, ReadsBack table expr)
    (before : s.Before table (Expr.clauseSpelling mark clause ++ rest))
    (stops : (Word.kindAhead rest).isOperator = false) (other : Word.kindAhead rest ≠ mark.kind) :
    Accepts (optional mark.kind s) clause table rest := by
  rw [optional]
  cases clause with
  | none =>
    rw [Expr.clauseSpelling, List.nil_append] at before
    rw [if_neg (by rwa [before.kind])]
    exact accepts_pure before
  | some expr =>
    rw [Expr.clauseSpelling, List.cons_append] at before
    rw [if_pos (show _ = mark.kind from before.kind)]
    refine accepts_advance (accepts_map ?_ some)
    exact accepts_wrapped (inClause expr rfl) before.advance stops

theorem accepts_arguments {arguments : List Expr}
    (inArguments : ∀ argument ∈ arguments, ReadsBack table argument) (some : arguments ≠ [])
    (before : s.Before table
      (Word.listed (Expr.partSpellings arguments) ++ ⟨.rightParen, ")"⟩ :: rest)) :
    Accepts (Grammar.arguments s) arguments table rest := by
  induction arguments generalizing s with
  | nil => exact absurd rfl some
  | cons argument more ih =>
    have inFirst : ReadsBack table argument := inArguments argument (by simp)
    rw [Grammar.arguments]
    cases more with
    | nil =>
      refine accepts_andThen (accepts_wrapped inFirst before rfl) fun after _ before => ?_
      have kind : after.current.kind = .rightParen := before.kind
      split
      · exact accepts_map (accepts_take before) _
      · next comma => cases kind.symm.trans comma
      · next other _ => exact absurd kind other
    | cons second others =>
      simp only [Expr.partSpellings, Word.listed, List.append_assoc, List.cons_append] at before
      refine accepts_andThen (accepts_wrapped inFirst before rfl) fun after _ before => ?_
      have kind : after.current.kind = .comma := before.kind
      split
      · next closes => cases kind.symm.trans closes
      · refine accepts_advance (accepts_map ?_ _)
        exact ih (fun argument member => inArguments argument (by simp [member])) (by simp)
          before.advance
      · next _ other => exact absurd kind other

/-- A local variable is read with its initial value, then the others if a comma follows. -/
theorem accepts_binding {name : String} {initial : Option Expr}
    {bindings : List (String × Option Expr)} {left : List Word}
    (inInitial : ∀ expr ∈ initial, ReadsBack table expr)
    (before : s.Before table (Expr.bindingSpelling (name, initial) ++ left))
    (stops : (Word.kindAhead left).isOperator = false)
    (more : ∀ after : Session, after.Before table left →
      Accepts (if _ : after.current.kind = .comma then
          ((Grammar.bindings after.advance).map ((name, initial) :: ·)).since after.advance_follows
        else .pure after [(name, initial)]) bindings table rest) :
    Accepts (Grammar.bindings s) bindings table rest := by
  rw [Expr.bindingSpelling, List.cons_append] at before
  rw [Grammar.bindings]
  refine accepts_andThen (accepts_expect before (by simp [Word.name])) fun after _ clause => ?_
  rw [before.lexeme]
  refine accepts_andThen (accepts_optional inInitial clause stops ?_) fun after _ before => ?_
  · intro equal
    rw [equal] at stops
    cases stops
  · exact more after before

theorem accepts_bindings {bindings : List (String × Option Expr)}
    (inBindings : ∀ binding ∈ bindings, ∀ initial ∈ binding.2, ReadsBack table initial)
    (some : bindings ≠ [])
    (before : s.Before table
      (Word.listed (Expr.bindingSpellings bindings) ++ .keyword .within :: rest)) :
    Accepts (Grammar.bindings s) bindings table (.keyword .within :: rest) := by
  induction bindings generalizing s with
  | nil => exact absurd rfl some
  | cons binding more ih =>
    have inFirst : ∀ expr ∈ binding.2, ReadsBack table expr := inBindings binding (by simp)
    cases more with
    | nil =>
      rw [Expr.bindingSpellings, Expr.bindingSpellings, Word.listed] at before
      refine accepts_binding inFirst before rfl fun after before => ?_
      rw [dif_neg (by rw [before.kind]; simp [Word.kindAhead, Word.keyword])]
      exact accepts_pure before
    | cons second others =>
      simp only [Expr.bindingSpellings, Word.listed, List.append_assoc, List.cons_append] at before
      refine accepts_binding inFirst before rfl fun after before => ?_
      rw [dif_pos (show _ = Kind.comma from before.kind)]
      refine accepts_advance (accepts_map ?_ _)
      exact ih (fun binding member => inBindings binding (by simp [member])) (by simp)
        before.advance

end Lists

/-! ## Expressions -/

section Expressions

variable {table : Operators}

theorem readsBack_number {value : Binary64} (allowed : Expr.Writable value) :
    ReadsBack table (.number value) := by
  intro s rest before stops
  refine accepts_expression ?_ stops.operator
  have read : Binary64.ofText? s.current.lexeme = some value := by
    rw [before.lexeme]
    exact Binary64.ofText?_text allowed.1 allowed.2
  rw [unary_eq_primary before rfl, primary_eq, before.kind]
  simp only [Grammar.number, read]
  exact accepts_map (accepts_take before) _

theorem readsBack_var (name : String) : ReadsBack table (.var name) := by
  intro s rest before stops
  refine accepts_expression ?_ stops.operator
  rw [unary_eq_primary before rfl, primary_eq, before.kind, before.lexeme]
  refine accepts_advance ?_
  have alone : s.advance.current.kind ≠ .leftParen := by
    rw [before.advance.kind]
    exact stops.call
  rw [application, if_neg alone]
  exact accepts_pure before.advance

theorem readsBack_assign {target : String} {value : Expr} (assigns : 0 < table.tightness '=')
    (inValue : ReadsBack table value) : ReadsBack table (.assign target value) := by
  intro s rest before stops
  exact accepts_operation ⟨.equal, rfl, rfl⟩ assigns (readsBack_var target) inValue (fun _ => rfl)
    before stops.operator

theorem readsBack_binary {op : Char} {left right : Expr} (mark : IsOperator op) (other : op ≠ '=')
    (binds : 0 < table.tightness op) (inLeft : ReadsBack table left)
    (inRight : ReadsBack table right) : ReadsBack table (.binary op left right) := by
  intro s rest before stops
  refine accepts_operation mark binds inLeft inRight (fun position => ?_) before stops.operator
  simp [operate, other]

theorem readsBack_unary {op : Char} {operand : Expr} (mark : IsOperator op) (other : op ≠ '=')
    (inOperand : ReadsBack table operand) : ReadsBack table (.unary op operand) := by
  intro s rest before stops
  refine accepts_expression ?_ stops.operator
  rw [Expr.spelling, List.cons_append] at before
  have kind : s.current.kind ≠ .equal := by
    rw [before.kind]
    exact fun equal => other ((Kind.ofOperator_spells mark).2.2.mp equal)
  have named := before.operator? mark
  -- Only here the first word is an operator, so the operand is not read as a primary expression.
  rw [Grammar.unary]
  split
  · next found same =>
    obtain rfl := Option.some.inj (named.symm.trans same)
    rw [if_neg kind]
    refine accepts_advance (accepts_map ?_ _)
    exact accepts_operand inOperand before.advance
  · next none => cases named.symm.trans none

theorem readsBack_call {callee : String} {arguments : List Expr}
    (inArguments : ∀ argument ∈ arguments, ReadsBack table argument) :
    ReadsBack table (.call callee arguments) := by
  intro s rest before stops
  refine accepts_expression ?_ stops.operator
  rw [Expr.spelling, List.cons_append, Word.wrapped_append] at before
  have inside := before.advance.advance
  rw [unary_eq_primary before rfl, primary_eq, before.kind, before.lexeme]
  refine accepts_advance ?_
  rw [application, if_pos (show _ = Kind.leftParen from before.advance.kind)]
  refine accepts_advance ?_
  cases arguments with
  | nil =>
    rw [if_pos (show _ = Kind.rightParen from inside.kind)]
    exact accepts_map (accepts_take inside) _
  | cons argument more =>
    have kind : s.advance.advance.current.kind = .leftParen := by
      rw [inside.kind]
      cases more with
      | nil => rfl
      | cons second others => rfl
    rw [if_neg (by rw [kind]; decide)]
    exact accepts_map (accepts_arguments inArguments (by simp) inside) _

theorem readsBack_conditional {condition whenTrue whenFalse : Expr}
    (inCondition : ReadsBack table condition) (inTrue : ReadsBack table whenTrue)
    (inFalse : ReadsBack table whenFalse) :
    ReadsBack table (.conditional condition [whenTrue] [whenFalse]) := by
  intro s rest before stops
  refine accepts_expression ?_ stops.operator
  simp only [Expr.spelling, Expr.partSpellings, List.flatten_cons, List.flatten_nil,
    List.append_nil, List.append_assoc, List.cons_append] at before
  rw [unary_eq_primary before rfl, primary_eq, before.kind]
  refine accepts_advance ?_
  rw [Grammar.conditional]
  refine accepts_andThen (accepts_wrapped inCondition before.advance rfl) fun _ _ before => ?_
  refine accepts_andThen (accepts_expectKeyword before) fun _ _ before => ?_
  refine accepts_andThen (accepts_wrapped inTrue before rfl) fun _ _ before => ?_
  refine accepts_andThen (accepts_expectKeyword before) fun _ _ before => ?_
  exact accepts_map (accepts_wrapped inFalse before stops.operator) _

theorem readsBack_loop {counter : String} {first last body : Expr} {step : Option Expr}
    (inFirst : ReadsBack table first) (inLast : ReadsBack table last)
    (inStep : ∀ expr ∈ step, ReadsBack table expr) (inBody : ReadsBack table body) :
    ReadsBack table (.loop counter first last step [body]) := by
  intro s rest before stops
  refine accepts_expression ?_ stops.operator
  simp only [Expr.spelling, Expr.partSpellings, List.flatten_cons, List.flatten_nil,
    List.append_nil, List.append_assoc, List.cons_append] at before
  rw [unary_eq_primary before rfl, primary_eq, before.kind]
  refine accepts_advance ?_
  have named := before.advance.lexeme
  rw [Grammar.loop]
  refine accepts_andThen (accepts_expect before.advance (by simp [Word.name])) fun _ _ before => ?_
  rw [named]
  refine accepts_andThen (accepts_expect before (by decide)) fun _ _ before => ?_
  refine accepts_andThen (accepts_wrapped inFirst before rfl) fun _ _ before => ?_
  refine accepts_andThen (accepts_expect before (by decide)) fun _ _ before => ?_
  refine accepts_andThen (accepts_wrapped inLast before ?_) fun _ _ before => ?_
  -- What follows is the comma of the step or, without a step, the keyword.
  · cases step with
    | none => rfl
    | some expr => rfl
  have other : Word.kindAhead (.keyword .within :: (Word.wrapped body.spelling ++ rest)) ≠
      Word.comma.kind := by simp [Word.kindAhead, Word.keyword, Word.comma]
  refine accepts_andThen (accepts_optional inStep before rfl other) fun _ _ before => ?_
  refine accepts_andThen (accepts_expectKeyword before) fun _ _ before => ?_
  exact accepts_map (accepts_wrapped inBody before stops.operator) _

theorem readsBack_locals {bindings : List (String × Option Expr)} {body : Expr}
    (some : bindings ≠ [])
    (inBindings : ∀ binding ∈ bindings, ∀ initial ∈ binding.2, ReadsBack table initial)
    (inBody : ReadsBack table body) : ReadsBack table (.locals bindings body) := by
  intro s rest before stops
  refine accepts_expression ?_ stops.operator
  simp only [Expr.spelling, List.append_assoc, List.cons_append] at before
  rw [unary_eq_primary before rfl, primary_eq, before.kind]
  refine accepts_advance ?_
  rw [Grammar.locals]
  refine accepts_andThen (accepts_bindings inBindings some before.advance) fun _ _ before => ?_
  refine accepts_andThen (accepts_expectKeyword before) fun _ _ before => ?_
  exact accepts_map (accepts_wrapped inBody before stops.operator) _

end Expressions

/-- A well-formed expression is read from its words wherever its operators bind. -/
theorem readsBack_of_wellFormed {table : Operators} {operators : Char → Prop} {expr : Expr}
    (wellFormed : expr.WellFormed Expr.Writable operators) (assigns : 0 < table.tightness '=')
    (marks : ∀ op, operators op → IsOperator op)
    (binds : ∀ op, operators op → 0 < table.tightness op) : ReadsBack table expr := by
  induction wellFormed with
  | number allowed => exact readsBack_number allowed
  | var _ => exact readsBack_var _
  | assign _ _ inValue => exact readsBack_assign assigns inValue
  | binary known other _ _ inLeft inRight =>
    exact readsBack_binary (marks _ known) other (binds _ known) inLeft inRight
  | unary mark other _ inOperand => exact readsBack_unary mark other inOperand
  | call _ _ inArguments => exact readsBack_call inArguments
  | conditional _ _ _ inCondition inTrue inFalse =>
    exact readsBack_conditional inCondition inTrue inFalse
  | loop _ _ _ _ _ inFirst inLast inStep inBody => exact readsBack_loop inFirst inLast inStep inBody
  | locals some _ _ _ inBindings inBody => exact readsBack_locals some inBindings inBody

end Grammar

namespace Session

/-- The session at the start of another source, with what this one has declared. -/
def turnTo (s : Session) (source : String) : Session :=
  { ofSource source with operators := s.operators, declarations := s.declarations }

theorem Consistent.tightness {s : Session} (consistent : s.Consistent) {op : Char}
    (known : s.operators.contains op) : IsOperator op ∧ 0 < s.operators.tightness op := by
  obtain ⟨precedence, entry⟩ := Option.isSome_iff_exists.mp known
  obtain ⟨mark, binds⟩ := consistent.operator entry
  refine ⟨mark, ?_⟩
  rw [Operators.tightness, Operators.precedence?, entry]
  exact binds

end Session

namespace Grammar

/-- Every well-formed expression has a spelling: in each session of a source, the text with all
parts in parentheses is read as the expression, to its end. -/
theorem expression_of_source {source : String} {s : Session} (reached : s.Reached source)
    {expr : Expr} (wellFormed : expr.WellFormed Expr.Writable (s.operators.contains ·)) :
    (expression (s.turnTo expr.source)).result = .ok expr ∧
      (expression (s.turnTo expr.source)).after.current.kind = .finish := by
  have consistent := reached.consistent
  have assigns : 0 < s.operators.tightness '=' := by
    have seeded := consistent.builtin '=' Operators.assignmentPrecedence rfl
    rw [Operators.tightness, seeded]
    decide
  have marks : ∀ op, s.operators.contains op → IsOperator op :=
    fun _ known => (consistent.tightness known).1
  have spelled := wellFormed.spelled marks
  have before : (s.turnTo expr.source).Before s.operators (expr.spelling ++ []) :=
    ⟨rfl, (Session.words_ofSource spelled).trans (List.append_nil _).symm⟩
  have readsBack : ReadsBack s.operators expr :=
    readsBack_of_wellFormed wellFormed assigns marks fun op known => (consistent.tightness known).2
  obtain ⟨result, after⟩ := readsBack before ⟨rfl, by decide⟩
  exact ⟨result, after.kind⟩

/-- Local variables, a number that is no whole one, an assignment, a unary operator and a declared
binary one. -/
theorem expression_of_source_declared :
    ∃ expr : Expr,
      expr.source = "var x = ( 1.5 ) , y in ( ( ( y ) = ( ! ( x ) ) ) | ( f ( ( x ) , ( y ) ) ) )" ∧
      expr.WellFormed Expr.Writable ((afterItems "def binary | 5 (a b) a" 1).operators.contains ·) ∧
      (expression ((afterItems "def binary | 5 (a b) a" 1).turnTo expr.source)).result = .ok expr ∧
      (expression ((afterItems "def binary | 5 (a b) a" 1).turnTo expr.source)).after.current.kind =
        .finish := by
  have x : IsIdentifier "x" := ⟨isWord_cons (by decide) (by decide), by decide⟩
  have y : IsIdentifier "y" := ⟨isWord_cons (by decide) (by decide), by decide⟩
  have f : IsIdentifier "f" := ⟨isWord_cons (by decide) (by decide), by decide⟩
  have known : (afterItems "def binary | 5 (a b) a" 1).operators.contains '|' := by decide +kernel
  have reached := Session.Reached.afterItems "def binary | 5 (a b) a" 1
  generalize afterItems "def binary | 5 (a b) a" 1 = s at known reached
  have assignment : (Expr.assign "y" (.unary '!' (.var "x"))).WellFormed Expr.Writable
      (s.operators.contains ·) :=
    .assign y (.unary ⟨.operator, rfl, '!', rfl, by decide⟩ (by decide) (.var x))
  have call : (Expr.call "f" [.var "x", .var "y"]).WellFormed Expr.Writable
      (s.operators.contains ·) := by
    refine .call f ?_
    simp [Expr.WellFormed.var x, Expr.WellFormed.var y]
  have whole : (Expr.locals [("x", some (.number ⟨0x3ff8000000000000⟩)), ("y", none)]
      (.binary '|' (.assign "y" (.unary '!' (.var "x")))
        (.call "f" [.var "x", .var "y"]))).WellFormed Expr.Writable (s.operators.contains ·) := by
    refine .locals (by simp) (by simp [x, y]) ?_ (.binary known (by decide) assignment call)
    have number : Expr.Writable ⟨0x3ff8000000000000⟩ := ⟨by decide +kernel, by decide +kernel⟩
    simp [Expr.WellFormed.number number]
  exact ⟨_, by decide +kernel, whole, expression_of_source reached whole⟩

end Grammar

end Kaleido
