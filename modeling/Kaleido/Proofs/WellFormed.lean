import Kaleido.Proofs.Derivation
import Kaleido.Proofs.Lexemes

/-!
# Well-formed expressions

What every expression read from a source is like: its names are identifiers, its operators are
marks other than that of assignment, its bodies are single expressions. Main statement: spelled
tokens derive well-formed expressions only, so the reader answers with no others.
-/
namespace Kaleido

namespace Expr

/-- That an expression is one that a source can have, with numbers and binary operators of certain
kinds. -/
inductive WellFormed (numbers : Binary64 → Prop) (operators : Char → Prop) : Expr → Prop where
  | number {value : Binary64} (allowed : numbers value) :
      WellFormed numbers operators (.number value)
  | var {name : String} (identifier : IsIdentifier name) : WellFormed numbers operators (.var name)
  | assign {target : String} {value : Expr} (identifier : IsIdentifier target)
      (inValue : WellFormed numbers operators value) :
      WellFormed numbers operators (.assign target value)
  | binary {op : Char} {left right : Expr} (known : operators op) (other : op ≠ '=')
      (inLeft : WellFormed numbers operators left) (inRight : WellFormed numbers operators right) :
      WellFormed numbers operators (.binary op left right)
  | unary {op : Char} {operand : Expr} (mark : IsOperator op) (other : op ≠ '=')
      (inOperand : WellFormed numbers operators operand) :
      WellFormed numbers operators (.unary op operand)
  | call {callee : String} {arguments : List Expr} (identifier : IsIdentifier callee)
      (inArguments : ∀ argument ∈ arguments, WellFormed numbers operators argument) :
      WellFormed numbers operators (.call callee arguments)
  | conditional {condition whenTrue whenFalse : Expr}
      (inCondition : WellFormed numbers operators condition)
      (inTrue : WellFormed numbers operators whenTrue)
      (inFalse : WellFormed numbers operators whenFalse) :
      WellFormed numbers operators (.conditional condition [whenTrue] [whenFalse])
  | loop {counter : String} {first last body : Expr} {step : Option Expr}
      (identifier : IsIdentifier counter) (inFirst : WellFormed numbers operators first)
      (inLast : WellFormed numbers operators last)
      (inStep : ∀ expr ∈ step, WellFormed numbers operators expr)
      (inBody : WellFormed numbers operators body) :
      WellFormed numbers operators (.loop counter first last step [body])
  | locals {bindings : List (String × Option Expr)} {body : Expr} (some : bindings ≠ [])
      (identifiers : ∀ binding ∈ bindings, IsIdentifier binding.1)
      (inBindings : ∀ binding ∈ bindings, ∀ initial ∈ binding.2,
        WellFormed numbers operators initial)
      (inBody : WellFormed numbers operators body) :
      WellFormed numbers operators (.locals bindings body)

/-- That an expression is a part of another one, or that one itself. -/
inductive PartOf (part : Expr) : Expr → Prop where
  | self : PartOf part part
  | assign {target : String} {value : Expr} (inValue : PartOf part value) :
      PartOf part (.assign target value)
  | left {op : Char} {left right : Expr} (inLeft : PartOf part left) :
      PartOf part (.binary op left right)
  | right {op : Char} {left right : Expr} (inRight : PartOf part right) :
      PartOf part (.binary op left right)
  | unary {op : Char} {operand : Expr} (inOperand : PartOf part operand) :
      PartOf part (.unary op operand)
  | argument {callee : String} {arguments : List Expr} {argument : Expr}
      (member : argument ∈ arguments) (inArgument : PartOf part argument) :
      PartOf part (.call callee arguments)
  | condition {condition : Expr} {whenTrue whenFalse : List Expr}
      (inCondition : PartOf part condition) : PartOf part (.conditional condition whenTrue whenFalse)
  | whenTrue {condition expr : Expr} {whenTrue whenFalse : List Expr} (member : expr ∈ whenTrue)
      (inExpr : PartOf part expr) : PartOf part (.conditional condition whenTrue whenFalse)
  | whenFalse {condition expr : Expr} {whenTrue whenFalse : List Expr} (member : expr ∈ whenFalse)
      (inExpr : PartOf part expr) : PartOf part (.conditional condition whenTrue whenFalse)
  | first {counter : String} {first last : Expr} {step : Option Expr} {body : List Expr}
      (inFirst : PartOf part first) : PartOf part (.loop counter first last step body)
  | last {counter : String} {first last : Expr} {step : Option Expr} {body : List Expr}
      (inLast : PartOf part last) : PartOf part (.loop counter first last step body)
  | step {counter : String} {first last expr : Expr} {step : Option Expr} {body : List Expr}
      (member : expr ∈ step) (inExpr : PartOf part expr) :
      PartOf part (.loop counter first last step body)
  | body {counter : String} {first last expr : Expr} {step : Option Expr} {body : List Expr}
      (member : expr ∈ body) (inExpr : PartOf part expr) :
      PartOf part (.loop counter first last step body)
  | initial {name : String} {expr body : Expr} {initial : Option Expr}
      {bindings : List (String × Option Expr)} (member : (name, initial) ∈ bindings)
      (given : expr ∈ initial) (inExpr : PartOf part expr) : PartOf part (.locals bindings body)
  | within {bindings : List (String × Option Expr)} {body : Expr} (inBody : PartOf part body) :
      PartOf part (.locals bindings body)

variable {numbers : Binary64 → Prop} {operators : Char → Prop}

/-- The parts of a well-formed expression are well-formed. -/
theorem WellFormed.part {part whole : Expr} (wellFormed : whole.WellFormed numbers operators)
    (inside : part.PartOf whole) : part.WellFormed numbers operators := by
  induction inside with
  | self => exact wellFormed
  | assign _ ih =>
    cases wellFormed with
    | assign _ inValue => exact ih inValue
  | left _ ih =>
    cases wellFormed with
    | binary _ _ inLeft _ => exact ih inLeft
  | right _ ih =>
    cases wellFormed with
    | binary _ _ _ inRight => exact ih inRight
  | unary _ ih =>
    cases wellFormed with
    | unary _ _ inOperand => exact ih inOperand
  | argument member _ ih =>
    cases wellFormed with
    | call _ inArguments => exact ih (inArguments _ member)
  | condition _ ih =>
    cases wellFormed with
    | conditional inCondition _ _ => exact ih inCondition
  | whenTrue member _ ih =>
    cases wellFormed with
    | conditional _ inTrue _ => exact ih (List.mem_singleton.mp member ▸ inTrue)
  | whenFalse member _ ih =>
    cases wellFormed with
    | conditional _ _ inFalse => exact ih (List.mem_singleton.mp member ▸ inFalse)
  | first _ ih =>
    cases wellFormed with
    | loop _ inFirst _ _ _ => exact ih inFirst
  | last _ ih =>
    cases wellFormed with
    | loop _ _ inLast _ _ => exact ih inLast
  | step member _ ih =>
    cases wellFormed with
    | loop _ _ _ inStep _ => exact ih (inStep _ member)
  | body member _ ih =>
    cases wellFormed with
    | loop _ _ _ _ inBody => exact ih (List.mem_singleton.mp member ▸ inBody)
  | initial member given _ ih =>
    cases wellFormed with
    | locals _ _ inBindings _ => exact ih (inBindings _ member _ given)
  | within _ ih =>
    cases wellFormed with
    | locals _ _ _ inBody => exact ih inBody

end Expr

namespace Grammar

/-- The chunks between commas are among the tokens that they are divided in. -/
theorem Separated.subset {chunks : List (List Token)} {tokens : List Token}
    (separated : Separated chunks tokens) : ∀ chunk ∈ chunks, chunk ⊆ tokens := by
  induction separated with
  | none => simp
  | one chunk => simp
  | more kind rest ih =>
    intro other member
    rcases List.mem_cons.mp member with rfl | later
    · exact List.subset_append_left _ _
    · intro token found
      have inRest := ih other later found
      simp [inRest]

/-- That a token is spelled as its kind demands and, if it is a numeral, gives an allowed number. -/
def Allowed (numbers : Binary64 → Prop) (token : Token) : Prop :=
  token.Spelled ∧ (token.kind = .number →
    ∀ value, Binary64.ofText? token.lexeme = some value → numbers value)

/-- Allowed tokens derive well-formed expressions only. -/
theorem Derives.wellFormed {numbers : Binary64 → Prop} {table : Operators} {tokens : List Token}
    {expr : Expr} (derives : Derives table tokens expr)
    (allowed : ∀ token ∈ tokens, Allowed numbers token) :
    expr.WellFormed numbers (table.contains ·) := by
  induction derives with
  | @number token value kind read => exact .number ((allowed token (by simp)).2 kind value read)
  | @var token kind => exact .var ((allowed token (by simp)).1.identifier kind)
  | @call name opening closing parts tokens kind opens closes divided inner ih =>
    refine .call ((allowed name (by simp)).1.identifier kind) fun argument member => ?_
    obtain ⟨part, listed, rfl⟩ := List.mem_map.mp member
    have inside : part.1 ⊆ tokens := divided.subset _ (List.mem_map_of_mem listed)
    exact ih part listed fun token found => allowed token (by simp [inside found])
  | parenthesized opens closes inner ih =>
    exact ih fun token found => allowed token (by simp [found])
  | @unary token op tokens operand named other inner ih =>
    have marked := (allowed token (by simp)).1.operator named
    refine .unary marked.1 (fun same => other (marked.2.mp same)) ?_
    exact ih fun token found => allowed token (by simp [found])
  | binary named other known leftSide rightSide ihLeft ihRight =>
    refine .binary known other ?_ ?_
    · exact ihLeft fun token found => allowed token (by simp [found])
    · exact ihRight fun token found => allowed token (by simp [found])
  | assign named leftSide rightSide ihLeft ihRight =>
    have target := ihLeft fun token found => allowed token (by simp [found])
    have value := ihRight fun token found => allowed token (by simp [found])
    cases target with
    | var identifier => exact .assign identifier value
  | conditional begins continues turns inFirst inSecond inThird ihFirst ihSecond ihThird =>
    refine .conditional ?_ ?_ ?_
    · exact ihFirst fun token found => allowed token (by simp [found])
    · exact ihSecond fun token found => allowed token (by simp [found])
    · exact ihThird fun token found => allowed token (by simp [found])
  | @loop start counter equal comma middle initial limit step inner first last body begins kind
      assigns divides continues inFirst inLast marked inStep inBody ihFirst ihLast ihStep ihBody =>
    refine .loop ((allowed counter (by simp)).1.identifier kind) ?_ ?_ ?_ ?_
    · exact ihFirst fun token found => allowed token (by simp [found])
    · exact ihLast fun token found => allowed token (by simp [found])
    · intro expr given
      obtain ⟨clause, held, rfl⟩ := Option.map_eq_some_iff.mp given
      subst held
      exact ihStep clause rfl fun token found => allowed token (by simp [clauseTokens, found])
    · exact ihBody fun token found => allowed token (by simp [found])
  | @locals start middle parts tokens inner body begins continues some kinds marked divided inParts
      inBody ihParts ihBody =>
    have inside : ∀ part ∈ parts, part.1 :: clauseTokens part.2 ⊆ tokens :=
      fun part listed => divided.subset _ (List.mem_map_of_mem listed)
    refine .locals (by simpa using some) ?_ ?_ ?_
    · intro binding member
      obtain ⟨part, listed, rfl⟩ := List.mem_map.mp member
      have token := inside part listed (List.mem_cons_self ..)
      exact (allowed part.1 (by simp [token])).1.identifier (kinds part listed)
    · intro binding member initial given
      obtain ⟨⟨name, clause⟩, listed, rfl⟩ := List.mem_map.mp member
      obtain ⟨clause, rfl, rfl⟩ := Option.map_eq_some_iff.mp given
      refine ihParts _ listed clause rfl fun token found => allowed token ?_
      have token := inside _ listed (show token ∈ _ by simp [clauseTokens, found])
      simp [token]
    · exact ihBody fun token found => allowed token (by simp [found])

end Grammar

end Kaleido
