import Kaleido.Proofs.Outcomes
import Kaleido.Proofs.Registration
import Kaleido.Proofs.Rescanning
import Kaleido.Proofs.Spelling

/-!
# The forms of items

What is handed on after it was read can be taken apart without asking again whether it makes sense:
its names are words, its operators can be used as they are, its bodies are there. Main statement:
every item that is read from a source has a prototype of one of the forms of prototypes and one
expression as its body, and each node of that expression is as its kind demands.
-/
namespace Kaleido

/-! ## Items and nodes -/

/-- The forms of items. A definition and an external declaration have a prototype that can be
declared; an expression has one of its own, without parameters, which can be called `main`. -/
inductive Item.Readable : Item → Prop where
  | definition {prototype : Prototype} {body : Expr} (declarable : prototype.Declarable) :
      Readable (.definition ⟨prototype, [body]⟩)
  | external {prototype : Prototype} (declarable : prototype.Declarable) :
      Readable (.external prototype)
  | expression {name : String} {position : Position} {body : Expr}
      (named : name = "" ∨ name = "main") :
      Readable (.expression ⟨⟨name, [], .function, none, position⟩, [body]⟩)

/-- That a character is the whole text of a token that names it as an operator. -/
def IsOperatorToken (op : Char) : Prop :=
  ∃ token finish, tokenize (String.singleton op) = [token, .finish finish] ∧
    token.operator? = some op

/-- What the node at the top of an expression is like, with the binary operators of a table. The
expressions below it are nodes of their own. -/
def Expr.SoundNode (table : Operators) : Expr → Prop
  | .number value => value.isNaN = false ∧ value.isNegative = false
  | .var name => IsIdentifier name
  | .assign target _ => IsIdentifier target
  | .binary op _ _ => op ≠ '=' ∧ table.contains op
  | .unary op _ => op ≠ '=' ∧ isPunctuation op ∧ IsOperatorToken op
  | .call callee _ => IsIdentifier callee
  | .conditional _ whenTrue whenFalse => whenTrue.length = 1 ∧ whenFalse.length = 1
  | .loop counter _ _ _ body => IsIdentifier counter ∧ body.length = 1
  | .locals bindings _ => bindings ≠ [] ∧ ∀ binding ∈ bindings, IsIdentifier binding.1

/-! ## Expressions -/

/-- An operator that stands alone is read as one token, which names it. -/
theorem IsOperator.token {op : Char} (operator : IsOperator op) : IsOperatorToken op := by
  have alone := (Word.separable_of_spelled (Word.spelled_operator operator)).tokenize
  refine ⟨_, _, alone, ?_⟩
  have names : (Word.operator op).kind.isOperator := (Kind.ofOperator_spells operator).1
  rw [Token.operator?, if_pos names]
  simp [Word.operator]

theorem Expr.WellFormed.soundNode {table : Operators} {expr : Expr}
    (wellFormed : expr.WellFormed (fun value => value.isNaN = false ∧ value.isNegative = false)
      (table.contains ·)) : expr.SoundNode table := by
  cases wellFormed with
  | number allowed => exact allowed
  | var identifier => exact identifier
  | assign identifier _ => exact identifier
  | binary known other _ _ => exact ⟨other, known⟩
  | unary mark other _ =>
    have punctuation := mark.mark
    simp only [isOperatorMark, Bool.and_eq_true] at punctuation
    exact ⟨other, punctuation.1, mark.token⟩
  | call identifier _ => exact identifier
  | conditional _ _ _ => exact ⟨rfl, rfl⟩
  | loop identifier _ _ _ _ => exact ⟨identifier, rfl⟩
  | locals some identifiers _ _ => exact ⟨some, identifiers⟩

namespace Grammar

/-- A numeral of a source gives no negative and no undefined number. -/
theorem allowed_of_lexed {s : Session} (lexed : s.Lexed) : ∀ token ∈ s.ahead,
    Allowed (fun value => value.isNaN = false ∧ value.isNegative = false) token := by
  intro token member
  have spelled := lexed token member
  refine ⟨spelled, fun kind value read => ?_⟩
  rw [Token.Spelled, kind] at spelled
  exact Binary64.unsigned_of_numeral spelled read

/-! ## Items -/

theorem topLevelName_eq (previous : Option Token) :
    topLevelName previous = "" ∨ topLevelName previous = "main" := by
  unfold topLevelName
  split
  · exact .inr rfl
  · exact .inl rfl

/-- An item that was read is of one of the forms of items. -/
theorem readable_item {s : Session} (lexed : s.Lexed) {found : Item}
    (read : (item s).result = .ok found) : found.Readable := by
  have after := lexed.follows s.advance_follows
  cases answers_item s with
  | unread _ failed result after => cases result.symm.trans read
  | refused _ _ refuses result after => cases result.symm.trans read
  | external keyword given registers result =>
    cases result.symm.trans read
    exact .external (prototype_declarable after given)
  | definition keyword given registers result _ =>
    obtain ⟨body, -, rfl⟩ := definition_of_body (result.symm.trans read)
    exact .definition (prototype_declarable after given)
  | expression plain result _ =>
    obtain ⟨body, -, rest⟩ := (Reply.result_andThen_eq_ok_iff ..).mp (result.symm.trans read)
    obtain rfl := Except.ok.inj rest
    exact .expression (topLevelName_eq _)

/-- Every item that is read from a source is of one of the forms of items, and each node of its body
is as its kind demands, with the operators of the session after it: these are the operators that its
body was read with. -/
theorem items_are_well_formed {source : String} {count : Nat} {found : Item}
    (read : (nextItem (afterItems source count)).1 = some (.ok found)) :
    found.Readable ∧ ∀ expr ∈ found.body, ∀ part : Expr, part.PartOf expr →
      part.SoundNode (afterItems source (count + 1)).operators := by
  obtain ⟨result, after⟩ := afterItem_of_ok read
  have consistent := (Session.Consistent.afterItems source count).reads (readsTo_opening _)
  refine ⟨readable_item consistent.lexed result, fun expr member part inside => ?_⟩
  have wellFormed := wellFormed_item (allowed_of_lexed consistent.lexed) result expr member
  rw [afterItems_succ, after]
  exact (wellFormed.part inside).soundNode

/-- A definition with a node of every kind, whose body uses the operator that it defines. -/
theorem items_are_well_formed_every_kind :
    ∃ source found, source =
        "g; def binary | 007 (a b) if a then var x = 1.5, y in x = -a | y else for i = 0, b in f(i)" ∧
      (nextItem (afterItems source 1)).1 = some (.ok found) ∧ found.text =
        "(def binary| (a b) (if a (var ((x 1.5) y) (= x (| (- a) y))) (for (i 0 b) (f i))))" ∧
      found.Readable ∧ ∀ expr ∈ found.body, ∀ part : Expr, part.PartOf expr →
        part.SoundNode (afterItems source 2).operators := by
  have shown : ((nextItem (afterItems
      "g; def binary | 007 (a b) if a then var x = 1.5, y in x = -a | y else for i = 0, b in f(i)"
      1)).1.bind Except.toOption).map Item.text =
        some "(def binary| (a b) (if a (var ((x 1.5) y) (= x (| (- a) y))) (for (i 0 b) (f i))))" := by
    decide +kernel
  obtain ⟨found, answer, text⟩ := Option.map_eq_some_iff.mp shown
  obtain ⟨result, next, ok⟩ := Option.bind_eq_some_iff.mp answer
  cases result with
  | error diagnostic => cases ok
  | ok item =>
    obtain rfl := Option.some.inj ok
    exact ⟨_, item, rfl, next, text, items_are_well_formed next⟩

end Grammar

end Kaleido
