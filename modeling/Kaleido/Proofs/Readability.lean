import Kaleido.Proofs.Numerals
import Kaleido.Proofs.Scanning
import Kaleido.Proofs.WellFormed

/-!
# Unique reading

The text of an expression is that of a nested list: a word, or nested lists in parentheses with a
space between any two of them. Such a text says where each of its parts ends, and the first word of
a list says what kind of expression it stands for. Main statement: two well-formed expressions with
finite numbers that have the same text are the same. An infinite number would have the text of a
name.
-/
namespace Kaleido

/-! ## Nested lists -/

/-- A word, or nested lists in parentheses. -/
inductive Nested where
  | word (text : List Char)
  | list (items : List Nested)

namespace Nested

mutual

/-- The text of a nested list. -/
def text : Nested → List Char
  | .word text => text
  | .list items => '(' :: (divided items ++ [')'])

/-- Nested lists with a space between any two of them. -/
def divided : List Nested → List Char
  | [] => []
  | first :: rest => first.text ++ spaced rest

/-- Nested lists with a space before each of them. -/
def spaced : List Nested → List Char
  | [] => []
  | item :: rest => ' ' :: (item.text ++ spaced rest)

end

theorem spaced_append (items others : List Nested) :
    spaced (items ++ others) = spaced items ++ spaced others := by
  induction items with
  | nil => rfl
  | cons item rest ih => simp [spaced, ih]

end Nested

namespace Expr

mutual

/-- An expression as a nested list. -/
def nested : Expr → Nested
  | .number value => .word value.text.toList
  | .var name => .word name.toList
  | .assign target value => .list [.word ['='], .word target.toList, value.nested]
  | .binary op left right => .list [.word [op], left.nested, right.nested]
  | .unary op operand => .list [.word [op], operand.nested]
  | .call callee arguments => .list (.word callee.toList :: nestedAll arguments)
  | .conditional condition whenTrue whenFalse =>
    .list (.word Keyword.condition.word.toList :: condition.nested ::
      (nestedAll whenTrue ++ nestedAll whenFalse))
  | .loop counter first last step body =>
    .list (.word Keyword.repetition.word.toList ::
      .list (.word counter.toList :: first.nested :: last.nested :: nestedStep step) ::
      nestedAll body)
  | .locals bindings body =>
    .list [.word Keyword.locals.word.toList, .list (nestedBindings bindings), body.nested]

def nestedAll : List Expr → List Nested
  | [] => []
  | expr :: rest => expr.nested :: nestedAll rest

def nestedStep : Option Expr → List Nested
  | none => []
  | some step => [step.nested]

/-- A local variable with an initial value is a list of the two. -/
def nestedBinding : String × Option Expr → Nested
  | (name, none) => .word name.toList
  | (name, some initial) => .list [.word name.toList, initial.nested]

def nestedBindings : List (String × Option Expr) → List Nested
  | [] => []
  | binding :: rest => nestedBinding binding :: nestedBindings rest

end

theorem nestedAll_eq_map (exprs : List Expr) : nestedAll exprs = exprs.map nested := by
  induction exprs with
  | nil => rfl
  | cons expr rest ih => rw [nestedAll, ih, List.map_cons]

theorem nestedBindings_eq_map (bindings : List (String × Option Expr)) :
    nestedBindings bindings = bindings.map nestedBinding := by
  induction bindings with
  | nil => rfl
  | cons binding rest ih => rw [nestedBindings, ih, List.map_cons]

mutual

/-- The text of an expression is that of its nested list. -/
theorem toList_text : (expr : Expr) → expr.text.toList = expr.nested.text
  | .number value => rfl
  | .var name => rfl
  | .assign target value => by
    simp [text, nested, Nested.text, Nested.divided, Nested.spaced, toList_text value]
  | .binary op left right => by
    simp [text, nested, Nested.text, Nested.divided, Nested.spaced, toList_text left,
      toList_text right]
  | .unary op operand => by
    simp [text, nested, Nested.text, Nested.divided, Nested.spaced, toList_text operand]
  | .call callee arguments => by
    simp [text, nested, Nested.text, Nested.divided, toList_bodyText arguments]
  | .conditional condition whenTrue whenFalse => by
    simp [text, nested, Nested.text, Nested.divided, Nested.spaced, Nested.spaced_append,
      Keyword.word, toList_text condition, toList_bodyText whenTrue, toList_bodyText whenFalse]
  | .loop counter first last step body => by
    simp [text, nested, Nested.text, Nested.divided, Nested.spaced, Keyword.word, toList_text first,
      toList_text last, toList_stepText step, toList_bodyText body]
  | .locals bindings body => by
    simp [text, nested, Nested.text, Nested.divided, Nested.spaced, Keyword.word,
      toList_bindingsText bindings, toList_text body]

theorem toList_bodyText : (exprs : List Expr) →
    (bodyText exprs).toList = Nested.spaced (nestedAll exprs)
  | [] => rfl
  | expr :: rest => by
    simp [bodyText, nestedAll, Nested.spaced, toList_text expr, toList_bodyText rest]

theorem toList_stepText : (step : Option Expr) →
    (stepText step).toList = Nested.spaced (nestedStep step)
  | none => rfl
  | some step => by simp [stepText, nestedStep, Nested.spaced, toList_text step]

theorem toList_bindingText : (binding : String × Option Expr) →
    (bindingText binding).toList = (nestedBinding binding).text
  | (name, none) => rfl
  | (name, some initial) => by
    simp [bindingText, nestedBinding, Nested.text, Nested.divided, Nested.spaced,
      toList_text initial]

theorem toList_bindingsText : (bindings : List (String × Option Expr)) →
    (bindingsText bindings).toList = Nested.divided (nestedBindings bindings)
  | [] => rfl
  | [binding] => by
    simp [bindingsText, nestedBindings, Nested.divided, Nested.spaced, toList_bindingText binding]
  | binding :: second :: rest => by
    have later := toList_bindingsText (second :: rest)
    simp [bindingsText, nestedBindings, Nested.divided, Nested.spaced, toList_bindingText binding,
      later]

end

end Expr

/-! ## Where a part ends -/

/-- The characters that parentheses and spaces are told from. -/
def isInner (c : Char) : Bool := c ∉ [' ', '(', ')']

/-- That a text is empty or begins with a character that ends a word. -/
def EndsWord (rest : List Char) : Prop := ∀ c ∈ rest.head?, isInner c = false

namespace Nested

/-- That every word of a nested list has characters, none of which is a parenthesis or a space. -/
inductive Plain : Nested → Prop where
  | word {text : List Char} (some : text ≠ []) (inner : ∀ c ∈ text, isInner c) : Plain (.word text)
  | list {items : List Nested} (inItems : ∀ item ∈ items, item.Plain) : Plain (.list items)

theorem endsWord_spaced (items : List Nested) (rest : List Char) :
    EndsWord (spaced items ++ ')' :: rest) := by
  cases items with
  | nil =>
    intro c first
    obtain rfl : ')' = c := by simpa [spaced] using first
    decide
  | cons item items =>
    intro c first
    obtain rfl : ' ' = c := by simpa [spaced] using first
    decide

/-- A text that begins a part ends no list before it. -/
theorem Plain.text_ne {item : Nested} (plain : item.Plain) (rest tail : List Char) :
    item.text ++ rest ≠ ')' :: tail := by
  cases plain with
  | @word text some inner =>
    obtain ⟨first, more, rfl⟩ := List.exists_cons_of_ne_nil some
    intro same
    obtain rfl : first = ')' := (List.cons.inj same).1
    exact absurd (inner ')' (List.mem_cons_self ..)) (by decide)
  | list inItems =>
    intro same
    exact absurd (List.cons.inj same).1 (by decide)

/-- That a nested list is known from its text, wherever the text goes on after it. -/
def Readable (item : Nested) : Prop :=
  ∀ other : Nested, other.Plain → ∀ rest rest' : List Char, EndsWord rest → EndsWord rest' →
    item.text ++ rest = other.text ++ rest' → item = other ∧ rest = rest'

theorem takeWhile_isInner {text rest : List Char} (inner : ∀ c ∈ text, isInner c)
    (ends : EndsWord rest) :
    (text ++ rest).takeWhile isInner = text ∧ (text ++ rest).dropWhile isInner = rest := by
  rw [List.takeWhile_append_of_pos inner, List.dropWhile_append_of_pos inner]
  cases rest with
  | nil => simp
  | cons c rest => simp [ends c rfl]

theorem readable_word {text : List Char} (some : text ≠ []) (inner : ∀ c ∈ text, isInner c) :
    (word text).Readable := by
  intro other plain rest rest' ends ends' same
  cases plain with
  | @word text' some' inner' =>
    obtain ⟨taken, dropped⟩ := takeWhile_isInner inner ends
    obtain ⟨taken', dropped'⟩ := takeWhile_isInner inner' ends'
    rw [show text ++ rest = text' ++ rest' from same] at taken dropped
    exact ⟨congrArg word (taken.symm.trans taken'), dropped.symm.trans dropped'⟩
  | list inItems =>
    obtain ⟨first, more, rfl⟩ := List.exists_cons_of_ne_nil some
    obtain rfl : first = '(' := (List.cons.inj same).1
    exact absurd (inner '(' (List.mem_cons_self ..)) (by decide)

/-- The items of a list after the first one are known, and so is its end. -/
theorem readable_spaced {items : List Nested} (readable : ∀ item ∈ items, item.Readable)
    {others : List Nested} (plain : ∀ item ∈ others, item.Plain) {rest rest' : List Char}
    (same : spaced items ++ ')' :: rest = spaced others ++ ')' :: rest') :
    items = others ∧ rest = rest' := by
  induction items generalizing others with
  | nil =>
    cases others with
    | nil => exact ⟨rfl, (List.cons.inj same).2⟩
    | cons other others => exact absurd (List.cons.inj same).1 (by decide)
  | cons item items ih =>
    cases others with
    | nil => exact absurd (List.cons.inj same).1 (by decide)
    | cons other others =>
      simp only [spaced, List.cons_append, List.append_assoc, List.cons.injEq, true_and] at same
      obtain ⟨rfl, later⟩ := readable item (by simp) other (plain other (by simp)) _ _
        (endsWord_spaced items rest) (endsWord_spaced others rest') same
      obtain ⟨rfl, ended⟩ := ih (fun item member => readable item (by simp [member]))
        (fun item member => plain item (by simp [member])) later
      exact ⟨rfl, ended⟩

theorem readable_list {items : List Nested} (plain : ∀ item ∈ items, item.Plain)
    (readable : ∀ item ∈ items, item.Readable) : (list items).Readable := by
  intro other plain' rest rest' ends ends' same
  cases plain' with
  | @word text some inner =>
    obtain ⟨first, more, rfl⟩ := List.exists_cons_of_ne_nil some
    obtain rfl : '(' = first := (List.cons.inj same).1
    exact absurd (inner '(' (List.mem_cons_self ..)) (by decide)
  | @list others inOthers =>
    simp only [text, List.cons_append, List.append_assoc, List.nil_append, List.cons.injEq,
      true_and] at same
    cases items with
    | nil =>
      cases others with
      | nil => exact ⟨rfl, (List.cons.inj same).2⟩
      | cons other others =>
        rw [divided, divided, List.append_assoc] at same
        exact absurd same.symm ((inOthers other (by simp)).text_ne _ _)
    | cons item items =>
      cases others with
      | nil =>
        rw [divided, divided, List.append_assoc] at same
        exact absurd same ((plain item (by simp)).text_ne _ _)
      | cons other others =>
        simp only [divided, List.append_assoc] at same
        obtain ⟨rfl, later⟩ := readable item (by simp) other (inOthers other (by simp)) _ _
          (endsWord_spaced items rest) (endsWord_spaced others rest') same
        obtain ⟨rfl, ended⟩ := readable_spaced (fun item member => readable item (by simp [member]))
          (fun item member => inOthers item (by simp [member])) later
        exact ⟨rfl, ended⟩

/-- The text of a nested list says where it ends. -/
theorem Plain.readable {item : Nested} (plain : item.Plain) : item.Readable := by
  induction plain with
  | word some inner => exact readable_word some inner
  | list inItems ih => exact readable_list inItems ih

theorem Plain.eq_of_text_eq {item other : Nested} (plain : item.Plain) (plain' : other.Plain)
    (same : item.text = other.text) : item = other :=
  (plain.readable other plain' [] [] (by simp [EndsWord]) (by simp [EndsWord])
    (by rw [List.append_nil, List.append_nil, same])).1

end Nested

/-! ## Plain words -/

theorem eq_of_not_isInner {c : Char} (other : ¬ isInner c) : c = ' ' ∨ c = '(' ∨ c = ')' := by
  simpa only [isInner, decide_eq_true_eq, not_not, List.mem_cons, List.not_mem_nil,
    or_false] using other

theorem isInner_of_isWordPart {c : Char} (part : isWordPart c) : isInner c := by
  by_contra other
  obtain rfl | rfl | rfl := eq_of_not_isInner other
  all_goals exact absurd part (by decide)

theorem IsOperator.isInner {op : Char} (operator : IsOperator op) : isInner op := by
  obtain ⟨kind, isOperator, spells⟩ := operator
  by_contra other
  obtain rfl | rfl | rfl := eq_of_not_isInner other
  all_goals
    cases kind with
    | operator =>
      obtain ⟨c, same, free⟩ := spells
      obtain rfl := List.singleton_inj.mp same
      exact absurd free (by decide)
    | equal | plus | minus | star | slash | less | greater => cases spells
    | _ => cases isOperator

theorem IsWord.plain {text : List Char} (word : IsWord text) : (Nested.word text).Plain := by
  obtain ⟨first, rest, rfl, start, parts⟩ := word
  refine .word (by simp) fun c member => isInner_of_isWordPart ?_
  rcases List.mem_cons.mp member with rfl | later
  · exact isWordPart_of_isWordStart start
  · exact parts c later

theorem IsIdentifier.plain {name : String} (identifier : IsIdentifier name) :
    (Nested.word name.toList).Plain :=
  IsWord.plain identifier.1

theorem Keyword.plain_word (keyword : Keyword) : (Nested.word keyword.word.toList).Plain :=
  keyword.isWord_word.plain

theorem IsOperator.plain {op : Char} (operator : IsOperator op) : (Nested.word [op]).Plain :=
  .word (by simp) (by simpa using operator.isInner)

/-- The characters of a finite number are none that begin a word, and none that end one. -/
theorem Binary64.inner_text {value : Binary64} (finite : value.isFinite) :
    ∀ c ∈ value.text.toList, isInner c ∧ isWordStart c = false := by
  intro c member
  rw [toList_text_of_finite finite, signText] at member
  have numeral : c = '-' ∨ c.isDigit ∨ c = '.' := by
    rcases List.mem_append.mp member with sign | digit
    · left
      split at sign
      · simpa using sign
      · cases sign
    · exact .inr (Decimal.isDigit_or_point_of_mem_text c digit)
  rcases numeral with rfl | digit | rfl
  · decide
  · exact ⟨isInner_of_isWordPart (isWordPart_of_isDigit digit), not_isWordStart_of_isDigit digit⟩
  · decide

theorem Binary64.plain_text {value : Binary64} (finite : value.isFinite) :
    (Nested.word value.text.toList).Plain := by
  refine .word ?_ fun c member => (inner_text finite c member).1
  rw [toList_text_of_finite finite]
  exact List.append_ne_nil_of_right_ne_nil _ (Decimal.text_ne_nil _)

/-! ## What a nested list stands for -/

namespace Expr

/-- The forms that the first word of a nested list tells apart. -/
inductive Form where
  | number
  | var
  | assign
  | operation
  | call
  | conditional
  | loop
  | locals

/-- The form of an expression. A unary and a binary operator have one form, since it is only the
number of the operands that tells them apart. -/
def form : Expr → Form
  | .number _ => .number
  | .var _ => .var
  | .assign _ _ => .assign
  | .binary _ _ _ => .operation
  | .unary _ _ => .operation
  | .call _ _ => .call
  | .conditional _ _ _ => .conditional
  | .loop _ _ _ _ _ => .loop
  | .locals _ _ => .locals

end Expr

/-- Whether a text begins like a word of the language. -/
def beginsWord (text : List Char) : Bool := text.head?.any isWordStart

/-- The form that the first word of a list announces. -/
def Expr.Form.ofHead (head : List Char) : Form :=
  match Keyword.ofWord? (String.ofList head) with
  | some .condition => .conditional
  | some .repetition => .loop
  | some .locals => .locals
  | _ => if beginsWord head then .call else if head = ['='] then .assign else .operation

/-- The form of the expressions that can be written as a nested list. -/
def Nested.form? : Nested → Option Expr.Form
  | .word text => some (if beginsWord text then .var else .number)
  | .list (.word head :: _) => some (.ofHead head)
  | .list _ => none

theorem IsIdentifier.beginsWord {name : String} (identifier : IsIdentifier name) :
    beginsWord name.toList := by
  obtain ⟨⟨first, rest, same, start, -⟩, -⟩ := identifier
  simp [Kaleido.beginsWord, same, start]

/-- A text that begins like no word is no keyword. -/
theorem Keyword.ofWord?_of_not_beginsWord {text : List Char} (other : beginsWord text = false) :
    Keyword.ofWord? (String.ofList text) = none := by
  refine List.find?_eq_none.mpr fun keyword _ same => ?_
  obtain ⟨first, rest, spelled, start, -⟩ := keyword.isWord_word
  rw [of_decide_eq_true same, String.toList_ofList] at spelled
  rw [beginsWord, spelled] at other
  simp [start] at other

namespace Expr

theorem Form.ofHead_identifier {name : String} (identifier : IsIdentifier name) :
    Form.ofHead name.toList = .call := by
  rw [Form.ofHead, identifier.2]
  simp [identifier.beginsWord]

theorem Form.ofHead_operator {op : Char} (mark : IsOperator op) (other : op ≠ '=') :
    Form.ofHead [op] = .operation := by
  have begins : beginsWord [op] = false := by
    rw [Bool.eq_false_iff]
    intro start
    exact not_isWordPart_of_isOperatorMark mark.mark
      (isWordPart_of_isWordStart (by simpa [beginsWord] using start))
  rw [Form.ofHead, Keyword.ofWord?_of_not_beginsWord begins]
  simp [begins, other]

/-- The text of a finite number begins like no word. -/
theorem beginsWord_text {value : Binary64} (finite : value.isFinite) :
    beginsWord value.text.toList = false := by
  rw [beginsWord]
  cases found : value.text.toList with
  | nil => rfl
  | cons first rest =>
    have other := (Binary64.inner_text finite first (by simp [found])).2
    simp [other]

/-- The nested list of a well-formed expression tells the form of the expression. -/
theorem WellFormed.form?_nested {expr : Expr}
    (wellFormed : expr.WellFormed (·.isFinite) IsOperator) :
    expr.nested.form? = some expr.form := by
  cases wellFormed with
  | number finite => simp [nested, Nested.form?, form, beginsWord_text finite]
  | var identifier => simp [nested, Nested.form?, form, identifier.beginsWord]
  | assign _ _ => rfl
  | binary mark other _ _ => simp [nested, Nested.form?, form, Form.ofHead_operator mark other]
  | unary mark other _ => simp [nested, Nested.form?, form, Form.ofHead_operator mark other]
  | call identifier _ => simp [nested, Nested.form?, form, Form.ofHead_identifier identifier]
  | conditional _ _ _ => rfl
  | loop _ _ _ _ _ => rfl
  | locals _ _ _ _ => rfl

end Expr

/-! ## Expressions and their nested lists -/

namespace Expr

/-- The nested list of a well-formed expression has no words but plain ones. -/
theorem WellFormed.plain_nested {expr : Expr}
    (wellFormed : expr.WellFormed (·.isFinite) IsOperator) : expr.nested.Plain := by
  induction wellFormed with
  | number finite => exact Binary64.plain_text finite
  | var identifier => exact identifier.plain
  | assign identifier _ inValue =>
    have equal : IsOperator '=' := ⟨.equal, rfl, rfl⟩
    exact .list (by simp [equal.plain, identifier.plain, inValue])
  | binary mark _ _ _ inLeft inRight => exact .list (by simp [mark.plain, inLeft, inRight])
  | unary mark _ _ inOperand => exact .list (by simp [mark.plain, inOperand])
  | call identifier _ inArguments =>
    refine .list ?_
    simpa [nestedAll_eq_map, identifier.plain] using inArguments
  | conditional _ _ _ inCondition inTrue inFalse =>
    exact .list (by simp [nestedAll, Keyword.plain_word, inCondition, inTrue, inFalse])
  | @loop counter first last body step identifier _ _ _ _ inFirst inLast inStep inBody =>
    have bounds : (Nested.list (.word counter.toList :: first.nested :: last.nested ::
        nestedStep step)).Plain := by
      refine .list ?_
      cases step with
      | none => simp [nestedStep, identifier.plain, inFirst, inLast]
      | some step => simp [nestedStep, identifier.plain, inFirst, inLast, inStep step rfl]
    exact .list (by simp [nestedAll, Keyword.plain_word, bounds, inBody])
  | @locals bindings body _ identifiers _ _ inBindings inBody =>
    have bound : (Nested.list (nestedBindings bindings)).Plain := by
      refine .list ?_
      rw [nestedBindings_eq_map, List.forall_mem_map]
      rintro ⟨name, initial⟩ member
      have named := (identifiers _ member).plain
      cases initial with
      | none => exact named
      | some initial => exact .list (by simp [named, inBindings _ member initial rfl])
    exact .list (by simp [Keyword.plain_word, bound, inBody])

/-- That an expression is known from its nested list. -/
def Known (expr : Expr) : Prop :=
  ∀ other : Expr, other.WellFormed (·.isFinite) IsOperator → expr.nested = other.nested →
    expr = other

theorem known_all {exprs others : List Expr} (known : ∀ expr ∈ exprs, expr.Known)
    (wellFormed : ∀ expr ∈ others, expr.WellFormed (·.isFinite) IsOperator)
    (same : nestedAll exprs = nestedAll others) : exprs = others := by
  induction exprs generalizing others with
  | nil =>
    cases others with
    | nil => rfl
    | cons other others => cases same
  | cons expr exprs ih =>
    cases others with
    | nil => cases same
    | cons other others =>
      obtain ⟨first, rest⟩ := List.cons.inj same
      rw [known expr (by simp) other (wellFormed other (by simp)) first,
        ih (fun expr member => known expr (by simp [member]))
          (fun expr member => wellFormed expr (by simp [member])) rest]

theorem known_step {step other : Option Expr} (known : ∀ expr ∈ step, expr.Known)
    (wellFormed : ∀ expr ∈ other, expr.WellFormed (·.isFinite) IsOperator)
    (same : nestedStep step = nestedStep other) : step = other := by
  cases step with
  | none =>
    cases other with
    | none => rfl
    | some other => cases same
  | some step =>
    cases other with
    | none => cases same
    | some other => rw [known step rfl other (wellFormed other rfl) (List.cons.inj same).1]

theorem known_binding {binding other : String × Option Expr}
    (known : ∀ initial ∈ binding.2, initial.Known)
    (wellFormed : ∀ initial ∈ other.2, initial.WellFormed (·.isFinite) IsOperator)
    (same : nestedBinding binding = nestedBinding other) : binding = other := by
  obtain ⟨name, initial⟩ := binding
  obtain ⟨name', initial'⟩ := other
  cases initial with
  | none =>
    cases initial' with
    | none => rw [String.toList_inj.mp (Nested.word.inj same)]
    | some initial' => cases same
  | some initial =>
    cases initial' with
    | none => cases same
    | some initial' =>
      simp only [nestedBinding, Nested.list.injEq, List.cons.injEq, Nested.word.injEq,
        String.toList_inj, and_true] at same
      rw [same.1, known initial rfl initial' (wellFormed initial' rfl) same.2]

theorem known_bindings {bindings others : List (String × Option Expr)}
    (known : ∀ binding ∈ bindings, ∀ initial ∈ binding.2, initial.Known)
    (wellFormed : ∀ binding ∈ others, ∀ initial ∈ binding.2,
      initial.WellFormed (·.isFinite) IsOperator)
    (same : nestedBindings bindings = nestedBindings others) : bindings = others := by
  induction bindings generalizing others with
  | nil =>
    cases others with
    | nil => rfl
    | cons other others => cases same
  | cons binding bindings ih =>
    cases others with
    | nil => cases same
    | cons other others =>
      obtain ⟨first, rest⟩ := List.cons.inj same
      rw [known_binding (known binding (by simp)) (wellFormed other (by simp)) first,
        ih (fun binding member => known binding (by simp [member]))
          (fun binding member => wellFormed binding (by simp [member])) rest]

/-- Well-formed expressions with the same nested list have the same form. -/
theorem WellFormed.form_eq {left right : Expr}
    (inLeft : left.WellFormed (·.isFinite) IsOperator)
    (inRight : right.WellFormed (·.isFinite) IsOperator) (same : left.nested = right.nested) :
    left.form = right.form := by
  have found := inLeft.form?_nested
  rw [same, inRight.form?_nested] at found
  exact (Option.some.inj found).symm

/-- A well-formed expression is known from its nested list. -/
theorem WellFormed.known {expr : Expr} (wellFormed : expr.WellFormed (·.isFinite) IsOperator) :
    expr.Known := by
  induction wellFormed with
  | number finite =>
    intro other inOther same
    have forms := (WellFormed.number finite).form_eq inOther same
    cases inOther with
    | number finite' =>
      rw [Binary64.eq_of_text_eq finite finite' (String.toList_inj.mp (Nested.word.inj same))]
    | _ => cases forms
  | var identifier =>
    intro other inOther same
    have forms := (WellFormed.var identifier).form_eq inOther same
    cases inOther with
    | var _ => rw [String.toList_inj.mp (Nested.word.inj same)]
    | _ => cases forms
  | assign identifier inValue known =>
    intro other inOther same
    have forms := (WellFormed.assign identifier inValue).form_eq inOther same
    cases inOther with
    | assign _ inValue' =>
      simp only [nested, Nested.list.injEq, List.cons.injEq, Nested.word.injEq, String.toList_inj,
        true_and, and_true] at same
      rw [same.1, known _ inValue' same.2]
    | _ => cases forms
  | binary mark different inLeft inRight knownLeft knownRight =>
    intro other inOther same
    have forms := (WellFormed.binary mark different inLeft inRight).form_eq inOther same
    cases inOther with
    | binary _ _ inLeft' inRight' =>
      simp only [nested, Nested.list.injEq, List.cons.injEq, Nested.word.injEq, and_true] at same
      rw [same.1, knownLeft _ inLeft' same.2.1, knownRight _ inRight' same.2.2]
    | unary _ _ _ => simp [nested] at same
    | _ => cases forms
  | unary mark different inOperand known =>
    intro other inOther same
    have forms := (WellFormed.unary mark different inOperand).form_eq inOther same
    cases inOther with
    | unary _ _ inOperand' =>
      simp only [nested, Nested.list.injEq, List.cons.injEq, Nested.word.injEq, and_true] at same
      rw [same.1, known _ inOperand' same.2]
    | binary _ _ _ _ => simp [nested] at same
    | _ => cases forms
  | call identifier inArguments known =>
    intro other inOther same
    have forms := (WellFormed.call identifier inArguments).form_eq inOther same
    cases inOther with
    | call _ inArguments' =>
      simp only [nested, Nested.list.injEq, List.cons.injEq, Nested.word.injEq,
        String.toList_inj] at same
      rw [same.1, known_all known inArguments' same.2]
    | _ => cases forms
  | conditional inCondition inTrue inFalse knownCondition knownTrue knownFalse =>
    intro other inOther same
    have forms := (WellFormed.conditional inCondition inTrue inFalse).form_eq inOther same
    cases inOther with
    | conditional inCondition' inTrue' inFalse' =>
      simp only [nested, nestedAll, List.cons_append, List.nil_append, Nested.list.injEq,
        List.cons.injEq, true_and, and_true] at same
      rw [knownCondition _ inCondition' same.1, knownTrue _ inTrue' same.2.1,
        knownFalse _ inFalse' same.2.2]
    | _ => cases forms
  | loop identifier inFirst inLast inStep inBody knownFirst knownLast knownStep knownBody =>
    intro other inOther same
    have forms := (WellFormed.loop identifier inFirst inLast inStep inBody).form_eq inOther same
    cases inOther with
    | loop _ inFirst' inLast' inStep' inBody' =>
      simp only [nested, nestedAll, Nested.list.injEq, List.cons.injEq, Nested.word.injEq,
        String.toList_inj, true_and, and_true] at same
      obtain ⟨⟨counter, first, last, step⟩, body⟩ := same
      rw [counter, knownFirst _ inFirst' first, knownLast _ inLast' last,
        known_step knownStep inStep' step, knownBody _ inBody' body]
    | _ => cases forms
  | locals some identifiers inBindings inBody knownBindings knownBody =>
    intro other inOther same
    have forms := (WellFormed.locals some identifiers inBindings inBody).form_eq inOther same
    cases inOther with
    | locals _ _ inBindings' inBody' =>
      simp only [nested, Nested.list.injEq, List.cons.injEq, true_and, and_true] at same
      rw [known_bindings knownBindings inBindings' same.1, knownBody _ inBody' same.2]
    | _ => cases forms

/-- The text of an expression is read in one way only: well-formed expressions with finite numbers
that have the same text are the same. -/
theorem text_is_unambiguous {left right : Expr}
    (inLeft : left.WellFormed (·.isFinite) IsOperator)
    (inRight : right.WellFormed (·.isFinite) IsOperator) (same : left.text = right.text) :
    left = right := by
  have nested : left.nested.text = right.nested.text := by
    rw [← toList_text, ← toList_text, same]
  exact inLeft.known right inRight (inLeft.plain_nested.eq_of_text_eq inRight.plain_nested nested)

/-- Local variables and an assignment, once with the number of a numeral that has more digits than
needed, and once with the bits of that number. -/
theorem text_is_unambiguous_numerals :
    ∃ left right : Expr, left.text = "(var ((x 1.5) y) (= y (- x)))" ∧
      left.WellFormed (·.isFinite) IsOperator ∧ right.WellFormed (·.isFinite) IsOperator ∧
      left.text = right.text ∧ left = right := by
  have x : IsIdentifier "x" := ⟨isWord_cons (by decide) (by decide), by decide⟩
  have y : IsIdentifier "y" := ⟨isWord_cons (by decide) (by decide), by decide⟩
  have wellFormed : ∀ value : Binary64, value.isFinite →
      (Expr.locals [("x", some (.number value)), ("y", none)]
        (.assign "y" (.unary '-' (.var "x")))).WellFormed (·.isFinite) IsOperator := by
    intro value finite
    have number : (Expr.number value).WellFormed (·.isFinite) IsOperator := .number finite
    refine .locals (by simp) (by simp [x, y]) (by simpa using number) ?_
    exact .assign y (.unary ⟨.minus, rfl, rfl⟩ (by decide) (.var x))
  have numeral := wellFormed (.ofDecimal ⟨150, 2⟩) (by decide +kernel)
  have bits := wellFormed ⟨0x3ff8000000000000⟩ (by decide +kernel)
  refine ⟨_, _, ?shown, numeral, bits, ?same, text_is_unambiguous numeral bits ?same⟩
  case shown => decide +kernel
  case same => decide +kernel

end Expr

end Kaleido
