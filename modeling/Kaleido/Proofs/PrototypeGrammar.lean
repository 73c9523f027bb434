import Kaleido.Proofs.Extent
import Kaleido.Proofs.Registration
import Mathlib.Data.List.Basic

/-!
# The grammar of prototypes

The prototypes as a relation between tokens and what they declare, without a word on how they are
read. A reader recognizes such a relation if it answers exactly for the tokens ahead that stand in
it, and stops right after them. Main statement: in every session of a source the reader of prototypes
recognizes the grammar; it refuses everything else, and declares nothing by itself.
-/
namespace Kaleido.Grammar

/-! ## The grammar -/

/-- Identifiers in parentheses, with their names. -/
inductive DerivesParameters : List Token → List String → Prop where
  | enclosed {opening closing : Token} {names : List Token} (opens : opening.kind = .leftParen)
      (kinds : ∀ name ∈ names, name.kind = .identifier) (closes : closing.kind = .rightParen) :
      DerivesParameters (opening :: (names ++ [closing])) (names.map Token.lexeme)

/-- That a token is a whole number between 1 and 100, in decimal digits. -/
structure IsPrecedence (token : Token) (value : Int) : Prop where
  kind : token.kind = .number
  whole : '.' ∉ token.lexeme.toList
  read : value = (Nat.ofDigitChars 10 token.lexeme.toList 0 : Nat)
  range : 1 ≤ value ∧ value ≤ 100

/-- That tokens derive a prototype, which stands where the first of them does. -/
inductive DerivesPrototype : List Token → Prototype → Prop where
  | function {name : Token} {tokens : List Token} {params : List String}
      (kind : name.kind = .identifier) (inside : DerivesParameters tokens params) :
      DerivesPrototype (name :: tokens) ⟨name.lexeme, params, .function, none, name.position⟩
  | unary {start operator : Token} {tokens : List Token} {operand : String}
      (begins : start.kind = .keyword .unary) (named : operator.kind.isOperator)
      (other : operator.lexeme ≠ "=") (inside : DerivesParameters tokens [operand]) :
      DerivesPrototype (start :: operator :: tokens)
        ⟨"unary" ++ operator.lexeme, [operand], .unary, none, start.position⟩
  | binary {start operator : Token} {numeral : Option Token} {precedence : Option Int}
      {tokens : List Token} {left right : String} (begins : start.kind = .keyword .binary)
      (named : operator.kind.isOperator)
      (other : operator.lexeme ∉ ["=", "+", "-", "*", "/", "<", ">"])
      (given : Option.Rel IsPrecedence numeral precedence)
      (inside : DerivesParameters tokens [left, right]) :
      DerivesPrototype (start :: operator :: (numeral.toList ++ tokens))
        ⟨"binary" ++ operator.lexeme, [left, right], .binary, precedence, start.position⟩

/-! ## Recognition -/

/-- That a reader answers exactly if the tokens ahead begin with some that have a form, and stops
right after these. The form can ask what comes after them. -/
def Recognizes {s : Session} {α : Type} (reply : Reply s α)
    (form : List Token → List Token → α → Prop) : Prop :=
  ∀ a rest, (reply.result = .ok a ∧ reply.after.ahead = rest) ↔
    ∃ tokens, s.ahead = tokens ++ rest ∧ form tokens rest a

section

variable {s : Session} {α β : Type} {form : List Token → List Token → α → Prop}

theorem current_of_ahead {token : Token} {rest : List Token} (ahead : s.ahead = token :: rest) :
    s.current = token ∧ s.advance.ahead = rest := by
  simp [Session.current, Session.advance, ahead]

theorem Recognizes.congr {reply : Reply s α} {other : List Token → List Token → α → Prop}
    (recognizes : Recognizes reply form)
    (same : ∀ tokens rest a, s.ahead = tokens ++ rest → (form tokens rest a ↔ other tokens rest a)) :
    Recognizes reply other := by
  intro a rest
  rw [recognizes a rest]
  constructor
  · rintro ⟨tokens, ahead, given⟩
    exact ⟨tokens, ahead, (same tokens rest a ahead).mp given⟩
  · rintro ⟨tokens, ahead, given⟩
    exact ⟨tokens, ahead, (same tokens rest a ahead).mpr given⟩

theorem recognizes_pure (a : α) :
    Recognizes (.pure s a) fun tokens _ b => tokens = [] ∧ b = a := by
  intro b rest
  constructor
  · rintro ⟨⟨⟩, rfl⟩
    exact ⟨[], rfl, rfl, rfl⟩
  · rintro ⟨_, ahead, rfl, rfl⟩
    exact ⟨rfl, ahead⟩

theorem recognizes_fail (diagnostic : Diagnostic) :
    Recognizes (.fail s diagnostic : Reply s α) fun _ _ _ => False := by
  simp [Recognizes]

/-- A condition that is checked first becomes a part of the form. -/
theorem Recognizes.when {condition : Prop} [Decidable condition] {reply : Reply s α}
    {diagnostic : Diagnostic} (recognizes : Recognizes reply form) :
    Recognizes (if condition then reply else .fail s diagnostic) fun tokens rest a =>
      condition ∧ form tokens rest a := by
  split
  · next holds => exact recognizes.congr fun tokens rest a _ => by simp [holds]
  · next fails => exact (recognizes_fail diagnostic).congr fun tokens rest a _ => by simp [fails]

theorem Recognizes.map {reply : Reply s α} (recognizes : Recognizes reply form) (f : α → β) :
    Recognizes (reply.map f) fun tokens rest b => ∃ a, form tokens rest a ∧ f a = b := by
  intro b rest
  rw [Reply.result_map_eq_ok_iff, Reply.after_map]
  constructor
  · rintro ⟨⟨a, held, same⟩, after⟩
    obtain ⟨tokens, ahead, given⟩ := (recognizes a rest).mp ⟨held, after⟩
    exact ⟨tokens, ahead, a, given, same⟩
  · rintro ⟨tokens, ahead, a, given, same⟩
    obtain ⟨held, after⟩ := (recognizes a rest).mpr ⟨tokens, ahead, given⟩
    exact ⟨⟨a, held, same⟩, after⟩

/-- Two readers one after the other recognize what consists of both. -/
theorem Recognizes.andThen {reply : Reply s α}
    {next : α → (after : Session) → after.remaining ≤ s.remaining → Reply after β}
    {later : α → List Token → List Token → β → Prop} (first : Recognizes reply form)
    (second : ∀ a, Recognizes (next a reply.after reply.follows.le) (later a)) :
    Recognizes (reply.andThen next) fun tokens rest b => ∃ front back a, tokens = front ++ back ∧
      form front (back ++ rest) a ∧ later a back rest b := by
  intro b rest
  rw [Reply.result_andThen_eq_ok_iff]
  constructor
  · rintro ⟨⟨a, held, answered⟩, after⟩
    rw [Reply.after_andThen_of_ok held] at after
    obtain ⟨back, stopped, backForm⟩ := (second a b rest).mp ⟨answered, after⟩
    obtain ⟨front, ahead, frontForm⟩ := (first a (back ++ rest)).mp ⟨held, stopped⟩
    refine ⟨front ++ back, ?_, front, back, a, rfl, frontForm, backForm⟩
    rw [ahead, List.append_assoc]
  · rintro ⟨_, ahead, front, back, a, rfl, frontForm, backForm⟩
    rw [List.append_assoc] at ahead
    obtain ⟨held, stopped⟩ := (first a (back ++ rest)).mpr ⟨front, ahead, frontForm⟩
    obtain ⟨answered, after⟩ := (second a b rest).mpr ⟨back, stopped, backForm⟩
    exact ⟨⟨a, held, answered⟩, by rw [Reply.after_andThen_of_ok held, after]⟩

/-- A reader that begins after the next token recognizes that token before its own. -/
theorem Recognizes.advance {reply : Reply s.advance α} (recognizes : Recognizes reply form)
    (more : s.current.kind ≠ .finish) :
    Recognizes (reply.since s.advance_follows) fun tokens rest a =>
      ∃ back, tokens = s.current :: back ∧ form back rest a := by
  intro a rest
  rw [Reply.result_since, Reply.after_since, recognizes a rest]
  constructor
  · rintro ⟨back, ahead, given⟩
    refine ⟨s.current :: back, ?_, back, rfl, given⟩
    rw [ahead_eq_current more, ahead, List.cons_append]
  · rintro ⟨_, ahead, back, rfl, given⟩
    exact ⟨back, (current_of_ahead ahead).2, given⟩

/-- A reader that begins after tokens that were passed over recognizes these before its own. -/
theorem Recognizes.passWhile {condition : Token → Bool} {reply : Reply (s.passWhile condition).2 α}
    (recognizes : Recognizes reply form) :
    Recognizes (reply.since (s.passWhile_follows condition)) fun tokens rest a =>
      ∃ back, tokens = (s.passWhile condition).1 ++ back ∧ form back rest a := by
  have split : s.ahead = (s.passWhile condition).1 ++ (s.passWhile condition).2.ahead :=
    List.takeWhile_append_dropWhile.symm
  intro a rest
  rw [Reply.result_since, Reply.after_since, recognizes a rest]
  constructor
  · rintro ⟨back, ahead, given⟩
    exact ⟨_, by rw [split, ahead, List.append_assoc], back, rfl, given⟩
  · rintro ⟨_, ahead, back, rfl, given⟩
    rw [split, List.append_assoc] at ahead
    exact ⟨back, List.append_cancel_left ahead, given⟩

/-- A reader that answers for the next token alone recognizes one token. -/
theorem recognizes_token {reply : Reply s α} {fits : Token → α → Prop}
    (answers : ∀ a, reply.result = .ok a ↔ fits s.current a)
    (after : ∀ a, reply.result = .ok a → reply.after = s.advance)
    (inner : ∀ token a, fits token a → token.kind ≠ .finish) :
    Recognizes reply fun tokens _ a => ∃ token, tokens = [token] ∧ fits token a := by
  intro a rest
  constructor
  · rintro ⟨held, rfl⟩
    have fitting := (answers a).mp held
    refine ⟨[s.current], ?_, s.current, rfl, fitting⟩
    rw [after a held]
    exact ahead_eq_current (inner _ a fitting)
  · rintro ⟨_, ahead, token, rfl, fitting⟩
    obtain ⟨rfl, stopped⟩ := current_of_ahead ahead
    have held := (answers a).mpr fitting
    rw [after a held]
    exact ⟨held, stopped⟩

theorem recognizes_expect (s : Session) {kind : Kind} (inner : kind ≠ .finish) (expected : String) :
    Recognizes (s.expect (· = kind) expected) fun tokens _ found =>
      ∃ token, tokens = [token] ∧ token.kind = kind ∧ found = token := by
  refine recognizes_token (fun found => ?_) (fun found held => ?_) (fun token found fits => ?_)
  · by_cases wanted : s.current.kind = kind
    · simp [Session.expect, Session.take, wanted, eq_comm]
    · simp [Session.expect, wanted]
  · by_cases wanted : s.current.kind = kind
    · simp [Session.expect, Session.take, wanted]
    · simp [Session.expect, wanted] at held
  · rw [fits.1]
    exact inner

end

/-! ## The readers -/

/-- The identifiers before a parenthesis are all that are passed over. -/
theorem passWhile_of_ahead {s : Session} {names rest : List Token} {closing : Token}
    (kinds : ∀ name ∈ names, name.kind = .identifier) (closes : closing.kind = .rightParen)
    (ahead : s.ahead = names ++ closing :: rest) :
    (s.passWhile fun token => token.kind = .identifier).1 = names := by
  have stops : decide (closing.kind = .identifier) = false := by simp [closes]
  rw [Session.passWhile, ahead, List.takeWhile_append_of_pos (by simpa using kinds)]
  simp [stops]

theorem passWhile_identifier_follows (s : Session) :
    (s.passWhile fun token => token.kind = .identifier).2.Follows s :=
  s.passWhile_follows _

/-- The reader of parameters from the one after the first parenthesis on. -/
def parameterNames (s : Session) : Reply s (List String) :=
  (((s.passWhile fun token => token.kind = .identifier).2.expect (· = .rightParen) ")").map fun _ =>
    (s.passWhile fun token => token.kind = .identifier).1.map Token.lexeme).since
      (passWhile_identifier_follows s)

theorem parameters_eq (s : Session) : parameters s =
    (s.expect (· = .leftParen) "(").andThen fun _ s _ => parameterNames s := rfl

theorem recognizes_parameterNames (s : Session) :
    Recognizes (parameterNames s) fun tokens _ params => ∃ words closing,
      tokens = words ++ [closing] ∧ (∀ word ∈ words, word.kind = .identifier) ∧
        closing.kind = .rightParen ∧ params = words.map Token.lexeme := by
  have closes := recognizes_expect (s.passWhile fun token => token.kind = .identifier).2
    (by decide : Kind.rightParen ≠ .finish) ")"
  refine ((closes.map _).passWhile).congr fun tokens rest params ahead => ?_
  constructor
  · rintro ⟨_, rfl, _, ⟨closing, rfl, closes, -⟩, rfl⟩
    refine ⟨_, closing, rfl, fun word member => ?_, closes, rfl⟩
    rw [Session.passWhile] at member
    have kind := List.mem_takeWhile_imp member
    exact of_decide_eq_true kind
  · rintro ⟨words, closing, rfl, kinds, closes, rfl⟩
    rw [List.append_assoc, List.singleton_append] at ahead
    rw [passWhile_of_ahead kinds closes ahead]
    exact ⟨[closing], rfl, closing, ⟨closing, rfl, closes, rfl⟩, rfl⟩

theorem DerivesParameters.opening {tokens : List Token} {params : List String}
    (derives : DerivesParameters tokens params) :
    ∃ opening more, tokens = opening :: more ∧ opening.kind = .leftParen := by
  cases derives with
  | enclosed opens _ _ => exact ⟨_, _, rfl, opens⟩

theorem recognizes_parameters (s : Session) :
    Recognizes (parameters s) fun tokens _ params => DerivesParameters tokens params := by
  rw [parameters_eq]
  have opens := recognizes_expect s (by decide : Kind.leftParen ≠ .finish) "("
  refine (opens.andThen fun _ => recognizes_parameterNames _).congr fun tokens rest params _ => ?_
  constructor
  · rintro ⟨_, _, _, rfl, ⟨opening, rfl, opens, -⟩, words, closing, rfl, kinds, closes, rfl⟩
    exact .enclosed opens kinds closes
  · rintro ⟨opens, kinds, closes⟩
    exact ⟨[_], _, _, rfl, ⟨_, rfl, opens, rfl⟩, _, _, rfl, kinds, closes, rfl⟩

theorem recognizes_operands (role : Role) (op : Char) (precedence : Option Int) (expected : Nat)
    (position : Position) (s : Session) :
    Recognizes (operands role op precedence expected position s) fun tokens _ found =>
      ∃ params, DerivesParameters tokens params ∧ params.length = expected ∧
        found = .ofOperator role op params precedence position := by
  refine Recognizes.congr (Recognizes.andThen (recognizes_parameters s) fun params =>
    (recognizes_pure (Prototype.ofOperator role op params precedence position)).when)
    fun tokens rest found _ => ?_
  constructor
  · rintro ⟨front, _, params, rfl, inside, enough, rfl, same⟩
    exact ⟨params, by simpa using inside, enough, same⟩
  · rintro ⟨params, inside, enough, same⟩
    exact ⟨tokens, [], params, by simp, inside, enough, rfl, same⟩

/-! ### Operators -/

/-- An operator token has a single character as its text. -/
theorem lexeme_of_isOperator {token : Token} (spelled : token.Spelled)
    (operator : token.kind.isOperator) : ∃ op : Char, token.lexeme = op.toString := by
  obtain ⟨kind, lexeme, position⟩ := token
  unfold Token.Spelled at spelled
  have single : ∃ op, lexeme.toList = [op] := by
    cases kind with
    | operator =>
      obtain ⟨op, same, -⟩ := spelled
      exact ⟨op, same⟩
    | equal | plus | minus | star | slash | less | greater => exact ⟨_, spelled⟩
    | _ => cases operator
  obtain ⟨op, same⟩ := single
  exact ⟨op, by simp [← String.toList_inj, same]⟩

theorem toString_eq_iff (op other : Char) : op.toString = other.toString ↔ op = other := by
  simp [← String.toList_inj]

/-- The operator that a token names is all of its text. -/
theorem operator?_eq_some_iff {token : Token} (spelled : token.Spelled) (op : Char) :
    token.operator? = some op ↔ token.kind.isOperator ∧ token.lexeme = op.toString := by
  by_cases operator : token.kind.isOperator
  · obtain ⟨other, text⟩ := lexeme_of_isOperator spelled operator
    simp [Token.operator?, operator, text]
  · simp [Token.operator?, operator]

/-- That a token names an operator, and not the one for assignment. -/
structure NamesOperator (token : Token) (op : Char) : Prop where
  kind : token.kind.isOperator
  text : token.lexeme = op.toString
  other : op ≠ '='

theorem namesOperator_iff {token : Token} (spelled : token.Spelled) (op : Char) :
    NamesOperator token op ↔ token.operator? = some op ∧ op ≠ '=' := by
  rw [operator?_eq_some_iff spelled]
  exact ⟨fun ⟨kind, text, other⟩ => ⟨⟨kind, text⟩, other⟩,
    fun ⟨⟨kind, text⟩, other⟩ => ⟨kind, text, other⟩⟩

theorem declaredOperator_eq_ok_iff {s : Session} (lexed : s.Lexed) (op : Char) :
    (declaredOperator s).result = .ok op ↔ NamesOperator s.current op := by
  rw [namesOperator_iff lexed.current]
  unfold declaredOperator
  split
  · next none => simp [none]
  · next found named kind =>
    have assignment := (lexed.current.operator named).2.mpr kind
    simp [named, assignment, eq_comm]
  · next found named other =>
    have differs := mt (lexed.current.operator named).2.mp other
    simp only [Reply.result_map, Session.take, Except.map, Except.ok.injEq, named,
      Option.some.injEq]
    exact ⟨fun same => ⟨same, same ▸ differs⟩, And.left⟩

theorem recognizes_declaredOperator {s : Session} (lexed : s.Lexed) :
    Recognizes (declaredOperator s) fun tokens _ op =>
      ∃ token, tokens = [token] ∧ NamesOperator token op := by
  refine recognizes_token (declaredOperator_eq_ok_iff lexed) (fun op => ?_) ?_
  · unfold declaredOperator
    split
    · rintro ⟨⟩
    · rintro ⟨⟩
    · exact fun _ => rfl
  · rintro token op ⟨operator, -, -⟩ finish
    simp [finish, Kind.isOperator] at operator

/-! ### Precedences -/

/-- A numeral without a point consists of digits. -/
theorem all_isDigit_iff {text : List Char} (spelled : IsNumeral text) :
    (text ≠ [] ∧ ∀ c ∈ text, c.isDigit) ↔ '.' ∉ text := by
  constructor
  · rintro ⟨-, digits⟩ point
    exact absurd (digits '.' point) (by decide)
  · intro whole
    obtain ⟨digits, each, ⟨rfl, nonempty⟩ | ⟨fraction, rfl, -⟩⟩ := spelled
    · exact ⟨nonempty, each⟩
    · exact absurd (by simp) whole

/-- The precedences are the whole numbers in their range. -/
theorem precedenceOf?_eq_some_iff {numeral : String} (spelled : IsNumeral numeral.toList)
    (value : Int) : precedenceOf? numeral = some value ↔
      '.' ∉ numeral.toList ∧ value = (Nat.ofDigitChars 10 numeral.toList 0 : Nat) ∧
        1 ≤ value ∧ value ≤ 100 := by
  have read : Decimal.digitsValue numeral.toList = Nat.ofDigitChars 10 numeral.toList 0 := rfl
  rw [← all_isDigit_iff spelled]
  unfold precedenceOf? leastPrecedence greatestPrecedence
  simp only [read, Bool.and_eq_true, Bool.not_eq_true', List.isEmpty_eq_false_iff, List.all_eq_true,
    decide_eq_true_eq, Option.ite_none_right_eq_some, Option.some.injEq]
  constructor
  · rintro ⟨⟨⟨⟨nonempty, digits⟩, least⟩, greatest⟩, rfl⟩
    exact ⟨⟨nonempty, digits⟩, rfl, by omega⟩
  · rintro ⟨⟨nonempty, digits⟩, rfl, range⟩
    exact ⟨⟨⟨⟨nonempty, digits⟩, by omega⟩, by omega⟩, rfl⟩

theorem recognizes_precedence {s : Session} (lexed : s.Lexed) (kind : s.current.kind = .number) :
    Recognizes (precedence s) fun tokens _ value =>
      ∃ token, tokens = [token] ∧ IsPrecedence token value := by
  have numeral : IsNumeral s.current.lexeme.toList := by
    have spelled := lexed.current
    rwa [Token.Spelled, kind] at spelled
  refine recognizes_token (fun value => ?_) (fun value => ?_) fun token value given => ?_
  · have answer : (precedence s).result = .ok value ↔
        precedenceOf? s.current.lexeme = some value := by
      rw [precedence, Session.take_andThen, Reply.result_since]
      split
      · next found same => simp [same]
      · next none => simp [none]
    rw [answer, precedenceOf?_eq_some_iff numeral]
    constructor
    · rintro ⟨whole, read, range⟩
      exact ⟨kind, whole, read, range⟩
    · rintro ⟨-, whole, read, range⟩
      exact ⟨whole, read, range⟩
  · rw [precedence, Session.take_andThen, Reply.result_since, Reply.after_since]
    split
    · exact fun _ => rfl
    · rintro ⟨⟩
  · simp [given.kind]

/-- A precedence is missing exactly if no number comes. -/
theorem recognizes_optionalPrecedence {s : Session} (lexed : s.Lexed) :
    Recognizes (optionalPrecedence s) fun tokens rest found => ∃ numeral : Option Token,
      tokens = numeral.toList ∧ Option.Rel IsPrecedence numeral found ∧
        (found = none → ∀ token ∈ rest.head?, token.kind ≠ .number) := by
  unfold optionalPrecedence
  split
  · next kind =>
    have next : s.ahead = s.current :: s.advance.ahead := ahead_eq_current (by simp [kind])
    refine ((recognizes_precedence lexed kind).map some).congr fun tokens rest found ahead => ?_
    constructor
    · rintro ⟨value, ⟨token, rfl, given⟩, rfl⟩
      exact ⟨some token, rfl, .some given, by simp⟩
    · rintro ⟨_, rfl, @⟨token, value, given⟩ | _, stops⟩
      · exact ⟨value, ⟨token, rfl, given⟩, rfl⟩
      · obtain rfl : s.ahead = rest := ahead
        exact absurd kind (stops rfl s.current (by simp [next]))
  · next other =>
    refine (recognizes_pure none).congr fun tokens rest found ahead => ?_
    constructor
    · rintro ⟨rfl, rfl⟩
      refine ⟨none, rfl, .none, fun _ token member => ?_⟩
      obtain ⟨more, rfl⟩ : ∃ more, rest = token :: more := List.head?_eq_some_iff.mp member
      rwa [← (current_of_ahead ahead).1]
    · rintro ⟨_, rfl, @⟨token, value, given⟩ | _, -⟩
      · exact absurd ((current_of_ahead ahead).1 ▸ given.kind) other
      · exact ⟨rfl, rfl⟩

theorem recognizes_declaredBinary {s : Session} (lexed : s.Lexed) :
    Recognizes (declaredBinary s) fun tokens rest found =>
      ∃ (token : Token) (numeral : Option Token), tokens = token :: numeral.toList ∧
        NamesOperator token found.1 ∧ found.1 ∉ builtinOperators ∧
        Option.Rel IsPrecedence numeral found.2 ∧
        (found.2 = none → ∀ token ∈ rest.head?, token.kind ≠ .number) := by
  have following := lexed.follows (declaredOperator s).follows
  simp only [declaredBinary, ← ite_not (_ ∈ builtinOperators)]
  refine Recognizes.congr (Recognizes.andThen (recognizes_declaredOperator lexed) fun op =>
    ((recognizes_optionalPrecedence following).map fun precedence => (op, precedence)).when)
    fun tokens rest found _ => ?_
  constructor
  · rintro ⟨_, _, op, rfl, ⟨token, rfl, names⟩, free, precedence, ⟨numeral, rfl, given⟩, rfl⟩
    exact ⟨token, numeral, rfl, names, free, given⟩
  · rintro ⟨token, numeral, rfl, names, free, given⟩
    exact ⟨[token], numeral.toList, found.1, rfl, ⟨token, rfl, names⟩, free, found.2,
      ⟨numeral, rfl, given⟩, rfl⟩

/-! ### Prototypes -/

theorem recognizes_unary {s : Session} (lexed : s.Lexed) (position : Position) :
    Recognizes ((declaredOperator s).andThen fun op s _ => operands .unary op none 1 position s)
      fun tokens _ found => ∃ operator inside operand, tokens = operator :: inside ∧
        operator.kind.isOperator ∧ operator.lexeme ≠ "=" ∧ DerivesParameters inside [operand] ∧
        found = ⟨"unary" ++ operator.lexeme, [operand], .unary, none, position⟩ := by
  refine Recognizes.congr (Recognizes.andThen (recognizes_declaredOperator lexed) fun op =>
    recognizes_operands .unary op none 1 position _) fun tokens rest found ahead => ?_
  constructor
  · rintro ⟨_, inside, op, rfl, ⟨token, rfl, names⟩, params, derives, one, rfl⟩
    obtain ⟨operand, rfl⟩ := List.length_eq_one_iff.mp one
    refine ⟨token, inside, operand, rfl, names.kind, ?_, derives, by rw [names.text]; rfl⟩
    rw [names.text]
    exact mt (toString_eq_iff op '=').mp names.other
  · rintro ⟨token, inside, operand, rfl, operator, other, derives, rfl⟩
    obtain ⟨op, text⟩ := lexeme_of_isOperator (lexed token (by simp [ahead])) operator
    rw [text] at other
    have names : NamesOperator token op := ⟨operator, text, mt (toString_eq_iff op '=').mpr other⟩
    exact ⟨[token], inside, op, rfl, ⟨token, rfl, names⟩, [operand], derives, rfl,
      by rw [text]; rfl⟩

theorem not_mem_reserved_iff (op : Char) :
    op.toString ∉ ["=", "+", "-", "*", "/", "<", ">"] ↔ op ≠ '=' ∧ op ∉ builtinOperators := by
  simp [builtinOperators, ← String.toList_inj]

theorem recognizes_binary {s : Session} (lexed : s.Lexed) (position : Position) :
    Recognizes ((declaredBinary s).andThen fun found s _ =>
        operands .binary found.1 found.2 2 position s)
      fun tokens _ found => ∃ operator numeral inside left right precedence,
        tokens = operator :: (numeral.toList ++ inside) ∧ operator.kind.isOperator ∧
        operator.lexeme ∉ ["=", "+", "-", "*", "/", "<", ">"] ∧
        Option.Rel IsPrecedence numeral precedence ∧ DerivesParameters inside [left, right] ∧
        found = ⟨"binary" ++ operator.lexeme, [left, right], .binary, precedence, position⟩ := by
  refine Recognizes.congr (Recognizes.andThen (recognizes_declaredBinary lexed) fun given =>
    recognizes_operands .binary given.1 given.2 2 position _) fun tokens rest found ahead => ?_
  constructor
  · rintro ⟨_, inside, ⟨op, precedence⟩, rfl, ⟨token, numeral, rfl, names, free, given, -⟩, params,
      derives, two, rfl⟩
    obtain ⟨left, right, rfl⟩ := List.length_eq_two.mp two
    refine ⟨token, numeral, inside, left, right, precedence, rfl, names.kind, ?_, given, derives,
      by rw [names.text]; rfl⟩
    rw [names.text]
    exact (not_mem_reserved_iff op).mpr ⟨names.other, free⟩
  · rintro ⟨token, numeral, inside, left, right, precedence, rfl, operator, free, given, derives,
      rfl⟩
    obtain ⟨op, text⟩ := lexeme_of_isOperator (lexed token (by simp [ahead])) operator
    rw [text, not_mem_reserved_iff] at free
    -- Where there is no precedence a parenthesis comes next, so no number is passed by.
    have stops : ∀ token ∈ (inside ++ rest).head?, token.kind ≠ .number := by
      obtain ⟨opening, more, rfl, opens⟩ := derives.opening
      simp [opens]
    exact ⟨token :: numeral.toList, inside, (op, precedence), rfl,
      ⟨token, numeral, rfl, ⟨operator, text, free.1⟩, free.2, given, fun _ => stops⟩,
      [left, right], derives, rfl, by rw [text]; rfl⟩

/-- The first token tells the role of a prototype. -/
theorem kind_of_derives {s : Session} {tokens rest : List Token} {found : Prototype}
    (derives : DerivesPrototype tokens found) (ahead : s.ahead = tokens ++ rest) :
    s.current.kind = match found.role with
      | .function => .identifier
      | .unary => .keyword .unary
      | .binary => .keyword .binary := by
  cases derives with
  | function kind => rw [(current_of_ahead ahead).1, kind]
  | unary begins => rw [(current_of_ahead ahead).1, begins]
  | binary begins => rw [(current_of_ahead ahead).1, begins]

theorem recognizes_prototype {s : Session} (lexed : s.Lexed) :
    Recognizes (prototype s) fun tokens _ found => DerivesPrototype tokens found := by
  have after := lexed.follows s.advance_follows
  unfold prototype
  simp only [Session.take_andThen]
  split
  · next kind =>
    refine ((recognizes_unary after s.current.position).advance (by simp [kind])).congr
      fun tokens rest found ahead => ⟨?_, fun derives => ?_⟩
    · rintro ⟨_, rfl, operator, inside, operand, rfl, named, other, derives, rfl⟩
      exact .unary kind named other derives
    · have role := kind.symm.trans (kind_of_derives derives ahead)
      cases derives with
      | function | binary => cases role
      | unary _ named other inside =>
        obtain rfl := (current_of_ahead ahead).1
        exact ⟨_, rfl, _, _, _, rfl, named, other, inside, rfl⟩
  · next kind =>
    refine ((recognizes_binary after s.current.position).advance (by simp [kind])).congr
      fun tokens rest found ahead => ⟨?_, fun derives => ?_⟩
    · rintro ⟨_, rfl, operator, numeral, inside, left, right, precedence, rfl, named, other, given,
        derives, rfl⟩
      exact .binary kind named other given derives
    · have role := kind.symm.trans (kind_of_derives derives ahead)
      cases derives with
      | function | unary => cases role
      | binary _ named other given inside =>
        obtain rfl := (current_of_ahead ahead).1
        exact ⟨_, rfl, _, _, _, _, _, _, rfl, named, other, given, inside, rfl⟩
  · next kind =>
    refine Recognizes.congr (Recognizes.advance (Recognizes.map (recognizes_parameters _) _)
      (by simp [kind])) fun tokens rest found ahead => ⟨?_, fun derives => ?_⟩
    · rintro ⟨_, rfl, params, inside, rfl⟩
      exact .function kind inside
    · have role := kind.symm.trans (kind_of_derives derives ahead)
      cases derives with
      | unary | binary => cases role
      | function _ inside =>
        obtain rfl := (current_of_ahead ahead).1
        exact ⟨_, rfl, _, inside, rfl⟩
  · next notUnary notBinary notName =>
    refine (recognizes_fail _).congr fun tokens rest found ahead => ⟨False.elim, fun derives => ?_⟩
    have kind := kind_of_derives derives ahead
    cases derives with
    | function => exact notName kind
    | unary => exact notUnary kind
    | binary => exact notBinary kind

/-- In every session of a source a prototype is read exactly if the tokens ahead begin with some
that derive it, and then exactly these are read; if they begin with none, there is an error. What is
declared stays as it was, in both cases. -/
theorem prototype_recognizes_grammar {source : String} {s : Session} (reached : s.Reached source) :
    (∀ found rest, ((prototype s).result = .ok found ∧ (prototype s).after.ahead = rest) ↔
      ∃ tokens, s.ahead = tokens ++ rest ∧ DerivesPrototype tokens found) ∧
    ((∃ diagnostic, (prototype s).result = .error diagnostic) ↔
      ¬ ∃ tokens found, tokens <+: s.ahead ∧ DerivesPrototype tokens found) ∧
    (prototype s).after.tables = s.tables := by
  have recognizes := recognizes_prototype reached.consistent.lexed
  refine ⟨recognizes, ?_, (closed_reads.prototype s).tables⟩
  constructor
  · rintro ⟨diagnostic, failed⟩ ⟨tokens, found, ⟨rest, ahead⟩, derives⟩
    cases failed.symm.trans ((recognizes found rest).mpr ⟨tokens, ahead.symm, derives⟩).1
  · intro underivable
    cases read : (prototype s).result with
    | error diagnostic => exact ⟨diagnostic, rfl⟩
    | ok found =>
      obtain ⟨tokens, ahead, derives⟩ := (recognizes found _).mp ⟨read, rfl⟩
      exact absurd ⟨tokens, found, ⟨_, ahead.symm⟩, derives⟩ underivable

/-- Leading zeros do not count for a precedence, and a point after it is refused. -/
theorem prototype_recognizes_grammar_precedences :
    (∃ tokens rest, (Session.ofSource "binary | 0007 (a b) a").ahead = tokens ++ rest ∧
      rest.map Token.lexeme = ["a"] ∧
      DerivesPrototype tokens ⟨"binary|", ["a", "b"], .binary, some 7, ⟨1, 1⟩⟩) ∧
    ¬ ∃ tokens found, tokens <+: (Session.ofSource "binary | 7. (a b) a").ahead ∧
      DerivesPrototype tokens found := by
  constructor
  · have reached : Session.Reached "binary | 0007 (a b) a" _ := .start
    obtain ⟨tokens, ahead, derives⟩ := ((prototype_recognizes_grammar reached).1
      ⟨"binary|", ["a", "b"], .binary, some 7, ⟨1, 1⟩⟩ [⟨.identifier, "a", ⟨1, 21⟩⟩]).mp
      (by decide +kernel)
    exact ⟨tokens, _, ahead, rfl, derives⟩
  · refine (prototype_recognizes_grammar .start).2.1.mp ?_
    exact ⟨⟨.invalidPrecedence "7.", ⟨1, 10⟩⟩, by decide +kernel⟩

end Kaleido.Grammar
