import Kaleido.Proofs.Reading

/-!
# Which tokens an expression is read from

The grammar of expressions as a relation between tokens and trees, in which parentheses may stand
around any expression. It leaves open how a chain of operators is grouped. Main statement: the
tokens that were read for an expression derive it, each of them in its place.
-/
namespace Kaleido.Grammar

/-! ## The grammar -/

/-- An expression after a mark, as the step of a loop and the initial value of a variable are. -/
structure Clause where
  mark : Token
  tokens : List Token
  expr : Expr

/-- The tokens of a clause that can be missing. -/
def clauseTokens : Option Clause → List Token
  | none => []
  | some clause => clause.mark :: clause.tokens

/-- That chunks of tokens are divided by commas. -/
inductive Separated : List (List Token) → List Token → Prop where
  | none : Separated [] []
  | one (chunk : List Token) : Separated [chunk] chunk
  | more {comma : Token} {chunk next : List Token} {chunks : List (List Token)}
      {tokens : List Token} (kind : comma.kind = .comma) (rest : Separated (next :: chunks) tokens) :
      Separated (chunk :: next :: chunks) (chunk ++ comma :: tokens)

/-- That tokens derive an expression, with the binary operators of a table. -/
inductive Derives (table : Operators) : List Token → Expr → Prop where
  | number {token : Token} {value : Binary64} (kind : token.kind = .number)
      (read : Binary64.ofText? token.lexeme = some value) : Derives table [token] (.number value)
  | var {token : Token} (kind : token.kind = .identifier) :
      Derives table [token] (.var token.lexeme)
  | call {name opening closing : Token} {parts : List (List Token × Expr)} {tokens : List Token}
      (kind : name.kind = .identifier) (opens : opening.kind = .leftParen)
      (closes : closing.kind = .rightParen) (divided : Separated (parts.map Prod.fst) tokens)
      (inner : ∀ part ∈ parts, Derives table part.1 part.2) :
      Derives table (name :: opening :: (tokens ++ [closing]))
        (.call name.lexeme (parts.map Prod.snd))
  | parenthesized {opening closing : Token} {tokens : List Token} {expr : Expr}
      (opens : opening.kind = .leftParen) (closes : closing.kind = .rightParen)
      (inner : Derives table tokens expr) : Derives table (opening :: (tokens ++ [closing])) expr
  | unary {token : Token} {op : Char} {tokens : List Token} {operand : Expr}
      (named : token.operator? = some op) (other : token.kind ≠ .equal)
      (inner : Derives table tokens operand) : Derives table (token :: tokens) (.unary op operand)
  | binary {token : Token} {op : Char} {before after : List Token} {left right : Expr}
      (named : token.operator? = some op) (other : op ≠ '=') (known : table.contains op)
      (leftSide : Derives table before left) (rightSide : Derives table after right) :
      Derives table (before ++ token :: after) (.binary op left right)
  | assign {token : Token} {before after : List Token} {target : String} {value : Expr}
      (named : token.operator? = some '=') (leftSide : Derives table before (.var target))
      (rightSide : Derives table after value) :
      Derives table (before ++ token :: after) (.assign target value)
  | conditional {start middle other : Token} {first second third : List Token}
      {condition whenTrue whenFalse : Expr} (begins : start.kind = .keyword .condition)
      (continues : middle.kind = .keyword .consequence)
      (turns : other.kind = .keyword .alternative) (inFirst : Derives table first condition)
      (inSecond : Derives table second whenTrue) (inThird : Derives table third whenFalse) :
      Derives table (start :: (first ++ middle :: (second ++ other :: third)))
        (.conditional condition [whenTrue] [whenFalse])
  | loop {start counter equal comma middle : Token} {initial limit : List Token}
      {step : Option Clause} {inner : List Token} {first last body : Expr}
      (begins : start.kind = .keyword .repetition) (kind : counter.kind = .identifier)
      (assigns : equal.kind = .equal) (divides : comma.kind = .comma)
      (continues : middle.kind = .keyword .within) (inFirst : Derives table initial first)
      (inLast : Derives table limit last) (marked : ∀ clause ∈ step, clause.mark.kind = .comma)
      (inStep : ∀ clause ∈ step, Derives table clause.tokens clause.expr)
      (inBody : Derives table inner body) :
      Derives table
        (start :: counter :: equal :: (initial ++ comma :: (limit ++ clauseTokens step ++
          middle :: inner)))
        (.loop counter.lexeme first last (step.map Clause.expr) [body])
  | locals {start middle : Token} {parts : List (Token × Option Clause)} {tokens inner : List Token}
      {body : Expr} (begins : start.kind = .keyword .locals)
      (continues : middle.kind = .keyword .within) (some : parts ≠ [])
      (kinds : ∀ part ∈ parts, part.1.kind = .identifier)
      (marked : ∀ part ∈ parts, ∀ clause ∈ part.2, clause.mark.kind = .equal)
      (divided : Separated (parts.map fun part => part.1 :: clauseTokens part.2) tokens)
      (inParts : ∀ part ∈ parts, ∀ clause ∈ part.2, Derives table clause.tokens clause.expr)
      (inBody : Derives table inner body) :
      Derives table (start :: (tokens ++ middle :: inner))
        (.locals (parts.map fun part => (part.1.lexeme, part.2.map Clause.expr)) body)

/-- What the reader of arguments answers with, the parenthesis after them included. -/
def DerivesArguments (table : Operators) (tokens : List Token) (arguments : List Expr) : Prop :=
  ∃ (parts : List (List Token × Expr)) (inner : List Token) (closing : Token),
    tokens = inner ++ [closing] ∧ closing.kind = .rightParen ∧
    Separated (parts.map Prod.fst) inner ∧ (∀ part ∈ parts, Derives table part.1 part.2) ∧
    parts ≠ [] ∧ arguments = parts.map Prod.snd

/-- What the reader of an expression after a mark answers with. -/
def DerivesClause (table : Operators) (mark : Kind) (tokens : List Token) (expr : Option Expr) :
    Prop :=
  ∃ clause : Option Clause, tokens = clauseTokens clause ∧ expr = clause.map Clause.expr ∧
    (∀ found ∈ clause, found.mark.kind = mark) ∧
    ∀ found ∈ clause, Derives table found.tokens found.expr

/-- What the reader of local variables answers with. -/
def DerivesBindings (table : Operators) (tokens : List Token)
    (bindings : List (String × Option Expr)) : Prop :=
  ∃ parts : List (Token × Option Clause), parts ≠ [] ∧
    (∀ part ∈ parts, part.1.kind = .identifier) ∧
    (∀ part ∈ parts, ∀ clause ∈ part.2, clause.mark.kind = .equal) ∧
    Separated (parts.map fun part => part.1 :: clauseTokens part.2) tokens ∧
    (∀ part ∈ parts, ∀ clause ∈ part.2, Derives table clause.tokens clause.expr) ∧
    bindings = parts.map fun part => (part.1.lexeme, part.2.map Clause.expr)

theorem Separated.cons {comma : Token} {chunk : List Token} {chunks : List (List Token)}
    {tokens : List Token} (kind : comma.kind = .comma) (rest : Separated chunks tokens)
    (some : chunks ≠ []) : Separated (chunk :: chunks) (chunk ++ comma :: tokens) := by
  obtain ⟨next, later, rfl⟩ := List.exists_cons_of_ne_nil some
  exact .more kind rest

/-! ## Replies and the tokens read for them -/

/-- That a result comes of the tokens that were read, in a given way. -/
def Yields {s : Session} {α : Type} (reply : Reply s α) (form : List Token → α → Prop) : Prop :=
  ∀ a, reply.result = .ok a → ∃ tokens, s.ahead = tokens ++ reply.after.ahead ∧ form tokens a

section
variable {s : Session} {α β : Type} {form : List Token → α → Prop}

theorem yields_pure {a : α} (given : form [] a) : Yields (.pure s a) form := by
  rintro _ ⟨⟩
  exact ⟨[], rfl, given⟩

theorem yields_fail (diagnostic : Diagnostic) : Yields (.fail s diagnostic) form := by
  rintro _ ⟨⟩

theorem yields_map {reply : Reply s α} {f : α → β} {changed : List Token → β → Prop}
    (yields : Yields reply form) (change : ∀ tokens a, form tokens a → changed tokens (f a)) :
    Yields (reply.map f) changed := by
  intro b result
  obtain ⟨a, held, rfl⟩ := (Reply.result_map_eq_ok_iff ..).mp result
  obtain ⟨tokens, read, given⟩ := yields a held
  exact ⟨tokens, read, change tokens a given⟩

/-- Before the end of the source, the next token is the first of those ahead. -/
theorem ahead_eq_current (more : s.current.kind ≠ .finish) :
    s.ahead = s.current :: s.advance.ahead := by
  unfold Session.advance Session.current at *
  cases ahead : s.ahead with
  | nil => simp [ahead] at more
  | cons token rest => rfl

theorem yields_advance {reply : Reply s.advance α} (more : s.current.kind ≠ .finish)
    (yields : Yields reply fun tokens => form (s.current :: tokens)) :
    Yields (reply.since s.advance_follows) form := by
  intro a result
  obtain ⟨tokens, read, given⟩ := yields a result
  refine ⟨s.current :: tokens, ?_, given⟩
  rw [ahead_eq_current more, read]
  rfl

theorem yields_take (more : s.current.kind ≠ .finish) :
    Yields s.take fun tokens token => tokens = [token] ∧ token = s.current := by
  rintro _ ⟨⟩
  exact ⟨[s.current], ahead_eq_current more, rfl, rfl⟩

theorem yields_expect {kind : Kind} (inner : kind ≠ .finish) (expected : String) :
    Yields (s.expect (· = kind) expected) fun tokens token => tokens = [token] ∧ token.kind = kind := by
  unfold Session.expect
  split
  · next found =>
    have same : s.current.kind = kind := of_decide_eq_true found
    intro token result
    obtain ⟨tokens, read, single, rfl⟩ := yields_take (by rwa [same]) token result
    exact ⟨tokens, read, single, same⟩
  · exact yields_fail _

/-- Two readers one after the other read the tokens of the first and then those of the second. The
second one finds the operators that the first one found, since reading declares nothing. -/
theorem yields_andThen {reply : Reply s α} {after : List Token → β → Prop}
    {next : α → (after : Session) → after.remaining ≤ s.remaining → Reply after β}
    (reads : s.ReadsTo reply.after) (yields : Yields reply form)
    (more : ∀ a tokens (s₁ : Session) le, s₁.operators = s.operators → form tokens a →
      Yields (next a s₁ le) fun rest => after (tokens ++ rest)) :
    Yields (reply.andThen next) after := by
  intro b result
  obtain ⟨a, held, result⟩ := (Reply.result_andThen_eq_ok_iff ..).mp result
  obtain ⟨tokens, read, given⟩ := yields a held
  obtain ⟨rest, later, found⟩ := more a tokens _ reply.follows.le reads.operators given b result
  refine ⟨tokens ++ rest, ?_, found⟩
  rw [Reply.after_andThen_of_ok held, read, later, List.append_assoc]

end

/-! ## The readers -/

variable {table : Operators}

/-- An operator that binds is in the table. -/
theorem contains_of_precedence {s : Session} {op : Char} (named : s.current.operator? = some op)
    (binds : 0 ≤ s.precedence) : s.operators.contains op := by
  unfold Table.contains
  cases entry : s.operators.find? op with
  | some precedence => rfl
  | none => simp [Session.precedence, named, Operators.precedence?, entry] at binds

theorem derives_operate {token : Token} {op : Char} {before after : List Token}
    {left right combined : Expr} {position : Position} (named : token.operator? = some op)
    (known : table.contains op) (leftSide : Derives table before left)
    (rightSide : Derives table after right)
    (operated : operate op left right position = .ok combined) :
    Derives table (before ++ token :: after) combined := by
  unfold operate at operated
  split at operated
  · next assignment =>
    subst assignment
    split at operated
    · obtain rfl := Except.ok.inj operated
      exact .assign named leftSide rightSide
    · cases operated
  · next other =>
    obtain rfl := Except.ok.inj operated
    exact .binary named other known leftSide rightSide

theorem yields_number {s : Session} (kind : s.current.kind = .number) :
    Yields (number s) (Derives table) := by
  unfold number
  split
  · next value read =>
    refine yields_map (yields_take (by simp [kind])) ?_
    rintro tokens token ⟨rfl, rfl⟩
    exact .number kind read
  · exact yields_fail _

theorem yields_closing (s : Session) :
    Yields (closing s) fun tokens token => tokens = [token] ∧ token.kind = .rightParen := by
  unfold closing
  split
  · next kind =>
    intro token result
    obtain ⟨tokens, read, single, rfl⟩ := yields_take (by simp [kind]) token result
    exact ⟨tokens, read, single, kind⟩
  · exact yields_fail _

-- The readers call one another as their definitions do, with the same measure.
mutual

/-- The tokens that are read for an expression derive it. -/
theorem yields_expression (s : Session) (same : s.operators = table) :
    Yields (expression s) (Derives table) := by
  rw [expression]
  refine yields_andThen (closed_reads.unary s) (yields_unary s same) ?_
  intro left tokens s₁ _ kept derived
  exact yields_operations (Int.le_refl 0) derived s₁ (kept.trans same)
termination_by 8 * s.remaining + 3
decreasing_by all_goals omega

theorem yields_unary (s : Session) (same : s.operators = table) :
    Yields (unary s) (Derives table) := by
  rw [unary]
  split
  · next op named =>
    split
    · exact yields_primary s same
    · next other =>
      refine yields_advance (Token.kind_ne_finish named) ?_
      refine yields_map (yields_unary s.advance same) fun tokens operand derived => ?_
      exact .unary named other derived
  · exact yields_primary s same
termination_by 8 * s.remaining + 2
decreasing_by
  · have := s.remaining_advance_lt (Token.kind_ne_finish ‹_›)
    omega
  · omega
  · omega

theorem yields_primary (s : Session) (same : s.operators = table) :
    Yields (primary s) (Derives table) := by
  rw [primary]
  split
  · next kind => exact yields_number kind
  · next kind =>
    refine yields_advance (by simp [kind]) ?_
    exact yields_application kind s.advance same
  · next kind =>
    refine yields_advance (by simp [kind]) ?_
    exact yields_parenthesized kind s.advance same
  · next kind =>
    refine yields_advance (by simp [kind]) ?_
    exact yields_conditional kind s.advance same
  · next kind =>
    refine yields_advance (by simp [kind]) ?_
    exact yields_loop kind s.advance same
  · next kind =>
    refine yields_advance (by simp [kind]) ?_
    exact yields_locals kind s.advance same
  · exact yields_fail _
termination_by 8 * s.remaining + 1
decreasing_by
  all_goals
    have := s.remaining_advance_lt (by simp [*])
    omega

/-- The tokens of an operand and those of the operations after it derive what comes of them. -/
theorem yields_operations {least : Int} (nonneg : 0 ≤ least) {left : Expr} {before : List Token}
    (derived : Derives table before left) (s : Session) (same : s.operators = table) :
    Yields (operations least left s) fun tokens => Derives table (before ++ tokens) := by
  rw [operations]
  split
  · exact yields_pure (by simpa using derived)
  · next tight =>
    have binds : 0 ≤ s.precedence := by omega
    split
    · next none =>
      obtain ⟨op, named⟩ := operator?_isSome_of_precedence binds
      cases none.symm.trans named
    · next op named =>
      have known : table.contains op := same ▸ contains_of_precedence named binds
      refine yields_advance (Token.kind_ne_finish named) ?_
      refine yields_andThen (closed_reads.unary s.advance) (yields_unary s.advance same) ?_
      intro operand tokens s₁ _ kept inOperand
      have onRight : Yields (if s.precedence < s₁.precedence ∨
            (op = '=' ∧ s.precedence = s₁.precedence) then
            operations (if op = '=' then s.precedence else s.precedence + 1) operand s₁
          else .pure s₁ operand) fun more => Derives table (tokens ++ more) := by
        split
        · exact yields_operations (by split <;> omega) inOperand s₁ (kept.trans same)
        · exact yields_pure (by simpa using inOperand)
      refine yields_andThen ?_ onRight ?_
      · split
        · exact closed_reads.operations (by split <;> omega) operand s₁
        · exact closed_reads.pure _
      · intro right more s₂ _ kept₂ inRight
        split
        · next combined operated =>
          have whole := derives_operate named known derived inRight operated
          have rest := yields_operations nonneg whole s₂ (kept₂.trans (kept.trans same))
          simpa using rest
        · exact yields_fail _
termination_by 8 * s.remaining
decreasing_by
  all_goals
    have := s.remaining_advance_lt (Token.kind_ne_finish ‹_›)
    omega

theorem yields_application {name : Token} (kind : name.kind = .identifier) (s : Session)
    (same : s.operators = table) :
    Yields (application name.lexeme s) fun tokens => Derives table (name :: tokens) := by
  rw [application]
  split
  · next opens =>
    refine yields_advance (by simp [opens]) ?_
    split
    · next closes =>
      refine yields_map (yields_take (by simp [closes])) ?_
      rintro tokens token ⟨rfl, rfl⟩
      have empty : Separated (([] : List (List Token × Expr)).map Prod.fst) [] := .none
      exact .call kind opens closes empty (by simp)
    · refine yields_map (yields_arguments s.advance same) ?_
      rintro tokens _ ⟨parts, inner, closing, rfl, closes, divided, inParts, some, rfl⟩
      exact .call kind opens closes divided inParts
  · exact yields_pure (.var kind)
termination_by 8 * s.remaining + 5
decreasing_by
  have := s.remaining_advance_lt (by simp [*])
  omega

theorem yields_arguments (s : Session) (same : s.operators = table) :
    Yields (arguments s) (DerivesArguments table) := by
  rw [arguments]
  refine yields_andThen (closed_reads.expression s) (yields_expression s same) ?_
  intro argument tokens s₁ _ kept derived
  split
  · next closes =>
    refine yields_map (yields_take (by simp [closes])) ?_
    rintro _ closing ⟨rfl, rfl⟩
    exact ⟨[(tokens, argument)], tokens, _, rfl, closes, .one tokens, by simpa using derived,
      by simp, rfl⟩
  · next divides =>
    refine yields_advance (by simp [divides]) ?_
    refine yields_map (yields_arguments s₁.advance (kept.trans same)) ?_
    rintro _ _ ⟨parts, inner, closing, rfl, closes, divided, inParts, some, rfl⟩
    refine ⟨(tokens, argument) :: parts, tokens ++ s₁.current :: inner, closing, by simp, closes,
      divided.cons divides (by simpa using some), ?_, by simp, rfl⟩
    exact List.forall_mem_cons.mpr ⟨derived, inParts⟩
  · exact yields_fail _
termination_by 8 * s.remaining + 4
decreasing_by
  · omega
  · have := Session.remaining_advance_lt ‹_› (by simp [*])
    omega

theorem yields_parenthesized {opening : Token} (opens : opening.kind = .leftParen) (s : Session)
    (same : s.operators = table) :
    Yields (parenthesized s) fun tokens => Derives table (opening :: tokens) := by
  rw [parenthesized]
  refine yields_andThen (closed_reads.expression s) (yields_expression s same) ?_
  intro inner tokens s₁ _ _ derived
  refine yields_map (yields_closing s₁) ?_
  rintro _ closing ⟨rfl, closes⟩
  exact .parenthesized opens closes derived
termination_by 8 * s.remaining + 4
decreasing_by omega

theorem yields_conditional {start : Token} (begins : start.kind = .keyword .condition) (s : Session)
    (same : s.operators = table) :
    Yields (conditional s) fun tokens => Derives table (start :: tokens) := by
  rw [conditional]
  refine yields_andThen (closed_reads.expression s) (yields_expression s same) ?_
  intro condition first s₁ _ kept inFirst
  refine yields_andThen (closed_reads.expectKind _ _ rfl) (yields_expect (by simp) _) ?_
  rintro middle _ s₂ _ kept₂ ⟨rfl, continues⟩
  have same₂ : s₂.operators = table := kept₂.trans (kept.trans same)
  refine yields_andThen (closed_reads.expression s₂) (yields_expression s₂ same₂) ?_
  intro whenTrue second s₃ _ kept₃ inSecond
  refine yields_andThen (closed_reads.expectKind _ _ rfl) (yields_expect (by simp) _) ?_
  rintro other _ s₄ _ kept₄ ⟨rfl, turns⟩
  have same₄ : s₄.operators = table := kept₄.trans (kept₃.trans same₂)
  refine yields_map (yields_expression s₄ same₄) fun third whenFalse inThird => ?_
  simpa using Derives.conditional begins continues turns inFirst inSecond inThird
termination_by 8 * s.remaining + 4
decreasing_by all_goals omega

theorem yields_loop {start : Token} (begins : start.kind = .keyword .repetition) (s : Session)
    (same : s.operators = table) :
    Yields (loop s) fun tokens => Derives table (start :: tokens) := by
  rw [loop]
  refine yields_andThen (closed_reads.expectKind _ _ rfl) (yields_expect (by simp) _) ?_
  rintro counter _ s₁ _ kept₁ ⟨rfl, kind⟩
  refine yields_andThen (closed_reads.expectKind _ _ rfl) (yields_expect (by simp) _) ?_
  rintro equal _ s₂ _ kept₂ ⟨rfl, assigns⟩
  have same₂ : s₂.operators = table := kept₂.trans (kept₁.trans same)
  refine yields_andThen (closed_reads.expression s₂) (yields_expression s₂ same₂) ?_
  intro first initial s₃ _ kept₃ inFirst
  refine yields_andThen (closed_reads.expectKind _ _ rfl) (yields_expect (by simp) _) ?_
  rintro comma _ s₄ _ kept₄ ⟨rfl, divides⟩
  have same₄ : s₄.operators = table := kept₄.trans (kept₃.trans same₂)
  refine yields_andThen (closed_reads.expression s₄) (yields_expression s₄ same₄) ?_
  intro last limit s₅ _ kept₅ inLast
  have same₅ : s₅.operators = table := kept₅.trans same₄
  refine yields_andThen (closed_reads.optional rfl s₅) (yields_optional (by simp) s₅ same₅) ?_
  rintro _ _ s₆ _ kept₆ ⟨step, rfl, rfl, marked, inStep⟩
  refine yields_andThen (closed_reads.expectKind _ _ rfl) (yields_expect (by simp) _) ?_
  rintro middle _ s₇ _ kept₇ ⟨rfl, continues⟩
  have same₇ : s₇.operators = table := kept₇.trans (kept₆.trans same₅)
  refine yields_map (yields_expression s₇ same₇) fun inner body inBody => ?_
  simpa using Derives.loop begins kind assigns divides continues inFirst inLast marked inStep inBody
termination_by 8 * s.remaining + 5
decreasing_by all_goals omega

theorem yields_locals {start : Token} (begins : start.kind = .keyword .locals) (s : Session)
    (same : s.operators = table) :
    Yields (locals s) fun tokens => Derives table (start :: tokens) := by
  rw [locals]
  refine yields_andThen (closed_reads.bindings s) (yields_bindings s same) ?_
  rintro _ tokens s₁ _ kept₁ ⟨parts, some, kinds, marked, divided, inParts, rfl⟩
  refine yields_andThen (closed_reads.expectKind _ _ rfl) (yields_expect (by simp) _) ?_
  rintro middle _ s₂ _ kept₂ ⟨rfl, continues⟩
  have same₂ : s₂.operators = table := kept₂.trans (kept₁.trans same)
  refine yields_map (yields_expression s₂ same₂) fun inner body inBody => ?_
  simpa using Derives.locals begins continues some kinds marked divided inParts inBody
termination_by 8 * s.remaining + 6
decreasing_by all_goals omega

theorem yields_bindings (s : Session) (same : s.operators = table) :
    Yields (bindings s) (DerivesBindings table) := by
  rw [bindings]
  refine yields_andThen (closed_reads.expectKind _ _ rfl) (yields_expect (by simp) _) ?_
  rintro name _ s₁ _ kept₁ ⟨rfl, kind⟩
  have same₁ : s₁.operators = table := kept₁.trans same
  refine yields_andThen (closed_reads.optional rfl s₁) (yields_optional (by simp) s₁ same₁) ?_
  rintro _ _ s₂ _ kept₂ ⟨clause, rfl, rfl, marked, inClause⟩
  split
  · next divides =>
    refine yields_advance (by simp [divides]) ?_
    refine yields_map (yields_bindings s₂.advance (kept₂.trans same₁)) ?_
    rintro tokens _ ⟨parts, some, kinds, allMarked, divided, inParts, rfl⟩
    refine ⟨(name, clause) :: parts, by simp, List.forall_mem_cons.mpr ⟨kind, kinds⟩,
      List.forall_mem_cons.mpr ⟨marked, allMarked⟩, ?_,
      List.forall_mem_cons.mpr ⟨inClause, inParts⟩, rfl⟩
    exact divided.cons divides (by simpa using some)
  · refine yields_pure ⟨[(name, clause)], by simp, by simpa using kind, by simpa using marked, ?_,
      by simpa using inClause, rfl⟩
    simpa using Separated.one (name :: clauseTokens clause)
termination_by 8 * s.remaining + 5
decreasing_by
  · omega
  · have := Session.remaining_advance_lt ‹_› (by simp [*])
    omega

theorem yields_optional {mark : Kind} (inner : mark ≠ .finish) (s : Session)
    (same : s.operators = table) : Yields (optional mark s) (DerivesClause table mark) := by
  rw [optional]
  split
  · next marked =>
    refine yields_advance (by rwa [marked]) ?_
    refine yields_map (yields_expression s.advance same) fun tokens expr derived => ?_
    exact ⟨some ⟨s.current, tokens, expr⟩, rfl, rfl, by simpa using marked, by simpa using derived⟩
  · exact yields_pure ⟨none, rfl, rfl, by simp, by simp⟩
termination_by 8 * s.remaining + 4
decreasing_by
  have := s.advance_follows.le
  omega

end

end Kaleido.Grammar
