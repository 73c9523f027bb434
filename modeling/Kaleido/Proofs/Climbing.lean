import Kaleido.Proofs.Reading

/-!
# How operators group

A chain of operands and binary operators is read as one expression. Which one is said here
without the reader: a grouping of the chain is canonical if at every operation the operands bind
as its operator asks, an operator of one precedence grouping to the left and assignment to the
right. Main statement: the reader answers with the canonical grouping if there is one, and reports
an assignment to something other than a name if there is none.
-/
namespace Kaleido

namespace Operators

/-- That every operator of the table has a positive precedence. -/
def Positive (operators : Operators) : Prop :=
  ∀ op precedence, operators.precedence? op = some precedence → 0 < precedence

/-- How tightly an operator binds, negative if the table does not have it. -/
def tightness (operators : Operators) (op : Char) : Int := (operators.precedence? op).getD (-1)

theorem positive_empty : Positive Table.empty := by
  intro op precedence entry
  cases entry

theorem Positive.insert {operators : Operators} (positive : operators.Positive) (op : Char)
    {precedence : Int} (pos : 0 < precedence) : Positive (Table.insert operators op precedence) := by
  intro other held entry
  rw [precedence?, Table.find?_insert] at entry
  split at entry
  · exact Option.some.inj entry ▸ pos
  · exact positive other held entry

theorem positive_builtin : Positive builtin :=
  ((((((positive_empty.insert '=' (by decide)).insert '<' (by decide)).insert '>' (by decide)).insert
    '+' (by decide)).insert '-' (by decide)).insert '*' (by decide)).insert '/' (by decide)

end Operators

namespace Grammar

/-! ## Chains and their groupings -/

/-- An operator of a chain, the place where it stands and the operand on its right. -/
structure Link where
  op : Char
  position : Position
  operand : Expr
deriving Repr

/-- That the tokens from a session to another one are a chain: each link is a token that names an
operator, then the tokens that its operand is read from. -/
inductive Chain : Session → List Link → Session → Prop where
  | done (s : Session) : Chain s [] s
  | link {s finish : Session} {op : Char} {operand : Expr} {rest : List Link}
      (named : s.current.operator? = some op) (read : (unary s.advance).result = .ok operand)
      (more : Chain (unary s.advance).after rest finish) :
      Chain s (⟨op, s.current.position, operand⟩ :: rest) finish

/-- A way to group a chain into operations on two operands each. -/
inductive Grouping where
  | operand (expr : Expr)
  | operation (op : Char) (left right : Grouping)
deriving Repr

namespace Grouping

/-- The operands from left to right. -/
def operands : Grouping → List Expr
  | .operand expr => [expr]
  | .operation _ left right => left.operands ++ right.operands

/-- The operators from left to right. -/
def operators : Grouping → List Char
  | .operand _ => []
  | .operation op left right => left.operators ++ op :: right.operators

/-- The expression that a grouping stands for. -/
def expr : Grouping → Expr
  | .operand expr => expr
  | .operation '=' (.operand (.var target)) right => .assign target right.expr
  | .operation op left right => .binary op left.expr right.expr

/-- Whether a grouping is a single name, which is all that a value can be assigned to. -/
def isName : Grouping → Bool
  | .operand (.var _) => true
  | _ => false

/-- That a grouping can stand on the left of an operator that groups to the left: it binds more
tightly, or as tightly and is no assignment. -/
def Precedes (table : Operators) (op : Char) : Grouping → Prop
  | .operand _ => True
  | .operation inner _ _ =>
    table.tightness op < table.tightness inner ∨
      (table.tightness inner = table.tightness op ∧ inner ≠ '=')

/-- That a grouping can stand on the left of an operator. On the left of an assignment stands a
name. -/
def LeftOf (table : Operators) (op : Char) (left : Grouping) : Prop :=
  if op = '=' then left.isName = true else left.Precedes table op

/-- That a grouping can stand on the right of an operator: it binds more tightly. On the right of
an assignment it binds at least as tightly. -/
def RightOf (table : Operators) (op : Char) : Grouping → Prop
  | .operand _ => True
  | .operation inner _ _ =>
    if op = '=' then table.tightness op ≤ table.tightness inner
    else table.tightness op < table.tightness inner

/-- That every operation of a grouping has operands that can stand where they do. -/
def Canonical (table : Operators) : Grouping → Prop
  | .operand _ => True
  | .operation op left right =>
    left.LeftOf table op ∧ right.RightOf table op ∧ left.Canonical table ∧ right.Canonical table

instance (table : Operators) (op : Char) : (left : Grouping) → Decidable (left.Precedes table op)
  | .operand _ => isTrue trivial
  | .operation .. => instDecidableOr

instance (table : Operators) (op : Char) (left : Grouping) : Decidable (left.LeftOf table op) :=
  inferInstanceAs (Decidable (if op = '=' then left.isName = true else left.Precedes table op))

instance (table : Operators) (op : Char) : (right : Grouping) → Decidable (right.RightOf table op)
  | .operand _ => isTrue trivial
  | .operation .. => inferInstanceAs (Decidable (if op = '=' then _ else _))

instance decidableCanonical (table : Operators) :
    (grouping : Grouping) → Decidable (grouping.Canonical table)
  | .operand _ => isTrue trivial
  | .operation _ left right =>
    have := decidableCanonical table left
    have := decidableCanonical table right
    instDecidableAnd

/-- That a grouping is one of a chain: it has the operands and the operators of the chain in their
order. -/
def Spans (grouping : Grouping) (first : Expr) (links : List Link) : Prop :=
  grouping.operands = first :: links.map Link.operand ∧ grouping.operators = links.map Link.op

end Grouping

/-! ## One round of the reader -/

/-- What a reader answers, without where it began. -/
def answer {α : Type} {s : Session} (reply : Reply s α) : Except Diagnostic α × Session :=
  (reply.result, reply.after)

/-- The least precedence of the operators on the right of an operator: assignment takes those of its
own precedence, every other operator leaves them. -/
def rightLeast (op : Char) (precedence : Int) : Int :=
  if op = '=' then precedence else precedence + 1

theorem answer_since {α : Type} {s later : Session} (reply : Reply later α)
    (follows : later.Follows s) : answer (reply.since follows) = answer reply := rfl

theorem answer_andThen_of_ok {α β : Type} {s : Session} {reply : Reply s α} {a : α}
    (held : reply.result = .ok a)
    (next : α → (after : Session) → after.remaining ≤ s.remaining → Reply after β) :
    answer (reply.andThen next) = answer (next a reply.after reply.follows.le) := by
  unfold answer
  rw [Reply.after_andThen_of_ok held]
  simp [Reply.andThen, held]

theorem answer_andThen_of_error {α β : Type} {s : Session} {reply : Reply s α}
    {diagnostic : Diagnostic} (held : reply.result = .error diagnostic)
    (next : α → (after : Session) → after.remaining ≤ s.remaining → Reply after β) :
    answer (reply.andThen next) = (.error diagnostic, reply.after) := by
  rw [Reply.andThen_of_error held]
  rfl

/-- Where the next operator binds too loosely, or there is none, the operand stands alone. -/
theorem answer_operations_stop {s : Session} {least : Int} (left : Expr)
    (loose : s.precedence < least) : answer (operations least left s) = (.ok left, s) := by
  rw [operations, if_pos loose]
  rfl

/-- The operand of an operator is followed by what binds more tightly than the operator. Whether to
look for that is asked first, but without the question the answer would be the same. -/
private theorem answer_right (op : Char) (precedence : Int) (operand : Expr) (s : Session) :
    answer (if precedence < s.precedence ∨ (op = '=' ∧ precedence = s.precedence) then
        operations (if op = '=' then precedence else precedence + 1) operand s
      else .pure s operand) = answer (operations (rightLeast op precedence) operand s) := by
  split
  · rfl
  · next loose =>
    have stop : s.precedence < rightLeast op precedence := by
      unfold rightLeast
      split
      · next assignment =>
        have : precedence ≠ s.precedence := fun same => loose (.inr ⟨assignment, same⟩)
        omega
      · omega
    rw [answer_operations_stop operand stop]
    rfl

/-- One round: the operator is read with the operand on its right, that operand takes what binds
more tightly, and the operation becomes the operand on the left of the next round. -/
theorem answer_operations_link {s : Session} {least : Int} {op : Char} {operand : Expr}
    (left : Expr) (named : s.current.operator? = some op) (tight : least ≤ s.precedence)
    (read : (unary s.advance).result = .ok operand) :
    answer (operations least left s) =
      match answer (operations (rightLeast op s.precedence) operand (unary s.advance).after) with
      | (.error diagnostic, after) => (.error diagnostic, after)
      | (.ok right, after) =>
        match operate op left right s.current.position with
        | .ok combined => answer (operations least combined after)
        | .error diagnostic => (.error diagnostic, after) := by
  rw [operations, if_neg (by omega)]
  split
  · next none => simp [none] at named
  · next found same =>
    obtain rfl : op = found := Option.some.inj (named.symm.trans same)
    rw [answer_since, answer_andThen_of_ok read, ← answer_right]
    generalize (if s.precedence < (unary s.advance).after.precedence ∨
        (op = '=' ∧ s.precedence = (unary s.advance).after.precedence) then
        operations (if op = '=' then s.precedence else s.precedence + 1) operand
          (unary s.advance).after
      else .pure (unary s.advance).after operand) = right
    cases held : right.result with
    | error diagnostic =>
      rw [answer_andThen_of_error held]
      simp [answer, held]
    | ok value =>
      rw [answer_andThen_of_ok held]
      simp only [answer, held]
      cases operate op left value s.current.position with
      | ok combined => rfl
      | error diagnostic => rfl

/-! ## Chains -/

/-- The next token binds as tightly as the table says. -/
theorem precedence_eq_tightness {s : Session} {op : Char} (named : s.current.operator? = some op)
    (positive : 0 < s.operators.tightness op) : s.precedence = s.operators.tightness op := by
  unfold Operators.tightness at positive ⊢
  cases entry : s.operators.precedence? op with
  | none => simp [entry] at positive
  | some precedence =>
    rw [entry, Option.getD_some] at positive
    simp [Session.precedence, named, entry, positive]

/-- Reading a chain declares nothing. -/
theorem Chain.operators {s finish : Session} {links : List Link} (chain : Chain s links finish) :
    finish.operators = s.operators := by
  induction chain with
  | done s => rfl
  | @link s finish op operand rest named read more ih =>
    exact ih.trans (closed_reads.unary s.advance).operators

theorem Chain.split {s finish : Session} {front back : List Link}
    (chain : Chain s (front ++ back) finish) :
    ∃ middle, Chain s front middle ∧ Chain middle back finish := by
  induction front generalizing s with
  | nil => exact ⟨s, .done s, chain⟩
  | cons first rest ih =>
    cases chain with
    | link named read more =>
      obtain ⟨middle, before, after⟩ := ih more
      exact ⟨middle, .link named read before, after⟩

/-- The first link of a chain: the operator is the next token, and its operand is read after it. -/
theorem chain_cons_iff {s finish : Session} {link : Link} {rest : List Link} :
    Chain s (link :: rest) finish ↔
      s.current.operator? = some link.op ∧ s.current.position = link.position ∧
        (unary s.advance).result = .ok link.operand ∧
        Chain (unary s.advance).after rest finish := by
  constructor
  · intro chain
    cases chain with
    | link named read more => exact ⟨named, rfl, read, more⟩
  · rintro ⟨named, position, read, more⟩
    obtain ⟨op, place, operand⟩ := link
    subst position
    exact .link named read more

theorem Chain.append {s middle finish : Session} {front back : List Link}
    (before : Chain s front middle) (after : Chain middle back finish) :
    Chain s (front ++ back) finish := by
  induction before with
  | done s => exact after
  | link named read more ih => exact .link named read (ih after)

/-- A name that no parenthesis follows is read as a variable. -/
theorem answer_unary_name {s : Session} (name : s.current.kind = .identifier)
    (alone : s.advance.current.kind ≠ .leftParen) :
    answer (unary s) = (.ok (.var s.current.lexeme), s.advance) := by
  rw [unary]
  split
  · next op named => simp [Token.operator?, name, Kind.isOperator] at named
  · rw [primary]
    split <;> simp_all
    rw [answer_since, application, if_neg alone]
    rfl

/-- A link with a name as its operand. -/
theorem Chain.name {s finish : Session} {op : Char} {rest : List Link}
    (named : s.current.operator? = some op) (name : s.advance.current.kind = .identifier)
    (alone : s.advance.advance.current.kind ≠ .leftParen)
    (more : Chain s.advance.advance rest finish) :
    Chain s (⟨op, s.current.position, .var s.advance.current.lexeme⟩ :: rest) finish := by
  have read := answer_unary_name name alone
  refine .link named (congrArg Prod.fst read) ?_
  rw [show (unary s.advance).after = s.advance.advance from congrArg Prod.snd read]
  exact more

namespace Grouping

/-- A grouping of a chain, by its parts: an operation takes an operator of the chain, what stands
before it and what follows it. -/
inductive Groups : Expr → List Link → Grouping → Prop where
  | operand (first : Expr) : Groups first [] (.operand first)
  | operation {first : Expr} {front back : List Link} {link : Link} {left right : Grouping}
      (before : Groups first front left) (after : Groups link.operand back right) :
      Groups first (front ++ link :: back) (.operation link.op left right)

theorem Groups.spans {first : Expr} {links : List Link} {grouping : Grouping}
    (groups : Groups first links grouping) : grouping.Spans first links := by
  induction groups with
  | operand first => exact ⟨rfl, rfl⟩
  | operation before after left right =>
    simp [Spans, operands, operators, left.1, left.2, right.1, right.2]

theorem length_operands (grouping : Grouping) :
    grouping.operands.length = grouping.operators.length + 1 := by
  induction grouping with
  | operand expr => rfl
  | operation op left right ihLeft ihRight =>
    simp only [operands, operators, List.length_append, List.length_cons, ihLeft, ihRight]
    omega

/-- The operands and operators of a chain can be divided among the parts of a grouping in one way
only. -/
theorem groups_of_spans {grouping : Grouping} {first : Expr} {links : List Link}
    (spans : grouping.Spans first links) : Groups first links grouping := by
  induction grouping generalizing first links with
  | operand expr =>
    obtain ⟨operands, operators⟩ := spans
    obtain rfl : links = [] := List.map_eq_nil_iff.mp operators.symm
    obtain rfl : expr = first := by simpa [Grouping.operands] using operands
    exact .operand expr
  | operation op left right ihLeft ihRight =>
    obtain ⟨operands, operators⟩ := spans
    obtain ⟨front, rest, rfl, frontOps, restOps⟩ := List.map_eq_append_iff.mp operators.symm
    obtain ⟨link, back, rfl, rfl, backOps⟩ := List.map_eq_cons_iff.mp restOps
    have divided : left.operands ++ right.operands =
        (first :: front.map Link.operand) ++ (link.operand :: back.map Link.operand) := by
      simpa [Grouping.operands] using operands
    have sameLength : left.operands.length = (first :: front.map Link.operand).length := by
      simp [length_operands, ← frontOps]
    obtain ⟨leftOperands, rightOperands⟩ := List.append_inj divided sameLength
    exact .operation (ihLeft ⟨leftOperands, frontOps.symm⟩) (ihRight ⟨rightOperands, backOps.symm⟩)

/-! ## What a grouping takes -/

/-- That no operator of a grouping binds more loosely than `least`, as far as the outermost one
shows. -/
def BindsFrom (table : Operators) (least : Int) : Grouping → Prop
  | .operand _ => True
  | .operation op _ _ => least ≤ table.tightness op

/-- That a grouping ends before an operator of the given precedence: its outermost operator does
not take that operator into its right side. -/
def EndsBefore (table : Operators) (next : Int) : Grouping → Prop
  | .operand _ => True
  | .operation op _ _ => next < rightLeast op (table.tightness op)

variable {table : Operators}

theorem le_rightLeast (op : Char) (precedence : Int) : precedence ≤ rightLeast op precedence := by
  unfold rightLeast
  split <;> omega

theorem bindsFrom_of_rightOf {op : Char} {right : Grouping} (fits : right.RightOf table op) :
    right.BindsFrom table (rightLeast op (table.tightness op)) := by
  cases right with
  | operand expr => trivial
  | operation inner _ _ =>
    rw [RightOf] at fits
    rw [BindsFrom, rightLeast]
    split
    · next assignment => rwa [if_pos assignment] at fits
    · next other =>
      rw [if_neg other] at fits
      omega

theorem rightOf_of_bindsFrom {op : Char} {right : Grouping}
    (binds : right.BindsFrom table (rightLeast op (table.tightness op))) :
    right.RightOf table op := by
  cases right with
  | operand expr => trivial
  | operation inner _ _ =>
    rw [BindsFrom, rightLeast] at binds
    rw [RightOf]
    split
    · next assignment => rwa [if_pos assignment] at binds
    · next other =>
      rw [if_neg other] at binds
      omega

theorem exists_of_isName {left : Grouping} (name : left.isName) :
    ∃ target, left = .operand (.var target) := by
  unfold isName at name
  split at name
  · exact ⟨_, rfl⟩
  · cases name

/-- What stands on the left of an operator ends before it. -/
theorem endsBefore_of_leftOf {op : Char} {left : Grouping} (fits : left.LeftOf table op) :
    left.EndsBefore table (table.tightness op) := by
  by_cases assignment : op = '='
  · rw [LeftOf, if_pos assignment] at fits
    obtain ⟨target, rfl⟩ := exists_of_isName fits
    trivial
  · rw [LeftOf, if_neg assignment] at fits
    cases left with
    | operand expr => trivial
    | operation inner _ _ =>
      rw [Precedes] at fits
      rw [EndsBefore, rightLeast]
      split
      · next same =>
        rcases fits with tighter | ⟨_, other⟩
        · exact tighter
        · exact absurd same other
      · omega

/-- What ends before an operator other than assignment can stand on its left. -/
theorem leftOf_of_endsBefore {op : Char} {left : Grouping} (other : op ≠ '=')
    (ends : left.EndsBefore table (table.tightness op)) : left.LeftOf table op := by
  rw [LeftOf, if_neg other]
  cases left with
  | operand expr => trivial
  | operation inner _ _ =>
    rw [EndsBefore, rightLeast] at ends
    split at ends
    · exact .inl ends
    · next plain =>
      rcases Int.lt_or_eq_of_le (Int.lt_add_one_iff.mp ends) with tighter | same
      · exact .inl tighter
      · exact .inr ⟨same.symm, plain⟩

theorem bindsFrom_of_leftOf {op : Char} {left : Grouping} (fits : left.LeftOf table op) :
    left.BindsFrom table (table.tightness op) := by
  have ends := endsBefore_of_leftOf fits
  cases left with
  | operand expr => trivial
  | operation inner _ _ =>
    rw [EndsBefore, rightLeast] at ends
    rw [BindsFrom]
    split at ends <;> omega

theorem BindsFrom.mono {least lower : Int} {grouping : Grouping}
    (binds : grouping.BindsFrom table least) (le : lower ≤ least) :
    grouping.BindsFrom table lower := by
  cases grouping with
  | operand expr => trivial
  | operation op _ _ => exact Int.le_trans le binds

/-- In a canonical grouping the outermost operator binds most loosely, so its precedence bounds
those of all operators. -/
theorem tight_of_canonical {first : Expr} {links : List Link} {grouping : Grouping} {least : Int}
    (groups : Groups first links grouping) (canonical : grouping.Canonical table)
    (binds : grouping.BindsFrom table least) :
    ∀ link ∈ links, least ≤ table.tightness link.op := by
  induction groups generalizing least with
  | operand first => simp
  | @operation first front back link left right before after ihLeft ihRight =>
    obtain ⟨onLeft, onRight, leftCanonical, rightCanonical⟩ := canonical
    have root : least ≤ table.tightness link.op := binds
    have leftBinds := (bindsFrom_of_leftOf onLeft).mono root
    have rightBinds := (bindsFrom_of_rightOf onRight).mono (Int.le_trans root (le_rightLeast ..))
    intro other member
    rcases List.mem_append.mp member with inFront | inRest
    · exact ihLeft leftCanonical leftBinds other inFront
    · rcases List.mem_cons.mp inRest with rfl | inBack
      · exact root
      · exact ihRight rightCanonical rightBinds other inBack

/-! ## Operations as groupings -/

theorem expr_operation {op : Char} (other : op ≠ '=') (left right : Grouping) :
    (operation op left right).expr = .binary op left.expr right.expr := by
  rw [expr]
  intro _ same
  exact absurd same other

/-- An operator between operands that can stand there gives the operation of them. -/
theorem operate_of_leftOf {op : Char} {left : Grouping} (fits : left.LeftOf table op)
    (right : Grouping) (position : Position) :
    operate op left.expr right.expr position = .ok (operation op left right).expr := by
  by_cases assignment : op = '='
  · subst assignment
    rw [LeftOf, if_pos rfl] at fits
    obtain ⟨target, rfl⟩ := exists_of_isName fits
    simp [operate, expr]
  · unfold operate
    rw [if_neg assignment, expr_operation assignment]

/-- Only a single name is read as a variable, so nothing else can be assigned to. -/
theorem operate_assignment {left : Grouping} (unnamed : ¬ left.isName) (right : Expr)
    (position : Position) :
    operate '=' left.expr right position = .error ⟨.invalidAssignmentTarget, position⟩ := by
  have noVariable : ∀ target, left.expr ≠ .var target := by
    intro target same
    cases left with
    | operand expr =>
      apply unnamed
      rw [show expr = .var target from same]
      rfl
    | operation op inner outer =>
      unfold expr at same
      split at same <;> simp_all
  unfold operate
  rw [if_pos rfl]
  split
  · next target same => exact absurd same (noVariable target)
  · rfl

/-! ## The reader and the canonical grouping -/

/-- The reader gathers a canonical grouping of the chain ahead into its left operand. The induction
is on the grouping: the reader builds the left part in earlier rounds of its loop, and the right
part in a loop of its own. -/
theorem answer_operations_of_canonical {first : Expr} {links : List Link} {grouping : Grouping}
    (groups : Groups first links grouping) (canonical : grouping.Canonical table)
    {s finish : Session} {least : Int} (same : s.operators = table) (chain : Chain s links finish)
    (positive : ∀ link ∈ links, 0 < table.tightness link.op)
    (tight : ∀ link ∈ links, least ≤ table.tightness link.op)
    (ends : grouping.EndsBefore table finish.precedence) :
    answer (operations least first s) = answer (operations least grouping.expr finish) := by
  induction groups generalizing s finish least with
  | operand first =>
    cases chain
    rfl
  | @operation first front back link left right before after ihLeft ihRight =>
    obtain ⟨onLeft, onRight, leftCanonical, rightCanonical⟩ := canonical
    obtain ⟨middle, leftChain, rest⟩ := chain.split
    have middleSame : middle.operators = table := leftChain.operators.trans same
    obtain ⟨named, position, read, rightChain⟩ := chain_cons_iff.mp rest
    have here : middle.precedence = table.tightness link.op := by
      rw [← middleSame]
      exact precedence_eq_tightness named (middleSame ▸ positive link (by simp))
    have rightSame : (unary middle.advance).after.operators = table :=
      (closed_reads.unary middle.advance).operators.trans middleSame
    have rightBinds := bindsFrom_of_rightOf onRight
    have onLeftDone := ihLeft leftCanonical same leftChain
      (fun link member => positive link (by simp [member]))
      (fun link member => tight link (by simp [member]))
      (here ▸ endsBefore_of_leftOf onLeft)
    have rightEnds : right.EndsBefore table finish.precedence := by
      cases right with
      | operand expr => trivial
      | operation inner _ _ =>
        rw [BindsFrom] at rightBinds
        rw [EndsBefore] at ends ⊢
        have := le_rightLeast inner (table.tightness inner)
        omega
    have onRightDone := ihRight rightCanonical rightSame rightChain
      (fun link member => positive link (by simp [member]))
      (tight_of_canonical after rightCanonical rightBinds) rightEnds
    have rightStops := answer_operations_stop right.expr (show finish.precedence < _ from ends)
    rw [onLeftDone, answer_operations_link left.expr named (here ▸ tight link (by simp)) read, here,
      onRightDone, rightStops]
    simp only [operate_of_leftOf onLeft]

/-- What can come of a chain after a grouping of `before`: a canonical grouping that has taken the
links as far as they bind at least as tightly as `least`, or an assignment among the links to
something other than a name. -/
inductive Gathering (table : Operators) (least : Int) (first : Expr) (before links : List Link)
    (s finish : Session) : Except Diagnostic Expr × Session → Prop where
  | done {front back : List Link} {middle : Session} {grouping : Grouping}
      (divided : links = front ++ back) (taken : Chain s front middle)
      (left : Chain middle back finish) (loose : middle.precedence < least)
      (groups : Groups first (before ++ front) grouping) (canonical : grouping.Canonical table)
      (binds : grouping.BindsFrom table least) :
      Gathering table least first before links s finish (.ok grouping.expr, middle)
  | unassignable {link : Link} {after : Session} (member : link ∈ links)
      (assignment : link.op = '=') :
      Gathering table least first before links s finish
        (.error ⟨.invalidAssignmentTarget, link.position⟩, after)

/-- Links that were taken before belong to the gathering too. -/
theorem Gathering.extend {least : Int} {first : Expr} {before front back : List Link}
    {s middle finish : Session} {reply : Except Diagnostic Expr × Session}
    (taken : Chain s front middle)
    (gathering : Gathering table least first (before ++ front) back middle finish reply) :
    Gathering table least first before (front ++ back) s finish reply := by
  cases gathering with
  | unassignable member assignment =>
    exact .unassignable (List.mem_append_right _ member) assignment
  | @done more rest last grouping divided further left loose groups canonical binds =>
    subst divided
    have through := taken.append further
    exact .done (by simp) through left loose (by simpa using groups) canonical binds

/-- Every run of the reader along a chain is a gathering. One round adds an operation to the
grouping on the left, whose right operand is gathered first from what binds more tightly. -/
theorem gathering_operations {first : Expr} {before links : List Link} {grouping : Grouping}
    {s finish : Session} {least : Int} (groups : Groups first before grouping)
    (canonical : grouping.Canonical table) (binds : grouping.BindsFrom table least)
    (ends : grouping.EndsBefore table s.precedence) (same : s.operators = table)
    (chain : Chain s links finish) (positive : ∀ link ∈ links, 0 < table.tightness link.op)
    (loose : finish.precedence < least) :
    Gathering table least first before links s finish
      (answer (operations least grouping.expr s)) := by
  by_cases stop : s.precedence < least
  · rw [answer_operations_stop _ stop]
    exact .done rfl (.done s) chain stop (by simpa using groups) canonical binds
  have tight : least ≤ s.precedence := by omega
  match links, chain with
  | [], .done s => exact absurd loose stop
  | link :: rest, chain =>
    obtain ⟨named, position, read, more⟩ := chain_cons_iff.mp chain
    have here : s.precedence = table.tightness link.op := by
      rw [← same]
      exact precedence_eq_tightness named (same ▸ positive link (by simp))
    have nextSame : (unary s.advance).after.operators = table :=
      (closed_reads.unary s.advance).operators.trans same
    have higher := le_rightLeast link.op s.precedence
    rw [answer_operations_link _ named tight read]
    have onRight := gathering_operations (.operand link.operand) trivial trivial trivial nextSame
      more (fun other member => positive other (by simp [member]))
      (show finish.precedence < rightLeast link.op s.precedence by omega)
    rw [expr] at onRight
    generalize answer (operations (rightLeast link.op s.precedence) link.operand
      (unary s.advance).after) = reply at onRight
    cases onRight with
    | unassignable member assignment => exact .unassignable (List.mem_cons_of_mem _ member) assignment
    | @done front back middle right divided taken left rightLoose rightGroups rightCanonical
        rightBinds =>
      subst divided
      by_cases fits : grouping.LeftOf table link.op
      · simp only [operate_of_leftOf fits]
        have middleSame : middle.operators = table := taken.operators.trans nextSame
        have grown := gathering_operations
          (Groups.operation groups (by simpa using rightGroups))
          (show (operation link.op grouping right).Canonical table from
            ⟨fits, rightOf_of_bindsFrom (here ▸ rightBinds), canonical, rightCanonical⟩)
          (show least ≤ table.tightness link.op by omega)
          (show middle.precedence < rightLeast link.op (table.tightness link.op) from here ▸ rightLoose)
          middleSame left (fun other member => positive other (by simp [member])) loose
        exact grown.extend (chain_cons_iff.mpr ⟨named, position, read, taken⟩)
      · have assignment : link.op = '=' := by
          by_contra other
          exact fits (leftOf_of_endsBefore other (here ▸ ends))
        have unnamed : ¬ grouping.isName := by
          rwa [LeftOf, if_pos assignment] at fits
        simp only [assignment, operate_assignment unnamed, position]
        exact .unassignable (List.mem_cons_self ..) assignment
termination_by links.length

end Grouping

open Grouping in
/-- Along a whole chain of operators that bind tightly enough, the reader comes to the end of the
chain with a canonical grouping of it, or reports one of its assignments. -/
theorem answer_operations_cases {s finish : Session} {least : Int} {links : List Link} (left : Expr)
    (chain : Chain s links finish) (positive : ∀ link ∈ links, 0 < s.operators.tightness link.op)
    (tight : ∀ link ∈ links, least ≤ s.operators.tightness link.op)
    (loose : finish.precedence < least) :
    (∃ grouping, Groups left links grouping ∧ grouping.Canonical s.operators ∧
      answer (operations least left s) = (.ok grouping.expr, finish)) ∨
    ∃ link ∈ links, link.op = '=' ∧
      (operations least left s).result = .error ⟨.invalidAssignmentTarget, link.position⟩ := by
  have gathered := gathering_operations (.operand left) trivial trivial trivial rfl chain positive loose
  rw [expr] at gathered
  generalize reply : answer (operations least left s) = found at gathered
  cases gathered with
  | unassignable member assignment =>
    exact .inr ⟨_, member, assignment, congrArg Prod.fst reply⟩
  | @done front back middle grouping divided taken rest stop groups canonical binds =>
    subst divided
    have same : middle.operators = s.operators := taken.operators
    cases back with
    | nil =>
      cases rest
      exact .inl ⟨grouping, by simpa using groups, canonical, rfl⟩
    | cons link more =>
      -- A link that is left over would bind tightly enough to be taken.
      have named := (chain_cons_iff.mp rest).1
      have member : link ∈ front ++ link :: more := by simp
      have here := precedence_eq_tightness named (same ▸ positive link member)
      have enough := tight link member
      rw [same] at here
      omega

/-- The reader of operations answers with the canonical grouping of a chain exactly if the chain has
one, and then stands at the end of the chain. Otherwise it reports an assignment of the chain whose
left side is no name. -/
theorem operations_eq_canonical_grouping {s finish : Session} {least : Int} {links : List Link}
    (left : Expr) (positive : s.operators.Positive) (chain : Chain s links finish)
    (tight : ∀ link ∈ links,
      ∃ precedence, s.operators.precedence? link.op = some precedence ∧ least ≤ precedence)
    (loose : finish.precedence < least) :
    (∀ expr, (operations least left s).result = .ok expr ↔
      ∃ grouping : Grouping, grouping.Spans left links ∧ grouping.Canonical s.operators ∧
        grouping.expr = expr) ∧
    (∀ expr, (operations least left s).result = .ok expr →
      (operations least left s).after = finish) ∧
    ∀ diagnostic, (operations least left s).result = .error diagnostic →
      ∃ link ∈ links, link.op = '=' ∧
        diagnostic = ⟨.invalidAssignmentTarget, link.position⟩ := by
  have bounds : ∀ link ∈ links,
      0 < s.operators.tightness link.op ∧ least ≤ s.operators.tightness link.op := by
    intro link member
    obtain ⟨precedence, entry, enough⟩ := tight link member
    simp only [Operators.tightness, entry, Option.getD_some]
    exact ⟨positive _ _ entry, enough⟩
  have complete : ∀ grouping : Grouping, grouping.Spans left links →
      grouping.Canonical s.operators → (operations least left s).result = .ok grouping.expr := by
    intro grouping spans canonical
    have groups := Grouping.groups_of_spans spans
    have ends : grouping.EndsBefore s.operators finish.precedence := by
      cases groups with
      | operand => trivial
      | @operation _ front back link left right before after =>
        have := (bounds link (by simp)).2
        exact Int.lt_of_lt_of_le (Int.lt_of_lt_of_le loose this) (Grouping.le_rightLeast ..)
    have gathered := Grouping.answer_operations_of_canonical groups canonical rfl chain
      (fun link member => (bounds link member).1) (fun link member => (bounds link member).2) ends
    rw [answer_operations_stop _ loose] at gathered
    exact congrArg Prod.fst gathered
  rcases answer_operations_cases left chain (fun link member => (bounds link member).1)
    (fun link member => (bounds link member).2) loose with
    ⟨grouping, groups, canonical, reply⟩ | ⟨link, member, assignment, failed⟩
  · have result : (operations least left s).result = .ok grouping.expr := congrArg Prod.fst reply
    refine ⟨fun expr => ⟨fun found => ?_, ?_⟩, fun _ _ => congrArg Prod.snd reply, ?_⟩
    · exact ⟨grouping, groups.spans, canonical, Except.ok.inj (result.symm.trans found)⟩
    · rintro ⟨other, spans, otherCanonical, rfl⟩
      exact complete other spans otherCanonical
    · intro diagnostic failed
      cases result.symm.trans failed
  · refine ⟨fun expr => ⟨fun found => ?_, ?_⟩, fun expr found => ?_, ?_⟩
    · cases failed.symm.trans found
    · rintro ⟨other, spans, otherCanonical, rfl⟩
      exact complete other spans otherCanonical
    · cases failed.symm.trans found
    · intro diagnostic found
      exact ⟨link, member, assignment, (Except.error.inj (failed.symm.trans found)).symm⟩

/-- A name assigned to, between operators that bind as tightly as assignment and more loosely: the
assignment takes the first and is taken by the second. -/
theorem operations_assignment_between_operators :
    (operations 0 (.var "a")
      ⟨[⟨.equal, "=", ⟨1, 3⟩⟩, ⟨.identifier, "b", ⟨1, 5⟩⟩, ⟨.operator, "|", ⟨1, 7⟩⟩,
        ⟨.identifier, "c", ⟨1, 9⟩⟩, ⟨.operator, "@", ⟨1, 11⟩⟩, ⟨.identifier, "d", ⟨1, 13⟩⟩],
        ⟨1, 14⟩, none, (Operators.builtin.insert '|' 2).insert '@' 1, .empty⟩).result =
      .ok (.binary '@' (.assign "a" (.binary '|' (.var "b") (.var "c"))) (.var "d")) := by
  have positive := (Operators.positive_builtin.insert '|' (show (0 : Int) < 2 by decide)).insert '@'
    (show (0 : Int) < 1 by decide)
  refine ((operations_eq_canonical_grouping (.var "a") positive
    (.name rfl rfl (by decide) (.name rfl rfl (by decide) (.name rfl rfl (by decide) (.done _))))
    ?_ (by decide)).1 _).mpr
    ⟨.operation '@' (.operation '=' (.operand (.var "a")) (.operation '|' (.operand (.var "b"))
      (.operand (.var "c")))) (.operand (.var "d")), ⟨rfl, rfl⟩, by decide, rfl⟩
  intro link member
  simp only [List.mem_cons, List.not_mem_nil, or_false] at member
  rcases member with rfl | rfl | rfl
  · exact ⟨2, rfl, by decide⟩
  · exact ⟨2, rfl, by decide⟩
  · exact ⟨1, rfl, by decide⟩

end Grammar

end Kaleido
