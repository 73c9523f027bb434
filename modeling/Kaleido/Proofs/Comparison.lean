import Kaleido.Grammar.Program
import Kaleido.Proofs.Reading

/-!
# Readers side by side

A reader decides by the kind and the text of the next token and by the operators of its session.
What it answers beyond that are positions, which it takes from tokens that it has seen. So readers
that are set on two sessions which show them the same do the same, token by token, and what they
answer differs in positions only. How the two sessions and their positions are related is left open
here (`Comparison`): sessions of two sources that agree in part, of two layouts of one source, or a
session and itself, where the relation tells which positions can be reported. Main statement: items
read from corresponding sessions correspond.
-/
namespace Kaleido

/-- A prototype at another place. -/
def Prototype.placedAt (prototype : Prototype) (position : Position) : Prototype :=
  { prototype with position }

/-- A prototype without its place. -/
def Prototype.unplaced (prototype : Prototype) : Prototype := prototype.placedAt .zero

/-- An item at another place. -/
def Item.placedAt : Item → Position → Item
  | .definition function, position =>
    .definition ⟨function.prototype.placedAt position, function.body⟩
  | .external prototype, position => .external (prototype.placedAt position)
  | .expression function, position =>
    .expression ⟨function.prototype.placedAt position, function.body⟩

/-- An item without its place. -/
def Item.unplaced (item : Item) : Item := item.placedAt .zero

theorem Prototype.eq_of_unplaced {left right : Prototype} (same : right.unplaced = left.unplaced)
    (place : right.position = left.position) : right = left := by
  calc
    right = right.unplaced.placedAt right.position := rfl
    _ = left.unplaced.placedAt left.position := by rw [same, place]
    _ = left := rfl

theorem Item.unplaced_placedAt (item : Item) :
    item.unplaced.placedAt item.prototype.position = item := by
  cases item with
  | definition function => rfl
  | external prototype => rfl
  | expression function => rfl

theorem Item.eq_of_unplaced {left right : Item} (same : right.unplaced = left.unplaced)
    (place : right.prototype.position = left.prototype.position) : right = left := by
  rw [← right.unplaced_placedAt, same, place, left.unplaced_placedAt]

namespace Session

variable {s : Session} {kind : Kind}

theorem passWhile_of_kind (other : kind ≠ .finish) (same : s.current.kind = kind) :
    s.passWhile (·.kind = kind) =
      (s.current :: (s.advance.passWhile (·.kind = kind)).1,
        (s.advance.passWhile (·.kind = kind)).2) := by
  obtain ⟨ahead, finish, previous, operators, declarations⟩ := s
  cases ahead with
  | nil => exact absurd same.symm other
  | cons token rest =>
    have wanted : token.kind = kind := same
    simp [passWhile, advance, current, wanted, List.getLast?_cons]

theorem passWhile_of_other (differs : s.current.kind ≠ kind) :
    s.passWhile (·.kind = kind) = ([], s) := by
  obtain ⟨ahead, finish, previous, operators, declarations⟩ := s
  cases ahead with
  | nil => rfl
  | cons token rest =>
    have other : token.kind ≠ kind := differs
    simp [passWhile, other]

end Session

namespace Grammar

/-- Whether a token of this kind ends whatever stands before it. -/
def divides : Kind → Bool
  | .finish | .semicolon => true
  | _ => false

theorem divides_of_isInner {kind : Kind} (inner : isInner kind) : divides kind = false := by
  cases kind with
  | finish => cases inner
  | semicolon => cases inner
  | _ => rfl

theorem kind_ne_finish_of_divides {kind : Kind} (inner : divides kind = false) :
    kind ≠ .finish := by
  rintro rfl
  cases inner

/-- Where an item stands: at its prototype, or at the start of its expression. -/
def itemPlace (s : Session) : Position :=
  if beginsDeclaration s.current.kind then s.advance.current.position else s.current.position

/-- A way to hold two sessions side by side. -/
structure Comparison where
  /-- That two sessions stand at corresponding places. -/
  sessions : Session → Session → Prop
  /-- That two sessions stand at corresponding places and have read a token before. -/
  inside : Session → Session → Prop
  /-- That two positions correspond, as far as has been read in two sessions. -/
  positions : Session → Session → Position → Position → Prop

namespace Comparison

/-- That positions which correspond in two sessions do so in two others. -/
def Keeps (c : Comparison) (s t s' t' : Session) : Prop :=
  ∀ p q, c.positions s t p q → c.positions s' t' p q

/-- That two sessions show a reader the same, and still correspond after the next token. -/
structure Meets (c : Comparison) (s t : Session) : Prop where
  sessions : c.sessions s t
  kind : t.current.kind = s.current.kind
  lexeme : t.current.lexeme = s.current.lexeme
  operators : t.operators = s.operators
  position : c.positions s t s.current.position t.current.position
  advance : divides s.current.kind = false → c.inside s.advance t.advance
  keeps : divides s.current.kind = false → c.Keeps s t s.advance t.advance

/-- That two replies correspond: both have results that are the same in some sense, or both have
errors with the same cause. -/
inductive Corresponds (c : Comparison) {s t : Session} {α β : Type} (same : α → β → Prop)
    (reply : Reply s α) (other : Reply t β) : Prop where
  | ok {a : α} {b : β} (left : reply.result = .ok a) (right : other.result = .ok b)
      (same : same a b) (inside : c.inside reply.after other.after)
      (keeps : c.Keeps s t reply.after other.after)
  | error {d e : Diagnostic} (left : reply.result = .error d) (right : other.result = .error e)
      (cause : e.cause = d.cause) (meets : c.Meets reply.after other.after)
      (positions : c.positions reply.after other.after d.position e.position)

/-- A comparison of sessions that correspond from token to token. -/
structure Stepwise (c : Comparison) : Prop where
  meets : ∀ {s t}, c.inside s t → c.Meets s t
  previous : ∀ {s t}, c.inside s t → c.positions s t
    (s.previous.getD s.current).position (t.previous.getD t.current).position
  name : ∀ {s t}, c.inside s t → topLevelName t.previous = topLevelName s.previous
  declare : ∀ {s t p q}, c.inside s t → q.unplaced = p.unplaced →
    c.positions s t p.position q.position →
    c.Corresponds (fun _ _ => True) (declare p s) (declare q t)

/-! ## Parts of readers -/

section

variable {c : Comparison} {s t : Session}

theorem Keeps.refl : c.Keeps s t s t := fun _ _ => id

theorem Keeps.trans {s' t' s'' t'' : Session} (first : c.Keeps s t s' t')
    (second : c.Keeps s' t' s'' t'') : c.Keeps s t s'' t'' :=
  fun p q before => second p q (first p q before)

theorem Meets.operator? (meets : c.Meets s t) : t.current.operator? = s.current.operator? := by
  simp only [Token.operator?, meets.kind, meets.lexeme]

theorem Meets.precedence (meets : c.Meets s t) : t.precedence = s.precedence := by
  simp only [Session.precedence, meets.operator?, meets.operators]

theorem Meets.text (meets : c.Meets s t) : t.current.text = s.current.text := by
  simp only [Token.text, meets.lexeme]

variable {α β γ δ : Type} {same : α → β → Prop} {also : γ → δ → Prop}

theorem corresponds_pure {a : α} {b : β} (inside : c.inside s t) (held : same a b) :
    c.Corresponds same (.pure s a) (.pure t b) :=
  .ok rfl rfl held inside .refl

theorem corresponds_fail {d e : Diagnostic} (meets : c.Meets s t) (cause : e.cause = d.cause)
    (positions : c.positions s t d.position e.position) :
    c.Corresponds same (.fail s d) (.fail t e) :=
  .error rfl rfl cause meets positions

/-- A token that is refused is reported where it stands. -/
theorem corresponds_refuse {cause : Cause} (meets : c.Meets s t) :
    c.Corresponds same (.fail s ⟨cause, s.current.position⟩)
      (.fail t ⟨cause, t.current.position⟩) :=
  corresponds_fail meets rfl meets.position

theorem corresponds_unexpected (meets : c.Meets s t) :
    c.Corresponds same (.fail s (unexpected s.current)) (.fail t (unexpected t.current)) := by
  unfold unexpected
  rw [meets.kind, meets.lexeme, meets.text]
  split
  · exact corresponds_refuse meets
  · exact corresponds_refuse meets

theorem Corresponds.imp {also : α → β → Prop} {reply : Reply s α} {other : Reply t β}
    (replies : c.Corresponds same reply other) (held : ∀ a b, same a b → also a b) :
    c.Corresponds also reply other := by
  cases replies with
  | ok left right related inside keeps =>
    exact .ok left right (held _ _ related) inside keeps
  | error left right cause meets positions => exact .error left right cause meets positions

theorem Corresponds.map {reply : Reply s α} {other : Reply t β} {f : α → γ} {g : β → δ}
    (replies : c.Corresponds same reply other) (held : ∀ a b, same a b → also (f a) (g b)) :
    c.Corresponds also (reply.map f) (other.map g) := by
  cases replies with
  | @ok a b left right related inside keeps =>
    exact .ok (by rw [Reply.result_map, left]; rfl) (by rw [Reply.result_map, right]; rfl)
      (held a b related) inside keeps
  | error left right cause meets positions =>
    exact .error (by rw [Reply.result_map, left]; rfl) (by rw [Reply.result_map, right]; rfl)
      cause meets positions

/-- Readers that begin later correspond to readers that begin now, if what was read between keeps
the positions. -/
theorem Corresponds.since {s' t' : Session} {reply : Reply s' α} {other : Reply t' β}
    (replies : c.Corresponds same reply other) (kept : c.Keeps s t s' t')
    (follows : s'.Follows s) (follows' : t'.Follows t) :
    c.Corresponds same (reply.since follows) (other.since follows') := by
  cases replies with
  | ok left right related inside keeps =>
    exact .ok left right related inside (kept.trans keeps)
  | error left right cause meets positions => exact .error left right cause meets positions

theorem Corresponds.andThenWith {reply : Reply s α} {other : Reply t β}
    {next : α → (after : Session) → after.remaining ≤ s.remaining → Reply after γ}
    {next' : β → (after : Session) → after.remaining ≤ t.remaining → Reply after δ}
    (replies : c.Corresponds same reply other)
    (more : ∀ a b after after' le le', same a b → c.inside after after' →
      c.Keeps s t after after' → c.Corresponds also (next a after le) (next' b after' le')) :
    c.Corresponds also (reply.andThen next) (other.andThen next') := by
  cases replies with
  | @ok a b left right related inside keeps =>
    have rest := more a b reply.after other.after reply.follows.le other.follows.le related
      inside keeps
    rw [Reply.andThen_of_ok left, Reply.andThen_of_ok right]
    exact rest.since keeps _ _
  | error left right cause meets positions =>
    rw [Reply.andThen_of_error left, Reply.andThen_of_error right]
    exact .error rfl rfl cause meets positions

theorem Corresponds.andThen {reply : Reply s α} {other : Reply t α}
    {next : α → (after : Session) → after.remaining ≤ s.remaining → Reply after γ}
    {next' : α → (after : Session) → after.remaining ≤ t.remaining → Reply after δ}
    (replies : c.Corresponds Eq reply other)
    (more : ∀ a after after' le le', c.inside after after' → c.Keeps s t after after' →
      c.Corresponds also (next a after le) (next' a after' le')) :
    c.Corresponds also (reply.andThen next) (other.andThen next') := by
  refine replies.andThenWith ?_
  rintro a _ after after' le le' rfl
  exact more a after after' le le'

/-- Going on after the next token, which is read whatever comes of it. -/
theorem corresponds_advance {reply : Reply s.advance α} {other : Reply t.advance β}
    (meets : c.Meets s t) (inner : divides s.current.kind = false)
    (replies : c.inside s.advance t.advance → c.Corresponds same reply other) :
    c.Corresponds same (reply.since s.advance_follows) (other.since t.advance_follows) :=
  (replies (meets.advance inner)).since (meets.keeps inner) _ _

theorem corresponds_take (meets : c.Meets s t) (inner : divides s.current.kind = false) :
    c.Corresponds (fun a b => a = s.current ∧ b = t.current) s.take t.take :=
  .ok rfl rfl ⟨rfl, rfl⟩ (meets.advance inner) (meets.keeps inner)

/-- An expected token may be used for its text. -/
theorem corresponds_expect (meets : c.Meets s t) {kind : Kind} (expected : String)
    (inner : isInner kind) :
    c.Corresponds (fun a b : Token => b.lexeme = a.lexeme) (s.expect (· = kind) expected)
      (t.expect (· = kind) expected) := by
  unfold Session.expect
  rw [meets.kind, meets.text]
  by_cases found : s.current.kind = kind
  · simp only [found, decide_true, if_true]
    have taken := corresponds_take meets (by rw [found]; exact divides_of_isInner inner)
    refine taken.imp ?_
    rintro _ _ ⟨rfl, rfl⟩
    exact meets.lexeme
  · simp only [found, decide_false, Bool.false_eq_true, if_false]
    exact corresponds_refuse meets

theorem corresponds_number (meets : c.Meets s t) (inner : divides s.current.kind = false) :
    c.Corresponds Eq (number s) (number t) := by
  unfold number
  rw [meets.lexeme]
  split
  · exact (corresponds_take meets inner).map fun _ _ _ => rfl
  · exact corresponds_refuse meets

end

/-- Operators are put between operands alike, or refused where the operators stand. -/
theorem operate_cases (op : Char) (left right : Expr) (p q : Position) :
    (∃ combined, operate op left right p = .ok combined ∧ operate op left right q = .ok combined) ∨
      (operate op left right p = .error ⟨.invalidAssignmentTarget, p⟩ ∧
        operate op left right q = .error ⟨.invalidAssignmentTarget, q⟩) := by
  by_cases assignment : op = '='
  · cases left with
    | var target => exact .inl ⟨.assign target right, by simp [operate, assignment]⟩
    | _ => exact .inr (by simp [operate, assignment])
  · exact .inl ⟨.binary op left right, by simp [operate, assignment]⟩

/-! ## Readers -/

namespace Stepwise

variable {c : Comparison} (stepwise : c.Stepwise)
include stepwise
set_option linter.unusedSectionVars false

theorem closing {s t : Session} (inside : c.inside s t) :
    c.Corresponds (fun _ _ => True) (closing s) (closing t) := by
  have meets := stepwise.meets inside
  unfold Grammar.closing
  rw [meets.kind, meets.text]
  by_cases closed : s.current.kind = .rightParen
  · rw [if_pos closed, if_pos closed]
    exact .ok rfl rfl trivial (meets.advance (by rw [closed]; rfl)) (meets.keeps (by rw [closed]; rfl))
  · rw [if_neg closed, if_neg closed]
    exact corresponds_fail meets rfl (stepwise.previous inside)

-- The readers call one another as their definitions do, with the measure of the first session.
-- Those that begin an expression need no more than that the sessions meet; all others are called
-- after a token was read.
mutual

theorem expression {s t : Session} (meets : c.Meets s t) :
    c.Corresponds Eq (expression s) (expression t) := by
  rw [Grammar.expression, Grammar.expression]
  refine (unary meets).andThen fun left s₁ t₁ _ _ inside _ => ?_
  exact operations (Int.le_refl 0) left inside
termination_by 8 * s.remaining + 3
decreasing_by all_goals omega

theorem unary {s t : Session} (meets : c.Meets s t) :
    c.Corresponds Eq (unary s) (unary t) := by
  rw [unary_eq s, unary_eq t, meets.operator?, meets.kind]
  cases named : s.current.operator? with
  | none => exact primary meets
  | some op =>
    by_cases assignment : s.current.kind = .equal
    · simp only [if_pos assignment]
      exact primary meets
    · simp only [if_neg assignment]
      refine corresponds_advance meets (divides_of_isInner (isInner_of_operator? named)) ?_
      intro inside
      exact (unary (stepwise.meets inside)).map fun _ _ same => congrArg _ same
termination_by 8 * s.remaining + 2
decreasing_by
  · omega
  · omega
  · have := s.remaining_advance_lt (Token.kind_ne_finish ‹_›)
    omega

theorem primary {s t : Session} (meets : c.Meets s t) :
    c.Corresponds Eq (primary s) (primary t) := by
  rw [primary_eq s, primary_eq t, meets.kind, meets.lexeme]
  split
  · next kind => exact corresponds_number meets (by rw [kind]; rfl)
  · next kind =>
    refine corresponds_advance meets (by rw [kind]; rfl) fun inside => ?_
    exact application s.current.lexeme inside
  · next kind =>
    exact corresponds_advance meets (by rw [kind]; rfl) fun inside => parenthesized inside
  · next kind =>
    exact corresponds_advance meets (by rw [kind]; rfl) fun inside => conditional inside
  · next kind => exact corresponds_advance meets (by rw [kind]; rfl) fun inside => loop inside
  · next kind => exact corresponds_advance meets (by rw [kind]; rfl) fun inside => locals inside
  · exact corresponds_unexpected meets
termination_by 8 * s.remaining + 1
decreasing_by
  all_goals
    have := s.remaining_advance_lt (by simp [*])
    omega

theorem operations {least : Int} (nonneg : 0 ≤ least) (left : Expr) {s t : Session}
    (inside : c.inside s t) :
    c.Corresponds Eq (operations least left s) (operations least left t) := by
  have meets := stepwise.meets inside
  rw [operations_eq _ _ s, operations_eq _ _ t, meets.operator?, meets.precedence]
  by_cases loose : s.precedence < least
  · rw [if_pos loose, if_pos loose]
    exact corresponds_pure inside rfl
  · rw [if_neg loose, if_neg loose]
    obtain ⟨op, named⟩ := operator?_isSome_of_precedence (s := s) (by omega)
    have inner := divides_of_isInner (isInner_of_operator? named)
    simp only [named]
    refine corresponds_advance meets inner fun inside₁ => ?_
    refine (unary (stepwise.meets inside₁)).andThen fun right s₁ t₁ _ _ inside₁ kept => ?_
    rw [(stepwise.meets inside₁).precedence]
    refine Corresponds.andThen ?_ fun right s₂ t₂ _ _ inside₂ kept₂ => ?_
    · by_cases absorbs : s.precedence < s₁.precedence ∨ (op = '=' ∧ s.precedence = s₁.precedence)
      · rw [if_pos absorbs, if_pos absorbs]
        exact operations (by split <;> omega) right inside₁
      · rw [if_neg absorbs, if_neg absorbs]
        exact corresponds_pure inside₁ rfl
    · have seen := kept₂ _ _ (kept _ _ (meets.keeps inner _ _ meets.position))
      rcases operate_cases op left right s.current.position t.current.position with
        ⟨combined, here, there⟩ | ⟨here, there⟩
      · rw [here, there]
        exact operations nonneg combined inside₂
      · rw [here, there]
        exact corresponds_fail (stepwise.meets inside₂) rfl seen
termination_by 8 * s.remaining
decreasing_by
  all_goals
    have := s.remaining_advance_lt (Token.kind_ne_finish ‹_›)
    omega

theorem application (name : String) {s t : Session} (inside : c.inside s t) :
    c.Corresponds Eq (application name s) (application name t) := by
  have meets := stepwise.meets inside
  rw [Grammar.application, Grammar.application, meets.kind]
  by_cases opens : s.current.kind = .leftParen
  · rw [if_pos opens, if_pos opens]
    refine corresponds_advance meets (by rw [opens]; rfl) fun inside₁ => ?_
    have meets₁ := stepwise.meets inside₁
    rw [meets₁.kind]
    by_cases closes : s.advance.current.kind = .rightParen
    · rw [if_pos closes, if_pos closes]
      exact (corresponds_take meets₁ (by rw [closes]; rfl)).map fun _ _ _ => rfl
    · rw [if_neg closes, if_neg closes]
      exact (arguments inside₁).map fun _ _ same => congrArg _ same
  · rw [if_neg opens, if_neg opens]
    exact corresponds_pure inside rfl
termination_by 8 * s.remaining + 5
decreasing_by
  have := s.remaining_advance_lt (by simp [*])
  omega

theorem arguments {s t : Session} (inside : c.inside s t) :
    c.Corresponds Eq (arguments s) (arguments t) := by
  rw [arguments_eq s, arguments_eq t]
  refine (expression (stepwise.meets inside)).andThen fun argument s₁ t₁ _ _ inside₁ _ => ?_
  have meets := stepwise.meets inside₁
  rw [meets.kind, meets.text]
  split
  · next kind => exact (corresponds_take meets (by rw [kind]; rfl)).map fun _ _ _ => rfl
  · next kind =>
    have fewer := s₁.remaining_advance_lt (by simp [kind])
    refine corresponds_advance meets (by rw [kind]; rfl) fun inside₂ => ?_
    exact (arguments inside₂).map fun _ _ same => congrArg _ same
  · exact corresponds_refuse meets
termination_by 8 * s.remaining + 4
decreasing_by all_goals omega

theorem parenthesized {s t : Session} (inside : c.inside s t) :
    c.Corresponds Eq (parenthesized s) (parenthesized t) := by
  rw [Grammar.parenthesized, Grammar.parenthesized]
  refine (expression (stepwise.meets inside)).andThen fun inner s₁ t₁ _ _ inside₁ _ => ?_
  exact (stepwise.closing inside₁).map fun _ _ _ => rfl
termination_by 8 * s.remaining + 4
decreasing_by omega

theorem conditional {s t : Session} (inside : c.inside s t) :
    c.Corresponds Eq (conditional s) (conditional t) := by
  rw [Grammar.conditional, Grammar.conditional]
  refine (expression (stepwise.meets inside)).andThen fun condition s₁ t₁ _ _ inside _ => ?_
  refine (corresponds_expect (stepwise.meets inside) _ rfl).andThenWith fun _ _ s₂ t₂ _ _ _ inside _ => ?_
  refine (expression (stepwise.meets inside)).andThen fun whenTrue s₃ t₃ _ _ inside _ => ?_
  refine (corresponds_expect (stepwise.meets inside) _ rfl).andThenWith fun _ _ s₄ t₄ _ _ _ inside _ => ?_
  exact (expression (stepwise.meets inside)).map fun _ _ same => by rw [same]
termination_by 8 * s.remaining + 4
decreasing_by all_goals omega

theorem loop {s t : Session} (inside : c.inside s t) :
    c.Corresponds Eq (loop s) (loop t) := by
  rw [Grammar.loop, Grammar.loop]
  refine (corresponds_expect (stepwise.meets inside) _ rfl).andThenWith
    fun counter counter' s₁ t₁ _ _ named inside _ => ?_
  rw [named]
  refine (corresponds_expect (stepwise.meets inside) _ rfl).andThenWith fun _ _ s₂ t₂ _ _ _ inside _ => ?_
  refine (expression (stepwise.meets inside)).andThen fun first s₃ t₃ _ _ inside _ => ?_
  refine (corresponds_expect (stepwise.meets inside) _ rfl).andThenWith fun _ _ s₄ t₄ _ _ _ inside _ => ?_
  refine (expression (stepwise.meets inside)).andThen fun last s₅ t₅ _ _ inside _ => ?_
  refine (optional rfl inside).andThen fun step s₆ t₆ _ _ inside _ => ?_
  refine (corresponds_expect (stepwise.meets inside) _ rfl).andThenWith fun _ _ s₇ t₇ _ _ _ inside _ => ?_
  exact (expression (stepwise.meets inside)).map fun _ _ same => by rw [same]
termination_by 8 * s.remaining + 5
decreasing_by all_goals omega

theorem locals {s t : Session} (inside : c.inside s t) :
    c.Corresponds Eq (locals s) (locals t) := by
  rw [Grammar.locals, Grammar.locals]
  refine (bindings inside).andThen fun bound s₁ t₁ _ _ inside _ => ?_
  refine (corresponds_expect (stepwise.meets inside) _ rfl).andThenWith fun _ _ s₂ t₂ _ _ _ inside _ => ?_
  exact (expression (stepwise.meets inside)).map fun _ _ same => by rw [same]
termination_by 8 * s.remaining + 6
decreasing_by all_goals omega

theorem bindings {s t : Session} (inside : c.inside s t) :
    c.Corresponds Eq (bindings s) (bindings t) := by
  rw [Grammar.bindings, Grammar.bindings]
  refine (corresponds_expect (stepwise.meets inside) _ rfl).andThenWith
    fun name name' s₁ t₁ _ _ named inside _ => ?_
  rw [named]
  refine (optional rfl inside).andThen fun initial s₂ t₂ _ _ inside _ => ?_
  have meets := stepwise.meets inside
  by_cases more : s₂.current.kind = .comma
  · have fewer := s₂.remaining_advance_lt (by simp [more])
    rw [dif_pos more, dif_pos (meets.kind.trans more)]
    refine corresponds_advance meets (by rw [more]; rfl) fun inside₃ => ?_
    exact (bindings inside₃).map fun _ _ same => congrArg _ same
  · rw [dif_neg more, dif_neg (meets.kind ▸ more)]
    exact corresponds_pure inside rfl
termination_by 8 * s.remaining + 5
decreasing_by all_goals omega

theorem optional {mark : Kind} (inner : isInner mark) {s t : Session} (inside : c.inside s t) :
    c.Corresponds Eq (optional mark s) (optional mark t) := by
  have meets := stepwise.meets inside
  rw [Grammar.optional, Grammar.optional, meets.kind]
  by_cases marked : s.current.kind = mark
  · rw [if_pos marked, if_pos marked]
    refine corresponds_advance meets (by rw [marked]; exact divides_of_isInner inner) fun inside₁ => ?_
    exact (expression (stepwise.meets inside₁)).map fun _ _ same => congrArg _ same
  · rw [if_neg marked, if_neg marked]
    exact corresponds_pure inside rfl
termination_by 8 * s.remaining + 4
decreasing_by
  have := s.advance_follows.le
  omega

end

/-! ## Prototypes and items -/

theorem precedence {s t : Session} (meets : c.Meets s t) (kind : s.current.kind = .number) :
    c.Corresponds Eq (precedence s) (precedence t) := by
  have inner : divides s.current.kind = false := by rw [kind]; rfl
  refine (corresponds_take meets inner).andThenWith fun token token' s₁ t₁ _ _ taken inside kept => ?_
  obtain ⟨rfl, rfl⟩ := taken
  rw [meets.lexeme]
  split
  · exact corresponds_pure inside rfl
  · exact corresponds_fail (stepwise.meets inside) rfl (kept _ _ meets.position)

theorem optionalPrecedence {s t : Session} (inside : c.inside s t) :
    c.Corresponds Eq (optionalPrecedence s) (optionalPrecedence t) := by
  have meets := stepwise.meets inside
  unfold Grammar.optionalPrecedence
  rw [meets.kind]
  by_cases kind : s.current.kind = .number
  · rw [if_pos kind, if_pos kind]
    exact (stepwise.precedence meets kind).map fun _ _ same => congrArg _ same
  · rw [if_neg kind, if_neg kind]
    exact corresponds_pure inside rfl

theorem declaredOperator {s t : Session} (inside : c.inside s t) :
    c.Corresponds Eq (declaredOperator s) (declaredOperator t) := by
  have meets := stepwise.meets inside
  unfold Grammar.declaredOperator
  rw [meets.operator?, meets.kind, meets.text]
  split
  · exact corresponds_refuse meets
  · exact corresponds_refuse meets
  · next op named _ =>
    have inner := divides_of_isInner (isInner_of_operator? named)
    exact (corresponds_take meets inner).map fun _ _ _ => rfl

theorem declaredBinary {s t : Session} (inside : c.inside s t) :
    c.Corresponds Eq (declaredBinary s) (declaredBinary t) := by
  refine (stepwise.declaredOperator inside).andThen fun op s₁ t₁ _ _ inside₁ kept => ?_
  by_cases builtin : op ∈ builtinOperators
  · rw [if_pos builtin, if_pos builtin]
    have seen := kept _ _ (stepwise.meets inside).position
    exact corresponds_fail (stepwise.meets inside₁) rfl seen
  · rw [if_neg builtin, if_neg builtin]
    exact (stepwise.optionalPrecedence inside₁).map fun _ _ same => congrArg _ same

/-- Identifiers one after the other are the same on both sides. -/
theorem names {s t : Session} (inside : c.inside s t) :
    (t.passWhile (·.kind = .identifier)).1.map Token.lexeme =
        (s.passWhile (·.kind = .identifier)).1.map Token.lexeme ∧
      c.inside (s.passWhile (·.kind = .identifier)).2 (t.passWhile (·.kind = .identifier)).2 ∧
      c.Keeps s t (s.passWhile (·.kind = .identifier)).2
        (t.passWhile (·.kind = .identifier)).2 := by
  have meets := stepwise.meets inside
  by_cases kind : s.current.kind = .identifier
  · have inner : divides s.current.kind = false := by rw [kind]; rfl
    have fewer := s.remaining_advance_lt (by simp [kind])
    obtain ⟨same, inside₁, kept⟩ := names (meets.advance inner)
    rw [Session.passWhile_of_kind (by simp) kind,
      Session.passWhile_of_kind (by simp) (meets.kind.trans kind)]
    refine ⟨?_, inside₁, (meets.keeps inner).trans kept⟩
    rw [List.map_cons, List.map_cons, same, meets.lexeme]
  · rw [Session.passWhile_of_other kind, Session.passWhile_of_other (meets.kind ▸ kind)]
    exact ⟨rfl, inside, .refl⟩
termination_by s.remaining

theorem parameters {s t : Session} (inside : c.inside s t) :
    c.Corresponds Eq (parameters s) (parameters t) := by
  refine (corresponds_expect (stepwise.meets inside) _ rfl).andThenWith
    fun _ _ s₁ t₁ _ _ _ inside₁ _ => ?_
  obtain ⟨same, inside₂, kept⟩ := stepwise.names inside₁
  refine Corresponds.since ?_ kept _ _
  exact (corresponds_expect (stepwise.meets inside₂) _ rfl).map fun _ _ _ => same.symm

theorem operands (role : Role) (op : Char) (precedence : Option Int) (expected : Nat)
    {p q : Position} {s t : Session} (inside : c.inside s t) (seen : c.positions s t p q) :
    c.Corresponds (fun a b => b.unplaced = a.unplaced ∧ a.position = p ∧ b.position = q)
      (operands role op precedence expected p s) (operands role op precedence expected q t) := by
  refine (stepwise.parameters inside).andThen fun params s₁ t₁ _ _ inside₁ kept => ?_
  by_cases enough : params.length = expected
  · rw [if_pos enough, if_pos enough]
    exact corresponds_pure inside₁ ⟨rfl, rfl, rfl⟩
  · rw [if_neg enough, if_neg enough]
    exact corresponds_fail (stepwise.meets inside₁) rfl (kept _ _ seen)

/-- Prototypes stand where their first tokens do. -/
theorem prototype {s t : Session} (meets : c.Meets s t) :
    c.Corresponds (fun a b => b.unplaced = a.unplaced ∧ a.position = s.current.position ∧
      b.position = t.current.position) (prototype s) (prototype t) := by
  unfold Grammar.prototype
  simp only [meets.kind, meets.lexeme, meets.text]
  split
  · next kind =>
    have inner : divides s.current.kind = false := by rw [kind]; rfl
    refine (corresponds_take meets inner).andThenWith fun _ _ s₁ t₁ _ _ _ inside kept => ?_
    refine (stepwise.declaredOperator inside).andThen fun op s₂ t₂ _ _ inside₂ kept₂ => ?_
    exact stepwise.operands _ _ _ _ inside₂ (kept₂ _ _ (kept _ _ meets.position))
  · next kind =>
    have inner : divides s.current.kind = false := by rw [kind]; rfl
    refine (corresponds_take meets inner).andThenWith fun _ _ s₁ t₁ _ _ _ inside kept => ?_
    refine (stepwise.declaredBinary inside).andThen fun op s₂ t₂ _ _ inside₂ kept₂ => ?_
    exact stepwise.operands _ _ _ _ inside₂ (kept₂ _ _ (kept _ _ meets.position))
  · next kind =>
    have inner : divides s.current.kind = false := by rw [kind]; rfl
    refine (corresponds_take meets inner).andThenWith fun _ _ s₁ t₁ _ _ _ inside _ => ?_
    exact (stepwise.parameters inside).map fun _ _ same => ⟨by rw [same]; rfl, rfl, rfl⟩
  · exact corresponds_refuse meets

/-- Prototypes that were read on both sides are the same but for their places, and are declared on
both sides or refused on both. -/
theorem declared {s t : Session} (inside : c.inside s t) {α β : Type} {also : α → β → Prop}
    {next : Prototype → (after : Session) → Reply after α}
    {next' : Prototype → (after : Session) → Reply after β}
    (more : ∀ p q s₁ t₁, q.unplaced = p.unplaced → p.position = s.current.position →
      q.position = t.current.position →
      c.Corresponds (fun _ _ => True) (Grammar.declare p s₁) (Grammar.declare q t₁) →
      c.Corresponds also (next p s₁) (next' q t₁)) :
    c.Corresponds also ((Grammar.prototype s).andThen fun p s _ => next p s)
      ((Grammar.prototype t).andThen fun q t _ => next' q t) := by
  have meets := stepwise.meets inside
  refine (stepwise.prototype meets).andThenWith fun p q s₁ t₁ _ _ read inside₁ kept => ?_
  obtain ⟨same, place, place'⟩ := read
  have seen := kept _ _ meets.position
  rw [← place, ← place'] at seen
  exact more p q s₁ t₁ same place place' (stepwise.declare inside₁ same seen)

theorem definition {s t : Session} (meets : c.Meets s t)
    (keyword : s.current.kind = .keyword .definition) :
    c.Corresponds (fun a b => b.unplaced = a.unplaced ∧
      a.prototype.position = s.advance.current.position ∧
      b.prototype.position = t.advance.current.position) (definition s) (definition t) := by
  refine corresponds_advance meets (by rw [keyword]; rfl) fun inside => ?_
  refine stepwise.declared inside fun p q s₁ t₁ same place place' declares => ?_
  refine declares.andThenWith fun _ _ s₂ t₂ _ _ _ inside₂ _ => ?_
  refine (stepwise.expression (stepwise.meets inside₂)).map fun body _ equal => ?_
  subst equal
  exact ⟨congrArg (fun p => Item.definition ⟨p, [body]⟩) same, place, place'⟩

theorem external {s t : Session} (meets : c.Meets s t)
    (keyword : s.current.kind = .keyword .external) :
    c.Corresponds (fun a b => b.unplaced = a.unplaced ∧
      a.prototype.position = s.advance.current.position ∧
      b.prototype.position = t.advance.current.position) (external s) (external t) := by
  refine corresponds_advance meets (by rw [keyword]; rfl) fun inside => ?_
  refine stepwise.declared inside fun p q s₁ t₁ same place place' declares => ?_
  exact declares.map fun _ _ _ => ⟨congrArg Item.external same, place, place'⟩

theorem topLevel {s t : Session} (meets : c.Meets s t) :
    c.Corresponds (fun a b => b.unplaced = a.unplaced ∧
      a.prototype.position = s.current.position ∧
      b.prototype.position = t.current.position) (topLevel s) (topLevel t) := by
  refine (stepwise.expression meets).andThen fun body s₁ t₁ _ _ inside _ => ?_
  refine corresponds_pure inside ⟨?_, rfl, rfl⟩
  rw [stepwise.name inside]
  rfl

/-- Items that begin alike are the same but for their places, or are refused for the same cause. -/
theorem item {s t : Session} (meets : c.Meets s t) :
    c.Corresponds (fun a b => b.unplaced = a.unplaced ∧ a.prototype.position = itemPlace s ∧
      b.prototype.position = itemPlace t) (item s) (item t) := by
  by_cases defines : s.current.kind = .keyword .definition
  · simp only [itemPlace, Grammar.item, meets.kind, defines, beginsDeclaration, if_true]
    exact stepwise.definition meets defines
  · by_cases declares : s.current.kind = .keyword .external
    · simp only [itemPlace, Grammar.item, meets.kind, declares, beginsDeclaration, if_true]
      exact stepwise.external meets declares
    · have plain : beginsDeclaration s.current.kind = false := by
        unfold beginsDeclaration
        split
        · exact absurd ‹_› defines
        · exact absurd ‹_› declares
        · rfl
      rw [item_eq_topLevel s plain, item_eq_topLevel t (meets.kind ▸ plain)]
      simp only [itemPlace, meets.kind, plain, Bool.false_eq_true, if_false]
      exact stepwise.topLevel meets

end Stepwise

end Comparison

end Grammar

end Kaleido
