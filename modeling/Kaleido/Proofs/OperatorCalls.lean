import Kaleido.Proofs.Outcomes
import Kaleido.Proofs.Walks

/-!
# Calls of operators

The use of a declared operator is a call of the function that it stands for, which the resolver
looks up. Main statement: a binary operator that the reader accepted is found with two parameters,
and a unary operator that is found has one, so no source is refused for a call of either, unless a
unary operator has no declaration.
-/
namespace Kaleido

/-! ## The functions that operators stand for -/

namespace Session.Consistent

variable {s : Session}

/-- A binary operator of the table that the language does not have itself has a declaration with
two parameters. -/
theorem arity_binary (consistent : s.Consistent) {op : Char} (known : s.operators.contains op)
    (other : op ≠ '=') (free : op ∉ builtinOperators) :
    ∃ inForce, s.declarations.find? (Role.binary.functionName op) = some inForce ∧
      inForce.arity = 2 := by
  obtain ⟨precedence, entry⟩ := Option.isSome_iff_exists.mp known
  obtain ⟨-, inForce, held, -, two, -⟩ :=
    consistent.inForce entry (Operators.precedence?_builtin_eq_none other free)
  exact ⟨inForce, held, two⟩

/-- A declaration under the name of a unary operator has one parameter. -/
theorem arity_unary (consistent : s.Consistent) {op : Char} (mark : isOperatorMark op)
    {inForce : Prototype}
    (held : s.declarations.find? (Role.unary.functionName op) = some inForce) :
    inForce.arity = 1 := by
  obtain ⟨named, declarable⟩ := consistent.declarable _ inForce held
  cases declarable with
  | function word =>
    exact absurd named (functionName_ne_of_word word (not_isWordPart_of_isOperatorMark mark)).1
  | unary _ _ _ one => exact one
  | binary => exact absurd named.symm (functionName_unary_ne_binary op _)

end Session.Consistent

/-- That a cause is no failed call of an operator, other than of a unary operator without a
declaration. -/
def Cause.SparesOperators (cause : Cause) : Prop :=
  ∀ op, isOperatorMark op →
    cause ≠ .unknownFunction (Role.binary.functionName op) ∧
    ∀ expected received,
      cause ≠ .unexpectedArguments (Role.binary.functionName op) expected received ∧
      cause ≠ .unexpectedArguments (Role.unary.functionName op) expected received

theorem Cause.sparesOperators_of_stage {cause : Cause} (stage : cause.stage ≠ .resolution) :
    cause.SparesOperators := by
  intro op _
  refine ⟨?_, fun expected received => ⟨?_, ?_⟩⟩
  · rintro rfl
    exact stage rfl
  · rintro rfl
    exact stage rfl
  · rintro rfl
    exact stage rfl

namespace Walk

variable {s : Session} {position : Position}

theorem spares_variable (name : String) : (Cause.variableNotDeclared name).SparesOperators := by
  intro op _
  simp

/-- A call by a word is a call of no operator. -/
theorem spares_call_word {name : String} (word : IsIdentifier name) (received : Nat) :
    (call s.declarations position name received).EndsBy Cause.SparesOperators := by
  have apart := fun op (mark : isOperatorMark op) =>
    functionName_ne_of_word word (not_isWordPart_of_isOperatorMark mark)
  refine endsBy_call (fun _ op mark => ?_) (fun _ _ _ op mark => ?_)
  · simp [(apart op mark).2]
  · simp [apart op mark]

/-- A call of a binary operator that the session knows does not fail. -/
theorem spares_call_binary (consistent : s.Consistent) {op : Char}
    (known : s.operators.contains op) (other : op ≠ '=') (free : op ∉ builtinOperators) :
    (call s.declarations position (Role.binary.functionName op) 2).EndsBy Cause.SparesOperators := by
  obtain ⟨inForce, held, two⟩ := consistent.arity_binary known other free
  refine endsBy_call (fun none => ?_) (fun found same differs => ?_)
  · cases held.symm.trans none
  · obtain rfl := Option.some.inj (held.symm.trans same)
    exact absurd two differs

/-- A call of a unary operator fails only if the operator has no declaration. -/
theorem spares_call_unary (consistent : s.Consistent) {op : Char} (mark : isOperatorMark op) :
    (call s.declarations position (Role.unary.functionName op) 1).EndsBy Cause.SparesOperators := by
  refine endsBy_call (fun _ other _ => ?_) (fun inForce held differs => ?_)
  · simp [functionName_unary_ne_binary]
  · exact absurd (consistent.arity_unary mark held) differs

/-- A walk over a well-formed expression ends by causes that its uses of variables, its calls by a
word and its calls of operators end by. -/
theorem endsBy_expression {allowed : Cause → Prop} {declarations : Declarations}
    {numbers : Binary64 → Prop} {operators : Char → Prop}
    (unbound : ∀ name, IsIdentifier name → allowed (.variableNotDeclared name))
    (word : ∀ name received, IsIdentifier name →
      (call declarations position name received).EndsBy allowed)
    (binary : ∀ op, operators op → op ≠ '=' → op ∉ builtinOperators →
      (call declarations position (Role.binary.functionName op) 2).EndsBy allowed)
    (unary : ∀ op, IsOperator op →
      (call declarations position (Role.unary.functionName op) 1).EndsBy allowed)
    {expr : Expr} (wellFormed : expr.WellFormed numbers operators) :
    (expression declarations position expr).EndsBy allowed := by
  induction wellFormed with
  | number =>
    rw [expression]
    exact endsBy_pure ()
  | var identifier =>
    rw [expression]
    exact endsBy_refer .read (unbound _ identifier)
  | assign identifier _ ihValue =>
    rw [expression]
    exact endsBy_bind ihValue fun _ => endsBy_refer .write (unbound _ identifier)
  | binary known other _ _ ihLeft ihRight =>
    rw [expression]
    refine endsBy_bind ihLeft fun _ => endsBy_bind ihRight fun _ => ?_
    split
    · next free => exact binary _ known other free
    · exact endsBy_pure ()
  | unary mark _ _ ihOperand =>
    rw [expression]
    exact endsBy_bind ihOperand fun _ => unary _ mark
  | call identifier _ ihArguments =>
    rw [expression]
    exact endsBy_bind (endsBy_expressions ihArguments) fun _ => word _ _ identifier
  | conditional _ _ _ ihCondition ihTrue ihFalse =>
    rw [expression]
    refine endsBy_bind ihCondition fun _ => endsBy_bind ?_ fun _ => ?_
    · exact endsBy_expressions (List.forall_mem_singleton.mpr ihTrue)
    · exact endsBy_expressions (List.forall_mem_singleton.mpr ihFalse)
  | loop _ _ _ _ _ ihFirst ihLast ihStep ihBody =>
    rw [expression]
    refine endsBy_bind ihFirst fun _ => endsBy_bind (endsBy_allocate _ _) fun slot => ?_
    refine endsBy_within (endsBy_bind ihLast fun _ => endsBy_bind ?_ fun _ => ?_)
    · exact endsBy_optional ihStep
    · exact endsBy_expressions (List.forall_mem_singleton.mpr ihBody)
  | locals _ _ _ _ ihBindings ihBody =>
    rw [expression]
    exact endsBy_within (endsBy_bind (endsBy_bindings ihBindings) fun _ => ihBody)

/-- A walk over a well-formed expression ends by no failed call of an operator, other than of a
unary operator without a declaration. -/
theorem spares_expression (consistent : s.Consistent) {numbers : Binary64 → Prop} {expr : Expr}
    (wellFormed : expr.WellFormed numbers (s.operators.contains ·)) :
    (expression s.declarations position expr).EndsBy Cause.SparesOperators :=
  endsBy_expression (fun name _ => spares_variable name)
    (fun _ received identifier => spares_call_word identifier received)
    (fun _ known other free => spares_call_binary consistent known other free)
    (fun _ mark => spares_call_unary consistent mark.mark) wellFormed

end Walk

/-- A function is refused for a second body, or where the walk over it ends. -/
theorem Resolver.function_eq_error {resolver : Resolver} {function : Function}
    {declarations : Declarations} {diagnostic : Diagnostic}
    (failed : (resolver.function function declarations).1 = .error diagnostic) :
    diagnostic.cause = .functionRedefined function.prototype.name ∨
      (Walk.function declarations function).1 = .error diagnostic := by
  unfold Resolver.function at failed
  simp only at failed
  split at failed
  · obtain rfl := Except.error.inj failed
    exact .inl rfl
  · split at failed
    · next found walk held =>
      obtain rfl := Except.error.inj failed
      exact .inr (by rw [held])
    · cases failed

theorem Resolver.cause_function {allowed : Cause → Prop} {declarations : Declarations}
    {function : Function} (redefined : allowed (.functionRedefined function.prototype.name))
    (body : ∀ expr ∈ function.body, ∀ position,
      (Walk.expression declarations position expr).EndsBy allowed)
    {resolver : Resolver} {diagnostic : Diagnostic}
    (failed : (resolver.function function declarations).1 = .error diagnostic) :
    allowed diagnostic.cause := by
  rcases Resolver.function_eq_error failed with again | ended
  · rwa [again]
  · refine Walk.endsBy_within (Walk.endsBy_expressions fun expr member => ?_) _ diagnostic ended
    exact body expr member function.prototype.position

/-- The causes for which an item cannot be resolved are a second body for its name, and those by
which the walks over its body end. -/
theorem Resolver.cause_item {allowed : Cause → Prop} {declarations : Declarations} {item : Item}
    (redefined : allowed (.functionRedefined item.prototype.name))
    (body : ∀ expr ∈ item.body, ∀ position,
      (Walk.expression declarations position expr).EndsBy allowed)
    {resolver : Resolver} {diagnostic : Diagnostic}
    (failed : (resolver.item item declarations).1 = .error diagnostic) :
    allowed diagnostic.cause := by
  cases item with
  | definition function => exact cause_function redefined body failed
  | expression function => exact cause_function redefined body failed
  | external prototype => cases failed

/-- Whatever the source, no diagnostic of its compilation is a failed call of a binary operator, nor
one of a unary operator with a declaration: every use of a binary operator that the language does
not have itself is found with two parameters, and every unary operator that is found has one. -/
theorem accepted_operators_resolve (source : String) :
    (∀ diagnostic ∈ (compile source).diagnostics, ∀ op, isOperatorMark op →
      diagnostic.cause ≠ .unknownFunction (Role.binary.functionName op) ∧
      ∀ expected received,
        diagnostic.cause ≠ .unexpectedArguments (Role.binary.functionName op) expected received ∧
        diagnostic.cause ≠ .unexpectedArguments (Role.unary.functionName op) expected received) ∧
    ∀ outcome ∈ (Grammar.program (.ofSource source)).1,
      (∀ item, outcome.result = .ok item → ∀ expr ∈ item.body, ∀ op left right,
        (Expr.binary op left right).PartOf expr → op ∉ builtinOperators →
        ∃ inForce, outcome.after.declarations.find? (Role.binary.functionName op) = some inForce ∧
          inForce.arity = 2) ∧
      ∀ op, isOperatorMark op → ∀ inForce,
        outcome.after.declarations.find? (Role.unary.functionName op) = some inForce →
        inForce.arity = 1 := by
  have sound := Grammar.sound_program (.ofSource source)
  refine ⟨fun diagnostic member => ?_, fun outcome listed => ⟨?_, ?_⟩⟩
  · obtain ⟨outcome, listed, unread | ⟨item, read, resolver, refused⟩⟩ :=
      mem_diagnostics_compile member
    · exact Cause.sparesOperators_of_stage ((sound outcome listed).unresolved diagnostic unread)
    · have := sound outcome listed
      have redefined : (Cause.functionRedefined item.prototype.name).SparesOperators :=
        fun op _ => by simp
      refine Resolver.cause_item redefined (fun expr member _ => ?_) refused
      exact Walk.spares_expression this.consistent (this.wellFormed item read expr member)
  · intro item read expr member op left right inside free
    have := sound outcome listed
    cases (this.wellFormed item read expr member).part inside with
    | binary known other _ _ => exact this.consistent.arity_binary known other free
  · exact fun op mark inForce held => (sound outcome listed).consistent.arity_unary mark held

end Kaleido
