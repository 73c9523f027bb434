import Kaleido.Resolver

/-!
# What walks do

A walk is put together from a few parts: it allocates slots, binds and uses names, notes calls,
opens frames, and goes on after another part or ends where that one does. So the causes by which a
walk can end are those of its uses and of its calls, and what holds between two walks, part by part,
holds between the walks over one body.
-/
namespace Kaleido

/-- That a part of a walk ends by certain causes only. -/
def WalkM.EndsBy {α : Type} (part : WalkM α) (allowed : Cause → Prop) : Prop :=
  ∀ walk diagnostic, (part walk).1 = .error diagnostic → allowed diagnostic.cause

namespace Walk

variable {α β : Type} {allowed : Cause → Prop} {declarations : Declarations} {position : Position}

theorem run_bind_of_ok {part : WalkM α} {next : α → WalkM β} {walk after : Walk} {a : α}
    (held : part walk = (.ok a, after)) : (part >>= next) walk = next a after := by
  simp only [bind, held]

theorem run_bind_of_error {part : WalkM α} {next : α → WalkM β} {walk : Walk}
    {diagnostic : Diagnostic} (held : (part walk).1 = .error diagnostic) :
    ((part >>= next) walk).1 = .error diagnostic := by
  rcases whole : part walk with ⟨found | a, after⟩
  · rw [whole] at held
    obtain rfl := Except.error.inj held
    simp only [bind, whole]
  · rw [whole] at held
    cases held

instance : LawfulMonad WalkM := LawfulMonad.mk' WalkM
  (fun part => funext fun walk => by
    rcases held : part walk with ⟨diagnostic | a, after⟩
    · simp only [Functor.map, held]
    · exact run_bind_of_ok held)
  (fun _ _ => rfl)
  (fun part _ _ => funext fun walk => by
    rcases held : part walk with ⟨diagnostic | a, after⟩
    · simp only [bind, held]
    · simp only [bind, held])

/-- Of two parts one after the other, the one or the other ends a walk. -/
theorem error_of_bind {part : WalkM α} {next : α → WalkM β} {walk : Walk} {diagnostic : Diagnostic}
    (failed : ((part >>= next) walk).1 = .error diagnostic) :
    (part walk).1 = .error diagnostic ∨ ∃ a after, (next a after).1 = .error diagnostic := by
  rcases held : part walk with ⟨found | a, after⟩
  · left
    have ended : (part walk).1 = .error found := by rw [held]
    rw [run_bind_of_error ended] at failed
    obtain rfl := Except.error.inj failed
    rfl
  · rw [run_bind_of_ok held] at failed
    exact .inr ⟨a, after, failed⟩

theorem endsBy_pure (a : α) : (pure a : WalkM α).EndsBy allowed := by
  intro walk diagnostic failed
  cases failed

theorem endsBy_bind {part : WalkM α} {next : α → WalkM β} (first : part.EndsBy allowed)
    (second : ∀ a, (next a).EndsBy allowed) : (part >>= next).EndsBy allowed := by
  intro walk diagnostic failed
  rcases error_of_bind failed with ended | ⟨a, after, later⟩
  · exact first walk diagnostic ended
  · exact second a after diagnostic later

theorem endsBy_within {frame : Frame Nat} {work : WalkM Unit} (inner : work.EndsBy allowed) :
    (within frame work).EndsBy allowed := fun _ diagnostic failed => inner _ diagnostic failed

theorem endsBy_allocate (name : String) (origin : Origin) :
    (allocate name origin).EndsBy allowed := by
  intro walk diagnostic failed
  cases failed

theorem endsBy_bindName (name : String) (slot : Nat) : (bindName name slot).EndsBy allowed := by
  intro walk diagnostic failed
  cases failed

theorem endsBy_refer {name : String} (access : Access)
    (missing : allowed (.variableNotDeclared name)) :
    (refer position name access).EndsBy allowed := by
  intro walk diagnostic failed
  unfold refer at failed
  split at failed
  · obtain rfl := Except.error.inj failed
    exact missing
  · cases failed

/-- A call ends a walk if its function has no declaration, or has one with another arity. -/
theorem endsBy_call {name : String} {received : Nat}
    (missing : declarations.find? name = none → allowed (.unknownFunction name))
    (differs : ∀ inForce, declarations.find? name = some inForce → inForce.arity ≠ received →
      allowed (.unexpectedArguments name inForce.arity received)) :
    (call declarations position name received).EndsBy allowed := by
  intro walk diagnostic failed
  unfold call Declarations.signature? at failed
  cases held : declarations.find? name with
  | none =>
    simp only [held, Option.map_none] at failed
    obtain rfl := Except.error.inj failed
    exact missing held
  | some inForce =>
    simp only [held, Option.map_some] at failed
    split at failed
    · cases failed
    · next other =>
      obtain rfl := Except.error.inj failed
      exact differs inForce held other

theorem endsBy_expressions {exprs : List Expr}
    (each : ∀ expr ∈ exprs, (expression declarations position expr).EndsBy allowed) :
    (expressions declarations position exprs).EndsBy allowed := by
  induction exprs with
  | nil =>
    rw [expressions]
    exact endsBy_pure ()
  | cons expr rest ih =>
    rw [expressions]
    refine endsBy_bind (each expr (List.mem_cons_self ..)) fun _ => ih fun other member => ?_
    exact each other (List.mem_cons_of_mem _ member)

theorem endsBy_optional {given : Option Expr}
    (each : ∀ expr ∈ given, (expression declarations position expr).EndsBy allowed) :
    (optional declarations position given).EndsBy allowed := by
  cases given with
  | none =>
    rw [optional]
    exact endsBy_pure ()
  | some expr =>
    rw [optional]
    exact each expr rfl

theorem endsBy_bindings {bound : List (String × Option Expr)}
    (each : ∀ binding ∈ bound, ∀ initial ∈ binding.2,
      (expression declarations position initial).EndsBy allowed) :
    (bindings declarations position bound).EndsBy allowed := by
  induction bound with
  | nil =>
    rw [bindings]
    exact endsBy_pure ()
  | cons binding rest ih =>
    rw [bindings]
    refine endsBy_bind (endsBy_optional (each binding (List.mem_cons_self ..))) fun _ => ?_
    refine endsBy_bind (endsBy_allocate _ _) fun slot => ?_
    refine endsBy_bind (endsBy_bindName _ _) fun _ => ih fun other member => ?_
    exact each other (List.mem_cons_of_mem _ member)

/-! ## Two walks over one body -/

/-- That a relation between parts of two walks holds of those that know nothing of the body, with
the declarations and the place of each of the walks. -/
structure Parallel (relates : ∀ {α : Type}, WalkM α → WalkM α → Prop)
    (declarations others : Declarations) (position place : Position) : Prop where
  pure : ∀ {α : Type} (a : α), relates (pure a) (pure a)
  bind : ∀ {α β : Type} {part other : WalkM α} {next follow : α → WalkM β}, relates part other →
    (∀ a, relates (next a) (follow a)) → relates (part >>= next) (other >>= follow)
  within : ∀ (frame : Frame Nat) {work other : WalkM Unit}, relates work other →
    relates (within frame work) (within frame other)
  allocate : ∀ name origin, relates (allocate name origin) (allocate name origin)
  bindName : ∀ name slot, relates (bindName name slot) (bindName name slot)
  refer : ∀ name access, relates (refer position name access) (refer place name access)
  call : ∀ name received,
    relates (call declarations position name received) (call others place name received)

namespace Parallel

variable {relates : ∀ {α : Type}, WalkM α → WalkM α → Prop}
variable {declarations others : Declarations} {position place : Position}

mutual

/-- The relation holds between the walks over an expression. The cases are those of the walk. -/
theorem expression (parallel : Parallel relates declarations others position place) (expr : Expr) :
    relates (Walk.expression declarations position expr) (Walk.expression others place expr) := by
  match expr with
  | .number _ =>
    rw [Walk.expression, Walk.expression]
    exact parallel.pure ()
  | .var name =>
    rw [Walk.expression, Walk.expression]
    exact parallel.refer name .read
  | .assign target value =>
    rw [Walk.expression, Walk.expression]
    exact parallel.bind (parallel.expression value) fun _ => parallel.refer target .write
  | .binary op left right =>
    rw [Walk.expression, Walk.expression]
    refine parallel.bind (parallel.expression left) fun _ => ?_
    refine parallel.bind (parallel.expression right) fun _ => ?_
    split
    · exact parallel.call _ 2
    · exact parallel.pure ()
  | .unary op operand =>
    rw [Walk.expression, Walk.expression]
    exact parallel.bind (parallel.expression operand) fun _ => parallel.call _ 1
  | .call callee arguments =>
    rw [Walk.expression, Walk.expression]
    exact parallel.bind (parallel.expressions arguments) fun _ => parallel.call callee _
  | .conditional condition whenTrue whenFalse =>
    rw [Walk.expression, Walk.expression]
    refine parallel.bind (parallel.expression condition) fun _ => ?_
    refine parallel.bind (parallel.expressions whenTrue) fun _ => ?_
    exact parallel.expressions whenFalse
  | .loop counter first last step body =>
    rw [Walk.expression, Walk.expression]
    refine parallel.bind (parallel.expression first) fun _ => ?_
    refine parallel.bind (parallel.allocate counter .loopVariable) fun slot => ?_
    refine parallel.within _ (parallel.bind (parallel.expression last) fun _ => ?_)
    refine parallel.bind (parallel.optional step) fun _ => ?_
    exact parallel.expressions body
  | .locals bound body =>
    rw [Walk.expression, Walk.expression]
    refine parallel.within _ (parallel.bind (parallel.bindings bound) fun _ => ?_)
    exact parallel.expression body

theorem expressions (parallel : Parallel relates declarations others position place)
    (exprs : List Expr) : relates (Walk.expressions declarations position exprs)
      (Walk.expressions others place exprs) := by
  match exprs with
  | [] =>
    rw [Walk.expressions, Walk.expressions]
    exact parallel.pure ()
  | expr :: rest =>
    rw [Walk.expressions, Walk.expressions]
    exact parallel.bind (parallel.expression expr) fun _ => parallel.expressions rest

theorem optional (parallel : Parallel relates declarations others position place)
    (given : Option Expr) : relates (Walk.optional declarations position given)
      (Walk.optional others place given) := by
  match given with
  | none =>
    rw [Walk.optional, Walk.optional]
    exact parallel.pure ()
  | some expr =>
    rw [Walk.optional, Walk.optional]
    exact parallel.expression expr

theorem bindings (parallel : Parallel relates declarations others position place)
    (bound : List (String × Option Expr)) : relates (Walk.bindings declarations position bound)
      (Walk.bindings others place bound) := by
  match bound with
  | [] =>
    rw [Walk.bindings, Walk.bindings]
    exact parallel.pure ()
  | (name, initial) :: rest =>
    rw [Walk.bindings, Walk.bindings]
    refine parallel.bind (parallel.optional initial) fun _ => ?_
    refine parallel.bind (parallel.allocate name .localVariable) fun slot => ?_
    refine parallel.bind (parallel.bindName name slot) fun _ => ?_
    exact parallel.bindings rest

end

/-- The relation holds between the walks inside the frame of the parameters. -/
theorem body (parallel : Parallel relates declarations others position place)
    (params : List String) (exprs : List Expr) :
    relates (Walk.within (parameterFrame params) (Walk.expressions declarations position exprs))
      (Walk.within (parameterFrame params) (Walk.expressions others place exprs)) :=
  parallel.within _ (parallel.expressions exprs)

end Parallel

/-- The causes by which a walk ends are those of uses and calls. -/
theorem parallel_endsBy {allowed : Cause → Prop}
    (unbound : ∀ name, allowed (.variableNotDeclared name))
    (unknown : ∀ name, allowed (.unknownFunction name))
    (differs : ∀ name expected received, allowed (.unexpectedArguments name expected received))
    (declarations : Declarations) (position : Position) :
    Parallel (fun part _ => part.EndsBy allowed) declarations declarations position position where
  pure := endsBy_pure
  bind := endsBy_bind
  within _ _ _ inner := endsBy_within inner
  allocate := endsBy_allocate
  bindName := endsBy_bindName
  refer name access := endsBy_refer access (unbound name)
  call name received := endsBy_call (fun _ => unknown name) fun inForce _ _ =>
    differs name inForce.arity received

end Walk

end Kaleido
