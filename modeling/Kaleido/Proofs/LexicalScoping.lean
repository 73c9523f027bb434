import Kaleido.Proofs.Walks
import Mathlib.Data.List.Find
import Mathlib.Data.List.Induction
import Mathlib.Logic.Function.Basic

/-!
# Lexical scoping

The meaning of names without a stack of frames: an environment is handed down to the parts of an
expression and is never changed, so a binding ends with the part that it was made for. Main
statement: a function that has no body yet is resolved to exactly what the environments say, and is
refused with exactly the diagnostic that they give.
-/
namespace Kaleido

namespace Lexical

/-! ## Resolution by environments -/

/-- The slots that names mean at a place of a body. -/
abbrev Environment := String → Option Nat

/-- The environment in which a name means one slot and every other name what it did. -/
def Environment.bind (environment : Environment) (name : String) (slot : Nat) : Environment :=
  Function.update environment name (some slot)

/-- The environment of parameters: a name means the last parameter of that name. -/
def Environment.ofParameters (params : List String) : Environment := fun name =>
  (List.range params.length).reverse.find? fun slot => params[slot]? = some name

/-- What was found in a body up to some place. -/
structure Findings where
  slots : Array Slot := #[]
  references : Array Reference := #[]
  calls : Array Signature := #[]

/-- The findings at the start of a body: one slot for each parameter. -/
def Findings.ofParameters (params : List String) : Findings :=
  { slots := (params.map fun name => ⟨name, .parameter⟩).toArray }

/-- The number of the next slot. -/
def Findings.next (found : Findings) : Nat := found.slots.size

/-- Adds a slot. -/
def Findings.allocate (found : Findings) (name : String) (origin : Origin) : Findings :=
  { found with slots := found.slots.push ⟨name, origin⟩ }

section

variable (declarations : Declarations) (position : Position)

/-- Adds the use of a variable, which the environment has to know. -/
def refer (name : String) (access : Access) (environment : Environment) (found : Findings) :
    Except Diagnostic Findings :=
  match environment name with
  | some slot => .ok { found with references := found.references.push ⟨name, slot, access⟩ }
  | none => .error ⟨.variableNotDeclared name, position⟩

/-- Adds a call, which has to have the arity that is declared. -/
def call (name : String) (received : Nat) (found : Findings) : Except Diagnostic Findings :=
  match declarations.find? name with
  | some inForce =>
    if inForce.arity = received then
      .ok { found with calls := found.calls.push inForce.signature }
    else .error ⟨.unexpectedArguments name inForce.arity received, position⟩
  | none => .error ⟨.unknownFunction name, position⟩

mutual

/-- Resolves an expression in an environment. -/
def expression (environment : Environment) (found : Findings) : Expr → Except Diagnostic Findings
  | .number _ => .ok found
  | .var name => refer position name .read environment found
  | .assign target value => do
    let found ← expression environment found value
    refer position target .write environment found
  | .binary op left right => do
    let found ← expression environment found left
    let found ← expression environment found right
    if op ∈ builtinOperators then .ok found
    else call declarations position (Role.binary.functionName op) 2 found
  | .unary op operand => do
    let found ← expression environment found operand
    call declarations position (Role.unary.functionName op) 1 found
  | .call callee arguments => do
    let found ← expressions environment found arguments
    call declarations position callee arguments.length found
  | .conditional condition whenTrue whenFalse => do
    let found ← expression environment found condition
    let found ← expressions environment found whenTrue
    expressions environment found whenFalse
  | .loop counter first last step body => do
    let found ← expression environment found first
    let inner := environment.bind counter found.next
    let found ← expression inner (found.allocate counter .loopVariable) last
    let found ← optional inner found step
    expressions inner found body
  | .locals bound body => do
    let (inner, found) ← bindings environment found bound
    expression inner found body

/-- Resolves expressions one after the other, all in the same environment. -/
def expressions (environment : Environment) (found : Findings) :
    List Expr → Except Diagnostic Findings
  | [] => .ok found
  | expr :: rest => do
    let found ← expression environment found expr
    expressions environment found rest

/-- Resolves an expression if there is one. -/
def optional (environment : Environment) (found : Findings) :
    Option Expr → Except Diagnostic Findings
  | none => .ok found
  | some expr => expression environment found expr

/-- Resolves local variables. The answer has the environment that knows all of them; the initial
value of each is resolved in the one that knows those before it. -/
def bindings (environment : Environment) (found : Findings) :
    List (String × Option Expr) → Except Diagnostic (Environment × Findings)
  | [] => .ok (environment, found)
  | (name, initial) :: rest => do
    let found ← optional environment found initial
    bindings (environment.bind name found.next) (found.allocate name .localVariable) rest

end

end

/-- Resolves the body of a function, whose parameters have the first slots. -/
def body (declarations : Declarations) (function : Function) : Except Diagnostic Findings :=
  expressions declarations function.prototype.position
    (.ofParameters function.prototype.params) (.ofParameters function.prototype.params)
    function.body

/-- Resolves a function. -/
def function (declarations : Declarations) (function : Function) :
    Except Diagnostic ResolvedFunction := do
  let found ← body declarations function
  return ⟨function.prototype.name, found.slots, found.references, found.calls⟩

/-! ## Walks -/

/-- That a scope gives every name the meaning that an environment gives it. -/
def Agrees (scope : Scope Nat) (environment : Environment) : Prop :=
  ∀ name, scope.find? name = environment name

theorem Agrees.push_empty {scope : Scope Nat} {environment : Environment}
    (agrees : Agrees scope environment) : Agrees (scope.push .empty) environment := by
  intro name
  rw [Scope.find?_push, Table.find?_empty, Option.none_or, agrees name]

theorem Agrees.declare {outer : Scope Nat} {frame : Frame Nat} {environment : Environment}
    (agrees : Agrees (outer.push frame) environment) (name : String) (slot : Nat) :
    Agrees (outer.push (frame.insert name slot)) (environment.bind name slot) := by
  intro other
  have before := agrees other
  rw [Scope.find?_push] at before
  rw [Scope.find?_push, Table.find?_insert, Environment.bind, Function.update_apply]
  split
  · rfl
  · exact before

/-- The walk with certain bindings and findings. -/
def Findings.walk (found : Findings) (scope : Scope Nat) : Walk :=
  ⟨scope, found.slots, found.references, found.calls⟩

/-- That a part of a walk ends as the environments say. After a result the bindings are those at
the start of the part; after an error nothing is said of them. -/
def Ends (answer : Except Diagnostic Unit × Walk) (scope : Scope Nat) :
    Except Diagnostic Findings → Prop
  | .ok found => answer = (.ok (), found.walk scope)
  | .error diagnostic => answer.1 = .error diagnostic

/-- That a walk over local variables ends as the environments say: it changes the innermost frame
only, and leaves the bindings of the environment that it answers with. -/
def Opens (answer : Except Diagnostic Unit × Walk) (outer : Scope Nat) :
    Except Diagnostic (Environment × Findings) → Prop
  | .ok (inner, found) => ∃ frame, Agrees (outer.push frame) inner ∧
    answer = (.ok (), found.walk (outer.push frame))
  | .error diagnostic => answer.1 = .error diagnostic

section

variable {scope : Scope Nat} {environment : Environment} {declarations : Declarations}
  {position : Position}

/-- Two parts of a walk one after the other end as the environments say if both do. -/
theorem ends_bind {part : WalkM Unit} {next : Unit → WalkM Unit} {walk : Walk}
    {expected : Except Diagnostic Findings} {rest : Findings → Except Diagnostic Findings}
    (first : Ends (part walk) scope expected)
    (second : ∀ found, Ends (next () (found.walk scope)) scope (rest found)) :
    Ends ((part >>= next) walk) scope (expected >>= rest) := by
  cases expected with
  | error diagnostic => exact Walk.run_bind_of_error first
  | ok found =>
    have same : (part >>= next) walk = next () (found.walk scope) := Walk.run_bind_of_ok first
    rw [same]
    exact second found

theorem ends_refer (agrees : Agrees scope environment) (name : String) (access : Access)
    (found : Findings) : Ends (Walk.refer position name access (found.walk scope)) scope
      (refer position name access environment found) := by
  unfold Walk.refer refer
  rw [show (found.walk scope).scope.find? name = environment name from agrees name]
  cases environment name with
  | none => rfl
  | some slot => rfl

theorem ends_call (name : String) (received : Nat) (found : Findings) :
    Ends (Walk.call declarations position name received (found.walk scope)) scope
      (call declarations position name received found) := by
  unfold Walk.call call Declarations.signature?
  cases declarations.find? name with
  | none => rfl
  | some inForce =>
    simp only [Option.map_some, Prototype.signature]
    split
    · rfl
    · rfl

/-- Closing a frame leaves the bindings that were there before it was opened. -/
theorem within_of_ok {work : WalkM Unit} {frame inner : Frame Nat} {found after : Findings}
    (held : work (found.walk (scope.push frame)) = (.ok (), after.walk (scope.push inner))) :
    Walk.within frame work (found.walk scope) = (.ok (), after.walk scope) := by
  show ((work (found.walk (scope.push frame))).1,
    HasScope.setScope (HasScope.scope (work (found.walk (scope.push frame))).2).pop
      (work (found.walk (scope.push frame))).2) = _
  rw [held]
  rfl

theorem ends_within {work : WalkM Unit} {frame : Frame Nat} {found : Findings}
    {expected : Except Diagnostic Findings}
    (inner : Ends (work (found.walk (scope.push frame))) (scope.push frame) expected) :
    Ends (Walk.within frame work (found.walk scope)) scope expected := by
  cases expected with
  | error diagnostic => exact inner
  | ok after => exact within_of_ok inner

/-- A part of a walk inside the frame of local variables ends as the environments say if it does
so wherever the variables are bound. -/
theorem ends_within_opened {work : WalkM Unit} {next : Unit → WalkM Unit} {found : Findings}
    {expected : Except Diagnostic (Environment × Findings)}
    {rest : Environment × Findings → Except Diagnostic Findings}
    (opened : Opens (work (found.walk (scope.push .empty))) scope expected)
    (inside : ∀ frame inner found, Agrees (scope.push frame) inner →
      Ends (next () (found.walk (scope.push frame))) (scope.push frame) (rest (inner, found))) :
    Ends (Walk.within .empty (work >>= next) (found.walk scope)) scope (expected >>= rest) := by
  cases expected with
  | error diagnostic => exact Walk.run_bind_of_error opened
  | ok answer =>
    obtain ⟨inner, after⟩ := answer
    obtain ⟨frame, agrees, held⟩ := opened
    have ended := inside frame inner after agrees
    show Ends _ scope (rest (inner, after))
    cases wanted : rest (inner, after) with
    | error diagnostic =>
      rw [wanted] at ended
      show ((work >>= next) (found.walk (scope.push .empty))).1 = _
      rw [Walk.run_bind_of_ok held]
      exact ended
    | ok final =>
      rw [wanted] at ended
      exact within_of_ok ((Walk.run_bind_of_ok held).trans ended)

end

section

variable {declarations : Declarations} {position : Position}

mutual

/-- The walk over an expression keeps to the environment. The cases are those of the walk; the
bindings of the constructs around an expression are known through the environment only. -/
theorem ends_expression {scope : Scope Nat} {environment : Environment}
    (agrees : Agrees scope environment) (found : Findings) (expr : Expr) :
    Ends (Walk.expression declarations position expr (found.walk scope)) scope
      (expression declarations position environment found expr) := by
  match expr with
  | .number _ =>
    rw [Walk.expression, expression]
    rfl
  | .var name =>
    rw [Walk.expression, expression]
    exact ends_refer agrees name .read found
  | .assign target value =>
    rw [Walk.expression, expression]
    refine ends_bind (ends_expression agrees found value) fun found => ?_
    exact ends_refer agrees target .write found
  | .binary op left right =>
    rw [Walk.expression, expression]
    refine ends_bind (ends_expression agrees found left) fun found => ?_
    refine ends_bind (ends_expression agrees found right) fun found => ?_
    by_cases builtin : op ∈ builtinOperators
    · rw [if_neg (not_not_intro builtin), if_pos builtin]
      rfl
    · rw [if_pos builtin, if_neg builtin]
      exact ends_call _ 2 found
  | .unary op operand =>
    rw [Walk.expression, expression]
    refine ends_bind (ends_expression agrees found operand) fun found => ?_
    exact ends_call _ 1 found
  | .call callee arguments =>
    rw [Walk.expression, expression]
    refine ends_bind (ends_expressions agrees found arguments) fun found => ?_
    exact ends_call callee _ found
  | .conditional condition whenTrue whenFalse =>
    rw [Walk.expression, expression]
    refine ends_bind (ends_expression agrees found condition) fun found => ?_
    refine ends_bind (ends_expressions agrees found whenTrue) fun found => ?_
    exact ends_expressions agrees found whenFalse
  | .loop counter first last step body =>
    rw [Walk.expression, expression]
    refine ends_bind (ends_expression agrees found first) fun found => ?_
    -- The slot of the counter is there before the frame that binds it is opened.
    show Ends (Walk.within (Table.empty.insert counter found.next) _
      ((found.allocate counter .loopVariable).walk scope)) _ _
    have inside := agrees.push_empty.declare counter found.next
    refine ends_within ?_
    refine ends_bind (ends_expression inside _ last) fun found => ?_
    refine ends_bind (ends_optional inside found step) fun found => ?_
    exact ends_expressions inside found body
  | .locals bound body =>
    rw [Walk.expression, expression]
    refine ends_within_opened (opens_bindings agrees.push_empty found bound) ?_
    exact fun frame inner found agrees => ends_expression agrees found body

theorem ends_expressions {scope : Scope Nat} {environment : Environment}
    (agrees : Agrees scope environment) (found : Findings) (exprs : List Expr) :
    Ends (Walk.expressions declarations position exprs (found.walk scope)) scope
      (expressions declarations position environment found exprs) := by
  match exprs with
  | [] =>
    rw [Walk.expressions, expressions]
    rfl
  | expr :: rest =>
    rw [Walk.expressions, expressions]
    refine ends_bind (ends_expression agrees found expr) fun found => ?_
    exact ends_expressions agrees found rest

theorem ends_optional {scope : Scope Nat} {environment : Environment}
    (agrees : Agrees scope environment) (found : Findings) (given : Option Expr) :
    Ends (Walk.optional declarations position given (found.walk scope)) scope
      (optional declarations position environment found given) := by
  match given with
  | none =>
    rw [Walk.optional, optional]
    rfl
  | some expr =>
    rw [Walk.optional, optional]
    exact ends_expression agrees found expr

theorem opens_bindings {outer : Scope Nat} {frame : Frame Nat} {environment : Environment}
    (agrees : Agrees (outer.push frame) environment) (found : Findings)
    (bound : List (String × Option Expr)) :
    Opens (Walk.bindings declarations position bound (found.walk (outer.push frame))) outer
      (bindings declarations position environment found bound) := by
  match bound with
  | [] =>
    rw [Walk.bindings, bindings]
    exact ⟨frame, agrees, rfl⟩
  | (name, initial) :: rest =>
    rw [Walk.bindings, bindings]
    have first := ends_optional agrees found initial
    cases held : optional declarations position environment found initial with
    | error diagnostic =>
      rw [held] at first
      exact Walk.run_bind_of_error first
    | ok after =>
      rw [held] at first
      rw [Walk.run_bind_of_ok first]
      exact opens_bindings (agrees.declare name after.next) (after.allocate name .localVariable) rest

end

end

/-! ## Functions -/

/-- A parameter after others hides those of its name. -/
theorem Environment.ofParameters_concat (before : List String) (last : String) :
    Environment.ofParameters (before ++ [last]) =
      (Environment.ofParameters before).bind last before.length := by
  funext name
  have earlier : ∀ slot ∈ (List.range before.length).reverse,
      decide ((before ++ [last])[slot]? = some name) = decide (before[slot]? = some name) := by
    intro slot member
    have inside : slot < before.length := List.mem_range.mp (List.mem_reverse.mp member)
    rw [List.getElem?_append_left inside]
  unfold ofParameters bind
  rw [List.length_append, List.length_singleton, List.range_succ, List.reverse_append,
    List.reverse_singleton, List.singleton_append, Function.update_apply]
  by_cases same : name = last
  · rw [if_pos same, List.find?_cons_of_pos (by simp [same])]
  · rw [if_neg same, List.find?_cons_of_neg (by simp [Ne.symm same]), List.find?_congr earlier]

/-- The frame of the parameters gives names the meanings that their environment gives them. -/
theorem find?_parameterFrame (params : List String) (name : String) :
    (Walk.parameterFrame params).find? name = Environment.ofParameters params name := by
  induction params using List.reverseRecOn with
  | nil => rfl
  | append_singleton before last ih =>
    have entered : Walk.parameterFrame (before ++ [last]) =
        (Walk.parameterFrame before).insert last before.length := by
      simp [Walk.parameterFrame, Table.ofList, List.zipIdx_append]
    rw [entered, Table.find?_insert, ih, Environment.ofParameters_concat, Environment.bind,
      Function.update_apply]

theorem ends_function (declarations : Declarations) (function : Function) :
    Ends (Walk.function declarations function) .empty (body declarations function) := by
  have agrees : Agrees (Scope.empty.push (Walk.parameterFrame function.prototype.params))
      (.ofParameters function.prototype.params) := by
    intro name
    rw [Scope.find?_push, find?_parameterFrame]
    exact Option.or_none
  exact ends_within (ends_expressions agrees (.ofParameters function.prototype.params) function.body)

end Lexical

/-- A function that has no body yet is resolved to what the environments say, with a body from then
on if it has a name; otherwise it is refused with the diagnostic that the environments give, and
nothing changes. -/
theorem Resolver.function_eq_lexical (resolver : Resolver) (declarations : Declarations)
    (function : Function) (fresh : resolver.hasBody function.prototype.name = false) :
    resolver.function function declarations =
      match Lexical.function declarations function with
      | .ok resolved => (.ok (.function resolved),
          if function.isAnonymous then resolver
          else ⟨function.prototype.name :: resolver.defined⟩)
      | .error diagnostic => (.error diagnostic, resolver) := by
  have ended := Lexical.ends_function declarations function
  unfold Resolver.function Lexical.function
  simp only [fresh, Bool.false_eq_true, if_false]
  cases wanted : Lexical.body declarations function with
  | ok found =>
    rw [wanted] at ended
    rw [show Walk.function declarations function = (.ok (), found.walk .empty) from ended]
    rfl
  | error diagnostic =>
    rw [wanted] at ended
    have failed : (Walk.function declarations function).1 = .error diagnostic := ended
    split
    · next found walk held =>
      rw [held] at failed
      obtain rfl := Except.error.inj failed
      rfl
    · next held =>
      rw [held] at failed
      cases failed

/-- The body of `f` below hides the later of two parameters by a local variable, whose initial value
sees the parameter, and that one by the counter of a loop, whose first value sees the local variable;
after them the parameter is meant again. -/
theorem Resolver.function_eq_lexical_shadowing :
    Resolver.hasBody {} "f" = false ∧
    Resolver.function {}
      ⟨⟨"f", ["x", "x"], .function, none, .start⟩,
        [.locals [("x", some (.var "x")), ("y", none)]
          (.loop "x" (.var "x") (.var "y") none [.assign "x" (.call "f" [.var "x", .var "y"])]),
        .var "x"]⟩
      (.ofList [("f", ⟨"f", ["x", "x"], .function, none, .start⟩)]) =
      (.ok (.function ⟨"f",
        #[⟨"x", .parameter⟩, ⟨"x", .parameter⟩, ⟨"x", .localVariable⟩, ⟨"y", .localVariable⟩,
          ⟨"x", .loopVariable⟩],
        #[⟨"x", 1, .read⟩, ⟨"x", 2, .read⟩, ⟨"y", 3, .read⟩, ⟨"x", 4, .read⟩, ⟨"y", 3, .read⟩,
          ⟨"x", 4, .write⟩, ⟨"x", 1, .read⟩],
        #[⟨"f", 2⟩]⟩), ⟨["f"]⟩) := by
  refine ⟨rfl, ?_⟩
  rw [Resolver.function_eq_lexical {} _ _ rfl]
  rfl

end Kaleido
