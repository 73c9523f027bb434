import Kaleido.Proofs.LexicalScoping

/-!
# Free names

Whether a body can be resolved, and to what, can be seen from the syntax: from the names that it
uses and does not bind itself, and from the places where it binds a name, uses a variable or calls a
function. Main statement: a function that has no body yet is accepted exactly if the free names of
its body are among its parameters and its calls are as declared. Then there is one slot for each
parameter and binding, one reference for each use, which means a slot of its name, and one signature
for each call.
-/
namespace Kaleido

/-! ## Free names and mentions -/

/-- What is mentioned at one place of an expression. -/
inductive Mention where
  /-- A variable that is introduced. -/
  | binding (slot : Slot)
  /-- A variable that is used. -/
  | use (name : String) (access : Access)
  /-- A function that is called, with the number of arguments that it is given. -/
  | call (wanted : Signature)
deriving Repr, DecidableEq

namespace Mention

/-- The variable that is introduced, if one is. -/
@[simp] def slot? : Mention → Option Slot
  | .binding slot => some slot
  | .use .. | .call _ => none

/-- The use of a variable, if it is one. -/
@[simp] def use? : Mention → Option (String × Access)
  | .use name access => some (name, access)
  | .binding _ | .call _ => none

/-- The function that is called, if one is. -/
@[simp] def call? : Mention → Option Signature
  | .call wanted => some wanted
  | .binding _ | .use .. => none

end Mention

namespace Expr

mutual

/-- The names that an expression uses where it does not bind them. The counter of a loop is bound in
all of the loop but the first value, a local variable in the initial values after its own and in the
body. -/
def free : Expr → List String
  | .number _ => []
  | .var name => [name]
  | .assign target value => value.free ++ [target]
  | .binary _ left right => left.free ++ right.free
  | .unary _ operand => operand.free
  | .call _ arguments => freeAll arguments
  | .conditional condition whenTrue whenFalse =>
    condition.free ++ (freeAll whenTrue ++ freeAll whenFalse)
  | .loop counter first last step body =>
    first.free ++ (last.free ++ (freeOptional step ++ freeAll body)).filter (· ≠ counter)
  | .locals bindings body => freeLocals body.free bindings

/-- The free names of expressions one after the other. -/
def freeAll : List Expr → List String
  | [] => []
  | expr :: rest => expr.free ++ freeAll rest

/-- The free names of an expression if there is one. -/
def freeOptional : Option Expr → List String
  | none => []
  | some expr => expr.free

/-- The free names of local variables around a body with certain free names. -/
def freeLocals (inside : List String) : List (String × Option Expr) → List String
  | [] => inside
  | (name, initial) :: rest =>
    freeOptional initial ++ (freeLocals inside rest).filter (· ≠ name)

end

mutual

/-- The places of an expression where a variable is introduced or used or a function called, in the
order of evaluation. An operator is a call, unless the language has it without a declaration. -/
def mentions : Expr → List Mention
  | .number _ => []
  | .var name => [.use name .read]
  | .assign target value => value.mentions ++ [.use target .write]
  | .binary op left right =>
    left.mentions ++ (right.mentions ++
      if op ∈ builtinOperators then [] else [.call ⟨Role.binary.functionName op, 2⟩])
  | .unary op operand => operand.mentions ++ [.call ⟨Role.unary.functionName op, 1⟩]
  | .call callee arguments => mentionsAll arguments ++ [.call ⟨callee, arguments.length⟩]
  | .conditional condition whenTrue whenFalse =>
    condition.mentions ++ (mentionsAll whenTrue ++ mentionsAll whenFalse)
  | .loop counter first last step body =>
    first.mentions ++ .binding ⟨counter, .loopVariable⟩ ::
      (last.mentions ++ (mentionsOptional step ++ mentionsAll body))
  | .locals bindings body => mentionsLocals body.mentions bindings

/-- The mentions in expressions one after the other. -/
def mentionsAll : List Expr → List Mention
  | [] => []
  | expr :: rest => expr.mentions ++ mentionsAll rest

/-- The mentions in an expression if there is one. -/
def mentionsOptional : Option Expr → List Mention
  | none => []
  | some expr => expr.mentions

/-- The mentions in local variables, and after them those in their body. -/
def mentionsLocals (inside : List Mention) : List (String × Option Expr) → List Mention
  | [] => inside
  | (name, initial) :: rest =>
    mentionsOptional initial ++ .binding ⟨name, .localVariable⟩ :: mentionsLocals inside rest

end

end Expr

/-- That a function is declared with the arity that a call wants. -/
def Declarations.Provides (declarations : Declarations) (wanted : Signature) : Prop :=
  ∃ inForce, declarations.find? wanted.name = some inForce ∧ inForce.arity = wanted.arity

instance (declarations : Declarations) (wanted : Signature) :
    Decidable (declarations.Provides wanted) :=
  decidable_of_iff ((declarations.find? wanted.name).any (·.arity = wanted.arity)) <| by
    simp [Declarations.Provides, Option.any_eq_true]

namespace Lexical

/-! ## Parts of a body -/

/-- That the free names of a part of a body are bound around it, and its calls as declared. -/
structure Resolvable (declarations : Declarations) (environment : Environment)
    (free : List String) (mentions : List Mention) : Prop where
  bound : ∀ name ∈ free, (environment name).isSome
  declared : ∀ wanted ∈ mentions.filterMap Mention.call?, declarations.Provides wanted

/-- That a slot has a name. -/
def Findings.Holds (found : Findings) (name : String) (slot : Nat) : Prop :=
  ∃ origin, found.slots[slot]? = some ⟨name, origin⟩

/-- That every reference means a slot of its own name. -/
def Findings.Sound (found : Findings) : Prop :=
  ∀ reference ∈ found.references, found.Holds reference.name reference.slot

/-- That every name means a slot of that name. -/
def Environment.Fits (environment : Environment) (found : Findings) : Prop :=
  ∀ name slot, environment name = some slot → found.Holds name slot

/-- That findings come from earlier ones by adding what is mentioned. -/
structure Adds (declarations : Declarations) (mentions : List Mention) (before after : Findings) :
    Prop where
  slots : after.slots.toList = before.slots.toList ++ mentions.filterMap Mention.slot?
  references : after.references.toList.map (fun reference => (reference.name, reference.access)) =
    before.references.toList.map (fun reference => (reference.name, reference.access)) ++
      mentions.filterMap Mention.use?
  calls : after.calls.toList.map some = before.calls.toList.map some ++
    (mentions.filterMap Mention.call?).map fun wanted => declarations.signature? wanted.name

/-- That the answer for a part of a body is as its free names and mentions say. -/
def Accords (declarations : Declarations) (environment : Environment) (free : List String)
    (mentions : List Mention) (before : Findings) : Except Diagnostic Findings → Prop
  | .ok after => Resolvable declarations environment free mentions ∧
    Adds declarations mentions before after ∧
    (environment.Fits before → before.Sound → after.Sound)
  | .error _ => ¬ Resolvable declarations environment free mentions

section

variable {declarations : Declarations} {environment : Environment} {position : Position}
  {free later : List String} {mentions others : List Mention} {before middle after : Findings}

theorem resolvable_append :
    Resolvable declarations environment (free ++ later) (mentions ++ others) ↔
      Resolvable declarations environment free mentions ∧
        Resolvable declarations environment later others := by
  constructor
  · rintro ⟨bound, declared⟩
    rw [List.filterMap_append] at declared
    rw [List.forall_mem_append] at bound declared
    exact ⟨⟨bound.1, declared.1⟩, ⟨bound.2, declared.2⟩⟩
  · rintro ⟨first, second⟩
    refine ⟨List.forall_mem_append.mpr ⟨first.bound, second.bound⟩, ?_⟩
    rw [List.filterMap_append]
    exact List.forall_mem_append.mpr ⟨first.declared, second.declared⟩

/-- Under a binding of a name, other names have to be bound outside. -/
theorem resolvable_binding (name : String) (number : Nat) (slot : Slot) :
    Resolvable declarations environment (free.filter (· ≠ name)) (.binding slot :: mentions) ↔
      Resolvable declarations (environment.bind name number) free mentions := by
  have known : ∀ other, (environment.bind name number other).isSome ↔
      other = name ∨ (environment other).isSome := by
    intro other
    rw [Environment.bind, Function.update_apply]
    split
    · next same => simp [same]
    · next differs => simp [differs]
  constructor
  · rintro ⟨bound, declared⟩
    refine ⟨fun other member => (known other).mpr ?_, declared⟩
    by_cases same : other = name
    · exact .inl same
    · exact .inr (bound other (by simp [member, same]))
  · rintro ⟨bound, declared⟩
    refine ⟨fun other member => ?_, declared⟩
    obtain ⟨inside, differs⟩ := List.mem_filter.mp member
    exact ((known other).mp (bound other inside)).resolve_left (by simpa using differs)

theorem Findings.Holds.add (adds : Adds declarations mentions before after) {name : String}
    {slot : Nat} (holds : before.Holds name slot) : after.Holds name slot := by
  obtain ⟨origin, held⟩ := holds
  refine ⟨origin, ?_⟩
  rw [← Array.getElem?_toList] at held ⊢
  have inside := (List.getElem?_eq_some_iff.mp held).1
  rw [adds.slots, List.getElem?_append_left inside, held]

theorem Adds.refl (found : Findings) : Adds declarations [] found found := by
  constructor <;> simp

theorem Adds.trans (first : Adds declarations mentions before middle)
    (second : Adds declarations others middle after) :
    Adds declarations (mentions ++ others) before after where
  slots := by rw [second.slots, first.slots, List.filterMap_append, List.append_assoc]
  references := by
    rw [second.references, first.references, List.filterMap_append, List.append_assoc]
  calls := by
    rw [second.calls, first.calls, List.filterMap_append, List.map_append, List.append_assoc]

theorem Adds.allocate (found : Findings) (name : String) (origin : Origin) :
    Adds declarations [.binding ⟨name, origin⟩] found (found.allocate name origin) := by
  constructor <;> simp [Findings.allocate]

theorem accords_pure (found : Findings) : Accords declarations environment [] [] found (.ok found) :=
  ⟨⟨by simp, by simp⟩, .refl found, fun _ sound => sound⟩

/-- Two parts one after the other have the free names and mentions of both. -/
theorem accords_bind {answer : Except Diagnostic Findings}
    {rest : Findings → Except Diagnostic Findings}
    (first : Accords declarations environment free mentions before answer)
    (second : ∀ middle, Accords declarations environment later others middle (rest middle)) :
    Accords declarations environment (free ++ later) (mentions ++ others) before
      (answer >>= rest) := by
  cases answer with
  | error diagnostic => exact fun whole => first (resolvable_append.mp whole).1
  | ok middle =>
    obtain ⟨resolvable, adds, sound⟩ := first
    have next := second middle
    show Accords _ _ _ _ _ (rest middle)
    cases held : rest middle with
    | error diagnostic =>
      rw [held] at next
      exact fun whole => next (resolvable_append.mp whole).2
    | ok after =>
      rw [held] at next
      obtain ⟨resolvableNext, addsNext, soundNext⟩ := next
      refine ⟨resolvable_append.mpr ⟨resolvable, resolvableNext⟩, adds.trans addsNext, ?_⟩
      intro fits soundBefore
      -- Slots are only added, so what the names mean is still there for the second part.
      have fitsNext : environment.Fits middle := fun name slot meant => (fits name slot meant).add adds
      exact soundNext fitsNext (sound fits soundBefore)

/-- What is under a binding has that mention before its own, and its name is not free outside. -/
theorem accords_binding {name : String} {origin : Origin} {answer : Except Diagnostic Findings}
    (inner : Accords declarations (environment.bind name before.next) free mentions
      (before.allocate name origin) answer) :
    Accords declarations environment (free.filter (· ≠ name))
      (.binding ⟨name, origin⟩ :: mentions) before answer := by
  cases answer with
  | error diagnostic => exact fun outer => inner ((resolvable_binding ..).mp outer)
  | ok after =>
    obtain ⟨resolvable, adds, sound⟩ := inner
    have allocates : Adds declarations [.binding ⟨name, origin⟩] before _ :=
      .allocate before name origin
    refine ⟨(resolvable_binding ..).mpr resolvable, allocates.trans adds, ?_⟩
    intro fits soundBefore
    refine sound (fun other slot meant => ?_) fun reference member => ?_
    · rw [Environment.bind, Function.update_apply] at meant
      split at meant
      · next same =>
        cases meant
        exact ⟨origin, by simp [Findings.allocate, Findings.next, same]⟩
      · exact (fits other slot meant).add allocates
    · exact (soundBefore reference member).add allocates

theorem accords_refer (name : String) (access : Access) (found : Findings) :
    Accords declarations environment [name] [.use name access] found
      (refer position name access environment found) := by
  unfold refer
  cases meant : environment name with
  | none =>
    intro resolvable
    have known := resolvable.bound name (by simp)
    simp [meant] at known
  | some slot =>
    refine ⟨⟨by simp [meant], by simp⟩, ?_, ?_⟩
    · constructor <;> simp
    · intro fits sound reference member
      rcases Array.mem_push.mp member with earlier | rfl
      · exact sound reference earlier
      · exact fits name slot meant

theorem accords_call (name : String) (received : Nat) (found : Findings) :
    Accords declarations environment [] [.call ⟨name, received⟩] found
      (call declarations position name received found) := by
  unfold call
  cases held : declarations.find? name with
  | none =>
    intro resolvable
    obtain ⟨inForce, provided, -⟩ := resolvable.declared ⟨name, received⟩ (by simp)
    cases held.symm.trans provided
  | some inForce =>
    simp only
    split
    · next agrees =>
      refine ⟨⟨by simp, ?_⟩, ?_, fun _ sound => sound⟩
      · intro wanted member
        obtain rfl : wanted = ⟨name, received⟩ := by simpa using member
        exact ⟨inForce, held, agrees⟩
      · constructor <;> simp [Declarations.signature?, held]
    · next differs =>
      intro resolvable
      obtain ⟨other, provided, agrees⟩ := resolvable.declared ⟨name, received⟩ (by simp)
      cases held.symm.trans provided
      exact differs agrees

end

section

variable {declarations : Declarations} {position : Position}

mutual

/-- An expression is resolved as its free names and mentions say, whatever the environment and what
was found before it. -/
theorem accords_expression (environment : Environment) (found : Findings) (expr : Expr) :
    Accords declarations environment expr.free expr.mentions found
      (expression declarations position environment found expr) := by
  match expr with
  | .number _ =>
    rw [expression, Expr.free, Expr.mentions]
    exact accords_pure found
  | .var name =>
    rw [expression, Expr.free, Expr.mentions]
    exact accords_refer name .read found
  | .assign target value =>
    rw [expression, Expr.free, Expr.mentions]
    refine accords_bind (accords_expression environment found value) fun found => ?_
    exact accords_refer target .write found
  | .binary op left right =>
    -- A call has no free names of its own.
    rw [expression, Expr.free, Expr.mentions, ← right.free.append_nil]
    refine accords_bind (accords_expression environment found left) fun found => ?_
    refine accords_bind (accords_expression environment found right) fun found => ?_
    split
    · exact accords_pure found
    · exact accords_call _ 2 found
  | .unary op operand =>
    rw [expression, Expr.free, Expr.mentions, ← operand.free.append_nil]
    refine accords_bind (accords_expression environment found operand) fun found => ?_
    exact accords_call _ 1 found
  | .call callee arguments =>
    rw [expression, Expr.free, Expr.mentions, ← (Expr.freeAll arguments).append_nil]
    refine accords_bind (accords_expressions environment found arguments) fun found => ?_
    exact accords_call callee _ found
  | .conditional condition whenTrue whenFalse =>
    rw [expression, Expr.free, Expr.mentions]
    refine accords_bind (accords_expression environment found condition) fun found => ?_
    refine accords_bind (accords_expressions environment found whenTrue) fun found => ?_
    exact accords_expressions environment found whenFalse
  | .loop counter first last step body =>
    rw [expression, Expr.free, Expr.mentions]
    refine accords_bind (accords_expression environment found first) fun found => ?_
    -- The first value is outside of the binding, all that follows is inside.
    refine accords_binding ?_
    refine accords_bind (accords_expression _ _ last) fun found => ?_
    refine accords_bind (accords_optional _ found step) fun found => ?_
    exact accords_expressions _ found body
  | .locals bound body =>
    rw [expression, Expr.free, Expr.mentions]
    refine accords_bindings environment found bound fun inner found => ?_
    exact accords_expression inner found body

theorem accords_expressions (environment : Environment) (found : Findings) (exprs : List Expr) :
    Accords declarations environment (Expr.freeAll exprs) (Expr.mentionsAll exprs) found
      (expressions declarations position environment found exprs) := by
  match exprs with
  | [] =>
    rw [expressions, Expr.freeAll, Expr.mentionsAll]
    exact accords_pure found
  | expr :: rest =>
    rw [expressions, Expr.freeAll, Expr.mentionsAll]
    refine accords_bind (accords_expression environment found expr) fun found => ?_
    exact accords_expressions environment found rest

theorem accords_optional (environment : Environment) (found : Findings) (given : Option Expr) :
    Accords declarations environment (Expr.freeOptional given) (Expr.mentionsOptional given) found
      (optional declarations position environment found given) := by
  match given with
  | none =>
    rw [optional, Expr.freeOptional, Expr.mentionsOptional]
    exact accords_pure found
  | some expr =>
    rw [optional, Expr.freeOptional, Expr.mentionsOptional]
    exact accords_expression environment found expr

/-- Local variables are resolved as they and what stands inside them say, if the inside is so in every
environment: which one it meets depends on the slots of the variables. -/
theorem accords_bindings (environment : Environment) (found : Findings)
    (bound : List (String × Option Expr)) {free : List String} {mentions : List Mention}
    {rest : Environment × Findings → Except Diagnostic Findings}
    (inside : ∀ inner found, Accords declarations inner free mentions found (rest (inner, found))) :
    Accords declarations environment (Expr.freeLocals free bound) (Expr.mentionsLocals mentions bound)
      found (bindings declarations position environment found bound >>= rest) := by
  match bound with
  | [] =>
    rw [bindings, Expr.freeLocals, Expr.mentionsLocals]
    exact inside environment found
  | (name, initial) :: more =>
    rw [bindings, Expr.freeLocals, Expr.mentionsLocals, bind_assoc]
    refine accords_bind (accords_optional environment found initial) fun found => ?_
    exact accords_binding (accords_bindings _ _ more inside)

end

end

/-! ## Functions -/

theorem Environment.ofParameters_eq_some {params : List String} {name : String} {slot : Nat}
    (meant : Environment.ofParameters params name = some slot) : params[slot]? = some name := by
  simpa using List.find?_some meant

/-- The names that parameters bind are those of the parameters. -/
theorem Environment.isSome_ofParameters (params : List String) (name : String) :
    (Environment.ofParameters params name).isSome ↔ name ∈ params := by
  constructor
  · intro known
    obtain ⟨slot, meant⟩ := Option.isSome_iff_exists.mp known
    exact List.mem_of_getElem? (ofParameters_eq_some meant)
  · intro member
    obtain ⟨slot, inside, same⟩ := List.mem_iff_getElem.mp member
    exact List.find?_isSome.mpr ⟨slot, by simpa using inside, by simp [inside, same]⟩

theorem fits_ofParameters (params : List String) :
    (Environment.ofParameters params).Fits (.ofParameters params) := by
  intro name slot meant
  exact ⟨.parameter, by simp [Findings.ofParameters, Environment.ofParameters_eq_some meant]⟩

theorem sound_ofParameters (params : List String) : (Findings.ofParameters params).Sound := by
  simp [Findings.Sound, Findings.ofParameters]

/-- Around a body there are the parameters only. -/
theorem resolvable_body_iff {declarations : Declarations} {params free : List String}
    {mentions : List Mention} :
    Resolvable declarations (.ofParameters params) free mentions ↔
      (∀ name ∈ free, name ∈ params) ∧
        ∀ wanted ∈ mentions.filterMap Mention.call?, declarations.Provides wanted := by
  constructor
  · intro resolvable
    refine ⟨fun name member => ?_, resolvable.declared⟩
    exact (Environment.isSome_ofParameters params name).mp (resolvable.bound name member)
  · rintro ⟨parameters, declared⟩
    refine ⟨fun name member => ?_, declared⟩
    exact (Environment.isSome_ofParameters params name).mpr (parameters name member)

theorem accords_body (declarations : Declarations) (function : Function) :
    Accords declarations (.ofParameters function.prototype.params) (Expr.freeAll function.body)
      (Expr.mentionsAll function.body) (.ofParameters function.prototype.params)
      (body declarations function) :=
  accords_expressions _ _ function.body

end Lexical

/-- A function that has no body yet is resolved if its body is, and to what was found there. -/
theorem Resolver.function_eq_ok_iff {resolver : Resolver} {declarations : Declarations}
    {function : Function} (fresh : resolver.hasBody function.prototype.name = false)
    (handle : Handle) :
    (resolver.function function declarations).1 = .ok handle ↔
      ∃ found, Lexical.body declarations function = .ok found ∧ handle =
        .function ⟨function.prototype.name, found.slots, found.references, found.calls⟩ := by
  have ended := Lexical.ends_function declarations function
  unfold Resolver.function
  simp only [fresh, Bool.false_eq_true, if_false]
  cases held : Lexical.body declarations function with
  | error diagnostic =>
    rw [held] at ended
    rcases walked : Walk.function declarations function with ⟨found | _, walk⟩
    · simp
    · rw [walked] at ended
      cases ended
  | ok found =>
    rw [held] at ended
    rw [show Walk.function declarations function = (.ok (), found.walk .empty) from ended]
    simp [Lexical.Findings.walk, eq_comm]

/-- A function that has no body yet is accepted exactly if the free names of its body are parameters
and every call in it is declared with as many parameters as it has arguments. Then the slots are the
parameters and after them what the body binds, there is a reference for every use and a signature, as
declared, for every call, and each reference means a slot of its name. -/
theorem Resolver.accepts_closed_bodies (resolver : Resolver) (declarations : Declarations)
    (function : Function) (fresh : resolver.hasBody function.prototype.name = false) :
    ((∃ handle, (resolver.function function declarations).1 = .ok handle) ↔
      (∀ name ∈ Expr.freeAll function.body, name ∈ function.prototype.params) ∧
      ∀ wanted ∈ (Expr.mentionsAll function.body).filterMap Mention.call?,
        declarations.Provides wanted) ∧
    ∀ handle, (resolver.function function declarations).1 = .ok handle →
      ∃ resolved, handle = .function resolved ∧ resolved.name = function.prototype.name ∧
        resolved.slots.toList = function.prototype.params.map (⟨·, .parameter⟩) ++
          (Expr.mentionsAll function.body).filterMap Mention.slot? ∧
        resolved.references.toList.map (fun reference => (reference.name, reference.access)) =
          (Expr.mentionsAll function.body).filterMap Mention.use? ∧
        resolved.calls.toList.map some =
          ((Expr.mentionsAll function.body).filterMap Mention.call?).map
            (fun wanted => declarations.signature? wanted.name) ∧
        ∀ index reference, resolved.references[index]? = some reference →
          ∃ slot, resolved.referent? index = some slot ∧ slot.name = reference.name := by
  have accords := Lexical.accords_body declarations function
  simp only [function_eq_ok_iff fresh]
  rw [← Lexical.resolvable_body_iff]
  constructor
  · cases held : Lexical.body declarations function with
    | error diagnostic =>
      rw [held] at accords
      exact ⟨by simp, fun resolvable => absurd resolvable accords⟩
    | ok found =>
      rw [held] at accords
      exact ⟨fun _ => accords.1, fun _ => ⟨_, found, rfl, rfl⟩⟩
  · rintro handle ⟨found, held, rfl⟩
    rw [held] at accords
    obtain ⟨-, adds, sound⟩ := accords
    refine ⟨_, rfl, rfl, ?_, ?_, ?_, ?_⟩
    · simpa [Lexical.Findings.ofParameters] using adds.slots
    · simpa [Lexical.Findings.ofParameters] using adds.references
    · simpa [Lexical.Findings.ofParameters] using adds.calls
    · intro index reference listed
      have means := sound (Lexical.fits_ofParameters _) (Lexical.sound_ofParameters _)
      obtain ⟨origin, slot⟩ := means reference (Array.mem_of_getElem? listed)
      exact ⟨⟨reference.name, origin⟩, by simp [ResolvedFunction.referent?, listed, slot], rfl⟩

/-- A local variable can have the name of a parameter and another one of that variable, and their
initial values see what they hide; the first value of a loop does not see the counter. -/
theorem Resolver.accepts_closed_bodies_shadowing :
    Resolver.hasBody {} "f" = false ∧
    (∃ handle, (Resolver.function {}
      ⟨⟨"f", ["x"], .function, none, .start⟩,
        [.locals [("x", some (.var "x")), ("x", some (.unary '!' (.var "x")))]
          (.loop "i" (.var "x") (.binary '<' (.var "i") (.var "x")) none
            [.assign "x" (.call "f" [.var "i"])])]⟩
      (.ofList [("f", ⟨"f", ["x"], .function, none, .start⟩),
        ("unary!", ⟨"unary!", ["v"], .unary, none, .start⟩)])).1 = .ok handle) ∧
    ¬ ∃ handle, (Resolver.function {}
      ⟨⟨"f", ["x"], .function, none, .start⟩, [.loop "i" (.var "i") (.var "x") none [.var "i"]]⟩
      .empty).1 = .ok handle := by
  refine ⟨rfl, ?_, ?_⟩
  · rw [(accepts_closed_bodies {} _ _ rfl).1]
    decide
  · rw [(accepts_closed_bodies {} _ _ rfl).1]
    decide

end Kaleido
