import Kaleido.Proofs.FreeNames

/-!
# What an expression leaves behind

The frames that an expression opens are closed where it ends, and what was found before it is never
touched. Main statement: the walk over an expression, whether it ends with an error or not, leaves the
bindings as they were and adds to the findings; and from two walks with equally many slots, in which
the free names of the expression mean the same, it adds the same findings and has the same result.
-/
namespace Kaleido

open Lexical (Findings)

/-- Findings, and others after them. -/
def Lexical.Findings.append (first second : Findings) : Findings :=
  ⟨first.slots ++ second.slots, first.references ++ second.references, first.calls ++ second.calls⟩

namespace Walk

/-! ## Findings that are added -/

/-- The walk with findings added to its own. -/
def adding (walk : Walk) (added : Findings) : Walk :=
  { walk with
    slots := walk.slots ++ added.slots
    references := walk.references ++ added.references
    calls := walk.calls ++ added.calls }

/-- The walk after its innermost frame is closed. -/
def closed (walk : Walk) : Walk := { walk with scope := walk.scope.pop }

/-- The walk after a name is bound to a slot of its own. -/
def introducing (walk : Walk) (name : String) (origin : Origin) : Walk :=
  { walk with
    scope := walk.scope.declare name walk.slots.size
    slots := walk.slots.push ⟨name, origin⟩ }

@[simp] theorem adding_empty (walk : Walk) : walk.adding {} = walk := by
  simp [adding]

theorem adding_append (walk : Walk) (first second : Findings) :
    walk.adding (first.append second) = (walk.adding first).adding second := by
  simp [adding, Findings.append, Array.append_assoc]

/-- Outside of the innermost frame, introducing a name adds its slot and does nothing else. -/
theorem closed_introducing (walk : Walk) (name : String) (origin : Origin) (added : Findings) :
    ((walk.introducing name origin).adding added).closed =
      (walk.adding (Findings.append { slots := #[⟨name, origin⟩] } added)).closed := by
  simp [introducing, adding, closed, Findings.append, Scope.pop_declare]

/-- That a walk has the bindings of an earlier one, and what was found before it in its place. -/
structure Continues (after before : Walk) : Prop where
  scope : after.scope = before.scope
  slots : before.slots.toList <+: after.slots.toList
  references : before.references.toList <+: after.references.toList
  calls : before.calls.toList <+: after.calls.toList

theorem continues_adding (walk : Walk) (added : Findings) : (walk.adding added).Continues walk := by
  constructor <;> simp [adding]

/-- That two walks have equally many slots and give certain names the same meanings. -/
structure Alike (names : List String) (walk other : Walk) : Prop where
  meanings : ∀ name ∈ names, walk.scope.find? name = other.scope.find? name
  slots : walk.slots.size = other.slots.size

namespace Alike

variable {walk other : Walk} {names later : List String}

theorem refl (walk : Walk) : Alike names walk walk := ⟨fun _ _ => rfl, rfl⟩

theorem left (alike : Alike (names ++ later) walk other) : Alike names walk other :=
  ⟨(List.forall_mem_append.mp alike.meanings).1, alike.slots⟩

theorem right (alike : Alike (names ++ later) walk other) : Alike later walk other :=
  ⟨(List.forall_mem_append.mp alike.meanings).2, alike.slots⟩

theorem adding (alike : Alike names walk other) (added : Findings) :
    Alike names (walk.adding added) (other.adding added) :=
  ⟨alike.meanings, by simp [Walk.adding, alike.slots]⟩

theorem opening (alike : Alike names walk other) :
    Alike names { walk with scope := walk.scope.push .empty }
      { other with scope := other.scope.push .empty } := by
  refine ⟨fun name member => ?_, alike.slots⟩
  simp only [Scope.find?_push, alike.meanings name member]

/-- The name that is introduced means the same in both walks, since they number slots alike. -/
theorem introducing {name : String} (alike : Alike (names.filter (· ≠ name)) walk other)
    (origin : Origin) :
    Alike names (walk.introducing name origin) (other.introducing name origin) := by
  refine ⟨fun used member => ?_, by simp [Walk.introducing, alike.slots]⟩
  simp only [Walk.introducing, Scope.find?_declare, alike.slots]
  split
  · rfl
  · next differs => exact alike.meanings used (by simp [member, differs])

end Alike

/-! ## Parts of a walk -/

/-- That a part of a walk depends on the meanings of certain names and on the number of slots only,
and does nothing but add findings, as far as a view of the walk after it shows. -/
def Confined (view : Walk → Walk) (names : List String) (part : WalkM Unit) : Prop :=
  ∀ walk other, Alike names walk other → ∃ result added,
    Prod.map id view (part walk) = (result, view (walk.adding added)) ∧
    Prod.map id view (part other) = (result, view (other.adding added))

section

variable {view : Walk → Walk} {names later : List String} {part rest : WalkM Unit}
  {declarations : Declarations} {position : Position}

/-- A part of which nothing is left out of view. -/
theorem Confined.run (confined : Confined id names part) {walk other : Walk}
    (alike : Alike names walk other) :
    ∃ result added, part walk = (result, walk.adding added) ∧
      part other = (result, other.adding added) :=
  confined walk other alike

theorem confined_of_run (result : Except Diagnostic Unit) (added : Findings)
    (run : ∀ walk, part walk = (result, walk.adding added)) : Confined id [] part :=
  fun walk other _ => ⟨result, added, run walk, run other⟩

/-- A part that finds nothing, and asks for nothing. -/
theorem confined_of_unchanged {result : Except Diagnostic Unit}
    (run : ∀ walk, part walk = (result, walk)) : Confined id [] part :=
  confined_of_run result {} fun walk => by rw [run, adding_empty]

theorem confined_pure : Confined id [] (pure ()) := confined_of_unchanged fun _ => rfl

/-- An error of the first part ends both walks at once; else the second part starts from walks that
are alike again. -/
theorem confined_bind (first : Confined id names part) (second : Confined view later rest) :
    Confined view (names ++ later) (part >>= fun _ => rest) := by
  intro walk other alike
  obtain ⟨result, added, ran, ranOther⟩ := first.run alike.left
  cases result with
  | error diagnostic =>
    refine ⟨.error diagnostic, added, ?_, ?_⟩
    · simp only [bind, ran, Prod.map_apply, id_eq]
    · simp only [bind, ranOther, Prod.map_apply, id_eq]
  | ok _ =>
    rw [run_bind_of_ok ran, run_bind_of_ok ranOther]
    obtain ⟨result, more, later, laterOther⟩ := second _ _ (alike.right.adding added)
    refine ⟨result, added.append more, ?_, ?_⟩
    · rw [later, adding_append]
    · rw [laterOther, adding_append]

theorem confined_refer (name : String) (access : Access) :
    Confined id [name] (refer position name access) := by
  intro walk other alike
  have same := alike.meanings name (List.mem_singleton_self name)
  unfold refer
  rw [← same]
  cases walk.scope.find? name with
  | none => exact ⟨.error ⟨.variableNotDeclared name, position⟩, {}, by simp, by simp⟩
  | some slot =>
    refine ⟨.ok (), { references := #[⟨name, slot, access⟩] }, ?_, ?_⟩
    · simp [adding]
    · simp [adding]

theorem confined_call (name : String) (received : Nat) :
    Confined id [] (call declarations position name received) := by
  unfold call
  cases declarations.signature? name with
  | none => exact confined_of_unchanged fun _ => rfl
  | some signature =>
    simp only
    split
    · exact confined_of_run (.ok ()) { calls := #[signature] } fun walk => by simp [adding]
    · exact confined_of_unchanged fun _ => rfl

/-- A part that changes no bindings changes none outside of the innermost frame. -/
theorem confined_closed (inner : Confined id names part) : Confined closed names part := by
  intro walk other alike
  obtain ⟨result, added, ran, ranOther⟩ := inner.run alike
  exact ⟨result, added, congrArg (Prod.map id closed) ran, congrArg (Prod.map id closed) ranOther⟩

/-- The frame that a part was given is closed after it, and with it goes what the part has bound. -/
theorem confined_within (inner : Confined closed names part) :
    Confined id names (within .empty part) :=
  fun _ _ alike => inner _ _ alike.opening

/-- A part under a binding does not depend on what the name means outside. -/
theorem confined_introducing {name : String} {origin : Origin} (inner : Confined closed names rest) :
    Confined closed (names.filter (· ≠ name))
      (allocate name origin >>= fun slot => bindName name slot >>= fun _ => rest) := by
  intro walk other alike
  obtain ⟨result, added, ran, ranOther⟩ := inner _ _ (alike.introducing origin)
  refine ⟨result, Findings.append { slots := #[⟨name, origin⟩] } added, ?_, ?_⟩
  · rw [← closed_introducing]
    exact ran
  · rw [← closed_introducing]
    exact ranOther

/-- The slot of a counter is there before its frame is opened, but that makes no difference: the
counter is bound as a local variable is. -/
theorem allocate_within (counter : String) (origin : Origin) (work : WalkM Unit) :
    (allocate counter origin >>= fun slot => within (Table.empty.insert counter slot) work) =
      within .empty
        (allocate counter origin >>= fun slot => bindName counter slot >>= fun _ => work) :=
  rfl

end

section

variable {declarations : Declarations} {position : Position}

mutual

/-- An expression depends on its free names only. The cases are those of the walk. -/
theorem confined_expression (expr : Expr) :
    Confined id expr.free (expression declarations position expr) := by
  match expr with
  | .number _ =>
    rw [expression, Expr.free]
    exact confined_pure
  | .var name =>
    rw [expression, Expr.free]
    exact confined_refer name .read
  | .assign target value =>
    rw [expression, Expr.free]
    exact confined_bind (confined_expression value) (confined_refer target .write)
  | .binary op left right =>
    -- A call has no free names of its own.
    rw [expression, Expr.free, ← right.free.append_nil]
    refine confined_bind (confined_expression left) (confined_bind (confined_expression right) ?_)
    split
    · exact confined_call _ 2
    · exact confined_pure
  | .unary op operand =>
    rw [expression, Expr.free, ← operand.free.append_nil]
    exact confined_bind (confined_expression operand) (confined_call _ 1)
  | .call callee arguments =>
    rw [expression, Expr.free, ← (Expr.freeAll arguments).append_nil]
    exact confined_bind (confined_expressions arguments) (confined_call callee _)
  | .conditional condition whenTrue whenFalse =>
    rw [expression, Expr.free]
    refine confined_bind (confined_expression condition) ?_
    exact confined_bind (confined_expressions whenTrue) (confined_expressions whenFalse)
  | .loop counter first last step body =>
    rw [expression, Expr.free]
    refine confined_bind (confined_expression first) ?_
    rw [allocate_within]
    refine confined_within (confined_introducing (confined_closed ?_))
    refine confined_bind (confined_expression last) ?_
    exact confined_bind (confined_optional step) (confined_expressions body)
  | .locals bound body =>
    rw [expression, Expr.free]
    exact confined_within (confined_bindings bound (confined_closed (confined_expression body)))

theorem confined_expressions (exprs : List Expr) :
    Confined id (Expr.freeAll exprs) (expressions declarations position exprs) := by
  match exprs with
  | [] =>
    rw [expressions, Expr.freeAll]
    exact confined_pure
  | expr :: rest =>
    rw [expressions, Expr.freeAll]
    exact confined_bind (confined_expression expr) (confined_expressions rest)

theorem confined_optional (given : Option Expr) :
    Confined id (Expr.freeOptional given) (optional declarations position given) := by
  match given with
  | none =>
    rw [optional, Expr.freeOptional]
    exact confined_pure
  | some expr =>
    rw [optional, Expr.freeOptional]
    exact confined_expression expr

/-- Local variables change the frame that they stand in, so they are taken together with what comes
after them in it. -/
theorem confined_bindings (bound : List (String × Option Expr)) {names : List String}
    {rest : WalkM Unit} (inside : Confined closed names rest) :
    Confined closed (Expr.freeLocals names bound)
      (bindings declarations position bound >>= fun _ => rest) := by
  match bound with
  | [] =>
    rw [bindings, Expr.freeLocals]
    exact inside
  | (name, initial) :: more =>
    rw [bindings, Expr.freeLocals]
    simp only [bind_assoc]
    refine confined_bind (confined_optional initial) ?_
    exact confined_introducing (confined_bindings more inside)

end

end

/-- The walk over an expression leaves the bindings as they were, after an error too, and keeps what
was found before it in its place. From walks with equally many slots, in which the free names of the
expression mean the same, it has the same result and adds the same slots, references and calls. -/
theorem expression_only_adds_findings (declarations : Declarations) (position : Position)
    (expr : Expr) :
    (∀ walk, (expression declarations position expr walk).2.Continues walk) ∧
    ∀ walk other, walk.slots.size = other.slots.size →
      (∀ name ∈ expr.free, walk.scope.find? name = other.scope.find? name) →
      ∃ result added,
        expression declarations position expr walk = (result, walk.adding added) ∧
        expression declarations position expr other = (result, other.adding added) := by
  have confined : Confined id expr.free (expression declarations position expr) :=
    confined_expression expr
  constructor
  · intro walk
    obtain ⟨result, added, ran, -⟩ := confined.run (.refl walk)
    rw [ran]
    exact continues_adding walk added
  · intro walk other slots meanings
    exact confined.run ⟨meanings, slots⟩

/-- The body of a loop inside local variables uses a name that is not bound. In the one walk a frame
hides a binding of another, in the other walk there is one frame, which binds other names too. -/
theorem expression_only_adds_findings_before_error :
    ∃ (walk other : Walk) (expr : Expr),
      walk.scope = ⟨[.ofList [("x", 1)], .ofList [("x", 0), ("i", 0)]]⟩ ∧
      other.scope = ⟨[.ofList [("y", 0), ("x", 1)]]⟩ ∧
      expr = .locals [("x", some (.var "x")), ("y", none)]
        (.loop "i" (.var "x") (.var "i") none [.assign "y" (.var "x"), .var "z"]) ∧
      (expression .empty .start expr walk).1 = .error ⟨.variableNotDeclared "z", .start⟩ ∧
      (expression .empty .start expr walk).2.references = #[⟨"x", 1, .read⟩, ⟨"x", 2, .read⟩,
        ⟨"i", 4, .read⟩, ⟨"x", 2, .read⟩, ⟨"y", 3, .write⟩] ∧
      walk.slots.size = other.slots.size ∧
      (∀ name ∈ expr.free, walk.scope.find? name = other.scope.find? name) ∧
      ∃ result added,
        expression .empty .start expr walk = (result, walk.adding added) ∧
        expression .empty .start expr other = (result, other.adding added) := by
  refine ⟨{ scope := _, slots := #[⟨"x", .parameter⟩, ⟨"x", .localVariable⟩] },
    { scope := _, slots := #[⟨"y", .parameter⟩, ⟨"x", .parameter⟩], calls := #[⟨"f", 0⟩] },
    _, rfl, rfl, rfl, by decide +kernel, by decide +kernel, rfl, by decide, ?_⟩
  exact (expression_only_adds_findings .empty .start _).2 _ _ rfl (by decide)

end Walk

end Kaleido
