import Kaleido.Proofs.Registration
import Kaleido.Proofs.Outcomes
import Kaleido.Proofs.Walks

/-!
# Later declarations

Items are resolved while declarations are still being added, but a declaration never takes one back.
Main statement: a function that is resolved, or refused for anything but a missing declaration, is
so whatever is declared later, and so the calls and the declarations of the items of a source agree
with what is declared at its end.
-/
namespace Kaleido

/-! ## More declarations -/

namespace Declarations

/-- That the declarations of an earlier time are still in force. -/
def Extends (later earlier : Declarations) : Prop :=
  ∀ name inForce, earlier.find? name = some inForce → later.find? name = some inForce

theorem Extends.refl (declarations : Declarations) : declarations.Extends declarations :=
  fun _ _ held => held

theorem Extends.trans {third second first : Declarations} (after : third.Extends second)
    (before : second.Extends first) : third.Extends first :=
  fun name inForce held => after name inForce (before name inForce held)

theorem Extends.signature? {later earlier : Declarations} (more : later.Extends earlier)
    {name : String} {signature : Signature} (held : earlier.signature? name = some signature) :
    later.signature? name = some signature := by
  obtain ⟨inForce, found, rfl⟩ := Option.map_eq_some_iff.mp held
  rw [Declarations.signature?, more name inForce found]
  rfl

theorem extends_register {declarations after : Declarations} {prototype inForce : Prototype}
    (registered : declarations.register prototype = (.ok inForce, after)) :
    after.Extends declarations := by
  rcases register_cases registered with ⟨new, -, rfl⟩ | ⟨-, rfl⟩
  · intro name found held
    have other : name ≠ prototype.name := by
      rintro rfl
      cases new.symm.trans held
    rwa [Table.find?_insert_of_ne _ _ other]
  · exact .refl _

/-- A prototype that is declared agrees with the one in force in the number of parameters. -/
theorem arity_register {declarations after : Declarations} {prototype inForce : Prototype}
    (registered : declarations.register prototype = (.ok inForce, after)) :
    after.find? prototype.name = some inForce ∧ inForce.arity = prototype.arity := by
  unfold register at registered
  split at registered
  · cases registered
    exact ⟨Table.find?_insert_self .., rfl⟩
  · next found held =>
    split at registered
    · cases registered
    · next agrees =>
      cases registered
      refine ⟨held, ?_⟩
      by_contra differs
      rw [conflict?, if_pos differs] at agrees
      cases agrees

/-- The declarations after a prototype is declared, or refused. -/
def entering (declarations : Declarations) (prototype : Prototype) : Declarations :=
  (declarations.register prototype).2

/-- The declarations after prototypes are declared one after the other, each of them or not. -/
def enteringAll (declarations : Declarations) (prototypes : List Prototype) : Declarations :=
  prototypes.foldl entering declarations

theorem extends_entering (declarations : Declarations) (prototype : Prototype) :
    (declarations.entering prototype).Extends declarations := by
  unfold entering
  rcases registered : declarations.register prototype with ⟨diagnostic | inForce, after⟩
  · rw [register_of_error (congrArg Prod.fst registered)] at registered
    obtain rfl : declarations = after := congrArg Prod.snd registered
    exact .refl _
  · exact extends_register registered

theorem extends_enteringAll (declarations : Declarations) (prototypes : List Prototype) :
    (declarations.enteringAll prototypes).Extends declarations := by
  induction prototypes generalizing declarations with
  | nil => exact .refl _
  | cons first rest ih =>
    exact (ih (declarations.entering first)).trans (extends_entering declarations first)

/-- That every declaration stands under its own name. -/
def Keyed (declarations : Declarations) : Prop :=
  ∀ name inForce, declarations.find? name = some inForce → inForce.name = name

end Declarations

theorem Session.Consistent.keyed {s : Session} (consistent : s.Consistent) :
    s.declarations.Keyed :=
  fun name inForce held => (consistent.declarable name inForce held).1

/-! ## Walks with more declarations -/

namespace Walk

/-- That a part of a walk does what an earlier one did, unless that one ended for the lack of a
declaration. -/
def Persists {α : Type} (earlier later : WalkM α) : Prop :=
  ∀ walk, later walk = earlier walk ∨
    ∃ diagnostic name, (earlier walk).1 = .error diagnostic ∧
      diagnostic.cause = .unknownFunction name

theorem Persists.refl {α : Type} (part : WalkM α) : Persists part part := fun _ => .inl rfl

theorem Persists.bind {α β : Type} {part other : WalkM α} {next follow : α → WalkM β}
    (first : Persists part other) (second : ∀ a, Persists (next a) (follow a)) :
    Persists (part >>= next) (other >>= follow) := by
  intro walk
  rcases first walk with same | ⟨diagnostic, name, ended, unknown⟩
  · rcases held : part walk with ⟨found | a, after⟩
    · left
      rw [held] at same
      simp only [Bind.bind, same, held]
    · rw [held] at same
      rw [run_bind_of_ok held, run_bind_of_ok same]
      exact second a after
  · exact .inr ⟨diagnostic, name, run_bind_of_error ended, unknown⟩

theorem Persists.within (frame : Frame Nat) {work other : WalkM Unit}
    (inner : Persists work other) : Persists (within frame work) (within frame other) := by
  intro walk
  rcases inner (HasScope.setScope ((HasScope.scope walk).push frame) walk) with same | ended
  · left
    simp only [Walk.within, withFrame, same]
  · exact .inr ended

/-- A call that finds a declaration finds it later too. -/
theorem Persists.call {earlier later : Declarations} (more : later.Extends earlier)
    (position : Position) (name : String) (received : Nat) :
    Persists (call earlier position name received) (call later position name received) := by
  intro walk
  unfold Walk.call
  cases held : earlier.signature? name with
  | none => exact .inr ⟨_, name, rfl, rfl⟩
  | some signature =>
    left
    rw [more.signature? held]

theorem parallel_persists {earlier later : Declarations} (more : later.Extends earlier)
    (position : Position) : Parallel Persists earlier later position position where
  pure _ := .refl _
  bind := .bind
  within := .within
  allocate _ _ := .refl _
  bindName _ _ := .refl _
  refer _ _ := .refl _
  call := .call more position

/-- That the calls that a walk has noted are as declared. -/
def CallsDeclared (declarations : Declarations) (walk : Walk) : Prop :=
  ∀ signature ∈ walk.calls, declarations.signature? signature.name = some signature

/-- That a part of a walk notes calls as they are declared. -/
def NotesDeclared (declarations : Declarations) {α : Type} (part : WalkM α) : Prop :=
  ∀ walk, CallsDeclared declarations walk → CallsDeclared declarations (part walk).2

theorem notesDeclared_bind {declarations : Declarations} {α β : Type} {part : WalkM α}
    {next : α → WalkM β} (first : NotesDeclared declarations part)
    (second : ∀ a, NotesDeclared declarations (next a)) :
    NotesDeclared declarations (part >>= next) := by
  intro walk before
  have middle := first walk before
  rcases held : part walk with ⟨diagnostic | a, after⟩
  · rw [held] at middle
    simpa only [bind, held] using middle
  · rw [held] at middle
    rw [run_bind_of_ok held]
    exact second a after middle

theorem notesDeclared_refer (declarations : Declarations) (position : Position) (name : String)
    (access : Access) : NotesDeclared declarations (refer position name access) := by
  intro walk before
  unfold refer
  split
  · exact before
  · exact before

theorem notesDeclared_call {declarations : Declarations} (keyed : declarations.Keyed)
    (position : Position) (name : String) (received : Nat) :
    NotesDeclared declarations (call declarations position name received) := by
  intro walk before
  unfold call
  cases held : declarations.signature? name with
  | none => exact before
  | some signature =>
    simp only
    split
    · intro noted member
      rcases Array.mem_push.mp member with earlier | rfl
      · exact before noted earlier
      · obtain ⟨inForce, found, rfl⟩ := Option.map_eq_some_iff.mp held
        rw [show inForce.signature.name = name from keyed name inForce found, held]
    · exact before

theorem parallel_notesDeclared {declarations : Declarations} (keyed : declarations.Keyed)
    (position : Position) :
    Parallel (fun part _ => NotesDeclared declarations part) declarations declarations position
      position where
  pure _ := fun _ before => before
  bind := notesDeclared_bind
  within _ _ _ inner := fun _ before => inner _ before
  allocate _ _ := fun _ before => before
  bindName _ _ := fun _ before => before
  refer := notesDeclared_refer declarations position
  call := notesDeclared_call keyed position

theorem function_persists {earlier later : Declarations} (more : later.Extends earlier)
    (function : Function) :
    Walk.function later function = Walk.function earlier function ∨
      ∃ diagnostic name, (Walk.function earlier function).1 = .error diagnostic ∧
        diagnostic.cause = .unknownFunction name :=
  (parallel_persists more function.prototype.position).body _ _ _

theorem callsDeclared_function {declarations : Declarations} (keyed : declarations.Keyed)
    (function : Function) : CallsDeclared declarations (Walk.function declarations function).2 := by
  refine (parallel_notesDeclared keyed function.prototype.position).body _ _ _ ?_
  intro signature member
  simp [start] at member

end Walk

namespace Resolver

theorem function_of_extends {earlier later : Declarations} (more : later.Extends earlier)
    (resolver : Resolver) {function : Function}
    (settled : ∀ diagnostic name, (resolver.function function earlier).1 = .error diagnostic →
      diagnostic.cause ≠ .unknownFunction name) :
    resolver.function function later = resolver.function function earlier := by
  rcases Walk.function_persists more function with same | ⟨diagnostic, name, ended, unknown⟩
  · unfold Resolver.function
    rw [same]
  · by_cases again : resolver.hasBody function.prototype.name
    · unfold Resolver.function
      simp only [again, if_true]
    · refine absurd unknown (settled diagnostic name ?_)
      unfold Resolver.function
      simp only [again, Bool.false_eq_true, if_false]
      rcases held : Walk.function earlier function with ⟨found | _, walk⟩
      · rw [held] at ended
        obtain rfl := Except.error.inj ended
        rfl
      · rw [held] at ended
        cases ended

/-- A function is accepted with the calls that the walk over it has noted. -/
theorem calls_of_function {resolver : Resolver} {function : Function} {declarations : Declarations}
    {resolved : ResolvedFunction}
    (accepted : (resolver.function function declarations).1 = .ok (.function resolved)) :
    resolved.calls = (Walk.function declarations function).2.calls := by
  unfold Resolver.function at accepted
  simp only at accepted
  split at accepted
  · cases accepted
  · split at accepted
    · cases accepted
    · next walk held =>
      cases accepted
      rw [held]

theorem callsDeclared_item {resolver : Resolver} {item : Item} {declarations : Declarations}
    (keyed : declarations.Keyed) {resolved : ResolvedFunction}
    (accepted : (resolver.item item declarations).1 = .ok (.function resolved)) :
    ∀ signature ∈ resolved.calls, declarations.signature? signature.name = some signature := by
  cases item with
  | definition function =>
    rw [calls_of_function accepted]
    exact Walk.callsDeclared_function keyed function
  | expression function =>
    rw [calls_of_function accepted]
    exact Walk.callsDeclared_function keyed function
  | external prototype => cases accepted

end Resolver

/-! ## Runs -/

namespace Grammar

theorem extends_of_passes {s after : Session} (passes : Passes s after) :
    after.declarations.Extends s.declarations := by
  cases passes with
  | reads reads =>
    rw [reads.declarations]
    exact .refl _
  | @declares start registered _ declared before read registers rest =>
    obtain ⟨inForce, declarations, entered, rfl⟩ := Session.register_eq_ok registers
    rw [rest.declarations, ← before.declarations, ← (closed_reads.prototype start).declarations]
    exact Declarations.extends_register entered

/-- What is declared after some items is in force after any more of them. -/
theorem extends_iterate (s : Session) (more : Nat) :
    (afterItem^[more] s).declarations.Extends s.declarations := by
  induction more with
  | zero => exact .refl _
  | succ more ih =>
    rw [Function.iterate_succ_apply']
    exact (extends_of_passes (passes_afterItem _)).trans ih

theorem find?_of_registers {s after : Session} {declared : Prototype}
    (registers : s.register declared = (.ok (), after)) :
    ∃ inForce, after.declarations.find? declared.name = some inForce ∧
      inForce.arity = declared.arity := by
  obtain ⟨inForce, declarations, registered, rfl⟩ := Session.register_eq_ok registers
  exact ⟨inForce, Declarations.arity_register registered⟩

/-- After a definition or external declaration that was read, there is a prototype in force for its
name that agrees with its own in the number of parameters. -/
theorem find?_item {s : Session} {found : Item} (read : (item s).result = .ok found)
    (declares : ∀ function, found ≠ .expression function) :
    ∃ inForce, (item s).after.declarations.find? found.prototype.name = some inForce ∧
      inForce.arity = found.prototype.arity := by
  cases answers_item s with
  | unread _ failed result after => cases result.symm.trans read
  | refused _ _ refuses result after => cases result.symm.trans read
  | external keyword given registers result =>
    cases result.symm.trans read
    exact find?_of_registers registers
  | @definition declared registered keyword given registers result after =>
    obtain ⟨body, -, rfl⟩ := definition_of_body (result.symm.trans read)
    rw [after, (closed_reads.expression registered).declarations]
    exact find?_of_registers registers
  | expression plain result after =>
    rw [read, topLevel] at result
    obtain ⟨body, -, rest⟩ := (Reply.result_andThen_eq_ok_iff ..).mp result.symm
    exact absurd (Except.ok.inj rest).symm (declares _)

/-- Every outcome of a program is that of an item which was asked for on the way, and what is
declared after it is in force at the end. -/
theorem mem_program {s : Session} {outcome : Outcome} (member : outcome ∈ (program s).1) :
    (∃ before, nextItem before = (some outcome.result, outcome.after)) ∧
      (program s).2.declarations.Extends outcome.after.declarations := by
  obtain ⟨i, inside, same⟩ := List.mem_iff_getElem.mp member
  have listed := List.getElem?_eq_some_iff.mpr ⟨inside, same⟩
  rw [getElem?_program] at listed
  obtain ⟨result, next, rfl⟩ := Option.map_eq_some_iff.mp listed
  refine ⟨⟨afterItem^[i] s, ?_⟩, ?_⟩
  · rw [Function.iterate_succ_apply']
    exact Prod.ext next rfl
  · obtain ⟨more, total⟩ := Nat.exists_eq_add_of_le' (Nat.succ_le_of_lt inside)
    rw [program_snd, total, Nat.add_right_comm, Function.iterate_add_apply]
    exact extends_iterate _ _

end Grammar

open Grammar in
/-- An accepted definition or external declaration has a prototype in force at the end of the source
that agrees with its own in the number of parameters. -/
theorem find?_of_accepted {source : String} {item : Item} {handle : Handle}
    (member : (item, handle) ∈ (compile source).accepted)
    (declares : ∀ function, item ≠ .expression function) :
    ∃ inForce, (compile source).session.declarations.find? item.prototype.name = some inForce ∧
      inForce.arity = item.prototype.arity := by
  obtain ⟨outcome, listed, read, -⟩ := mem_accepted_compile member
  obtain ⟨⟨before, next⟩, later⟩ := mem_program listed
  rw [read] at next
  have found : (nextItem before).1 = some (.ok item) := by rw [next]
  obtain ⟨result, after⟩ := afterItem_of_ok found
  obtain ⟨inForce, held, agrees⟩ := find?_item result declares
  rw [show (Grammar.item (opening before)).after = outcome.after from
    after.symm.trans (congrArg Prod.snd next)] at held
  exact ⟨inForce, later _ inForce held, agrees⟩

open Grammar in
/-- Whatever is declared later, also with refusals, a function that is resolved, or refused for
another reason than a missing declaration, is so again. Hence at the end of every source the calls
of the accepted functions are as declared, and every accepted definition and external declaration has
a declaration under its name with as many parameters. -/
theorem resolution_is_stable :
    (∀ (resolver : Resolver) (function : Function) (declarations : Declarations)
      (prototypes : List Prototype),
      (∀ diagnostic name, (resolver.function function declarations).1 = .error diagnostic →
        diagnostic.cause ≠ .unknownFunction name) →
      resolver.function function (declarations.enteringAll prototypes) =
        resolver.function function declarations) ∧
    ∀ source : String,
      (∀ item resolved, (item, Handle.function resolved) ∈ (compile source).accepted →
        ∀ signature ∈ resolved.calls,
          (compile source).session.declarations.signature? signature.name = some signature) ∧
      (∀ function handle, (.definition function, handle) ∈ (compile source).accepted →
        ∃ inForce, inForce.arity = function.prototype.arity ∧
          (compile source).session.declarations.find? function.prototype.name = some inForce) ∧
      ∀ prototype handle, (.external prototype, handle) ∈ (compile source).accepted →
        ∃ inForce, inForce.arity = prototype.arity ∧
          (compile source).session.declarations.find? prototype.name = some inForce := by
  refine ⟨?_, fun source => ⟨?_, ?_, ?_⟩⟩
  · intro resolver function declarations prototypes settled
    exact resolver.function_of_extends (declarations.extends_enteringAll prototypes) settled
  · intro item resolved member signature called
    obtain ⟨outcome, listed, read, before, accepted⟩ := mem_accepted_compile member
    have keyed := (sound_program (.ofSource source) outcome listed).consistent.keyed
    exact (mem_program listed).2.signature?
      (Resolver.callsDeclared_item keyed accepted signature called)
  · intro function handle member
    obtain ⟨inForce, held, agrees⟩ := find?_of_accepted member (by simp)
    exact ⟨inForce, agrees, held⟩
  · intro prototype handle member
    obtain ⟨inForce, held, agrees⟩ := find?_of_accepted member (by simp)
    exact ⟨inForce, agrees, held⟩

/-- A second declaration of `f` with other parameters is refused, and the call in `g` stays as it was
resolved. -/
theorem resolution_is_stable_redeclared :
    Resolver.function {} ⟨⟨"g", ["x"], .function, none, .start⟩, [.call "f" [.var "x"]]⟩
        (Declarations.enteringAll (.ofList [("f", ⟨"f", ["y"], .function, none, .start⟩)])
          [⟨"f", ["x", "y"], .function, none, .start⟩, ⟨"h", [], .function, none, .start⟩]) =
      (.ok (.function ⟨"g", #[⟨"x", .parameter⟩], #[⟨"x", 0, .read⟩], #[⟨"f", 1⟩]⟩), ⟨["g"]⟩) := by
  rw [resolution_is_stable.1]
  · rfl
  · intro diagnostic name failed
    cases failed

end Kaleido
