import Kaleido.Proofs.Forms
import Kaleido.Proofs.Stability

/-!
# One body for each name

The resolver refuses a second body for a name. It looks whether there is one before a body is
resolved and remembers the name only after that, so a body that cannot be resolved leaves the name
free. Main statement: after any items the resolver knows the names of exactly those functions that
it has accepted, no two of them have a name in common, and in a source each of these names is
declared, unless it is that of an expression.
-/
namespace Kaleido

/-- The function that an item gives a body, if it does. -/
def Item.function? : Item → Option Function
  | .definition function | .expression function => some function
  | .external _ => none

/-- A body that cannot be resolved is not refused for being a second one. -/
theorem Walk.cause_ne_redefined {declarations : Declarations} {function : Function}
    {diagnostic : Diagnostic} (failed : (Walk.function declarations function).1 = .error diagnostic)
    (name : String) : diagnostic.cause ≠ .functionRedefined name := by
  have ends : Parallel (fun part _ => part.EndsBy (· ≠ .functionRedefined name)) declarations
      declarations function.prototype.position function.prototype.position :=
    parallel_endsBy (by simp) (by simp) (by simp) _ _
  exact ends.body _ _ _ diagnostic failed

namespace Resolver

/-! ## One item -/

/-- What can come of an item: the answer and the resolver after it. -/
inductive Settles (resolver : Resolver) (item : Item) (declarations : Declarations) :
    Except Diagnostic Handle × Resolver → Prop where
  /-- The item gives no body. -/
  | external {signature : Signature} (bodiless : item.function? = none) :
      Settles resolver item declarations (.ok (.external signature), resolver)
  /-- There is a body already. -/
  | redefined {function : Function} (given : item.function? = some function)
      (again : resolver.hasBody function.prototype.name) :
      Settles resolver item declarations
        (.error ⟨.functionRedefined function.prototype.name, function.prototype.position⟩, resolver)
  /-- The body cannot be resolved. -/
  | unresolved {function : Function} {diagnostic : Diagnostic}
      (given : item.function? = some function)
      (fresh : resolver.hasBody function.prototype.name = false)
      (failed : (Walk.function declarations function).1 = .error diagnostic) :
      Settles resolver item declarations (.error diagnostic, resolver)
  /-- The body is resolved, and there is no name to remember. -/
  | anonymous {function : Function} {resolved : ResolvedFunction}
      (given : item.function? = some function)
      (fresh : resolver.hasBody function.prototype.name = false)
      (nameless : function.prototype.name = "") :
      Settles resolver item declarations (.ok (.function resolved), resolver)
  /-- The body is resolved, and its name remembered. -/
  | named {function : Function} {resolved : ResolvedFunction}
      (given : item.function? = some function)
      (fresh : resolver.hasBody function.prototype.name = false)
      (name : function.prototype.name ≠ "") :
      Settles resolver item declarations
        (.ok (.function resolved), ⟨function.prototype.name :: resolver.defined⟩)

theorem settles_function (resolver : Resolver) {item : Item} (declarations : Declarations)
    {function : Function} (given : item.function? = some function) :
    Settles resolver item declarations (resolver.function function declarations) := by
  unfold Resolver.function
  simp only
  split
  · next again => exact .redefined given again
  · next fresh =>
    rw [Bool.not_eq_true] at fresh
    split
    · next diagnostic walk held => exact .unresolved given fresh (by rw [held])
    · next walk held =>
      by_cases nameless : function.prototype.name = ""
      · rw [if_pos (by simpa [Function.isAnonymous] using nameless)]
        exact .anonymous given fresh nameless
      · rw [if_neg (by simpa [Function.isAnonymous] using nameless)]
        exact .named given fresh nameless

theorem settles_item (resolver : Resolver) (item : Item) (declarations : Declarations) :
    Settles resolver item declarations (resolver.item item declarations) := by
  cases item with
  | definition function => exact settles_function resolver declarations rfl
  | expression function => exact settles_function resolver declarations rfl
  | external prototype => exact .external rfl

section

variable {resolver : Resolver} {item : Item} {declarations : Declarations}

/-- An item that is refused changes nothing. -/
theorem item_of_error {diagnostic : Diagnostic}
    (failed : (resolver.item item declarations).1 = .error diagnostic) :
    (resolver.item item declarations).2 = resolver := by
  have settles := settles_item resolver item declarations
  generalize resolver.item item declarations = answer at failed settles
  cases settles with
  | external | anonymous | named => cases failed
  | redefined | unresolved => rfl

/-- An item that has no body, or none with a name, changes nothing. -/
theorem item_of_nameless
    (nameless : ∀ function, item.function? = some function → function.prototype.name = "") :
    (resolver.item item declarations).2 = resolver := by
  have settles := settles_item resolver item declarations
  generalize resolver.item item declarations = answer at settles
  cases settles with
  | external | redefined | unresolved | anonymous => rfl
  | named given fresh name => exact absurd (nameless _ given) name

/-- A function with a name is accepted only if the name was free, and then takes it. -/
theorem item_of_ok {function : Function} {handle : Handle}
    (given : item.function? = some function) (name : function.prototype.name ≠ "")
    (accepted : (resolver.item item declarations).1 = .ok handle) :
    resolver.hasBody function.prototype.name = false ∧
      (resolver.item item declarations).2 = ⟨function.prototype.name :: resolver.defined⟩ := by
  have settles := settles_item resolver item declarations
  generalize resolver.item item declarations = answer at accepted settles
  cases settles with
  | external bodiless => cases bodiless.symm.trans given
  | redefined | unresolved => cases accepted
  | anonymous same _ nameless =>
    cases same.symm.trans given
    exact absurd nameless name
  | named same fresh _ =>
    cases same.symm.trans given
    exact ⟨fresh, rfl⟩

/-- A second body for a name is refused as one. -/
theorem item_of_hasBody {function : Function} (given : item.function? = some function)
    (again : resolver.hasBody function.prototype.name) :
    (resolver.item item declarations).1 =
      .error ⟨.functionRedefined function.prototype.name, function.prototype.position⟩ := by
  have settles := settles_item resolver item declarations
  generalize resolver.item item declarations = answer at settles
  cases settles with
  | external bodiless => cases bodiless.symm.trans given
  | redefined same _ =>
    cases same.symm.trans given
    rfl
  | unresolved same fresh _ | anonymous same fresh _ | named same fresh _ =>
    cases same.symm.trans given
    cases fresh.symm.trans again

/-- Only a second body for a name is refused as one. -/
theorem hasBody_of_redefined {diagnostic : Diagnostic} {name : String}
    (failed : (resolver.item item declarations).1 = .error diagnostic)
    (redefined : diagnostic.cause = .functionRedefined name) :
    resolver.hasBody name ∧
      ∃ function, item.function? = some function ∧ function.prototype.name = name := by
  have settles := settles_item resolver item declarations
  generalize resolver.item item declarations = answer at failed settles
  cases settles with
  | external | anonymous | named => cases failed
  | redefined given again =>
    cases failed
    cases redefined
    exact ⟨again, _, given, rfl⟩
  | unresolved _ _ unresolved =>
    cases failed
    exact absurd redefined (Walk.cause_ne_redefined unresolved name)

/-- The names with a body after an item are those before it and, if the item is accepted as a
function with a name, that name. -/
theorem hasBody_item_iff (resolver : Resolver) (item : Item) (declarations : Declarations)
    (name : String) :
    (resolver.item item declarations).2.hasBody name ↔ resolver.hasBody name ∨
      name ≠ "" ∧ ∃ function handle, item.function? = some function ∧
        function.prototype.name = name ∧ (resolver.item item declarations).1 = .ok handle := by
  have settles := settles_item resolver item declarations
  generalize resolver.item item declarations = answer at settles
  cases settles with
  | external bodiless => simp [bodiless]
  | redefined | unresolved => simp
  | anonymous given _ nameless =>
    simp only [given, Option.some.injEq, iff_self_or]
    rintro ⟨nonempty, function, handle, rfl, rfl, -⟩
    exact absurd nameless nonempty
  | @named function resolved given _ nonempty =>
    simp only [hasBody, List.contains_cons, Bool.or_eq_true, beq_iff_eq, given, Option.some.injEq]
    constructor
    · rintro (rfl | earlier)
      · exact .inr ⟨nonempty, function, _, rfl, rfl, rfl⟩
      · exact .inl earlier
    · rintro (earlier | ⟨-, _, _, rfl, rfl, -⟩)
      · exact .inr earlier
      · exact .inl rfl

end

/-! ## Items one after the other -/

/-- The resolver after some items, each with the declarations that it is resolved against. -/
def after (requests : List (Item × Declarations)) : Resolver :=
  requests.foldl (fun resolver request => (resolver.item request.1 request.2).2) {}

/-- That the item at a place of some items gives a function a body, and is accepted. -/
def AcceptsAt (requests : List (Item × Declarations)) (place : Nat) (function : Function) : Prop :=
  ∃ item declarations handle, requests[place]? = some (item, declarations) ∧
    item.function? = some function ∧
    ((after (requests.take place)).item item declarations).1 = .ok handle

theorem after_concat (before : List (Item × Declarations)) (item : Item)
    (declarations : Declarations) :
    after (before ++ [(item, declarations)]) = ((after before).item item declarations).2 := by
  simp [after]

/-- Whether an item is accepted depends on the items before it only. -/
theorem acceptsAt_append {before : List (Item × Declarations)} {place : Nat}
    (inside : place < before.length) (later : List (Item × Declarations)) (function : Function) :
    AcceptsAt (before ++ later) place function ↔ AcceptsAt before place function := by
  unfold AcceptsAt
  rw [List.getElem?_append_left inside, List.take_append_of_le_length (Nat.le_of_lt inside)]

theorem acceptsAt_length (before : List (Item × Declarations)) (item : Item)
    (declarations : Declarations) (function : Function) :
    AcceptsAt (before ++ [(item, declarations)]) before.length function ↔
      item.function? = some function ∧
        ∃ handle, ((after before).item item declarations).1 = .ok handle := by
  simp [AcceptsAt]

theorem AcceptsAt.lt {requests : List (Item × Declarations)} {place : Nat} {function : Function}
    (accepts : AcceptsAt requests place function) : place < requests.length := by
  obtain ⟨item, declarations, handle, listed, -⟩ := accepts
  exact (List.getElem?_eq_some_iff.mp listed).1

/-- The items accepted among some items and one more. -/
theorem acceptsAt_concat (before : List (Item × Declarations)) (item : Item)
    (declarations : Declarations) (place : Nat) (function : Function) :
    AcceptsAt (before ++ [(item, declarations)]) place function ↔
      AcceptsAt before place function ∨ (place = before.length ∧ item.function? = some function ∧
        ∃ handle, ((after before).item item declarations).1 = .ok handle) := by
  by_cases inside : place < before.length
  · rw [acceptsAt_append inside]
    simp [Nat.ne_of_lt inside]
  · have outside : ¬ AcceptsAt before place function := fun accepts => inside accepts.lt
    by_cases last : place = before.length
    · subst last
      simp [acceptsAt_length, outside]
    · have beyond : ¬ AcceptsAt (before ++ [(item, declarations)]) place function := by
        intro accepts
        have bound := accepts.lt
        simp at bound
        omega
      simp [beyond, outside, last]

/-- The names with a body are those of the functions that were accepted. -/
theorem hasBody_after_iff (requests : List (Item × Declarations)) (name : String) :
    (after requests).hasBody name ↔ name ≠ "" ∧
      ∃ place function, AcceptsAt requests place function ∧ function.prototype.name = name := by
  -- The last item meets the resolver that the others leave, so the induction is from the end.
  induction requests using List.reverseRecOn with
  | nil => simp [after, hasBody, AcceptsAt]
  | append_singleton before last ih =>
    obtain ⟨item, declarations⟩ := last
    rw [after_concat, hasBody_item_iff, ih]
    simp only [acceptsAt_concat]
    constructor
    · rintro (⟨nonempty, place, function, accepts, named⟩ |
        ⟨nonempty, function, handle, given, named, ok⟩)
      · exact ⟨nonempty, place, function, .inl accepts, named⟩
      · exact ⟨nonempty, _, function, .inr ⟨rfl, given, handle, ok⟩, named⟩
    · rintro ⟨nonempty, place, function, accepts | ⟨-, given, handle, ok⟩, named⟩
      · exact .inl ⟨nonempty, place, function, accepts, named⟩
      · exact .inr ⟨nonempty, function, handle, given, named, ok⟩

/-- No two functions that are accepted have a name in common. -/
theorem AcceptsAt.unique {requests : List (Item × Declarations)} {first second : Nat}
    {function other : Function} (accepts : AcceptsAt requests first function)
    (again : AcceptsAt requests second other) (name : function.prototype.name ≠ "")
    (same : function.prototype.name = other.prototype.name) : ¬ first < second := by
  intro before
  -- When the second one came, the first one was among the items before it, and had the name.
  obtain ⟨item, declarations, handle, listed, given, accepted⟩ := again
  have inside : first < (requests.take second).length := by
    have := (List.getElem?_eq_some_iff.mp listed).1
    rw [List.length_take]
    omega
  have earlier : AcceptsAt (requests.take second) first function := by
    rwa [← acceptsAt_append inside (requests.drop second), List.take_append_drop]
  have taken := (hasBody_after_iff _ _).mpr ⟨name, first, function, earlier, rfl⟩
  rw [same] at name taken
  cases (item_of_ok given name accepted).1.symm.trans taken

/-- What comes of one item, the answer and the resolver after it, given the items before it. -/
structure Recording (before : List (Item × Declarations)) (item : Item)
    (result : Except Diagnostic Handle × Resolver) : Prop where
  /-- An item that is refused leaves no trace. -/
  refused : ∀ diagnostic, result.1 = .error diagnostic → result.2 = after before
  /-- Nor does one that has no body, or none with a name. -/
  nameless : (∀ function, item.function? = some function → function.prototype.name = "") →
    result.2 = after before
  /-- A function with a name that is accepted is new, and adds its name and no other. -/
  accepted : ∀ function handle, item.function? = some function → function.prototype.name ≠ "" →
    result.1 = .ok handle → (after before).hasBody function.prototype.name = false ∧
      ∀ name, result.2.hasBody name ↔
        name = function.prototype.name ∨ (after before).hasBody name
  /-- A function with a name is refused as defined again exactly if one of its name was accepted. -/
  redefined : ∀ function, item.function? = some function → function.prototype.name ≠ "" →
    (result.1 = .error
        ⟨.functionRedefined function.prototype.name, function.prototype.position⟩ ↔
      ∃ place earlier, AcceptsAt before place earlier ∧
        earlier.prototype.name = function.prototype.name)
  /-- Nothing else is refused as defined again. -/
  onlyRedefined : ∀ diagnostic name, result.1 = .error diagnostic →
    diagnostic.cause = .functionRedefined name → name ≠ "" ∧
      ∃ function, item.function? = some function ∧ function.prototype.name = name

/-- What the resolver knows after some items. -/
structure Recorded (requests : List (Item × Declarations)) : Prop where
  /-- It knows the names of the functions that were accepted, and so never the empty one. -/
  known : ∀ name, (after requests).hasBody name ↔ name ≠ "" ∧
    ∃ place function, AcceptsAt requests place function ∧ function.prototype.name = name
  /-- No two functions that were accepted have a name in common. -/
  unique : ∀ first second function other, AcceptsAt requests first function →
    AcceptsAt requests second other → function.prototype.name ≠ "" →
    function.prototype.name = other.prototype.name → first = second

theorem recording_item (before : List (Item × Declarations)) (item : Item)
    (declarations : Declarations) :
    Recording before item ((after before).item item declarations) where
  refused diagnostic failed := item_of_error failed
  nameless nameless := item_of_nameless nameless
  accepted function handle given nonempty accepted := by
    obtain ⟨fresh, next⟩ := item_of_ok given nonempty accepted
    exact ⟨fresh, fun name => by simp [next, hasBody]⟩
  redefined function given nonempty := by
    constructor
    · intro failed
      have again := (hasBody_of_redefined failed rfl).1
      exact ((hasBody_after_iff before _).mp again).2
    · rintro ⟨place, earlier, accepts, named⟩
      have again := (hasBody_after_iff before _).mpr ⟨nonempty, place, earlier, accepts, named⟩
      exact item_of_hasBody given again
  onlyRedefined diagnostic name failed redefined := by
    obtain ⟨again, gives⟩ := hasBody_of_redefined failed redefined
    exact ⟨((hasBody_after_iff before name).mp again).1, gives⟩

theorem recorded_after (requests : List (Item × Declarations)) : Recorded requests where
  known := hasBody_after_iff requests
  unique first second function other accepts again nonempty same := by
    have before := accepts.unique again nonempty same
    have after := again.unique accepts (same ▸ nonempty) same.symm
    omega

/-! ## Items of a source -/

/-- A name that has a body after one item of a source has it already, or from that item. -/
theorem accepted_of_hasBody_outcome {resolver : Resolver} {outcome : Grammar.Outcome}
    {name : String} (defined : (resolver.outcome outcome).2.hasBody name) :
    resolver.hasBody name ∨ name ≠ "" ∧ ∃ item function handle,
      (resolver.outcome outcome).1 = .accepted item handle ∧ item.function? = some function ∧
        function.prototype.name = name := by
  unfold Resolver.outcome at defined ⊢
  cases read : outcome.result with
  | error diagnostic =>
    rw [read] at defined
    exact .inl defined
  | ok item =>
    rw [read] at defined
    have settled := (hasBody_item_iff resolver item outcome.after.declarations name).mp
    rcases held : resolver.item item outcome.after.declarations with ⟨diagnostic | handle, after⟩
    · simp only [held] at defined settled
      rcases settled defined with earlier | ⟨-, _, _, -, -, accepted⟩
      · exact .inl earlier
      · cases accepted
    · simp only [held] at defined settled
      refine (settled defined).imp_right ?_
      rintro ⟨nonempty, function, _, given, named, -⟩
      exact ⟨nonempty, item, function, handle, by simp only [held], given, named⟩

/-- A name that has a body after items of a source has it already, or from one of them. -/
theorem accepted_of_hasBody {resolver : Resolver} {outcomes : List Grammar.Outcome} {name : String}
    (defined : (resolver.outcomes outcomes).2.hasBody name) :
    resolver.hasBody name ∨ name ≠ "" ∧ ∃ item function handle,
      .accepted item handle ∈ (resolver.outcomes outcomes).1 ∧
      item.function? = some function ∧ function.prototype.name = name := by
  induction outcomes generalizing resolver with
  | nil => exact .inl defined
  | cons first rest ih =>
    rcases ih defined with earlier | ⟨nonempty, item, function, handle, happens, given⟩
    · refine (accepted_of_hasBody_outcome earlier).imp_right ?_
      rintro ⟨nonempty, item, function, handle, happens, given⟩
      exact ⟨nonempty, item, function, handle, List.mem_cons.mpr (.inl happens.symm), given⟩
    · exact .inr ⟨nonempty, item, function, handle, List.mem_cons_of_mem _ happens, given⟩

end Resolver

namespace Grammar

/-- What is declared after one of the first items of a source is in force after all of these. -/
theorem mem_take_program {source : String} {count : Nat} {outcome : Outcome}
    (member : outcome ∈ (program (.ofSource source)).1.take count) :
    ∃ earlier, nextItem (afterItems source earlier) = (some outcome.result, outcome.after) ∧
      (afterItems source count).declarations.Extends outcome.after.declarations := by
  obtain ⟨i, inside, same⟩ := List.mem_iff_getElem.mp member
  rw [List.length_take] at inside
  have listed : (program (.ofSource source)).1[i]? = some outcome := by
    rw [← List.getElem?_take_of_lt (by omega : i < count)]
    exact List.getElem?_eq_some_iff.mpr ⟨_, same⟩
  rw [getElem?_program] at listed
  obtain ⟨result, next, rfl⟩ := Option.map_eq_some_iff.mp listed
  refine ⟨i, Prod.ext next (afterItems_succ source i).symm, ?_⟩
  obtain ⟨more, total⟩ := Nat.exists_eq_add_of_le' (by omega : i + 1 ≤ count)
  rw [afterItems, total, Function.iterate_add_apply]
  exact extends_iterate _ _

/-- The events of the first items of a source, and the resolver after them. -/
def resolving (source : String) (count : Nat) : List Event × Resolver :=
  Resolver.outcomes {} ((program (.ofSource source)).1.take count)

/-- The name of a function that was read, and accepted, is declared from then on, unless the
function is an expression. -/
theorem declared_of_hasBody {source : String} {count : Nat} {name : String}
    (defined : (resolving source count).2.hasBody name) :
    (∃ inForce, (afterItems source count).declarations.find? name = some inForce) ∨
      name = "main" ∧ ∃ function handle, function.prototype.name = "main" ∧
        .accepted (.expression function) handle ∈ (resolving source count).1 := by
  rcases Resolver.accepted_of_hasBody defined with
    earlier | ⟨nonempty, item, function, handle, happens, given, rfl⟩
  · simp [Resolver.hasBody] at earlier
  · obtain ⟨outcome, listed, before, accepted⟩ := Resolver.mem_outcomes happens
    obtain ⟨earlier, next, later⟩ := mem_take_program listed
    rw [(Resolver.of_outcome_accepted accepted).1] at next
    have found : (nextItem (afterItems source earlier)).1 = some (.ok item) := by rw [next]
    obtain ⟨read, after⟩ := afterItem_of_ok found
    have lexed := ((Session.Consistent.afterItems source earlier).reads (readsTo_opening _)).lexed
    cases readable_item lexed read with
    | external => cases given
    | definition =>
      left
      cases given
      obtain ⟨inForce, held, -⟩ := find?_item read (by simp)
      rw [show (item (opening (afterItems source earlier))).after = outcome.after from
        after.symm.trans (congrArg Prod.snd next)] at held
      exact ⟨inForce, later _ inForce held⟩
    | expression named =>
      right
      cases given
      obtain rfl := named.resolve_left nonempty
      exact ⟨rfl, _, handle, rfl, happens⟩

/-- With as many items as a source has, and the end that comes after them, it is compiled. -/
theorem compile_eq_resolving (source : String) : ∃ count,
    (compile source).events = (resolving source count).1 ∧
      (compile source).resolver = (resolving source count).2 ∧
      (compile source).session = afterItems source count := by
  refine ⟨(program (.ofSource source)).1.length + 1, ?_, ?_, program_snd _⟩
  · rw [resolving, List.take_of_length_le (Nat.le_succ _)]
    rfl
  · rw [resolving, List.take_of_length_le (Nat.le_succ _)]
    rfl

end Grammar

open Grammar in
/-- Whatever items are resolved one after the other, against whatever declarations, the names with a
body are those of the accepted functions, each item adds its own name if it is accepted with one and
nothing else, and a second body for a name is refused. While a source is read, and at its end, each
of these names is declared, unless it is that of an expression. -/
theorem names_have_one_body :
    (∀ (before : List (Item × Declarations)) (item : Item) (declarations : Declarations),
      Resolver.Recording before item ((Resolver.after before).item item declarations)) ∧
    (∀ requests : List (Item × Declarations), Resolver.Recorded requests) ∧
    ∀ source name,
      (∀ count, (resolving source count).2.hasBody name →
        (∃ inForce, (afterItems source count).declarations.find? name = some inForce) ∨
          name = "main" ∧ ∃ function handle, function.prototype.name = "main" ∧
            .accepted (.expression function) handle ∈ (resolving source count).1) ∧
      ((compile source).resolver.hasBody name →
        (∃ inForce, (compile source).session.declarations.find? name = some inForce) ∨
          name = "main" ∧ ∃ function handle, function.prototype.name = "main" ∧
            .accepted (.expression function) handle ∈ (compile source).events) := by
  refine ⟨Resolver.recording_item, Resolver.recorded_after, fun source name => ⟨?_, ?_⟩⟩
  · intro count defined
    exact declared_of_hasBody defined
  · obtain ⟨count, events, resolver, session⟩ := compile_eq_resolving source
    rw [events, resolver, session]
    exact declared_of_hasBody

end Kaleido
