import Kaleido.Compilation
import Kaleido.Proofs.OperatorTable
import Kaleido.Proofs.WellFormed

/-!
# What comes of the items of a source

The answer for each item of a source, with the session after it. Main statements: an item that was
read is well-formed over the operators of that session, one that was not is reported by a reader
and not by the resolver, and every diagnostic of a compilation comes of one item.
-/
namespace Kaleido

/-- The expressions that an item evaluates. -/
def Item.body : Item → List Expr
  | .definition function | .expression function => function.body
  | .external _ => []

namespace Grammar

/-! ## Items -/

/-- What is known of the answer for an item. -/
structure Outcome.Sound (outcome : Outcome) : Prop where
  consistent : outcome.after.Consistent
  wellFormed : ∀ item, outcome.result = .ok item → ∀ expr ∈ item.body,
    expr.WellFormed (fun _ => True) (outcome.after.operators.contains ·)
  unresolved : ∀ diagnostic, outcome.result = .error diagnostic →
    diagnostic.cause.stage ≠ .resolution

/-- An expression that was read is well-formed over the operators of the session after it. -/
theorem wellFormed_expression {numbers : Binary64 → Prop} {s : Session}
    (allowed : ∀ token ∈ s.ahead, Allowed numbers token) {expr : Expr}
    (read : (expression s).result = .ok expr) :
    expr.WellFormed numbers ((expression s).after.operators.contains ·) := by
  obtain ⟨tokens, ahead, derives⟩ := yields_expression s rfl expr read
  rw [(closed_reads.expression s).operators]
  apply derives.wellFormed
  intro token member
  exact allowed token (by simp [ahead, member])

theorem stage_conflict? {inForce new : Prototype} {cause : Cause}
    (conflict : Declarations.conflict? inForce new = some cause) : cause.stage = .semantic := by
  unfold Declarations.conflict? at conflict
  split at conflict
  · obtain rfl := Option.some.inj conflict
    rfl
  · split at conflict
    · split at conflict
      · obtain rfl := Option.some.inj conflict
        rfl
      · cases conflict
    · cases conflict

theorem unresolved_declare (declared : Prototype) (s : Session) :
    (declare declared s).FailsBy fun diagnostic _ => diagnostic.cause.stage ≠ .resolution := by
  intro diagnostic failed
  obtain ⟨inForce, -, conflict, -⟩ := Session.register_eq_error failed
  simp [stage_conflict? conflict]

/-- An item that cannot be read is reported by a reader. -/
theorem unresolved_item (s : Session) :
    (item s).FailsBy fun diagnostic _ => diagnostic.cause.stage ≠ .resolution := by
  unfold item
  split
  · refine .andThen (.of_ok rfl) fun _ _ => ?_
    refine (closed_unresolved.prototype _).andThen fun declared _ => ?_
    refine (unresolved_declare declared _).andThen fun _ _ => ?_
    exact (closed_unresolved.expression _).map _
  · refine .andThen (.of_ok rfl) fun _ _ => ?_
    refine (closed_unresolved.prototype _).andThen fun declared _ => ?_
    exact (unresolved_declare declared _).map _
  · exact closed_unresolved.topLevel s

/-- A definition that was read ends with its body. -/
theorem definition_eq_ok {s : Session} {found : Item} (read : (definition s).result = .ok found) :
    ∃ declared body, ∃ middle : Session, found = .definition ⟨declared, [body]⟩ ∧
      middle.Follows s ∧ (expression middle).result = .ok body ∧
      (definition s).after = (expression middle).after := by
  obtain ⟨keyword, taken, rest⟩ := (Reply.result_andThen_eq_ok_iff ..).mp read
  obtain ⟨declared, named, rest⟩ := (Reply.result_andThen_eq_ok_iff ..).mp rest
  obtain ⟨_, entered, rest⟩ := (Reply.result_andThen_eq_ok_iff ..).mp rest
  obtain ⟨body, inner, rfl⟩ := (Reply.result_map_eq_ok_iff ..).mp rest
  refine ⟨declared, body, (declare declared (prototype s.advance).after).after, rfl, ?_, inner, ?_⟩
  · exact (declare declared _).follows.trans ((prototype s.advance).follows.trans s.advance_follows)
  · unfold definition
    rw [Reply.after_andThen_of_ok taken, Reply.after_andThen_of_ok named,
      Reply.after_andThen_of_ok entered, Reply.after_map]
    rfl

/-- An item that was read is well-formed over the operators of the session after it. -/
theorem wellFormed_item {numbers : Binary64 → Prop} {s : Session}
    (allowed : ∀ token ∈ s.ahead, Allowed numbers token) {found : Item}
    (read : (item s).result = .ok found) : ∀ expr ∈ found.body,
      expr.WellFormed numbers ((item s).after.operators.contains ·) := by
  unfold item at read ⊢
  split at read
  · obtain ⟨declared, body, middle, rfl, follows, inner, ends⟩ := definition_eq_ok read
    intro expr member
    obtain rfl := List.mem_singleton.mp member
    rw [ends]
    exact wellFormed_expression (fun token later => allowed token (follows.ahead.subset later)) inner
  · obtain ⟨_, -, rest⟩ := (Reply.result_andThen_eq_ok_iff ..).mp read
    obtain ⟨_, -, rest⟩ := (Reply.result_andThen_eq_ok_iff ..).mp rest
    obtain ⟨_, -, rfl⟩ := (Reply.result_map_eq_ok_iff ..).mp rest
    intro expr member
    cases member
  · obtain ⟨body, inner, rest⟩ := (Reply.result_andThen_eq_ok_iff ..).mp read
    obtain rfl := Except.ok.inj rest
    intro expr member
    obtain rfl := List.mem_singleton.mp member
    unfold topLevel
    rw [Reply.after_andThen_of_ok inner]
    exact wellFormed_expression allowed inner

/-- What comes of the next item is sound. -/
theorem sound_nextItem {s after : Session} (consistent : s.Consistent)
    {result : Except Diagnostic Item} (next : nextItem s = (some result, after)) :
    (Outcome.mk result after).Sound := by
  have settled : after.Consistent := by
    have := consistent.afterItem
    rwa [afterItem, next] at this
  unfold nextItem at next
  simp only at next
  have reads := s.passWhile_readsTo fun token => token.kind = .semicolon
  generalize (s.passWhile fun token => decide (token.kind = .semicolon)).2 = start at *
  have lexed := (consistent.reads reads).lexed
  split at next
  · cases next
  · cases held : (item start).result with
    | ok found =>
      simp only [held, Prod.mk.injEq, Option.some.injEq] at next
      obtain ⟨rfl, rfl⟩ := next
      refine ⟨settled, ?_, by simp⟩
      rintro other ⟨⟩
      exact wellFormed_item (fun token member => ⟨lexed token member, fun _ _ _ => trivial⟩) held
    | error diagnostic =>
      simp only [held, Prod.mk.injEq, Option.some.injEq] at next
      obtain ⟨rfl, rfl⟩ := next
      refine ⟨settled, by simp, ?_⟩
      rintro other ⟨⟩
      exact unresolved_item start _ held

/-- What comes of every item of a program is sound. -/
theorem sound_program {s : Session} (consistent : s.Consistent) :
    ∀ outcome ∈ (program s).1, outcome.Sound := by
  fun_induction program s with
  | case1 s after none => simp
  | case2 s result after next outcomes finish rest ih =>
    have sound := sound_nextItem consistent next
    rw [rest] at ih
    intro outcome member
    rcases List.mem_cons.mp member with rfl | later
    · exact sound
    · exact ih sound.consistent outcome later

end Grammar

/-! ## Diagnostics -/

/-- Every event comes of one item. -/
theorem Resolver.mem_outcomes {resolver : Resolver} {outcomes : List Grammar.Outcome}
    {event : Event} (member : event ∈ (resolver.outcomes outcomes).1) :
    ∃ outcome ∈ outcomes, ∃ before : Resolver, (before.outcome outcome).1 = event := by
  induction outcomes generalizing resolver with
  | nil => cases member
  | cons first rest ih =>
    rcases List.mem_cons.mp member with rfl | later
    · exact ⟨first, List.mem_cons_self .., resolver, rfl⟩
    · obtain ⟨outcome, listed, before, same⟩ := ih later
      exact ⟨outcome, List.mem_cons_of_mem _ listed, before, same⟩

/-- An item that is accepted was read, and resolved against the declarations in force after it. -/
theorem Resolver.of_outcome_accepted {resolver : Resolver} {outcome : Grammar.Outcome} {item : Item}
    {handle : Handle} (accepted : (resolver.outcome outcome).1 = .accepted item handle) :
    outcome.result = .ok item ∧
      (resolver.item item outcome.after.declarations).1 = .ok handle := by
  unfold Resolver.outcome at accepted
  split at accepted
  · cases accepted
  · next found read =>
    split at accepted
    · next resolved after resolves =>
      cases accepted
      exact ⟨read, by rw [resolves]⟩
    · cases accepted

/-- Every accepted item of a source was read, and resolved against the declarations after it. -/
theorem mem_accepted_compile {source : String} {item : Item} {handle : Handle}
    (member : (item, handle) ∈ (compile source).accepted) :
    ∃ outcome ∈ (Grammar.program (.ofSource source)).1, outcome.result = .ok item ∧
      ∃ before : Resolver, (before.item item outcome.after.declarations).1 = .ok handle := by
  obtain ⟨event, happens, accepts⟩ := List.mem_filterMap.mp member
  obtain ⟨outcome, listed, before, same⟩ := Resolver.mem_outcomes happens
  cases event with
  | rejected diagnostic => cases accepts
  | accepted found resolved =>
    cases accepts
    obtain ⟨read, resolves⟩ := Resolver.of_outcome_accepted same
    exact ⟨outcome, listed, read, before, resolves⟩

/-- A diagnostic of a compilation is that of an item that cannot be read, or that of one that was
read and cannot be resolved against the declarations in force after it. -/
theorem mem_diagnostics_compile {source : String} {diagnostic : Diagnostic}
    (member : diagnostic ∈ (compile source).diagnostics) :
    ∃ outcome ∈ (Grammar.program (.ofSource source)).1, outcome.result = .error diagnostic ∨
      ∃ item, outcome.result = .ok item ∧
        ∃ before : Resolver, (before.item item outcome.after.declarations).1 = .error diagnostic := by
  obtain ⟨event, happens, rejects⟩ := List.mem_filterMap.mp member
  obtain ⟨outcome, listed, before, same⟩ := Resolver.mem_outcomes happens
  refine ⟨outcome, listed, ?_⟩
  unfold Resolver.outcome at same
  split at same
  · next found failed =>
    subst same
    obtain rfl := Option.some.inj rejects
    exact .inl failed
  · next item read =>
    refine .inr ⟨item, read, before, ?_⟩
    split at same
    · subst same
      cases rejects
    · next found after refused =>
      subst same
      obtain rfl := Option.some.inj rejects
      rw [refused]

end Kaleido
