import Kaleido.Proofs.Comparison
import Kaleido.Proofs.Positions
import Kaleido.Proofs.Registration
import Kaleido.Proofs.Walks

/-!
# Diagnostics in the order of the source

A diagnostic stands at a token that its construct has seen: a reader reports the token in front of it
or one that it has read, and the resolver reports the prototype. What one construct has seen is out
of reach for the next, but for the token at which it stopped. Main statement: every diagnostic of a
compilation stands at a token of its construct, each construct has at most one, and they stand at
later and later places.
-/
namespace Kaleido

/-! ## The tokens of a construct -/

namespace Session

/-- The tokens ahead, with the end of the source. -/
def upcoming (s : Session) : List Token := s.ahead ++ [.finish s.finish]

theorem Follows.upcoming {later earlier : Session} (follows : later.Follows earlier) :
    later.upcoming <:+ earlier.upcoming := by
  obtain ⟨read, same⟩ := follows.ahead
  exact ⟨read, by rw [Session.upcoming, Session.upcoming, follows.finish, ← same, List.append_assoc]⟩

/-- The tokens from one place of a source to a later one, with the token that stands there. -/
def through (start s : Session) : List Token :=
  start.ahead.take (start.remaining - s.remaining) ++ [s.current]

theorem through_eq {start s : Session} {read : List Token} (ahead : start.ahead = read ++ s.ahead) :
    start.through s = read ++ [s.current] := by
  simp [through, remaining, ahead]

theorem current_mem_through (start s : Session) : s.current ∈ start.through s := by
  simp [through]

theorem through_advance {start s : Session} (follows : s.Follows start)
    (more : s.current.kind ≠ .finish) :
    start.through s.advance = start.through s ++ [s.advance.current] := by
  obtain ⟨read, same⟩ := follows.ahead
  have next : start.ahead = (read ++ [s.current]) ++ s.advance.ahead := by
    rw [← same, Grammar.ahead_eq_current more, List.append_assoc]
    rfl
  rw [through_eq next, through_eq same.symm]

theorem upcoming_eq_current (s : Session) : ∃ rest, s.upcoming = s.current :: rest := by
  unfold upcoming current
  cases s.ahead with
  | nil => exact ⟨[], rfl⟩
  | cons token rest => exact ⟨rest ++ [.finish s.finish], rfl⟩

theorem through_isPrefix {start s : Session} (follows : s.Follows start) :
    start.through s <+: start.upcoming := by
  obtain ⟨read, same⟩ := follows.ahead
  obtain ⟨rest, next⟩ := s.upcoming_eq_current
  refine ⟨rest, ?_⟩
  rw [through_eq same.symm, List.append_assoc, List.singleton_append, ← next, upcoming, upcoming,
    follows.finish, ← same, List.append_assoc]

/-- A token that is no longer ahead was read. -/
theorem current_mem_read {s after : Session} {read : List Token}
    (ahead : s.ahead = read ++ after.ahead) (fewer : after.remaining < s.remaining) :
    s.current ∈ read := by
  cases read with
  | nil =>
    rw [remaining, remaining, ahead, List.nil_append] at fewer
    exact absurd fewer (Nat.lt_irrefl _)
  | cons first read => simp [current, ahead]

end Session

namespace Grammar

/-! ## Where readers report -/

/-- A session is held against itself, and the positions told are those of the tokens that it has
seen since a start. -/
def seenSince (start : Session) : Comparison where
  sessions _ _ := True
  inside s t := t = s ∧ s.Follows start ∧ ∃ token ∈ start.through s, s.previous = some token
  positions s _ p q := q = p ∧ ∃ token ∈ start.through s, token.position = p

section
variable {start s : Session}

theorem meets_seenSince (follows : s.Follows start) : (seenSince start).Meets s s where
  sessions := trivial
  kind := rfl
  lexeme := rfl
  operators := rfl
  position := ⟨rfl, s.current, start.current_mem_through s, rfl⟩
  advance inner := by
    refine ⟨rfl, s.advance_follows.trans follows, s.current, ?_, rfl⟩
    rw [Session.through_advance follows (kind_ne_finish_of_divides inner)]
    exact List.mem_append_left _ (start.current_mem_through s)
  keeps inner := by
    rintro p _ ⟨rfl, token, seen, rfl⟩
    refine ⟨rfl, token, ?_, rfl⟩
    rw [Session.through_advance follows (kind_ne_finish_of_divides inner)]
    exact List.mem_append_left _ seen

/-- A prototype is refused where it stands. -/
theorem position_of_refused {declared : Prototype} {diagnostic : Diagnostic}
    (refused : (s.register declared).1 = .error diagnostic) :
    diagnostic.position = declared.position := by
  obtain ⟨inForce, -, -, place⟩ := Session.register_eq_error refused
  exact place

theorem declare_seenSince (inside : (seenSince start).inside s s) {declared : Prototype}
    (seen : (seenSince start).positions s s declared.position declared.position) :
    (seenSince start).Corresponds (fun _ _ => True) (declare declared s) (declare declared s) := by
  obtain ⟨-, follows, token, member, previous⟩ := inside
  rcases registered : s.register declared with ⟨diagnostic | _, after⟩
  · have refused := congrArg Prod.fst registered
    rw [declare_of_error refused]
    refine Comparison.corresponds_fail (meets_seenSince follows) rfl ?_
    rw [position_of_refused refused]
    exact seen
  · obtain ⟨inForce, declarations, -, rfl⟩ := Session.register_eq_ok registered
    rw [declare_of_ok registered]
    refine .ok rfl rfl trivial ?_ fun _ _ before => before
    exact ⟨rfl, (Session.register_follows registered).trans follows, token, member, previous⟩

theorem stepwise_seenSince (start : Session) : (seenSince start).Stepwise where
  meets := by
    rintro s _ ⟨rfl, follows, -⟩
    exact meets_seenSince follows
  previous := by
    rintro s _ ⟨rfl, follows, token, member, previous⟩
    rw [previous]
    exact ⟨rfl, token, member, rfl⟩
  name := by
    rintro s _ ⟨rfl, -⟩
    rfl
  declare := by
    rintro s _ p q ⟨rfl, inside⟩ same ⟨place, seen⟩
    obtain rfl := Prototype.eq_of_unplaced same place
    exact declare_seenSince ⟨rfl, inside⟩ ⟨rfl, seen⟩

end

/-- An item that cannot be read is reported at one of the tokens from its first one to the one at
which its reader stopped. -/
theorem position_of_item_error {s : Session} {diagnostic : Diagnostic}
    (failed : (item s).result = .error diagnostic) :
    ∃ token ∈ s.through (item s).after, token.position = diagnostic.position := by
  cases (stepwise_seenSince s).item (meets_seenSince (.refl s)) with
  | ok left => cases left.symm.trans failed
  | error left right cause meets positions =>
    cases left.symm.trans failed
    exact positions.2

/-- An item that was read stands at its prototype, or at the start of its expression. -/
theorem position_of_item {s : Session} {found : Item} (read : (item s).result = .ok found) :
    found.prototype.position = itemPlace s := by
  cases (stepwise_seenSince s).item (meets_seenSince (.refl s)) with
  | ok left right same =>
    cases left.symm.trans read
    exact same.2.1
  | error left => cases left.symm.trans read

/-! ## What a construct leaves behind -/

theorem consumes_prototype (s : Session) : Consumes (prototype s) := by
  unfold prototype
  simp only
  split
  · exact consumes_andThen (consumes_take (by simp [*])) _
  · exact consumes_andThen (consumes_take (by simp [*])) _
  · exact consumes_andThen (consumes_take (by simp [*])) _
  · exact consumes_fail _

/-- A declaration that was read has a token after its keyword. -/
theorem remaining_item_of_begins {s : Session} (begins : beginsDeclaration s.current.kind)
    {found : Item} (read : (item s).result = .ok found) :
    (item s).after.remaining < s.advance.remaining := by
  cases answers_item s with
  | unread _ failed result after => cases result.symm.trans read
  | refused _ given refuses result after => cases result.symm.trans read
  | external keyword given registers result =>
    exact Nat.lt_of_le_of_lt (Session.register_follows registers).le (consumes_prototype _ _ given)
  | definition keyword given registers result after =>
    rw [after]
    refine Nat.lt_of_le_of_lt ?_ (consumes_prototype _ _ given)
    exact (Reply.follows _).le.trans (Session.register_follows registers).le
  | expression plain result after => cases plain.symm.trans begins

/-- The token at which an item stands is among those that were read for it. -/
theorem place_of_item {s : Session} {found : Item} (given : (item s).result = .ok found) :
    ∃ read, s.ahead = read ++ (item s).after.ahead ∧
      ∃ token ∈ read, token.position = found.prototype.position := by
  obtain ⟨read, same⟩ := (item s).follows.ahead
  refine ⟨read, same.symm, ?_⟩
  rw [position_of_item given, itemPlace]
  -- A declaration stands at its second token, any other item at its first.
  split
  · next begins =>
    have fewer := remaining_item_of_begins begins given
    cases read with
    | nil =>
      rw [List.nil_append] at same
      rw [Session.remaining_advance, Session.remaining, Session.remaining, same] at fewer
      omega
    | cons first read =>
      have rest : s.advance.ahead = read ++ (item s).after.ahead := by
        simp [Session.advance, ← same]
      have member := Session.current_mem_read rest fewer
      exact ⟨_, List.mem_cons_of_mem _ member, rfl⟩
  · exact ⟨_, Session.current_mem_read same.symm (consumes_item s found given), rfl⟩

/-- The tokens of the next construct: from its first one to the one at which its reader stops. -/
def construct (s : Session) : List Token := (opening s).through (stop s)

theorem construct_isInfix (s : Session) : construct s <:+: s.upcoming :=
  (Session.through_isPrefix (item (opening s)).follows).isInfix.trans
    (readsTo_opening s).follows.upcoming.isInfix

/-- That something is reported at a token of the next construct, which is left behind by it unless
the source has come to its end. -/
def ReportedAt (s : Session) (position : Position) : Prop :=
  ∃ token ∈ construct s, token.position = position ∧
    ((∃ read, s.ahead = read ++ (afterItem s).ahead ∧ token ∈ read) ∨ (afterItem s).ahead = [])

/-- What was read for a construct was read after the semicolons before it. -/
theorem ahead_of_opening {s after : Session} {read : List Token}
    (ahead : (opening s).ahead = read ++ after.ahead) :
    ∃ passed, s.ahead = passed ++ read ++ after.ahead := by
  obtain ⟨passed, same⟩ := (readsTo_opening s).follows.ahead
  exact ⟨passed, by rw [← same, ahead, List.append_assoc]⟩

theorem reportedAt_of_error {s : Session} {diagnostic : Diagnostic}
    (failed : (nextItem s).1 = some (.error diagnostic)) : ReportedAt s diagnostic.position := by
  obtain ⟨refused, after⟩ := afterItem_of_error failed
  obtain ⟨token, member, place⟩ := position_of_item_error refused
  refine ⟨token, member, place, ?_⟩
  obtain ⟨read, same⟩ := (item (opening s)).follows.ahead
  rw [Session.through_eq same.symm] at member
  obtain ⟨passed, ahead⟩ := ahead_of_opening same.symm
  rw [after]
  -- The token at which the reader stopped is dropped, unless it is the end.
  cases left : (stop s).ahead with
  | nil =>
    right
    rw [Session.advance, left, List.tail_nil]
  | cons next rest =>
    left
    have here : (stop s).current = next := by rw [Session.current, left]
    refine ⟨passed ++ (read ++ [next]), ?_, List.mem_append_right _ (here ▸ member)⟩
    rw [ahead, show (item (opening s)).after.ahead = next :: rest from left, Session.advance, left]
    simp

theorem reportedAt_of_ok {s : Session} {found : Item}
    (read : (nextItem s).1 = some (.ok found)) : ReportedAt s found.prototype.position := by
  obtain ⟨given, after⟩ := afterItem_of_ok read
  obtain ⟨taken, same, token, member, place⟩ := place_of_item given
  obtain ⟨passed, ahead⟩ := ahead_of_opening same
  refine ⟨token, ?_, place, .inl ⟨passed ++ taken, ?_, List.mem_append_right _ member⟩⟩
  · rw [construct, stop, Session.through_eq same]
    exact List.mem_append_left _ member
  · rw [after]
    exact ahead

end Grammar

/-! ## Where the resolver reports -/

/-- That a part of a walk ends at a given place, if it ends by an error. -/
def WalkM.FailsAt {α : Type} (part : WalkM α) (position : Position) : Prop :=
  ∀ walk diagnostic, (part walk).1 = .error diagnostic → diagnostic.position = position

namespace Walk

variable {position : Position}

theorem failsAt_pure {α : Type} (a : α) : (pure a : WalkM α).FailsAt position := by
  intro walk diagnostic failed
  cases failed

theorem failsAt_bind {α β : Type} {part : WalkM α} {next : α → WalkM β}
    (first : part.FailsAt position) (second : ∀ a, (next a).FailsAt position) :
    (part >>= next).FailsAt position := by
  intro walk diagnostic failed
  rcases error_of_bind failed with ended | ⟨a, after, later⟩
  · exact first walk diagnostic ended
  · exact second a after diagnostic later

theorem failsAt_refer (name : String) (access : Access) :
    (refer position name access).FailsAt position := by
  intro walk diagnostic failed
  unfold refer at failed
  split at failed
  · obtain rfl := Except.error.inj failed
    rfl
  · cases failed

theorem failsAt_call (declarations : Declarations) (name : String) (received : Nat) :
    (call declarations position name received).FailsAt position := by
  intro walk diagnostic failed
  unfold call at failed
  split at failed
  · obtain rfl := Except.error.inj failed
    rfl
  · split at failed
    · cases failed
    · obtain rfl := Except.error.inj failed
      rfl

theorem parallel_failsAt (declarations : Declarations) (position : Position) :
    Parallel (fun part _ => part.FailsAt position) declarations declarations position position where
  pure := failsAt_pure
  bind := failsAt_bind
  within _ _ _ inner := fun _ diagnostic failed => inner _ diagnostic failed
  allocate _ _ := by
    intro walk diagnostic failed
    cases failed
  bindName _ _ := by
    intro walk diagnostic failed
    cases failed
  refer := failsAt_refer
  call := failsAt_call declarations

end Walk

namespace Resolver

/-- A function is refused where its prototype stands. -/
theorem position_of_function_error {resolver : Resolver} {function : Function}
    {declarations : Declarations} {diagnostic : Diagnostic}
    (failed : (resolver.function function declarations).1 = .error diagnostic) :
    diagnostic.position = function.prototype.position := by
  unfold Resolver.function at failed
  simp only at failed
  split at failed
  · obtain rfl := Except.error.inj failed
    rfl
  · split at failed
    · next found walk held =>
      obtain rfl := Except.error.inj failed
      exact (Walk.parallel_failsAt declarations function.prototype.position).body _ _ _ found
        (congrArg Prod.fst held)
    · cases failed

theorem position_of_item_error {resolver : Resolver} {item : Item} {declarations : Declarations}
    {diagnostic : Diagnostic} (failed : (resolver.item item declarations).1 = .error diagnostic) :
    diagnostic.position = item.prototype.position := by
  cases item with
  | definition function => exact position_of_function_error failed
  | expression function => exact position_of_function_error failed
  | external prototype => cases failed

end Resolver

/-! ## Diagnostics -/

/-- The diagnostic of an event, if it has one. -/
def Event.diagnostic? : Event → Option Diagnostic
  | .rejected diagnostic => some diagnostic
  | .accepted .. => none

theorem Compilation.diagnostics_eq (compilation : Compilation) :
    compilation.diagnostics = compilation.events.filterMap Event.diagnostic? := rfl

/-- An event is what the resolver makes of an outcome after those before it. -/
theorem Resolver.getElem?_outcomes (resolver : Resolver) (outcomes : List Grammar.Outcome)
    (i : Nat) : (resolver.outcomes outcomes).1[i]? = outcomes[i]?.map fun outcome =>
      ((resolver.outcomes (outcomes.take i)).2.outcome outcome).1 := by
  induction outcomes generalizing resolver i with
  | nil => rfl
  | cons first rest ih =>
    cases i with
    | zero => rfl
    | succ i => exact ih (resolver.outcome first).2 i

namespace Grammar

/-- What is reported of the next construct, read or resolved, if anything is. -/
def refused? (resolver : Resolver) (s : Session) : Option Diagnostic :=
  (nextItem s).1.bind fun result => (resolver.outcome ⟨result, afterItem s⟩).1.diagnostic?

/-- The resolver after a number of items of a source. -/
def resolverAfter (source : String) (count : Nat) : Resolver :=
  (Resolver.outcomes {} ((program (.ofSource source)).1.take count)).2

/-- What is reported of one of the constructs of a source. -/
def reported? (source : String) (i : Nat) : Option Diagnostic :=
  refused? (resolverAfter source i) (afterItems source i)

theorem reportedAt_of_refused {resolver : Resolver} {s : Session} {diagnostic : Diagnostic}
    (refused : refused? resolver s = some diagnostic) : ReportedAt s diagnostic.position := by
  obtain ⟨result, found, event⟩ := Option.bind_eq_some_iff.mp refused
  cases result with
  | error diagnostic =>
    obtain rfl := Option.some.inj event
    exact reportedAt_of_error found
  | ok item =>
    unfold Resolver.outcome at event
    simp only at event
    split at event
    · cases event
    · next unresolved after held =>
      obtain rfl := Option.some.inj event
      rw [Resolver.position_of_item_error (congrArg Prod.fst held)]
      exact reportedAt_of_ok found

/-- The event of a construct is what the resolver makes of it. -/
theorem getElem?_events (source : String) (i : Nat) :
    (compile source).events[i]? = (nextItem (afterItems source i)).1.map fun result =>
      ((resolverAfter source i).outcome ⟨result, afterItem (afterItems source i)⟩).1 := by
  show (Resolver.outcomes {} (program (.ofSource source)).1).1[i]? = _
  rw [Resolver.getElem?_outcomes, getElem?_program, Option.map_map, ← afterItems_succ]
  rfl

theorem isSome_nextItem_iff (source : String) (i : Nat) :
    (nextItem (afterItems source i)).1.isSome ↔ i < (compile source).events.length := by
  rw [← Nat.not_le, ← List.getElem?_eq_none_iff, getElem?_events, Option.map_eq_none_iff,
    Option.isSome_iff_ne_none]

/-- The elements that a function gives for a list are those that it gives for its places. -/
theorem filterMap_eq_range {α β : Type} (f : α → Option β) (list : List α) :
    list.filterMap f = (List.range list.length).filterMap fun i => list[i]?.bind f := by
  induction list with
  | nil => rfl
  | cons first rest ih =>
    rw [List.length_cons, List.range_succ_eq_map, List.filterMap_cons, List.filterMap_cons,
      List.filterMap_map, ih]
    rfl

/-- Every construct has its own diagnostic or none. -/
theorem diagnostics_eq_reported (source : String) : (compile source).diagnostics =
    (List.range (compile source).events.length).filterMap (reported? source) := by
  have same : (fun i => (compile source).events[i]?.bind Event.diagnostic?) = reported? source := by
    funext i
    rw [getElem?_events, Option.bind_map]
    rfl
  rw [Compilation.diagnostics_eq, filterMap_eq_range, same]

theorem follows_iterate (s : Session) (more : Nat) : (afterItem^[more] s).Follows s := by
  induction more with
  | zero => exact .refl s
  | succ more ih =>
    rw [Function.iterate_succ_apply']
    exact (passes_afterItem _).follows.trans ih

theorem follows_afterItems (source : String) {i j : Nat} (le : i ≤ j) :
    (afterItems source j).Follows (afterItems source i) := by
  obtain ⟨more, rfl⟩ := Nat.exists_eq_add_of_le' le
  rw [afterItems, Function.iterate_add_apply]
  exact follows_iterate _ more

theorem upcoming_afterItems (source : String) (i : Nat) :
    (afterItems source i).upcoming <:+ tokenize source :=
  (follows_afterItems source (Nat.zero_le i)).upcoming

/-- At the end of the source nothing is reported. -/
theorem refused?_of_end {resolver : Resolver} {s : Session} (ended : s.ahead = []) :
    refused? resolver s = none := by
  have finish : (opening s).current.kind = .finish := by
    simp [opening, Session.passWhile, Session.current, ended]
  rw [refused?, nextItem_eq, if_pos finish]
  rfl

/-- What is reported of a construct stands before what is reported of a later one. -/
theorem reported_before {source : String} (short : source.length < 2 ^ 32 - 1) {i j : Nat}
    (lt : i < j) {first second : Diagnostic} (earlier : reported? source i = some first)
    (later : reported? source j = some second) : first.position.Before second.position := by
  obtain ⟨token, -, place, behind⟩ := reportedAt_of_refused earlier
  obtain ⟨other, member, place', -⟩ := reportedAt_of_refused later
  have follows : (afterItems source j).Follows (afterItem (afterItems source i)) := by
    rw [← afterItems_succ]
    exact follows_afterItems source lt
  rcases behind with ⟨read, ahead, taken⟩ | ended
  · -- The tokens are divided where the first construct ends.
    have ahead' := follows.upcoming.subset ((construct_isInfix _).subset member)
    have sorted := (tokenize_in_order short).sublist (upcoming_afterItems source i).sublist
    rw [Session.upcoming, ahead, List.append_assoc] at sorted
    rw [← place, ← place']
    refine (List.pairwise_append.mp sorted).2.2 token taken other ?_
    rw [← (passes_afterItem (afterItems source i)).follows.finish]
    exact ahead'
  · -- Nothing follows a construct that was read to the end of the source.
    have none : (afterItems source j).ahead = [] := by
      have := follows.ahead
      rw [ended] at this
      exact List.suffix_nil.mp this
    rw [reported?, refused?_of_end none] at later
    cases later

end Grammar

open Grammar in
/-- The diagnostics of a source that is not too long. There is at most one for each construct. It
stands at one of the tokens of the source, from the first token of the construct to the one at which
its reader stopped, and before the diagnostics of all later constructs. -/
theorem diagnostics_in_source_order {source : String} (short : source.length < 2 ^ 32 - 1) :
    (∃ total, (∀ i, (nextItem (afterItems source i)).1.isSome ↔ i < total) ∧
      (compile source).diagnostics = (List.range total).filterMap (reported? source)) ∧
    (∀ i, construct (afterItems source i) <:+: tokenize source) ∧
    (∀ i diagnostic, reported? source i = some diagnostic →
      ∃ token ∈ construct (afterItems source i), token.position = diagnostic.position) ∧
    (compile source).diagnostics.Pairwise fun first second =>
      first.position.Before second.position := by
  refine ⟨⟨_, isSome_nextItem_iff source, diagnostics_eq_reported source⟩, ?_, ?_, ?_⟩
  · intro i
    exact (construct_isInfix _).trans (upcoming_afterItems source i).isInfix
  · intro i diagnostic reported
    obtain ⟨token, member, place, -⟩ := reportedAt_of_refused reported
    exact ⟨token, member, place⟩
  · rw [diagnostics_eq_reported, List.pairwise_filterMap]
    refine List.pairwise_lt_range.imp ?_
    intro i j lt first earlier second later
    exact reported_before short lt earlier later

/-- An assignment to a number, an unknown variable and a parenthesis that is not closed: two of the
diagnostics are those of readers, one is that of the resolver. -/
theorem diagnostics_in_source_order_mixed :
    (compile "1 = 2;\n x; (1").diagnostics =
      [⟨.invalidAssignmentTarget, ⟨1, 3⟩⟩, ⟨.variableNotDeclared "x", ⟨2, 2⟩⟩,
        ⟨.expectedToken ")" "End", ⟨2, 6⟩⟩] ∧
    (compile "1 = 2;\n x; (1").diagnostics.Pairwise fun first second =>
      first.position.Before second.position := by
  refine ⟨?_, (diagnostics_in_source_order (by decide +kernel)).2.2.2⟩
  with_unfolding_all rfl

end Kaleido
