import Kaleido.Compilation
import Kaleido.Proofs.Extent

/-!
# Reading comes to an end

A session goes through the tokens of its source from the first to the last. Main statement: every
item, read or not, takes at least one token, so there are no more items than tokens; each of them
gives one event, and when only semicolons are left nothing changes any more.
-/
namespace Kaleido

/-! ## The place in the tokens -/

theorem tokenize_eq (source : String) : tokenize source =
    (Session.ofSource source).ahead ++ [.finish (Session.ofSource source).finish] := rfl

/-- A source has as many tokens before the end as its first session has ahead. -/
theorem countP_tokenize (source : String) :
    (tokenize source).countP (·.kind ≠ .finish) = (Session.ofSource source).remaining := by
  have kinds : ∀ token ∈ (Session.ofSource source).ahead, token.kind ≠ .finish :=
    fun _ member => (Cursor.mem_scan member).1
  rw [tokenize_eq, List.countP_append, List.countP_eq_length.mpr (by simpa using kinds)]
  simp [Session.remaining, Token.finish]

namespace Session

theorem Reached.follows {source : String} {s : Session} (reached : s.Reached source) :
    s.Follows (.ofSource source) := by
  induction reached with
  | start => exact .refl _
  | advance before ih => exact (advance_follows _).trans ih
  | declare before read registers ih =>
    exact ((register_follows registers).trans (Reply.follows _)).trans ih

/-- What is ahead of a session of a source is the last part of its tokens. -/
theorem Reached.tokens {source : String} {s : Session} (reached : s.Reached source) :
    ∃ read, tokenize source = read ++ s.ahead ++ [.finish s.finish] := by
  obtain ⟨read, same⟩ := reached.follows.ahead
  exact ⟨read, by rw [tokenize_eq, ← same, reached.follows.finish]⟩

theorem Reached.kinds {source : String} {s : Session} (reached : s.Reached source) :
    ∀ token ∈ s.ahead, token.kind ≠ .finish :=
  fun _ member => (Cursor.mem_scan (reached.follows.ahead.subset member)).1

/-- Tokens that were passed over are not there to be passed over again. -/
theorem passWhile_passWhile (s : Session) (condition : Token → Bool) :
    ((s.passWhile condition).2.passWhile condition).2 = (s.passWhile condition).2 := by
  have stops := List.dropWhile_get_zero_not condition s.ahead
  have none : (s.ahead.dropWhile condition).takeWhile condition = [] :=
    List.takeWhile_eq_nil_iff.mpr stops
  have same : (s.ahead.dropWhile condition).dropWhile condition = s.ahead.dropWhile condition :=
    List.dropWhile_eq_self_iff.mpr stops
  simp only [passWhile, none, same, List.getLast?_nil, Option.none_or]

end Session

namespace Grammar

/-! ## Items -/

theorem Passes.follows {s after : Session} (passes : Passes s after) : after.Follows s := by
  cases passes with
  | reads reads => exact reads.follows
  | declares before read registers rest =>
    exact rest.follows.trans
      (((Session.register_follows registers).trans (Reply.follows _)).trans before.follows)

/-- The next item takes tokens from the front, and at least one if there is an item. -/
theorem passed_afterItem (s : Session) : ∃ passed, s.ahead = passed ++ (afterItem s).ahead ∧
    ((nextItem s).1.isSome → passed ≠ []) := by
  obtain ⟨passed, same⟩ := (passes_afterItem s).follows.ahead
  refine ⟨passed, same.symm, ?_⟩
  rintro found rfl
  have fewer := remaining_nextItem_lt s (Option.isSome_iff_ne_none.mp found)
  rw [List.nil_append] at same
  simp only [Session.remaining, ← same] at fewer
  exact Nat.lt_irrefl _ fewer

/-- Where there is no item, semicolons are passed over and nothing else happens. -/
theorem nextItem_eq_none {s : Session} (ended : (nextItem s).1 = none) :
    nextItem s = (none, (s.passWhile fun token => token.kind = .semicolon).2) := by
  unfold nextItem at ended ⊢
  simp only at ended ⊢
  split at ended
  · next finish => rw [if_pos finish]
  · split at ended <;> cases ended

/-- There is an item as long as there is a token other than a semicolon. -/
theorem nextItem_eq_none_iff {s : Session} (kinds : ∀ token ∈ s.ahead, token.kind ≠ .finish) :
    (nextItem s).1 = none ↔ ∀ token ∈ s.ahead, token.kind = .semicolon := by
  have passed : (s.passWhile fun token => token.kind = .semicolon).2.current.kind = .finish ↔
      ∀ token ∈ s.ahead, token.kind = .semicolon := by
    unfold Session.current Session.passWhile
    cases ahead : s.ahead.dropWhile fun token => token.kind = .semicolon with
    | nil => simpa using ahead
    | cons token rest =>
      have left := List.dropWhile_suffix (l := s.ahead) fun token => token.kind = .semicolon
      have member : token ∈ s.ahead := left.subset (by simp [ahead])
      have more : s.ahead.dropWhile (fun token => token.kind = .semicolon) ≠ [] := by simp [ahead]
      simpa [kinds token member] using more
  rw [← passed]
  unfold nextItem
  simp only
  split
  · next finish => simp [finish]
  · next more =>
    split
    · simp [more]
    · simp [more]

/-- At the end of the source there is no item, however often one is asked for. -/
theorem nextItem_again {s : Session} (ended : (nextItem s).1 = none) :
    nextItem (afterItem s) = (none, afterItem s) := by
  have same := nextItem_eq_none ended
  have start : afterItem s = (s.passWhile fun token => token.kind = .semicolon).2 := by
    rw [afterItem, same]
  unfold nextItem at same
  simp only at same
  rw [start]
  split at same
  · next finish =>
    unfold nextItem
    simp only [Session.passWhile_passWhile, finish, if_true]
  · split at same <;> cases same

/-- From the end of the source on, asking for items changes nothing. -/
theorem afterItem_iterate {s : Session} (ended : (nextItem s).1 = none) (count : Nat) :
    (nextItem (afterItem^[count] s)).1 = none ∧
      (afterItem^[count] s).operators = s.operators ∧
      (afterItem^[count] s).declarations = s.declarations := by
  have reads := s.passWhile_readsTo fun token => token.kind = .semicolon
  have start : afterItem s = (s.passWhile fun token => token.kind = .semicolon).2 := by
    rw [afterItem, nextItem_eq_none ended]
  have again := congrArg Prod.snd (nextItem_again ended)
  have fixed : afterItem (afterItem s) = afterItem s := again
  cases count with
  | zero => exact ⟨ended, rfl, rfl⟩
  | succ count =>
    rw [Function.iterate_succ_apply, Function.iterate_fixed fixed, nextItem_again ended, start]
    exact ⟨rfl, reads.operators, reads.declarations⟩

/-- A program has an outcome for each item up to the end of the source, and ends there. -/
theorem items_of_program (s : Session) :
    (∀ i < (program s).1.length, (nextItem (afterItem^[i] s)).1.isSome) ∧
      (nextItem (afterItem^[(program s).1.length] s)).1 = none ∧
      (program s).1.length ≤ s.remaining := by
  fun_induction program s with
  | case1 s after none => simp [none]
  | case2 s result after next outcomes finish rest ih =>
    have step : afterItem s = after := by rw [afterItem, next]
    rw [rest] at ih
    obtain ⟨some, none, bound⟩ := ih
    have fewer := remaining_nextItem_lt s (by simp [next])
    rw [next] at fewer
    refine ⟨fun i before => ?_, ?_, ?_⟩
    · cases i with
      | zero => simp [next]
      | succ i =>
        rw [Function.iterate_succ_apply, step]
        exact some i (by simpa using before)
    · rw [List.length_cons, Function.iterate_succ_apply, step]
      exact none
    · rw [List.length_cons]
      simp only at bound fewer
      omega

/-- The outcome at a place of a program is that of the item there, with the session after it. -/
theorem getElem?_program (s : Session) (i : Nat) :
    (program s).1[i]? = (nextItem (afterItem^[i] s)).1.map (⟨·, afterItem^[i + 1] s⟩) := by
  fun_induction program s generalizing i with
  | case1 s after none =>
    have ended := (afterItem_iterate (congrArg Prod.fst none) i).1
    simp [ended]
  | case2 s result after next outcomes finish rest ih =>
    have step : afterItem s = after := by rw [afterItem, next]
    cases i with
    | zero => simp [next, step]
    | succ i =>
      have shift : ∀ count, afterItem^[count + 1] s = afterItem^[count] after := by
        intro count
        rw [Function.iterate_succ_apply, step]
      rw [shift, shift, ← ih i, rest]
      rfl

/-- A program ends where no item was found after its last one. -/
theorem program_snd (s : Session) : (program s).2 = afterItem^[(program s).1.length + 1] s := by
  fun_induction program s with
  | case1 s after none => simp [afterItem, none]
  | case2 s result after next outcomes finish rest ih =>
    have step : afterItem s = after := by rw [afterItem, next]
    rw [List.length_cons, Function.iterate_succ_apply, step]
    rw [rest] at ih
    exact ih

/-! ## What is done with the items -/

/-- What comes of items that are handed on, each after it was read, to something that keeps a state
and can refuse them. -/
def handOn {σ η : Type} (backend : σ → Item → Declarations → Except Diagnostic η × σ) :
    σ → List Outcome → List (Except Diagnostic (Item × η)) × σ
  | state, [] => ([], state)
  | state, ⟨.error diagnostic, _⟩ :: rest =>
    let (later, finish) := handOn backend state rest
    (.error diagnostic :: later, finish)
  | state, ⟨.ok item, after⟩ :: rest =>
    let (handle, state) := backend state item after.declarations
    let (later, finish) := handOn backend state rest
    (handle.map (item, ·) :: later, finish)

theorem length_handOn {σ η : Type} (backend : σ → Item → Declarations → Except Diagnostic η × σ)
    (state : σ) (outcomes : List Outcome) :
    (handOn backend state outcomes).1.length = outcomes.length := by
  fun_induction handOn backend state outcomes with
  | case1 => rfl
  | case2 _ _ _ _ _ _ same ih => simpa [same] using ih
  | case3 _ _ _ _ _ _ _ _ _ same ih => simpa [same] using ih

end Grammar

/-- The event that says what came of an item. -/
def Event.ofResult : Except Diagnostic (Item × Handle) → Event
  | .ok (item, handle) => .accepted item handle
  | .error diagnostic => .rejected diagnostic

/-- A compilation hands each item on to the resolver. -/
theorem Resolver.outcomes_eq_handOn (resolver : Resolver) (outcomes : List Grammar.Outcome) :
    resolver.outcomes outcomes =
      ((Grammar.handOn Resolver.item resolver outcomes).1.map .ofResult,
        (Grammar.handOn Resolver.item resolver outcomes).2) := by
  induction outcomes generalizing resolver with
  | nil => rfl
  | cons first rest ih =>
    obtain ⟨result, after⟩ := first
    cases result with
    | error diagnostic => simp [outcomes, outcome, ih, Grammar.handOn, Event.ofResult]
    | ok item =>
      simp only [outcomes, outcome, ih, Grammar.handOn]
      generalize resolver.item item after.declarations = answer
      obtain ⟨handle, next⟩ := answer
      cases handle with
      | ok handle => simp [Event.ofResult, Except.map]
      | error diagnostic => simp [Event.ofResult, Except.map]

theorem Compilation.length_accepted_add_length_diagnostics (compilation : Compilation) :
    compilation.accepted.length + compilation.diagnostics.length = compilation.events.length := by
  unfold accepted diagnostics
  induction compilation.events with
  | nil => rfl
  | cons event rest ih =>
    cases event with
    | accepted item handle =>
      simp only [List.filterMap_cons, List.length_cons]
      omega
    | rejected diagnostic =>
      simp only [List.filterMap_cons, List.length_cons]
      omega

open Grammar in
/-- The tokens of a source are gone through from the first to the last, every item takes at least
one, and there is an item until only semicolons are left. So there are no more items than tokens, as
many of them are accepted and rejected as there are, whatever they are handed on to, and after the
last one nothing changes. -/
theorem items_come_to_an_end (source : String) :
    (∀ s : Session, s.Reached source →
      ∃ read, tokenize source = read ++ s.ahead ++ [.finish s.finish]) ∧
    (∀ s : Session, s.Reached source → ∃ passed, s.ahead = passed ++ (afterItem s).ahead ∧
      ((nextItem s).1.isSome → ∃ token ∈ passed, token.kind ≠ .finish)) ∧
    (∀ s : Session, s.Reached source →
      ((nextItem s).1 = none ↔ ∀ token ∈ s.ahead, token.kind = .semicolon)) ∧
    ∃ total ≤ (tokenize source).countP (·.kind ≠ .finish),
      (∀ i < total, (nextItem (afterItems source i)).1.isSome) ∧
      (∀ i ≥ total, (nextItem (afterItems source i)).1 = none ∧
        (afterItems source i).operators = (afterItems source total).operators ∧
        (afterItems source i).declarations = (afterItems source total).declarations) ∧
      (compile source).accepted.length + (compile source).diagnostics.length = total ∧
      ∀ (σ η : Type) (backend : σ → Item → Declarations → Except Diagnostic η × σ) (state : σ),
        (handOn backend state (program (.ofSource source)).1).1.length = total := by
  refine ⟨fun s reached => reached.tokens, fun s reached => ?_,
    fun s reached => nextItem_eq_none_iff reached.kinds, ?_⟩
  · obtain ⟨passed, ahead, some⟩ := passed_afterItem s
    refine ⟨passed, ahead, fun found => ?_⟩
    obtain ⟨token, rest, rfl⟩ := List.exists_cons_of_ne_nil (some found)
    exact ⟨token, by simp, reached.kinds token (by simp [ahead])⟩
  · obtain ⟨some, none, bound⟩ := items_of_program (.ofSource source)
    refine ⟨(program (.ofSource source)).1.length, by rwa [countP_tokenize], some, ?_, ?_, ?_⟩
    · intro i later
      obtain ⟨more, rfl⟩ := Nat.exists_eq_add_of_le' later
      rw [afterItems, Function.iterate_add_apply]
      exact afterItem_iterate none more
    · rw [Compilation.length_accepted_add_length_diagnostics]
      simp only [compile, Resolver.outcomes_eq_handOn, List.length_map, length_handOn]
    · intro σ η backend state
      exact length_handOn backend state _

end Kaleido
