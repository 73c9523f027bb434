import Kaleido.Proofs.Termination

/-!
# Going on after an item that was refused

After an item that cannot be read one token is dropped, whatever it is. Where the reader stopped in
front of the token at fault it is that one, but an item can also be refused for tokens that were all
read before. Main statement: what follows a refused item is read from its first token exactly if a
semicolon or nothing comes first.
-/
namespace Kaleido

/-- Whether a cause is found in a prototype as a whole, after its closing parenthesis. -/
def Cause.refusesPrototype : Cause → Bool
  | .invalidOperandCount .. | .conflictingPrototype .. | .conflictingPrecedence .. => true
  | _ => false

namespace Grammar

/-! ## Where a refused prototype was read to -/

/-- That the token read last is a closing parenthesis. -/
def Closes (s : Session) : Prop := ∃ closing, s.previous = some closing ∧ closing.kind = .rightParen

/-- That a prototype which is refused as a whole was read to its closing parenthesis. -/
def RefusesClosed (diagnostic : Diagnostic) (after : Session) : Prop :=
  diagnostic.cause.refusesPrototype → Closes after

theorem refusesClosed_of_other {diagnostic : Diagnostic}
    (other : diagnostic.cause.refusesPrototype = false) (after : Session) :
    RefusesClosed diagnostic after := by
  intro refuses
  rw [other] at refuses
  cases refuses

theorem refusesClosed_expect (s : Session) (wanted : Kind → Bool) (expected : String) :
    (s.expect wanted expected).FailsBy RefusesClosed := by
  unfold Session.expect
  split
  · exact .of_ok rfl
  · exact .fail (refusesClosed_of_other rfl _)

theorem refusesClosed_declaredOperator (s : Session) :
    (declaredOperator s).FailsBy RefusesClosed := by
  unfold declaredOperator
  split
  · exact .fail (refusesClosed_of_other rfl _)
  · exact .fail (refusesClosed_of_other rfl _)
  · exact .of_ok rfl

theorem refusesClosed_optionalPrecedence (s : Session) :
    (optionalPrecedence s).FailsBy RefusesClosed := by
  unfold optionalPrecedence
  split
  · refine .map (.andThen (.of_ok rfl) fun token _ => ?_) _
    split
    · exact .of_ok rfl
    · exact .fail (refusesClosed_of_other rfl _)
  · exact .of_ok rfl

theorem refusesClosed_declaredBinary (s : Session) : (declaredBinary s).FailsBy RefusesClosed := by
  refine (refusesClosed_declaredOperator s).andThen fun op _ => ?_
  split
  · exact .fail (refusesClosed_of_other rfl _)
  · exact (refusesClosed_optionalPrecedence _).map _

theorem refusesClosed_parameters (s : Session) : (parameters s).FailsBy RefusesClosed :=
  (refusesClosed_expect s _ _).andThen fun _ _ => (refusesClosed_expect _ _ _).map _

/-- Parameters end with a closing parenthesis. -/
theorem leaves_parameters (s : Session) : Leaves (parameters s) Closes := by
  refine leaves_andThen fun _ s₁ _ => leaves_since ?_ _
  intro params read
  obtain ⟨closing, held, -⟩ := (Reply.result_map_eq_ok_iff ..).mp read
  rw [Reply.after_map]
  unfold Session.expect at held ⊢
  split at held
  · next kind =>
    rw [if_pos kind]
    exact ⟨_, rfl, of_decide_eq_true kind⟩
  · cases held

theorem leaves_operands (role : Role) (op : Char) (precedence : Option Int) (expected : Nat)
    (position : Position) (s : Session) :
    Leaves (operands role op precedence expected position s) Closes := by
  intro found read
  obtain ⟨params, given, rest⟩ := (Reply.result_andThen_eq_ok_iff ..).mp read
  unfold operands
  rw [Reply.after_andThen_of_ok given]
  split
  · exact leaves_parameters s params given
  · exact leaves_parameters s params given

theorem refusesClosed_operands (role : Role) (op : Char) (precedence : Option Int) (expected : Nat)
    (position : Position) (s : Session) :
    (operands role op precedence expected position s).FailsBy RefusesClosed := by
  refine (refusesClosed_parameters s).andThen fun params given => ?_
  split
  · exact .of_ok rfl
  · exact .fail fun _ => leaves_parameters s params given

theorem leaves_prototype (s : Session) : Leaves (prototype s) Closes := by
  unfold prototype
  simp only
  split
  · exact leaves_andThen fun _ _ _ => leaves_andThen fun _ _ _ => leaves_operands _ _ _ _ _ _
  · exact leaves_andThen fun _ _ _ => leaves_andThen fun _ _ _ => leaves_operands _ _ _ _ _ _
  · refine leaves_andThen fun _ s₁ _ => ?_
    intro found read
    obtain ⟨params, given, -⟩ := (Reply.result_map_eq_ok_iff ..).mp read
    exact leaves_parameters s₁ params given
  · rintro _ ⟨⟩

theorem refusesClosed_prototype (s : Session) : (prototype s).FailsBy RefusesClosed := by
  unfold prototype
  simp only
  split
  · refine .andThen (.of_ok rfl) fun _ _ => ?_
    exact (refusesClosed_declaredOperator _).andThen fun _ _ => refusesClosed_operands _ _ _ _ _ _
  · refine .andThen (.of_ok rfl) fun _ _ => ?_
    exact (refusesClosed_declaredBinary _).andThen fun _ _ => refusesClosed_operands _ _ _ _ _ _
  · refine .andThen (.of_ok rfl) fun _ _ => ?_
    exact (refusesClosed_parameters _).map _
  · exact .fail (refusesClosed_of_other rfl _)

/-- A prototype that is not declared leaves the session as it was. -/
theorem after_declare_of_error {declared : Prototype} {s : Session} {diagnostic : Diagnostic}
    (failed : (declare declared s).result = .error diagnostic) :
    (declare declared s).after = s :=
  congrArg Prod.snd (Session.register_of_error failed)

/-- A declaration that is refused as a whole was read to its closing parenthesis. -/
theorem refusesClosed_external (s : Session) : (external s).FailsBy RefusesClosed := by
  refine .andThen (.of_ok rfl) fun _ _ => ?_
  refine (refusesClosed_prototype _).andThen fun declared read => ?_
  refine .map ?_ _
  intro diagnostic failed _
  rw [after_declare_of_error failed]
  exact leaves_prototype _ declared read

/-! ## The token that is dropped -/

/-- The session at the first token of the next item, after the semicolons before it. -/
def opening (s : Session) : Session := (s.passWhile fun token => token.kind = .semicolon).2

/-- The session in which the reader of the next item stops. -/
def stop (s : Session) : Session := (item (opening s)).after

/-- The next item is read after the semicolons in front of it. If it is refused, the token at which
its reader stopped is dropped. -/
theorem nextItem_eq (s : Session) :
    nextItem s =
      if (opening s).current.kind = .finish then (none, opening s)
      else
        match (item (opening s)).result with
        | .ok item => (some (.ok item), stop s)
        | .error diagnostic => (some (.error diagnostic), (stop s).advance) := rfl

/-- After an item that was read, reading goes on where its reader stopped. -/
theorem afterItem_of_ok {s : Session} {found : Item} (read : (nextItem s).1 = some (.ok found)) :
    (item (opening s)).result = .ok found ∧ afterItem s = stop s := by
  unfold afterItem
  rw [nextItem_eq] at read ⊢
  split at read
  · cases read
  · next more =>
    rw [if_neg more]
    cases held : (item (opening s)).result with
    | ok item =>
      simp only [held, Option.some.injEq, Except.ok.injEq] at read
      exact ⟨congrArg _ read, rfl⟩
    | error diagnostic => simp [held] at read

/-- After an item that was refused, reading goes on one token after the place where it stopped. -/
theorem afterItem_of_error {s : Session} {diagnostic : Diagnostic}
    (failed : (nextItem s).1 = some (.error diagnostic)) :
    (item (opening s)).result = .error diagnostic ∧ afterItem s = (stop s).advance := by
  unfold afterItem stop opening
  unfold nextItem at failed ⊢
  simp only at failed ⊢
  generalize (s.passWhile fun token => decide (token.kind = .semicolon)).2 = start at failed ⊢
  split at failed
  · cases failed
  · next more =>
    rw [if_neg more]
    cases held : (item start).result with
    | ok item => simp [held] at failed
    | error found =>
      simp only [held, Option.some.injEq, Except.error.injEq] at failed
      exact ⟨congrArg _ failed, rfl⟩

/-- A token in front of the next item is lost to it, unless it is a semicolon. -/
theorem opening_advance_iff (s : Session) :
    (opening s.advance).ahead = (opening s).ahead ↔ s.ahead = [] ∨ s.current.kind = .semicolon := by
  unfold opening Session.passWhile Session.advance Session.current
  cases ahead : s.ahead with
  | nil => simp
  | cons token rest =>
    by_cases semicolon : token.kind = .semicolon
    · simp [semicolon]
    · have fewer := (List.dropWhile_suffix (l := rest)
        fun token => decide (token.kind = .semicolon)).length_le
      simp only [List.tail_cons, semicolon, decide_false, Bool.false_eq_true, not_false_eq_true,
        List.dropWhile_cons_of_neg, reduceCtorEq, or_self, iff_false]
      intro same
      rw [same, List.length_cons] at fewer
      omega

/-- Reading goes on one token after the place where a refused item stopped. So what follows the
item is read from its first token exactly if there is nothing or a semicolon at that place. In
particular, a declaration refused as a whole has been read to its closing parenthesis, and the token
that is dropped is the one after it. -/
theorem item_after_refused_item {s : Session} {diagnostic : Diagnostic}
    (failed : (nextItem s).1 = some (.error diagnostic)) :
    (afterItem s).ahead = (stop s).ahead.tail ∧
    ((afterItem s).ahead = (stop s).ahead ↔ (stop s).ahead = []) ∧
    ((opening (afterItem s)).ahead = (opening (stop s)).ahead ↔
      (stop s).ahead = [] ∨ (stop s).current.kind = .semicolon) ∧
    ((opening s).current.kind = .keyword .external → diagnostic.cause.refusesPrototype →
      ∃ closing, (stop s).previous = some closing ∧ closing.kind = .rightParen) := by
  obtain ⟨refused, after⟩ := afterItem_of_error failed
  rw [after]
  refine ⟨rfl, ?_, opening_advance_iff _, fun keyword refuses => ?_⟩
  · rw [Session.advance]
    cases (stop s).ahead with
    | nil => simp
    | cons token rest => simp
  · have external : item (opening s) = external (opening s) := by rw [item, keyword]
    rw [external] at refused
    rw [stop, external]
    exact refusesClosed_external _ diagnostic refused refuses

/-- A declaration after a refused one is not read from its first token. -/
theorem item_after_refused_external :
    (nextItem (afterItems "extern f(x)\nextern f(x y)\nextern g(z)" 1)).1 =
      some (.error ⟨.conflictingPrototype "f" 1 2, ⟨2, 8⟩⟩) ∧
    (opening (afterItem (afterItems "extern f(x)\nextern f(x y)\nextern g(z)" 1))).ahead ≠
      (opening (stop (afterItems "extern f(x)\nextern f(x y)\nextern g(z)" 1))).ahead := by
  have failed : (nextItem (afterItems "extern f(x)\nextern f(x y)\nextern g(z)" 1)).1 =
      some (.error ⟨.conflictingPrototype "f" 1 2, ⟨2, 8⟩⟩) := by with_unfolding_all rfl
  refine ⟨failed, fun same => ?_⟩
  have nothing := (item_after_refused_item failed).2.2.1.mp same
  revert nothing
  decide +kernel

/-- The keyword of a declaration is dropped if the item before it was refused for tokens that were
all read: after a declaration that conflicts with an earlier one, and after an assignment to
something other than a name. -/
theorem keyword_dropped_after_refused_item :
    ((nextItem (afterItems "extern f(x)\nextern f(x y)\nextern g(z)" 1)).1 =
        some (.error ⟨.conflictingPrototype "f" 1 2, ⟨2, 8⟩⟩) ∧
      (stop (afterItems "extern f(x)\nextern f(x y)\nextern g(z)" 1)).current =
        ⟨.keyword .external, "extern", ⟨3, 1⟩⟩ ∧
      (afterItems "extern f(x)\nextern f(x y)\nextern g(z)" 2).current =
        ⟨.identifier, "g", ⟨3, 8⟩⟩) ∧
    (nextItem (afterItems "1 = 2\ndef f(x) x" 0)).1 =
        some (.error ⟨.invalidAssignmentTarget, ⟨1, 3⟩⟩) ∧
      (stop (afterItems "1 = 2\ndef f(x) x" 0)).current =
        ⟨.keyword .definition, "def", ⟨2, 1⟩⟩ ∧
      (afterItems "1 = 2\ndef f(x) x" 1).current = ⟨.identifier, "f", ⟨2, 5⟩⟩ := by
  refine ⟨⟨?_, ?_, ?_⟩, ?_, ?_, ?_⟩
  · with_unfolding_all rfl
  · decide +kernel
  · decide +kernel
  · with_unfolding_all rfl
  · decide +kernel
  · decide +kernel

end Grammar

end Kaleido
