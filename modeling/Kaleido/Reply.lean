import Kaleido.Session

/-!
# Replies

What a reader of some construct answers: its result, and the session after it, also when the
result is an error. A reader only reads on, and a reply carries that fact, so that readers can be
called from one another and still come to an end.
-/
namespace Kaleido

/-- The answer of a reader that began in a given session. -/
structure Reply (session : Session) (α : Type) where
  result : Except Diagnostic α
  after : Session
  follows : after.Follows session

namespace Reply

variable {α β : Type} {session : Session}

/-- A result without reading. -/
def pure (session : Session) (a : α) : Reply session α := ⟨.ok a, session, .refl _⟩

/-- An error without reading. -/
def fail (session : Session) (diagnostic : Diagnostic) : Reply session α :=
  ⟨.error diagnostic, session, .refl _⟩

/-- A reply of a reader that began later. -/
def since {later : Session} (reply : Reply later α) (follows : later.Follows session) :
    Reply session α :=
  ⟨reply.result, reply.after, reply.follows.trans follows⟩

/-- Goes on with another reader after a result, and ends at an error. The other reader is told
that it has no more tokens than there were, for its own end to be seen. -/
def andThen (reply : Reply session α)
    (next : α → (after : Session) → after.remaining ≤ session.remaining → Reply after β) :
    Reply session β :=
  match reply.result with
  | .ok a => (next a reply.after reply.follows.le).since reply.follows
  | .error diagnostic => ⟨.error diagnostic, reply.after, reply.follows⟩

/-- Changes the result. -/
def map (f : α → β) (reply : Reply session α) : Reply session β :=
  ⟨reply.result.map f, reply.after, reply.follows⟩

@[simp] theorem result_pure (a : α) : (pure session a).result = .ok a := rfl

@[simp] theorem after_pure (a : α) : (pure session a).after = session := rfl

@[simp] theorem result_fail (diagnostic : Diagnostic) :
    (fail session diagnostic : Reply session α).result = .error diagnostic := rfl

@[simp] theorem after_fail (diagnostic : Diagnostic) :
    (fail session diagnostic : Reply session α).after = session := rfl

@[simp] theorem result_since {later : Session} (reply : Reply later α)
    (follows : later.Follows session) : (reply.since follows).result = reply.result := rfl

@[simp] theorem after_since {later : Session} (reply : Reply later α)
    (follows : later.Follows session) : (reply.since follows).after = reply.after := rfl

@[simp] theorem result_map (f : α → β) (reply : Reply session α) :
    (reply.map f).result = reply.result.map f := rfl

@[simp] theorem after_map (f : α → β) (reply : Reply session α) :
    (reply.map f).after = reply.after := rfl

/-- Two readers one after the other have a result exactly if the first one has and the second
one has where the first one stopped. -/
theorem result_andThen_eq_ok_iff (reply : Reply session α)
    (next : α → (after : Session) → after.remaining ≤ session.remaining → Reply after β) (b : β) :
    (reply.andThen next).result = .ok b ↔
      ∃ a, reply.result = .ok a ∧ (next a reply.after reply.follows.le).result = .ok b := by
  unfold andThen
  split
  · next a held => simp [held]
  · next diagnostic held => simp [held]

/-- After a result, two readers end where the second one does. -/
theorem after_andThen_of_ok {reply : Reply session α} {a : α} (held : reply.result = .ok a)
    (next : α → (after : Session) → after.remaining ≤ session.remaining → Reply after β) :
    (reply.andThen next).after = (next a reply.after reply.follows.le).after := by
  unfold andThen
  split
  · next b other =>
    cases held.symm.trans other
    rfl
  · next diagnostic other => cases held.symm.trans other

/-- After a result, two readers do what the second one does. -/
theorem andThen_of_ok {reply : Reply session α} {a : α} (held : reply.result = .ok a)
    (next : α → (after : Session) → after.remaining ≤ session.remaining → Reply after β) :
    reply.andThen next = (next a reply.after reply.follows.le).since reply.follows := by
  unfold andThen
  split
  · next b other =>
    cases held.symm.trans other
    rfl
  · next diagnostic other => cases held.symm.trans other

/-- After an error, two readers end where the first one does. -/
theorem andThen_of_error {reply : Reply session α} {diagnostic : Diagnostic}
    (held : reply.result = .error diagnostic)
    (next : α → (after : Session) → after.remaining ≤ session.remaining → Reply after β) :
    reply.andThen next = ⟨.error diagnostic, reply.after, reply.follows⟩ := by
  unfold andThen
  split
  · next b other => cases held.symm.trans other
  · next found other =>
    cases held.symm.trans other
    rfl

end Reply

namespace Session

/-- Reads the next token, whatever it is. -/
def take (session : Session) : Reply session Token :=
  ⟨.ok session.current, session.advance, session.advance_follows⟩

theorem take_andThen {β : Type} (session : Session)
    (next : Token → (after : Session) → after.remaining ≤ session.remaining → Reply after β) :
    session.take.andThen next =
      (next session.current session.advance session.advance_follows.le).since
        session.advance_follows := rfl

/-- Reads the next token if its kind is wanted; otherwise says what was expected. -/
def expect (session : Session) (wanted : Kind → Bool) (expected : String) : Reply session Token :=
  if wanted session.current.kind then session.take
  else .fail session
    ⟨.expectedToken expected session.current.text, session.current.position⟩

/-- Reads a certain keyword. -/
def expectKeyword (session : Session) (keyword : Keyword) : Reply session Token :=
  session.expect (· = .keyword keyword) keyword.word

end Session

end Kaleido
