import Kaleido.Declarations
import Kaleido.Token.Cursor

/-!
# Sessions

A session reads one source: it holds the tokens that are still ahead, the one that was read last,
and what the source has declared so far. Reading on at the end of the source stays there.
-/
namespace Kaleido

/-- The state of reading a source. -/
structure Session where
  /-- The tokens ahead, without the one for the end of the source. -/
  ahead : List Token
  /-- The place where the source ends. -/
  finish : Position
  /-- The token read last. -/
  previous : Option Token
  operators : Operators
  declarations : Declarations
deriving Repr, DecidableEq

namespace Session

/-- The session at the start of a source. -/
def ofSource (source : String) : Session :=
  let (ahead, finish) := (Cursor.ofSource source).scan
  ⟨ahead, finish, none, .builtin, .empty⟩

/-- The next token. -/
def current (session : Session) : Token :=
  match session.ahead with
  | [] => .finish session.finish
  | token :: _ => token

/-- The number of tokens before the end of the source. -/
def remaining (session : Session) : Nat := session.ahead.length

/-- Reads one token; at the end of the source, the end once more. -/
def advance (session : Session) : Session :=
  { session with ahead := session.ahead.tail, previous := some session.current }

/-- Reads the tokens ahead as long as they satisfy a condition. -/
def passWhile (session : Session) (condition : Token → Bool) : List Token × Session :=
  let passed := session.ahead.takeWhile condition
  (passed, { session with
    ahead := session.ahead.dropWhile condition
    previous := passed.getLast?.or session.previous })

/-- The precedence of the next token as a binary operator, negative if it is none. -/
def precedence (session : Session) : Int :=
  match session.current.operator?.bind session.operators.precedence? with
  | some precedence => if 0 < precedence then precedence else -1
  | none => -1

/-- Declares a prototype. A binary operator enters the operator table with the precedence of the
prototype in force, so a later declaration never changes how it binds. If the prototype is refused,
nothing enters that table. -/
def register (session : Session) (prototype : Prototype) : Except Diagnostic Unit × Session :=
  match session.declarations.register prototype with
  | (.error diagnostic, declarations) => (.error diagnostic, { session with declarations })
  | (.ok inForce, declarations) =>
    let operators :=
      match inForce.isBinary, inForce.operator? with
      | true, some op => session.operators.insert op inForce.effectivePrecedence
      | _, _ => session.operators
    (.ok (), { session with operators, declarations })

/-- That one session comes from another of the same source by reading on: it has left some of the
tokens behind. -/
structure Follows (later earlier : Session) : Prop where
  ahead : later.ahead <:+ earlier.ahead
  finish : later.finish = earlier.finish

namespace Follows

theorem refl (session : Session) : session.Follows session := ⟨List.suffix_rfl, rfl⟩

theorem trans {third second first : Session} (after : third.Follows second)
    (before : second.Follows first) : third.Follows first :=
  ⟨after.ahead.trans before.ahead, after.finish.trans before.finish⟩

/-- Reading on never adds tokens. -/
theorem le {later earlier : Session} (follows : later.Follows earlier) :
    later.remaining ≤ earlier.remaining :=
  follows.ahead.length_le

end Follows

theorem advance_follows (session : Session) : session.advance.Follows session :=
  ⟨List.tail_suffix _, rfl⟩

theorem passWhile_follows (session : Session) (condition : Token → Bool) :
    (session.passWhile condition).2.Follows session :=
  ⟨List.dropWhile_suffix condition, rfl⟩

theorem register_follows {session after : Session} {prototype : Prototype}
    {result : Except Diagnostic Unit} (registered : session.register prototype = (result, after)) :
    after.Follows session := by
  unfold register at registered
  split at registered <;>
  · cases registered
    exact ⟨List.suffix_rfl, rfl⟩

/-- A prototype that is refused leaves the session as it was. -/
theorem register_of_error {session : Session} {prototype : Prototype} {diagnostic : Diagnostic}
    (refused : (session.register prototype).1 = .error diagnostic) :
    session.register prototype = (.error diagnostic, session) := by
  unfold register at refused ⊢
  split at refused
  · next found declarations same =>
    obtain rfl := Except.error.inj refused
    have kept := Declarations.register_of_error (congrArg Prod.fst same)
    obtain rfl : declarations = session.declarations := congrArg Prod.snd (same.symm.trans kept)
    rfl
  · cases refused

/-- What a prototype is declared to depends on the operators and declarations only. -/
theorem register_congr {session other : Session} (operators : other.operators = session.operators)
    (declarations : other.declarations = session.declarations) (prototype : Prototype) :
    other.register prototype = ((session.register prototype).1, { other with
      operators := (session.register prototype).2.operators
      declarations := (session.register prototype).2.declarations }) := by
  unfold register
  rw [operators, declarations]
  obtain ⟨answer, after⟩ := session.declarations.register prototype
  cases answer with
  | ok inForce => rfl
  | error diagnostic => rw [← operators]

theorem remaining_advance (session : Session) :
    session.advance.remaining = session.remaining - 1 := by
  simp [advance, remaining]

/-- Before the end there are tokens ahead. -/
theorem remaining_pos (session : Session) (more : session.current.kind ≠ .finish) :
    0 < session.remaining := by
  obtain ⟨ahead, finish, previous, operators, declarations⟩ := session
  cases ahead with
  | nil => simp [current] at more
  | cons token rest => simp [remaining]

/-- Reading a token before the end leaves fewer tokens. -/
theorem remaining_advance_lt (session : Session) (more : session.current.kind ≠ .finish) :
    session.advance.remaining < session.remaining := by
  have := session.remaining_pos more
  rw [remaining_advance]
  omega

end Session

/-- A token that names an operator is not the end. -/
theorem Token.kind_ne_finish {token : Token} {op : Char} (named : token.operator? = some op) :
    token.kind ≠ .finish := by
  intro finish
  simp [Token.operator?, finish, Kind.isOperator] at named

end Kaleido
