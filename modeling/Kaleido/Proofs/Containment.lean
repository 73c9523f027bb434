import Kaleido.Proofs.Comparison
import Kaleido.Proofs.Recovery
import Mathlib.Order.Monotone.Basic

/-!
# Semicolons contain errors

No construct has a semicolon in it, so a reader never goes past one, and what it does is settled by
the tokens up to there. Main statement: an item that was read has no semicolon, one that was refused
has taken at most one, as its last token, and two sources that agree up to a semicolon have the same
items before it.
-/
namespace Kaleido.Grammar

/-! ## Items and semicolons -/

theorem opening_of_semicolon {s : Session} (here : s.current.kind = .semicolon) :
    opening s = opening s.advance := by
  unfold opening
  rw [Session.passWhile_of_kind (by simp) here]

theorem opening_of_other {s : Session} (other : s.current.kind ≠ .semicolon) : opening s = s := by
  unfold opening
  rw [Session.passWhile_of_other other]

theorem remaining_opening_le (s : Session) : (opening s).remaining ≤ s.remaining :=
  (s.passWhile_follows _).le

/-- That the tokens read from one session to another have no semicolon among them. -/
def Undivided (s after : Session) : Prop :=
  ∃ read, s.ahead = read ++ after.ahead ∧ ∀ token ∈ read, token.kind ≠ .semicolon

theorem Undivided.refl (s : Session) : Undivided s s := ⟨[], rfl, by simp⟩

theorem Undivided.trans {first second third : Session} (before : Undivided first second)
    (after : Undivided second third) : Undivided first third := by
  obtain ⟨read, ahead, plain⟩ := before
  obtain ⟨more, ahead', plain'⟩ := after
  refine ⟨read ++ more, by rw [ahead, ahead', List.append_assoc], fun token member => ?_⟩
  rcases List.mem_append.mp member with early | late
  · exact plain token early
  · exact plain' token late

theorem undivided_advance {s : Session} (more : s.current.kind ≠ .finish)
    (plain : s.current.kind ≠ .semicolon) : Undivided s s.advance :=
  ⟨[s.current], ahead_eq_current more, by simpa using plain⟩

theorem undivided_passWhile {s : Session} {condition : Token → Bool}
    (plain : ∀ token, condition token → token.kind ≠ .semicolon) :
    Undivided s (s.passWhile condition).2 :=
  ⟨s.ahead.takeWhile condition, List.takeWhile_append_dropWhile.symm,
    fun token member => plain token (List.mem_takeWhile_imp member)⟩

/-- Readers of expressions and prototypes never read a semicolon. -/
theorem closed_undivided : ClosedThroughout fun s _ reply => Undivided s reply.after := by
  have apart : ∀ {kind other : Kind}, isInner kind → isInner other = false → kind ≠ other := by
    rintro kind _ inner plain rfl
    cases inner.symm.trans plain
  refine closed_of_relation .refl .trans (fun s inner => ?_) fun s condition inner => ?_
  · exact undivided_advance (apart inner rfl) (apart inner rfl)
  · exact undivided_passWhile fun token wanted => apart (inner token wanted) rfl

theorem undivided_declare (declared : Prototype) (s : Session) :
    Undivided s (declare declared s).after := by
  have ahead : (s.register declared).2.ahead = s.ahead :=
    congrArg (·.2.ahead) (Session.register_congr rfl rfl declared)
  exact ⟨[], ahead.symm, by simp⟩

/-- No reader of an item reads a semicolon. -/
theorem undivided_item (s : Session) : Undivided s (item s).after := by
  unfold item
  split
  · next keyword =>
    have first : Undivided s s.take.after := undivided_advance (by simp [keyword]) (by simp [keyword])
    refine closed_undivided.andThen first fun _ s₁ _ => ?_
    refine closed_undivided.andThen (closed_undivided.prototype s₁) fun declared s₂ _ => ?_
    refine closed_undivided.andThen (undivided_declare declared s₂) fun _ s₃ _ => ?_
    exact closed_undivided.map _ (closed_undivided.expression s₃)
  · next keyword =>
    have first : Undivided s s.take.after := undivided_advance (by simp [keyword]) (by simp [keyword])
    refine closed_undivided.andThen first fun _ s₁ _ => ?_
    refine closed_undivided.andThen (closed_undivided.prototype s₁) fun declared s₂ _ => ?_
    exact closed_undivided.map _ (undivided_declare declared s₂)
  · exact closed_undivided.topLevel s

/-! ## Sessions that agree up to a semicolon -/

/-- That two sessions have the same tokens ahead up to a divider, and have come to the same so
far. -/
structure Shares (divider : Token) (rest rest' shared : List Token) (s t : Session) : Prop where
  left : s.ahead = shared ++ divider :: rest
  right : t.ahead = shared ++ divider :: rest'
  kinds : ∀ token ∈ shared, token.kind ≠ .finish
  previous : t.previous = s.previous
  operators : t.operators = s.operators
  declarations : t.declarations = s.declarations

/-- Sessions that agree up to a divider are compared by what they agree in, places included. -/
def upTo (divider : Token) (rest rest' : List Token) : Comparison where
  sessions s t := ∃ shared, Shares divider rest rest' shared s t
  inside s t := ∃ shared, Shares divider rest rest' shared s t
  positions _ _ p q := q = p

namespace Shares

variable {divider : Token} {rest rest' shared : List Token} {s t : Session}

theorem current (shares : Shares divider rest rest' shared s t) : t.current = s.current := by
  unfold Session.current
  rw [shares.left, shares.right]
  cases shared with
  | nil => rfl
  | cons token shared => rfl

theorem advance {token : Token} (shares : Shares divider rest rest' (token :: shared) s t) :
    Shares divider rest rest' shared s.advance t.advance where
  left := by simp [Session.advance, shares.left]
  right := by simp [Session.advance, shares.right]
  kinds other member := shares.kinds other (List.mem_cons_of_mem _ member)
  previous := by simp [Session.advance, shares.current]
  operators := shares.operators
  declarations := shares.declarations

theorem meets (semicolon : divider.kind = .semicolon)
    (shares : Shares divider rest rest' shared s t) : (upTo divider rest rest').Meets s t where
  sessions := ⟨shared, shares⟩
  kind := by rw [shares.current]
  lexeme := by rw [shares.current]
  operators := shares.operators
  position := congrArg Token.position shares.current
  advance inner := by
    cases shared with
    | nil => simp [Session.current, shares.left, semicolon, divides] at inner
    | cons token shared => exact ⟨shared, shares.advance⟩
  keeps _ _ _ := id

theorem declare (shares : Shares divider rest rest' shared s t)
    (semicolon : divider.kind = .semicolon) (prototype : Prototype) :
    (upTo divider rest rest').Corresponds (fun _ _ => True) (declare prototype s)
      (declare prototype t) := by
  have alike := Session.register_congr shares.operators shares.declarations prototype
  rcases registered : s.register prototype with ⟨diagnostic | _, after⟩
  · rw [registered] at alike
    rw [declare_of_error (congrArg Prod.fst registered), declare_of_error (congrArg Prod.fst alike)]
    exact Comparison.corresponds_fail (shares.meets semicolon) rfl rfl
  · obtain ⟨inForce, declarations, -, rfl⟩ := Session.register_eq_ok registered
    rw [registered] at alike
    rw [declare_of_ok registered, declare_of_ok alike]
    refine .ok rfl rfl trivial ⟨shared, ?_⟩ fun _ _ => id
    exact ⟨shares.left, shares.right, shares.kinds, shares.previous, rfl, rfl⟩

/-- Sessions that agree up to a semicolon correspond from token to token. -/
theorem stepwise (semicolon : divider.kind = .semicolon) : (upTo divider rest rest').Stepwise where
  meets := by
    rintro s t ⟨shared, shares⟩
    exact shares.meets semicolon
  previous := by
    rintro s t ⟨shared, shares⟩
    show (t.previous.getD t.current).position = (s.previous.getD s.current).position
    rw [shares.previous, shares.current]
  name := by
    rintro s t ⟨shared, shares⟩
    rw [shares.previous]
  declare := by
    rintro s t p q ⟨shared, shares⟩ same place
    obtain rfl := Prototype.eq_of_unplaced same place
    exact shares.declare semicolon q

theorem remaining (shares : Shares divider rest rest' shared s t) :
    s.remaining = shared.length + 1 + rest.length ∧ t.remaining = shared.length + 1 + rest'.length := by
  simp only [Session.remaining, shares.left, shares.right, List.length_append, List.length_cons]
  omega

/-- Before the divider an item begins at the same token on both sides, unless there are only
semicolons left before it. -/
theorem opening (semicolon : divider.kind = .semicolon)
    (shares : Shares divider rest rest' shared s t) :
    (∃ first shared', Shares divider rest rest' (first :: shared') (opening s) (opening t) ∧
      first.kind ≠ .semicolon ∧ shared'.length < shared.length) ∨
    (opening s).remaining ≤ rest.length ∧ (opening t).remaining ≤ rest'.length := by
  induction shared generalizing s t with
  | nil =>
    have here : s.current.kind = .semicolon := by simp [Session.current, shares.left, semicolon]
    have there : t.current.kind = .semicolon := by rw [shares.current, here]
    right
    rw [opening_of_semicolon here, opening_of_semicolon there]
    refine ⟨(remaining_opening_le _).trans ?_, (remaining_opening_le _).trans ?_⟩
    · simp [Session.remaining, Session.advance, shares.left]
    · simp [Session.remaining, Session.advance, shares.right]
  | cons first shared ih =>
    have here : s.current = first := by simp [Session.current, shares.left]
    by_cases passed : first.kind = .semicolon
    · have here' : s.current.kind = .semicolon := by rw [here, passed]
      have there : t.current.kind = .semicolon := by rw [shares.current, here']
      rw [opening_of_semicolon here', opening_of_semicolon there]
      rcases ih shares.advance with ⟨other, shared', begins, plain, fewer⟩ | past
      · exact .inl ⟨other, shared', begins, plain, by simp; omega⟩
      · exact .inr past
    · rw [opening_of_other (by rwa [here]), opening_of_other (by rwa [shares.current, here])]
      exact .inl ⟨first, shared, shares, passed, by simp⟩

/-- The same item is read from two sessions that agree up to a semicolon. -/
theorem item {first : Token} (semicolon : divider.kind = .semicolon)
    (shares : Shares divider rest rest' (first :: shared) s t) :
    (item t).result = (item s).result ∧
      ∃ shared', Shares divider rest rest' shared' (item s).after (item t).after := by
  have meets := shares.meets semicolon
  have place : itemPlace t = itemPlace s := by
    simp only [itemPlace, shares.current, shares.advance.current]
  cases (stepwise semicolon).item meets with
  | @ok a b left right same inside keeps =>
    obtain ⟨same, here, there⟩ := same
    have equal : b = a := Item.eq_of_unplaced same (by rw [here, there, place])
    exact ⟨by rw [left, right, equal], inside⟩
  | @error d e left right cause meets positions =>
    have equal : e = d := by
      cases d
      cases e
      cases cause
      cases positions
      rfl
    exact ⟨by rw [left, right, equal], meets.sessions⟩

/-- One item on both sides: none begins before the divider, or the same result comes of it, and
the sessions still agree or have both gone past the divider. -/
theorem step (semicolon : divider.kind = .semicolon)
    (shares : Shares divider rest rest' shared s t) :
    ((Grammar.opening s).remaining ≤ rest.length ∧ (Grammar.opening t).remaining ≤ rest'.length) ∨
    (rest.length + 1 < (Grammar.opening s).remaining ∧
      rest'.length + 1 < (Grammar.opening t).remaining ∧
      (∃ result, (nextItem s).1 = some result ∧ (nextItem t).1 = some result) ∧
      ((∃ shared', shared'.length < shared.length ∧
          Shares divider rest rest' shared' (afterItem s) (afterItem t)) ∨
        ((afterItem s).remaining ≤ rest.length ∧ (afterItem t).remaining ≤ rest'.length ∧
          (afterItem t).operators = (afterItem s).operators ∧
          (afterItem t).declarations = (afterItem s).declarations))) := by
  rcases shares.opening semicolon with ⟨first, before, begins, plain, fewer⟩ | past
  · right
    obtain ⟨same, shared', after⟩ := begins.item semicolon
    have more : (Grammar.opening s).current.kind ≠ .finish := by
      have here : (Grammar.opening s).current = first := by simp [Session.current, begins.left]
      rw [here]
      exact begins.kinds first (by simp)
    have more' : (Grammar.opening t).current.kind ≠ .finish := by rwa [begins.current]
    have lengths := begins.remaining
    have afterLengths := after.remaining
    simp only [List.length_cons] at lengths
    refine ⟨by omega, by omega, ?_⟩
    unfold afterItem
    rw [nextItem_eq s, nextItem_eq t, if_neg more, if_neg more', same]
    cases held : (Grammar.item (Grammar.opening s)).result with
    | ok found =>
      have taken := consumes_item (Grammar.opening s) found held
      exact ⟨⟨_, rfl, rfl⟩, .inl ⟨shared', by omega, after⟩⟩
    | error diagnostic =>
      refine ⟨⟨_, rfl, rfl⟩, ?_⟩
      have taken := (Grammar.item (Grammar.opening s)).follows.le
      cases shared' with
      | nil =>
        right
        simp only [stop, Session.remaining_advance]
        simp only [List.length_nil] at afterLengths
        exact ⟨by omega, by omega, after.operators, after.declarations⟩
      | cons dropped shared' =>
        simp only [List.length_cons] at afterLengths
        exact .inl ⟨shared', by omega, after.advance⟩
  · exact .inl past

/-- The items that begin before the divider are the same on both sides, and so is what is declared
after the last of them. -/
theorem items (semicolon : divider.kind = .semicolon) {shared : List Token} {s t : Session}
    (shares : Shares divider rest rest' shared s t) :
    ∃ count,
      (∀ i < count, rest.length + 1 < (Grammar.opening (afterItem^[i] s)).remaining ∧
        rest'.length + 1 < (Grammar.opening (afterItem^[i] t)).remaining ∧
        ∃ result, (nextItem (afterItem^[i] s)).1 = some result ∧
          (nextItem (afterItem^[i] t)).1 = some result) ∧
      (Grammar.opening (afterItem^[count] s)).remaining ≤ rest.length ∧
      (Grammar.opening (afterItem^[count] t)).remaining ≤ rest'.length ∧
      (afterItem^[count] t).operators = (afterItem^[count] s).operators ∧
      (afterItem^[count] t).declarations = (afterItem^[count] s).declarations := by
  rcases shares.step semicolon with past | ⟨begins, begins', result, next⟩
  · exact ⟨0, by simp, past.1, past.2, shares.operators, shares.declarations⟩
  · rcases next with ⟨shared', fewer, after⟩ | ⟨past, past', operators, declarations⟩
    · obtain ⟨count, before, rest⟩ := after.items semicolon
      refine ⟨count + 1, fun i bound => ?_, rest⟩
      cases i with
      | zero => exact ⟨begins, begins', result⟩
      | succ i => exact before i (by omega)
    · refine ⟨1, fun i bound => ?_, ?_, ?_, operators, declarations⟩
      · obtain rfl : i = 0 := by omega
        exact ⟨begins, begins', result⟩
      · exact (remaining_opening_le _).trans past
      · exact (remaining_opening_le _).trans past'
termination_by shared.length

end Shares

/-! ## Sources that agree up to a semicolon -/

/-- The number of tokens of a source before the place where a session stands. -/
def place (source : String) (s : Session) : Nat := (tokenize source).length - 1 - s.remaining

/-- The items of a source begin one after the other. -/
theorem antitone_remaining_opening (s : Session) :
    Antitone fun i => (opening (afterItem^[i] s)).remaining := by
  refine antitone_nat_of_succ_le fun i => ?_
  simp only [Function.iterate_succ_apply']
  generalize afterItem^[i] s = s
  refine (remaining_opening_le _).trans ?_
  unfold afterItem
  rw [nextItem_eq]
  split
  · exact Nat.le_refl _
  · split
    · exact (item (opening s)).follows.le
    · exact ((stop s).advance_follows.trans (item (opening s)).follows).le

/-- A semicolon among the tokens of a source is ahead at its start, with all that follows it but
the end. -/
theorem ahead_ofSource {source : String} {divider : Token} {shared rest : List Token}
    (tokens : tokenize source = shared ++ divider :: rest) (semicolon : divider.kind = .semicolon) :
    ∃ later, (Session.ofSource source).ahead = shared ++ divider :: later ∧
      rest.length = later.length + 1 := by
  rw [tokenize_eq] at tokens
  rcases List.eq_nil_or_concat rest with rfl | ⟨later, last, rfl⟩
  · obtain ⟨-, same⟩ := List.append_inj' tokens rfl
    have finish := congrArg Token.kind (List.singleton_inj.mp same)
    rw [semicolon] at finish
    cases finish
  · rw [List.concat_eq_append, ← List.cons_append, ← List.append_assoc] at tokens
    exact ⟨later, (List.append_inj' tokens rfl).1, by simp⟩

/-- The reader of an item that was refused has read no semicolon, but one may be dropped after it. -/
theorem taken_of_error {s : Session} {diagnostic : Diagnostic}
    (failed : (nextItem s).1 = some (.error diagnostic)) :
    ∃ taken, (opening s).ahead = taken ++ (afterItem s).ahead ∧
      ∀ token ∈ taken.dropLast, token.kind ≠ .semicolon := by
  obtain ⟨-, after⟩ := afterItem_of_error failed
  have undivided : Undivided (opening s) (stop s) := undivided_item (opening s)
  obtain ⟨taken, ahead, plain⟩ := undivided
  rw [after, ahead]
  cases more : (stop s).ahead with
  | nil =>
    refine ⟨taken, by simp [Session.advance, more], fun token member => ?_⟩
    exact plain token (List.dropLast_subset _ member)
  | cons dropped later =>
    refine ⟨taken ++ [dropped], by simp [Session.advance, more], ?_⟩
    rwa [List.dropLast_concat]

/-- An item begins before a semicolon of a source exactly if it is among the first ones, once it is
known how many of them there are. -/
theorem place_lt_iff {source : String} {divider : Token} {shared rest : List Token} {later count i : Nat}
    (tokens : tokenize source = shared ++ divider :: rest) (length : rest.length = later + 1)
    (past : (opening (afterItems source count)).remaining ≤ later)
    (before : i < count → later + 1 < (opening (afterItems source i)).remaining) :
    place source (opening (afterItems source i)) < shared.length ↔ i < count := by
  have total : (tokenize source).length = shared.length + 1 + (later + 1) := by
    rw [tokens, List.length_append, List.length_cons, length]
    omega
  unfold place
  rw [total]
  constructor
  · intro begins
    by_contra after
    have fewer := antitone_remaining_opening (.ofSource source) (Nat.le_of_not_lt after)
    have fewer : (opening (afterItems source i)).remaining ≤ later := fewer.trans past
    omega
  · intro bound
    have begins := before bound
    have all : (opening (afterItems source i)).remaining ≤ (Session.ofSource source).remaining :=
      (antitone_remaining_opening (.ofSource source) (Nat.zero_le i)).trans (remaining_opening_le _)
    have tokens : (tokenize source).length = (Session.ofSource source).remaining + 1 := by
      rw [tokenize_eq, List.length_append]
      rfl
    omega

/-- An item that was read has no semicolon in it, and one that was refused has taken at most one,
as the last of its tokens. So of two sources that agree up to a semicolon the items that begin before
it are the same, with the same results, and after the last of them the same is declared. -/
theorem semicolon_contains_errors :
    (∀ s found, (nextItem s).1 = some (.ok found) →
      ∃ taken, (opening s).ahead = taken ++ (afterItem s).ahead ∧
        ∀ token ∈ taken, token.kind ≠ .semicolon) ∧
    (∀ s diagnostic, (nextItem s).1 = some (.error diagnostic) →
      ∃ taken, (opening s).ahead = taken ++ (afterItem s).ahead ∧
        ∀ token ∈ taken.dropLast, token.kind ≠ .semicolon) ∧
    ∀ (left right : String) (shared rest rest' : List Token) (divider : Token),
      divider.kind = .semicolon → tokenize left = shared ++ divider :: rest →
      tokenize right = shared ++ divider :: rest' →
      ∃ count,
        (∀ i, place left (opening (afterItems left i)) < shared.length ↔ i < count) ∧
        (∀ i, place right (opening (afterItems right i)) < shared.length ↔ i < count) ∧
        (∀ i < count, ∃ result, (nextItem (afterItems left i)).1 = some result ∧
          (nextItem (afterItems right i)).1 = some result) ∧
        (afterItems right count).operators = (afterItems left count).operators ∧
        (afterItems right count).declarations = (afterItems left count).declarations := by
  refine ⟨fun s found read => ?_, fun s diagnostic failed => taken_of_error failed, ?_⟩
  · obtain ⟨-, after⟩ := afterItem_of_ok read
    rw [after]
    exact undivided_item (opening s)
  · intro left right shared rest rest' divider semicolon tokens tokens'
    obtain ⟨later, ahead, length⟩ := ahead_ofSource tokens semicolon
    obtain ⟨later', ahead', length'⟩ := ahead_ofSource tokens' semicolon
    have kinds : ∀ token ∈ shared, token.kind ≠ .finish := by
      intro token member
      exact Session.Reached.start.kinds token (by rw [ahead]; simp [member])
    have shares : Shares divider later later' shared (.ofSource left) (.ofSource right) :=
      ⟨ahead, ahead', kinds, rfl, rfl, rfl⟩
    obtain ⟨count, before, past, past', operators, declarations⟩ := shares.items semicolon
    refine ⟨count, fun i => ?_, fun i => ?_, fun i bound => (before i bound).2.2, operators,
      declarations⟩
    · exact place_lt_iff tokens length past fun bound => (before i bound).1
    · exact place_lt_iff tokens' length' past' fun bound => (before i bound).2.1

/-- A call whose parenthesis is not closed before the semicolon. What follows the semicolon, a name
or a definition, makes no difference to it. -/
theorem semicolon_contains_open_call :
    ((nextItem (afterItems "f(1; y" 1)).1 =
        some (.ok (.expression ⟨{ name := "", params := [], position := ⟨1, 6⟩ }, [.var "y"]⟩)) ∧
      ∃ taken, (opening (afterItems "f(1; y" 1)).ahead =
          taken ++ (afterItem (afterItems "f(1; y" 1)).ahead ∧
        ∀ token ∈ taken, token.kind ≠ .semicolon) ∧
    ((nextItem (.ofSource "f(1; y")).1 = some (.error
        ⟨.misplacedToken ";" "expected ')' or ',' in argument list", ⟨1, 4⟩⟩) ∧
      ∃ taken, (opening (.ofSource "f(1; y")).ahead =
          taken ++ (afterItem (.ofSource "f(1; y")).ahead ∧
        ∀ token ∈ taken.dropLast, token.kind ≠ .semicolon) ∧
    tokenize "f(1; y" = (tokenize "f(1; y").take 3 ++ ⟨.semicolon, ";", ⟨1, 4⟩⟩ ::
      (tokenize "f(1; y").drop 4 ∧
    tokenize "f(1; def g(x) x" = (tokenize "f(1; y").take 3 ++ ⟨.semicolon, ";", ⟨1, 4⟩⟩ ::
      (tokenize "f(1; def g(x) x").drop 4 ∧
    ∃ count, (∀ i, place "f(1; y" (opening (afterItems "f(1; y" i)) < 3 ↔ i < count) ∧
      ∀ i < count, ∃ result, (nextItem (afterItems "f(1; y" i)).1 = some result ∧
        (nextItem (afterItems "f(1; def g(x) x" i)).1 = some result := by
  have read : (nextItem (afterItems "f(1; y" 1)).1 =
      some (.ok (.expression ⟨{ name := "", params := [], position := ⟨1, 6⟩ }, [.var "y"]⟩)) := by
    with_unfolding_all rfl
  have failed : (nextItem (.ofSource "f(1; y")).1 = some (.error
      ⟨.misplacedToken ";" "expected ')' or ',' in argument list", ⟨1, 4⟩⟩) := by
    with_unfolding_all rfl
  have tokens : tokenize "f(1; y" = (tokenize "f(1; y").take 3 ++ ⟨.semicolon, ";", ⟨1, 4⟩⟩ ::
      (tokenize "f(1; y").drop 4 := by decide +kernel
  have tokens' : tokenize "f(1; def g(x) x" = (tokenize "f(1; y").take 3 ++
      ⟨.semicolon, ";", ⟨1, 4⟩⟩ :: (tokenize "f(1; def g(x) x").drop 4 := by decide +kernel
  have shared : ((tokenize "f(1; y").take 3).length = 3 := by decide +kernel
  obtain ⟨whole, refused, agree⟩ := semicolon_contains_errors
  obtain ⟨count, before, -, same, -⟩ := agree _ _ _ _ _ _ rfl tokens tokens'
  rw [shared] at before
  exact ⟨⟨read, whole _ _ read⟩, ⟨failed, refused _ _ failed⟩, tokens, tokens', count, before, same⟩

end Kaleido.Grammar
