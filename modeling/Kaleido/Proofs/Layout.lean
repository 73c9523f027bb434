import Kaleido.Compilation
import Kaleido.Proofs.Comparison
import Kaleido.Proofs.Recovery
import Kaleido.Proofs.Walks

/-!
# Layout

Blanks and comments between tokens change where the tokens stand, and nothing else. Taking the
places out of a session commutes with everything that is done to it: reading a token, declaring a
prototype, reading an item or a whole program, and resolving what was read. Main statement: sources
with the same tokens compile to the same, but for places.
-/
namespace Kaleido

/-- A token without its place. -/
def Token.unplaced (token : Token) : Token := { token with position := .zero }

/-- A diagnostic without its place. -/
def Diagnostic.unplaced (diagnostic : Diagnostic) : Diagnostic :=
  { diagnostic with position := .zero }

/-- A table with every value replaced by its image. -/
def Table.map {κ α β : Type} (f : α → β) (table : Table κ α) : Table κ β :=
  ⟨table.entries.map fun entry => (entry.1, f entry.2)⟩

/-- Declarations without their places. -/
def Declarations.unplaced (declarations : Declarations) : Declarations :=
  declarations.map Prototype.unplaced

/-- A session without places: those of its tokens, of its end and of what it has declared. -/
def Session.unplaced (s : Session) : Session where
  ahead := s.ahead.map Token.unplaced
  finish := .zero
  previous := s.previous.map Token.unplaced
  operators := s.operators
  declarations := s.declarations.unplaced

/-- An item that stands nowhere is one without its place. -/
theorem Item.eq_unplaced {item other : Item} (same : other.unplaced = item.unplaced)
    (nowhere : other.prototype.position = .zero) : other = item.unplaced := by
  rw [← other.unplaced_placedAt, same, nowhere]
  cases item with
  | definition function => rfl
  | external prototype => rfl
  | expression function => rfl

/-- What is read or resolved, or the diagnostic for it, without places. -/
def unplacedResult {α : Type} (unplaced : α → α) : Except Diagnostic α → Except Diagnostic α
  | .ok a => .ok (unplaced a)
  | .error diagnostic => .error diagnostic.unplaced

/-- What becomes of an item, without places. -/
def Event.unplaced : Event → Event
  | .accepted item handle => .accepted item.unplaced handle
  | .rejected diagnostic => .rejected diagnostic.unplaced

/-- Everything that comes of a source, without places. -/
def Compilation.unplaced (compilation : Compilation) : Compilation where
  events := compilation.events.map Event.unplaced
  session := compilation.session.unplaced
  resolver := compilation.resolver

/-! ## Declarations -/

namespace Table

variable {κ α β : Type} [DecidableEq κ] (f : α → β)

theorem find?_map (table : Table κ α) (key : κ) :
    (table.map f).find? key = (table.find? key).map f := by
  obtain ⟨entries⟩ := table
  unfold map find?
  induction entries with
  | nil => rfl
  | cons entry rest ih =>
    rw [List.map_cons, List.lookup_cons, List.lookup_cons]
    by_cases same : key = entry.1
    · simp [same]
    · simpa [beq_false_of_ne same] using ih

theorem map_insert (table : Table κ α) (key : κ) (value : α) :
    (table.insert key value).map f = (table.map f).insert key (f value) := by
  obtain ⟨entries⟩ := table
  apply ext_entries
  unfold map insert
  induction entries with
  | nil => rfl
  | cons entry rest ih =>
    by_cases same : entry.1 = key
    · simp [put, same]
    · simpa [put, same] using ih

end Table

namespace Declarations

/-- A prototype is in conflict with the one in force, or not, wherever the two stand. -/
theorem conflict?_unplaced (inForce new : Prototype) :
    conflict? inForce.unplaced new.unplaced = conflict? inForce new := rfl

theorem register_unplaced (declarations : Declarations) (prototype : Prototype) :
    declarations.unplaced.register prototype.unplaced =
      (unplacedResult Prototype.unplaced (declarations.register prototype).1,
        Declarations.unplaced (declarations.register prototype).2) := by
  have named : prototype.unplaced.name = prototype.name := rfl
  unfold register
  rw [named, unplaced, Table.find?_map]
  cases declarations.find? prototype.name with
  | none => simp only [Option.map_none, unplacedResult, unplaced, Table.map_insert]
  | some inForce =>
    simp only [Option.map_some, conflict?_unplaced]
    cases conflict? inForce prototype with
    | none => rfl
    | some cause => rfl

theorem signature?_unplaced (declarations : Declarations) (name : String) :
    declarations.unplaced.signature? name = declarations.signature? name := by
  unfold signature? unplaced
  rw [Table.find?_map, Option.map_map]
  rfl

end Declarations

/-! ## Sessions -/

namespace Session

theorem current_unplaced (s : Session) : s.unplaced.current = s.current.unplaced := by
  unfold current unplaced
  cases s.ahead with
  | nil => rfl
  | cons token rest => rfl

theorem advance_unplaced (s : Session) : s.unplaced.advance = s.advance.unplaced := by
  unfold advance
  rw [current_unplaced]
  simp [unplaced]

theorem kind_unplaced (s : Session) : s.unplaced.current.kind = s.current.kind := by
  rw [current_unplaced]
  rfl

/-- A prototype is declared or refused wherever it stands. -/
theorem register_unplaced (s : Session) (prototype : Prototype) :
    s.unplaced.register prototype.unplaced =
      (unplacedResult id (s.register prototype).1, (s.register prototype).2.unplaced) := by
  have entered := s.declarations.register_unplaced prototype
  unfold register
  rw [show s.unplaced.declarations = s.declarations.unplaced from rfl, entered]
  rcases s.declarations.register prototype with ⟨diagnostic | inForce, declarations⟩
  · rfl
  · rfl

end Session

namespace Grammar

/-! ## Readers -/

/-- A session is held against itself without places. -/
def withoutPlaces : Comparison where
  sessions s t := t = s.unplaced
  inside s t := t = s.unplaced
  positions _ _ _ q := q = .zero

theorem meets_withoutPlaces (s : Session) : withoutPlaces.Meets s s.unplaced where
  sessions := rfl
  kind := s.kind_unplaced
  lexeme := by rw [s.current_unplaced]; rfl
  operators := rfl
  position := by rw [s.current_unplaced]; rfl
  advance _ := s.advance_unplaced
  keeps _ _ _ := id

theorem declare_withoutPlaces (declared : Prototype) (s : Session) :
    withoutPlaces.Corresponds (fun _ _ => True) (declare declared s)
      (declare declared.unplaced s.unplaced) := by
  have alike := s.register_unplaced declared
  rcases registered : s.register declared with ⟨diagnostic | _, after⟩
  · rw [registered] at alike
    rw [declare_of_error (congrArg Prod.fst registered), declare_of_error (congrArg Prod.fst alike)]
    exact Comparison.corresponds_fail (meets_withoutPlaces s) rfl rfl
  · rw [registered] at alike
    rw [declare_of_ok registered, declare_of_ok alike]
    exact .ok rfl rfl trivial rfl fun _ _ => id

theorem stepwise_withoutPlaces : withoutPlaces.Stepwise where
  meets := by
    rintro s _ rfl
    exact meets_withoutPlaces s
  previous := by
    rintro s _ rfl
    show (s.unplaced.previous.getD s.unplaced.current).position = .zero
    rw [s.current_unplaced]
    cases held : s.previous with
    | none => simp [Session.unplaced, held, Token.unplaced]
    | some token => simp [Session.unplaced, held, Token.unplaced]
  name := by
    rintro s _ rfl
    cases held : s.previous with
    | none => simp [Session.unplaced, held]
    | some token => simp [Session.unplaced, held, topLevelName, Token.unplaced, Token.isIdentifier]
  declare := by
    rintro s _ p q rfl same place
    obtain rfl : q = p.unplaced := Prototype.eq_of_unplaced same place
    exact declare_withoutPlaces p s

theorem itemPlace_unplaced (s : Session) : itemPlace s.unplaced = .zero := by
  unfold itemPlace
  rw [s.advance_unplaced, s.advance.current_unplaced, s.current_unplaced]
  split
  · rfl
  · rfl

/-- Without places, the same item is read or refused. -/
theorem item_unplaced (s : Session) :
    (item s.unplaced).result = unplacedResult Item.unplaced (item s).result ∧
      (item s.unplaced).after = (item s).after.unplaced := by
  cases stepwise_withoutPlaces.item (meets_withoutPlaces s) with
  | @ok a b left right same inside keeps =>
    obtain ⟨same, -, place⟩ := same
    rw [itemPlace_unplaced] at place
    rw [left, right, Item.eq_unplaced same place]
    exact ⟨rfl, inside⟩
  | @error d e left right cause meets position =>
    have equal : e = d.unplaced := by
      cases e
      cases cause
      cases position
      rfl
    exact ⟨by rw [left, right, equal]; rfl, meets.sessions⟩

/-! ## Programs -/

theorem opening_unplaced (s : Session) : opening s.unplaced = (opening s).unplaced := by
  have alike : (fun token : Token => decide (token.kind = .semicolon)) ∘ Token.unplaced =
      fun token => decide (token.kind = .semicolon) := rfl
  unfold opening Session.passWhile
  simp only [Session.unplaced, List.takeWhile_map, List.dropWhile_map, alike, List.getLast?_map]
  congr 1
  cases (s.ahead.takeWhile fun token => decide (token.kind = .semicolon)).getLast? with
  | none => rfl
  | some token => rfl

theorem nextItem_unplaced (s : Session) :
    nextItem s.unplaced =
      ((nextItem s).1.map (unplacedResult Item.unplaced), (nextItem s).2.unplaced) := by
  obtain ⟨result, after⟩ := item_unplaced (opening s)
  rw [nextItem_eq, nextItem_eq]
  unfold stop
  rw [opening_unplaced, Session.kind_unplaced, result, after]
  split
  · rfl
  · cases (item (opening s)).result with
    | ok found => rfl
    | error diagnostic => simp [unplacedResult, Session.advance_unplaced]

theorem program_of_none {s after : Session} (next : nextItem s = (none, after)) :
    program s = ([], after) := by
  rw [program]
  split
  · next later same => rw [show after = later by simpa [next] using same]
  · next same => simp [next] at same

theorem program_of_some {s after : Session} {result : Except Diagnostic Item}
    (next : nextItem s = (some result, after)) :
    program s = (⟨result, after⟩ :: (program after).1, (program after).2) := by
  rw [program]
  split
  · next same => simp [next] at same
  · next same =>
    obtain ⟨rfl, rfl⟩ : _ ∧ _ := by simpa [next] using same
    rfl

/-- The answer for an item, without places. -/
def Outcome.unplaced (outcome : Outcome) : Outcome where
  result := unplacedResult Item.unplaced outcome.result
  after := outcome.after.unplaced

/-- Without places, the same items are read or refused one after the other. -/
theorem program_unplaced (s : Session) :
    program s.unplaced = ((program s).1.map Outcome.unplaced, (program s).2.unplaced) := by
  fun_induction program s with
  | case1 s after nothing =>
    have alike := nextItem_unplaced s
    rw [nothing] at alike
    rw [program_of_none alike]
    rfl
  | case2 s result after next outcomes finish rest ih =>
    have alike := nextItem_unplaced s
    rw [next] at alike
    rw [program_of_some alike, ih, rest]
    rfl

end Grammar

/-! ## Resolution -/

/-- A part of a walk that tells errors without their places. -/
def WalkM.unplaced {α : Type} (part : WalkM α) : WalkM α :=
  fun walk => (unplacedResult id (part walk).1, (part walk).2)

namespace Walk

theorem unplaced_bind {α β : Type} (part : WalkM α) (next : α → WalkM β) :
    (part >>= next).unplaced = part.unplaced >>= fun a => (next a).unplaced := by
  funext walk
  rcases held : part walk with ⟨diagnostic | a, after⟩
  · simp [WalkM.unplaced, bind, held, unplacedResult]
  · simp [WalkM.unplaced, bind, held, unplacedResult]

theorem unplaced_refer (position : Position) (name : String) (access : Access) :
    (refer position name access).unplaced = refer .zero name access := by
  funext walk
  unfold WalkM.unplaced refer
  cases walk.scope.find? name with
  | none => rfl
  | some slot => rfl

theorem unplaced_call (declarations : Declarations) (position : Position) (name : String)
    (received : Nat) :
    (call declarations position name received).unplaced =
      call declarations.unplaced .zero name received := by
  funext walk
  unfold WalkM.unplaced call
  rw [declarations.signature?_unplaced]
  cases declarations.signature? name with
  | none => rfl
  | some signature =>
    simp only
    split
    · rfl
    · rfl

theorem parallel_unplaced (declarations : Declarations) (position : Position) :
    Parallel (fun part other => other = part.unplaced) declarations declarations.unplaced position
      .zero where
  pure _ := rfl
  bind := by
    rintro α β part _ next follow rfl same
    rw [unplaced_bind, funext same]
  within := by
    rintro frame work _ rfl
    rfl
  allocate _ _ := rfl
  bindName _ _ := rfl
  refer name access := (unplaced_refer position name access).symm
  call name received := (unplaced_call declarations position name received).symm

end Walk

/-- A function without its place. -/
def Function.unplaced (function : Function) : Function :=
  ⟨function.prototype.unplaced, function.body⟩

namespace Walk

theorem function_unplaced (declarations : Declarations) (function : Function) :
    Walk.function declarations.unplaced function.unplaced =
      (unplacedResult id (Walk.function declarations function).1,
        (Walk.function declarations function).2) :=
  congrFun ((parallel_unplaced declarations function.prototype.position).body
    function.prototype.params function.body) _

end Walk

namespace Resolver

theorem function_unplaced (resolver : Resolver) (function : Function)
    (declarations : Declarations) :
    resolver.function function.unplaced declarations.unplaced =
      (unplacedResult id (resolver.function function declarations).1,
        (resolver.function function declarations).2) := by
  have named : function.unplaced.prototype.name = function.prototype.name := rfl
  unfold Resolver.function
  simp only [named, Walk.function_unplaced]
  split
  · rfl
  · rcases Walk.function declarations function with ⟨diagnostic | done, walk⟩
    · rfl
    · rfl

theorem item_unplaced (resolver : Resolver) (item : Item) (declarations : Declarations) :
    resolver.item item.unplaced declarations.unplaced =
      (unplacedResult id (resolver.item item declarations).1,
        (resolver.item item declarations).2) := by
  cases item with
  | definition function => exact resolver.function_unplaced function declarations
  | external prototype => rfl
  | expression function => exact resolver.function_unplaced function declarations

theorem outcome_unplaced (resolver : Resolver) (outcome : Grammar.Outcome) :
    resolver.outcome outcome.unplaced =
      ((resolver.outcome outcome).1.unplaced, (resolver.outcome outcome).2) := by
  obtain ⟨result, after⟩ := outcome
  cases result with
  | error diagnostic => rfl
  | ok item =>
    have alike := resolver.item_unplaced item after.declarations
    unfold outcome
    simp only [Grammar.Outcome.unplaced, unplacedResult]
    rw [show after.unplaced.declarations = after.declarations.unplaced from rfl, alike]
    rcases resolver.item item after.declarations with ⟨diagnostic | handle, later⟩
    · rfl
    · rfl

theorem outcomes_unplaced (resolver : Resolver) (outcomes : List Grammar.Outcome) :
    resolver.outcomes (outcomes.map Grammar.Outcome.unplaced) =
      ((resolver.outcomes outcomes).1.map Event.unplaced, (resolver.outcomes outcomes).2) := by
  induction outcomes generalizing resolver with
  | nil => rfl
  | cons first rest ih =>
    simp only [List.map_cons, Resolver.outcomes, resolver.outcome_unplaced first, ih]

end Resolver

/-! ## Sources -/

/-- A source without places begins as its tokens say. -/
theorem Session.unplaced_ofSource {left right : String}
    (same : (tokenize right).map Token.unplaced = (tokenize left).map Token.unplaced) :
    (Session.ofSource right).unplaced = (Session.ofSource left).unplaced := by
  unfold tokenize at same
  simp only [List.map_append, List.map_cons, List.map_nil] at same
  have alike := (List.append_inj' same rfl).1
  simp only [Session.unplaced, Session.ofSource, alike]

/-- What comes of a source, without places, comes of the source without places. -/
theorem unplaced_compile (source : String) :
    (compile source).unplaced =
      (let read := Grammar.program (Session.ofSource source).unplaced
      let resolved := Resolver.outcomes {} read.1
      ⟨resolved.1, read.2, resolved.2⟩) := by
  simp only [Grammar.program_unplaced, Resolver.outcomes_unplaced]
  rfl

/-- Sources with the same tokens, wherever these stand, compile to the same but for places: the same
items are accepted with the same resolutions and refused for the same causes, in the same order, and
in the end the same operators, declarations and bodies are known. -/
theorem layout_does_not_matter {left right : String}
    (same : (tokenize right).map Token.unplaced = (tokenize left).map Token.unplaced) :
    (compile right).unplaced = (compile left).unplaced := by
  rw [unplaced_compile, unplaced_compile, Session.unplaced_ofSource same]

/-- An operator, a use of it, an assignment to a number and a call of a function that is not
declared, on one line and on several with a comment among them. -/
theorem layout_does_not_matter_broken :
    (compile "def binary | (a b) a; 1 | 2; 1 = 2; g(3)").unplaced =
      (compile "def binary |(a b)\n  a;\n1|2; // or\n1=2;\n\tg( 3 )\n").unplaced :=
  layout_does_not_matter (by decide +kernel)

end Kaleido
