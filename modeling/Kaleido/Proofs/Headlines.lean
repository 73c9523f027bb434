import Kaleido.Diagnostic.Excerpt
import Kaleido.Proofs.Extent
import Kaleido.Proofs.Forms
import Kaleido.Proofs.OperatorCalls
import Kaleido.Proofs.SourceOrder
import Kaleido.Proofs.Tiling

/-!
# What diagnostics say is on one line

The texts in a diagnostic are fixed, or those of tokens and of names made of them, and no token has
a blank character in it. So a line feed never comes from a source into a headline. Main statement:
the headline of every diagnostic of a compilation is a single line.
-/
namespace Kaleido

/-! ## Texts -/

namespace Text

@[simp] theorem oneLine_append (first second : String) :
    OneLine (first ++ second) ↔ OneLine first ∧ OneLine second := by
  simp [OneLine, not_or]

theorem oneLine_of_unblank {text : String} (unblank : ∀ c ∈ text.toList, isBlank c = false) :
    OneLine text := by
  intro feed
  cases unblank '\n' feed

theorem oneLine_of_isVisible {text : String} (visible : ∀ c ∈ text.toList, isVisible c) :
    OneLine text :=
  oneLine_of_unblank fun c member => not_isBlank_of_isVisible (visible c member)

theorem oneLine_char {c : Char} (other : c ≠ '\n') : OneLine c.toString := by
  simpa [OneLine] using other.symm

theorem ne_feed {c : Char} (unblank : isBlank c = false) : c ≠ '\n' := by
  rintro rfl
  cases unblank

@[simp] theorem oneLine_repr (n : Nat) : OneLine n.repr := by
  refine oneLine_of_isVisible fun c member => isVisible_of_isDigit ?_
  rw [Nat.repr, String.toList_ofList] at member
  exact Nat.isDigit_of_mem_toDigits (by decide) (by decide) member

@[simp] theorem oneLine_int (n : Int) : OneLine n.repr := by
  cases n with
  | ofNat n => exact oneLine_repr n
  | negSucc n =>
    exact (oneLine_append "-" _).mpr ⟨oneLine_ofList (by decide), oneLine_repr (n + 1)⟩

end Text

theorem IsIdentifier.oneLine {name : String} (identifier : IsIdentifier name) :
    Text.OneLine name :=
  Text.oneLine_of_isVisible fun c member =>
    isVisible_of_isWordPart (identifier.1.isWordPart c member)

theorem IsOperator.ne_feed {op : Char} (operator : IsOperator op) : op ≠ '\n' := by
  have mark := operator.mark
  simp only [isOperatorMark, Bool.and_eq_true] at mark
  exact Text.ne_feed (not_isBlank_of_isVisible (isVisible_of_isPunctuation mark.1))

/-- The function that an operator stands for has a name on one line. -/
theorem Role.oneLine_functionName (role : Role) {op : Char} (other : op ≠ '\n') :
    Text.OneLine (role.functionName op) := by
  have mark := Text.oneLine_char other
  cases role with
  | function => exact mark
  | unary => exact (Text.oneLine_append ..).mpr ⟨Text.oneLine_ofList (by decide), mark⟩
  | binary => exact (Text.oneLine_append ..).mpr ⟨Text.oneLine_ofList (by decide), mark⟩

theorem Prototype.Declarable.oneLine {prototype : Prototype} (declarable : prototype.Declarable) :
    Text.OneLine prototype.name := by
  cases declarable with
  | function word => exact word.oneLine
  | unary mark => exact Role.unary.oneLine_functionName mark.ne_feed
  | binary mark => exact Role.binary.oneLine_functionName mark.ne_feed

/-! ## Causes -/

namespace Cause

/-- The texts in a cause, other than numbers. -/
def texts : Cause → List String
  | .unrecognisedToken text | .unexpectedToken text | .malformedNumber text
  | .invalidPrecedence text | .builtinOperator text | .variableNotDeclared text
  | .unknownFunction text | .functionRedefined text | .generationFailed text => [text]
  | .misplacedToken text message => [text, message]
  | .expectedToken expected found => [expected, found]
  | .invalidAssignmentTarget => []
  | .invalidOperandCount text .. | .conflictingPrototype text .. | .conflictingPrecedence text ..
  | .unexpectedArguments text .. => [text]

/-- That all texts in a cause are on one line. -/
def OneLine (cause : Cause) : Prop := ∀ text ∈ cause.texts, Text.OneLine text

theorem OneLine.of_text {cause : Cause} {text : String} (single : cause.texts = [text])
    (plain : Text.OneLine text) : cause.OneLine := by
  rw [OneLine, single]
  simpa using plain

theorem OneLine.of_texts {cause : Cause} {first second : String}
    (both : cause.texts = [first, second]) (plain : Text.OneLine first)
    (plain' : Text.OneLine second) : cause.OneLine := by
  rw [OneLine, both]
  simp [plain, plain']

theorem oneLine_name (cause : Cause) : Text.OneLine cause.name := by
  cases cause <;> exact Text.oneLine_ofList (by decide)

/-- What a cause has to say beside the texts in it is on one line. -/
theorem OneLine.tip {cause : Cause} (texts : cause.OneLine) :
    ∀ tip ∈ cause.tip?, Text.OneLine tip := by
  intro tip told
  cases cause with
  | unrecognisedToken => cases told
  | invalidAssignmentTarget =>
    cases told
    exact Text.oneLine_ofList (by decide)
  | generationFailed =>
    cases told
    exact texts tip (by simp [Cause.texts])
  | _ =>
    cases told
    simp only [OneLine, Cause.texts, List.forall_mem_cons] at texts
    simp only [Text.oneLine_append, Text.oneLine_repr, Text.oneLine_int, texts, and_true]
    and_intros <;> exact Text.oneLine_ofList (by decide)

end Cause

/-- What a diagnostic says is on one line if the texts in its cause are. -/
theorem oneLine_headline {diagnostic : Diagnostic} (texts : diagnostic.cause.OneLine) :
    Text.OneLine diagnostic.headline := by
  have name := diagnostic.cause.oneLine_name
  have start : Text.OneLine "Error: " := Text.oneLine_ofList (by decide)
  unfold Diagnostic.headline
  split
  · simp [start, name]
  · next tip told =>
    have between : Text.OneLine " (" ∧ Text.OneLine ")" :=
      ⟨Text.oneLine_ofList (by decide), Text.oneLine_ofList (by decide)⟩
    simp [start, name, between, texts.tip tip told]

/-! ## Tokens -/

/-- Tokens that the language knows are made of visible characters. -/
theorem Kind.Spells.isVisible {kind : Kind} {text : List Char} (spells : kind.Spells text)
    (known : kind ≠ .unexpected) : ∀ c ∈ text, isVisible c := by
  cases kind with
  | finish =>
    obtain rfl := spells
    simp
  | unexpected => exact absurd rfl known
  | identifier => exact fun c member => isVisible_of_isWordPart (spells.1.isWordPart c member)
  | number =>
    obtain ⟨whole, digits, ⟨rfl, -⟩ | ⟨fraction, rfl, more⟩⟩ := spells
    · exact fun c member => isVisible_of_isDigit (digits c member)
    · intro c member
      rcases List.mem_append.mp member with inWhole | rest
      · exact isVisible_of_isDigit (digits c inWhole)
      · rcases List.mem_cons.mp rest with rfl | inFraction
        · decide
        · exact isVisible_of_isDigit (more c inFraction)
  | keyword word =>
    have same : text = word.word.toList := by rw [← spells, String.toList_ofList]
    rw [same]
    exact fun c member => isVisible_of_isWordPart (word.isWord_word.isWordPart c member)
  | operator =>
    obtain ⟨c, rfl, free⟩ := spells
    simp only [isFreeMark, Bool.and_eq_true] at free
    simpa using isVisible_of_isPunctuation free.1
  | _ =>
    obtain rfl := spells
    exact List.forall_mem_singleton.mpr rfl

/-- That no character of a token is blank. -/
def Token.Unblank (token : Token) : Prop := ∀ c ∈ token.lexeme.toList, Text.isBlank c = false

theorem Cursor.unblank_next (cursor : Cursor) : cursor.next.1.Unblank := by
  obtain ⟨gap, -, -, -, chosen⟩ := cursor.next_chosen
  by_cases unexpected : cursor.next.1.kind = .unexpected
  · have found := chosen (by rw [unexpected]; simp)
    obtain ⟨⟨c, single⟩, -⟩ := found.unexpected unexpected
    have begins := found.unblank c (by simp [single])
    intro other member
    rw [single, List.mem_singleton] at member
    rwa [member]
  · exact fun c member =>
      not_isBlank_of_isVisible (Kind.Spells.isVisible cursor.spelled_next unexpected c member)

namespace Token.Unblank

variable {token : Token} (unblank : token.Unblank)
include unblank

theorem oneLine : Text.OneLine token.lexeme := Text.oneLine_of_unblank unblank

theorem oneLine_text : Text.OneLine token.text := by
  unfold Token.text
  split
  · exact Text.oneLine_ofList (by decide)
  · exact unblank.oneLine

end Token.Unblank

namespace Session

/-- That no token ahead has a blank character. -/
def Unblank (s : Session) : Prop := ∀ token ∈ s.ahead, token.Unblank

theorem unblank_ofSource (source : String) : (ofSource source).Unblank := by
  intro token member
  obtain ⟨-, reader, rfl⟩ := Cursor.mem_scan member
  exact reader.unblank_next

namespace Unblank

variable {s later : Session}

theorem follows (unblank : s.Unblank) (follows : later.Follows s) : later.Unblank :=
  fun token member => unblank token (follows.ahead.subset member)

theorem advance (unblank : s.Unblank) : s.advance.Unblank := unblank.follows s.advance_follows

theorem current (unblank : s.Unblank) : s.current.Unblank := by
  unfold Session.current
  split
  · intro c member
    cases member
  · next token rest same => exact unblank token (by simp [same])

end Unblank

end Session

/-! ## Readers -/

namespace Grammar

/-- That what a diagnostic tells is on one line. -/
def OneLine (diagnostic : Diagnostic) (_after : Session) : Prop := diagnostic.cause.OneLine

/-- What is told of the next token is on one line. -/
theorem Fault.oneLine {s : Session} (unblank : s.Unblank) {cause : Cause} (fault : Fault s cause) :
    cause.OneLine := by
  cases fault with
  | unrecognised => exact .of_text rfl unblank.current.oneLine
  | unexpected => exact .of_text rfl unblank.current.oneLine_text
  | misplaced plain => exact .of_texts rfl unblank.current.oneLine_text plain
  | expected plain => exact .of_texts rfl plain unblank.current.oneLine_text
  | number => exact .of_text rfl unblank.current.oneLine
  | assignment => exact fun text member => nomatch member

/-- Readers of expressions tell the tokens that they find, and these are on one line. -/
theorem closed_oneLine : Closed fun s _ reply => s.Unblank → reply.FailsBy OneLine where
  pure _ _ := .of_ok rfl
  fail fault unblank := .fail (fault.oneLine unblank)
  map f plain unblank := (plain unblank).map f
  advance _ plain unblank := plain unblank.advance
  andThen plain more unblank :=
    (plain unblank).andThen fun a _ => more a _ _ (unblank.follows (Reply.follows _))

/-! ## Prototypes and items -/

section
variable {s : Session} (unblank : s.Unblank)
include unblank

theorem oneLine_expected {wanted : List Char} (plain : '\n' ∉ wanted) (position : Position) :
    OneLine ⟨.expectedToken (String.ofList wanted) s.current.text, position⟩ s :=
  .of_texts rfl (Text.oneLine_ofList plain) unblank.current.oneLine_text

theorem oneLine_optionalPrecedence : (optionalPrecedence s).FailsBy OneLine := by
  unfold optionalPrecedence
  split
  · refine .map (.andThen (.of_ok rfl) fun token taken => ?_) _
    obtain rfl := Except.ok.inj taken
    split
    · exact .of_ok rfl
    · exact .fail (.of_text rfl unblank.current.oneLine)
  · exact .of_ok rfl

theorem oneLine_declaredOperator : (declaredOperator s).FailsBy OneLine := by
  unfold declaredOperator
  split
  · exact .fail (oneLine_expected unblank (by decide) _)
  · exact .fail (oneLine_expected unblank (by decide) _)
  · exact .of_ok rfl

theorem oneLine_declaredBinary (lexed : s.Lexed) : (declaredBinary s).FailsBy OneLine := by
  refine (oneLine_declaredOperator unblank).andThen fun op read => ?_
  split
  · have mark := (declaredOperator_mark lexed read).1
    exact .fail (.of_text rfl (Text.oneLine_char mark.ne_feed))
  · exact (oneLine_optionalPrecedence (unblank.follows (declaredOperator s).follows)).map _

theorem oneLine_parameters : (parameters s).FailsBy OneLine := by
  refine .andThen (closed_oneLine.expectKind s _ rfl (by decide) unblank) fun _ _ => ?_
  refine .map (closed_oneLine.expectKind _ _ rfl (by decide) (unblank.follows ?_)) _
  exact (Session.passWhile_follows _ _).trans (Session.expect _ _ _).follows

theorem oneLine_operands (role : Role) {op : Char} (mark : IsOperator op)
    (precedence : Option Int) (expected : Nat) (position : Position) :
    (operands role op precedence expected position s).FailsBy OneLine := by
  refine (oneLine_parameters unblank).andThen fun params _ => ?_
  split
  · exact .of_ok rfl
  · exact .fail (.of_text rfl (Text.oneLine_char mark.ne_feed))

theorem oneLine_prototype (lexed : s.Lexed) : (prototype s).FailsBy OneLine := by
  have unblank₁ := unblank.advance
  have lexed₁ := lexed.follows s.advance_follows
  unfold prototype
  simp only
  split
  · refine .andThen (.of_ok rfl) fun _ _ => ?_
    refine (oneLine_declaredOperator unblank₁).andThen fun op read => ?_
    have mark := (declaredOperator_mark lexed₁ read).1
    exact oneLine_operands (unblank₁.follows (Reply.follows _)) _ mark _ _ _
  · refine .andThen (.of_ok rfl) fun _ _ => ?_
    refine (oneLine_declaredBinary unblank₁ lexed₁).andThen fun op read => ?_
    have mark := (declaredBinary_mark lexed₁ read).1
    exact oneLine_operands (unblank₁.follows (Reply.follows _)) _ mark _ _ _
  · refine .andThen (.of_ok rfl) fun _ _ => ?_
    exact (oneLine_parameters unblank₁).map _
  · exact .fail (oneLine_expected unblank (by decide) _)

end

/-- A prototype that is refused is told by its name, or by the operator that ends it. -/
theorem oneLine_refused {s : Session} {declared : Prototype} {diagnostic : Diagnostic}
    (plain : Text.OneLine declared.name) (refused : (s.register declared).1 = .error diagnostic) :
    diagnostic.cause.OneLine := by
  obtain ⟨inForce, -, conflict, -⟩ := Session.register_eq_error refused
  unfold Declarations.conflict? at conflict
  split at conflict
  · exact .of_text (congrArg Cause.texts (Option.some.inj conflict).symm) plain
  · split at conflict
    · next op received named _ =>
      split at conflict
      · refine .of_text (congrArg Cause.texts (Option.some.inj conflict).symm) ?_
        refine Text.oneLine_char fun feed => plain ?_
        unfold Prototype.operator? at named
        split at named
        · cases named
        · exact feed ▸ List.mem_of_getLast? named
      · cases conflict
    · cases conflict

/-- What is reported of an item that cannot be read is on one line. -/
theorem oneLine_item {s : Session} (lexed : s.Lexed) (unblank : s.Unblank) :
    (item s).FailsBy OneLine := by
  intro diagnostic failed
  have unblank₁ := unblank.advance
  have lexed₁ := lexed.follows s.advance_follows
  cases answers_item s with
  | unread begins unread result after =>
    cases result.symm.trans failed
    exact oneLine_prototype unblank₁ lexed₁ diagnostic unread
  | refused begins read refuses result after =>
    cases result.symm.trans failed
    exact oneLine_refused (prototype_declarable lexed₁ read).oneLine refuses
  | external keyword read registers result => cases result.symm.trans failed
  | @definition declared registered keyword read registers result after =>
    have follows := (Session.register_follows registers).trans (prototype s.advance).follows
    have body := closed_oneLine.expression registered (unblank₁.follows follows)
    exact body.map _ diagnostic (result.symm.trans failed)
  | expression plain result after =>
    exact closed_oneLine.topLevel s unblank diagnostic (result.symm.trans failed)

end Grammar

/-! ## The resolver -/

/-- The function that an item defines, declares or evaluates has a name on one line. -/
theorem Item.Readable.oneLine {item : Item} (readable : item.Readable) :
    Text.OneLine item.prototype.name := by
  cases readable with
  | definition declarable => exact declarable.oneLine
  | external declarable => exact declarable.oneLine
  | expression named =>
    rcases named with rfl | rfl
    · exact Text.oneLine_ofList (by decide)
    · exact Text.oneLine_ofList (by decide)

namespace Walk

theorem oneLine_call {declarations : Declarations} {position : Position} {name : String}
    (plain : Text.OneLine name) (received : Nat) :
    (call declarations position name received).EndsBy Cause.OneLine :=
  endsBy_call (fun _ => .of_text rfl plain) fun _ _ _ => .of_text rfl plain

/-- A walk over a body tells names and the functions of operators. -/
theorem oneLine_expression {s : Session} (consistent : s.Consistent) {position : Position}
    {expr : Expr} (wellFormed : expr.WellFormed (fun _ => True) (s.operators.contains ·)) :
    (expression s.declarations position expr).EndsBy Cause.OneLine := by
  refine endsBy_expression ?_ ?_ ?_ ?_ wellFormed
  · exact fun name identifier => .of_text rfl identifier.oneLine
  · exact fun name received identifier => oneLine_call identifier.oneLine received
  · intro op known _ _
    obtain ⟨precedence, entry⟩ := Option.isSome_iff_exists.mp known
    have mark := (consistent.operator entry).1
    exact oneLine_call (Role.binary.oneLine_functionName mark.ne_feed) 2
  · exact fun op mark => oneLine_call (Role.unary.oneLine_functionName mark.ne_feed) 1

end Walk

/-! ## Diagnostics -/

open Grammar in
theorem oneLine_of_reported {source : String} {i : Nat} {diagnostic : Diagnostic}
    (reported : reported? source i = some diagnostic) : diagnostic.cause.OneLine := by
  have consistent := (Session.Reached.afterItems source i).consistent
  have opens := readsTo_opening (afterItems source i)
  have lexed := consistent.lexed.follows opens.follows
  obtain ⟨result, found, event⟩ := Option.bind_eq_some_iff.mp reported
  cases result with
  | error unread =>
    obtain rfl := Option.some.inj event
    have unblank := (Session.unblank_ofSource source).follows
      (opens.follows.trans (follows_afterItems source (Nat.zero_le i)))
    exact oneLine_item lexed unblank _ (afterItem_of_error found).1
  | ok item =>
    unfold Resolver.outcome at event
    simp only at event
    split at event
    · cases event
    · next unresolved after held =>
      obtain rfl := Option.some.inj event
      have sound := sound_nextItem consistent (Prod.ext found rfl)
      have readable := readable_item lexed (afterItem_of_ok found).1
      refine Resolver.cause_item (.of_text rfl readable.oneLine) (fun expr member _ => ?_)
        (congrArg Prod.fst held)
      exact Walk.oneLine_expression sound.consistent (sound.wellFormed item rfl expr member)

/-- What a diagnostic of a compilation says is on one line. -/
theorem oneLine_headline_of_mem {source : String} {diagnostic : Diagnostic}
    (member : diagnostic ∈ (compile source).diagnostics) : Text.OneLine diagnostic.headline := by
  rw [Grammar.diagnostics_eq_reported] at member
  obtain ⟨i, -, reported⟩ := List.mem_filterMap.mp member
  exact oneLine_headline (oneLine_of_reported reported)

end Kaleido
