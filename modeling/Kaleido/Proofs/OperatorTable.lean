import Kaleido.Grammar.Program
import Kaleido.Proofs.Prototypes

/-!
# Operator tables and declarations

A session keeps two records of an operator: its precedence under its mark, and its prototype under
the name that is built from the mark. Main statement: however many items of a source are read, and
whatever comes of them, the two records agree, the operators of the language are as they were at
the start, and no operator that can be used ever changes its precedence.
-/
namespace Kaleido

/-! ## What declaring a prototype does -/

/-- The operators once a prototype is in force. -/
def Operators.entering (operators : Operators) (inForce : Prototype) : Operators :=
  match inForce.isBinary, inForce.operator? with
  | true, some op => operators.insert op inForce.effectivePrecedence
  | _, _ => operators

/-- A prototype comes into force if its name has none yet; otherwise the one in force stays. -/
theorem Declarations.register_cases {declarations after : Declarations}
    {prototype inForce : Prototype}
    (registered : declarations.register prototype = (.ok inForce, after)) :
    (declarations.find? prototype.name = none ∧ inForce = prototype ∧
      after = declarations.insert prototype.name prototype) ∨
    (declarations.find? prototype.name = some inForce ∧ after = declarations) := by
  unfold register at registered
  split at registered
  · next none =>
    cases registered
    exact .inl ⟨none, rfl, rfl⟩
  · next found held =>
    split at registered
    · cases registered
    · cases registered
      exact .inr ⟨held, rfl⟩

/-- A prototype is refused if it disagrees with the one in force. -/
theorem Declarations.register_eq_error {declarations : Declarations} {prototype : Prototype}
    {diagnostic : Diagnostic} (refused : (declarations.register prototype).1 = .error diagnostic) :
    ∃ inForce, declarations.find? prototype.name = some inForce ∧
      conflict? inForce prototype = some diagnostic.cause ∧
      diagnostic.position = prototype.position := by
  unfold register at refused
  split at refused
  · cases refused
  · next inForce held =>
    split at refused
    · next cause conflict =>
      obtain rfl := Except.error.inj refused
      exact ⟨inForce, held, conflict, rfl⟩
    · cases refused

/-- A session refuses a prototype for its declarations. -/
theorem Session.register_eq_error {s : Session} {prototype : Prototype} {diagnostic : Diagnostic}
    (refused : (s.register prototype).1 = .error diagnostic) :
    ∃ inForce, s.declarations.find? prototype.name = some inForce ∧
      Declarations.conflict? inForce prototype = some diagnostic.cause ∧
      diagnostic.position = prototype.position := by
  unfold register at refused
  split at refused
  · next found declarations same =>
    obtain rfl := Except.error.inj refused
    exact Declarations.register_eq_error (congrArg Prod.fst same)
  · cases refused

/-- Declaring a prototype changes nothing in a session but the two records. -/
theorem Session.register_eq_ok {s after : Session} {prototype : Prototype}
    (registered : s.register prototype = (.ok (), after)) :
    ∃ inForce declarations, s.declarations.register prototype = (.ok inForce, declarations) ∧
      after = { s with operators := s.operators.entering inForce, declarations := declarations } := by
  unfold register at registered
  split at registered
  · cases registered
  · next inForce declarations same =>
    cases registered
    exact ⟨inForce, declarations, same, rfl⟩

namespace Grammar

/-- What reading can do to a session: it reads tokens, and at most once on the way a prototype that
was just read is declared. -/
inductive Passes (s : Session) : Session → Prop where
  | reads {after : Session} (reads : s.ReadsTo after) : Passes s after
  | declares {start registered after : Session} {declared : Prototype} (before : s.ReadsTo start)
      (read : (prototype start).result = .ok declared)
      (registers : (prototype start).after.register declared = (.ok (), registered))
      (rest : registered.ReadsTo after) : Passes s after

theorem Passes.trans_reads {s middle after : Session} (passes : Passes s middle)
    (reads : middle.ReadsTo after) : Passes s after := by
  cases passes with
  | reads before => exact .reads (before.trans reads)
  | declares before read registers rest => exact .declares before read registers (rest.trans reads)

theorem Passes.of_reads {s middle after : Session} (reads : s.ReadsTo middle)
    (passes : Passes middle after) : Passes s after := by
  cases passes with
  | reads more => exact .reads (reads.trans more)
  | declares before read registers rest => exact .declares (reads.trans before) read registers rest

variable {α β : Type} {s start : Session}

/-- Reading goes on from where a first reader stopped, whether or not another one follows. -/
private theorem passes_andThen {reply : Reply s α}
    {next : α → (after : Session) → after.remaining ≤ s.remaining → Reply after β}
    (stopped : Passes start reply.after)
    (more : ∀ a, reply.result = .ok a → Passes start (next a reply.after reply.follows.le).after) :
    Passes start (reply.andThen next).after := by
  cases held : reply.result with
  | ok a =>
    rw [Reply.after_andThen_of_ok held]
    exact more a held
  | error diagnostic =>
    rw [Reply.andThen_of_error held]
    exact stopped

private theorem passes_declare {declared : Prototype} (read : (prototype s).result = .ok declared) :
    Passes s (declare declared (prototype s).after).after := by
  rcases registers : (prototype s).after.register declared with ⟨diagnostic | _, registered⟩
  · rw [declare_of_error (congrArg Prod.fst registers)]
    exact .reads (closed_reads.prototype s)
  · rw [declare_of_ok registers]
    exact .declares (.refl s) read registers (.refl registered)

private theorem passes_definition (s : Session) : Passes s (definition s).after := by
  refine passes_andThen (.reads (.advance s)) fun _ _ => ?_
  refine .of_reads (.advance s) ?_
  refine passes_andThen (.reads (closed_reads.prototype _)) fun declared read => ?_
  refine passes_andThen (passes_declare read) fun _ _ => ?_
  exact (passes_declare read).trans_reads (closed_reads.expression _)

private theorem passes_external (s : Session) : Passes s (external s).after := by
  refine passes_andThen (.reads (.advance s)) fun _ _ => ?_
  refine .of_reads (.advance s) ?_
  refine passes_andThen (.reads (closed_reads.prototype _)) fun declared read => ?_
  exact passes_declare read

/-- Reading an item, whatever comes of it, declares at most the prototype of the item. -/
theorem passes_item (s : Session) : Passes s (item s).after := by
  unfold item
  split
  · exact passes_definition s
  · exact passes_external s
  · exact .reads (closed_reads.topLevel s)

/-- The session after the next item. -/
def afterItem (s : Session) : Session := (nextItem s).2

/-- The session after a number of items of a source. -/
def afterItems (source : String) (count : Nat) : Session := afterItem^[count] (.ofSource source)

theorem afterItems_succ (source : String) (count : Nat) :
    afterItems source (count + 1) = afterItem (afterItems source count) :=
  Function.iterate_succ_apply' ..

theorem passes_afterItem (s : Session) : Passes s (afterItem s) := by
  have passed := s.passWhile_readsTo fun token => token.kind = .semicolon
  unfold afterItem nextItem
  simp only
  split
  · exact .reads passed
  · split
    · exact .of_reads passed (passes_item _)
    · exact .of_reads passed ((passes_item _).trans_reads (.advance _))

end Grammar

/-! ## The two records agree -/

theorem Operators.precedence?_builtin_eq_none {op : Char} (other : op ≠ '=')
    (free : op ∉ builtinOperators) : builtin.precedence? op = none := by
  simp only [builtinOperators, List.mem_cons, List.not_mem_nil, or_false, not_or] at free
  simp [builtin, precedence?, Table.ofList, Table.find?_insert, other, free]

/-- A prototype in force enters one operator, if it is that of a binary operator. -/
theorem Operators.precedence?_entering (operators : Operators) {inForce : Prototype}
    (declarable : inForce.Declarable) (op : Char) :
    (operators.entering inForce).precedence? op =
      if inForce.role = .binary ∧ inForce.name = Role.binary.functionName op then
        some inForce.effectivePrecedence
      else operators.precedence? op := by
  cases declarable with
  | function word names => simp [entering, Prototype.isBinary]
  | unary mark other names one => simp [entering, Prototype.isBinary, Prototype.ofOperator]
  | @binary held params precedence position mark other free names two range =>
    have binary : (Prototype.ofOperator .binary held params precedence position).isBinary := by
      simp [Prototype.isBinary, Prototype.ofOperator, Prototype.arity, two]
    rw [entering, binary, operator?_ofOperator (by simp)]
    simp only [precedence?, Table.find?_insert, Prototype.ofOperator, true_and]
    refine if_congr ⟨?_, ?_⟩ rfl rfl
    · rintro rfl
      rfl
    · exact fun same => (functionName_binary_inj same).symm

/-- What holds of a session at every place of a source. -/
structure Session.Consistent (s : Session) : Prop where
  lexed : s.Lexed
  builtin : ∀ op precedence, Operators.builtin.precedence? op = some precedence →
    s.operators.precedence? op = some precedence
  declarable : ∀ name inForce, s.declarations.find? name = some inForce →
    inForce.name = name ∧ inForce.Declarable
  entered : ∀ op inForce, s.declarations.find? (Role.binary.functionName op) = some inForce →
    inForce.role = .binary → s.operators.precedence? op = some inForce.effectivePrecedence
  listed : ∀ op precedence, s.operators.precedence? op = some precedence →
    Operators.builtin.precedence? op = none →
    ∃ inForce, s.declarations.find? (Role.binary.functionName op) = some inForce ∧
      inForce.role = .binary

namespace Session.Consistent

variable {s after : Session}

theorem ofSource (source : String) : (Session.ofSource source).Consistent where
  lexed := lexed_ofSource source
  builtin := fun _ _ entry => entry
  declarable := fun _ _ entry => by cases entry
  entered := fun _ _ entry => by cases entry
  listed := fun _ _ entry none => by cases none.symm.trans entry

theorem reads (consistent : s.Consistent) (reads : s.ReadsTo after) : after.Consistent where
  lexed := consistent.lexed.follows reads.follows
  builtin := by
    rw [reads.operators]
    exact consistent.builtin
  declarable := by
    rw [reads.declarations]
    exact consistent.declarable
  entered := by
    rw [reads.operators, reads.declarations]
    exact consistent.entered
  listed := by
    rw [reads.operators, reads.declarations]
    exact consistent.listed

/-- The operator of a prototype that is in force is in the table already. -/
theorem precedence?_entering_inForce (consistent : s.Consistent) {name : String}
    {inForce : Prototype} (held : s.declarations.find? name = some inForce) (op : Char) :
    (s.operators.entering inForce).precedence? op = s.operators.precedence? op := by
  obtain ⟨rfl, declarable⟩ := consistent.declarable name inForce held
  rw [Operators.precedence?_entering _ declarable]
  split
  · next binary =>
    rw [binary.2] at held
    exact (consistent.entered op inForce held binary.1).symm
  · rfl

/-- A name that is declared for the first time is that of no operator in the table. -/
theorem precedence?_eq_none_of_new (consistent : s.Consistent) {declared : Prototype}
    (declarable : declared.Declarable) (new : s.declarations.find? declared.name = none) {op : Char}
    (binary : declared.role = .binary) (named : declared.name = Role.binary.functionName op) :
    s.operators.precedence? op = none ∧ Operators.builtin.precedence? op = none := by
  have free : Operators.builtin.precedence? op = none := by
    cases declarable with
    | function => cases binary
    | unary => cases binary
    | @binary held params precedence position mark other free names two range =>
      obtain rfl := functionName_binary_inj named
      exact Operators.precedence?_builtin_eq_none other free
  refine ⟨?_, free⟩
  cases entry : s.operators.precedence? op with
  | none => rfl
  | some precedence =>
    obtain ⟨inForce, held, -⟩ := consistent.listed op precedence entry free
    rw [← named, new] at held
    cases held

/-- Declaring a prototype never changes the precedence of an operator in the table. -/
theorem precedence?_register (consistent : s.Consistent) {declared : Prototype}
    (declarable : declared.Declarable) (registers : s.register declared = (.ok (), after))
    {op : Char} {precedence : Int} (entry : s.operators.precedence? op = some precedence) :
    after.operators.precedence? op = some precedence := by
  obtain ⟨inForce, declarations, registered, rfl⟩ := Session.register_eq_ok registers
  rcases Declarations.register_cases registered with ⟨new, rfl, -⟩ | ⟨held, -⟩
  · simp only [Operators.precedence?_entering _ declarable]
    split
    · next binary =>
      have none := (consistent.precedence?_eq_none_of_new declarable new binary.1 binary.2).1
      cases none.symm.trans entry
    · exact entry
  · simp only [consistent.precedence?_entering_inForce held, entry]

theorem register (consistent : s.Consistent) {declared : Prototype}
    (declarable : declared.Declarable) (registers : s.register declared = (.ok (), after)) :
    after.Consistent := by
  have kept : ∀ op precedence, s.operators.precedence? op = some precedence →
      after.operators.precedence? op = some precedence :=
    fun op precedence entry => consistent.precedence?_register declarable registers entry
  obtain ⟨inForce, declarations, registered, rfl⟩ := Session.register_eq_ok registers
  rcases Declarations.register_cases registered with ⟨new, rfl, rfl⟩ | ⟨held, rfl⟩
  · constructor
    · exact consistent.lexed
    · exact fun op precedence entry => kept op precedence (consistent.builtin op precedence entry)
    · intro name found entry
      rw [Table.find?_insert] at entry
      split at entry
      · next same =>
        obtain rfl := Option.some.inj entry
        exact ⟨same.symm, declarable⟩
      · exact consistent.declarable name found entry
    · intro op found entry binary
      rw [Table.find?_insert] at entry
      simp only [Operators.precedence?_entering _ declarable]
      split at entry
      · next same =>
        obtain rfl := Option.some.inj entry
        rw [if_pos ⟨binary, same.symm⟩]
      · next other =>
        rw [if_neg fun both => other both.2.symm]
        exact consistent.entered op found entry binary
    · intro op precedence entry free
      simp only [Operators.precedence?_entering _ declarable] at entry
      split at entry
      · next binary => exact ⟨inForce, by rw [← binary.2, Table.find?_insert_self], binary.1⟩
      · obtain ⟨found, held, binary⟩ := consistent.listed op precedence entry free
        have other : Role.binary.functionName op ≠ inForce.name := by
          intro same
          rw [same, new] at held
          cases held
        exact ⟨found, by rwa [Table.find?_insert_of_ne _ _ other], binary⟩
  · constructor
    · exact consistent.lexed
    · exact fun op precedence entry => kept op precedence (consistent.builtin op precedence entry)
    · exact consistent.declarable
    · intro op found entry binary
      simp only [consistent.precedence?_entering_inForce held]
      exact consistent.entered op found entry binary
    · intro op precedence entry free
      simp only [consistent.precedence?_entering_inForce held] at entry
      exact consistent.listed op precedence entry free

/-- Reading keeps a session consistent, and keeps the precedences of its operators. -/
theorem passes (consistent : s.Consistent) (passes : Grammar.Passes s after) :
    after.Consistent ∧ ∀ op precedence, s.operators.precedence? op = some precedence →
      after.operators.precedence? op = some precedence := by
  cases passes with
  | reads reads =>
    refine ⟨consistent.reads reads, fun op precedence entry => ?_⟩
    rwa [reads.operators]
  | @declares start registered after declared before read registers rest =>
    have started := consistent.reads before
    have prototypeRead := started.reads (Grammar.closed_reads.prototype start)
    have declarable := Grammar.prototype_declarable started.lexed read
    refine ⟨(prototypeRead.register declarable registers).reads rest, fun op precedence entry => ?_⟩
    rw [rest.operators]
    apply prototypeRead.precedence?_register declarable registers
    rwa [(Grammar.closed_reads.prototype start).operators, before.operators]

theorem afterItem (consistent : s.Consistent) : (Grammar.afterItem s).Consistent :=
  (consistent.passes (Grammar.passes_afterItem s)).1

/-- The session after any number of items of a source is consistent. -/
theorem afterItems (source : String) (count : Nat) :
    (Grammar.afterItems source count).Consistent := by
  induction count with
  | zero => exact ofSource source
  | succ count ih =>
    rw [Grammar.afterItems_succ]
    exact ih.afterItem

/-- The prototype in force for an operator of the table that the language does not have itself. -/
theorem inForce (consistent : s.Consistent) {op : Char} {precedence : Int}
    (entry : s.operators.precedence? op = some precedence)
    (free : Operators.builtin.precedence? op = none) :
    IsOperator op ∧ ∃ inForce,
      s.declarations.find? (Role.binary.functionName op) = some inForce ∧
      inForce.role = .binary ∧ inForce.arity = 2 ∧ inForce.effectivePrecedence = precedence ∧
      1 ≤ precedence ∧ precedence ≤ 100 := by
  obtain ⟨inForce, held, binary⟩ := consistent.listed op precedence entry free
  have same := Option.some.inj ((consistent.entered op inForce held binary).symm.trans entry)
  obtain ⟨named, declarable⟩ := consistent.declarable _ inForce held
  cases declarable with
  | function => cases binary
  | unary => cases binary
  | @binary other params given position mark _ _ names two range =>
    obtain rfl := functionName_binary_inj named
    refine ⟨mark, _, held, rfl, two, same, ?_⟩
    subst same
    cases given with
    | none => exact show 1 ≤ defaultPrecedence ∧ defaultPrecedence ≤ 100 by decide
    | some value => exact range value rfl

/-- A mark whose name as a binary operator is declared is in the table. -/
theorem contains_of_declared (consistent : s.Consistent) {op : Char} (mark : ¬ isWordPart op)
    (declared : s.declarations.contains (Role.binary.functionName op)) :
    s.operators.contains op := by
  obtain ⟨inForce, held⟩ := Option.isSome_iff_exists.mp declared
  obtain ⟨named, declarable⟩ := consistent.declarable _ inForce held
  have binary : inForce.role = .binary := by
    cases declarable with
    | function word => exact absurd named (functionName_ne_of_word word mark).2
    | unary => exact absurd named (functionName_unary_ne_binary _ op)
    | binary => rfl
  exact Option.isSome_iff_exists.mpr ⟨_, consistent.entered op inForce held binary⟩

end Session.Consistent

open Grammar in
/-- After any number of items of a source, the operator table and the declarations agree: the
operators of the language have the precedences that they had at the start, any other character is
in the table exactly if it continues no word and its name as a binary operator is declared, and the
declaration is then that of a binary operator with the precedence of the table. The next item leaves
every precedence as it is. -/
theorem operators_agree_with_declarations (source : String) (count : Nat) :
    (∀ entry ∈ Operators.builtin.entries,
      (afterItems source count).operators.precedence? entry.1 = some entry.2) ∧
    (∀ op ∉ Operators.builtin.keys, (afterItems source count).operators.contains op ↔
      ¬ isWordPart op ∧
        (afterItems source count).declarations.contains (Role.binary.functionName op)) ∧
    (∀ op ∉ Operators.builtin.keys, ∀ precedence,
      (afterItems source count).operators.precedence? op = some precedence →
      ∃ inForce,
        (afterItems source count).declarations.find? (Role.binary.functionName op) = some inForce ∧
        inForce.role = .binary ∧ inForce.arity = 2 ∧ inForce.effectivePrecedence = precedence ∧
        1 ≤ precedence ∧ precedence ≤ 100) ∧
    ∀ op precedence, (afterItems source count).operators.precedence? op = some precedence →
      (afterItems source (count + 1)).operators.precedence? op = some precedence := by
  have consistent := Session.Consistent.afterItems source count
  have free : ∀ op ∉ Operators.builtin.keys, Operators.builtin.precedence? op = none := by
    intro op outside
    refine List.lookup_eq_none_iff.mpr fun entry member => ?_
    have other : op ≠ entry.1 := by
      rintro rfl
      exact outside (List.mem_map_of_mem member)
    simp [other]
  refine ⟨?_, fun op outside => ⟨?_, ?_⟩, ?_, ?_⟩
  · intro entry member
    have seeded : ∀ entry ∈ Operators.builtin.entries,
        Operators.builtin.precedence? entry.1 = some entry.2 := by decide
    exact consistent.builtin entry.1 entry.2 (seeded entry member)
  · intro known
    obtain ⟨precedence, entry⟩ := Option.isSome_iff_exists.mp known
    obtain ⟨mark, inForce, held, -⟩ := consistent.inForce entry (free op outside)
    exact ⟨not_isWordPart_of_isOperatorMark mark.mark, Option.isSome_iff_exists.mpr ⟨inForce, held⟩⟩
  · rintro ⟨mark, declared⟩
    exact consistent.contains_of_declared mark declared
  · intro op outside precedence entry
    exact (consistent.inForce entry (free op outside)).2
  · intro op precedence entry
    rw [afterItems_succ]
    exact (consistent.passes (passes_afterItem _)).2 op precedence entry

end Kaleido
