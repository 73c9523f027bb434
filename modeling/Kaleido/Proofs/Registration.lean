import Kaleido.Proofs.Recovery

/-!
# What an item declares

An item can change the operator table and the declarations in one way: a definition or an external
declaration declares the prototype that it begins with, before anything else of it is read. Main
statement: the tables after an item are those before it, with at most that prototype declared, and
the prototype is declared also if the body after it cannot be read.
-/
namespace Kaleido

/-- What a session has declared. -/
def Session.tables (s : Session) : Operators × Declarations := (s.operators, s.declarations)

theorem Session.ReadsTo.tables {earlier later : Session} (reads : earlier.ReadsTo later) :
    later.tables = earlier.tables := by
  simp only [Session.tables, reads.operators, reads.declarations]

namespace Grammar

/-! ## What comes of an item -/

/-- The answers that there are for an item, by the step at which it is settled. -/
inductive Answers (s : Session) (result : Except Diagnostic Item) (after : Session) : Prop where
  /-- The prototype cannot be read. -/
  | unread {diagnostic : Diagnostic} (begins : beginsDeclaration s.current.kind)
      (failed : (prototype s.advance).result = .error diagnostic)
      (result : result = .error diagnostic) (after : after = (prototype s.advance).after)
  /-- The prototype is refused. -/
  | refused {declared : Prototype} {diagnostic : Diagnostic}
      (begins : beginsDeclaration s.current.kind)
      (read : (prototype s.advance).result = .ok declared)
      (refuses : ((prototype s.advance).after.register declared).1 = .error diagnostic)
      (result : result = .error diagnostic) (after : after = (prototype s.advance).after)
  /-- The prototype is declared, and nothing follows. -/
  | external {declared : Prototype} (keyword : s.current.kind = .keyword .external)
      (read : (prototype s.advance).result = .ok declared)
      (registers : (prototype s.advance).after.register declared = (.ok (), after))
      (result : result = .ok (.external declared))
  /-- The prototype is declared, and a body follows. -/
  | definition {declared : Prototype} {registered : Session}
      (keyword : s.current.kind = .keyword .definition)
      (read : (prototype s.advance).result = .ok declared)
      (registers : (prototype s.advance).after.register declared = (.ok (), registered))
      (result : result = (expression registered).result.map fun body =>
        .definition ⟨declared, [body]⟩)
      (after : after = (expression registered).after)
  /-- There is no prototype. -/
  | expression (plain : beginsDeclaration s.current.kind = false)
      (result : result = (topLevel s).result) (after : after = (topLevel s).after)

/-- What comes of a declaration after its keyword: the prototype is read, then declared, then the
rest is read. -/
theorem answers_declaration {s : Session} (begins : beginsDeclaration s.current.kind)
    {rest : Prototype → (after : Session) → Reply after Item}
    (refuses : ∀ declared after diagnostic, (after.register declared).1 = .error diagnostic →
      (rest declared after).result = .error diagnostic ∧ (rest declared after).after = after)
    (goesOn : ∀ declared registered, (prototype s.advance).result = .ok declared →
      (prototype s.advance).after.register declared = (.ok (), registered) →
      Answers s (rest declared (prototype s.advance).after).result
        (rest declared (prototype s.advance).after).after) :
    Answers s ((prototype s.advance).andThen fun declared after _ => rest declared after).result
      ((prototype s.advance).andThen fun declared after _ => rest declared after).after := by
  cases read : (prototype s.advance).result with
  | error diagnostic =>
    rw [Reply.andThen_of_error read]
    exact .unread begins read rfl rfl
  | ok declared =>
    rw [Reply.andThen_of_ok read]
    rcases registers : (prototype s.advance).after.register declared with
      ⟨diagnostic | _, registered⟩
    · have refused := congrArg Prod.fst registers
      obtain ⟨result, after⟩ := refuses declared _ diagnostic refused
      exact .refused begins read refused result after
    · exact goesOn declared registered read registers

theorem answers_definition {s : Session} (keyword : s.current.kind = .keyword .definition) :
    Answers s (definition s).result (definition s).after := by
  unfold definition
  rw [Session.take_andThen]
  refine answers_declaration (by rw [keyword]; rfl) (fun declared after diagnostic refused => ?_)
    fun declared registered read registers => ?_
  · rw [declare_of_error refused]
    exact ⟨rfl, rfl⟩
  · rw [declare_of_ok registers]
    exact .definition keyword read registers rfl rfl

theorem answers_external {s : Session} (keyword : s.current.kind = .keyword .external) :
    Answers s (external s).result (external s).after := by
  unfold external
  rw [Session.take_andThen]
  refine answers_declaration (by rw [keyword]; rfl) (fun declared after diagnostic refused => ?_)
    fun declared registered read registers => ?_
  · rw [declare_of_error refused]
    exact ⟨rfl, rfl⟩
  · rw [declare_of_ok registers]
    exact .external keyword read registers rfl

theorem answers_item (s : Session) : Answers s (item s).result (item s).after := by
  by_cases plain : beginsDeclaration s.current.kind = false
  · rw [item_eq_topLevel s plain]
    exact .expression plain rfl rfl
  · unfold item
    split
    · next keyword => exact answers_definition keyword
    · next keyword => exact answers_external keyword
    · next notDefinition notExternal =>
      refine absurd ?_ plain
      unfold beginsDeclaration
      split
      · exact absurd ‹_› notDefinition
      · exact absurd ‹_› notExternal
      · rfl

/-! ## What it declares -/

/-- The prototype that an item declares, if it is a declaration and its prototype can be read. -/
def declaredBy? (s : Session) : Option Prototype :=
  if beginsDeclaration s.current.kind then (prototype s.advance).result.toOption else none

theorem declaredBy?_eq_some_iff {s : Session} {declared : Prototype} :
    declaredBy? s = some declared ↔
      beginsDeclaration s.current.kind ∧ (prototype s.advance).result = .ok declared := by
  unfold declaredBy?
  cases beginsDeclaration s.current.kind with
  | false => simp
  | true => cases (prototype s.advance).result <;> simp [Except.toOption]

/-- The tables of a session after a prototype is declared or refused. -/
def tablesWith (s : Session) (declared : Prototype) : Operators × Declarations :=
  (s.register declared).2.tables

/-- A prototype that is refused leaves the tables as they were. -/
theorem tablesWith_of_error {s : Session} {declared : Prototype} {diagnostic : Diagnostic}
    (refuses : (s.register declared).1 = .error diagnostic) : tablesWith s declared = s.tables := by
  rw [tablesWith, Session.register_of_error refuses]

theorem readsTo_opening (s : Session) : s.ReadsTo (opening s) := s.passWhile_readsTo _

/-- A prototype is declared in the same way before and after its tokens are read. -/
theorem register_of_reads {earlier later : Session} (reads : earlier.ReadsTo later)
    (declared : Prototype) :
    later.register declared = ((earlier.register declared).1, { later with
      operators := (earlier.register declared).2.operators
      declarations := (earlier.register declared).2.declarations }) :=
  Session.register_congr reads.operators reads.declarations declared

theorem tablesWith_of_reads {earlier later : Session} (reads : earlier.ReadsTo later)
    (declared : Prototype) : tablesWith later declared = tablesWith earlier declared := by
  unfold tablesWith
  rw [register_of_reads reads]
  rfl

/-- The reader of an item declares its prototype, if it has one that can be read, and nothing
else. -/
theorem tables_item (s : Session) :
    (item s).after.tables =
      match declaredBy? s with
      | some declared => tablesWith s declared
      | none => s.tables := by
  have reads := (Session.ReadsTo.advance s).trans (closed_reads.prototype s.advance)
  unfold declaredBy?
  cases answers_item s with
  | unread begins failed result after =>
    rw [after, if_pos begins, failed]
    exact reads.tables
  | @refused declared diagnostic begins read refuses result after =>
    rw [after, if_pos begins, read]
    show _ = tablesWith s declared
    rw [← tablesWith_of_reads reads, tablesWith_of_error refuses]
  | @external declared keyword read registers result =>
    have begins : beginsDeclaration s.current.kind := by rw [keyword]; rfl
    rw [if_pos begins, read]
    show _ = tablesWith s declared
    rw [← tablesWith_of_reads reads, tablesWith, registers]
  | @definition declared registered keyword read registers result after =>
    have begins : beginsDeclaration s.current.kind := by rw [keyword]; rfl
    rw [after, if_pos begins, read]
    show _ = tablesWith s declared
    rw [← tablesWith_of_reads reads, tablesWith, registers]
    exact (closed_reads.expression registered).tables
  | expression plain result after =>
    rw [after, plain]
    exact (closed_reads.topLevel s).tables

theorem nextItem_fst {s : Session} (more : (opening s).current.kind ≠ .finish) :
    (nextItem s).1 = some (item (opening s)).result := by
  rw [nextItem_eq, if_neg more]
  cases (item (opening s)).result with
  | ok found => rfl
  | error diagnostic => rfl

/-- A token that is dropped after an item declares nothing. -/
theorem tables_afterItem (s : Session) :
    (afterItem s).tables =
      match declaredBy? (opening s) with
      | some declared => tablesWith s declared
      | none => s.tables := by
  have reads := readsTo_opening s
  unfold afterItem
  rw [nextItem_eq]
  split
  · next finish =>
    simp only [declaredBy?, finish, beginsDeclaration, Bool.false_eq_true, if_false]
    exact reads.tables
  · have stopped : (stop s).tables = _ := tables_item (opening s)
    rw [reads.tables] at stopped
    simp only [tablesWith_of_reads reads] at stopped
    rw [← stopped]
    split
    · rfl
    · rfl

/-! ## What it leaves as it was -/

theorem find?_register {s after : Session} {declared : Prototype}
    (registers : s.register declared = (.ok (), after)) {name : String}
    (other : name ≠ declared.name) :
    after.declarations.find? name = s.declarations.find? name := by
  obtain ⟨inForce, declarations, registered, rfl⟩ := Session.register_eq_ok registers
  rcases Declarations.register_cases registered with ⟨-, -, rfl⟩ | ⟨-, rfl⟩
  · exact Table.find?_insert_of_ne _ _ other
  · rfl

/-- Declaring a prototype leaves the operators as they are that it is not the prototype of. -/
theorem precedence?_register_of_ne {s after : Session} (consistent : s.Consistent)
    {declared : Prototype} (declarable : declared.Declarable)
    (registers : s.register declared = (.ok (), after)) {op : Char}
    (other : Role.binary.functionName op ≠ declared.name) :
    after.operators.precedence? op = s.operators.precedence? op := by
  obtain ⟨inForce, declarations, registered, rfl⟩ := Session.register_eq_ok registers
  rcases Declarations.register_cases registered with ⟨-, rfl, -⟩ | ⟨held, -⟩
  · simp only [Operators.precedence?_entering _ declarable]
    rw [if_neg fun same => other same.2.symm]
  · exact consistent.precedence?_entering_inForce held op

/-- A definition that was read has a body that was read. -/
theorem definition_of_body {s : Session} {declared : Prototype} {found : Item}
    (read : ((expression s).result.map fun body => Item.definition ⟨declared, [body]⟩) =
      .ok found) :
    ∃ body, (expression s).result = .ok body ∧ .definition ⟨declared, [body]⟩ = found :=
  (Reply.result_map_eq_ok_iff _ (expression s) found).mp read

/-- An item that was read has the prototype that it declares. -/
theorem prototype_of_declaredBy? {s : Session} {declared : Prototype} {found : Item}
    (declares : declaredBy? s = some declared) (read : (item s).result = .ok found) :
    found.prototype = declared := by
  obtain ⟨begins, prototypeRead⟩ := declaredBy?_eq_some_iff.mp declares
  cases answers_item s with
  | unread _ failed result after => cases result.symm.trans read
  | refused _ _ refuses result after => cases result.symm.trans read
  | external keyword given registers result =>
    cases given.symm.trans prototypeRead
    cases result.symm.trans read
    rfl
  | definition keyword given registers result after =>
    cases given.symm.trans prototypeRead
    obtain ⟨body, -, rfl⟩ := definition_of_body (result.symm.trans read)
    rfl
  | expression plain result after =>
    rw [plain] at begins
    cases begins

/-- The item that follows in a reached session declares a prototype of one of the forms. -/
theorem declarable_of_declaredBy? {source : String} {s : Session} (reached : s.Reached source)
    {declared : Prototype} (declares : declaredBy? (opening s) = some declared) :
    declared.Declarable := by
  have reads := (readsTo_opening s).trans (.advance (opening s))
  exact prototype_declarable (reached.consistent.lexed.follows reads.follows)
    (declaredBy?_eq_some_iff.mp declares).2

/-! ## When it declares nothing -/

theorem declaredBy?_of_expression {s : Session} {function : Function}
    (read : (item s).result = .ok (.expression function)) : declaredBy? s = none := by
  cases answers_item s with
  | unread _ failed result after => cases result.symm.trans read
  | refused _ _ refuses result after => cases result.symm.trans read
  | external keyword given registers result => cases result.symm.trans read
  | definition keyword given registers result after =>
    obtain ⟨body, -, other⟩ := definition_of_body (result.symm.trans read)
    cases other
  | expression plain result after => simp [declaredBy?, plain]

section
variable {s : Session} (begins : beginsDeclaration s.current.kind)
include begins

/-- A prototype that cannot be read is what its declaration is refused for. -/
theorem result_item_of_unread {diagnostic : Diagnostic}
    (failed : (prototype s.advance).result = .error diagnostic) :
    (item s).result = .error diagnostic := by
  cases answers_item s with
  | unread _ again result after =>
    cases again.symm.trans failed
    exact result
  | refused _ read refuses result after => cases read.symm.trans failed
  | external keyword read registers result => cases read.symm.trans failed
  | definition keyword read registers result after => cases read.symm.trans failed
  | expression plain result after => cases plain.symm.trans begins

theorem result_item_of_refused {declared : Prototype} {diagnostic : Diagnostic}
    (read : (prototype s.advance).result = .ok declared)
    (refuses : ((prototype s.advance).after.register declared).1 = .error diagnostic) :
    (item s).result = .error diagnostic := by
  cases answers_item s with
  | unread _ failed result after => cases failed.symm.trans read
  | refused _ given again result after =>
    cases given.symm.trans read
    cases again.symm.trans refuses
    exact result
  | external keyword given registers result =>
    cases given.symm.trans read
    cases (congrArg Prod.fst registers).symm.trans refuses
  | definition keyword given registers result after =>
    cases given.symm.trans read
    cases (congrArg Prod.fst registers).symm.trans refuses
  | expression plain result after => cases plain.symm.trans begins

end

/-- A body that cannot be read is what its definition is refused for. -/
theorem result_item_of_body {s registered : Session} {declared : Prototype}
    {diagnostic : Diagnostic} (keyword : s.current.kind = .keyword .definition)
    (read : (prototype s.advance).result = .ok declared)
    (registers : (prototype s.advance).after.register declared = (.ok (), registered))
    (failed : (expression registered).result = .error diagnostic) :
    (item s).result = .error diagnostic := by
  cases answers_item s with
  | unread _ unread result after => cases unread.symm.trans read
  | refused _ given refuses result after =>
    cases given.symm.trans read
    cases refuses.symm.trans (congrArg Prod.fst registers)
  | external other given again result => cases other.symm.trans keyword
  | definition _ given again result after =>
    cases given.symm.trans read
    cases again.symm.trans registers
    rw [result, failed]
    rfl
  | expression plain result after => simp [keyword, beginsDeclaration] at plain

theorem kind_ne_finish_of_begins {kind : Kind} (begins : beginsDeclaration kind) :
    kind ≠ .finish := by
  rintro rfl
  cases begins

theorem tables_afterItem_of_none {s : Session} (nothing : declaredBy? (opening s) = none) :
    (afterItem s).tables = s.tables := by
  rw [tables_afterItem, nothing]

section
variable {s : Session} {declared : Prototype}
variable (declares : declaredBy? (opening s) = some declared)
include declares

theorem tables_afterItem_of_refused {diagnostic : Diagnostic}
    (refuses : (s.register declared).1 = .error diagnostic) : (afterItem s).tables = s.tables := by
  rw [tables_afterItem, declares]
  exact tablesWith_of_error refuses

theorem tables_afterItem_of_registers {registered : Session}
    (registers : s.register declared = (.ok (), registered)) :
    (afterItem s).tables = registered.tables := by
  rw [tables_afterItem, declares]
  simp only [tablesWith, registers]

end

/-! ## The tables after the next item -/

/-- The next item changes the tables by declaring the prototype that it begins with, or not at all.
They are as before after an expression, and after an item that is refused for its expression, for
the tokens of its prototype or for the prototype as a whole; but if a body cannot be read, the
prototype before it is declared. Nothing is changed for other names and operators. -/
theorem item_declares_at_most_its_prototype {source : String} {s : Session}
    (reached : s.Reached source) :
    ((afterItem s).tables = s.tables ∨
      ∃ declared registered, beginsDeclaration (opening s).current.kind ∧
        (prototype (opening s).advance).result = .ok declared ∧
        s.register declared = (.ok (), registered) ∧ (afterItem s).tables = registered.tables ∧
        (∀ found, (nextItem s).1 = some (.ok found) → found.prototype = declared) ∧
        (∀ name, name ≠ declared.name →
          (afterItem s).declarations.find? name = s.declarations.find? name) ∧
        ∀ op, Role.binary.functionName op ≠ declared.name →
          (afterItem s).operators.precedence? op = s.operators.precedence? op) ∧
    (∀ function, (nextItem s).1 = some (.ok (.expression function)) →
      (afterItem s).tables = s.tables) ∧
    (∀ diagnostic, (nextItem s).1 = some (.error diagnostic) →
      beginsDeclaration (opening s).current.kind = false → (afterItem s).tables = s.tables) ∧
    (∀ diagnostic, beginsDeclaration (opening s).current.kind →
      (prototype (opening s).advance).result = .error diagnostic →
      (nextItem s).1 = some (.error diagnostic) ∧ (afterItem s).tables = s.tables) ∧
    (∀ declared diagnostic, beginsDeclaration (opening s).current.kind →
      (prototype (opening s).advance).result = .ok declared →
      (s.register declared).1 = .error diagnostic →
      (nextItem s).1 = some (.error diagnostic) ∧ (afterItem s).tables = s.tables) ∧
    ∀ declared registered diagnostic, (opening s).current.kind = .keyword .definition →
      (prototype (opening s).advance).result = .ok declared →
      (prototype (opening s).advance).after.register declared = (.ok (), registered) →
      (expression registered).result = .error diagnostic →
      (nextItem s).1 = some (.error diagnostic) ∧
        ∃ entered, s.register declared = (.ok (), entered) ∧
          (afterItem s).tables = entered.tables := by
  -- Prototypes are declared after their tokens are read, which changes no table.
  have toPrototype : s.ReadsTo (prototype (opening s).advance).after :=
    ((readsTo_opening s).trans (.advance _)).trans (closed_reads.prototype _)
  refine ⟨?_, ?_, ?_, ?_, ?_, ?_⟩
  · cases declares : declaredBy? (opening s) with
    | none => exact .inl (tables_afterItem_of_none declares)
    | some declared =>
      rcases registers : s.register declared with ⟨diagnostic | _, registered⟩
      · exact .inl (tables_afterItem_of_refused declares (congrArg Prod.fst registers))
      · have tables := tables_afterItem_of_registers declares registers
        obtain ⟨operators, declarations⟩ := Prod.mk.inj tables
        obtain ⟨begins, read⟩ := declaredBy?_eq_some_iff.mp declares
        refine .inr ⟨declared, registered, begins, read, registers, tables, ?_, ?_, ?_⟩
        · intro found held
          exact prototype_of_declaredBy? declares (afterItem_of_ok held).1
        · intro name other
          rw [declarations]
          exact find?_register registers other
        · intro op other
          rw [operators]
          exact precedence?_register_of_ne reached.consistent
            (declarable_of_declaredBy? reached declares) registers other
  · intro function read
    exact tables_afterItem_of_none (declaredBy?_of_expression (afterItem_of_ok read).1)
  · intro diagnostic failed plain
    exact tables_afterItem_of_none (by simp [declaredBy?, plain])
  · intro diagnostic begins failed
    rw [nextItem_fst (kind_ne_finish_of_begins begins), result_item_of_unread begins failed]
    refine ⟨rfl, tables_afterItem_of_none ?_⟩
    rw [declaredBy?, if_pos begins, failed]
    rfl
  · intro declared diagnostic begins read refuses
    have later := (congrArg Prod.fst (register_of_reads toPrototype declared)).trans refuses
    rw [nextItem_fst (kind_ne_finish_of_begins begins), result_item_of_refused begins read later]
    exact ⟨rfl, tables_afterItem_of_refused (declaredBy?_eq_some_iff.mpr ⟨begins, read⟩) refuses⟩
  · intro declared registered diagnostic keyword read registers failed
    have begins : beginsDeclaration (opening s).current.kind := by rw [keyword]; rfl
    have declares := declaredBy?_eq_some_iff.mpr ⟨begins, read⟩
    rw [nextItem_fst (kind_ne_finish_of_begins begins),
      result_item_of_body keyword read registers failed]
    refine ⟨rfl, ?_⟩
    rcases earlier : s.register declared with ⟨refused | _, entered⟩
    · rw [register_of_reads toPrototype, earlier] at registers
      cases registers
    · exact ⟨entered, rfl, tables_afterItem_of_registers declares earlier⟩

/-- An operator is declared although the body of its definition is missing. -/
theorem declares_operator_without_body :
    (nextItem (afterItems "f(1) def binary | 5 (a b) ) g(2)" 1)).1 =
      some (.error ⟨.unexpectedToken ")", ⟨1, 27⟩⟩) ∧
    ∃ entered, (afterItems "f(1) def binary | 5 (a b) ) g(2)" 1).register
        ⟨"binary|", ["a", "b"], .binary, some 5, ⟨1, 10⟩⟩ = (.ok (), entered) ∧
      (afterItem (afterItems "f(1) def binary | 5 (a b) ) g(2)" 1)).tables = entered.tables := by
  have effect := (item_declares_at_most_its_prototype
    (.afterItems "f(1) def binary | 5 (a b) ) g(2)" 1)).2.2.2.2.2
  apply effect ⟨"binary|", ["a", "b"], .binary, some 5, ⟨1, 10⟩⟩
  · decide +kernel
  · with_unfolding_all rfl
  · with_unfolding_all rfl
  · with_unfolding_all rfl

end Grammar

end Kaleido
