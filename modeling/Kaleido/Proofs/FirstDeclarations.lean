import Kaleido.Proofs.Stability
import Mathlib.Data.List.Induction

/-!
# The first declaration of a name

What is in force after any number of prototypes, of whatever roles, precedences and parameters, were
declared one after the other: for each name, the first one that was not refused. Main statement:
this prototype is never replaced, a later one is refused exactly if it disagrees with it, a refusal
changes nothing, and what was accepted once is accepted for ever.
-/
namespace Kaleido.Declarations

/-! ## Refusals -/

/-- The disagreements of a new prototype with the one in force. The numbers of parameters are
compared first. The precedence matters only where the new prototype is that of an operator with a
name and gives one; the one in force then stands for the default, if it gives none. -/
inductive Conflicts (inForce new : Prototype) : Cause → Prop where
  | arity (differ : inForce.arity ≠ new.arity) :
      Conflicts inForce new (.conflictingPrototype new.name inForce.arity new.arity)
  | precedence {op : Char} {received : Int} (same : inForce.arity = new.arity)
      (operator : new.role ≠ .function) (named : new.name.toList.getLast? = some op)
      (given : new.precedence = some received) (differ : inForce.effectivePrecedence ≠ received) :
      Conflicts inForce new
        (.conflictingPrecedence op.toString inForce.effectivePrecedence received)

theorem operator?_eq_some_iff {prototype : Prototype} {op : Char} :
    prototype.operator? = some op ↔
      prototype.role ≠ .function ∧ prototype.name.toList.getLast? = some op := by
  unfold Prototype.operator?
  split <;> simp_all

theorem conflict?_eq_some_iff {inForce new : Prototype} {cause : Cause} :
    conflict? inForce new = some cause ↔ Conflicts inForce new cause := by
  constructor
  · intro found
    unfold conflict? at found
    split at found
    · next differ =>
      obtain rfl := Option.some.inj found
      exact .arity differ
    · next same =>
      split at found
      · next op received named given =>
        split at found
        · next differ =>
          obtain rfl := Option.some.inj found
          obtain ⟨operator, last⟩ := operator?_eq_some_iff.mp named
          exact .precedence (not_not.mp same) operator last given differ
        · cases found
      · cases found
  · intro conflicts
    cases conflicts with
    | arity differ => rw [conflict?, if_pos differ]
    | precedence same operator named given differ =>
      have marked := operator?_eq_some_iff.mpr ⟨operator, named⟩
      simp only [conflict?, same, ne_eq, not_true_eq_false, if_false, marked, given, differ,
        not_false_eq_true, if_true]

/-- A prototype agrees with itself. -/
theorem conflict?_self (prototype : Prototype) : conflict? prototype prototype = none := by
  refine Option.eq_none_iff_forall_ne_some.mpr fun cause found => ?_
  cases conflict?_eq_some_iff.mp found with
  | arity differ => exact differ rfl
  | precedence _ _ _ given differ =>
    rw [Prototype.effectivePrecedence, given] at differ
    exact differ rfl

variable {declarations after : Declarations} {prototype inForce : Prototype}

theorem register_eq_error_iff {diagnostic : Diagnostic} :
    (declarations.register prototype).1 = .error diagnostic ↔
      ∃ inForce, declarations.find? prototype.name = some inForce ∧
        Conflicts inForce prototype diagnostic.cause ∧
        diagnostic.position = prototype.position := by
  constructor
  · intro refused
    obtain ⟨inForce, held, conflict, place⟩ := register_eq_error refused
    exact ⟨inForce, held, conflict?_eq_some_iff.mp conflict, place⟩
  · rintro ⟨inForce, held, conflicts, place⟩
    simp only [register, held, conflict?_eq_some_iff.mpr conflicts, ← place]

/-- What is in force after a prototype was accepted is in agreement with it. -/
theorem inForce_register (registered : declarations.register prototype = (.ok inForce, after)) :
    after.find? prototype.name = some inForce ∧ conflict? inForce prototype = none := by
  unfold register at registered
  split at registered
  · cases registered
    exact ⟨Table.find?_insert_self .., conflict?_self prototype⟩
  · next found held =>
    split at registered
    · cases registered
    · next agrees =>
      cases registered
      exact ⟨held, agrees⟩

theorem register_of_agrees (held : declarations.find? prototype.name = some inForce)
    (agrees : conflict? inForce prototype = none) :
    declarations.register prototype = (.ok inForce, declarations) := by
  simp only [register, held, agrees]

/-! ## Histories -/

/-- Those of the prototypes that are not refused when they are declared one after the other. -/
def accepted (declarations : Declarations) : List Prototype → List Prototype
  | [] => []
  | prototype :: rest =>
    match declarations.register prototype with
    | (.ok _, after) => prototype :: accepted after rest
    | (.error _, after) => accepted after rest

theorem entering_of_ok (registered : declarations.register prototype = (.ok inForce, after)) :
    declarations.entering prototype = after := by
  rw [entering, registered]

theorem entering_of_error {diagnostic : Diagnostic}
    (refused : (declarations.register prototype).1 = .error diagnostic) :
    declarations.entering prototype = declarations := by
  rw [entering, register_of_error refused]

theorem enteringAll_append (declarations : Declarations) (first second : List Prototype) :
    declarations.enteringAll (first ++ second) =
      (declarations.enteringAll first).enteringAll second :=
  List.foldl_append ..

theorem enteringAll_concat (declarations : Declarations) (history : List Prototype)
    (prototype : Prototype) : declarations.enteringAll (history ++ [prototype]) =
      (declarations.enteringAll history).entering prototype :=
  enteringAll_append ..

/-- A name means what it meant before, or else the first accepted prototype of that name. -/
theorem find?_enteringAll (declarations : Declarations) (history : List Prototype) (name : String) :
    (declarations.enteringAll history).find? name =
      (declarations.find? name).or ((declarations.accepted history).find? (·.name = name)) := by
  induction history generalizing declarations with
  | nil => simp [enteringAll, accepted]
  | cons prototype rest ih =>
    have step : declarations.enteringAll (prototype :: rest) =
      (declarations.entering prototype).enteringAll rest := rfl
    rw [step, ih]
    rcases registered : declarations.register prototype with ⟨diagnostic | inForce, after⟩
    · have kept := entering_of_error (congrArg Prod.fst registered)
      have same : after = declarations := by rw [← kept, entering, registered]
      rw [kept, accepted, registered, same]
    · rw [entering_of_ok registered, accepted, registered, List.find?_cons]
      rcases register_cases registered with ⟨new, rfl, rfl⟩ | ⟨held, rfl⟩
      · by_cases same : name = inForce.name
        · subst same
          simp [new]
        · rw [Table.find?_insert_of_ne _ _ same, decide_eq_false (Ne.symm same)]
      · by_cases same : name = prototype.name
        · subst same
          simp [held]
        · rw [decide_eq_false (Ne.symm same)]

/-- An entry after a name is entered is that of the name or an entry that was there before. -/
theorem mem_entries_insert {name : String} {entry : String × Prototype}
    (member : entry ∈ (declarations.insert name prototype).entries) :
    entry = (name, prototype) ∨ entry ∈ declarations.entries := by
  obtain ⟨entries⟩ := declarations
  simp only [Table.insert] at member ⊢
  induction entries with
  | nil => exact .inl (List.mem_singleton.mp member)
  | cons first rest ih =>
    rw [Table.put] at member
    split at member
    · rcases List.mem_cons.mp member with new | later
      · exact .inl new
      · exact .inr (List.mem_cons_of_mem _ later)
    · rcases List.mem_cons.mp member with rfl | later
      · exact .inr (List.mem_cons_self ..)
      · exact (ih later).imp_right (List.mem_cons_of_mem _)

/-- Every declared prototype stands under its own name. -/
theorem name_of_mem_enteringAll (history : List Prototype) :
    ∀ entry ∈ (enteringAll .empty history).entries, entry.2.name = entry.1 := by
  induction history using List.reverseRecOn with
  | nil =>
    intro entry member
    cases member
  | append_singleton history prototype ih =>
    rw [enteringAll_concat]
    rcases registered : (enteringAll .empty history).register prototype with
      ⟨diagnostic | inForce, after⟩
    · rwa [entering_of_error (congrArg Prod.fst registered)]
    · rw [entering_of_ok registered]
      rcases register_cases registered with ⟨-, -, rfl⟩ | ⟨-, rfl⟩
      · intro entry member
        rcases mem_entries_insert member with rfl | before
        · rfl
        · exact ih entry before
      · exact ih

/-- What was accepted once is accepted after whatever is declared later, with the same answer. -/
theorem register_again (registered : declarations.register prototype = (.ok inForce, after))
    (later : List Prototype) : (declarations.enteringAll (prototype :: later)).register prototype =
      (.ok inForce, declarations.enteringAll (prototype :: later)) := by
  obtain ⟨held, agrees⟩ := inForce_register registered
  have step : declarations.enteringAll (prototype :: later) = after.enteringAll later := by
    rw [← entering_of_ok registered]
    rfl
  rw [step]
  exact register_of_agrees (extends_enteringAll after later _ _ held) agrees

/-- After any prototypes were declared one after the other, each of them or not: a name means the
first accepted prototype of that name, and every prototype stands under its own name; a further one
is refused exactly if it disagrees with the one in force, which changes nothing, and otherwise the
answer is the one that is then in force; and each that was accepted is accepted again, with the same
answer and without a change. -/
theorem first_declarations_stay (history : List Prototype) :
    (∀ name, (enteringAll .empty history).find? name =
      (accepted .empty history).find? (·.name = name)) ∧
    (∀ entry ∈ (enteringAll .empty history).entries, entry.2.name = entry.1) ∧
    (∀ prototype diagnostic,
      ((enteringAll .empty history).register prototype).1 = .error diagnostic ↔
        ∃ inForce, (enteringAll .empty history).find? prototype.name = some inForce ∧
          Conflicts inForce prototype diagnostic.cause ∧
          diagnostic.position = prototype.position) ∧
    (∀ prototype diagnostic,
      ((enteringAll .empty history).register prototype).1 = .error diagnostic →
        ((enteringAll .empty history).register prototype).2 = enteringAll .empty history ∧
          enteringAll .empty (history ++ [prototype]) = enteringAll .empty history) ∧
    (∀ prototype inForce after,
      (enteringAll .empty history).register prototype = (.ok inForce, after) →
        enteringAll .empty (history ++ [prototype]) = after ∧
          after.find? prototype.name = some inForce) ∧
    ∀ earlier prototype later inForce after, history = earlier ++ prototype :: later →
      (enteringAll .empty earlier).register prototype = (.ok inForce, after) →
        (enteringAll .empty history).register prototype =
          (.ok inForce, enteringAll .empty history) := by
  refine ⟨fun name => ?_, name_of_mem_enteringAll history, fun _ _ => register_eq_error_iff,
    fun prototype diagnostic refused => ?_, fun prototype inForce after registered => ?_, ?_⟩
  · rw [find?_enteringAll, Table.find?_empty, Option.none_or]
  · rw [enteringAll_concat, entering_of_error refused, register_of_error refused]
    exact ⟨rfl, rfl⟩
  · rw [enteringAll_concat, entering_of_ok registered]
    exact ⟨rfl, (inForce_register registered).1⟩
  · rintro earlier prototype later inForce after rfl registered
    rw [enteringAll_append]
    exact register_again registered later

end Kaleido.Declarations
