import Kaleido.Token.Cursor
import Kaleido.Proofs.Lexemes
import Mathlib.Algebra.Group.Nat.Defs
import Mathlib.Data.List.Induction

/-!
# Positions in the order of the text

Lines and columns are 32-bit words, which are enough for a text of fewer than 2³² - 1 characters:
up to there, the place after more of the text is a later place. Main statement: the tokens of such a
text, with its end, stand at places that are later and later.
-/
namespace Kaleido

namespace Position

/-- That one place comes before another, by line and then by column. -/
def Before (first second : Position) : Prop :=
  first.line < second.line ∨ first.line = second.line ∧ first.column < second.column

instance (first second : Position) : Decidable (first.Before second) :=
  inferInstanceAs (Decidable (_ ∨ _))

theorem Before.trans {first second third : Position} (before : first.Before second)
    (after : second.Before third) : first.Before third := by
  unfold Before at *
  simp only [UInt32.lt_iff_toNat_lt, ← UInt32.toNat_inj] at *
  omega

/-- A place is no further than the text before it allows, by lines and by columns. -/
theorem after_start_le (text : List Char) :
    (start.after text).line.toNat ≤ text.length + 1 ∧
      (start.after text).column.toNat ≤ text.length + 1 := by
  induction text using List.reverseRecOn with
  | nil => decide
  | append_singleton text c ih =>
    obtain ⟨line, column⟩ := ih
    rw [after_append, after_cons, after_nil, List.length_append, List.length_singleton]
    generalize start.after text = place at line column ⊢
    have succ : ∀ word : UInt32, (word + 1).toNat ≤ word.toNat + 1 := by
      intro word
      rw [UInt32.toNat_add]
      exact Nat.mod_le ..
    unfold step
    split
    · exact ⟨(succ place.line).trans (Nat.succ_le_succ line), by simp⟩
    · exact ⟨line.trans (Nat.le_succ _), (succ place.column).trans (Nat.succ_le_succ column)⟩

/-- Where neither word overflows, a step leads to a later place. -/
theorem before_step {place : Position} (line : place.line.toNat < 2 ^ 32 - 1)
    (column : place.column.toNat < 2 ^ 32 - 1) (c : Char) : place.Before (place.step c) := by
  have succ : ∀ word : UInt32, word.toNat < 2 ^ 32 - 1 → word < word + 1 := by
    intro word fits
    rw [UInt32.lt_iff_toNat_lt, UInt32.toNat_add]
    simp only [UInt32.reduceToNat]
    omega
  unfold step
  split
  · exact .inl (succ _ line)
  · exact .inr ⟨rfl, succ _ column⟩

theorem before_after {text more : List Char} (some : more ≠ [])
    (short : text.length + more.length < 2 ^ 32 - 1) :
    (start.after text).Before (start.after (text ++ more)) := by
  induction more using List.reverseRecOn with
  | nil => exact absurd rfl some
  | append_singleton more c ih =>
    rw [List.length_append, List.length_singleton] at short
    have bound := after_start_le (text ++ more)
    rw [List.length_append] at bound
    have last : (start.after (text ++ more)).Before _ := before_step (by omega) (by omega) c
    rw [← List.append_assoc, after_append _ (text ++ more)]
    by_cases none : more = []
    · subst none
      rw [List.append_nil] at last ⊢
      exact last
    · exact (ih none (by omega)).trans last

end Position

namespace Cursor

/-- After what a pattern covers comes the rest of the text. -/
theorem skip_covered (cursor : Cursor) (pattern : Pattern) :
    cursor.rest = pattern.covered cursor.rest ++
        (cursor.skip (pattern.covered cursor.rest).length).rest ∧
      (cursor.skip (pattern.covered cursor.rest).length).position =
        cursor.position.after (pattern.covered cursor.rest) := by
  obtain ⟨rest, same⟩ := pattern.covered_initial cursor.rest
  have covers : cursor.rest.take (pattern.covered cursor.rest).length =
      pattern.covered cursor.rest := (List.prefix_iff_eq_take.mp ⟨rest, same.symm⟩).symm
  constructor
  · conv_lhs => rw [← List.take_append_drop (pattern.covered cursor.rest).length cursor.rest]
    rw [covers, skip]
  · rw [skip, covers]

/-- A token begins after a gap, and the cursor after it stands where its text ends. -/
theorem next_spans (cursor : Cursor) :
    ∃ gap, cursor.rest = gap ++ cursor.next.1.lexeme.toList ++ cursor.next.2.rest ∧
      cursor.next.1.position = cursor.position.after gap ∧
      cursor.next.2.position = cursor.position.after (gap ++ cursor.next.1.lexeme.toList) := by
  fun_induction next cursor with
  | case1 cursor ended => exact ⟨[], by simp [Token.finish], rfl, rfl⟩
  | case2 cursor ahead none =>
    refine ⟨[], ?_, rfl, ?_⟩
    · simp only [skip, String.toList_ofList, List.nil_append, List.take_append_drop]
    · simp only [skip, String.toList_ofList, List.nil_append]
  | case3 cursor ahead pattern found lexeme kind same =>
    obtain ⟨rest, place⟩ := cursor.skip_covered pattern
    refine ⟨[], ?_, rfl, ?_⟩
    · rw [String.toList_ofList]
      exact rest
    · rw [String.toList_ofList]
      exact place
  | case4 cursor ahead pattern found lexeme none ih =>
    obtain ⟨rest, place⟩ := cursor.skip_covered pattern
    obtain ⟨gap, rest', begins, ends⟩ := ih
    refine ⟨lexeme ++ gap, ?_, ?_, ?_⟩
    · rw [rest, rest']
      simp only [List.append_assoc, lexeme]
    · rw [begins, place, Position.after_append]
    · rw [ends, place, List.append_assoc, ← Position.after_append]

/-- A token other than the end has a text. -/
theorem lexeme_next_ne (cursor : Cursor) (more : cursor.next.1.kind ≠ .finish) :
    cursor.next.1.lexeme.toList ≠ [] := by
  fun_induction next cursor with
  | case1 => simp at more
  | case2 cursor ahead none => simpa using ahead
  | case3 cursor ahead pattern found lexeme kind same =>
    rw [String.toList_ofList]
    exact Pattern.covered_ne_nil found
  | case4 cursor ahead pattern found lexeme none ih => exact ih more

/-- The tokens ahead, with the end. -/
def tokens (cursor : Cursor) : List Token := cursor.scan.1 ++ [.finish cursor.scan.2]

theorem tokens_of_finish {cursor : Cursor} (finish : cursor.next.1.kind = .finish) :
    cursor.tokens = [.finish cursor.next.1.position] := by
  rw [tokens, scan]
  simp only [finish, if_true, List.nil_append]

theorem tokens_of_more {cursor : Cursor} (more : cursor.next.1.kind ≠ .finish) :
    cursor.tokens = cursor.next.1 :: cursor.next.2.tokens := by
  rw [tokens, scan]
  simp only [more, if_false]
  rfl

/-- The tokens ahead stand after more and more of a text of which `passed` has been read. -/
theorem tokens_in_order {passed : List Char} {cursor : Cursor}
    (here : cursor.position = Position.start.after passed)
    (short : passed.length + cursor.rest.length < 2 ^ 32 - 1) :
    (∀ token ∈ cursor.tokens, ∃ text, text <+: cursor.rest ∧
      token.position = Position.start.after (passed ++ text)) ∧
    cursor.tokens.Pairwise fun first second => first.position.Before second.position := by
  obtain ⟨gap, rest, begins, ends⟩ := cursor.next_spans
  rw [here, ← Position.after_append] at begins ends
  by_cases finish : cursor.next.1.kind = .finish
  · rw [tokens_of_finish finish]
    refine ⟨?_, List.pairwise_singleton ..⟩
    intro token member
    obtain rfl := List.mem_singleton.mp member
    exact ⟨gap, ⟨_, by rw [rest, List.append_assoc]⟩, begins⟩
  · have some := cursor.lexeme_next_ne finish
    have fewer := cursor.rest_next_lt finish
    have length := congrArg List.length rest
    simp only [List.length_append] at length
    obtain ⟨later, sorted⟩ := tokens_in_order ends (by simp only [List.length_append]; omega)
    rw [tokens_of_more finish]
    refine ⟨?_, List.pairwise_cons.mpr ⟨?_, sorted⟩⟩
    · intro token member
      rcases List.mem_cons.mp member with rfl | member
      · exact ⟨gap, ⟨_, by rw [rest, List.append_assoc]⟩, begins⟩
      · obtain ⟨text, initial, place⟩ := later token member
        refine ⟨gap ++ cursor.next.1.lexeme.toList ++ text, ?_, ?_⟩
        · rw [rest]
          exact List.prefix_append_right_inj _ |>.mpr initial
        · rw [place, List.append_assoc]
    · -- The text of the token, which is not empty, lies between it and every later one.
      intro token member
      obtain ⟨text, initial, place⟩ := later token member
      have bound := initial.length_le
      rw [begins, place, List.append_assoc passed, List.append_assoc gap, ← List.append_assoc passed]
      apply Position.before_after
      · simp [some]
      · simp only [List.length_append]
        omega
termination_by cursor.rest.length

end Cursor

/-- The tokens of a text that is not too long stand at later and later places. -/
theorem tokenize_in_order {source : String} (short : source.length < 2 ^ 32 - 1) :
    (tokenize source).Pairwise fun first second => first.position.Before second.position := by
  have here : (Cursor.ofSource source).position = Position.start.after [] := rfl
  refine (Cursor.tokens_in_order here ?_).2
  rw [List.length_nil, Nat.zero_add, Cursor.ofSource, String.length_toList]
  exact short

end Kaleido
