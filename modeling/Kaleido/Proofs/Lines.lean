import Kaleido.Text
import Kaleido.Proofs.Positions
import Mathlib.Data.List.DropRight

/-!
# Lines and columns

The place after a text of fewer than 2³² - 1 characters: its line is one more than the number of
line feeds in the text, and its column one more than the number of characters since the last of
them. Main statement: the line of a source with that number begins with these characters and goes on
to the next line feed.
-/
namespace Kaleido

namespace Text

/-- The characters after the last line feed of a text. -/
def lastLine (text : List Char) : List Char := text.rtakeWhile (· ≠ '\n')

theorem lastLine_concat_feed (text : List Char) : lastLine (text ++ ['\n']) = [] := by
  simp [lastLine]

theorem lastLine_concat {c : Char} (other : c ≠ '\n') (text : List Char) :
    lastLine (text ++ [c]) = lastLine text ++ [c] := by
  simp [lastLine, other]

theorem feed_notMem_lastLine (text : List Char) : '\n' ∉ lastLine text := by
  intro member
  simpa using List.mem_rtakeWhile_imp member

end Text

/-- Where no word overflows, the line of a place counts the line feeds before it, and its column the
characters since the last of them. -/
theorem Position.after_start_eq {text : List Char} (short : text.length < 2 ^ 32 - 1) :
    (start.after text).line.toNat = text.count '\n' + 1 ∧
      (start.after text).column.toNat = (Text.lastLine text).length + 1 := by
  induction text using List.reverseRecOn with
  | nil => decide
  | append_singleton text c ih =>
    rw [List.length_append, List.length_singleton] at short
    obtain ⟨line, column⟩ := ih (by omega)
    have bound := after_start_le text
    rw [after_append, after_cons, after_nil]
    generalize start.after text = place at line column bound ⊢
    have succ : ∀ word : UInt32, word.toNat ≤ text.length + 1 →
        (word + 1).toNat = word.toNat + 1 := by
      intro word fits
      rw [UInt32.toNat_add, UInt32.toNat_one]
      omega
    unfold step
    split
    · next feed =>
      subst feed
      rw [Text.lastLine_concat_feed]
      exact ⟨by simp [succ _ bound.1, line], rfl⟩
    · next other =>
      rw [Text.lastLine_concat other]
      refine ⟨?_, ?_⟩
      · simp [line, other]
      · simp [succ _ bound.2, column]

namespace Text

/-! ## The line at a place -/

theorem lastLine_of_notMem {text : List Char} (single : '\n' ∉ text) : lastLine text = text := by
  refine List.rtakeWhile_eq_self_iff.mpr fun c member => ?_
  have other : c ≠ '\n' := fun same => single (same ▸ member)
  simpa using other

/-- The last line of a text is that of any part at its end which has a line feed before it. -/
theorem lastLine_append_feed (before text : List Char) :
    lastLine (before ++ '\n' :: text) = lastLine text := by
  induction text using List.reverseRecOn with
  | nil => rw [lastLine_concat_feed, lastLine, List.rtakeWhile_nil]
  | append_singleton text c ih =>
    rw [← List.cons_append, ← List.append_assoc]
    by_cases feed : c = '\n'
    · subst feed
      rw [lastLine_concat_feed, lastLine_concat_feed]
    · rw [lastLine_concat feed, lastLine_concat feed, ih]

/-- The line at a place of a text: what stands before the place since the last line feed, and what
follows up to the next one. -/
theorem lineAfter_append (before after : List Char) :
    lineAfter (before.count '\n') (before ++ after) =
      some (lastLine before ++ after.takeWhile (· ≠ '\n')) := by
  have plain : ∀ line : List Char, '\n' ∉ line → ∀ c ∈ line, decide (c ≠ '\n') := by
    intro line single c member
    simpa using ne_of_mem_of_not_mem member single
  generalize counted : before.count '\n' = feeds
  induction feeds generalizing before with
  | zero =>
    have single := List.count_eq_zero.mp counted
    rw [lineAfter, List.takeWhile_append_of_pos (plain before single), lastLine_of_notMem single]
  | succ feeds ih =>
    have more : '\n' ∈ before := List.count_pos_iff.mp (by omega)
    obtain ⟨line, rest, rfl, single⟩ := List.eq_append_cons_of_mem more
    have passed : (line ++ '\n' :: rest ++ after).dropWhile (· ≠ '\n') =
        '\n' :: (rest ++ after) := by
      rw [List.append_assoc, List.dropWhile_append_of_pos (plain line single), List.cons_append,
        List.dropWhile_cons_of_neg (by simp)]
    rw [List.count_append, List.count_cons_self, List.count_eq_zero_of_not_mem single,
      Nat.zero_add] at counted
    rw [lineAfter, passed, lastLine_append_feed]
    exact ih rest (Nat.succ.inj counted)

end Text

/-- The line of a source at the place after some of it. -/
theorem Text.line?_after {source : String} {before after : List Char}
    (divided : source.toList = before ++ after) (short : source.length < 2 ^ 32 - 1) :
    line? source (Position.start.after before).line =
      some (String.ofList (trimReturns (lastLine before ++ after.takeWhile (· ≠ '\n')))) := by
  have bound : before.length < 2 ^ 32 - 1 := by
    rw [← String.length_toList, divided, List.length_append] at short
    omega
  have line := (Position.after_start_eq bound).1
  have positive : (Position.start.after before).line ≠ 0 := by
    intro zero
    rw [zero] at line
    cases line
  rw [line?, if_neg positive, line, Nat.add_sub_cancel, divided, lineAfter_append]
  rfl

end Kaleido
