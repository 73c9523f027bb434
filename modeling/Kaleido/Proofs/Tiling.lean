import Kaleido.Proofs.Positions
import Kaleido.Proofs.Scanning

/-!
# Tokens and the gaps between them

A source is the texts of its tokens with gaps before, between and after them. Gaps are made of
blanks and comments, and where neither can begin, a token does. Its text is what the first pattern
that fits covers, and no other pattern covers more: patterns that come early and cover much, words
and numerals, share no first character, and all that come later cover one character. Main statement:
the tokens of every source tile it in this way.
-/
namespace Kaleido

/-! ## The stretches that patterns fit -/

namespace Pattern

/-- That a pattern fits a stretch of text, from its first character to its last. -/
def Fits (stretch : List Char) : Pattern → Prop
  | .blanks => stretch ≠ [] ∧ ∀ c ∈ stretch, Text.isBlank c
  | .comment => ∃ body, stretch = '/' :: '/' :: body ∧ ∀ c ∈ body, c ≠ '\n'
  | .word => IsWord stretch
  | .number => IsNumeral stretch
  | .mark c _ => stretch = [c]
  | .punctuation => ∃ c, stretch = [c] ∧ isPunctuation c

/-- That a pattern matches a stretch at the start of a text: the longest one there that it fits. -/
structure Matches (pattern : Pattern) (text stretch : List Char) : Prop where
  initial : stretch <+: text
  fits : pattern.Fits stretch
  longest : ∀ other, other <+: text → pattern.Fits other → other.length ≤ stretch.length

variable {pattern : Pattern} {text stretch : List Char}

theorem Fits.ne_nil (fits : pattern.Fits stretch) : stretch ≠ [] := by
  cases pattern with
  | blanks => exact fits.1
  | comment =>
    obtain ⟨body, rfl, -⟩ := fits
    simp
  | word =>
    obtain ⟨first, rest, rfl, -⟩ := fits
    simp
  | number =>
    obtain ⟨first, rest, rfl, -⟩ := isNumeral_cons fits
    simp
  | mark c kind =>
    obtain rfl := fits
    simp
  | punctuation =>
    obtain ⟨c, rfl, -⟩ := fits
    simp

theorem covered_isPrefix (pattern : Pattern) (text : List Char) :
    pattern.covered text <+: text := by
  obtain ⟨rest, same⟩ := pattern.covered_initial text
  exact ⟨rest, same.symm⟩

/-- What a pattern covers, it fits. -/
theorem fits_covered (some : pattern.covered text ≠ []) : pattern.Fits (pattern.covered text) := by
  cases pattern with
  | blanks => exact ⟨some, fun c member => List.mem_takeWhile_imp member⟩
  | comment =>
    by_cases begins : ∃ rest, text = '/' :: '/' :: rest
    · obtain ⟨rest, rfl⟩ := begins
      refine ⟨rest.takeWhile (· ≠ '\n'), rfl, fun c member => ?_⟩
      simpa using List.mem_takeWhile_imp member
    · exact absurd (covered_comment fun rest same => begins ⟨rest, same⟩) some
  | word => exact isWord_covered some
  | number => exact isNumeral_covered some
  | mark c kind => exact covered_mark some
  | punctuation =>
    cases text with
    | nil => exact absurd rfl some
    | cons c rest =>
      by_cases punctuation : isPunctuation c
      · rw [covered, if_pos punctuation]
        exact ⟨c, rfl, punctuation⟩
      · rw [covered, if_neg punctuation] at some
        exact absurd rfl some

/-- A numeral that more text follows is covered, with the digits after it. -/
theorem isPrefix_covered_number {rest : List Char} (isNumeral : IsNumeral stretch) :
    stretch <+: number.covered (stretch ++ rest) := by
  obtain ⟨whole, digits, ⟨rfl, -⟩ | ⟨fraction, rfl, more⟩⟩ := isNumeral
  · rw [covered, List.takeWhile_append_of_pos digits, List.append_assoc]
    exact List.prefix_append ..
  · have stops : '.'.isDigit = false := rfl
    simp only [covered, List.append_assoc, List.cons_append, List.takeWhile_append_of_pos digits,
      List.dropWhile_append_of_pos digits, List.takeWhile_cons, List.dropWhile_cons, stops,
      Bool.false_eq_true, if_false, List.nil_append, List.takeWhile_append_of_pos more]
    rw [← List.cons_append, ← List.append_assoc]
    exact List.prefix_append ..

/-- What a pattern fits at the start of a text lies within what it covers there. -/
theorem Fits.isPrefix_covered (fits : pattern.Fits stretch) (initial : stretch <+: text) :
    stretch <+: pattern.covered text := by
  obtain ⟨rest, rfl⟩ := initial
  cases pattern with
  | blanks =>
    rw [covered, List.takeWhile_append_of_pos fits.2]
    exact List.prefix_append ..
  | comment =>
    obtain ⟨body, rfl, line⟩ := fits
    rw [List.cons_append, List.cons_append, covered,
      List.takeWhile_append_of_pos (by simpa using line), ← List.cons_append, ← List.cons_append]
    exact List.prefix_append ..
  | word =>
    obtain ⟨first, tail, rfl, start, parts⟩ := fits
    rw [List.cons_append, covered, if_pos start, List.takeWhile_append_of_pos parts,
      ← List.cons_append]
    exact List.prefix_append ..
  | number => exact isPrefix_covered_number fits
  | mark c kind =>
    obtain rfl := fits
    simp [covered]
  | punctuation =>
    obtain ⟨c, rfl, punctuation⟩ := fits
    simp [covered, punctuation]

/-- The match of a pattern is what it covers. -/
theorem matches_iff : pattern.Matches text stretch ↔
    pattern.covered text = stretch ∧ stretch ≠ [] := by
  constructor
  · intro found
    have within := found.fits.isPrefix_covered found.initial
    have some : pattern.covered text ≠ [] := by
      intro none
      rw [none] at within
      exact found.fits.ne_nil (List.prefix_nil.mp within)
    have bound := found.longest _ (pattern.covered_isPrefix text) (fits_covered some)
    exact ⟨(within.eq_of_length_le bound).symm, found.fits.ne_nil⟩
  · rintro ⟨rfl, some⟩
    refine ⟨pattern.covered_isPrefix text, fits_covered some, fun other initial fits => ?_⟩
    exact (fits.isPrefix_covered initial).length_le

/-! ## The first pattern that fits covers most -/

/-- Marks and punctuation are single characters. -/
theorem length_covered_le_one (listed : pattern ∈ all)
    (other : pattern ∉ [blanks, comment, word, number]) : (pattern.covered text).length ≤ 1 := by
  cases pattern with
  | mark c kind =>
    cases text with
    | nil => simp [covered]
    | cons first rest =>
      rw [covered_mark_cons]
      split <;> simp
  | punctuation =>
    cases text with
    | nil => simp [covered]
    | cons first rest =>
      rw [covered]
      split <;> simp
  | _ => simp at other

/-- No numeral begins where a word does. -/
theorem covered_number_of_word (fits : word.covered text ≠ []) : number.covered text = [] := by
  cases text with
  | nil => rfl
  | cons c rest =>
    have start : isWordStart c := by
      by_contra other
      rw [covered, if_neg other] at fits
      exact fits rfl
    have digit : c.isDigit = false := by
      by_contra digit
      rw [not_isWordStart_of_isDigit (by simpa using digit)] at start
      cases start
    have point : c ≠ '.' := by
      rintro rfl
      exact absurd start (by decide)
    simp [covered, digit, point]

/-- Past blanks and comments, a word comes before all that could begin in its place, and a numeral
comes next. -/
theorem first?_eq_word (unblank : blanks.covered text = []) (plain : comment.covered text = [])
    (fits : word.covered text ≠ []) : first? text = some .word := by
  simp [first?, all, unblank, plain, fits]

theorem first?_eq_number (unblank : blanks.covered text = []) (plain : comment.covered text = [])
    (noWord : word.covered text = []) (fits : number.covered text ≠ []) :
    first? text = some .number := by
  simp [first?, all, unblank, plain, noWord, fits]

/-- Where no gap begins, no pattern covers more than the first one that fits. -/
theorem length_covered_le_of_first? {first : Pattern} (unblank : blanks.covered text = [])
    (plain : comment.covered text = []) (found : first? text = some first)
    (listed : pattern ∈ all) :
    (pattern.covered text).length ≤ (first.covered text).length := by
  have some : 0 < (first.covered text).length := List.length_pos_iff.mpr (covered_ne_nil found)
  by_cases long : pattern ∈ [blanks, comment, word, number]
  · simp only [List.mem_cons, List.not_mem_nil, or_false] at long
    by_cases isWord : word.covered text = []
    · by_cases isNumber : number.covered text = []
      · rcases long with rfl | rfl | rfl | rfl
        · simp [unblank]
        · simp [plain]
        · simp [isWord]
        · simp [isNumber]
      · cases found.symm.trans (first?_eq_number unblank plain isWord isNumber)
        rcases long with rfl | rfl | rfl | rfl
        · simp [unblank]
        · simp [plain]
        · simp [isWord]
        · exact Nat.le_refl _
    · cases found.symm.trans (first?_eq_word unblank plain isWord)
      rcases long with rfl | rfl | rfl | rfl
      · simp [unblank]
      · simp [plain]
      · exact Nat.le_refl _
      · simp [covered_number_of_word isWord]
  · exact (length_covered_le_one listed long).trans some

theorem covered_eq_nil_of_none (none : first? text = none) (listed : pattern ∈ all) :
    pattern.covered text = [] := by
  simpa using List.find?_eq_none.mp none pattern listed

/-- The patterns before the first one that fits match nothing. -/
theorem first?_eq_some_iff {first : Pattern} : first? text = some first ↔
    first.covered text ≠ [] ∧ ∃ earlier later, all = earlier ++ first :: later ∧
      ∀ other ∈ earlier, other.covered text = [] := by
  simp [first?, List.find?_eq_some_iff_append]

end Pattern

/-! ## Gaps -/

/-- That a text is a gap before the rest: blanks, and comments that go on to the end of their line
or of the text. -/
inductive Gap (rest : List Char) : List Char → Prop where
  | none : Gap rest []
  | blanks {run gap : List Char} (some : run ≠ []) (blank : ∀ c ∈ run, Text.isBlank c)
      (more : Gap rest gap) : Gap rest (run ++ gap)
  | comment {body gap : List Char} (line : ∀ c ∈ body, c ≠ '\n')
      (ends : ∀ c ∈ (gap ++ rest).head?, c = '\n') (more : Gap rest gap) :
      Gap rest ('/' :: '/' :: body ++ gap)

/-- What a pattern without tokens covers is a gap, as far as the text after it goes on. -/
theorem Gap.of_covered {pattern : Pattern} {text rest gap : List Char}
    (found : Pattern.first? text = some pattern)
    (untold : pattern.kind? (pattern.covered text) = Option.none)
    (after : text = pattern.covered text ++ (gap ++ rest)) (more : Gap rest gap) :
    Gap rest (pattern.covered text ++ gap) := by
  have some := Pattern.covered_ne_nil found
  have fits := Pattern.fits_covered some
  cases pattern with
  | blanks => exact .blanks fits.1 fits.2 more
  | comment =>
    obtain ⟨body, same, line⟩ := fits
    rw [same] at after ⊢
    refine .comment line (fun c first => ?_) more
    -- The comment would cover more if its line went on.
    by_contra other
    obtain ⟨tail, goesOn⟩ := List.head?_eq_some_iff.mp first
    have longer : Pattern.comment.Fits ('/' :: '/' :: (body ++ [c])) := by
      refine ⟨body ++ [c], rfl, fun d member => ?_⟩
      rcases List.mem_append.mp member with inBody | last
      · exact line d inBody
      · rwa [List.mem_singleton.mp last]
    have initial : '/' :: '/' :: (body ++ [c]) <+: text := ⟨tail, by simp [after, goesOn]⟩
    have bound := (longer.isPrefix_covered initial).length_le
    simp only [same, List.length_cons, List.length_append] at bound
    omega
  | word =>
    rw [Pattern.kind?] at untold
    split at untold
    · cases untold
    · cases untold
  | _ => cases untold

/-! ## Tokens -/

/-- That a token is the one to be read at the start of a text. No gap begins there; the text of the
token is at least as long as the match of any pattern, and it is the match of the first pattern that
has one, or a single character if there is none. -/
structure Token.Chosen (token : Token) (ahead : List Char) : Prop where
  unblank : ∀ c ∈ ahead.head?, Text.isBlank c = false
  uncommented : ¬ ['/', '/'] <+: ahead
  longest : ∀ pattern ∈ Pattern.all, ∀ stretch, pattern.Matches ahead stretch →
    stretch.length ≤ token.lexeme.toList.length
  first : token.kind ≠ .unexpected → ∃ earlier pattern later,
    Pattern.all = earlier ++ pattern :: later ∧ pattern.Matches ahead token.lexeme.toList ∧
    pattern.kind? token.lexeme.toList = some token.kind ∧
    ∀ other ∈ earlier, ∀ stretch, ¬ other.Matches ahead stretch
  unexpected : token.kind = .unexpected → (∃ c, token.lexeme.toList = [c]) ∧
    ∀ pattern ∈ Pattern.all, ∀ stretch, ¬ pattern.Matches ahead stretch

theorem Pattern.not_matches {pattern : Pattern} {text : List Char}
    (none : pattern.covered text = []) (stretch : List Char) : ¬ pattern.Matches text stretch := by
  intro found
  obtain ⟨same, some⟩ := Pattern.matches_iff.mp found
  exact some (same.symm.trans none)

/-- Where blanks and comments cover nothing, the text begins with neither. -/
theorem Pattern.no_gap {text : List Char} (unblank : blanks.covered text = [])
    (plain : comment.covered text = []) :
    (∀ c ∈ text.head?, Text.isBlank c = false) ∧ ¬ ['/', '/'] <+: text := by
  constructor
  · intro c first
    obtain ⟨rest, rfl⟩ := List.head?_eq_some_iff.mp first
    by_contra blank
    simp [covered, blank] at unblank
  · rintro ⟨rest, rfl⟩
    simp [covered] at plain

/-- A pattern that gives a token is found where blanks and comments cover nothing, since they come
before it. -/
theorem Pattern.covered_gap_eq_nil {pattern : Pattern} {text : List Char} {kind : Kind}
    (found : first? text = some pattern)
    (given : pattern.kind? (pattern.covered text) = some kind) :
    blanks.covered text = [] ∧ comment.covered text = [] := by
  have unblank : blanks.covered text = [] := by
    by_contra fits
    have blanked : first? text = some .blanks := by simp [first?, all, fits]
    cases found.symm.trans blanked
    cases given
  refine ⟨unblank, ?_⟩
  by_contra fits
  have commented : first? text = some .comment := by simp [first?, all, unblank, fits]
  cases found.symm.trans commented
  cases given

theorem Token.chosen_of_first? {text : List Char} {pattern : Pattern} {kind : Kind}
    (found : Pattern.first? text = some pattern)
    (given : pattern.kind? (pattern.covered text) = some kind) (position : Position) :
    Token.Chosen ⟨kind, String.ofList (pattern.covered text), position⟩ text := by
  obtain ⟨unblank, plain⟩ := Pattern.covered_gap_eq_nil found given
  obtain ⟨begins, uncommented⟩ := Pattern.no_gap unblank plain
  obtain ⟨some, earlier, later, listed, before⟩ := Pattern.first?_eq_some_iff.mp found
  refine ⟨begins, uncommented, ?_, fun _ => ?_, fun unexpected => ?_⟩
  · intro other member stretch fits
    obtain ⟨rfl, -⟩ := Pattern.matches_iff.mp fits
    rw [String.toList_ofList]
    exact Pattern.length_covered_le_of_first? unblank plain found member
  · rw [String.toList_ofList]
    exact ⟨earlier, pattern, later, listed, Pattern.matches_iff.mpr ⟨rfl, some⟩, given,
      fun other member => Pattern.not_matches (before other member)⟩
  · -- The patterns give other kinds.
    obtain rfl : kind = .unexpected := unexpected
    cases pattern with
    | word =>
      rw [Pattern.kind?] at given
      split at given
      · cases given
      · cases given
    | mark c kind =>
      obtain rfl := Option.some.inj given
      exact absurd (Pattern.mem_all_of_first? found) (by simp [Pattern.all])
    | _ => cases given

theorem Token.chosen_of_none {c : Char} {rest : List Char}
    (none : Pattern.first? (c :: rest) = none) (position : Position) :
    Token.Chosen ⟨.unexpected, String.ofList [c], position⟩ (c :: rest) := by
  have covers : ∀ pattern ∈ Pattern.all, pattern.covered (c :: rest) = [] :=
    fun pattern listed => Pattern.covered_eq_nil_of_none none listed
  obtain ⟨begins, uncommented⟩ :=
    Pattern.no_gap (covers .blanks (by decide)) (covers .comment (by decide))
  refine ⟨begins, uncommented, ?_, fun other => absurd rfl other, fun _ => ?_⟩
  · intro pattern listed stretch found
    exact absurd found (Pattern.not_matches (covers pattern listed) stretch)
  · rw [String.toList_ofList]
    exact ⟨⟨c, rfl⟩, fun pattern listed => Pattern.not_matches (covers pattern listed)⟩

/-- That tokens tile a text which begins at a given place: before each of them there is a gap, each
stands after it and is the one to be read there, and after the last gap is the end. -/
inductive Tiled : Position → List Char → List Token → Prop where
  | finish {place : Position} {gap : List Char} (passed : Gap [] gap) :
      Tiled place gap [.finish (place.after gap)]
  | token {place : Position} {gap rest : List Char} {token : Token} {tokens : List Token}
      (passed : Gap (token.lexeme.toList ++ rest) gap) (stands : token.position = place.after gap)
      (chosen : token.Chosen (token.lexeme.toList ++ rest))
      (more : Tiled (place.after (gap ++ token.lexeme.toList)) rest tokens) :
      Tiled place (gap ++ (token.lexeme.toList ++ rest)) (token :: tokens)

namespace Cursor

/-- Reading a token passes over a gap, up to the end or to the token that is to be read there. -/
theorem next_chosen (cursor : Cursor) :
    ∃ gap, cursor.rest = gap ++ (cursor.next.1.lexeme.toList ++ cursor.next.2.rest) ∧
      Gap (cursor.next.1.lexeme.toList ++ cursor.next.2.rest) gap ∧
      (cursor.next.1.kind = .finish → cursor.next.2.rest = []) ∧
      (cursor.next.1.kind ≠ .finish →
        cursor.next.1.Chosen (cursor.next.1.lexeme.toList ++ cursor.next.2.rest)) := by
  fun_induction next cursor with
  | case1 cursor ended =>
    exact ⟨[], by simp [Token.finish, ended], .none, fun _ => ended, fun more => absurd rfl more⟩
  | case2 cursor ahead none =>
    obtain ⟨c, rest, same⟩ := List.exists_cons_of_ne_nil ahead
    rw [same] at none
    refine ⟨[], by simp [same, skip], .none, fun finish => (by cases finish), fun _ => ?_⟩
    simpa [same, skip] using Token.chosen_of_none none cursor.position
  | case3 cursor ahead pattern found lexeme kind given =>
    obtain ⟨rest, -⟩ := cursor.skip_covered pattern
    have chosen := Token.chosen_of_first? found given cursor.position
    simp only [String.toList_ofList, lexeme, ← rest]
    refine ⟨[], rfl, .none, fun finish => ?_, fun _ => chosen⟩
    have spells := Pattern.spells_covered found given
    rw [show kind = .finish from finish] at spells
    exact absurd spells (Pattern.covered_ne_nil found)
  | case4 cursor ahead pattern found lexeme none ih =>
    obtain ⟨rest, -⟩ := cursor.skip_covered pattern
    obtain ⟨gap, after, passed, ends, chosen⟩ := ih
    rw [after] at rest
    refine ⟨lexeme ++ gap, ?_, Gap.of_covered found none rest passed, ends, chosen⟩
    rw [List.append_assoc]
    exact rest

/-- The tokens ahead tile the text ahead. -/
theorem tiled_tokens (cursor : Cursor) : Tiled cursor.position cursor.rest cursor.tokens := by
  obtain ⟨gap, rest, passed, ends, chosen⟩ := cursor.next_chosen
  obtain ⟨gap', rest', begins, stops⟩ := cursor.next_spans
  obtain rfl : gap' = gap := by
    rw [rest, List.append_assoc] at rest'
    exact (List.append_cancel_right rest').symm
  by_cases finish : cursor.next.1.kind = .finish
  · have spelled := cursor.spelled_next
    rw [Token.Spelled, finish] at spelled
    have none : cursor.next.1.lexeme.toList ++ cursor.next.2.rest = [] := by
      rw [ends finish, List.append_nil]
      exact spelled
    rw [none] at rest passed
    rw [tokens_of_finish finish, begins, rest, List.append_nil]
    exact .finish passed
  · have fewer := cursor.rest_next_lt finish
    have more := tiled_tokens cursor.next.2
    rw [stops] at more
    rw [tokens_of_more finish, rest]
    exact .token passed begins (chosen finish) more
termination_by cursor.rest.length

end Cursor

/-- The tokens of a source tile it. There is one end among them, which is the last token; every
other token has a text. The source is these texts with a gap before each and one at the end, of
blanks and comments. Where the text of a token begins no gap does, and the text is the longest match
of all patterns at that place, which is that of the first pattern with a match; where no pattern has
a match it is a single character. -/
theorem tokens_tile_source (source : String) :
    (∃ tokens finish, tokenize source = tokens ++ [.finish finish] ∧
      ∀ token ∈ tokens, token.kind ≠ .finish ∧ token.lexeme.toList ≠ []) ∧
    Tiled .start source.toList (tokenize source) := by
  refine ⟨⟨_, _, rfl, fun token member => ?_⟩, (Cursor.ofSource source).tiled_tokens⟩
  obtain ⟨more, reader, rfl⟩ := Cursor.mem_scan member
  exact ⟨more, reader.lexeme_next_ne more⟩

end Kaleido
