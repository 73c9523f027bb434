import Kaleido.Proofs.Tiling

/-!
# Texts of tokens read again

How a token is read does not depend on what follows it, as long as that begins with a blank: no
pattern goes on over a blank but that of comments, and no token begins like a comment. So the text
of a token is read as the same token where it stands alone, and where it stands among others with
separators between them. Main statement: texts of tokens read back to those tokens, alone and joined
by blanks and comments.
-/
namespace Kaleido

namespace Pattern

/-- The marks of the language are punctuation characters. -/
theorem isPunctuation_of_mark {m : Char} {kind : Kind} (listed : mark m kind ∈ all) :
    isPunctuation m := by
  simp only [all, List.mem_cons, List.not_mem_nil, or_false, mark.injEq, reduceCtorEq, false_or]
    at listed
  rcases listed with ⟨rfl, rfl⟩ | ⟨rfl, rfl⟩ | ⟨rfl, rfl⟩ | ⟨rfl, rfl⟩ | ⟨rfl, rfl⟩ | ⟨rfl, rfl⟩ |
    ⟨rfl, rfl⟩ | ⟨rfl, rfl⟩ | ⟨rfl, rfl⟩ | ⟨rfl, rfl⟩ | ⟨rfl, rfl⟩ <;> decide

/-- Whether any pattern fits at a text depends on its first character. -/
theorem first?_eq_none_iff {c : Char} {rest : List Char} : first? (c :: rest) = none ↔
    Text.isBlank c = false ∧ isWordStart c = false ∧ c.isDigit = false ∧ c ≠ '.' ∧
      isPunctuation c = false := by
  constructor
  · intro none
    have covers : ∀ pattern ∈ all, pattern.covered (c :: rest) = [] :=
      fun pattern listed => covered_eq_nil_of_none none listed
    refine ⟨?_, ?_, ?_, ?_, ?_⟩
    · by_contra blank
      have := covers .blanks (by decide)
      simp [covered, blank] at this
    · by_contra start
      have := covers .word (by decide)
      simp [covered, start] at this
    · by_contra digit
      have := covers .number (by decide)
      simp [covered, digit] at this
    · rintro rfl
      have := covers .number (by decide)
      simp [covered] at this
    · by_contra punctuation
      have := covers .punctuation (by decide)
      simp [covered, punctuation] at this
  · rintro ⟨unblank, unworded, digit, point, other⟩
    have slash : c ≠ '/' := by
      rintro rfl
      cases other
    rw [first?, List.find?_eq_none]
    intro pattern listed
    cases pattern with
    | blanks => simp [covered, unblank]
    | comment => simp [covered_comment_cons slash]
    | word => simp [covered_word_cons unworded]
    | number => simp [covered, digit, point]
    | mark m kind =>
      have differs : c ≠ m := by
        rintro rfl
        rw [isPunctuation_of_mark listed] at other
        cases other
      simp [covered_mark_cons, differs]
    | punctuation => simp [covered, other]

end Pattern

/-! ## Gaps are passed over -/

namespace Cursor

theorem next_of_blank {c : Char} (blank : Text.isBlank c) (text : List Char) (position : Position) :
    next ⟨c :: text, position⟩ = next ⟨text, position.step c⟩ := by
  have found : ∀ d rest, Text.isBlank d → Pattern.first? (d :: rest) = some .blanks := by
    intro d rest blank
    simp [Pattern.first?, Pattern.all, Pattern.covered, blank]
  -- Blanks are passed over all at once, however many of them follow.
  have run : ∀ d rest place, Text.isBlank d → next ⟨d :: rest, place⟩ =
      next ⟨rest.dropWhile Text.isBlank,
        (place.step d).after (rest.takeWhile Text.isBlank)⟩ := by
    intro d rest place blank
    have covers : Pattern.blanks.covered (d :: rest) = d :: rest.takeWhile Text.isBlank := by
      simp [Pattern.covered, blank]
    have whole : d :: rest = (d :: rest.takeWhile Text.isBlank) ++ rest.dropWhile Text.isBlank := by
      rw [List.cons_append, List.takeWhile_append_dropWhile]
    rw [next_of_first? (found d rest blank), covers, whole]
    simp only [Pattern.kind?, skip, List.drop_left, List.take_left, Position.after_cons]
  rw [run c text position blank]
  cases text with
  | nil => rfl
  | cons d rest =>
    by_cases more : Text.isBlank d
    · rw [run d rest _ more]
      simp [more]
    · simp [more]

theorem next_of_blanks {run : List Char} (blank : ∀ c ∈ run, Text.isBlank c) (rest : List Char)
    (position : Position) : next ⟨run ++ rest, position⟩ = next ⟨rest, position.after run⟩ := by
  induction run generalizing position with
  | nil => rfl
  | cons c run ih =>
    rw [List.cons_append, next_of_blank (blank c (by simp)), Position.after_cons]
    exact ih (fun d member => blank d (by simp [member])) (position.step c)

theorem next_of_comment {body rest : List Char} (line : ∀ c ∈ body, c ≠ '\n')
    (ends : ∀ c ∈ rest.head?, c = '\n') (position : Position) :
    next ⟨'/' :: '/' :: (body ++ rest), position⟩ =
      next ⟨rest, position.after ('/' :: '/' :: body)⟩ := by
  have stops : rest.takeWhile (· ≠ '\n') = [] := by
    cases rest with
    | nil => rfl
    | cons c rest => simp [ends c rfl]
  have covers : Pattern.comment.covered ('/' :: '/' :: (body ++ rest)) = '/' :: '/' :: body := by
    rw [Pattern.covered, List.takeWhile_append_of_pos (by simpa using line), stops,
      List.append_nil]
  have found : Pattern.first? ('/' :: '/' :: (body ++ rest)) = some .comment := by
    have unblank : Pattern.blanks.covered ('/' :: '/' :: (body ++ rest)) = [] :=
      Pattern.covered_blanks (by decide)
    simp [Pattern.first?, Pattern.all, unblank, covers]
  rw [next_of_first? found, covers, ← List.cons_append, ← List.cons_append]
  simp only [Pattern.kind?, skip, List.drop_left, List.take_left]

/-- A gap changes nothing but the place of what follows. -/
theorem next_of_gap {gap rest : List Char} (passed : Gap rest gap) (position : Position) :
    next ⟨gap ++ rest, position⟩ = next ⟨rest, position.after gap⟩ := by
  induction passed generalizing position with
  | none => rfl
  | blanks some blank more ih =>
    rw [List.append_assoc, next_of_blanks blank, ih, Position.after_append]
  | comment line ends more ih =>
    rw [List.append_assoc, List.cons_append, List.cons_append, next_of_comment line ends, ih,
      Position.after_append]

theorem next_of_none {c : Char} {rest : List Char} (none : Pattern.first? (c :: rest) = none)
    (position : Position) :
    next ⟨c :: rest, position⟩ =
      (⟨.unexpected, String.ofList [c], position⟩, ⟨rest, position.after [c]⟩) := by
  rw [next, dif_neg (by simp)]
  split
  · rfl
  · next found => cases none.symm.trans found

theorem tokens_nil (position : Position) : tokens ⟨[], position⟩ = [.finish position] := by
  have ended : next ⟨[], position⟩ = (.finish position, ⟨[], position⟩) := by
    rw [next, dif_pos rfl]
  have finish : (next ⟨[], position⟩).1.kind = .finish := by rw [ended, Token.kind_finish]
  rw [tokens_of_finish finish, ended]
  rfl

end Cursor

/-! ## Words that are read as they are -/

namespace Word

/-- That a word is read as one token wherever a blank follows it, or nothing does. -/
structure Separable (word : Word) : Prop where
  more : word.kind ≠ .finish
  next : ∀ rest, Divided rest → ∀ position, Cursor.next ⟨word.text.toList ++ rest, position⟩ =
    (⟨word.kind, word.text, position⟩, ⟨rest, position.after word.text.toList⟩)

theorem separable_of_spelled {word : Word} (spelled : word.Spelled) : word.Separable := by
  refine ⟨spelled.more, fun rest divided position => ?_⟩
  rw [Cursor.next_of_readAs (Pattern.readAs_of_spelled spelled divided), String.ofList_toList]

/-- A character that begins no token is read as such whatever follows it. -/
theorem separable_unexpected {c : Char} {rest : List Char}
    (none : Pattern.first? (c :: rest) = none) :
    Separable ⟨.unexpected, String.ofList [c]⟩ := by
  refine ⟨by simp, fun other _ position => ?_⟩
  rw [Pattern.first?_eq_none_iff] at none
  rw [String.toList_ofList]
  exact Cursor.next_of_none (Pattern.first?_eq_none_iff.mpr none) position

end Word

/-- What a cursor reads can be read anywhere. -/
theorem Cursor.separable_next (cursor : Cursor) (more : cursor.next.1.kind ≠ .finish) :
    cursor.next.1.word.Separable := by
  by_cases unexpected : cursor.next.1.kind = .unexpected
  · obtain ⟨gap, -, -, -, chosen⟩ := cursor.next_chosen
    obtain ⟨⟨c, single⟩, unmatched⟩ := (chosen more).unexpected unexpected
    have none : Pattern.first? (c :: cursor.next.2.rest) = none := by
      rw [Pattern.first?, List.find?_eq_none]
      intro pattern listed fits
      rw [single, List.singleton_append] at unmatched
      exact unmatched pattern listed _ (Pattern.matches_iff.mpr ⟨rfl, by simpa using fits⟩)
    have same : cursor.next.1.word = ⟨.unexpected, String.ofList [c]⟩ := by
      rw [Token.word, unexpected, ← single, String.ofList_toList]
    rw [same]
    exact Word.separable_unexpected none
  · exact Word.separable_of_spelled ⟨more, unexpected, cursor.spelled_next⟩

theorem separable_of_mem_tokenize {source : String} {token : Token}
    (member : token ∈ tokenize source) (more : token.kind ≠ .finish) : token.word.Separable := by
  rcases List.mem_append.mp member with ahead | last
  · obtain ⟨-, reader, rfl⟩ := Cursor.mem_scan ahead
    exact reader.separable_next more
  · rw [List.mem_singleton.mp last] at more
    exact absurd rfl more

namespace Word

/-- That a text is read as one token, of which it is the whole text. -/
def Alone (word : Word) : Prop :=
  ∃ token finish, tokenize word.text = [token, .finish finish] ∧ token.word = word

theorem Alone.separable {word : Word} (alone : word.Alone) : word.Separable := by
  obtain ⟨token, finish, tokens, rfl⟩ := alone
  have whole : (Cursor.ofSource token.word.text).scan.1 ++ [_] = [token] ++ [_] := tokens
  have ahead := (List.append_inj' whole rfl).1
  have member : token ∈ (Cursor.ofSource token.word.text).scan.1 := by simp [ahead]
  obtain ⟨more, reader, rfl⟩ := Cursor.mem_scan member
  exact reader.separable_next more

/-- A word that can be read anywhere is read alone. -/
theorem Separable.tokenize {word : Word} (separable : word.Separable) :
    tokenize word.text =
      [⟨word.kind, word.text, .start⟩, .finish (Position.start.after word.text.toList)] := by
  have step := separable.next [] (by simp [Divided]) .start
  rw [List.append_nil] at step
  have first : (Cursor.ofSource word.text).next = _ := step
  have more : (Cursor.ofSource word.text).next.1.kind ≠ .finish := by
    rw [first]
    exact separable.more
  show (Cursor.ofSource word.text).tokens = _
  rw [Cursor.tokens_of_more more, first, Cursor.tokens_nil]

/-! ## Words with separators between them -/

/-- That a text is one or more blanks, or these and then a comment with the end of its line. -/
def IsSeparator (text : List Char) : Prop :=
  ∃ blanks, blanks ≠ [] ∧ (∀ c ∈ blanks, Text.isBlank c) ∧
    (text = blanks ∨
      ∃ body, (∀ c ∈ body, c ≠ '\n') ∧ text = blanks ++ ('/' :: '/' :: body ++ ['\n']))

theorem IsSeparator.gap {text : List Char} (separator : IsSeparator text) (rest : List Char) :
    Gap rest text := by
  obtain ⟨blanks, some, blank, rfl | ⟨body, line, rfl⟩⟩ := separator
  · rw [← List.append_nil text]
    exact .blanks some blank .none
  · have feed : Gap rest ['\n'] := by
      rw [← List.append_nil ['\n']]
      exact .blanks (by simp) (List.forall_mem_singleton.mpr rfl) .none
    exact .blanks some blank (.comment line (by simp) feed)

theorem IsSeparator.divided {text : List Char} (separator : IsSeparator text) (rest : List Char) :
    Divided (text ++ rest) := by
  obtain ⟨blanks, some, blank, form⟩ := separator
  obtain ⟨c, more, rfl⟩ := List.exists_cons_of_ne_nil some
  intro d first
  have same : c = d := by
    rcases form with rfl | ⟨body, -, rfl⟩
    · simpa using first
    · simpa using first
  rw [← same]
  exact blank c (by simp)

/-- Words with a separator before each of them. -/
def separated (separators : List (List Char)) (words : List Word) : List Char :=
  (List.zipWith (fun separator word => separator ++ word.text.toList) separators words).flatten

/-- Words with separators between them. -/
def joined (separators : List (List Char)) (words : List Word) : String :=
  String.ofList (separated ([] :: separators) words)

theorem divided_separated {separators : List (List Char)} (words : List Word)
    (each : ∀ separator ∈ separators, IsSeparator separator) :
    Divided (separated separators words) := by
  cases separators with
  | nil => simp [separated, Divided]
  | cons separator separators =>
    cases words with
    | nil => simp [separated, Divided]
    | cons word words =>
      have divided := (each separator (by simp)).divided
        (word.text.toList ++ separated separators words)
      simpa [separated] using divided

/-- A word is read, and then what follows it. -/
theorem tokens_of_separable {word : Word} (separable : word.Separable) {rest : List Char}
    (divided : Divided rest) {cursor : Cursor} {position : Position}
    (stands : cursor.next = Cursor.next ⟨word.text.toList ++ rest, position⟩) :
    ∃ place, cursor.tokens.map Token.word =
      word :: (Cursor.tokens ⟨rest, place⟩).map Token.word := by
  rw [separable.next rest divided] at stands
  have more : cursor.next.1.kind ≠ .finish := by
    rw [stands]
    exact separable.more
  refine ⟨position.after word.text.toList, ?_⟩
  rw [Cursor.tokens_of_more more, stands, List.map_cons]
  rfl

theorem tokens_separated {separators : List (List Char)} {words : List Word}
    (separable : ∀ word ∈ words, word.Separable)
    (each : ∀ separator ∈ separators, IsSeparator separator)
    (enough : separators.length = words.length) (position : Position) :
    (Cursor.tokens ⟨separated separators words, position⟩).map Token.word =
      words ++ [⟨.finish, ""⟩] := by
  induction words generalizing separators position with
  | nil =>
    obtain rfl := List.length_eq_zero_iff.mp enough
    exact congrArg (List.map Token.word) (Cursor.tokens_nil position)
  | cons word words ih =>
    obtain ⟨separator, separators, rfl⟩ := List.exists_cons_of_length_eq_add_one enough
    have later : ∀ separator ∈ separators, IsSeparator separator :=
      fun other member => each other (by simp [member])
    have text : separated (separator :: separators) (word :: words) =
        separator ++ (word.text.toList ++ separated separators words) := by
      simp [separated]
    have stands := Cursor.next_of_gap ((each separator (by simp)).gap
      (word.text.toList ++ separated separators words)) position
    rw [← text] at stands
    obtain ⟨place, tokens⟩ := tokens_of_separable (separable word (by simp))
      (divided_separated words later) stands
    rw [tokens, List.cons_append]
    rw [ih (fun other member => separable other (by simp [member])) later (by simpa using enough)]

theorem tokenize_joined {separators : List (List Char)} {words : List Word}
    (separable : ∀ word ∈ words, word.Separable)
    (each : ∀ separator ∈ separators, IsSeparator separator)
    (enough : separators.length = words.length - 1) :
    (Kaleido.tokenize (joined separators words)).map Token.word = words ++ [⟨.finish, ""⟩] := by
  show (Cursor.tokens ⟨(joined separators words).toList, .start⟩).map Token.word = _
  rw [joined, String.toList_ofList]
  cases words with
  | nil => exact congrArg (List.map Token.word) (Cursor.tokens_nil .start)
  | cons word words =>
    have text : separated ([] :: separators) (word :: words) =
        word.text.toList ++ separated separators words := by
      simp [separated]
    have here : Cursor.next ⟨word.text.toList ++ separated separators words, .start⟩ = _ := rfl
    rw [text]
    obtain ⟨place, tokens⟩ := tokens_of_separable (separable word (by simp))
      (divided_separated words each) here
    rw [tokens, tokens_separated (fun other member => separable other (by simp [member])) each
      (by simpa using enough), List.cons_append]

end Word

/-- The text of a token of any source is read, where it stands alone, as that token and nothing
more. And texts that are each read as one token are read as these tokens where they are joined by
separators. -/
theorem lexemes_read_back :
    (∀ source, ∀ token ∈ tokenize source, token.kind ≠ .finish →
      tokenize token.lexeme = [⟨token.kind, token.lexeme, .start⟩,
        .finish (Position.start.after token.lexeme.toList)]) ∧
    ∀ (words : List Word) (separators : List (List Char)), (∀ word ∈ words, word.Alone) →
      (∀ separator ∈ separators, Word.IsSeparator separator) →
      separators.length = words.length - 1 →
      (tokenize (Word.joined separators words)).map Token.word = words ++ [⟨.finish, ""⟩] := by
  constructor
  · intro source token member more
    exact (separable_of_mem_tokenize member more).tokenize
  · intro words separators alone each enough
    exact Word.tokenize_joined (fun word member => (alone word member).separable) each enough

/-- Two numerals that stand side by side, of which the second begins with a point; and numerals, a
slash before a comment, and a character that begins no token. -/
theorem lexemes_read_back_numerals :
    (⟨.number, ".5", ⟨1, 3⟩⟩ ∈ tokenize "1..5" ∧
      tokenize ".5" = [⟨.number, ".5", .start⟩, .finish ⟨1, 3⟩]) ∧
    (tokenize "1. .5\n/ //;\né").map Token.word =
      [⟨.number, "1."⟩, ⟨.number, ".5"⟩, ⟨.slash, "/"⟩, ⟨.unexpected, "é"⟩, ⟨.finish, ""⟩] := by
  have member : ⟨.number, ".5", ⟨1, 3⟩⟩ ∈ tokenize "1..5" := by decide +kernel
  refine ⟨⟨member, lexemes_read_back.1 _ _ member (by decide)⟩, ?_⟩
  refine lexemes_read_back.2 [⟨.number, "1."⟩, ⟨.number, ".5"⟩, ⟨.slash, "/"⟩, ⟨.unexpected, "é"⟩]
    [[' '], ['\n'], [' ', '/', '/', ';', '\n']] ?_ ?_ rfl
  · intro word listed
    simp only [List.mem_cons, List.not_mem_nil, or_false] at listed
    rcases listed with rfl | rfl | rfl | rfl
    · exact ⟨⟨.number, "1.", .start⟩, ⟨1, 3⟩, by decide +kernel, rfl⟩
    · exact ⟨⟨.number, ".5", .start⟩, ⟨1, 3⟩, by decide +kernel, rfl⟩
    · exact ⟨⟨.slash, "/", .start⟩, ⟨1, 2⟩, by decide +kernel, rfl⟩
    · exact ⟨⟨.unexpected, "é", .start⟩, ⟨1, 2⟩, by decide +kernel, rfl⟩
  · intro separator listed
    simp only [List.mem_cons, List.not_mem_nil, or_false] at listed
    rcases listed with rfl | rfl | rfl
    · exact ⟨[' '], by simp, List.forall_mem_singleton.mpr rfl, .inl rfl⟩
    · exact ⟨['\n'], by simp, List.forall_mem_singleton.mpr rfl, .inl rfl⟩
    · exact ⟨[' '], by simp, List.forall_mem_singleton.mpr rfl, .inr ⟨[';'], by simp, rfl⟩⟩

end Kaleido
