import Kaleido.Proofs.Lexemes

/-!
# Words that spaces divide

A word is a text together with the kind of the tokens that can have it. A word that a blank follows,
or nothing, is read as one token of that kind and no more: its first pattern covers all of it and
stops at the blank. Main statement: the tokens of words written with spaces between them are those
words.
-/
namespace Kaleido

/-- The kind and the text of a token. -/
structure Word where
  kind : Kind
  text : String
deriving Repr, DecidableEq

/-- A token without its place. -/
def Token.word (token : Token) : Word := ⟨token.kind, token.lexeme⟩

namespace Word

/-- That a word is a token of the language with a text that its kind can have. -/
structure Spelled (word : Word) : Prop where
  more : word.kind ≠ .finish
  known : word.kind ≠ .unexpected
  spells : word.kind.Spells word.text.toList

/-- Words with a space between any two of them. -/
def source (words : List Word) : String := " ".intercalate (words.map text)

/-- Words with a space before each of them. -/
def spaced (words : List Word) : List Char := words.flatMap fun word => ' ' :: word.text.toList

theorem toList_source_cons (word : Word) (rest : List Word) :
    (source (word :: rest)).toList = word.text.toList ++ spaced rest := by
  induction rest generalizing word with
  | nil => simp [source, spaced]
  | cons second rest ih =>
    have joined : source (word :: second :: rest) =
        word.text ++ " " ++ source (second :: rest) := by
      simp [source]
    simp [joined, ih, spaced]

end Word

/-! ## Classes of characters -/

theorem isAlpha_iff {c : Char} :
    c.isAlpha ↔ 0x41 ≤ c.toNat ∧ c.toNat ≤ 0x5a ∨ 0x61 ≤ c.toNat ∧ c.toNat ≤ 0x7a := by
  have value : c.toNat = c.val.toNat := rfl
  have ranges : c.isAlpha = (decide ('A'.val ≤ c.val ∧ c.val ≤ 'Z'.val) ||
      (decide ('a'.val ≤ c.val) && decide (c.val ≤ 'z'.val))) := rfl
  simp only [ranges, UInt32.le_iff_toNat_le, Bool.or_eq_true, Bool.and_eq_true, decide_eq_true_eq,
    value, Char.reduceVal, UInt32.reduceToNat]

theorem isDigit_iff {c : Char} : c.isDigit ↔ 0x30 ≤ c.toNat ∧ c.toNat ≤ 0x39 := by
  have value : c.toNat = c.val.toNat := rfl
  have range : c.isDigit = (decide ('0'.val ≤ c.val) && decide (c.val ≤ '9'.val)) := rfl
  simp only [range, UInt32.le_iff_toNat_le, Bool.and_eq_true, decide_eq_true_eq, value,
    Char.reduceVal, UInt32.reduceToNat]

/-- The characters of ASCII that are neither blanks nor controls. -/
def isVisible (c : Char) : Bool := 0x20 < c.toNat && c.toNat < 0x7f

theorem not_isBlank_of_isVisible {c : Char} (visible : isVisible c) : Text.isBlank c = false := by
  simp only [isVisible, Bool.and_eq_true, decide_eq_true_eq] at visible
  simp only [Text.isBlank, Text.blankRanges, List.any_cons, List.any_nil, Bool.or_false,
    Bool.or_eq_false_iff, Bool.and_eq_false_iff, decide_eq_false_iff_not]
  omega

theorem isVisible_of_isPunctuation {c : Char} (punctuation : isPunctuation c) : isVisible c := by
  simp only [isPunctuation, Bool.or_eq_true, Bool.and_eq_true, decide_eq_true_eq] at punctuation
  simp only [isVisible, Bool.and_eq_true, decide_eq_true_eq]
  omega

theorem isVisible_of_isWordPart {c : Char} (part : isWordPart c) : isVisible c := by
  simp only [isWordPart, Char.isAlphanum, Bool.or_eq_true, isAlpha_iff, isDigit_iff,
    decide_eq_true_eq] at part
  rcases part with ranges | rfl
  · simp only [isVisible, Bool.and_eq_true, decide_eq_true_eq]
    omega
  · decide

theorem isWordPart_of_isDigit {c : Char} (digit : c.isDigit) : isWordPart c := by
  simp [isWordPart, Char.isAlphanum, digit]

theorem isVisible_of_isDigit {c : Char} (digit : c.isDigit) : isVisible c :=
  isVisible_of_isWordPart (isWordPart_of_isDigit digit)

theorem isWordPart_of_isWordStart {c : Char} (start : isWordStart c) : isWordPart c := by
  simp only [isWordStart, Bool.or_eq_true] at start
  rcases start with letter | underscore
  · simp [isWordPart, Char.isAlphanum, letter]
  · simp [isWordPart, underscore]

theorem not_isWordStart_of_isDigit {c : Char} (digit : c.isDigit) : isWordStart c = false := by
  rw [isDigit_iff] at digit
  rw [Bool.eq_false_iff]
  intro start
  simp only [isWordStart, Bool.or_eq_true, isAlpha_iff, decide_eq_true_eq] at start
  rcases start with ranges | rfl
  · omega
  · exact absurd digit (by decide)

theorem isWord_cons {first : Char} {rest : List Char} (start : isWordStart first)
    (parts : rest.all isWordPart) : IsWord (first :: rest) :=
  ⟨first, rest, rfl, start, List.all_eq_true.mp parts⟩

theorem Keyword.isWord_word (keyword : Keyword) : IsWord keyword.word.toList := by
  cases keyword <;> exact isWord_cons (by decide) (by decide)

/-! ## Texts before a blank -/

/-- That a text is empty or begins with a blank. -/
def Divided (rest : List Char) : Prop := ∀ c ∈ rest.head?, Text.isBlank c

namespace Divided

variable {rest : List Char} {condition : Char → Bool}

theorem head?_eq_false (divided : Divided rest) (visible : ∀ c, condition c → isVisible c) :
    ∀ c ∈ rest.head?, condition c = false := by
  intro c first
  by_contra holds
  have blank := divided c first
  rw [not_isBlank_of_isVisible (visible c (by simpa using holds))] at blank
  cases blank

/-- A stretch of visible characters ends where a blank follows. -/
theorem takeWhile_append {text : List Char} (divided : Divided rest)
    (visible : ∀ c, condition c → isVisible c) (all : ∀ c ∈ text, condition c) :
    (text ++ rest).takeWhile condition = text := by
  have none := divided.head?_eq_false visible
  rw [List.takeWhile_append_of_pos all]
  cases rest with
  | nil => simp
  | cons c rest => simp [none c rfl]

theorem dropWhile_append {text : List Char} (divided : Divided rest)
    (visible : ∀ c, condition c → isVisible c) (all : ∀ c ∈ text, condition c) :
    (text ++ rest).dropWhile condition = rest := by
  have none := divided.head?_eq_false visible
  rw [List.dropWhile_append_of_pos all]
  cases rest with
  | nil => simp
  | cons c rest => simp [none c rfl]

end Divided

theorem Word.divided_spaced (words : List Word) : Divided (spaced words) := by
  cases words with
  | nil => simp [Divided, spaced]
  | cons word rest =>
    intro c first
    obtain rfl : ' ' = c := by simpa [spaced] using first
    decide

namespace Pattern

/-! ## The pattern of a word -/

theorem covered_blanks {c : Char} {rest : List Char} (visible : isVisible c) :
    blanks.covered (c :: rest) = [] := by
  simp [covered, not_isBlank_of_isVisible visible]

variable {text rest : List Char}

/-- A comment begins with two slashes. -/
theorem covered_comment (other : ∀ tail, text ≠ '/' :: '/' :: tail) :
    comment.covered text = [] := by
  rw [covered]
  exact other

theorem covered_comment_cons {c : Char} (other : c ≠ '/') : comment.covered (c :: rest) = [] :=
  covered_comment (by simp [other])

theorem first?_word (isWord : IsWord text) (divided : Divided rest) :
    first? (text ++ rest) = some .word ∧ word.covered (text ++ rest) = text := by
  obtain ⟨first, tail, rfl, start, parts⟩ := isWord
  have visible := isVisible_of_isWordPart (isWordPart_of_isWordStart start)
  have other : first ≠ '/' := by
    rintro rfl
    exact absurd start (by decide)
  have covers : word.covered (first :: tail ++ rest) = first :: tail := by
    rw [List.cons_append, covered, if_pos start,
      divided.takeWhile_append (fun _ => isVisible_of_isWordPart) parts]
  refine ⟨?_, covers⟩
  rw [List.cons_append] at covers ⊢
  simp [first?, all, covered_blanks visible, covered_comment_cons other, covers]

theorem covered_word_cons {c : Char} (other : isWordStart c = false) :
    word.covered (c :: rest) = [] := by
  simp [covered, other]

theorem covered_mark_cons {c m : Char} {kind : Kind} :
    (mark m kind).covered (c :: rest) = if c = m then [c] else [] := rfl

theorem covered_punctuation_cons {c : Char} (fits : isPunctuation c) :
    punctuation.covered (c :: rest) = [c] := by
  simp [covered, fits]

/-- A numeral begins with a digit or a point. -/
theorem isNumeral_cons (isNumeral : IsNumeral text) :
    ∃ first tail, text = first :: tail ∧ (first.isDigit ∨ first = '.') := by
  obtain ⟨whole, digits, ⟨rfl, some⟩ | ⟨fraction, rfl, -⟩⟩ := isNumeral
  · obtain ⟨first, tail, rfl⟩ := List.exists_cons_of_ne_nil some
    exact ⟨first, tail, rfl, .inl (digits first (by simp))⟩
  · cases whole with
    | nil => exact ⟨'.', fraction, rfl, .inr rfl⟩
    | cons first tail => exact ⟨first, _, rfl, .inl (digits first (by simp))⟩

theorem covered_number (isNumeral : IsNumeral text) (divided : Divided rest) :
    number.covered (text ++ rest) = text := by
  obtain ⟨whole, digits, ⟨rfl, -⟩ | ⟨fraction, rfl, more⟩⟩ := isNumeral
  · rw [covered, divided.takeWhile_append (fun _ => isVisible_of_isDigit) digits,
      divided.dropWhile_append (fun _ => isVisible_of_isDigit) digits]
    split
    · exact absurd (divided '.' rfl) (by decide)
    · exact List.append_nil text
  · have stops : '.'.isDigit = false := rfl
    simp only [covered, List.append_assoc, List.cons_append, List.takeWhile_append_of_pos digits,
      List.dropWhile_append_of_pos digits, List.takeWhile_cons, List.dropWhile_cons, stops,
      Bool.false_eq_true, if_false, List.nil_append,
      divided.takeWhile_append (fun _ => isVisible_of_isDigit) more]

theorem first?_number (isNumeral : IsNumeral text) (divided : Divided rest) :
    first? (text ++ rest) = some .number := by
  have covers := covered_number isNumeral divided
  obtain ⟨first, tail, rfl, starts⟩ := isNumeral_cons isNumeral
  have visible : isVisible first ∧ isWordStart first = false ∧ first ≠ '/' := by
    rcases starts with digit | rfl
    · refine ⟨isVisible_of_isDigit digit, not_isWordStart_of_isDigit digit, ?_⟩
      rintro rfl
      exact absurd digit (by decide)
    · decide
  rw [List.cons_append] at covers ⊢
  simp [first?, all, covered_blanks visible.1, covered_comment_cons visible.2.2,
    covered_word_cons visible.2.1, covers]

/-- A mark of the language is read as such. Only for the slash it matters what follows: a second one
would begin a comment. -/
theorem first?_mark {c : Char} {kind : Kind} (listed : mark c kind ∈ all) (divided : Divided rest) :
    first? (c :: rest) = some (mark c kind) := by
  by_cases slash : c = '/'
  · subst slash
    obtain rfl : kind = .slash := by simpa [all] using listed
    have alone : comment.covered ('/' :: rest) = [] := by
      refine covered_comment fun tail same => ?_
      obtain ⟨-, rfl⟩ := List.cons.inj same
      exact absurd (divided '/' rfl) (by decide)
    have visible : isVisible '/' := by decide
    rw [first?, all, List.find?_cons_of_neg (by simp [covered_blanks visible]),
      List.find?_cons_of_neg (by simp [alone])]
    rfl
  · simp only [all, List.mem_cons, List.not_mem_nil, or_false, mark.injEq, reduceCtorEq, false_or]
      at listed
    rcases listed with ⟨rfl, rfl⟩ | ⟨rfl, rfl⟩ | ⟨rfl, rfl⟩ | ⟨rfl, rfl⟩ | ⟨rfl, rfl⟩ | ⟨rfl, rfl⟩ |
      ⟨rfl, rfl⟩ | ⟨rfl, rfl⟩ | ⟨rfl, rfl⟩ | ⟨rfl, rfl⟩ | ⟨rfl, rfl⟩
    all_goals first | exact absurd rfl slash | rfl

theorem first?_punctuation {c : Char} (free : isFreeMark c) :
    first? (c :: rest) = some .punctuation := by
  have mark := (isOperatorMark_of_isFreeMark free).1
  have unworded := not_isWordPart_of_isOperatorMark mark
  simp only [isFreeMark, Bool.and_eq_true, decide_eq_true_eq, List.mem_cons, List.not_mem_nil,
    or_false, not_or] at free
  have start : isWordStart c = false := by
    rw [Bool.eq_false_iff]
    intro start
    exact unworded (isWordPart_of_isWordStart start)
  have digit : c.isDigit = false := by
    rw [Bool.eq_false_iff]
    intro digit
    exact unworded (isWordPart_of_isDigit digit)
  have none : number.covered (c :: rest) = [] := by simp [covered, digit, free]
  simp [first?, all, covered_blanks (isVisible_of_isPunctuation free.1),
    covered_comment_cons (show c ≠ '/' by simp [free]), covered_word_cons start, none,
    covered_mark_cons, covered_punctuation_cons free.1, free]

/-- That the first pattern which fits at a text stops before the rest, and gives a kind. -/
def ReadAs (kind : Kind) (text rest : List Char) : Prop :=
  ∃ pattern, first? (text ++ rest) = some pattern ∧ pattern.covered (text ++ rest) = text ∧
    pattern.kind? text = some kind

theorem readAs_mark {kind : Kind} {c : Char} (listed : mark c kind ∈ all) (divided : Divided rest) :
    ReadAs kind [c] rest :=
  ⟨mark c kind, first?_mark listed divided, by simp [covered], rfl⟩

/-- A word before a blank is read as its kind. -/
theorem readAs_of_spelled {word : Word} (spelled : word.Spelled) (divided : Divided rest) :
    ReadAs word.kind word.text.toList rest := by
  obtain ⟨kind, lexeme⟩ := word
  obtain ⟨more, known, spells⟩ := spelled
  simp only at more known spells ⊢
  generalize lexeme.toList = text at spells ⊢
  cases kind with
  | finish => exact absurd rfl more
  | unexpected => exact absurd rfl known
  | identifier =>
    obtain ⟨isWord, free⟩ := spells
    obtain ⟨found, covers⟩ := first?_word isWord divided
    exact ⟨word, found, covers, by simp [kind?, free]⟩
  | keyword set =>
    have same : String.ofList text = set.word := spells
    have isWord : IsWord text := by
      rw [← String.toList_ofList (l := text), same]
      exact set.isWord_word
    obtain ⟨found, covers⟩ := first?_word isWord divided
    exact ⟨word, found, covers, by simp [kind?, same, set.ofWord?_word]⟩
  | number => exact ⟨number, first?_number spells divided, covered_number spells divided, rfl⟩
  | operator =>
    obtain ⟨c, rfl, free⟩ := spells
    have fits : isPunctuation c := (Bool.and_eq_true_iff.mp free).1
    exact ⟨punctuation, first?_punctuation free, covered_punctuation_cons fits, rfl⟩
  | _ =>
    obtain rfl := spells
    exact readAs_mark (by decide) divided

/-- What is read as a token begins with no blank, since blanks would have been read first. -/
theorem ReadAs.not_blank {kind : Kind} (readAs : ReadAs kind text rest) :
    ∀ c ∈ (text ++ rest).head?, Text.isBlank c = false := by
  obtain ⟨pattern, found, -, given⟩ := readAs
  intro c first
  by_contra blank
  obtain ⟨tail, same⟩ := List.head?_eq_some_iff.mp first
  have blanked : first? (c :: tail) = some .blanks := by
    simp [first?, all, covered, blank]
  rw [same, blanked] at found
  obtain rfl := Option.some.inj found
  cases given

end Pattern

namespace Cursor

/-! ## The tokens of words -/

theorem next_of_first? {text : List Char} {pattern : Pattern}
    (found : Pattern.first? text = some pattern) (position : Position) :
    next ⟨text, position⟩ =
      match pattern.kind? (pattern.covered text) with
      | some kind =>
        (⟨kind, String.ofList (pattern.covered text), position⟩,
          skip ⟨text, position⟩ (pattern.covered text).length)
      | none => next (skip ⟨text, position⟩ (pattern.covered text).length) := by
  have ahead : text ≠ [] := by
    rintro rfl
    cases found
  rw [next, dif_neg ahead]
  split
  · next none => cases found.symm.trans none
  · next other same =>
    obtain rfl := Option.some.inj (found.symm.trans same)
    rfl

/-- A token is read, and the text after it is left. -/
theorem next_of_readAs {kind : Kind} {text rest : List Char}
    (readAs : Pattern.ReadAs kind text rest) (position : Position) :
    next ⟨text ++ rest, position⟩ =
      (⟨kind, String.ofList text, position⟩, ⟨rest, position.after text⟩) := by
  obtain ⟨pattern, found, covers, given⟩ := readAs
  simp only [next_of_first? found, covers, given, skip, List.drop_left, List.take_left]

/-- A space before a word is passed over. -/
theorem next_of_space {text : List Char} (ends : ∀ c ∈ text.head?, Text.isBlank c = false)
    (position : Position) : next ⟨' ' :: text, position⟩ = next ⟨text, position.after [' ']⟩ := by
  have covers : Pattern.blanks.covered (' ' :: text) = [' '] := by
    cases text with
    | nil => rfl
    | cons c text => simp [Pattern.covered, ends c rfl, show Text.isBlank ' ' by decide]
  have found : Pattern.first? (' ' :: text) = some .blanks := by
    simp [Pattern.first?, Pattern.all, covers]
  rw [next_of_first? found, covers]
  rfl

theorem scan_nil (position : Position) : (scan ⟨[], position⟩).1 = [] := by
  rw [scan, next]
  rfl

theorem scan_of_next {cursor after : Cursor} {token : Token} (step : cursor.next = (token, after))
    (more : token.kind ≠ .finish) : cursor.scan.1 = token :: after.scan.1 := by
  rw [scan]
  simp [step, more]

/-- Words with a space before each of them are read as tokens of these words. -/
theorem scan_spaced {words : List Word} (spelled : ∀ word ∈ words, word.Spelled)
    (position : Position) :
    (scan ⟨Word.spaced words, position⟩).1.map Token.word = words := by
  induction words generalizing position with
  | nil => exact congrArg (List.map Token.word) (scan_nil position)
  | cons word rest ih =>
    have first := spelled word (by simp)
    have readAs := Pattern.readAs_of_spelled first (Word.divided_spaced rest)
    have step := next_of_readAs readAs (position.after [' '])
    rw [← next_of_space readAs.not_blank] at step
    have spaced : ' ' :: (word.text.toList ++ Word.spaced rest) = Word.spaced (word :: rest) := by
      simp [Word.spaced]
    rw [← spaced, scan_of_next step first.more, List.map_cons,
      ih fun word member => spelled word (by simp [member])]
    simp [Token.word]

end Cursor

/-- The tokens of words written with spaces between them are these words. -/
theorem Session.words_ofSource {words : List Word} (spelled : ∀ word ∈ words, word.Spelled) :
    (Session.ofSource (Word.source words)).ahead.map Token.word = words := by
  cases words with
  | nil => exact congrArg (List.map Token.word) (Cursor.scan_nil .start)
  | cons word rest =>
    have first := spelled word (by simp)
    have readAs := Pattern.readAs_of_spelled first (Word.divided_spaced rest)
    have step := Cursor.next_of_readAs readAs .start
    rw [← Word.toList_source_cons] at step
    have ahead : (Session.ofSource (Word.source (word :: rest))).ahead = _ :=
      Cursor.scan_of_next step first.more
    rw [ahead, List.map_cons,
      Cursor.scan_spaced fun word member => spelled word (by simp [member])]
    simp [Token.word]

end Kaleido
