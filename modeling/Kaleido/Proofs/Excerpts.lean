import Kaleido.Proofs.Headlines
import Kaleido.Proofs.Lines

/-!
# Where the caret of an excerpt stands

An excerpt shows the line of a diagnostic without the spaces at its start and without what is blank
at its end, after the number of the line, and below it a caret at its end. The column of the
diagnostic, the spaces that are left out and the width of the number have to agree for the caret to
stand under the token that the diagnostic is about. Main statement: they do, for every diagnostic of
a source that is not too long.
-/
namespace Kaleido

/-! ## Tokens in their lines -/

theorem Token.Chosen.lexeme_ne {token : Token} {ahead : List Char} (chosen : token.Chosen ahead) :
    token.lexeme.toList ≠ [] := by
  by_cases unexpected : token.kind = .unexpected
  · obtain ⟨⟨c, single⟩, -⟩ := chosen.unexpected unexpected
    simp [single]
  · obtain ⟨-, pattern, -, -, found, -⟩ := chosen.first unexpected
    exact found.fits.ne_nil

/-- A token stands after some of the text, and its own text comes next. After a token without a text
there is nothing. -/
theorem Tiled.place {start : Position} {text : List Char} {tokens : List Token}
    (tiled : Tiled start text tokens) {token : Token} (member : token ∈ tokens) :
    ∃ before after, text = before ++ (token.lexeme.toList ++ after) ∧
      token.position = start.after before ∧ (token.lexeme.toList = [] → after = []) := by
  induction tiled with
  | @finish place gap passed =>
    obtain rfl := List.mem_singleton.mp member
    exact ⟨gap, [], by simp [Token.finish], rfl, fun _ => rfl⟩
  | @token place gap rest first tokens passed stands chosen more ih =>
    rcases List.mem_cons.mp member with rfl | later
    · exact ⟨gap, rest, rfl, stands, fun none => absurd none chosen.lexeme_ne⟩
    · obtain ⟨before, after, rfl, position, ends⟩ := ih later
      refine ⟨gap ++ first.lexeme.toList ++ before, after, by simp, ?_, ends⟩
      rw [position, ← Position.after_append]

theorem unblank_of_mem_tokenize {source : String} {token : Token}
    (member : token ∈ tokenize source) : token.Unblank := by
  rcases List.mem_append.mp member with ahead | last
  · exact Session.unblank_ofSource source token ahead
  · obtain rfl := List.mem_singleton.mp last
    intro c inside
    cases inside

theorem lexeme_ne_of_mem_tokenize {source : String} {token : Token}
    (member : token ∈ tokenize source) (more : token.kind ≠ .finish) :
    token.lexeme.toList ≠ [] := by
  rcases List.mem_append.mp member with ahead | last
  · obtain ⟨-, reader, rfl⟩ := Cursor.mem_scan ahead
    exact reader.lexeme_next_ne more
  · obtain rfl := List.mem_singleton.mp last
    exact absurd rfl more

/-- A diagnostic stands at a token of the source. -/
theorem token_of_mem_diagnostics {source : String} {diagnostic : Diagnostic}
    (member : diagnostic ∈ (compile source).diagnostics) :
    ∃ token ∈ tokenize source, token.position = diagnostic.position := by
  rw [Grammar.diagnostics_eq_reported] at member
  obtain ⟨i, -, reported⟩ := List.mem_filterMap.mp member
  obtain ⟨token, inside, place, -⟩ := Grammar.reportedAt_of_refused reported
  refine ⟨token, ?_, place⟩
  exact (Grammar.upcoming_afterItems source i).subset ((Grammar.construct_isInfix _).subset inside)

namespace Text

/-- Trimming at the end keeps everything up to a stretch that stays. -/
theorem isPrefix_rdropWhile {blank : Char → Bool} {stretch : List Char} (some : stretch ≠ [])
    (stays : ∀ c ∈ stretch, blank c = false) (front tail : List Char) :
    front ++ stretch <+: (front ++ stretch ++ tail).rdropWhile blank := by
  induction tail using List.reverseRecOn with
  | nil =>
    have last : (front ++ stretch).getLast (by simp [some]) ∈ stretch := by
      rw [List.getLast_append_of_ne_nil _ some]
      exact List.getLast_mem some
    have kept : (front ++ stretch).rdropWhile blank = front ++ stretch :=
      List.rdropWhile_eq_self_iff.mpr fun _ => by simp [stays _ last]
    exact ⟨[], by rw [List.append_nil, kept]⟩
  | append_singleton tail c ih =>
    rw [← List.append_assoc, List.rdropWhile_concat]
    split
    · exact ih
    · rw [List.append_assoc]
      exact List.prefix_append _ _

theorem isPrefix_trimReturns {stretch : List Char} (some : stretch ≠ [])
    (stays : ∀ c ∈ stretch, isBlank c = false) (front tail : List Char) :
    front ++ stretch <+: trimReturns (front ++ stretch ++ tail) := by
  refine isPrefix_rdropWhile some (fun c member => ?_) front tail
  have unblank := stays c member
  rw [decide_eq_false_iff_not]
  rintro rfl
  cases unblank

theorem isPrefix_trimEnd {stretch : List Char} (some : stretch ≠ [])
    (stays : ∀ c ∈ stretch, isBlank c = false) (front tail : List Char) :
    front ++ stretch <+: trimEnd (front ++ stretch ++ tail) :=
  isPrefix_rdropWhile some stays front tail

end Text

/-- Lines one after the other, each with a line feed at its end. -/
def Text.ofLines (lines : List (List Char)) : List Char := lines.flatMap (· ++ ['\n'])

namespace Diagnostic

/-! ## The lines of an excerpt -/

/-- The characters before the bar of an excerpt and the bar itself. -/
def margin (diagnostic : Diagnostic) : List Char :=
  List.replicate (diagnostic.position.line.toNat.repr.length + 1) ' ' ++ ['|']

/-- The second line of an excerpt: the file and the place in it. -/
def whereabouts (diagnostic : Diagnostic) (file : String) : List Char :=
  ("-> " ++ file ++ ":" ++ diagnostic.position.text).toList

/-- The fourth line of an excerpt: the number of the line and its text. -/
def quotation (diagnostic : Diagnostic) (line : List Char) : List Char :=
  diagnostic.position.line.toNat.repr.toList ++ [' ', '|', ' '] ++
    Text.trimEnd (line.drop (indentation line))

/-- The fifth line of an excerpt: dashes, and the caret at their end. -/
def caretLine (diagnostic : Diagnostic) (line : List Char) : List Char :=
  diagnostic.margin ++ ' ' :: List.replicate (diagnostic.caretWidth line - 1) '-' ++ ['^']

/-- An excerpt is made of five lines. -/
theorem toList_excerpt (diagnostic : Diagnostic) (source file : String) :
    (diagnostic.excerpt source file).toList =
      Text.ofLines [diagnostic.headline.toList, diagnostic.whereabouts file, diagnostic.margin,
        diagnostic.quotation (diagnostic.sourceLine source),
        diagnostic.caretLine (diagnostic.sourceLine source)] := by
  have bar : "|".length = 1 := rfl
  have caret : "^".length = 1 := rfl
  unfold excerpt Text.ofLines whereabouts quotation caretLine margin Text.padLeft
  simp [bar, caret]

/-- The place of the caret in its line: after the number, the bar and the spaces around it, as many
characters as stand before the column without the spaces left out. -/
def caretOffset (diagnostic : Diagnostic) (line : List Char) : Nat :=
  diagnostic.position.line.toNat.repr.length + 3 +
    (diagnostic.position.column.toNat - indentation line - 1)

/-- The caret stands there, and nowhere else. -/
theorem caret_of_caretLine (diagnostic : Diagnostic) (line : List Char) :
    (diagnostic.caretLine line).count '^' = 1 ∧
      (diagnostic.caretLine line)[diagnostic.caretOffset line]? = some '^' := by
  constructor
  · simp [caretLine, margin, List.count_replicate]
  · have before : diagnostic.caretOffset line = (diagnostic.margin ++
        ' ' :: List.replicate (diagnostic.caretWidth line - 1) '-').length := by
      simp only [caretOffset, margin, caretWidth, List.length_append, List.length_replicate,
        List.length_cons, List.length_nil]
      omega
    rw [before]
    exact List.getElem?_concat_length

/-- Leading spaces end before a character that is none. -/
theorem indentation_le {front rest : List Char} (ends : ∀ c ∈ rest.head?, c ≠ ' ') :
    indentation (front ++ rest) ≤ front.length := by
  unfold indentation
  induction front with
  | nil =>
    cases rest with
    | nil => simp
    | cons c rest =>
      have other : c ≠ ' ' := ends c rfl
      simp [other]
  | cons c front ih =>
    rw [List.cons_append, List.takeWhile_cons]
    split
    · simpa using ih
    · simp

/-- The spaces at the start of a line end before a stretch of it that is not blank, or where the
line does. -/
theorem indentation_trimReturns_le {stretch : List Char}
    (stays : ∀ c ∈ stretch, Text.isBlank c = false) (front : List Char) {rest : List Char}
    (ends : stretch = [] → rest = []) :
    indentation (Text.trimReturns (front ++ stretch ++ rest)) ≤ front.length := by
  by_cases none : stretch = []
  · rw [none, ends none, List.append_nil, List.append_nil]
    have within : indentation (Text.trimReturns front) ≤ (Text.trimReturns front).length :=
      (List.takeWhile_prefix _).length_le
    exact within.trans (List.rdropWhile_prefix _ front).length_le
  · obtain ⟨tail, kept⟩ := Text.isPrefix_trimReturns none stays front rest
    rw [← kept, List.append_assoc]
    refine indentation_le fun c first => ?_
    rw [List.head?_append_of_ne_nil _ none] at first
    have unblank := stays c (List.mem_of_mem_head? first)
    rintro rfl
    cases unblank

variable {diagnostic : Diagnostic} {source : String}

theorem sourceLine_eq {line : String}
    (found : Text.line? source diagnostic.position.line = some line) :
    diagnostic.sourceLine source = line.toList := by
  rw [sourceLine, found]
  rfl

/-- None of the lines of an excerpt has a line feed in it. -/
theorem feed_notMem_lines {file : String} {line : List Char}
    (headline : Text.OneLine diagnostic.headline) (named : Text.OneLine file)
    (single : '\n' ∉ line) :
    ∀ text ∈ [diagnostic.headline.toList, diagnostic.whereabouts file, diagnostic.margin,
      diagnostic.quotation line, diagnostic.caretLine line], '\n' ∉ text := by
  have digits := Text.oneLine_repr diagnostic.position.line.toNat
  have inMargin : '\n' ∉ diagnostic.margin := by
    simp [margin, List.mem_replicate]
  intro text member
  simp only [List.mem_cons, List.not_mem_nil, or_false] at member
  rcases member with rfl | rfl | rfl | rfl | rfl
  · exact headline
  · have marks : Text.OneLine "-> " ∧ Text.OneLine ":" :=
      ⟨Text.oneLine_ofList (by decide), Text.oneLine_ofList (by decide)⟩
    show Text.OneLine _
    simp [Position.text, marks, named]
  · exact inMargin
  · have kept : Text.trimEnd (line.drop (indentation line)) ⊆ line :=
      List.Subset.trans (List.rdropWhile_prefix _ _).subset (List.drop_subset _ line)
    simp only [quotation, List.mem_append, not_or]
    exact ⟨⟨digits, by decide⟩, fun feed => single (kept feed)⟩
  · simp [caretLine, inMargin, List.mem_replicate]

/-- A stretch of a line that is not blank is quoted after what stands before it, without the spaces
left out. -/
theorem quotation_of_isPrefix {front stretch line : List Char} (some : stretch ≠ [])
    (stays : ∀ c ∈ stretch, Text.isBlank c = false) (initial : front ++ stretch <+: line)
    (bound : indentation line ≤ front.length) :
    ∃ rest, diagnostic.quotation line = diagnostic.position.line.toNat.repr.toList ++
      [' ', '|', ' '] ++ front.drop (indentation line) ++ (stretch ++ rest) := by
  obtain ⟨tail, whole⟩ := initial
  have dropped : ∀ count ≤ front.length,
      line.drop count = front.drop count ++ stretch ++ tail := by
    intro count le
    rw [← whole, List.append_assoc, List.drop_append_of_le_length le, List.append_assoc]
  obtain ⟨rest, kept⟩ := Text.isPrefix_trimEnd some stays (front.drop (indentation line)) tail
  refine ⟨rest, ?_⟩
  rw [quotation, dropped _ bound, ← kept]
  simp only [List.append_assoc]

end Diagnostic

/-! ## The line of a token -/

/-- That a token stands in a line of a source, after some of the text and before the rest: the line
begins with what stands before the token since the last line feed, and with the token, and the
spaces at its start end before that. -/
structure Token.StandsIn (token : Token) (source : String) (before after : List Char)
    (line : String) : Prop where
  divided : source.toList = before ++ (token.lexeme.toList ++ after)
  place : token.position = Position.start.after before
  column : token.position.column.toNat = (Text.lastLine before).length + 1
  found : Text.line? source token.position.line = some line
  single : Text.OneLine line
  indented : Diagnostic.indentation line.toList ≤ (Text.lastLine before).length
  initial : token.lexeme.toList ≠ [] →
    Text.lastLine before ++ token.lexeme.toList <+: line.toList

/-- Every token of a source that is not too long stands in a line of it. -/
theorem standsIn_of_mem_tokenize {source : String} (short : source.length < 2 ^ 32 - 1)
    {token : Token} (inside : token ∈ tokenize source) :
    ∃ before after line, token.StandsIn source before after line := by
  obtain ⟨before, after, divided, place, ends⟩ :=
    (Cursor.ofSource source).tiled_tokens.place inside
  change source.toList = _ at divided
  change token.position = Position.start.after before at place
  have unblank := unblank_of_mem_tokenize inside
  have length : before.length < 2 ^ 32 - 1 := by
    rw [← String.length_toList, divided, List.length_append] at short
    omega
  -- A token is on one line, so the line goes on after it up to the next line feed.
  have plain : ∀ c ∈ token.lexeme.toList, decide (c ≠ '\n') := by
    intro c member
    simpa using Text.ne_feed (unblank c member)
  have found := Text.line?_after divided short
  rw [List.takeWhile_append_of_pos plain, ← List.append_assoc, ← place] at found
  have trimmed : token.lexeme.toList = [] → after.takeWhile (· ≠ '\n') = [] := by
    intro none
    rw [ends none, List.takeWhile_nil]
  refine ⟨before, after, _, divided, place, ?_, found, ?_, ?_, ?_⟩
  · rw [place]
    exact (Position.after_start_eq length).2
  · intro feed
    rw [String.toList_ofList] at feed
    have kept := (List.rdropWhile_prefix _ _).subset feed
    simp only [List.mem_append] at kept
    rcases kept with (front | inside) | rest
    · exact Text.feed_notMem_lastLine before front
    · exact unblank.oneLine inside
    · simpa using List.mem_takeWhile_imp rest
  · rw [String.toList_ofList]
    exact Diagnostic.indentation_trimReturns_le unblank _ trimmed
  · intro some
    rw [String.toList_ofList]
    exact Text.isPrefix_trimReturns some unblank _ _

/-- A token is quoted in the fourth line of an excerpt, at the place at which the caret stands in
the fifth. -/
theorem Token.StandsIn.quotation {token : Token} {source : String} {before after : List Char}
    {line : String} (stands : token.StandsIn source before after line)
    (some : token.lexeme.toList ≠ []) (unblank : token.Unblank) {diagnostic : Diagnostic}
    (same : token.position = diagnostic.position) :
    ∃ shown rest, diagnostic.quotation line.toList = shown ++ (token.lexeme.toList ++ rest) ∧
      shown = diagnostic.position.line.toNat.repr.toList ++ [' ', '|', ' '] ++
        (Text.lastLine before).drop (Diagnostic.indentation line.toList) ∧
      shown.length = diagnostic.caretOffset line.toList := by
  obtain ⟨rest, quoted⟩ :=
    Diagnostic.quotation_of_isPrefix some unblank (stands.initial some) stands.indented
  refine ⟨_, rest, quoted, rfl, ?_⟩
  simp only [Diagnostic.caretOffset, List.length_append, List.length_drop, String.length_toList,
    List.length_cons, List.length_nil, ← same, stands.column]
  omega

/-- The caret of an excerpt points at the token that the diagnostic is about. For a diagnostic of a
source that is not too long, the source has a line of its number, and its column is past the spaces
left out of that line. The excerpt is five lines, and in the last one is a single caret, at the
place given by the width of the number and by the column. If a token other than the end stands where
the diagnostic does, it begins at the same place of the fourth line, after what stands before it in
the source. -/
theorem caret_points_at_token {source file : String} {diagnostic : Diagnostic}
    (short : source.length < 2 ^ 32 - 1) (named : '\n' ∉ file.toList)
    (member : diagnostic ∈ (compile source).diagnostics) :
    ∃ line, Text.line? source diagnostic.position.line = some line ∧
      Diagnostic.indentation line.toList < diagnostic.position.column.toNat ∧
      ∃ first second third fourth fifth,
        (diagnostic.excerpt source file).toList =
          Text.ofLines [first, second, third, fourth, fifth] ∧
        (∀ text ∈ [first, second, third, fourth, fifth], '\n' ∉ text) ∧
        fifth.count '^' = 1 ∧
        fifth[diagnostic.caretOffset line.toList]? = some '^' ∧
        ∀ token ∈ tokenize source, token.position = diagnostic.position → token.kind ≠ .finish →
          ∃ before after, source.toList = before ++ (token.lexeme.toList ++ after) ∧
            token.position = Position.start.after before ∧
            ∃ shown rest, fourth = shown ++ (token.lexeme.toList ++ rest) ∧
              shown = diagnostic.position.line.toNat.repr.toList ++ [' ', '|', ' '] ++
                (Text.lastLine before).drop (Diagnostic.indentation line.toList) ∧
              shown.length = diagnostic.caretOffset line.toList := by
  obtain ⟨token, inside, place⟩ := token_of_mem_diagnostics member
  obtain ⟨before, after, line, stands⟩ := standsIn_of_mem_tokenize short inside
  have column := stands.column
  have indented := stands.indented
  have found := stands.found
  rw [place] at column found
  refine ⟨line, found, by omega, _, _, _, _, _, diagnostic.toList_excerpt source file, ?_⟩
  rw [Diagnostic.sourceLine_eq found]
  obtain ⟨once, caret⟩ := diagnostic.caret_of_caretLine line.toList
  have headline := oneLine_headline_of_mem member
  refine ⟨Diagnostic.feed_notMem_lines headline named stands.single, once, caret, ?_⟩
  -- Any token at that place stands in the line found already.
  intro token₁ inside₁ same more
  obtain ⟨front, rest, line₁, stands₁⟩ := standsIn_of_mem_tokenize short inside₁
  have found₁ := stands₁.found
  rw [same, found, Option.some_inj] at found₁
  rw [found₁]
  exact ⟨front, rest, stands₁.divided, stands₁.place, stands₁.quotation
    (lexeme_ne_of_mem_tokenize inside₁ more) (unblank_of_mem_tokenize inside₁) same⟩

/-- A letter that the language does not know, in an indented line before a carriage return. -/
theorem caret_points_at_unknown_letter :
    ∃ line, Text.line? "1\r\n  x = é 3\r\n" 2 = some line ∧
      Diagnostic.indentation line.toList < 7 ∧
      ∃ first second third fourth fifth,
        (Diagnostic.excerpt ⟨.unrecognisedToken "é", ⟨2, 7⟩⟩ "1\r\n  x = é 3\r\n" "a.kal").toList =
          Text.ofLines [first, second, third, fourth, fifth] ∧
        fifth[Diagnostic.caretOffset ⟨.unrecognisedToken "é", ⟨2, 7⟩⟩ line.toList]? = some '^' := by
  have member : ⟨.unrecognisedToken "é", ⟨2, 7⟩⟩ ∈ (compile "1\r\n  x = é 3\r\n").diagnostics := by
    with_unfolding_all decide
  obtain ⟨line, found, past, first, second, third, fourth, fifth, whole, -, -, caret, -⟩ :=
    @caret_points_at_token _ "a.kal" _ (by decide +kernel) (by decide) member
  exact ⟨line, found, past, first, second, third, fourth, fifth, whole, caret⟩

example : (compile "1\r\n  x = é 3\r\n").diagnostics.map (·.excerpt "1\r\n  x = é 3\r\n" "a.kal") =
    ["Error: UnrecognisedToken\n-> a.kal:2:7\n  |\n2 | x = é 3\n  | ----^\n"] := by
  with_unfolding_all rfl

end Kaleido
