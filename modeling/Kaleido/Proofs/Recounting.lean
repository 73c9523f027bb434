import Kaleido.Proofs.Lines

/-!
# Places by recounting

A cursor can read tokens and pass over bytes in any order, also into the middle of a token, a
comment or the end of a line, and it never looks back. Main statement: however it came to its place,
the place is what counting the source from its start up to there gives.
-/
namespace Kaleido

/-! ## Bytes -/

namespace Text

/-- The number of bytes of a text. -/
def bytes (text : List Char) : Nat := (String.ofList text).utf8ByteSize

@[simp] theorem bytes_append (first second : List Char) :
    bytes (first ++ second) = bytes first + bytes second := by
  rw [bytes, String.ofList_append, String.utf8ByteSize_append, bytes, bytes]

@[simp] theorem bytes_cons (c : Char) (rest : List Char) :
    bytes (c :: rest) = c.utf8Size + bytes rest := by
  have single : bytes [c] = c.utf8Size := String.utf8ByteSize_singleton
  rw [← List.singleton_append, bytes_append, single]

theorem bytes_toList (text : String) : bytes text.toList = text.utf8ByteSize := by
  rw [bytes, String.ofList_toList]

theorem eq_nil_of_bytes {text : List Char} (none : bytes text = 0) : text = [] := by
  cases text with
  | nil => rfl
  | cons c rest =>
    have some := c.utf8Size_pos
    rw [bytes_cons] at none
    omega

/-- The character boundaries of a text are the ends of its initial stretches. -/
theorem isValid_iff {source : String} {offset : Nat} :
    String.Pos.Raw.IsValid source ⟨offset⟩ ↔
      ∃ before after, source.toList = before ++ after ∧ bytes before = offset := by
  rw [String.Pos.Raw.isValid_iff_exists_append]
  constructor
  · rintro ⟨before, after, rfl, place⟩
    refine ⟨before.toList, after.toList, String.toList_append, ?_⟩
    rw [bytes_toList]
    exact (congrArg String.Pos.Raw.byteIdx place).symm
  · rintro ⟨before, after, divided, rfl⟩
    refine ⟨String.ofList before, String.ofList after, ?_, rfl⟩
    rw [← String.ofList_append, ← divided, String.ofList_toList]

end Text

open Text (bytes)

namespace Cursor

/-- The characters in a number of bytes are those of an initial stretch with so many bytes. -/
theorem charactersIn?_eq_some_iff {count total : Nat} {text : List Char} :
    charactersIn? total text = some count ↔
      ∃ passed rest, text = passed ++ rest ∧ bytes passed = total ∧ passed.length = count := by
  fun_induction charactersIn? total text generalizing count with
  | case1 text =>
    constructor
    · intro found
      exact ⟨[], text, rfl, rfl, Option.some.inj found⟩
    · rintro ⟨passed, rest, -, none, rfl⟩
      rw [Text.eq_nil_of_bytes none, List.length_nil]
  | case2 total =>
    constructor
    · intro found
      cases found
    · rintro ⟨passed, rest, empty, some, -⟩
      rw [(List.append_eq_nil_iff.mp empty.symm).1] at some
      cases some
  | case3 total c text fits ih =>
    rw [Option.map_eq_some_iff]
    constructor
    · rintro ⟨fewer, found, rfl⟩
      obtain ⟨passed, rest, rfl, size, rfl⟩ := ih.mp found
      refine ⟨c :: passed, rest, rfl, ?_, rfl⟩
      rw [Text.bytes_cons, size]
      omega
    · rintro ⟨passed, rest, same, size, rfl⟩
      cases passed with
      | nil => cases size
      | cons first passed =>
        obtain ⟨rfl, rfl⟩ := List.cons.inj same
        rw [Text.bytes_cons] at size
        exact ⟨passed.length, ih.mpr ⟨passed, rest, rfl, by omega, rfl⟩, rfl⟩
  | case4 total c text long =>
    constructor
    · intro found
      cases found
    · rintro ⟨passed, rest, same, size, -⟩
      cases passed with
      | nil => cases size
      | cons first passed =>
        obtain ⟨rfl, -⟩ := List.cons.inj same
        rw [Text.bytes_cons] at size
        omega

theorem skipBytes?_eq_some_iff {cursor after : Cursor} {count : Nat} :
    cursor.skipBytes? count = some after ↔
      ∃ passed, cursor.rest = passed ++ after.rest ∧ bytes passed = count ∧
        after.position = cursor.position.after passed := by
  rw [skipBytes?, Option.map_eq_some_iff]
  constructor
  · rintro ⟨characters, found, rfl⟩
    obtain ⟨passed, rest, same, size, rfl⟩ := charactersIn?_eq_some_iff.mp found
    refine ⟨passed, ?_, size, ?_⟩
    · rw [skip, same, List.drop_left]
    · rw [skip, same, List.take_left]
  · rintro ⟨passed, same, size, place⟩
    refine ⟨passed.length, charactersIn?_eq_some_iff.mpr ⟨passed, after.rest, same, size, rfl⟩, ?_⟩
    obtain ⟨rest, position⟩ := after
    obtain rfl : position = cursor.position.after passed := place
    rw [skip, show cursor.rest = passed ++ rest from same, List.drop_left, List.take_left]

theorem skipBytes?_add {cursor middle after : Cursor} {first second : Nat}
    (before : cursor.skipBytes? first = some middle)
    (later : middle.skipBytes? second = some after) :
    cursor.skipBytes? (first + second) = some after := by
  obtain ⟨passed, same, size, place⟩ := skipBytes?_eq_some_iff.mp before
  obtain ⟨more, same', size', place'⟩ := skipBytes?_eq_some_iff.mp later
  refine skipBytes?_eq_some_iff.mpr ⟨passed ++ more, ?_, ?_, ?_⟩
  · rw [same, same', List.append_assoc]
  · rw [Text.bytes_append, size, size']
  · rw [place', place, Position.after_append]

/-! ## Moves -/

/-- What a cursor can be made to do. -/
inductive Move where
  /-- To read a token. -/
  | token
  /-- To pass over a number of bytes. -/
  | bytes (count : Nat)
deriving Repr, DecidableEq

/-- The cursor after a move. One that would end past the source, or inside a character, is not
made. -/
def move (cursor : Cursor) : Move → Cursor
  | .token => cursor.next.2
  | .bytes count => (cursor.skipBytes? count).getD cursor

theorem move_of_skipBytes? {cursor after : Cursor} {count : Nat}
    (skipped : cursor.skipBytes? count = some after) : cursor.move (.bytes count) = after := by
  rw [move, skipped, Option.getD_some]

/-- The cursor after moves, one after the other. -/
def moves (cursor : Cursor) (all : List Move) : Cursor := all.foldl move cursor

/-- The number of bytes of a source before a cursor in it. -/
def offset (source : String) (cursor : Cursor) : Nat := source.utf8ByteSize - bytes cursor.rest

/-- That a cursor stands in a source after a stretch of it. -/
structure StandsAfter (source : String) (passed : List Char) (cursor : Cursor) : Prop where
  divided : source.toList = passed ++ cursor.rest
  place : cursor.position = Position.start.after passed

namespace StandsAfter

variable {source : String} {passed : List Char} {cursor : Cursor}

theorem ofSource (source : String) : StandsAfter source [] (Cursor.ofSource source) := ⟨rfl, rfl⟩

theorem offset_eq (stands : StandsAfter source passed cursor) :
    cursor.offset source = bytes passed := by
  rw [offset, ← Text.bytes_toList, stands.divided, Text.bytes_append, Nat.add_sub_cancel]

theorem skipBytes {count : Nat} {after : Cursor} (stands : StandsAfter source passed cursor)
    (skipped : cursor.skipBytes? count = some after) :
    ∃ more, bytes more = count ∧ StandsAfter source (passed ++ more) after := by
  obtain ⟨more, same, size, place⟩ := skipBytes?_eq_some_iff.mp skipped
  refine ⟨more, size, ?_, ?_⟩
  · rw [stands.divided, same, List.append_assoc]
  · rw [place, stands.place, Position.after_append]

/-- The next token stands after the stretch and a gap, and its text leads to the cursor after it. -/
theorem next (stands : StandsAfter source passed cursor) :
    ∃ gap, cursor.next.1.position = Position.start.after (passed ++ gap) ∧
      StandsAfter source (passed ++ gap ++ cursor.next.1.lexeme.toList) cursor.next.2 := by
  obtain ⟨gap, rest, begins, ends⟩ := cursor.next_spans
  rw [stands.place] at begins ends
  refine ⟨gap, ?_, ?_, ?_⟩
  · rw [begins, Position.after_append]
  · rw [stands.divided, rest]
    simp only [List.append_assoc]
  · rw [ends, List.append_assoc, ← Position.after_append]

/-- A move leads on in the source, if it leads anywhere. -/
theorem move (stands : StandsAfter source passed cursor) (move : Move) :
    ∃ more, StandsAfter source (passed ++ more) (cursor.move move) := by
  cases move with
  | token =>
    obtain ⟨gap, -, after⟩ := stands.next
    rw [List.append_assoc] at after
    exact ⟨_, after⟩
  | bytes count =>
    cases skipped : cursor.skipBytes? count with
    | none => exact ⟨[], by rwa [Cursor.move, skipped, List.append_nil]⟩
    | some after =>
      rw [move_of_skipBytes? skipped]
      obtain ⟨more, -, stands⟩ := stands.skipBytes skipped
      exact ⟨more, stands⟩

theorem moves (stands : StandsAfter source passed cursor) (all : List Move) :
    ∃ more, StandsAfter source (passed ++ more) (cursor.moves all) := by
  induction all generalizing passed cursor with
  | nil => exact ⟨[], by rwa [List.append_nil]⟩
  | cons first rest ih =>
    obtain ⟨more, stands⟩ := stands.move first
    obtain ⟨further, stands⟩ := ih stands
    exact ⟨more ++ further, by rwa [← List.append_assoc]⟩

/-- A number of bytes can be passed over exactly if there is a character boundary after them. -/
theorem exists_skipBytes?_iff (stands : StandsAfter source passed cursor) {count : Nat} :
    (∃ after, cursor.skipBytes? count = some after) ↔
      String.Pos.Raw.IsValid source ⟨cursor.offset source + count⟩ := by
  rw [stands.offset_eq, Text.isValid_iff]
  constructor
  · rintro ⟨after, skipped⟩
    obtain ⟨more, size, stands⟩ := stands.skipBytes skipped
    exact ⟨passed ++ more, after.rest, stands.divided, by rw [Text.bytes_append, size]⟩
  · rintro ⟨before, after, divided, size⟩
    -- Of two initial stretches, the one with fewer bytes begins the other.
    have initial : passed <+: before := by
      have first : before <+: source.toList := ⟨after, divided.symm⟩
      have second : passed <+: source.toList := ⟨cursor.rest, stands.divided.symm⟩
      rcases List.prefix_or_prefix_of_prefix first second with ⟨more, rfl⟩ | longer
      · have none : bytes more = 0 := by
          rw [Text.bytes_append] at size
          omega
        obtain rfl := Text.eq_nil_of_bytes none
        exact ⟨[], by rw [List.append_nil, List.append_nil]⟩
      · exact longer
    obtain ⟨more, rfl⟩ := initial
    rw [Text.bytes_append] at size
    rw [stands.divided, List.append_assoc] at divided
    refine ⟨⟨after, cursor.position.after more⟩, skipBytes?_eq_some_iff.mpr ⟨more, ?_, ?_, rfl⟩⟩
    · exact List.append_cancel_left divided
    · omega

end StandsAfter

/-! ## The end -/

theorem next_of_end {cursor : Cursor} (ended : cursor.rest = []) :
    cursor.next = (.finish cursor.position, cursor) := by
  rw [next, dif_pos ended]

/-- At the end there is nowhere to move to. -/
theorem move_of_end {cursor : Cursor} (ended : cursor.rest = []) (move : Move) :
    cursor.move move = cursor := by
  cases move with
  | token => rw [Cursor.move, next_of_end ended]
  | bytes count =>
    cases skipped : cursor.skipBytes? count with
    | none => rw [Cursor.move, skipped, Option.getD_none]
    | some after =>
      rw [move_of_skipBytes? skipped]
      obtain ⟨passed, same, -, place⟩ := skipBytes?_eq_some_iff.mp skipped
      obtain ⟨rfl, none⟩ := List.append_eq_nil_iff.mp (same.symm.trans ended)
      obtain ⟨rest, position⟩ := after
      obtain rfl : rest = [] := none
      obtain rfl : position = cursor.position := place
      rw [← ended]

theorem moves_of_end {cursor : Cursor} (ended : cursor.rest = []) (all : List Move) :
    cursor.moves all = cursor := by
  induction all with
  | nil => rfl
  | cons first rest ih =>
    rw [moves, List.foldl_cons, move_of_end ended]
    exact ih

/-- After the token for the end there is no text ahead. -/
theorem next_of_finish {cursor : Cursor} (finish : cursor.next.1.kind = .finish) :
    cursor.next.2.rest = [] ∧ cursor.next.1 = .finish cursor.next.2.position := by
  fun_induction next cursor with
  | case1 cursor ended => exact ⟨ended, rfl⟩
  | case2 cursor ahead none => cases finish
  | case3 cursor ahead pattern found lexeme kind given =>
    obtain rfl : kind = .finish := finish
    exact absurd (Pattern.spells_covered found given) (Pattern.covered_ne_nil found)
  | case4 cursor ahead pattern found lexeme none ih => exact ih finish

end Cursor

/-! ## Recounting -/

/-- That a place has a line for each line feed of a text, and a column for each character after the
last of them, both counted from one. -/
def Position.Counts (position : Position) (text : List Char) : Prop :=
  position.line.toNat = 1 + text.count '\n' ∧
    position.column.toNat = 1 + (Text.lastLine text).length

namespace Cursor

/-- What holds of a cursor in a source, wherever it stands. -/
structure Recounted (source : String) (cursor : Cursor) : Prop where
  /-- The text before the cursor has as many bytes as its offset says, and the lines and columns
  that its place says. -/
  counted : ∃ passed, source.toList = passed ++ cursor.rest ∧ cursor.offset source = bytes passed ∧
    cursor.position.Counts passed
  /-- The cursor stands at a character boundary. -/
  boundary : String.Pos.Raw.IsValid source ⟨cursor.offset source⟩
  /-- No move leads back. -/
  forward : ∀ move : Move, cursor.offset source ≤ (cursor.move move).offset source
  /-- The place of the next token counts the text before its lexeme. -/
  token : ∃ before, source.toList = before ++ cursor.next.1.lexeme.toList ++ cursor.next.2.rest ∧
    cursor.next.1.position.Counts before
  /-- At the end, there are no tokens but the end, all at the same place. -/
  ended : cursor.atEnd → ∀ all, (cursor.moves all).next.1 = .finish cursor.position
  /-- After the token for the end, there are no others. -/
  finished : cursor.next.1.kind = .finish →
    ∀ all, (cursor.next.2.moves all).next.1 = cursor.next.1
  /-- A number of bytes after which there is no character boundary of the source is refused. -/
  refused : ∀ count, ¬ String.Pos.Raw.IsValid source ⟨cursor.offset source + count⟩ →
    cursor.move (.bytes count) = cursor
  /-- Any other number of bytes is added to the offset. -/
  advanced : ∀ count, String.Pos.Raw.IsValid source ⟨cursor.offset source + count⟩ →
    (cursor.move (.bytes count)).offset source = cursor.offset source + count
  /-- Two numbers of bytes can be passed over at once. -/
  joined : ∀ first second, String.Pos.Raw.IsValid source ⟨cursor.offset source + first⟩ →
    String.Pos.Raw.IsValid source ⟨cursor.offset source + first + second⟩ →
    (cursor.move (.bytes first)).move (.bytes second) = cursor.move (.bytes (first + second))

namespace StandsAfter

variable {source : String} {passed : List Char} {cursor : Cursor}

theorem counts (stands : StandsAfter source passed cursor) (short : source.length < 2 ^ 32 - 1)
    {before : List Char} (initial : before <+: passed) :
    (Position.start.after before).Counts before := by
  have bound : before.length < 2 ^ 32 - 1 := by
    have fewer := initial.length_le
    rw [← String.length_toList, stands.divided, List.length_append] at short
    omega
  obtain ⟨line, column⟩ := Position.after_start_eq bound
  exact ⟨line.trans (Nat.add_comm ..), column.trans (Nat.add_comm ..)⟩

theorem offset_le_move (stands : StandsAfter source passed cursor) (move : Move) :
    cursor.offset source ≤ (cursor.move move).offset source := by
  obtain ⟨more, after⟩ := stands.move move
  rw [stands.offset_eq, after.offset_eq, Text.bytes_append]
  exact Nat.le_add_right ..

theorem skipBytes?_of_boundary (stands : StandsAfter source passed cursor) {count : Nat}
    (valid : String.Pos.Raw.IsValid source ⟨cursor.offset source + count⟩) :
    cursor.skipBytes? count = some (cursor.move (.bytes count)) := by
  obtain ⟨after, skipped⟩ := stands.exists_skipBytes?_iff.mpr valid
  rw [skipped, move_of_skipBytes? skipped]

theorem offset_move (stands : StandsAfter source passed cursor) {count : Nat}
    (valid : String.Pos.Raw.IsValid source ⟨cursor.offset source + count⟩) :
    (cursor.move (.bytes count)).offset source = cursor.offset source + count := by
  obtain ⟨more, size, after⟩ := stands.skipBytes (stands.skipBytes?_of_boundary valid)
  rw [after.offset_eq, Text.bytes_append, size, stands.offset_eq]

theorem move_move (stands : StandsAfter source passed cursor) {first second : Nat}
    (valid : String.Pos.Raw.IsValid source ⟨cursor.offset source + first⟩)
    (valid' : String.Pos.Raw.IsValid source ⟨cursor.offset source + first + second⟩) :
    (cursor.move (.bytes first)).move (.bytes second) = cursor.move (.bytes (first + second)) := by
  have before := stands.skipBytes?_of_boundary valid
  obtain ⟨more, -, middle⟩ := stands.skipBytes before
  rw [← stands.offset_move valid] at valid'
  exact (move_of_skipBytes? (skipBytes?_add before (middle.skipBytes?_of_boundary valid'))).symm

end StandsAfter

/-- However a cursor was moved in a source of fewer than 2³² - 1 characters, its place and those of
the tokens that it reads are what counting the text before them gives; it stands at a character
boundary, it never goes back, it stays at the end, and passing over bytes is refused past the end
and inside a character, and adds up otherwise. -/
theorem places_are_recounted {source : String} (short : source.length < 2 ^ 32 - 1)
    (history : List Move) : Recounted source ((ofSource source).moves history) := by
  obtain ⟨passed, stands⟩ := (StandsAfter.ofSource source).moves history
  rw [List.nil_append] at stands
  generalize (ofSource source).moves history = cursor at stands
  constructor
  case counted =>
    refine ⟨passed, stands.divided, stands.offset_eq, ?_⟩
    rw [stands.place]
    exact stands.counts short List.prefix_rfl
  case boundary =>
    rw [stands.offset_eq]
    exact Text.isValid_iff.mpr ⟨passed, cursor.rest, stands.divided, rfl⟩
  case forward => exact stands.offset_le_move
  case token =>
    obtain ⟨gap, begins, after⟩ := stands.next
    refine ⟨passed ++ gap, after.divided, ?_⟩
    rw [begins]
    exact after.counts short (List.prefix_append ..)
  case ended =>
    intro atEnd all
    have ended := List.isEmpty_iff.mp atEnd
    rw [moves_of_end ended, next_of_end ended]
  case finished =>
    intro finish all
    obtain ⟨ended, same⟩ := next_of_finish finish
    rw [moves_of_end ended, next_of_end ended, same]
  case refused =>
    intro count invalid
    have none : cursor.skipBytes? count = none :=
      Option.eq_none_iff_forall_ne_some.mpr fun after skipped =>
        invalid (stands.exists_skipBytes?_iff.mp ⟨after, skipped⟩)
    rw [move, none, Option.getD_none]
  case advanced => exact fun count valid => stands.offset_move valid
  case joined => exact fun first second valid valid' => stands.move_move valid valid'

/-- A cursor that is moved past the slashes of a comment, after a move into a character that is not
made, reads the rest of the comment as tokens. -/
theorem places_are_recounted_inside_comment :
    "é// x\n y".length < 2 ^ 32 - 1 ∧
      (ofSource "é// x\n y").moves [.bytes 1, .bytes 4, .token] = ⟨"\n y".toList, ⟨1, 6⟩⟩ ∧
      Recounted "é// x\n y" ((ofSource "é// x\n y").moves [.bytes 1, .bytes 4, .token]) :=
  ⟨by decide, by decide +kernel, places_are_recounted (by decide) _⟩

end Cursor

end Kaleido
