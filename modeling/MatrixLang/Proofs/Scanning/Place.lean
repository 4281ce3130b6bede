import MatrixLang.Scanner

/-!
# Places in a source

A place is a byte offset of the source that lies between two characters.  A
scanner stands at a place when it holds the text behind the place and its line
and column count the text before it.  `StandsAt.skip` moves a scanner over a
piece of text, and `StandsAt.skipBytes` over a number of bytes; every step of a
scanner is made of the two.
-/

namespace MatrixLang

namespace Position

/-- The line and the column behind a text, counted in the text itself. -/
def behind (text : List Char) : Position :=
  ⟨1 + text.count '\n', 1 + (text.reverse.takeWhile (· != '\n')).length⟩

/-- The line and the column of a place. -/
def ofPlace {source : String} (place : source.Pos) : Position :=
  behind (source.sliceTo place).copy.toList

theorem after_behind
    (text : List Char)
    (character : Char) :
    (behind text).after character = behind (text ++ [character]) := by
  by_cases feed : character = '\n'
  · simp [after, behind, feed, Nat.add_assoc]
  · have continued : (character != '\n') = true := by simpa using feed
    have kept : List.count '\n' [character] = 0 :=
      List.count_eq_zero.2 fun same => feed (List.mem_singleton.1 same).symm
    simp [after, behind, feed, continued, kept, Nat.add_assoc]

/-- Moving over a text counts its lines and the columns of its last one. -/
theorem afterAll_behind
    (before text : List Char) :
    (behind before).afterAll text = behind (before ++ text) := by
  induction text generalizing before with
  | nil => simp
  | cons character text inductionHypothesis =>
      rw [afterAll_cons, after_behind, inductionHypothesis, List.append_assoc,
        List.singleton_append]

end Position

namespace Scanner

/--
A scanner holds the text behind a place of its source and knows its line and
column.
-/
structure StandsAt
    (scanner : Scanner)
    {source : String}
    (place : source.Pos) : Prop where
  /-- What is left is the text behind the place. -/
  rest : String.ofList scanner.rest = (source.sliceFrom place).copy
  /-- Line and column are those of the place. -/
  position : scanner.position = .ofPlace place

/-- A new scanner stands at the start of its text. -/
theorem standsAt_ofText
    (source : String) :
    (ofText source).StandsAt source.startPos where
  rest := by simp [ofText]
  position := by
    simp [ofText, Position.ofPlace, Position.behind, Position.start]

namespace StandsAt

variable {scanner : Scanner} {source : String} {place : source.Pos}

/-- A source is what lies before a scanner and what is left of it. -/
theorem splits
    (stands : scanner.StandsAt place) :
    place.Splits (source.sliceTo place).copy (String.ofList scanner.rest) := by
  rw [stands.rest]
  exact place.splits

/-- A scanner that has nothing left stands at the end. -/
theorem eq_endPos
    (stands : scanner.StandsAt place)
    (empty : scanner.rest = []) :
    place = source.endPos := by
  rw [stands.splits.eq_endPos_iff, empty, String.ofList_nil]

/-- Skipping a piece of text leads to the place behind it. -/
theorem skip
    (stands : scanner.StandsAt place)
    (count : Nat) :
    ∃ stop : source.Pos,
      place ≤ stop ∧
      source.extract place stop = String.ofList (scanner.rest.take count) ∧
      stop.offset.byteIdx =
        place.offset.byteIdx +
          (String.ofList (scanner.rest.take count)).utf8ByteSize ∧
      (scanner.skip count).StandsAt stop := by
  have parts := stands.splits
  rw [← List.take_append_drop count scanner.rest, String.ofList_append] at parts
  have whole : source =
      ((source.sliceTo place).copy ++
        String.ofList (scanner.rest.take count)) ++
        String.ofList (scanner.rest.drop count) := by
    rw [String.append_assoc]
    exact parts.eq_append
  have behind := String.Pos.splits_ofEqAppend whole
  obtain ⟨forward, between⟩ :=
    String.copy_slice_eq_iff_splits.2 ⟨_, _, parts, behind⟩
  refine ⟨.ofEqAppend whole, forward, ?_, ?_, ?_, ?_⟩
  · rw [String.extract_eq_copy_slice _ _ forward]
    exact between
  · rw [behind.offset_eq_rawEndPos, parts.offset_eq_rawEndPos]
    simp
  · rw [Scanner.skip, behind.copy_sliceFrom_eq]
  · rw [Scanner.skip, stands.position, Position.ofPlace, Position.ofPlace,
      behind.copy_sliceTo_eq, Position.afterAll_behind, String.toList_append,
      String.toList_ofList]

end StandsAt

/--
The characters in a number of bytes have as many bytes as the text allows.
-/
theorem utf8ByteSize_of_charactersIn?
    {bytes count : Nat}
    {text : List Char}
    (found : charactersIn? bytes text = some count) :
    (String.ofList (text.take count)).utf8ByteSize =
      min bytes (String.ofList text).utf8ByteSize := by
  induction bytes, text using charactersIn?.induct generalizing count with
  | case1 text =>
      rw [charactersIn?] at found
      cases found
      simp
  | case2 bytes =>
      cases found
      simp
  | case3 bytes character rest fits inductionHypothesis =>
      rw [charactersIn?, if_pos fits, Option.map_eq_some_iff] at found
      obtain ⟨fewer, within, rfl⟩ := found
      have counted := inductionHypothesis within
      rw [List.take_succ_cons, String.ofList_cons, String.ofList_cons,
        String.utf8ByteSize_append, String.utf8ByteSize_append,
        String.utf8ByteSize_singleton]
      omega
  | case4 bytes character rest exceeds =>
      rw [charactersIn?, if_neg exceeds] at found
      cases found

/--
Bytes that are the size of a front of the text end between two characters.
-/
theorem isSome_charactersIn?
    {bytes : Nat}
    {text : List Char}
    (count : Nat)
    (size : (String.ofList (text.take count)).utf8ByteSize =
      min bytes (String.ofList text).utf8ByteSize) :
    (charactersIn? bytes text).isSome := by
  induction bytes, text using charactersIn?.induct generalizing count with
  | case1 text => simp [charactersIn?]
  | case2 bytes => simp [charactersIn?]
  | case3 bytes character rest fits inductionHypothesis =>
      rw [charactersIn?, if_pos fits, Option.isSome_map]
      have positive := character.utf8Size_pos
      cases count with
      | zero =>
          simp only [List.take_zero, String.ofList_nil,
            String.utf8ByteSize_empty, String.ofList_cons,
            String.utf8ByteSize_append, String.utf8ByteSize_singleton] at size
          omega
      | succ count =>
          simp only [List.take_succ_cons, String.ofList_cons,
            String.utf8ByteSize_append, String.utf8ByteSize_singleton] at size
          apply inductionHypothesis count
          omega
  | case4 bytes character rest exceeds =>
      cases count with
      | zero =>
          simp only [List.take_zero, String.ofList_nil,
            String.utf8ByteSize_empty, String.ofList_cons,
            String.utf8ByteSize_append, String.utf8ByteSize_singleton] at size
          omega
      | succ count =>
          simp only [List.take_succ_cons, String.ofList_cons,
            String.utf8ByteSize_append, String.utf8ByteSize_singleton] at size
          omega

namespace StandsAt

variable {scanner : Scanner} {source : String} {place : source.Pos}

/-- The bytes of a source are those before a scanner and those that are left. -/
theorem utf8ByteSize_eq
    (stands : scanner.StandsAt place) :
    source.utf8ByteSize =
      place.offset.byteIdx + (String.ofList scanner.rest).utf8ByteSize := by
  rw [stands.splits.offset_eq_rawEndPos, String.byteIdx_rawEndPos,
    ← String.utf8ByteSize_append, ← stands.splits.eq_append]

/-- Skipping bytes moves over them, or over what is left. -/
theorem skipBytes
    {moved : Scanner}
    {bytes : Nat}
    (stands : scanner.StandsAt place)
    (skipped : scanner.skipBytes? bytes = some moved) :
    ∃ stop : source.Pos,
      stop.offset.byteIdx =
        min (place.offset.byteIdx + bytes) source.utf8ByteSize ∧
      moved.StandsAt stop := by
  obtain ⟨count, within, rfl⟩ := Option.map_eq_some_iff.1 skipped
  obtain ⟨stop, -, -, offset, standsBehind⟩ := stands.skip count
  have total := stands.utf8ByteSize_eq
  refine ⟨stop, ?_, standsBehind⟩
  rw [offset, utf8ByteSize_of_charactersIn? within]
  omega

/-- Bytes can be skipped exactly when they end between two characters. -/
theorem isSome_skipBytes?
    (stands : scanner.StandsAt place)
    (bytes : Nat) :
    (scanner.skipBytes? bytes).isSome ↔
      String.Pos.Raw.IsValid source
        ⟨min (place.offset.byteIdx + bytes) source.utf8ByteSize⟩ := by
  have total := stands.utf8ByteSize_eq
  constructor
  · intro moves
    obtain ⟨moved, skipped⟩ := Option.isSome_iff_exists.1 moves
    obtain ⟨stop, offset, -⟩ := stands.skipBytes skipped
    rw [← offset]
    exact stop.isValid
  · intro valid
    have ahead := (source.pos _ valid).splits
    have forward : place ≤ source.pos _ valid := by
      simp only [String.Pos.le_iff, String.Pos.Raw.le_iff, String.offset_pos]
      omega
    obtain ⟨text, before, behind⟩ :=
      (stands.splits.le_iff_exists_eq_append ahead).1 forward
    have front : scanner.rest.take text.toList.length = text.toList := by
      rw [← String.toList_ofList (l := scanner.rest), behind,
        String.toList_append, List.take_left]
    have size : place.offset.byteIdx + text.utf8ByteSize =
        min (place.offset.byteIdx + bytes) source.utf8ByteSize := by
      have start :=
        congrArg String.Pos.Raw.byteIdx stands.splits.offset_eq_rawEndPos
      have offset := congrArg String.Pos.Raw.byteIdx ahead.offset_eq_rawEndPos
      rw [String.byteIdx_rawEndPos] at start
      rw [before, String.byteIdx_rawEndPos, String.utf8ByteSize_append,
        ← start] at offset
      exact offset.symm
    rw [skipBytes?, Option.isSome_map]
    apply isSome_charactersIn? text.toList.length
    rw [front, String.ofList_toList]
    omega

end StandsAt
end Scanner
end MatrixLang
