import MatrixLang.Diagnostic
import MatrixLang.Proofs.Lines
import MatrixLang.Proofs.Scanning.Source

/-!
# Rendered diagnostics point at their token

A rendered diagnostic ends with a source line behind its number and a caret
under it.  The caret stands under the first character of the token that stopped
parsing (`parseText_caret`).  The column of the token counts what stands before
it on its line, of which only spaces and tabs are removed, and its first
character is not blank, so it is neither removed in front of the line nor
dropped at its end.
-/

namespace MatrixLang

namespace Text

/--
A line as it is shown: without the spaces and tabs before it and the blanks
behind it.
-/
structure Trimmed (line indent shown blanks : List Char) : Prop where
  /-- The line is made of three parts. -/
  split : line = indent ++ (shown ++ blanks)
  /-- The first part consists of spaces and tabs. -/
  indent : ∀ character ∈ indent, character = ' ' ∨ character = '\t'
  /-- There is no space or tab right behind the first part. -/
  start : ∀ character ∈ (shown ++ blanks).head?,
    character ≠ ' ' ∧ character ≠ '\t'
  /-- The last part consists of blanks. -/
  blanks : ∀ character ∈ blanks, isBlank character = true
  /-- There is no blank right before the last part. -/
  last : ∀ character ∈ shown.getLast?, isBlank character = false

/--
A text ends with a line and, on the next one, a caret at an index and no other
caret.
-/
def EndsWithCaret (text above : String) (caret : Nat) : Prop :=
  ∃ (front : String) (margin : List Char),
    text = front ++ "\n" ++ above ++ "\n" ++ String.ofList (margin ++ ['^']) ∧
    IsLine above ∧
    '\n' ∉ margin ∧
    '^' ∉ margin ∧
    margin.length = caret

/--
A text ends with the line of a position, trimmed and behind its number, and with
a caret under the column of the position.
-/
def PointsAt
    (text source : String)
    (position : Position)
    (above : String)
    (caret : Nat) : Prop :=
  ∃ line indent shown blanks : List Char,
    lineAt? source position = some (String.ofList line) ∧
    HasLine source position.line (String.ofList line) ∧
    Trimmed line indent shown blanks ∧
    above = position.line.repr ++ " | " ++ String.ofList shown ∧
    EndsWithCaret text above caret ∧
    indent.length < position.column ∧
    caret = position.line.repr.length + 3 +
      (position.column - 1) - indent.length

end Text

namespace Diagnostic

/-! ## The parts of a rendered diagnostic -/

/-- The blanks that are removed before a line. -/
def indent (line : List Char) : List Char :=
  line.takeWhile isIndent

/-- What is shown of a line. -/
def shown (line : List Char) : List Char :=
  Text.dropTrailing Text.isBlank (line.drop (indent line).length)

/--
What stands before the caret under a line: the gutter and a dash for each
column.
-/
def margin (position : Position) (line : List Char) : List Char :=
  gutter position.line.repr ++
    ' ' ::
      List.replicate (max 1 (position.column - (indent line).length) - 1) '-'

theorem isIndent_iff
    {character : Char} :
    isIndent character = true ↔ character = ' ' ∨ character = '\t' := by
  simp [isIndent]

/-- Only blanks are removed. -/
theorem isIndent_eq_false
    {character : Char}
    (visible : Text.isBlank character = false) :
    isIndent character = false := by
  rw [← Bool.not_eq_true, isIndent_iff]
  rintro (rfl | rfl) <;> cases visible

theorem trimmed_shown
    (line : List Char) :
    Text.Trimmed line (indent line) (shown line)
      (Text.trailing Text.isBlank (line.drop (indent line).length)) := by
  have rest : line.drop (indent line).length = line.dropWhile isIndent := by
    have behind :
        (indent line ++ line.dropWhile isIndent).drop (indent line).length =
          line.dropWhile isIndent :=
      List.drop_left
    rwa [indent, List.takeWhile_append_dropWhile] at behind
  have behind := Text.dropTrailing_append_trailing Text.isBlank
    (line.drop (indent line).length)
  constructor
  · rw [shown, behind, rest, indent, List.takeWhile_append_dropWhile]
  · intro character member
    have all := List.all_eq_true.1 List.all_takeWhile character member
    exact isIndent_iff.1 all
  · intro character isFirst
    rw [shown, behind, rest] at isFirst
    have stopped := List.head?_dropWhile_not isIndent line
    rw [Option.mem_def.1 isFirst] at stopped
    simpa [isIndent] using stopped
  · exact fun character => Text.of_mem_trailing
  · exact fun character => Text.of_mem_getLast?_dropTrailing

theorem length_gutter
    (number : String) :
    (gutter number).length = number.length + 2 := by
  simp [gutter]

/--
The caret stands behind the gutter, in the column of the position less what is
removed.
-/
theorem length_margin
    {position : Position}
    {line : List Char}
    (within : (indent line).length < position.column) :
    (margin position line).length =
      position.line.repr.length + 3 + (position.column - 1) -
        (indent line).length := by
  rw [margin, List.length_append, length_gutter, List.length_cons,
    List.length_replicate]
  omega

theorem notMem_margin
    {character : Char}
    (other : character ∉ [' ', '|', '-'])
    (position : Position)
    (line : List Char) : character ∉ margin position line := by
  simp only [List.mem_cons, List.not_mem_nil, or_false, not_or] at other
  simp [margin, gutter, List.leftpad, List.mem_replicate, other]

/--
A rendered diagnostic ends with a line behind its number and a caret behind a
margin.
-/
theorem render_eq
    {diagnostic : Diagnostic}
    {source : String}
    {line : List Char}
    (found :
      Text.lineAt? source diagnostic.position = some (String.ofList line))
    (file : String) :
    ∃ front, diagnostic.render source file =
      front ++ "\n" ++
        (diagnostic.position.line.repr ++
          " | " ++ String.ofList (shown line)) ++ "\n" ++
          String.ofList (margin diagnostic.position line ++ ['^']) := by
  have pointer : String.ofList (margin diagnostic.position line ++ ['^']) =
      String.ofList (gutter diagnostic.position.line.repr) ++ " " ++
        String.ofList
          (['^'].leftpad (max 1 (diagnostic.position.column -
            (indent line).length)) '-') := by
    rw [← String.toList_inj]
    simp [margin, List.leftpad]
  refine ⟨"Error: " ++ diagnostic.cause.name ++
    (diagnostic.cause.tip?.map fun tip => " (" ++ tip ++ ")").getD "" ++ "\n" ++
      "-> " ++ file ++ "\n" ++
        String.ofList (gutter diagnostic.position.line.repr), ?_⟩
  rw [pointer, shown, indent]
  unfold render
  simp only [found, Option.getD_some, String.toList_ofList, String.append_assoc]

/-! ## Where the caret stands -/

/--
The removed blanks end at the latest before the first character that is not
removed.
-/
theorem indent_append_cons
    {character : Char}
    (kept : isIndent character = false)
    (front back : List Char) :
    indent (front ++ character :: back) = indent front := by
  rw [indent, List.takeWhile_append,
    List.takeWhile_cons_of_neg (by simp [kept]), List.append_nil]
  split
  · next whole =>
      exact ((List.takeWhile_prefix isIndent).eq_of_length whole).symm
  · rfl

/--
A character that is not blank is shown, and what stands before it loses its
blanks only.
-/
theorem shown_append_cons
    {character : Char}
    (visible : Text.isBlank character = false)
    (front back : List Char) :
    shown (front ++ character :: back) =
      front.drop (indent front).length ++
        character :: Text.dropTrailing Text.isBlank back := by
  have within : (indent front).length ≤ front.length :=
    (List.takeWhile_prefix isIndent).length_le
  rw [shown, indent_append_cons (isIndent_eq_false visible),
    List.drop_append_of_le_length within, Text.dropTrailing_append_cons visible]

/--
The blanks that are removed before the line around a place stand before the
place.
-/
theorem length_indent_le
    {before rest : List Char}
    (visible : ∀ character ∈ rest.head?, Text.isBlank character = false) :
    (indent (Text.lineAround before rest)).length ≤
      (Text.lastLine before).length := by
  cases rest with
  | nil =>
      have lengths := congrArg List.length
        (Text.dropTrailing_append_trailing (· == '\r') (Text.around before []))
      rw [List.length_append] at lengths
      calc
        (indent (Text.lineAround before [])).length ≤
            (Text.lineAround before []).length :=
          (List.takeWhile_prefix isIndent).length_le
        _ ≤ (Text.around before []).length := by
          rw [← lengths]
          exact Nat.le_add_right _ _
        _ = (Text.lastLine before).length := by
          rw [Text.around, List.takeWhile_nil, List.append_nil]
  | cons character back =>
      have notBlank := visible character rfl
      obtain ⟨behind, line⟩ := Text.lineAround_cons notBlank before back
      rw [line, indent_append_cons (isIndent_eq_false notBlank)]
      exact (List.takeWhile_prefix isIndent).length_le

/--
The character at a place is shown behind what is left of the line before the
place.
-/
theorem getElem?_above
    {before back : List Char}
    {character : Char}
    (visible : Text.isBlank character = false)
    (front : String) :
    (front ++ String.ofList
        (shown (Text.lineAround before (character :: back)))).toList[
      front.length + ((Text.lastLine before).length -
        (indent (Text.lineAround before (character :: back))).length)]? =
      some character := by
  obtain ⟨behind, line⟩ := Text.lineAround_cons visible before back
  rw [String.toList_append, String.toList_ofList, ← String.length_toList,
    List.getElem?_append_right (Nat.le_add_right _ _), Nat.add_sub_cancel_left,
    line, shown_append_cons visible,
    indent_append_cons (isIndent_eq_false visible), ← List.length_drop,
    List.getElem?_append_right (Nat.le_refl _), Nat.sub_self]
  rfl

theorem isLine_above
    {line : List Char}
    (isLine : '\n' ∉ line)
    (number : Nat) :
    Text.IsLine (number.repr ++ " | " ++ String.ofList (shown line)) := by
  have isNumber : Text.IsLine number.repr := by
    rw [Text.IsLine, Nat.toList_repr]
    exact Numeral.newline_notMem_toDigits number
  have isShown : Text.IsLine (String.ofList (shown line)) := by
    rw [(trimmed_shown line).split, List.mem_append, List.mem_append, not_or,
      not_or] at isLine
    rw [Text.IsLine, String.toList_ofList]
    exact isLine.2.1
  rw [Text.isLine_append, Text.isLine_append]
  exact ⟨⟨isNumber, by decide⟩, isShown⟩

/--
A diagnostic is rendered with a caret under the character at its position.
-/
theorem pointsAt_render
    {diagnostic : Diagnostic}
    {source : String}
    {before rest : List Char}
    (parts : source.toList = before ++ rest)
    (position : diagnostic.position = .behind before)
    (visible : ∀ character ∈ rest.head?, Text.isBlank character = false)
    (file : String) :
    ∃ above caret,
      Text.PointsAt (diagnostic.render source file) source diagnostic.position
        above caret ∧
      ∀ character ∈ rest.head?, above.toList[caret]? = some character := by
  have number : diagnostic.position.line = 1 + before.count '\n' := by
    rw [position]
    rfl
  have column :
      diagnostic.position.column = 1 + (Text.lastLine before).length := by
    rw [position, Text.lastLine, Text.trailing, List.length_reverse]
    rfl
  have removed : (indent (Text.lineAround before rest)).length <
      diagnostic.position.column := by
    have standsBefore : _ ≤ (Text.lastLine before).length :=
      length_indent_le visible
    omega
  have found := Text.lineAt?_eq_lineAround parts number
  have hasLine := Text.hasLine_lineAround parts
  have isLine := Text.newline_notMem_lineAround before rest
  obtain ⟨front, rendered⟩ := render_eq found file
  have caret := length_margin removed
  refine ⟨_, _, ⟨Text.lineAround before rest, _, _, _, found, number ▸ hasLine,
    trimmed_shown _, rfl,
    ⟨front, _, rendered, isLine_above isLine _, notMem_margin (by decide) _ _,
      notMem_margin (by decide) _ _, caret⟩,
    removed, rfl⟩, ?_⟩
  intro character isFirst
  have notBlank := visible character isFirst
  obtain ⟨back, rfl⟩ := List.head?_eq_some_iff.1 isFirst
  have gutter : (diagnostic.position.line.repr ++ " | ").length =
      diagnostic.position.line.repr.length + 3 :=
    String.length_append _ _
  have place :
      diagnostic.position.line.repr.length + 3 +
          (diagnostic.position.column - 1) -
          (indent (Text.lineAround before (character :: back))).length =
        (diagnostic.position.line.repr ++ " | ").length +
          ((Text.lastLine before).length -
            (indent (Text.lineAround before (character :: back))).length) := by
    omega
  rw [place]
  exact getElem?_above notBlank _

end Diagnostic

/-! ## The token that stopped parsing -/

/-- A piece of a text stands behind what its position counts. -/
theorem toList_eq_of_extract
    {text : String}
    {start stop : text.Pos}
    (forward : start ≤ stop) :
    ∃ before behind,
      text.toList = before ++ ((text.extract start stop).toList ++ behind) ∧
      Position.ofPlace start = .behind before := by
  obtain ⟨before, behind, splits, -⟩ :=
    String.copy_slice_eq_iff_splits.1 ⟨forward, rfl⟩
  refine ⟨before.toList, behind.toList, ?_, ?_⟩
  · rw [String.extract_eq_copy_slice _ _ forward, ← String.toList_append,
      ← String.toList_append, ← splits.eq_append]
  · rw [Position.ofPlace, splits.copy_sliceTo_eq]

/--
A diagnostic of a text is rendered with the line of its position and a caret
under the first character of the token that stopped parsing, or behind the whole
text.
-/
theorem parseText_caret
    {source : String}
    {diagnostic : Diagnostic}
    (failed : parseText source = .error diagnostic)
    (file : String) :
    ∃ above caret,
      Text.PointsAt (diagnostic.render source file) source diagnostic.position
        above caret ∧
      (diagnostic.cause.token.kind ≠ .endOfFile ->
        ∃ (start stop : source.Pos) (first : Char) (others : List Char),
          start < stop ∧
          diagnostic.position = .ofPlace start ∧
          source.extract start stop = diagnostic.cause.token.written ∧
          diagnostic.cause.token.written.toList = first :: others ∧
          above.toList[caret]? = some first) ∧
      (diagnostic.cause.token.kind = .endOfFile ->
        diagnostic.position = .ofPlace source.endPos) := by
  obtain ⟨position, index, token⟩ := parseText_error failed
  rcases tokenAt_tokenize source index with ⟨isToken, written⟩ | isEnd
  · rw [← token] at isToken written
    obtain ⟨start, stop, first, others, forward, place, extract, letters,
      notBlank⟩ := written
    obtain ⟨before, behind, parts, counted⟩ :=
      toList_eq_of_extract (Nat.le_of_lt forward)
    rw [extract, letters] at parts
    rw [← position] at place
    have visible : ∀ character ∈ (first :: (others ++ behind)).head?,
        Text.isBlank character = false := by
      rintro character ⟨⟩
      exact notBlank
    obtain ⟨above, caret, points, under⟩ :=
      Diagnostic.pointsAt_render parts (place.trans counted) visible file
    refine ⟨above, caret, points,
      fun _ => ?_, fun isEnd => absurd isEnd isToken⟩
    exact ⟨start, stop, first, others, forward, place, extract, letters,
      under first rfl⟩
  · rw [← token] at isEnd
    have place : diagnostic.position = .ofPlace source.endPos := by
      rw [position, isEnd]
      rfl
    have counted : Position.ofPlace source.endPos = .behind source.toList := by
      simp [Position.ofPlace]
    have parts : source.toList = source.toList ++ [] := (List.append_nil _).symm
    have visible :
        ∀ character ∈ ([] : List Char).head?, Text.isBlank character = false :=
      fun character isFirst => absurd isFirst (Option.not_mem_none character)
    obtain ⟨above, caret, points, -⟩ :=
      Diagnostic.pointsAt_render parts (place.trans counted) visible file
    refine ⟨above, caret, points,
      fun isToken => absurd ?_ isToken, fun _ => place⟩
    rw [isEnd]
    rfl

/-- A function with a constant that has no value. -/
def missingValue : String :=
  "function void main() \x7b\n  val int x = ;\n\x7d\n"

/-- The diagnostic for it: a semicolon in the place of the value. -/
def valueExpected : Diagnostic :=
  .ofCause (.unexpected ⟨.semicolon, ";", ⟨2, 15⟩⟩ Expected.atom)

/-- The caret stands under the semicolon in the place of the value. -/
theorem parseText_caret_missingValue :
    parseText missingValue = .error valueExpected ∧
      ∃ above caret,
        Text.PointsAt (valueExpected.render missingValue "main.mavl")
          missingValue ⟨2, 15⟩
          above caret ∧
        above.toList[caret]? = some ';' := by
  have failed : parseText missingValue = .error valueExpected := rfl
  obtain ⟨above, caret, points, under, -⟩ := parseText_caret failed "main.mavl"
  obtain ⟨-, -, first, others, -, -, -, written, found⟩ := under nofun
  cases written
  exact ⟨failed, above, caret, points, found⟩

end MatrixLang
