import MatrixLang.Proofs.Lines
import MatrixLang.Proofs.Numerals.Float
import MatrixLang.Proofs.Subtrees

/-!
# Indentation of statements

The text of a statement at a deeper level of nesting is its text with as many
more spaces behind every line feed (`Stmt.textAt_add`), provided that no name
and no string in the statement breaks a line.  Then expressions, types and the
heads of statements stand on one line, so all line feeds are those between
braces.  There each line brings its own indentation, and the spaces that the
line feed in front of the first line gains are those that the last line feed
would have in excess (`Stmt.indented_line`).
-/

namespace MatrixLang

/-! ## Texts -/

namespace Text

/-- A character, with spaces behind it if it is a line feed. -/
def spaced (spaces : Nat) (character : Char) : List Char :=
  if character = '\n' then '\n' :: List.replicate spaces ' ' else [character]

/-- A text with spaces behind every line feed. -/
def indented (spaces : Nat) (text : String) : String :=
  String.ofList (text.toList.flatMap (spaced spaces))

theorem isLine_intercalate
    {separator : String}
    {texts : List String}
    (separatorLine : IsLine separator)
    (lines : ∀ text ∈ texts, IsLine text) :
    IsLine (String.intercalate separator texts) := by
  induction texts with
  | nil => simp [IsLine]
  | cons text texts inductionHypothesis =>
      rw [List.forall_mem_cons] at lines
      cases texts with
      | nil => simpa using lines.1
      | cons second texts =>
          rw [String.intercalate_cons_cons, isLine_append, isLine_append]
          exact ⟨⟨lines.1, separatorLine⟩, inductionHypothesis lines.2⟩

theorem isLine_commaSeparated
    {texts : List String}
    (lines : ∀ text ∈ texts, IsLine text) : IsLine (commaSeparated texts) :=
  isLine_intercalate (by decide) lines

@[simp]
theorem indented_append
    (spaces : Nat)
    (first second : String) :
    indented spaces (first ++ second) =
      indented spaces first ++ indented spaces second := by
  simp [indented]

/-- Without a line feed nothing is added. -/
theorem flatMap_spaced
    {characters : List Char}
    (line : '\n' ∉ characters)
    (spaces : Nat) : characters.flatMap (spaced spaces) = characters := by
  induction characters with
  | nil => rfl
  | cons character characters inductionHypothesis =>
      rw [List.mem_cons, not_or] at line
      rw [List.flatMap_cons, spaced, if_neg (Ne.symm line.1),
        inductionHypothesis line.2]
      rfl

/-- A text without a line feed stays as it is. -/
theorem IsLine.indented_eq
    {text : String}
    (line : IsLine text)
    (spaces : Nat) : indented spaces text = text := by
  rw [indented, flatMap_spaced line, String.ofList_toList]

end Text

open Text (IsLine indented)

theorem isLine_indentation (level : Nat) : IsLine (indentation level) := by
  simp [IsLine, indentation, List.mem_replicate]

theorem indentation_add
    (level further : Nat) :
    indentation (level + further) =
      indentation further ++ indentation level := by
  rw [indentation, indentation, indentation, ← String.ofList_append,
    List.replicate_append_replicate]
  congr 2
  omega

/-- A line feed gains the indentation of the further levels. -/
theorem indented_newline
    (further : Nat) :
    indented (2 * further) "\n" = "\n" ++ indentation further := by
  rw [indented, indentation, ← String.toList_inj]
  simp [Text.spaced]

/-! ## Words -/

/-- The names and strings that stand directly in an expression. -/
def Expr.words : Expr -> List String
  | .string _ value => [value]
  | .reference _ name => [name]
  | .call _ name _ => [name]
  | .field _ _ name => [name]
  | .record _ name _ => [name]
  | _ => []

/-- The names in a type. -/
def Ty.words : Ty -> List String
  | .record name => [name]
  | _ => []

/-- The names in what an assignment changes. -/
def Selector.words : Selector -> List String
  | .field name => [name]
  | _ => []

/--
The names that stand directly in a statement, those in its types included.
-/
def Stmt.words : Stmt -> List String
  | .define _ type name _ => name :: type.words
  | .declare _ type name => name :: type.words
  | .assign _ target _ => target.name :: target.selector.words
  | .call _ name _ => [name]
  | .forLoop _ counter _ _ stepVariable _ _ => [counter, stepVariable]
  | .foreachLoop _ iterator _ _ => iterator.name :: iterator.type.words
  | .returnValue _ _ | .ifThen _ _ _ | .ifElse _ _ _ _ | .switch _ _
      _ | .block _ _ => []

/-- No name and no string in an expression breaks a line. -/
abbrev Expr.Unbroken : Expr -> Prop :=
  Everywhere fun expr => ∀ word ∈ expr.words, IsLine word

/-- No name and no string in a statement breaks a line. -/
abbrev Stmt.Unbroken : Stmt -> Prop :=
  Everywhere (fun statement => ∀ word ∈ statement.words, IsLine word)
    fun expr => ∀ word ∈ expr.words, IsLine word

/-! ## Numerals -/

theorem Numeral.newline_notMem_repr
    (value : Int) :
    '\n' ∉ value.repr.toList := by
  rw [toList_repr_int, List.mem_append, not_or]
  refine ⟨?_, newline_notMem_toDigits _⟩
  split <;> simp

namespace Single

theorem newline_notMem_plain
    {digits : List Char}
    (line : '\n' ∉ digits)
    (exponent : Int) : '\n' ∉ plain digits exponent := by
  have padded : ∀ count, '\n' ∉ digits.leftpad count '0' := by
    simp [List.leftpad, List.mem_replicate, line]
  unfold plain
  split
  · simp [List.mem_replicate, line]
  · intro member
    rcases List.mem_append.1 member with before | behind
    · exact padded _ (List.mem_of_mem_take before)
    · rw [List.mem_cons] at behind
      rcases behind with isPoint | behind
      · cases isPoint
      · exact padded _ (List.mem_of_mem_drop behind)

theorem newline_notMem_scientific
    {digits : List Char}
    (line : '\n' ∉ digits)
    (leading : Int) : '\n' ∉ scientific digits leading := by
  have front : '\n' ∉ digits.take 1 :=
    fun member => line (List.mem_of_mem_take member)
  have back : '\n' ∉ digits.drop 1 :=
    fun member => line (List.mem_of_mem_drop member)
  have exponent := Numeral.newline_notMem_repr leading
  unfold scientific
  split <;> simp_all

theorem isLine_text (single : Single) : IsLine single.text := by
  have numeral (decimal : Decimal) : '\n' ∉ numeral decimal := by
    have digits := Numeral.newline_notMem_toDigits decimal.digits
    dsimp only [Single.numeral]
    split
    · exact newline_notMem_plain digits _
    · exact newline_notMem_scientific digits _
  have magnitude : '\n' ∉ single.magnitudeText := by
    unfold magnitudeText
    split
    · exact numeral _
    · split
      · exact numeral _
      · decide
  rw [IsLine, text]
  split
  · rw [String.toList_ofList, List.mem_append, not_or]
    refine ⟨?_, magnitude⟩
    split <;> simp
  · decide

end Single

/-! ## Expressions -/

theorem UnaryOp.isLine_apply
    {operand : String}
    (line : IsLine operand)
    (operator : UnaryOp) : IsLine (operator.apply operand) := by
  cases operator <;> simp only [apply, Text.isLine_append, line] <;> decide

theorem BinaryOp.isLine_sign (operator : BinaryOp) : IsLine operator.sign := by
  cases operator with
  | compare comparison => cases comparison <;> decide
  | _ => decide

theorem Expr.isLine_callText
    {name : String}
    {arguments : List String}
    (nameLine : IsLine name)
    (lines : ∀ argument ∈ arguments, IsLine argument) :
    IsLine (callText name arguments) := by
  simp only [callText, Text.isLine_append, nameLine,
    Text.isLine_commaSeparated lines]
  decide

theorem Expr.isLine_rangeText
    {first origin last : String}
    (firstLine : IsLine first)
    (originLine : IsLine origin)
    (lastLine : IsLine last) : IsLine (rangeText first origin last) := by
  simp only [rangeText, Text.isLine_append, firstLine, originLine, lastLine]
  decide

/-- An expression without a broken word is written on one line. -/
theorem Expr.Unbroken.isLine_text
    {expr : Expr}
    (unbroken : expr.Unbroken) : IsLine expr.text := by
  induction unbroken with
  | @intro expr here inside inductionHypothesis =>
      cases expr with
      | int position value => exact Numeral.newline_notMem_repr value.toInt
      | float position value => exact value.isLine_text
      | bool position value =>
          rw [text]
          cases value <;> decide
      | string position value =>
          have word := here value List.mem_cons_self
          simp only [text, Text.isLine_append, word]
          decide
      | reference position name => exact here name List.mem_cons_self
      | call position name arguments =>
          rw [text, texts_eq_map]
          apply isLine_callText (here name List.mem_cons_self)
          simpa [children] using inductionHypothesis
      | unary position operator operand =>
          exact operator.isLine_apply
            (inductionHypothesis operand List.mem_cons_self)
      | binary position operator left right =>
          simp only [children, List.forall_mem_cons] at inductionHypothesis
          simp only [text, Text.isLine_append, inductionHypothesis,
            operator.isLine_sign]
          decide
      | select position condition onTrue onFalse =>
          simp only [children, List.forall_mem_cons] at inductionHypothesis
          simp only [text, Text.isLine_append, inductionHypothesis]
          decide
      | element position base index =>
          simp only [children, List.forall_mem_cons] at inductionHypothesis
          simp only [text, Text.isLine_append, inductionHypothesis]
          decide
      | field position base name =>
          have word := here name List.mem_cons_self
          simp only [children, List.forall_mem_cons] at inductionHypothesis
          simp only [text, Text.isLine_append, inductionHypothesis, word]
          decide
      | subvector position base first origin last =>
          simp only [children, List.forall_mem_cons] at inductionHypothesis
          obtain ⟨baseLine, firstLine, originLine, lastLine, -⟩ :=
            inductionHypothesis
          have range := isLine_rangeText firstLine originLine lastLine
          simp only [text, Text.isLine_append, baseLine, range]
          decide
      | submatrix position base firstRow originRow lastRow firstColumn
          originColumn lastColumn =>
          simp only [children, List.forall_mem_cons] at inductionHypothesis
          obtain ⟨baseLine, firstLine, originLine, lastLine, columns⟩ :=
            inductionHypothesis
          have rowRange := isLine_rangeText firstLine originLine lastLine
          have columnRange :=
            isLine_rangeText columns.1 columns.2.1 columns.2.2.1
          simp only [text, Text.isLine_append, baseLine, rowRange, columnRange]
          decide
      | aggregate position elements =>
          have lines : ∀ one ∈ elements.map text, IsLine one := by
            simpa [children] using inductionHypothesis
          simp only [text, texts_eq_map, Text.isLine_append,
            Text.isLine_commaSeparated lines]
          decide
      | record position name elements =>
          have word := here name List.mem_cons_self
          have lines : ∀ one ∈ elements.map text, IsLine one := by
            simpa [children] using inductionHypothesis
          simp only [text, texts_eq_map, Text.isLine_append, word,
            Text.isLine_commaSeparated lines]
          decide

/-! ## Types and targets -/

theorem Scalar.isLine_text (scalar : Scalar) : IsLine scalar.text := by
  cases scalar <;> decide

theorem Ty.isLine_text
    {type : Ty}
    (words : ∀ word ∈ type.words, IsLine word)
    (sizes : ∀ size ∈ type.sizes, IsLine size.text) : IsLine type.text := by
  cases type with
  | record name => exact words name List.mem_cons_self
  | vector element size =>
      have sizeLine := sizes size List.mem_cons_self
      simp only [text, Text.isLine_append, element.isLine_text, sizeLine]
      decide
  | matrix element rows columns =>
      simp only [Ty.sizes, List.forall_mem_cons] at sizes
      simp only [text, Text.isLine_append, element.isLine_text, sizes]
      decide
  | _ => decide

theorem Binding.isLine_text
    {binding : Binding}
    (words : ∀ word ∈ binding.name :: binding.type.words, IsLine word)
    (sizes : ∀ size ∈ binding.type.sizes, IsLine size.text) :
    IsLine binding.text := by
  rw [List.forall_mem_cons] at words
  have typeLine := Ty.isLine_text words.2 sizes
  simp only [text, Text.isLine_append, typeLine, words.1]
  split <;> decide

theorem Target.isLine_text
    {target : Target}
    (words : ∀ word ∈ target.name :: target.selector.words, IsLine word)
    (indices : ∀ index ∈ target.selector.indices, IsLine index.text) :
    IsLine target.text := by
  rw [List.forall_mem_cons] at words
  rw [text, Text.isLine_append]
  refine ⟨words.1, ?_⟩
  split
  · decide
  · next index isIndex =>
      rw [isIndex, Selector.indices, List.forall_mem_singleton] at indices
      simp only [Text.isLine_append, indices]
      decide
  · next row column isCell =>
      simp only [isCell, Selector.indices, List.forall_mem_cons] at indices
      simp only [Text.isLine_append, indices]
      decide
  · next name isField =>
      rw [isField, Selector.words, List.forall_mem_singleton] at words
      simp only [Text.isLine_append, words.2]
      decide

/-! ## Lines between braces -/

namespace Stmt

/--
The spaces that a line feed gains stand in front of the next line, so a line at
a level of nesting becomes one at a deeper level when it passes them on.
-/
theorem indented_line
    (level further : Nat)
    (text : String) :
    indentation further ++ indented (2 * further) (line level text) =
      line (level + further) (indented (2 * further) text) ++
        indentation further := by
  have own := (isLine_indentation level).indented_eq (2 * further)
  simp only [line, Text.indented_append, own, indented_newline, indentation_add,
    String.append_assoc]

/--
Lines between braces go to a deeper level together with the closing brace.
-/
theorem indented_braced
    {level further : Nat}
    {lines deeper : String}
    (passed : indentation further ++ indented (2 * further) lines =
      deeper ++ indentation further) :
    indented (2 * further) (braced level lines) =
      braced (level + further) deeper := by
  have opening :
      indented (2 * further) "\x7b\n" = "\x7b\n" ++ indentation further := by
    rw [← String.toList_inj]
    simp [indented, indentation, Text.spaced]
  have own := (isLine_indentation level).indented_eq (2 * further)
  have closing : indented (2 * further) "\x7d" = "\x7d" :=
    Text.IsLine.indented_eq (by decide) _
  calc
    indented (2 * further) (braced level lines) =
        "\x7b\n" ++ (indentation further ++ indented (2 * further) lines) ++
          indentation level ++ "\x7d" := by
      simp only [braced, Text.indented_append, opening, own, closing,
        String.append_assoc]
    _ = braced (level + further) deeper := by
      simp only [passed, braced, indentation_add, String.append_assoc]

/--
The text of a statement at a deeper level has more spaces behind its line feeds.
-/
def Shifts (statement : Stmt) : Prop :=
  ∀ level further,
    statement.textAt (level + further) =
      indented (2 * further) (statement.textAt level)

/-- Statements on lines of their own go to a deeper level. -/
theorem indented_lines
    {statements : List Stmt}
    (shifts : ∀ statement ∈ statements, statement.Shifts)
    (level further : Nat) :
    indentation further ++ indented (2 * further) (lines level statements) =
      lines (level + further) statements ++ indentation further := by
  induction statements with
  | nil => simp [lines, indented]
  | cons statement statements inductionHypothesis =>
      rw [List.forall_mem_cons] at shifts
      rw [lines, lines, Text.indented_append, ← String.append_assoc,
        indented_line, String.append_assoc, inductionHypothesis shifts.2,
        shifts.1, String.append_assoc]

/--
A text behind a head that stands on one line goes to a deeper level without it.
-/
theorem indented_head
    {head : String}
    (headLine : IsLine head)
    (spaces : Nat)
    (text : String) :
    indented spaces (head ++ text) = head ++ indented spaces text := by
  rw [Text.indented_append, headLine.indented_eq]

/-- The cases of a switch go to a deeper level. -/
theorem indented_casesLines
    {cases : Cases}
    (conditions : ∀ condition ∈ cases.conditions, IsLine condition.text)
    (shifts : ∀ body ∈ cases.bodies, body.Shifts)
    (level further : Nat) :
    indentation further ++ indented (2 * further) (casesLines level cases) =
      casesLines (level + further) cases ++ indentation further := by
  fun_induction Cases.bodies cases with
  | case1 => simp [casesLines, indented]
  | case2 position body =>
      rw [List.forall_mem_singleton] at shifts
      rw [casesLines, casesLines, indented_line, indented_head (by decide),
        shifts]
  | case3 position condition body rest inductionHypothesis =>
      rw [List.forall_mem_cons] at shifts
      rw [Cases.conditions, List.forall_mem_cons] at conditions
      have headLine : IsLine ("case " ++ condition.text ++ ": ") := by
        simp only [Text.isLine_append, conditions.1]
        decide
      rw [casesLines, casesLines, Text.indented_append, ← String.append_assoc,
        indented_line, String.append_assoc,
        inductionHypothesis conditions.2 shifts.2, indented_head headLine,
        ← shifts.1, ← String.append_assoc]

/-! ## Statements -/

theorem isLine_ifHead
    {condition : Expr}
    (conditionLine : IsLine condition.text) : IsLine (ifHead condition) := by
  simp only [ifHead, Text.isLine_append, conditionLine]
  decide

theorem isLine_forHead
    {counter stepVariable : String}
    {init condition step : Expr}
    (words : ∀ word ∈ [counter, stepVariable], IsLine word)
    (lines : ∀ expr ∈ [init, condition, step], IsLine expr.text) :
    IsLine (forHead counter init condition stepVariable step) := by
  simp only [List.forall_mem_cons] at words lines
  unfold forHead
  simp only [Text.isLine_append, words, lines]
  decide

theorem isLine_foreachHead
    {iterator : Binding}
    {source : Expr}
    (words : ∀ word ∈ iterator.name :: iterator.type.words, IsLine word)
    (lines : ∀ expr ∈ source :: iterator.type.sizes, IsLine expr.text) :
    IsLine (foreachHead iterator source) := by
  rw [List.forall_mem_cons] at lines
  have iteratorLine := Binding.isLine_text words lines.2
  unfold foreachHead
  simp only [Text.isLine_append, iteratorLine, lines.1]
  decide

/-- A statement without a broken word goes to a deeper level. -/
theorem Unbroken.shifts
    {statement : Stmt}
    (unbroken : statement.Unbroken) : statement.Shifts := by
  induction unbroken with
  | @intro statement here expressions inside inductionHypothesis =>
      have lines : ∀ expr ∈ statement.expressions, IsLine expr.text :=
        fun expr member => Expr.Unbroken.isLine_text (expressions expr member)
      intro level further
      cases statement with
      | define position type name value =>
          simp only [words, Stmt.expressions,
            List.forall_mem_cons] at here lines
          have typeLine := Ty.isLine_text here.2 lines.2
          refine (Text.IsLine.indented_eq ?_ _).symm
          simp only [textAt, Text.isLine_append, typeLine, here.1, lines.1]
          decide
      | declare position type name =>
          simp only [words, List.forall_mem_cons] at here
          have typeLine := Ty.isLine_text here.2 lines
          refine (Text.IsLine.indented_eq ?_ _).symm
          simp only [textAt, Text.isLine_append, typeLine, here.1]
          decide
      | returnValue position value =>
          have valueLine := lines value List.mem_cons_self
          refine (Text.IsLine.indented_eq ?_ _).symm
          simp only [textAt, Text.isLine_append, valueLine]
          decide
      | assign position target value =>
          simp only [Stmt.expressions, List.forall_mem_cons] at lines
          have targetLine := Target.isLine_text here lines.2
          refine (Text.IsLine.indented_eq ?_ _).symm
          simp only [textAt, Text.isLine_append, targetLine, lines.1]
          decide
      | call position name arguments =>
          have argumentLines :
              ∀ argument ∈ arguments.map Expr.text, IsLine argument :=
            List.forall_mem_map.2 lines
          have callLine :=
            Expr.isLine_callText (here name List.mem_cons_self) argumentLines
          refine (Text.IsLine.indented_eq ?_ _).symm
          simp only [textAt, Expr.texts_eq_map, Text.isLine_append, callLine]
          decide
      | forLoop position counter init condition stepVariable step body =>
          have bodyShifts := inductionHypothesis body List.mem_cons_self
          rw [textAt, textAt, indented_head (isLine_forHead here lines),
            bodyShifts]
      | foreachLoop position iterator source body =>
          have bodyShifts := inductionHypothesis body List.mem_cons_self
          rw [textAt, textAt, indented_head (isLine_foreachHead here lines),
            bodyShifts]
      | ifThen position condition body =>
          have headLine := isLine_ifHead (lines condition List.mem_cons_self)
          have bodyShifts := inductionHypothesis body List.mem_cons_self
          rw [textAt, textAt, indented_head headLine, bodyShifts]
      | ifElse position condition thenBody elseBody =>
          have headLine := isLine_ifHead (lines condition List.mem_cons_self)
          simp only [children, List.forall_mem_cons] at inductionHypothesis
          obtain ⟨thenShifts, elseShifts, -⟩ := inductionHypothesis
          have word : indented (2 * further) " else " = " else " :=
            Text.IsLine.indented_eq (by decide) _
          rw [textAt, textAt, Text.indented_append, Text.indented_append,
            indented_head headLine, word, thenShifts, elseShifts]
      | switch position test cases =>
          simp only [Stmt.expressions, List.forall_mem_cons] at lines
          have headLine : IsLine ("switch (" ++ test.text ++ ") ") := by
            simp only [Text.isLine_append, lines.1]
            decide
          have passed :=
            indented_casesLines lines.2 inductionHypothesis (level + 1) further
          rw [textAt, textAt, indented_head headLine, indented_braced passed,
            Nat.add_right_comm]
      | block position statements =>
          have passed :=
            @indented_lines statements inductionHypothesis (level + 1) further
          rw [textAt, textAt, indented_braced passed, Nat.add_right_comm]

/--
At a deeper level of nesting the text of a statement has two more spaces a level
behind every line feed.  In particular it is everywhere the text of the
statement on its own, but for indentation.
-/
theorem textAt_add
    (statement : Stmt)
    (unbroken : statement.Unbroken)
    (level further : Nat) :
    statement.textAt (level + further) =
        indented (2 * further) (statement.textAt level) ∧
      statement.textAt further = indented (2 * further) statement.text := by
  refine ⟨unbroken.shifts level further, ?_⟩
  rw [text, ← unbroken.shifts 0 further, Nat.zero_add]

/-- A block around a switch, with a block in its case. -/
def blocksInSwitch : Stmt :=
  .block ⟨1, 1⟩
    [.switch ⟨2, 3⟩ (.reference ⟨2, 11⟩ "a")
      (.cons ⟨3, 5⟩ (.string ⟨3, 10⟩ "b")
        (.block ⟨3, 15⟩ [.call ⟨4, 7⟩ "f" []])
        (.otherwise ⟨6, 5⟩ (.declare ⟨6, 14⟩ .int "c")))]

theorem unbroken_blocksInSwitch : blocksInSwitch.Unbroken := by
  have call : (Stmt.call ⟨4, 7⟩ "f" []).Unbroken :=
    .intro (by decide) (List.forall_mem_nil _) (List.forall_mem_nil _)
  have inner : (Stmt.block ⟨3, 15⟩ [.call ⟨4, 7⟩ "f" []]).Unbroken :=
    .intro (by decide) (List.forall_mem_nil _)
      (List.forall_mem_singleton.2 call)
  have last : (Stmt.declare ⟨6, 14⟩ .int "c").Unbroken :=
    .intro (by decide) (List.forall_mem_nil _) (List.forall_mem_nil _)
  have test : (Expr.reference ⟨2, 11⟩ "a").Unbroken :=
    .intro (by decide) (List.forall_mem_nil _)
  have condition : (Expr.string ⟨3, 10⟩ "b").Unbroken :=
    .intro (by decide) (List.forall_mem_nil _)
  refine .intro (by decide) (List.forall_mem_nil _)
    (List.forall_mem_singleton.2 ?_)
  refine .intro (by decide) ?_ ?_
  · exact List.forall_mem_cons.2 ⟨test, List.forall_mem_singleton.2 condition⟩
  · exact List.forall_mem_cons.2 ⟨inner, List.forall_mem_singleton.2 last⟩

/--
All lines behind the first one move to the right, those of the inner block too.
-/
theorem textAt_add_blocksInSwitch :
    blocksInSwitch.Unbroken ∧
      blocksInSwitch.text =
        "\x7b\n  switch (a) \x7b\n    case \"b\": \x7b\n" ++
          "      f();\n    \x7d\n    default: var int c;\n  \x7d\n\x7d" ∧
      blocksInSwitch.textAt 1 = indented 2 blocksInSwitch.text ∧
      blocksInSwitch.textAt (2 + 3) = indented 6 (blocksInSwitch.textAt 2) := by
  have unbroken := unbroken_blocksInSwitch
  refine ⟨unbroken, rfl, ?_, ?_⟩
  · exact (textAt_add blocksInSwitch unbroken 0 1).2
  · exact (textAt_add blocksInSwitch unbroken 2 3).1

end Stmt
end MatrixLang
