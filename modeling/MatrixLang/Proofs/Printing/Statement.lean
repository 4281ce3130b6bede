import MatrixLang.Proofs.Printing.Printable

/-!
# Printed statements are read back

The texts of types, bindings and targets are read back wherever no word or
numeral goes on behind them.  The text of a statement ends in a semicolon or a
brace, so it is read back in front of any text (`Stmt.Written`).  A conditional
with an `else` is printed without braces; it is read back because its first
branch does not end in an open conditional.
-/

namespace MatrixLang

/-! ## Types -/

/-- The text of an element type is a keyword. -/
theorem Scalar.text_eq_describe
    (element : Scalar) :
    ∃ kind, kind ∈ Token.Kind.keywords ∧ Scalar.ofKind? kind = some element ∧
      element.text = kind.describe := by
  cases element with
  | int => exact ⟨.intWord, by decide, rfl, rfl⟩
  | float => exact ⟨.floatWord, by decide, rfl, rfl⟩

/-- An element type between its signs is read back. -/
theorem Scalar.prints_inSigns
    {rest : List Char}
    (element : Scalar)
    (apart : Token.Kind.standsBefore .greater rest = true) :
    Prints ("<".toList ++ (element.text.toList ++ ">".toList)) rest
        fun tokens =>
      element.Reads tokens := by
  have lessApart :
      Token.Kind.standsBefore .less
        (element.text.toList ++ ">".toList ++ rest) = true := by
    cases element <;> rfl
  obtain ⟨kind, listed, found, spelled⟩ := element.text_eq_describe
  apply Prints.sign .less (by decide) lessApart
  intro less lessKind
  rw [spelled]
  apply Prints.keyword kind listed rfl
  intro word wordKind
  apply Prints.lastSign .greater (by decide) apart
  intro greater greaterKind
  rw [← wordKind] at found
  exact .intro lessKind found greaterKind

/-- The text of a type without parts is a keyword. -/
theorem Ty.text_of_ofKind?
    {kind : Token.Kind}
    {type : Ty}
    (found : Ty.ofKind? kind = some type) :
    kind ∈ Token.Kind.keywords ∧ type.text = kind.describe := by
  rcases Ty.of_ofKind? found with
    ⟨rfl, rfl⟩ | ⟨rfl, rfl⟩ | ⟨rfl, rfl⟩ | ⟨rfl, rfl⟩ | ⟨rfl, rfl⟩ <;>
    exact ⟨by decide, rfl⟩

/--
The text of a type is read back wherever no word or numeral goes on behind it.
-/
def Ty.Written (type : Ty) : Prop :=
  ∀ rest, Token.stops rest = true ->
    Prints type.text.toList rest fun tokens =>
      ∃ read : Ty, read.Reads tokens ∧ read.erase = type.erase

/--
Whatever type is read from tokens as the scanner spells them is written back.
-/
theorem Ty.Reads.written
    {tokens : List Token}
    {type : Ty}
    (reads : type.Reads tokens)
    (spelled : ∀ token ∈ tokens, token.Spelled) : type.Written := by
  intro rest stop
  cases reads with
  | @simple token type found =>
      obtain ⟨listed, text⟩ := Ty.text_of_ofKind? found
      rw [text]
      apply Prints.lastKeyword _ listed stop
      intro word kind
      rw [← kind] at found
      exact ⟨type, .simple found, rfl⟩
  | record kind =>
      apply Prints.lastName ((spelled _ List.mem_cons_self).name kind) stop
      intro token tokenKind spelling
      refine ⟨_, .record tokenKind, ?_⟩
      rw [spelling]
  | @vector _ _ _ element size _ _ sizeRead =>
      have letters : (Ty.vector element size).text.toList =
          "vector".toList ++
            (("<".toList ++ (element.text.toList ++ ">".toList)) ++
            ("[".toList ++ (size.text.toList ++ "]".toList))) := by
        simp [Ty.text]
      simp only [List.forall_mem_cons, List.forall_mem_append] at spelled
      have sizeWritten : size.Written := sizeRead.written spelled.2.2
      rw [letters]
      apply Prints.keyword .vectorWord (by decide) rfl
      intro word wordKind
      apply Prints.part (element.prints_inSigns rfl)
      intro elementTokens elementReads
      apply Prints.mono (sizeWritten.prints_inBrackets rest)
      rintro tokens ⟨read, reads, same⟩
      refine ⟨_, .vector wordKind elementReads reads, ?_⟩
      simp only [Ty.relabel, same]
  | @matrix _ _ _ _ element rows columns _ _ rowsRead columnsRead =>
      have letters : (Ty.matrix element rows columns).text.toList =
          "matrix".toList ++
            (("<".toList ++ (element.text.toList ++ ">".toList)) ++
            (("[".toList ++ (rows.text.toList ++ "]".toList)) ++
              ("[".toList ++ (columns.text.toList ++ "]".toList)))) := by
        simp [Ty.text]
      simp only [List.forall_mem_cons, List.forall_mem_append] at spelled
      have rowsWritten : rows.Written := rowsRead.written spelled.2.2.1
      have columnsWritten : columns.Written := columnsRead.written spelled.2.2.2
      rw [letters]
      apply Prints.keyword .matrixWord (by decide) rfl
      intro word wordKind
      apply Prints.part (element.prints_inSigns rfl)
      intro elementTokens elementReads
      apply Prints.part (rowsWritten.prints_inBrackets _)
      rintro tokens ⟨rowsRead, rowsReads, rowsSame⟩
      apply Prints.mono (columnsWritten.prints_inBrackets rest)
      rintro others ⟨columnsRead, columnsReads, columnsSame⟩
      refine ⟨_, .matrix wordKind elementReads rowsReads columnsReads, ?_⟩
      simp only [Ty.relabel, rowsSame, columnsSame]

/-! ## Bindings and targets -/

/-- The word of a binding is a keyword. -/
theorem Binding.word_of_mutable?
    {kind : Token.Kind}
    {mutable : Bool}
    (found : Binding.mutable? kind = some mutable) :
    kind ∈ Token.Kind.keywords ∧
      (if mutable then "var " else "val ").toList =
        kind.describe.toList ++ " ".toList := by
  rcases Binding.of_mutable? found with
    ⟨rfl, rfl⟩ | ⟨rfl, rfl⟩ <;> exact ⟨by decide, rfl⟩

/-- The text of a binding is read back wherever no word goes on behind it. -/
def Binding.Written (binding : Binding) : Prop :=
  ∀ rest, Token.stops rest = true ->
    Prints binding.text.toList rest fun tokens =>
      ∃ read : Binding, read.Reads tokens ∧ read.erase = binding.erase

/--
Whatever binding is read from tokens as the scanner spells them is written back.
-/
theorem Binding.Reads.written
    {tokens : List Token}
    {binding : Binding}
    (reads : binding.Reads tokens)
    (spelled : ∀ token ∈ tokens, token.Spelled) : binding.Written := by
  intro rest stop
  cases reads with
  | @intro word name tokens mutable type found typeRead nameKind =>
      obtain ⟨listed, written⟩ := Binding.word_of_mutable? found
      have letters :
          (Binding.mk mutable type name.spelling word.position).text.toList =
            word.kind.describe.toList ++ (" ".toList ++
              (type.text.toList ++ (" ".toList ++ name.spelling.toList))) := by
        rw [Binding.text]
        simp only [String.toList_append, List.append_assoc, written]
      simp only [List.forall_mem_cons, List.forall_mem_append] at spelled
      obtain ⟨-, typeSpelled, nameSpelled, -⟩ := spelled
      rw [letters]
      apply Prints.keywordSpace _ listed
      intro firstWord wordKind
      apply Prints.part (typeRead.written typeSpelled _ rfl)
      rintro typeTokens ⟨read, reads, same⟩
      apply Prints.space
      apply Prints.lastName (nameSpelled.name nameKind) stop
      intro token kind spelling
      rw [← wordKind] at found
      refine ⟨_, .intro found reads kind, ?_⟩
      simp only [Binding.relabel, same, spelling]

/-- The text of a target is read back wherever no word goes on behind it. -/
def Target.Written (target : Target) : Prop :=
  ∀ rest, Token.stops rest = true ->
    Prints target.text.toList rest fun tokens =>
      ∃ (name : Token) (others : List Token) (read : Selector),
        tokens = name :: others ∧
        name.kind = .identifier ∧ name.spelling = target.name ∧
          read.Reads others ∧
          read.erase = target.selector.erase

/--
Whatever selector is read from tokens as the scanner spells them is written
back.
-/
theorem Selector.Reads.written
    {tokens : List Token}
    {selector : Selector}
    {name : String}
    (reads : selector.Reads tokens)
    (spelled : ∀ token ∈ tokens, token.Spelled)
    (isName : IsName name)
    (position : Position) : Target.Written ⟨name, selector, position⟩ := by
  intro rest stop
  cases reads with
  | whole =>
      rw [Target.text, String.append_empty]
      apply Prints.lastName isName stop
      intro token kind spelling
      exact ⟨token, [], .whole, rfl, kind, spelling, .whole, rfl⟩
  | @index tokens index read =>
      have letters : (Target.mk name (.index index) position).text.toList =
          name.toList ++ ("[".toList ++ (index.text.toList ++ "]".toList)) := by
        simp [Target.text]
      have written : index.Written := read.written spelled
      rw [letters]
      apply Prints.name isName rfl
      intro token kind spelling
      apply Prints.mono (written.prints_inBrackets rest)
      rintro others ⟨read, reads, same⟩
      refine ⟨token, others, _, rfl, kind, spelling, .index reads, ?_⟩
      simp only [Selector.relabel, same]
  | @cell tokens others row column rowRead columnRead =>
      have letters : (Target.mk name (.cell row column) position).text.toList =
          name.toList ++ (("[".toList ++ (row.text.toList ++ "]".toList)) ++
            ("[".toList ++ (column.text.toList ++ "]".toList))) := by
        simp [Target.text]
      rw [List.forall_mem_append] at spelled
      have rowWritten : row.Written := rowRead.written spelled.1
      have columnWritten : column.Written := columnRead.written spelled.2
      rw [letters]
      apply Prints.name isName rfl
      intro token kind spelling
      apply Prints.part (rowWritten.prints_inBrackets _)
      rintro rowTokens ⟨rowRead, rowReads, rowSame⟩
      apply Prints.mono (columnWritten.prints_inBrackets rest)
      rintro columnTokens ⟨columnRead, columnReads, columnSame⟩
      refine ⟨token, _, _, rfl, kind, spelling, .cell rowReads columnReads, ?_⟩
      simp only [Selector.relabel, rowSame, columnSame]
  | @field sign fieldName signKind nameKind =>
      have letters :
          (Target.mk name (.field fieldName.spelling) position).text.toList =
            name.toList ++ ("@".toList ++ fieldName.spelling.toList) := by
        simp [Target.text]
      simp only [List.forall_mem_cons] at spelled
      rw [letters]
      apply Prints.name isName rfl
      intro token kind spelling
      apply Prints.sign .atSign (by decide) rfl
      intro atSign atSignKind
      apply Prints.lastName (spelled.2.1.name nameKind) stop
      intro fieldToken fieldKind fieldSpelling
      refine ⟨token, _, _, rfl, kind, spelling, .field atSignKind fieldKind, ?_⟩
      simp only [Selector.relabel, fieldSpelling]

/-! ## Lines and braces -/

namespace Prints

variable {more rest : List Char} {holds : List Token -> Prop}

/-- Indentation yields nothing. -/
theorem indented
    (level : Nat)
    (behind : Prints more rest holds) :
    Prints ((indentation level).toList ++ more) rest holds := by
  refine blanks (List.all_eq_true.2 ?_) behind
  intro character isBlank
  rw [indentation, String.toList_ofList] at isBlank
  rw [List.eq_of_mem_replicate isBlank]
  decide

/-- A line feed at the end yields nothing. -/
theorem lastNewline (done : holds []) : Prints "\n".toList rest holds := by
  rw [← List.append_nil "\n".toList]
  exact blanks (by decide) (nothing done)

/-- A line yields what its text yields. -/
theorem line
    {text : String}
    {textHolds : List Token -> Prop}
    (level : Nat)
    (printed : ∀ rest, Prints text.toList rest textHolds)
    (behind : ∀ tokens, textHolds tokens ->
      Prints more rest fun others => holds (tokens ++ others)) :
    Prints ((Stmt.line level text).toList ++ more) rest holds := by
  simp only [Stmt.line, String.toList_append, List.append_assoc]
  apply indented level
  apply part (printed _)
  intro tokens held
  exact blanks (by decide) (behind tokens held)

/-- Lines between braces yield what they yield between two tokens. -/
theorem braced
    {lines : String}
    {linesHold : List Token -> Prop}
    (level : Nat)
    (printed : ∀ rest, Prints lines.toList rest linesHold)
    (done : ∀ (left : Token) (tokens : List Token) (right : Token),
      left.kind = .openCurly ->
      linesHold tokens ->
      right.kind = .closeCurly ->
      holds (left :: (tokens ++ [right]))) :
    Prints (Stmt.braced level lines).toList rest holds := by
  have letters : (Stmt.braced level lines).toList =
      "\x7b".toList ++ ("\n".toList ++ (lines.toList ++
        ((indentation level).toList ++ "\x7d".toList))) := by
    simp [Stmt.braced]
  rw [letters]
  apply sign .openCurly (by decide) rfl
  intro left leftKind
  apply blanks (by decide)
  apply part (printed _)
  intro tokens held
  apply indented level
  apply lastSign .closeCurly (by decide) rfl
  intro right rightKind
  exact done left tokens right leftKind held rightKind

end Prints

/-! ## Statements -/

namespace Stmt

/-- Tokens from which a statement is read, but for positions. -/
def ReadsBack (statement : Stmt) (tokens : List Token) : Prop :=
  ∃ read, Passage.statement.Reads tokens read ∧ read.erase = statement.erase

/--
The text of a statement is read back at every level of nesting and before any
text.
-/
def Written (statement : Stmt) : Prop :=
  ∀ level rest, Prints (statement.textAt level).toList rest statement.ReadsBack

theorem written_define
    {type : Ty}
    {name : String}
    {value : Expr}
    (typeWritten : type.Written)
    (isName : IsName name)
    (valueWritten : value.Written)
    (position : Position) : (Stmt.define position type name value).Written := by
  intro level rest
  have letters : ((Stmt.define position type name value).textAt level).toList =
      "val".toList ++
        (" ".toList ++ (type.text.toList ++ (" ".toList ++ (name.toList ++
        (" ".toList ++ ("=".toList ++
          (" ".toList ++ (value.text.toList ++ ";".toList)))))))) := by
    simp [textAt]
  rw [letters]
  apply Prints.keywordSpace .valWord (by decide)
  intro word wordKind
  apply Prints.part (typeWritten _ rfl)
  rintro typeTokens ⟨typeRead, typeReads, typeSame⟩
  apply Prints.space
  apply Prints.name isName rfl
  intro token kind spelling
  apply Prints.spaced .assignment (by decide)
  intro assignment assignmentKind
  apply Prints.part (valueWritten.prints _ rfl)
  rintro tokens ⟨read, reads, same⟩
  apply Prints.lastSign .semicolon (by decide) rfl
  intro semicolon semicolonKind
  refine ⟨_, .define wordKind typeReads kind assignmentKind (reads.ofAtom _)
    semicolonKind, ?_⟩
  simp only [relabel, typeSame, spelling, same]

theorem written_declare
    {type : Ty}
    {name : String}
    (typeWritten : type.Written)
    (isName : IsName name)
    (position : Position) : (Stmt.declare position type name).Written := by
  intro level rest
  have letters : ((Stmt.declare position type name).textAt level).toList =
      "var".toList ++
        (" ".toList ++ (type.text.toList ++ (" ".toList ++ (name.toList ++
        ";".toList)))) := by
    simp [textAt]
  rw [letters]
  apply Prints.keywordSpace .varWord (by decide)
  intro word wordKind
  apply Prints.part (typeWritten _ rfl)
  rintro typeTokens ⟨typeRead, typeReads, typeSame⟩
  apply Prints.space
  apply Prints.name isName rfl
  intro token kind spelling
  apply Prints.lastSign .semicolon (by decide) rfl
  intro semicolon semicolonKind
  refine ⟨_, .declare wordKind typeReads kind semicolonKind, ?_⟩
  simp only [relabel, typeSame, spelling]

theorem written_returnValue
    {value : Expr}
    (written : value.Written)
    (position : Position) : (Stmt.returnValue position value).Written := by
  intro level rest
  have letters : ((Stmt.returnValue position value).textAt level).toList =
      "return".toList ++ (" ".toList ++ (value.text.toList ++ ";".toList)) := by
    simp [textAt]
  rw [letters]
  apply Prints.keywordSpace .returnWord (by decide)
  intro word wordKind
  apply Prints.part (written.prints _ rfl)
  rintro tokens ⟨read, reads, same⟩
  apply Prints.lastSign .semicolon (by decide) rfl
  intro semicolon semicolonKind
  refine ⟨_, .returnValue wordKind (reads.ofAtom _) semicolonKind, ?_⟩
  simp only [relabel, same]

theorem written_assign
    {target : Target}
    {value : Expr}
    (targetWritten : target.Written)
    (valueWritten : value.Written)
    (position : Position) : (Stmt.assign position target value).Written := by
  intro level rest
  have letters : ((Stmt.assign position target value).textAt level).toList =
      target.text.toList ++ (" ".toList ++ ("=".toList ++ (" ".toList ++
        (value.text.toList ++ ";".toList)))) := by
    simp [textAt]
  rw [letters]
  apply Prints.part (targetWritten _ rfl)
  rintro _ ⟨name, others, selector, rfl, kind, spelling, selectorReads,
    selectorSame⟩
  apply Prints.spaced .assignment (by decide)
  intro assignment assignmentKind
  apply Prints.part (valueWritten.prints _ rfl)
  rintro tokens ⟨read, reads, same⟩
  apply Prints.lastSign .semicolon (by decide) rfl
  intro semicolon semicolonKind
  refine ⟨_, .assign kind selectorReads assignmentKind (reads.ofAtom _)
    semicolonKind, ?_⟩
  simp only [relabel, Target.relabel, spelling, selectorSame, same]

theorem written_call
    {name : String}
    {arguments : List Expr}
    (isName : IsName name)
    (written : ∀ expr ∈ arguments, expr.Written)
    (position : Position) : (Stmt.call position name arguments).Written := by
  intro level rest
  have letters : ((Stmt.call position name arguments).textAt level).toList =
      name.toList ++ ("(".toList ++
        ((Text.commaSeparated (arguments.map Expr.text)).toList ++
          (")".toList ++ ";".toList))) := by
    simp [textAt, Expr.callText]
  rw [letters]
  apply Prints.name isName rfl
  intro token kind spelling
  apply Prints.sign .openParen (by decide) rfl
  intro left leftKind
  apply Prints.part (Expr.prints_arguments written rfl)
  rintro tokens ⟨read, reads, same⟩
  apply Prints.sign .closeParen (by decide) rfl
  intro right rightKind
  apply Prints.lastSign .semicolon (by decide) rfl
  intro semicolon semicolonKind
  refine ⟨_, .call kind leftKind reads rightKind semicolonKind, ?_⟩
  simp only [relabel, spelling, same]

theorem written_forLoop
    {counter stepVariable : String}
    {init condition step : Expr}
    {body : Stmt}
    (isName : IsName counter)
    (initWritten : init.Written)
    (conditionWritten : condition.Written)
    (isStepName : IsName stepVariable)
    (stepWritten : step.Written)
    (bodyWritten : body.Written)
    (position : Position) :
    (Stmt.forLoop position counter init condition stepVariable step
      body).Written := by
  intro level rest
  have letters :
      ((Stmt.forLoop position counter init condition stepVariable step
          body).textAt level).toList =
        "for".toList ++
          (" ".toList ++ ("(".toList ++ (counter.toList ++ (" ".toList ++
          ("=".toList ++
            (" ".toList ++ (init.text.toList ++ (";".toList ++ (" ".toList ++
            (condition.text.toList ++
              (";".toList ++ (" ".toList ++ (stepVariable.toList ++
              (" ".toList ++ ("=".toList ++
                (" ".toList ++ (step.text.toList ++ (")".toList ++
                (" ".toList ++
                  (body.textAt level).toList))))))))))))))))))) := by
    simp [textAt, forHead]
  rw [letters]
  apply Prints.keywordSpace .forWord (by decide)
  intro word wordKind
  apply Prints.sign .openParen (by decide) rfl
  intro left leftKind
  apply Prints.name isName rfl
  intro token kind spelling
  apply Prints.spaced .assignment (by decide)
  intro assignment assignmentKind
  apply Prints.part (initWritten.prints _ rfl)
  rintro initTokens ⟨initRead, initReads, initSame⟩
  apply Prints.sign .semicolon (by decide) rfl
  intro semicolon semicolonKind
  apply Prints.space
  apply Prints.part (conditionWritten.prints _ rfl)
  rintro conditionTokens ⟨conditionRead, conditionReads, conditionSame⟩
  apply Prints.sign .semicolon (by decide) rfl
  intro secondSemicolon secondSemicolonKind
  apply Prints.space
  apply Prints.name isStepName rfl
  intro stepToken stepKind stepSpelling
  apply Prints.spaced .assignment (by decide)
  intro secondAssignment secondAssignmentKind
  apply Prints.part (stepWritten.prints _ rfl)
  rintro stepTokens ⟨stepRead, stepReads, stepSame⟩
  apply Prints.sign .closeParen (by decide) rfl
  intro right rightKind
  apply Prints.space
  apply Prints.mono (bodyWritten level rest)
  rintro tokens ⟨bodyRead, bodyReads, bodySame⟩
  refine ⟨_, .forLoop wordKind leftKind kind assignmentKind (initReads.ofAtom _)
    semicolonKind (conditionReads.ofAtom _) secondSemicolonKind stepKind
    secondAssignmentKind (stepReads.ofAtom _) rightKind bodyReads, ?_⟩
  simp only [relabel, spelling, initSame, conditionSame, stepSpelling, stepSame,
    bodySame]

theorem written_foreachLoop
    {iterator : Binding}
    {source : Expr}
    {body : Stmt}
    (iteratorWritten : iterator.Written)
    (sourceWritten : source.Written)
    (bodyWritten : body.Written)
    (position : Position) :
    (Stmt.foreachLoop position iterator source body).Written := by
  intro level rest
  have letters :
      ((Stmt.foreachLoop position iterator source body).textAt level).toList =
        "foreach".toList ++
          (" ".toList ++ ("(".toList ++ (iterator.text.toList ++ (" ".toList ++
          (":".toList ++
            (" ".toList ++ (source.text.toList ++ (")".toList ++ (" ".toList ++
            (body.textAt level).toList))))))))) := by
    simp [textAt, foreachHead]
  rw [letters]
  apply Prints.keywordSpace .foreachWord (by decide)
  intro word wordKind
  apply Prints.sign .openParen (by decide) rfl
  intro left leftKind
  apply Prints.part (iteratorWritten _ rfl)
  rintro iteratorTokens ⟨iteratorRead, iteratorReads, iteratorSame⟩
  apply Prints.spaced .colon (by decide)
  intro colon colonKind
  apply Prints.part (sourceWritten.prints _ rfl)
  rintro sourceTokens ⟨sourceRead, sourceReads, sourceSame⟩
  apply Prints.sign .closeParen (by decide) rfl
  intro right rightKind
  apply Prints.space
  apply Prints.mono (bodyWritten level rest)
  rintro tokens ⟨bodyRead, bodyReads, bodySame⟩
  refine ⟨_, .foreachLoop wordKind leftKind iteratorReads colonKind
    (sourceReads.ofAtom _)
    rightKind bodyReads, ?_⟩
  simp only [relabel, iteratorSame, sourceSame, bodySame]

theorem written_ifThen
    {condition : Expr}
    {body : Stmt}
    (conditionWritten : condition.Written)
    (bodyWritten : body.Written)
    (position : Position) : (Stmt.ifThen position condition body).Written := by
  intro level rest
  have letters : ((Stmt.ifThen position condition body).textAt level).toList =
      "if".toList ++
        (" ".toList ++ (("(".toList ++ (condition.text.toList ++ ")".toList)) ++
        (" ".toList ++ (body.textAt level).toList))) := by
    simp [textAt, ifHead]
  rw [letters]
  apply Prints.keywordSpace .ifWord (by decide)
  intro word wordKind
  apply Prints.part (conditionWritten.prints_inParens _)
  rintro conditionTokens ⟨conditionRead, conditionReads, conditionSame⟩
  apply Prints.space
  apply Prints.mono (bodyWritten level rest)
  rintro tokens ⟨bodyRead, bodyReads, bodySame⟩
  refine ⟨_, .ifThen wordKind conditionReads bodyReads, ?_⟩
  simp only [relabel, conditionSame, bodySame]

/--
A conditional whose first branch does not end in an open one keeps its `else`.
-/
theorem written_ifElse
    {condition : Expr}
    {thenBody elseBody : Stmt}
    (conditionWritten : condition.Written)
    (thenWritten : thenBody.Written)
    (closed : thenBody.endsOpen = false)
    (elseWritten : elseBody.Written)
    (position : Position) :
    (Stmt.ifElse position condition thenBody elseBody).Written := by
  intro level rest
  have letters :
      ((Stmt.ifElse position condition thenBody elseBody).textAt level).toList =
        "if".toList ++ (" ".toList ++
          (("(".toList ++ (condition.text.toList ++ ")".toList)) ++
          (" ".toList ++
            ((thenBody.textAt level).toList ++ (" ".toList ++ ("else".toList ++
            (" ".toList ++ (elseBody.textAt level).toList))))))) := by
    simp [textAt, ifHead]
  rw [letters]
  apply Prints.keywordSpace .ifWord (by decide)
  intro word wordKind
  apply Prints.part (conditionWritten.prints_inParens _)
  rintro conditionTokens ⟨conditionRead, conditionReads, conditionSame⟩
  apply Prints.space
  apply Prints.part (thenWritten level _)
  rintro tokens ⟨thenRead, thenReads, thenSame⟩
  apply Prints.space
  apply Prints.keywordSpace .elseWord (by decide)
  intro elseWord elseKind
  apply Prints.mono (elseWritten level rest)
  rintro elseTokens ⟨elseRead, elseReads, elseSame⟩
  have stillClosed : thenRead.endsOpen = false := by
    rw [← endsOpen_erase, thenSame, endsOpen_erase, closed]
  refine ⟨_, .ifElse wordKind conditionReads thenReads stillClosed elseKind
    elseReads, ?_⟩
  simp only [relabel, conditionSame, thenSame, elseSame]

/-- Statements on lines of their own are read back. -/
theorem prints_lines
    {statements : List Stmt}
    (written : ∀ statement ∈ statements, statement.Written)
    (level : Nat)
    (rest : List Char) :
    Prints (lines level statements).toList rest
      (ListReadsBack erase Passage.statements.Reads statements) := by
  induction statements with
  | nil =>
      rw [lines]
      exact Prints.nothing ⟨[], .noStatements, rfl⟩
  | cons statement statements inductionHypothesis =>
      rw [List.forall_mem_cons] at written
      rw [lines, String.toList_append]
      apply Prints.line level (written.1 level)
      rintro tokens ⟨read, reads, same⟩
      apply Prints.mono (inductionHypothesis written.2)
      rintro others ⟨list, listReads, listSame⟩
      refine ⟨read :: list, .statements reads listReads, ?_⟩
      rw [List.map_cons, List.map_cons, same, listSame]

theorem written_block
    {statements : List Stmt}
    (written : ∀ statement ∈ statements, statement.Written)
    (position : Position) : (Stmt.block position statements).Written := by
  intro level rest
  rw [textAt]
  apply Prints.braced level (prints_lines written (level + 1))
  rintro left tokens right leftKind ⟨read, reads, same⟩ rightKind
  refine ⟨_, .block leftKind reads rightKind, ?_⟩
  simp only [relabel, relabelAll_eq_map, same]

end Stmt

/-! ## Clauses -/

namespace Cases

/--
Tokens from which cases are read in their normal order, but for positions.
-/
def ReadsBack (cases : Cases) (tokens : List Token) : Prop :=
  ∃ list, (Passage.clauses false).Reads tokens list ∧
    Stmt.relabelCases .unplaced (ofClauses list) =
      Stmt.relabelCases .unplaced cases

/--
The lines of cases are read back at every level of nesting and before any text.
-/
def Written (cases : Cases) : Prop :=
  ∀ level rest, Prints (Stmt.casesLines level cases).toList rest cases.ReadsBack

theorem written_nil : Cases.nil.Written := by
  intro level rest
  rw [Stmt.casesLines]
  exact Prints.nothing ⟨[], .noClauses, rfl⟩

theorem written_otherwise
    {body : Stmt}
    (written : body.Written)
    (position : Position) : (Cases.otherwise position body).Written := by
  intro level rest
  have letters : (Stmt.casesLines level (.otherwise position body)).toList =
      (indentation level).toList ++
        ("default".toList ++ (":".toList ++ (" ".toList ++
        ((body.textAt level).toList ++ "\n".toList)))) := by
    simp [Stmt.casesLines, Stmt.line]
  rw [letters]
  apply Prints.indented level
  apply Prints.keyword .defaultWord (by decide) rfl
  intro word wordKind
  apply Prints.sign .colon (by decide) rfl
  intro colon colonKind
  apply Prints.space
  apply Prints.part (written level _)
  rintro tokens ⟨read, reads, same⟩
  apply Prints.lastNewline
  refine ⟨_, .otherwise wordKind colonKind reads .noClauses, ?_⟩
  simp only [ofClauses, List.foldr_cons, List.foldr_nil, defaultOf,
    Stmt.relabelCases, same]

theorem written_cons
    {condition : Expr}
    {body : Stmt}
    {cases : Cases}
    (conditionWritten : condition.Written)
    (bodyWritten : body.Written)
    (casesWritten : cases.Written)
    (position : Position) :
    (Cases.cons position condition body cases).Written := by
  intro level rest
  have letters :
      (Stmt.casesLines level (.cons position condition body cases)).toList =
        (indentation level).toList ++
          ("case".toList ++ (" ".toList ++ (condition.text.toList ++
          (":".toList ++
            (" ".toList ++ ((body.textAt level).toList ++ ("\n".toList ++
            (Stmt.casesLines level cases).toList))))))) := by
    simp [Stmt.casesLines, Stmt.line]
  rw [letters]
  apply Prints.indented level
  apply Prints.keywordSpace .caseWord (by decide)
  intro word wordKind
  apply Prints.part (conditionWritten.prints _ rfl)
  rintro conditionTokens ⟨conditionRead, conditionReads, conditionSame⟩
  apply Prints.sign .colon (by decide) rfl
  intro colon colonKind
  apply Prints.space
  apply Prints.part (bodyWritten level _)
  rintro tokens ⟨bodyRead, bodyReads, bodySame⟩
  apply Prints.blanks (by decide)
  apply Prints.mono (casesWritten level rest)
  rintro others ⟨list, listReads, listSame⟩
  have clauses := Passage.Reads.case wordKind (conditionReads.ofAtom .selection)
    colonKind bodyReads
    listReads
  rw [List.cons_append, List.append_assoc, List.cons_append] at clauses
  refine ⟨_, clauses, ?_⟩
  change
    Stmt.relabelCases .unplaced
      (.cons word.position conditionRead bodyRead (ofClauses list)) = _
  simp only [Stmt.relabelCases, conditionSame, bodySame, listSame]

end Cases

/-- All parts of a clause are written back. -/
def Clause.Written : Clause -> Prop
  | .case _ condition body => condition.Written ∧ body.Written
  | .otherwise _ body => body.Written

/-- The default among written clauses is written back. -/
theorem Cases.written_defaultOf
    {clauses : List Clause}
    (written : ∀ clause ∈ clauses, clause.Written) :
    (Cases.defaultOf clauses).Written := by
  induction clauses with
  | nil => exact written_nil
  | cons clause clauses inductionHypothesis =>
      rw [List.forall_mem_cons] at written
      cases clause with
      | case _ _ _ => exact inductionHypothesis written.2
      | otherwise position body => exact written_otherwise written.1 position

/-- Written clauses are written back in their normal order. -/
theorem Cases.written_ofClauses
    {clauses : List Clause}
    (written : ∀ clause ∈ clauses, clause.Written) :
    (Cases.ofClauses clauses).Written := by
  have lastWritten := written_defaultOf written
  rw [ofClauses]
  generalize defaultOf clauses = last at lastWritten ⊢
  induction clauses with
  | nil => exact lastWritten
  | cons clause clauses inductionHypothesis =>
      rw [List.forall_mem_cons] at written
      have others := inductionHypothesis written.2
      cases clause with
      | case position condition body =>
          exact written_cons written.1.1 written.1.2 others position
      | otherwise position body => exact others

theorem Stmt.written_switch
    {test : Expr}
    {cases : Cases}
    (testWritten : test.Written)
    (casesWritten : cases.Written)
    (position : Position) : (Stmt.switch position test cases).Written := by
  intro level rest
  have letters : ((Stmt.switch position test cases).textAt level).toList =
      "switch".toList ++
        (" ".toList ++ (("(".toList ++ (test.text.toList ++ ")".toList)) ++
        (" ".toList ++
          (braced level (casesLines (level + 1) cases)).toList))) := by
    simp [textAt]
  rw [letters]
  apply Prints.keywordSpace .switchWord (by decide)
  intro word wordKind
  apply Prints.part (testWritten.prints_inParens _)
  rintro testTokens ⟨testRead, testReads, testSame⟩
  apply Prints.space
  apply Prints.braced level (casesWritten (level + 1))
  rintro left tokens right leftKind ⟨list, reads, same⟩ rightKind
  refine ⟨_, .switch wordKind testReads leftKind reads rightKind, ?_⟩
  simp only [relabel, testSame, same]

/-! ## Whatever is read is written back -/

namespace Passage

/-- All that a part of a statement reads is written back. -/
def Written : (passage : Passage) -> passage.Tree -> Prop
  | .statement, one => Stmt.Written one
  | .statements, list => ∀ statement ∈ list, Stmt.Written statement
  | .clauses _, list => ∀ clause ∈ list, Clause.Written clause

/--
Whatever is read from tokens that are spelled as the scanner spells them is
written back.
-/
theorem Reads.written
    {passage : Passage}
    {tokens : List Token}
    {tree : passage.Tree}
    (reads : passage.Reads tokens tree)
    (spelled : ∀ token ∈ tokens, token.Spelled) : passage.Written tree := by
  induction reads with
  | define _ typeRead nameKind _ valueRead _ =>
      simp only [List.forall_mem_cons, List.forall_mem_append] at spelled
      obtain ⟨-, type, name, -, value, -⟩ := spelled
      exact Stmt.written_define (typeRead.written type) (name.name nameKind)
        (valueRead.written value) _
  | declare _ typeRead nameKind _ =>
      simp only [List.forall_mem_cons, List.forall_mem_append] at spelled
      obtain ⟨-, type, name, -⟩ := spelled
      exact Stmt.written_declare (typeRead.written type) (name.name nameKind) _
  | returnValue _ valueRead _ =>
      simp only [List.forall_mem_cons, List.forall_mem_append] at spelled
      exact Stmt.written_returnValue (valueRead.written spelled.2.1) _
  | assign nameKind selectorRead _ valueRead _ =>
      simp only [List.forall_mem_cons, List.forall_mem_append] at spelled
      obtain ⟨name, selector, -, value, -⟩ := spelled
      exact Stmt.written_assign
        (selectorRead.written selector (name.name nameKind) _)
        (valueRead.written value) _
  | call nameKind _ arguments _ _ =>
      simp only [List.forall_mem_cons, List.forall_mem_append] at spelled
      obtain ⟨name, -, inner, -⟩ := spelled
      exact Stmt.written_call (name.name nameKind) (arguments.written inner) _
  | forLoop _ _ counterKind _ initRead _ conditionRead _ stepKind _ stepRead _ _
      inductionHypothesis =>
      simp only [List.forall_mem_cons, List.forall_mem_append] at spelled
      obtain ⟨-, -, counter, -, init, -, condition, -, stepVariable, -, step, -,
        body⟩ := spelled
      exact Stmt.written_forLoop (counter.name counterKind)
        (initRead.written init)
        (conditionRead.written condition) (stepVariable.name stepKind)
          (stepRead.written step)
        (inductionHypothesis body) _
  | foreachLoop _ _ iteratorRead _ sourceRead _ _ inductionHypothesis =>
      simp only [List.forall_mem_cons, List.forall_mem_append] at spelled
      obtain ⟨-, -, iterator, -, source, -, body⟩ := spelled
      exact Stmt.written_foreachLoop (iteratorRead.written iterator)
        (sourceRead.written source)
        (inductionHypothesis body) _
  | ifThen _ conditionRead _ inductionHypothesis =>
      simp only [List.forall_mem_cons, List.forall_mem_append] at spelled
      obtain ⟨-, condition, body⟩ := spelled
      exact Stmt.written_ifThen (conditionRead.written condition)
        (inductionHypothesis body) _
  | ifElse _ conditionRead _ closed _ _ thenHypothesis elseHypothesis =>
      simp only [List.forall_mem_cons, List.forall_mem_append] at spelled
      obtain ⟨-, condition, thenBody, -, elseBody⟩ := spelled
      exact Stmt.written_ifElse (conditionRead.written condition)
        (thenHypothesis thenBody) closed
        (elseHypothesis elseBody) _
  | switch _ testRead _ _ _ inductionHypothesis =>
      simp only [List.forall_mem_cons, List.forall_mem_append] at spelled
      obtain ⟨-, test, -, clauses, -⟩ := spelled
      exact Stmt.written_switch (testRead.written test)
        (Cases.written_ofClauses (inductionHypothesis clauses)) _
  | block _ _ _ inductionHypothesis =>
      simp only [List.forall_mem_cons, List.forall_mem_append] at spelled
      exact Stmt.written_block (inductionHypothesis spelled.2.1) _
  | noStatements => exact List.forall_mem_nil _
  | statements _ _ statementHypothesis othersHypothesis =>
      rw [List.forall_mem_append] at spelled
      exact List.forall_mem_cons.2
        ⟨statementHypothesis spelled.1, othersHypothesis spelled.2⟩
  | noClauses => exact List.forall_mem_nil _
  | case _ conditionRead _ _ _ bodyHypothesis othersHypothesis =>
      simp only [List.forall_mem_cons, List.forall_mem_append] at spelled
      obtain ⟨⟨-, condition, -, body⟩, others⟩ := spelled
      exact List.forall_mem_cons.2
        ⟨⟨conditionRead.written condition, bodyHypothesis body⟩,
          othersHypothesis others⟩
  | otherwise _ _ _ _ bodyHypothesis othersHypothesis =>
      simp only [List.forall_mem_cons, List.forall_mem_append] at spelled
      obtain ⟨⟨-, -, body⟩, others⟩ := spelled
      exact List.forall_mem_cons.2
        ⟨bodyHypothesis body, othersHypothesis others⟩

end Passage
end MatrixLang
