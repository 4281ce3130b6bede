import MatrixLang.Proofs.Reading.Declaration
import MatrixLang.Proofs.Words.Expression

/-!
# Words of statements and modules can be read

The words of a conditional with an `else` do not say which conditional the
`else` belongs to.  Where the first branch ends in an open one, it goes there:
`Passage.Reads.attaches`.  So every word of the grammar has a reading, and
`Form.Derives.readable_module` says so of modules.
-/

namespace MatrixLang

/--
A statement that ends in an open conditional can be read with an `else` behind
it.
-/
def Passage.Attaches
    (behind : List Token) :
    (passage : Passage) -> List Token -> passage.Tree -> Prop
  | .statement, tokens, tree =>
      tree.endsOpen = true -> Passage.statement.Readable (tokens ++ behind)
  | .statements, _, _ => True
  | .clauses _, _, _ => True

/--
An `else` belongs to the open conditional at the end of the statement before it.
-/
theorem Passage.Reads.attaches
    {passage : Passage}
    {tokens elseTokens : List Token}
    {elseWord : Token}
    {tree : passage.Tree}
    {elseBody : Stmt}
    (reads : passage.Reads tokens tree)
    (elseKind : elseWord.kind = .elseWord)
    (elseRead : Passage.statement.Reads elseTokens elseBody) :
    passage.Attaches (elseWord :: elseTokens) tokens tree := by
  induction reads with
  | define | declare | returnValue | assign | call | switch | block =>
      intro opens
      cases opens
  | forLoop wordKind leftKind counterKind assignmentKind initRead semicolonKind
      conditionRead secondSemicolonKind stepVariableKind secondAssignmentKind
      stepRead rightKind _ attached =>
      intro opens
      obtain ⟨body, bodyRead⟩ := attached opens
      simp only [List.cons_append, List.append_assoc]
      exact ⟨_, .forLoop wordKind leftKind counterKind assignmentKind initRead
        semicolonKind conditionRead secondSemicolonKind stepVariableKind
        secondAssignmentKind stepRead rightKind bodyRead⟩
  | foreachLoop wordKind leftKind iteratorRead colonKind sourceRead rightKind _
      attached =>
      intro opens
      obtain ⟨body, bodyRead⟩ := attached opens
      simp only [List.cons_append, List.append_assoc]
      exact ⟨_, .foreachLoop wordKind leftKind iteratorRead colonKind
        sourceRead rightKind bodyRead⟩
  | @ifThen word conditionTokens tokens condition body wordKind conditionRead
      bodyRead attached =>
      intro _
      rw [List.cons_append, List.append_assoc]
      cases innerOpen : body.endsOpen with
      | true =>
          obtain ⟨inner, innerRead⟩ := attached innerOpen
          exact ⟨_, .ifThen wordKind conditionRead innerRead⟩
      | false =>
          exact ⟨_,
            .ifElse wordKind conditionRead bodyRead innerOpen elseKind elseRead⟩
  | ifElse wordKind conditionRead thenRead closed innerKind _ _ attached =>
      intro opens
      obtain ⟨inner, innerRead⟩ := attached opens
      simp only [List.cons_append, List.append_assoc]
      exact ⟨_, .ifElse wordKind conditionRead thenRead closed innerKind
        innerRead⟩
  | noStatements | statements | noClauses | case | otherwise => trivial

namespace Form

variable {tokens : List Token}

/-! ## Types -/

/-- A token of one of two kinds stands for what a table says of its kind. -/
theorem listed_of_fits_either
    {α : Type}
    (table : Token.Kind -> Option α)
    {expected other : Token.Kind}
    {value otherValue : α}
    (known : table expected = some value)
    (otherKnown : table other = some otherValue)
    (fits : (oneOf (kind expected) [kind other]).Fits tokens) :
    ∃ token value, tokens = [token] ∧ table token.kind = some value := by
  rcases fits with fits | fits
  · exact listed_of_fits known fits
  · exact listed_of_fits otherKnown fits

theorem readable_elementType
    (fits : elementType.Fits tokens) :
    ∃ element : Scalar, element.Reads tokens := by
  obtain ⟨_, _, rfl, ⟨_, rfl, lessKind, -⟩, _, _, rfl, word, _, _, rfl,
    ⟨_, rfl, greaterKind, -⟩, rfl⟩ := fits
  obtain ⟨token, element, rfl, found⟩ :=
    listed_of_fits_either Scalar.ofKind? rfl rfl word
  exact ⟨element, .intro lessKind found greaterKind⟩

theorem readable_type
    (fits : type.Fits tokens) :
    ∃ ty : Ty, ty.Reads tokens := by
  have simple {expected : Token.Kind} {ty : Ty}
      (known : Ty.ofKind? expected = some ty)
      (word : (kind expected).Fits tokens) : ∃ ty : Ty, ty.Reads tokens := by
    obtain ⟨token, ty, rfl, found⟩ := listed_of_fits known word
    exact ⟨ty, .simple found⟩
  rcases fits with word | word | word | word | word | name | vector | matrix
  · exact simple rfl word
  · exact simple rfl word
  · exact simple rfl word
  · exact simple rfl word
  · exact simple rfl word
  · obtain ⟨token, rfl, nameKind, -⟩ := name
    exact ⟨_, .record nameKind⟩
  · obtain ⟨_, _, rfl, ⟨_, rfl, wordKind, -⟩, _, _, rfl, word, _, _, rfl, size,
      rfl⟩ := vector
    obtain ⟨element, elementRead⟩ := readable_elementType word
    obtain ⟨length, sizeRead⟩ := readable_enclosed size
    rw [List.append_nil, List.singleton_append]
    exact ⟨_, .vector wordKind elementRead sizeRead⟩
  · obtain ⟨_, _, rfl, ⟨_, rfl, wordKind, -⟩, _, _, rfl, word, _, _, rfl, size,
      _, _, rfl, secondSize, rfl⟩ := matrix
    obtain ⟨element, elementRead⟩ := readable_elementType word
    obtain ⟨rows, rowsRead⟩ := readable_enclosed size
    obtain ⟨columns, columnsRead⟩ := readable_enclosed secondSize
    rw [List.append_nil, List.singleton_append]
    exact ⟨_, .matrix wordKind elementRead rowsRead columnsRead⟩

theorem readable_binding
    (fits : binding.Fits tokens) :
    ∃ element : Binding, element.Reads tokens := by
  obtain ⟨_, _, rfl, word, _, _, rfl, typeFits, _, _, rfl,
    ⟨_, rfl, nameKind, -⟩, rfl⟩ := fits
  obtain ⟨token, mutable, rfl, found⟩ :=
    listed_of_fits_either Binding.mutable? rfl rfl word
  obtain ⟨ty, typeRead⟩ := readable_type typeFits
  exact ⟨_, .intro found typeRead nameKind⟩

/-! ## Statements -/

theorem readable_define
    (fits : define.Fits tokens) :
    Passage.statement.Readable tokens := by
  obtain ⟨_, _, rfl, ⟨_, rfl, wordKind, -⟩, _, _, rfl, typeFits, _, _, rfl,
    ⟨_, rfl, nameKind, -⟩, _, _, rfl, ⟨_, rfl, assignmentKind, -⟩, _, _, rfl,
    ⟨value, valueRead⟩, _, _, rfl, ⟨_, rfl, semicolonKind, -⟩, rfl⟩ := fits
  obtain ⟨ty, typeRead⟩ := readable_type typeFits
  exact ⟨_,
    .define wordKind typeRead nameKind assignmentKind valueRead semicolonKind⟩

theorem readable_declare
    (fits : declare.Fits tokens) :
    Passage.statement.Readable tokens := by
  obtain ⟨_, _, rfl, ⟨_, rfl, wordKind, -⟩, _, _, rfl, typeFits, _, _, rfl,
    ⟨_, rfl, nameKind, -⟩, _, _, rfl, ⟨_, rfl, semicolonKind, -⟩, rfl⟩ := fits
  obtain ⟨ty, typeRead⟩ := readable_type typeFits
  exact ⟨_, .declare wordKind typeRead nameKind semicolonKind⟩

theorem readable_returnValue
    (fits : returnValue.Fits tokens) :
    Passage.statement.Readable tokens := by
  obtain ⟨_, _, rfl, ⟨_, rfl, wordKind, -⟩, _, _, rfl, ⟨value, valueRead⟩, _, _,
    rfl, ⟨_, rfl, semicolonKind, -⟩, rfl⟩ := fits
  exact ⟨_, .returnValue wordKind valueRead semicolonKind⟩

theorem readable_selector
    (fits : selector.Fits tokens) :
    ∃ target : Selector, target.Reads tokens := by
  rcases fits with (⟨_, _, rfl, first, _, _, rfl, second, rfl⟩ |
    ⟨_, _, rfl, ⟨_, rfl, signKind, -⟩, _, _, rfl,
      ⟨_, rfl, nameKind, -⟩, rfl⟩) | rfl
  · obtain ⟨row, rowRead⟩ := readable_enclosed first
    rw [List.append_nil]
    rcases second with second | rfl
    · obtain ⟨column, columnRead⟩ := readable_enclosed second
      exact ⟨_, .cell rowRead columnRead⟩
    · rw [List.append_nil]
      exact ⟨_, .index rowRead⟩
  · exact ⟨_, .field signKind nameKind⟩
  · exact ⟨_, .whole⟩

theorem readable_assignOrCall
    (fits : assignOrCall.Fits tokens) :
    Passage.statement.Readable tokens := by
  obtain ⟨_, _, rfl, ⟨_, rfl, nameKind, -⟩, _, _, rfl, behind, _, _, rfl,
    ⟨_, rfl, semicolonKind, -⟩, rfl⟩ := fits
  rcases behind with ⟨_, _, rfl, ⟨_, rfl, leftKind, -⟩, _, _, rfl, inside, _, _,
    rfl, ⟨_, rfl, rightKind, -⟩, rfl⟩ | ⟨_, _, rfl, target, _, _, rfl,
    ⟨_, rfl, assignmentKind, -⟩, _, _, rfl, ⟨value, valueRead⟩, rfl⟩
  · obtain ⟨list, arguments⟩ := readable_arguments inside
    simp only [List.cons_append, List.nil_append, List.append_assoc]
    exact ⟨_, .call nameKind leftKind arguments rightKind semicolonKind⟩
  · obtain ⟨selector, selectorRead⟩ := readable_selector target
    simp only [List.append_nil, List.cons_append, List.nil_append,
      List.append_assoc]
    exact ⟨_, .assign nameKind selectorRead assignmentKind valueRead
      semicolonKind⟩

theorem readable_forLoop
    (fits : forLoop.Fits tokens) :
    Passage.statement.Readable tokens := by
  obtain ⟨_, _, rfl, ⟨_, rfl, wordKind, -⟩, _, _, rfl, ⟨_, rfl, leftKind, -⟩, _,
    _, rfl, ⟨_, rfl, counterKind, -⟩, _, _, rfl, ⟨_, rfl, assignmentKind, -⟩, _,
    _, rfl, ⟨init, initRead⟩, _, _, rfl, ⟨_, rfl, semicolonKind, -⟩, _, _, rfl,
    ⟨condition, conditionRead⟩, _, _, rfl, ⟨_, rfl, secondSemicolonKind, -⟩, _,
    _, rfl, ⟨_, rfl, stepVariableKind, -⟩, _, _, rfl,
    ⟨_, rfl, secondAssignmentKind, -⟩, _, _, rfl, ⟨step, stepRead⟩, _, _, rfl,
    ⟨_, rfl, rightKind, -⟩, _, _, rfl, ⟨body, bodyRead⟩, rfl⟩ := fits
  rw [List.append_nil]
  exact ⟨_, .forLoop wordKind leftKind counterKind assignmentKind initRead
    semicolonKind conditionRead secondSemicolonKind stepVariableKind
    secondAssignmentKind stepRead rightKind bodyRead⟩

theorem readable_foreachLoop
    (fits : foreachLoop.Fits tokens) :
    Passage.statement.Readable tokens := by
  obtain ⟨_, _, rfl, ⟨_, rfl, wordKind, -⟩, _, _, rfl, ⟨_, rfl, leftKind, -⟩, _,
    _, rfl, element, _, _, rfl, ⟨_, rfl, colonKind, -⟩, _, _, rfl,
    ⟨source, sourceRead⟩, _, _, rfl, ⟨_, rfl, rightKind, -⟩, _, _, rfl,
    ⟨body, bodyRead⟩, rfl⟩ := fits
  obtain ⟨iterator, iteratorRead⟩ := readable_binding element
  rw [List.append_nil]
  exact ⟨_, .foreachLoop wordKind leftKind iteratorRead colonKind sourceRead
    rightKind bodyRead⟩

theorem readable_conditional
    (fits : conditional.Fits tokens) :
    Passage.statement.Readable tokens := by
  obtain ⟨_, _, rfl, ⟨_, rfl, wordKind, -⟩, _, _, rfl, inside, _, _, rfl,
    ⟨body, bodyRead⟩, _, _, rfl, alternative, rfl⟩ := fits
  obtain ⟨condition, conditionRead⟩ := readable_enclosed inside
  rw [List.append_nil, List.singleton_append]
  rcases alternative with ⟨_, _, rfl, ⟨_, rfl, elseKind, -⟩, _, _, rfl,
    ⟨elseBody, elseRead⟩, rfl⟩ | rfl
  · rw [List.append_nil]
    cases innerOpen : body.endsOpen with
    | true =>
        obtain ⟨inner, innerRead⟩ :=
          bodyRead.attaches elseKind elseRead innerOpen
        exact ⟨_, .ifThen wordKind conditionRead innerRead⟩
    | false =>
        exact ⟨_,
          .ifElse wordKind conditionRead bodyRead innerOpen elseKind elseRead⟩
  · rw [List.append_nil]
    exact ⟨_, .ifThen wordKind conditionRead bodyRead⟩

theorem readable_case
    {afterDefault : Bool}
    {rest : List Token}
    (fits : case.Fits tokens)
    (others : (Passage.clauses afterDefault).Readable rest) :
    (Passage.clauses afterDefault).Readable (tokens ++ rest) := by
  obtain ⟨_, _, rfl, ⟨_, rfl, wordKind, -⟩, _, _, rfl,
    ⟨condition, conditionRead⟩, _, _, rfl, ⟨_, rfl, colonKind, -⟩, _, _, rfl,
    ⟨body, bodyRead⟩, rfl⟩ := fits
  obtain ⟨list, othersRead⟩ := others
  rw [List.append_nil]
  exact ⟨_, .case wordKind conditionRead colonKind bodyRead othersRead⟩

theorem readable_cases
    {afterDefault : Bool}
    {rest : List Token}
    (fits : (many case).Fits tokens)
    (others : (Passage.clauses afterDefault).Readable rest) :
    (Passage.clauses afterDefault).Readable (tokens ++ rest) := by
  induction fits with
  | none => exact others
  | more first _ inductionHypothesis =>
      rw [List.append_assoc]
      exact readable_case first inductionHypothesis

theorem readable_clauses
    (fits : clauses.Fits tokens) :
    (Passage.clauses false).Readable tokens := by
  obtain ⟨_, _, rfl, cases, _, _, rfl, default, rfl⟩ := fits
  rw [List.append_nil]
  refine readable_cases cases ?_
  rcases default with ⟨_, _, rfl, ⟨_, _, rfl, ⟨_, rfl, wordKind, -⟩, _, _, rfl,
    ⟨_, rfl, colonKind, -⟩, _, _, rfl, ⟨body, bodyRead⟩, rfl⟩, _, _, rfl,
      rest, rfl⟩ | rfl
  · have nothing : (Passage.clauses true).Readable [] := ⟨[], .noClauses⟩
    obtain ⟨list, othersRead⟩ := readable_cases rest nothing
    rw [List.append_nil] at othersRead
    rw [List.append_nil, List.append_nil]
    exact ⟨_, .otherwise wordKind colonKind bodyRead othersRead⟩
  · exact ⟨[], .noClauses⟩

theorem readable_switch
    (fits : switch.Fits tokens) :
    Passage.statement.Readable tokens := by
  obtain ⟨_, _, rfl, ⟨_, rfl, wordKind, -⟩, _, _, rfl, inside, _, _, rfl,
    ⟨_, rfl, leftKind, -⟩, _, _, rfl, clausesFit, _, _, rfl,
    ⟨_, rfl, rightKind, -⟩, rfl⟩ := fits
  obtain ⟨test, testRead⟩ := readable_enclosed inside
  obtain ⟨list, clausesRead⟩ := readable_clauses clausesFit
  rw [List.singleton_append]
  exact ⟨_, .switch wordKind testRead leftKind clausesRead rightKind⟩

theorem readable_statements
    (fits : (many statement).Fits tokens) :
    Passage.statements.Readable tokens := by
  induction fits with
  | none => exact ⟨[], .noStatements⟩
  | more first _ inductionHypothesis =>
      obtain ⟨tree, read⟩ := first
      obtain ⟨list, others⟩ := inductionHypothesis
      exact ⟨tree :: list, .statements read others⟩

theorem readable_block
    (fits : block.Fits tokens) :
    Passage.statement.Readable tokens := by
  obtain ⟨_, _, rfl, ⟨_, rfl, leftKind, -⟩, _, _, rfl, inside, _, _, rfl,
    ⟨_, rfl, rightKind, -⟩, rfl⟩ := fits
  obtain ⟨list, read⟩ := readable_statements inside
  exact ⟨_, .block leftKind read rightKind⟩

/-- What can be read is closed under the productions of the grammar. -/
theorem closed_readable : Closed Symbol.Readable := by
  intro symbol tokens fits
  cases symbol with
  | tier layer => exact readable_layer fits
  | statement =>
      rcases fits with
        fits | fits | fits | fits | fits | fits | fits | fits | fits
      · exact readable_define fits
      · exact readable_declare fits
      · exact readable_returnValue fits
      · exact readable_assignOrCall fits
      · exact readable_forLoop fits
      · exact readable_foreachLoop fits
      · exact readable_conditional fits
      · exact readable_switch fits
      · exact readable_block fits

/-! ## Declarations -/

theorem readable_parameter
    (fits : parameter.Fits tokens) :
    ∃ element : Parameter, element.Reads tokens := by
  obtain ⟨_, _, rfl, typeFits, _, _, rfl, ⟨_, rfl, nameKind, -⟩, rfl⟩ := fits
  obtain ⟨ty, typeRead⟩ := readable_type typeFits
  exact ⟨_, .intro typeRead nameKind⟩

theorem readable_furtherParameters
    (fits : (further parameter).Fits tokens) :
    ∃ list, Parameter.FurtherReads tokens list := by
  induction fits with
  | none => exact ⟨[], .none⟩
  | more first _ inductionHypothesis =>
      obtain ⟨_, _, rfl, ⟨_, rfl, commaKind, -⟩, _, _, rfl, item, rfl⟩ := first
      obtain ⟨element, read⟩ := readable_parameter item
      obtain ⟨list, others⟩ := inductionHypothesis
      rw [List.append_nil]
      exact ⟨element :: list, .more commaKind read others⟩

theorem readable_parameters
    (fits : (optional (sequence [parameter, further parameter])).Fits tokens) :
    ∃ list, Parameter.AllRead tokens list := by
  rcases fits with ⟨_, _, rfl, item, _, _, rfl, rest, rfl⟩ | rfl
  · obtain ⟨element, read⟩ := readable_parameter item
    obtain ⟨list, others⟩ := readable_furtherParameters rest
    rw [List.append_nil]
    exact ⟨element :: list, .some read others⟩
  · exact ⟨[], .none⟩

theorem readable_function
    (fits : function.Fits tokens) :
    ∃ declared : Function, declared.Reads tokens := by
  obtain ⟨_, _, rfl, ⟨_, rfl, wordKind, -⟩, _, _, rfl, typeFits, _, _, rfl,
    ⟨_, rfl, nameKind, -⟩, _, _, rfl, ⟨_, _, rfl, ⟨_, rfl, leftKind, -⟩, _, _,
    rfl, inside, _, _, rfl, ⟨_, rfl, rightKind, -⟩, rfl⟩, _, _, rfl, ⟨_, _, rfl,
    ⟨_, rfl, leftCurlyKind, -⟩, _, _, rfl, bodyFits, _, _, rfl,
    ⟨_, rfl, rightCurlyKind, -⟩, rfl⟩, rfl⟩ := fits
  obtain ⟨ty, typeRead⟩ := readable_type typeFits
  obtain ⟨parameters, parametersRead⟩ := readable_parameters inside
  obtain ⟨body, bodyRead⟩ := readable_statements bodyFits
  simp only [List.append_nil, List.cons_append, List.nil_append,
    List.append_assoc]
  exact ⟨_, .intro wordKind typeRead nameKind leftKind parametersRead rightKind
    leftCurlyKind bodyRead rightCurlyKind⟩

theorem readable_recordElement
    {rest : List Token}
    {list : List Binding}
    (fits : recordElement.Fits tokens)
    (others : Record.ElementsRead rest list) :
    ∃ element, Record.ElementsRead (tokens ++ rest) (element :: list) := by
  obtain ⟨_, _, rfl, elementFits, _, _, rfl, ⟨_, rfl, semicolonKind, -⟩, rfl⟩ :=
    fits
  obtain ⟨element, read⟩ := readable_binding elementFits
  rw [List.append_nil, List.append_assoc]
  exact ⟨element, .more read semicolonKind others⟩

theorem readable_recordElements
    (fits : (many recordElement).Fits tokens) :
    ∃ list, Record.ElementsRead tokens list := by
  induction fits with
  | none => exact ⟨[], .none⟩
  | more first _ inductionHypothesis =>
      obtain ⟨list, others⟩ := inductionHypothesis
      obtain ⟨element, read⟩ := readable_recordElement first others
      exact ⟨element :: list, read⟩

theorem readable_record
    (fits : record.Fits tokens) :
    ∃ declared : Record, declared.Reads tokens := by
  obtain ⟨_, _, rfl, ⟨_, rfl, wordKind, -⟩, _, _, rfl, ⟨_, rfl, nameKind, -⟩, _,
    _, rfl, ⟨_, rfl, leftKind, -⟩, _, _, rfl, first, _, _, rfl, rest, _, _, rfl,
    ⟨_, rfl, rightKind, -⟩, rfl⟩ := fits
  obtain ⟨list, others⟩ := readable_recordElements rest
  obtain ⟨element, elementsRead⟩ := readable_recordElement first others
  rw [List.append_nil, ← List.append_assoc _ _ [_]]
  exact ⟨_, .intro wordKind nameKind leftKind elementsRead rightKind⟩

theorem readable_declarations
    (fits : module.Fits tokens) :
    ∃ list, Declaration.AllRead tokens list := by
  induction fits with
  | none => exact ⟨[], .none⟩
  | more first _ inductionHypothesis =>
      obtain ⟨list, others⟩ := inductionHypothesis
      rcases first with function | record
      · obtain ⟨declared, read⟩ := readable_function function
        exact ⟨_, .function read others⟩
      · obtain ⟨declared, read⟩ := readable_record record
        exact ⟨_, .record read others⟩

/-- Readable tokens whose kinds are the word of a module can be read as one. -/
theorem Derives.readable_module
    (derived : module.Derives (kinds tokens))
    (readable : ∀ token ∈ tokens, token.Readable)
    (after : Token) :
    ∃ declared : Module, declared.Reads tokens after := by
  obtain ⟨list, read⟩ :=
    readable_declarations (derived.spans closed_readable rfl readable)
  exact ⟨_, list, read, rfl⟩

end Form
end MatrixLang
