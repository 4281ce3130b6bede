import MatrixLang.Proofs.Reading.Expression
import MatrixLang.Syntax.Stmt

/-!
# Reading types and statements

The grammar of types and statements with the trees in it.  An `else` belongs to
the nearest conditional that is still open, so the first branch of a conditional
with an `else` must not end in an open one.
-/

namespace MatrixLang

/-! ## Types -/

/-- The element type that a kind of token stands for. -/
def Scalar.ofKind? : Token.Kind -> Option Scalar
  | .intWord => some .int
  | .floatWord => some .float
  | _ => none

/-- The type without parts that a kind of token stands for. -/
def Ty.ofKind? : Token.Kind -> Option Ty
  | .intWord => some .int
  | .floatWord => some .float
  | .boolWord => some .bool
  | .voidWord => some .void
  | .stringWord => some .string
  | _ => none

/-- Whether a kind of token starts a binding that may change. -/
def Binding.mutable? : Token.Kind -> Option Bool
  | .valWord => some false
  | .varWord => some true
  | _ => none

/-- Two kinds of token stand for the type of elements. -/
theorem Scalar.of_ofKind?
    {kind : Token.Kind}
    {element : Scalar}
    (found : Scalar.ofKind? kind = some element) :
    (kind = .intWord ∧ element = .int) ∨
      (kind = .floatWord ∧ element = .float) := by
  unfold Scalar.ofKind? at found
  split at found
  · cases found
    exact .inl ⟨rfl, rfl⟩
  · cases found
    exact .inr ⟨rfl, rfl⟩
  · cases found

/-- Five kinds of token stand for a type without parts. -/
theorem Ty.of_ofKind?
    {kind : Token.Kind}
    {type : Ty}
    (found : Ty.ofKind? kind = some type) :
    (kind = .intWord ∧ type = .int) ∨ (kind = .floatWord ∧ type = .float) ∨
      (kind = .boolWord ∧ type = .bool) ∨ (kind = .voidWord ∧ type = .void) ∨
        (kind = .stringWord ∧ type = .string) := by
  unfold Ty.ofKind? at found
  split at found
  case h_6 => cases found
  all_goals
    cases found
    simp

/-- Two kinds of token start a binding. -/
theorem Binding.of_mutable?
    {kind : Token.Kind}
    {mutable : Bool}
    (found : Binding.mutable? kind = some mutable) :
    (kind = .valWord ∧ mutable = false) ∨
      (kind = .varWord ∧ mutable = true) := by
  unfold Binding.mutable? at found
  split at found
  · cases found
    exact .inl ⟨rfl, rfl⟩
  · cases found
    exact .inr ⟨rfl, rfl⟩
  · cases found

/-- The element type that is read from tokens. -/
inductive Scalar.Reads : List Token -> Scalar -> Prop
  | intro
      {less word greater : Token}
      {element : Scalar}
      (lessKind : less.kind = .less)
      (found : Scalar.ofKind? word.kind = some element)
      (greaterKind : greater.kind = .greater) :
      Reads [less, word, greater] element

/-- The type that is read from tokens. -/
inductive Ty.Reads : List Token -> Ty -> Prop
  | simple
      {token : Token}
      {type : Ty}
      (found : Ty.ofKind? token.kind = some type) :
      Reads [token] type
  | record
      {token : Token}
      (kind : token.kind = .identifier) :
      Reads [token] (.record token.spelling)
  | vector
      {word : Token}
      {elementTokens tokens : List Token}
      {element : Scalar}
      {size : Expr}
      (wordKind : word.kind = .vectorWord)
      (elementRead : element.Reads elementTokens)
      (sizeRead : (Phrase.enclosed .openBracket .closeBracket).Reads
        tokens size) :
      Reads (word :: (elementTokens ++ tokens)) (.vector element size)
  | matrix
      {word : Token}
      {elementTokens tokens rest : List Token}
      {element : Scalar}
      {rows columns : Expr}
      (wordKind : word.kind = .matrixWord)
      (elementRead : element.Reads elementTokens)
      (rowsRead : (Phrase.enclosed .openBracket .closeBracket).Reads
        tokens rows)
      (columnsRead : (Phrase.enclosed .openBracket .closeBracket).Reads
        rest columns) :
      Reads (word :: (elementTokens ++ (tokens ++ rest)))
        (.matrix element rows columns)

theorem Ty.Reads.ne_nil
    {tokens : List Token}
    {type : Ty}
    (reads : type.Reads tokens) :
    tokens ≠ [] := by
  cases reads <;> exact List.cons_ne_nil _ _

/-- The binding that is read from tokens. -/
inductive Binding.Reads : List Token -> Binding -> Prop
  | intro
      {word name : Token}
      {tokens : List Token}
      {mutable : Bool}
      {type : Ty}
      (found : Binding.mutable? word.kind = some mutable)
      (typeRead : type.Reads tokens)
      (nameKind : name.kind = .identifier) :
      Reads (word :: (tokens ++ [name]))
        ⟨mutable, type, name.spelling, word.position⟩

/-! ## Statements -/

/-- What an assignment changes, read from the tokens behind its name. -/
inductive Selector.Reads : List Token -> Selector -> Prop
  | whole : Reads [] .whole
  | index
      {tokens : List Token}
      {index : Expr}
      (read : (Phrase.enclosed .openBracket .closeBracket).Reads tokens index) :
      Reads tokens (.index index)
  | cell
      {tokens rest : List Token}
      {row column : Expr}
      (rowRead : (Phrase.enclosed .openBracket .closeBracket).Reads tokens row)
      (columnRead : (Phrase.enclosed .openBracket .closeBracket).Reads
        rest column) :
      Reads (tokens ++ rest) (.cell row column)
  | field
      {sign name : Token}
      (signKind : sign.kind = .atSign)
      (nameKind : name.kind = .identifier) :
      Reads [sign, name] (.field name.spelling)

/--
A statement ends in a conditional that an `else` behind it would belong to.
-/
def Stmt.endsOpen : Stmt -> Bool
  | .ifThen _ _ _ => true
  | .ifElse _ _ _ elseBody => elseBody.endsOpen
  | .forLoop _ _ _ _ _ _ body => body.endsOpen
  | .foreachLoop _ _ _ body => body.endsOpen
  | _ => false

/-- The parts of statements that contain statements. -/
inductive Passage
  /-- A statement of any form. -/
  | statement
  /-- The statements of a block. -/
  | statements
  /-- The clauses of a switch, before or behind its default. -/
  | clauses (afterDefault : Bool)

/-- What is read from a part of a statement. -/
abbrev Passage.Tree : Passage -> Type
  | .statement => Stmt
  | .statements => List Stmt
  | .clauses _ => List Clause

/-- The tree that a part of a statement reads from tokens. -/
inductive Passage.Reads :
    (passage : Passage) -> List Token -> passage.Tree -> Prop
  | define
      {word name assignment semicolon : Token}
      {typeTokens tokens : List Token}
      {type : Ty}
      {value : Expr}
      (wordKind : word.kind = .valWord)
      (typeRead : type.Reads typeTokens)
      (nameKind : name.kind = .identifier)
      (assignmentKind : assignment.kind = .assignment)
      (valueRead : Phrase.expression.Reads tokens value)
      (semicolonKind : semicolon.kind = .semicolon) :
      Reads .statement
        (word :: (typeTokens ++ name :: assignment :: (tokens ++ [semicolon])))
        (.define word.position type name.spelling value)
  | declare
      {word name semicolon : Token}
      {typeTokens : List Token}
      {type : Ty}
      (wordKind : word.kind = .varWord)
      (typeRead : type.Reads typeTokens)
      (nameKind : name.kind = .identifier)
      (semicolonKind : semicolon.kind = .semicolon) :
      Reads .statement (word :: (typeTokens ++ [name, semicolon]))
        (.declare word.position type name.spelling)
  | returnValue
      {word semicolon : Token}
      {tokens : List Token}
      {value : Expr}
      (wordKind : word.kind = .returnWord)
      (valueRead : Phrase.expression.Reads tokens value)
      (semicolonKind : semicolon.kind = .semicolon) :
      Reads .statement (word :: (tokens ++ [semicolon]))
        (.returnValue word.position value)
  | assign
      {name assignment semicolon : Token}
      {selectorTokens tokens : List Token}
      {selector : Selector}
      {value : Expr}
      (nameKind : name.kind = .identifier)
      (selectorRead : selector.Reads selectorTokens)
      (assignmentKind : assignment.kind = .assignment)
      (valueRead : Phrase.expression.Reads tokens value)
      (semicolonKind : semicolon.kind = .semicolon) :
      Reads .statement (name ::
          (selectorTokens ++ assignment :: (tokens ++ [semicolon])))
        (.assign name.position ⟨name.spelling, selector, name.position⟩ value)
  | call
      {name left right semicolon : Token}
      {tokens : List Token}
      {list : List Expr}
      (nameKind : name.kind = .identifier)
      (leftKind : left.kind = .openParen)
      (arguments : Phrase.arguments.Reads tokens list)
      (rightKind : right.kind = .closeParen)
      (semicolonKind : semicolon.kind = .semicolon) :
      Reads .statement (name :: left :: (tokens ++ [right, semicolon]))
        (.call name.position name.spelling list)
  | forLoop
      {word left counter assignment semicolon secondSemicolon : Token}
      {stepVariable secondAssignment right : Token}
      {initTokens conditionTokens stepTokens tokens : List Token}
      {init condition step : Expr}
      {body : Stmt}
      (wordKind : word.kind = .forWord)
      (leftKind : left.kind = .openParen)
      (counterKind : counter.kind = .identifier)
      (assignmentKind : assignment.kind = .assignment)
      (initRead : Phrase.expression.Reads initTokens init)
      (semicolonKind : semicolon.kind = .semicolon)
      (conditionRead : Phrase.expression.Reads conditionTokens condition)
      (secondSemicolonKind : secondSemicolon.kind = .semicolon)
      (stepVariableKind : stepVariable.kind = .identifier)
      (secondAssignmentKind : secondAssignment.kind = .assignment)
      (stepRead : Phrase.expression.Reads stepTokens step)
      (rightKind : right.kind = .closeParen)
      (bodyRead : Reads .statement tokens body) :
      Reads .statement
        (word :: left :: counter :: assignment :: (initTokens ++ semicolon ::
          (conditionTokens ++ secondSemicolon ::
            stepVariable :: secondAssignment ::
            (stepTokens ++ right :: tokens))))
        (.forLoop word.position counter.spelling init condition
          stepVariable.spelling step body)
  | foreachLoop
      {word left colon right : Token}
      {iteratorTokens sourceTokens tokens : List Token}
      {iterator : Binding}
      {source : Expr}
      {body : Stmt}
      (wordKind : word.kind = .foreachWord)
      (leftKind : left.kind = .openParen)
      (iteratorRead : iterator.Reads iteratorTokens)
      (colonKind : colon.kind = .colon)
      (sourceRead : Phrase.expression.Reads sourceTokens source)
      (rightKind : right.kind = .closeParen)
      (bodyRead : Reads .statement tokens body) :
      Reads .statement
        (word :: left ::
          (iteratorTokens ++ colon :: (sourceTokens ++ right :: tokens)))
        (.foreachLoop word.position iterator source body)
  | ifThen
      {word : Token}
      {conditionTokens tokens : List Token}
      {condition : Expr}
      {body : Stmt}
      (wordKind : word.kind = .ifWord)
      (conditionRead : (Phrase.enclosed .openParen .closeParen).Reads
        conditionTokens condition)
      (bodyRead : Reads .statement tokens body) :
      Reads .statement (word :: (conditionTokens ++ tokens))
        (.ifThen word.position condition body)
  | ifElse
      {word elseWord : Token}
      {conditionTokens tokens elseTokens : List Token}
      {condition : Expr}
      {thenBody elseBody : Stmt}
      (wordKind : word.kind = .ifWord)
      (conditionRead : (Phrase.enclosed .openParen .closeParen).Reads
        conditionTokens condition)
      (thenRead : Reads .statement tokens thenBody)
      (closed : thenBody.endsOpen = false)
      (elseKind : elseWord.kind = .elseWord)
      (elseRead : Reads .statement elseTokens elseBody) :
      Reads .statement (word ::
          (conditionTokens ++ (tokens ++ elseWord :: elseTokens)))
        (.ifElse word.position condition thenBody elseBody)
  | switch
      {word left right : Token}
      {testTokens tokens : List Token}
      {test : Expr}
      {list : List Clause}
      (wordKind : word.kind = .switchWord)
      (testRead : (Phrase.enclosed .openParen .closeParen).Reads
        testTokens test)
      (leftKind : left.kind = .openCurly)
      (clauses : Reads (.clauses false) tokens list)
      (rightKind : right.kind = .closeCurly) :
      Reads .statement (word :: (testTokens ++ left :: (tokens ++ [right])))
        (.switch word.position test (.ofClauses list))
  | block
      {left right : Token}
      {tokens : List Token}
      {list : List Stmt}
      (leftKind : left.kind = .openCurly)
      (statements : Reads .statements tokens list)
      (rightKind : right.kind = .closeCurly) :
      Reads .statement (left :: (tokens ++ [right])) (.block left.position list)
  | noStatements : Reads .statements [] []
  | statements
      {tokens rest : List Token}
      {statement : Stmt}
      {list : List Stmt}
      (read : Reads .statement tokens statement)
      (others : Reads .statements rest list) :
      Reads .statements (tokens ++ rest) (statement :: list)
  | noClauses {afterDefault : Bool} : Reads (.clauses afterDefault) [] []
  | case
      {afterDefault : Bool}
      {word colon : Token}
      {conditionTokens tokens rest : List Token}
      {condition : Expr}
      {body : Stmt}
      {list : List Clause}
      (wordKind : word.kind = .caseWord)
      (conditionRead : Phrase.expression.Reads conditionTokens condition)
      (colonKind : colon.kind = .colon)
      (bodyRead : Reads .statement tokens body)
      (others : Reads (.clauses afterDefault) rest list) :
      Reads (.clauses afterDefault)
        (word :: (conditionTokens ++ colon :: tokens) ++ rest)
        (.case word.position condition body :: list)
  | otherwise
      {word colon : Token}
      {tokens rest : List Token}
      {body : Stmt}
      {list : List Clause}
      (wordKind : word.kind = .defaultWord)
      (colonKind : colon.kind = .colon)
      (bodyRead : Reads .statement tokens body)
      (others : Reads (.clauses true) rest list) :
      Reads (.clauses false) (word :: colon :: tokens ++ rest)
        (.otherwise word.position body :: list)

end MatrixLang
