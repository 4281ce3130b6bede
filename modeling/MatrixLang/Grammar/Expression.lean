import MatrixLang.Grammar.Expected
import MatrixLang.Parser.Basic

/-!
# The grammar of expressions

One parser for each level of precedence, the tightest first: atoms, element
selections, ranges, the products of matrices and vectors, dimensions, powers,
minus, the arithmetic levels, comparisons, negation, the logical levels, and the
choice by a condition.  Every node takes the position of the first token of its
level.
-/

namespace MatrixLang
namespace Grammar

open MatrixLang.Parser

/-- An expression of any form. -/
def expression : Parser Expr :=
  apply .expression

/-- An expression between two kinds of token. -/
def enclosed (left right : Token.Kind) : Parser Expr := do
  pass left
  let inner ← expression
  pass right
  pure inner

/--
The items of a list up to its closing parenthesis, of which there may be none.
-/
def items
    {α : Type}
    (item : Parser α)
    (more : Parser (List α)) : Parser (List α) := do
  let token ← current
  if token.kind = .closeParen then
    pure []
  else do
    let first ← item
    let rest ← more
    pure (first :: rest)

/--
A list between parentheses, given its items and what may follow the first one.
-/
def parenthesized
    {α : Type}
    (item : Parser α)
    (more : Parser (List α)) : Parser (List α) := do
  pass .openParen
  let list ← items item more
  pass .closeParen
  pure list

/--
The rest of a list between parentheses: its end, or a comma and more items.
-/
def furtherItems
    {α : Type}
    (item : Parser α)
    (more : Parser (List α)) : Parser (List α) := do
  let token ← current
  if token.kind = .closeParen then
    pure []
  else if token.kind = .comma then do
    skip
    let first ← item
    let rest ← more
    pure (first :: rest)
  else
    unexpected Expected.separator

/-- The arguments of a call behind the first one. -/
def furtherArguments : Parser (List Expr) :=
  furtherItems expression (apply .arguments)

/-- The arguments of a call, between parentheses. -/
def arguments : Parser (List Expr) :=
  parenthesized expression (apply .arguments)

/-- The elements of an aggregate behind the first one. -/
def furtherElements : Parser (List Expr) := do
  let token ← current
  if token.kind = .comma then do
    skip
    let first ← expression
    let rest ← apply .elements
    pure (first :: rest)
  else
    pure []

/-- The elements of an aggregate, between brackets; there is at least one. -/
def elements : Parser (List Expr) := do
  pass .openBracket
  let first ← expression
  let rest ← apply .elements
  pass .closeBracket
  pure (first :: rest)

/-- A literal, which keeps the lookahead token when it has no value. -/
def literal {α : Type} (value? : Option α) : Parser α :=
  match value? with
  | some value => do
      skip
      pure value
  | none => .reject .number

/-- A name, or a call if a parenthesis follows it. -/
def referenceOrCall (position : Position) (name : String) : Parser Expr := do
  skip
  let token ← current
  if token.kind = .openParen then do
    let list ← arguments
    pure (.call position name list)
  else
    pure (.reference position name)

/-- A record given by its type and its elements. -/
def recordLiteral (position : Position) : Parser Expr := do
  skip
  let name ← expect .identifier
  let list ← elements
  pure (.record position name list)

/-- A vector or matrix given by its elements. -/
def aggregate (position : Position) : Parser Expr := do
  let list ← elements
  pure (.aggregate position list)

/--
A literal, name, call, aggregate or record, or any expression in parentheses.
-/
def atom : Parser Expr := do
  let token ← current
  match token.kind with
  | .intLiteral => do
      let value ← literal (Numeral.int32? token.spelling)
      pure (.int token.position value)
  | .floatLiteral => do
      let value ← literal (Single.ofLiteral? token.spelling)
      pure (.float token.position value)
  | .boolLiteral => do
      skip
      pure (.bool token.position (token.spelling == "true"))
  | .stringLiteral => do
      skip
      pure (.string token.position token.spelling)
  | .identifier => referenceOrCall token.position token.spelling
  | .openParen => enclosed .openParen .closeParen
  | .atSign => recordLiteral token.position
  | .openBracket => aggregate token.position
  | _ => unexpected Expected.atom

/-- An atom, or one of its elements as a record. -/
def fieldSelection : Parser Expr := do
  let position ← here
  let base ← atom
  let token ← current
  if token.kind = .atSign then do
    skip
    let name ← expect .identifier
    pure (.field position base name)
  else
    pure base

/-- Any number of indices in brackets. -/
def indices : Parser (List Expr) := do
  let token ← current
  if token.kind = .openBracket then do
    let first ← enclosed .openBracket .closeBracket
    let rest ← apply .indices
    pure (first :: rest)
  else
    pure []

/-- A field selection with any number of indices. -/
def elementSelection : Parser Expr := do
  let position ← here
  let base ← fieldSelection
  let list ← apply .indices
  pure (list.foldl (.element position) base)

/-- The three parts of a range, between braces. -/
def range : Parser (Expr × Expr × Expr) := do
  pass .openCurly
  let first ← expression
  pass .colon
  let origin ← expression
  pass .colon
  let last ← expression
  pass .closeCurly
  pure (first, origin, last)

/--
The part of a matrix if a second range follows, and of a vector otherwise.
-/
def subrangeOf (position : Position) (base : Expr) : Parser Expr := do
  let (first, origin, last) ← range
  let token ← current
  if token.kind = .openCurly then do
    let (firstColumn, originColumn, lastColumn) ← range
    pure (.submatrix position base first origin last firstColumn
      originColumn lastColumn)
  else
    pure (.subvector position base first origin last)

/-- An element selection, or a part of it given by ranges. -/
def subrange : Parser Expr := do
  let position ← here
  let base ← elementSelection
  let token ← current
  if token.kind = .openCurly then
    subrangeOf position base
  else
    pure base

/-- Operands that associate to the left. -/
def chain (level : Level) (operand : Parser Expr) : Parser Expr := do
  let position ← here
  let first ← operand
  let rest ← apply (.operands level)
  pure (rest.foldl (fun left pair => .binary position pair.1 left pair.2) first)

/-- Products of matrices. -/
def matrixProduct : Parser Expr :=
  chain .matrixProduct subrange

/-- Products of vectors. -/
def dotProduct : Parser Expr :=
  chain .dotProduct matrixProduct

/-- The dimension that a kind of token asks for. -/
def dimension? : Token.Kind -> Option UnaryOp
  | .xDimension => some .xDimension
  | .yDimension => some .yDimension
  | .dimension => some .dimension
  | _ => none

/-- An operand with at most one dimension behind it. -/
def dimension : Parser Expr := do
  let position ← here
  let operand ← dotProduct
  let token ← current
  match dimension? token.kind with
  | some operator => do
      skip
      pure (.unary position operator operand)
  | none => pure operand

/-- A power associates to the right. -/
def power : Parser Expr := do
  let position ← here
  let base ← dimension
  let token ← current
  if token.kind = .caret then do
    skip
    let exponent ← apply .power
    pure (.binary position .power base exponent)
  else
    pure base

/-- An operand with at most one sign before it, which does not nest. -/
def prefixed
    (kind : Token.Kind)
    (operator : UnaryOp)
    (operand : Parser Expr) : Parser Expr := do
  let token ← current
  if token.kind = kind then do
    skip
    let inner ← operand
    pure (.unary token.position operator inner)
  else
    operand

/-- A power, or its opposite. -/
def minus : Parser Expr :=
  prefixed .dash .negate power

/-- Products and quotients. -/
def multiplicative : Parser Expr :=
  chain .multiplicative minus

/-- Sums and differences. -/
def additive : Parser Expr :=
  chain .additive multiplicative

/-- Comparisons. -/
def comparison : Parser Expr :=
  chain .comparison additive

/-- A comparison, or its negation. -/
def negation : Parser Expr :=
  prefixed .not .not comparison

/-- Conjunctions. -/
def conjunction : Parser Expr :=
  chain .conjunction negation

/-- Disjunctions. -/
def disjunction : Parser Expr :=
  chain .disjunction conjunction

/-- A disjunction, or a choice between two of them. -/
def selection : Parser Expr := do
  let position ← here
  let condition ← disjunction
  let token ← current
  if token.kind = .question then do
    skip
    let onTrue ← disjunction
    pass .colon
    let onFalse ← disjunction
    pure (.select position condition onTrue onFalse)
  else
    pure condition

/-- The operands of a level. -/
def operand : Level -> Parser Expr
  | .disjunction => conjunction
  | .conjunction => negation
  | .comparison => additive
  | .additive => multiplicative
  | .multiplicative => minus
  | .dotProduct => matrixProduct
  | .matrixProduct => subrange

/-- Any number of operators of a level, each with its right operand. -/
def operands (level : Level) : Parser (List (BinaryOp × Expr)) := do
  let token ← current
  match level.operator? token.kind with
  | some operator => do
      skip
      let right ← operand level
      let rest ← apply (.operands level)
      pure ((operator, right) :: rest)
  | none => pure []

end Grammar
end MatrixLang
