import MatrixLang.Grammar.Expression
import MatrixLang.Proofs.Ebnf

/-!
# Reading expressions

`Phrase.Reads` is the grammar of expressions with the trees in it: it says which
tree each layer reads from which tokens.  A tree takes the position of the first
token of its layer; parentheses leave no trace.
-/

namespace MatrixLang

/-- The position of the first of some tokens. -/
def startOf (tokens : List Token) : Position :=
  (tokens.head?.map Token.position).getD .start

@[simp]
theorem startOf_cons
    (token : Token)
    (tokens : List Token) :
    startOf (token :: tokens) = token.position :=
  rfl

/--
The layer that stands in place of a looser one when the looser one adds nothing.
-/
def Tier.bare? : Tier -> Option Tier
  | .selection => some .disjunction
  | .negation => some .comparison
  | .minus => some .power
  | .power => some .dimension
  | .dimension => some .dotProduct
  | .subrange => some .elementSelection
  | .fieldSelection => some .atom
  | _ => none

/-- The parts of expressions. -/
inductive Phrase
  /-- An expression of one layer. -/
  | tier (tier : Tier)
  /-- An expression between two kinds of token. -/
  | enclosed (left right : Token.Kind)
  /-- The operators of a level, each with its right operand. -/
  | operands (level : Level)
  /-- Indices in brackets. -/
  | indices
  /-- Expressions, each behind a comma. -/
  | further
  /-- The arguments of a call, without its parentheses. -/
  | arguments
  /-- The elements of an aggregate, with its brackets. -/
  | elements
  /-- The three parts of a range, with its braces. -/
  | range

/-- What is read from a part of an expression. -/
abbrev Phrase.Tree : Phrase -> Type
  | .tier _ => Expr
  | .enclosed _ _ => Expr
  | .operands _ => List (BinaryOp × Expr)
  | .indices => List Expr
  | .further => List Expr
  | .arguments => List Expr
  | .elements => List Expr
  | .range => Expr × Expr × Expr

/-- An expression of any form. -/
abbrev Phrase.expression : Phrase :=
  .tier .selection

/-- The tree that a part of an expression reads from tokens. -/
inductive Phrase.Reads : (phrase : Phrase) -> List Token -> phrase.Tree -> Prop
  | int
      {token : Token}
      {value : Int32}
      (kind : token.kind = .intLiteral)
      (read : Numeral.int32? token.spelling = some value) :
      Reads (.tier .atom) [token] (.int token.position value)
  | float
      {token : Token}
      {value : Single}
      (kind : token.kind = .floatLiteral)
      (read : Single.ofLiteral? token.spelling = some value) :
      Reads (.tier .atom) [token] (.float token.position value)
  | bool
      {token : Token}
      (kind : token.kind = .boolLiteral) :
      Reads (.tier .atom) [token]
        (.bool token.position (token.spelling == "true"))
  | string
      {token : Token}
      (kind : token.kind = .stringLiteral) :
      Reads (.tier .atom) [token] (.string token.position token.spelling)
  | reference
      {token : Token}
      (kind : token.kind = .identifier) :
      Reads (.tier .atom) [token] (.reference token.position token.spelling)
  | call
      {name left right : Token}
      {tokens : List Token}
      {list : List Expr}
      (nameKind : name.kind = .identifier)
      (leftKind : left.kind = .openParen)
      (arguments : Reads .arguments tokens list)
      (rightKind : right.kind = .closeParen) :
      Reads (.tier .atom) (name :: left :: (tokens ++ [right]))
        (.call name.position name.spelling list)
  | parenthesized
      {tokens : List Token}
      {inner : Expr}
      (enclosed : Reads (.enclosed .openParen .closeParen) tokens inner) :
      Reads (.tier .atom) tokens inner
  | aggregate
      {tokens : List Token}
      {list : List Expr}
      (elements : Reads .elements tokens list) :
      Reads (.tier .atom) tokens (.aggregate (startOf tokens) list)
  | record
      {sign name : Token}
      {tokens : List Token}
      {list : List Expr}
      (signKind : sign.kind = .atSign)
      (nameKind : name.kind = .identifier)
      (elements : Reads .elements tokens list) :
      Reads (.tier .atom) (sign :: name :: tokens)
        (.record sign.position name.spelling list)
  | bare
      {outer inner : Tier}
      {tokens : List Token}
      {expr : Expr}
      (below : outer.bare? = some inner)
      (read : Reads (.tier inner) tokens expr) :
      Reads (.tier outer) tokens expr
  | field
      {sign name : Token}
      {tokens : List Token}
      {base : Expr}
      (read : Reads (.tier .atom) tokens base)
      (signKind : sign.kind = .atSign)
      (nameKind : name.kind = .identifier) :
      Reads (.tier .fieldSelection) (tokens ++ [sign, name])
        (.field (startOf tokens) base name.spelling)
  | element
      {tokens rest : List Token}
      {base : Expr}
      {list : List Expr}
      (read : Reads (.tier .fieldSelection) tokens base)
      (indices : Reads .indices rest list) :
      Reads (.tier .elementSelection) (tokens ++ rest)
        (list.foldl (.element (startOf tokens)) base)
  | subvector
      {tokens rest : List Token}
      {base first origin last : Expr}
      (read : Reads (.tier .elementSelection) tokens base)
      (range : Reads .range rest (first, origin, last)) :
      Reads (.tier .subrange) (tokens ++ rest)
        (.subvector (startOf tokens) base first origin last)
  | submatrix
      {tokens rows columns : List Token}
      {base first origin last firstColumn originColumn lastColumn : Expr}
      (read : Reads (.tier .elementSelection) tokens base)
      (rowRange : Reads .range rows (first, origin, last))
      (columnRange : Reads .range columns
        (firstColumn, originColumn, lastColumn)) :
      Reads (.tier .subrange) (tokens ++ (rows ++ columns))
        (.submatrix (startOf tokens) base first origin last
          firstColumn originColumn lastColumn)
  | chain
      {level : Level}
      {tokens rest : List Token}
      {first : Expr}
      {pairs : List (BinaryOp × Expr)}
      (read : Reads (.tier level.operandTier) tokens first)
      (operands : Reads (.operands level) rest pairs) :
      Reads (.tier level.tier) (tokens ++ rest)
        (pairs.foldl
          (fun left pair => .binary (startOf tokens) pair.1 left pair.2) first)
  | dimension
      {token : Token}
      {tokens : List Token}
      {operator : UnaryOp}
      {operand : Expr}
      (read : Reads (.tier .dotProduct) tokens operand)
      (asked : Grammar.dimension? token.kind = some operator) :
      Reads (.tier .dimension) (tokens ++ [token])
        (.unary (startOf tokens) operator operand)
  | power
      {sign : Token}
      {tokens rest : List Token}
      {base exponent : Expr}
      (read : Reads (.tier .dimension) tokens base)
      (signKind : sign.kind = .caret)
      (exponentRead : Reads (.tier .power) rest exponent) :
      Reads (.tier .power) (tokens ++ sign :: rest)
        (.binary (startOf tokens) .power base exponent)
  | negate
      {sign : Token}
      {tokens : List Token}
      {operand : Expr}
      (signKind : sign.kind = .dash)
      (read : Reads (.tier .power) tokens operand) :
      Reads (.tier .minus) (sign :: tokens)
        (.unary sign.position .negate operand)
  | not
      {sign : Token}
      {tokens : List Token}
      {operand : Expr}
      (signKind : sign.kind = .not)
      (read : Reads (.tier .comparison) tokens operand) :
      Reads (.tier .negation) (sign :: tokens)
        (.unary sign.position .not operand)
  | select
      {question colon : Token}
      {tokens trueTokens falseTokens : List Token}
      {condition onTrue onFalse : Expr}
      (read : Reads (.tier .disjunction) tokens condition)
      (questionKind : question.kind = .question)
      (trueRead : Reads (.tier .disjunction) trueTokens onTrue)
      (colonKind : colon.kind = .colon)
      (falseRead : Reads (.tier .disjunction) falseTokens onFalse) :
      Reads (.tier .selection)
        (tokens ++ question :: (trueTokens ++ colon :: falseTokens))
        (.select (startOf tokens) condition onTrue onFalse)
  | enclosed
      {leftKind rightKind : Token.Kind}
      {left right : Token}
      {tokens : List Token}
      {inner : Expr}
      (leftSame : left.kind = leftKind)
      (read : Reads .expression tokens inner)
      (rightSame : right.kind = rightKind) :
      Reads (.enclosed leftKind rightKind) (left :: (tokens ++ [right])) inner
  | noOperands {level : Level} : Reads (.operands level) [] []
  | operand
      {level : Level}
      {sign : Token}
      {operator : BinaryOp}
      {tokens rest : List Token}
      {right : Expr}
      {pairs : List (BinaryOp × Expr)}
      (found : level.operator? sign.kind = some operator)
      (read : Reads (.tier level.operandTier) tokens right)
      (operands : Reads (.operands level) rest pairs) :
      Reads (.operands level) (sign :: (tokens ++ rest))
        ((operator, right) :: pairs)
  | noIndices : Reads .indices [] []
  | index
      {tokens rest : List Token}
      {index : Expr}
      {list : List Expr}
      (enclosed : Reads (.enclosed .openBracket .closeBracket) tokens index)
      (indices : Reads .indices rest list) :
      Reads .indices (tokens ++ rest) (index :: list)
  | nothingFurther : Reads .further [] []
  | further
      {comma : Token}
      {tokens rest : List Token}
      {expr : Expr}
      {list : List Expr}
      (commaKind : comma.kind = .comma)
      (read : Reads .expression tokens expr)
      (others : Reads .further rest list) :
      Reads .further (comma :: (tokens ++ rest)) (expr :: list)
  | noArguments : Reads .arguments [] []
  | arguments
      {tokens rest : List Token}
      {expr : Expr}
      {list : List Expr}
      (read : Reads .expression tokens expr)
      (others : Reads .further rest list) :
      Reads .arguments (tokens ++ rest) (expr :: list)
  | elements
      {left right : Token}
      {tokens rest : List Token}
      {expr : Expr}
      {list : List Expr}
      (leftKind : left.kind = .openBracket)
      (read : Reads .expression tokens expr)
      (others : Reads .further rest list)
      (rightKind : right.kind = .closeBracket) :
      Reads .elements (left :: (tokens ++ (rest ++ [right]))) (expr :: list)
  | range
      {left colon secondColon right : Token}
      {tokens originTokens lastTokens : List Token}
      {first origin last : Expr}
      (leftKind : left.kind = .openCurly)
      (read : Reads .expression tokens first)
      (colonKind : colon.kind = .colon)
      (originRead : Reads .expression originTokens origin)
      (secondColonKind : secondColon.kind = .colon)
      (lastRead : Reads .expression lastTokens last)
      (rightKind : right.kind = .closeCurly) :
      Reads .range
        (left :: (tokens ++ colon ::
          (originTokens ++ secondColon :: (lastTokens ++ [right]))))
        (first, origin, last)

namespace Phrase

/-- The parts of expressions that may be empty. -/
def nullable : Phrase -> Bool
  | .operands _ | .indices | .further | .arguments => true
  | _ => false

/-- Nothing is read from no tokens, but for the parts that may be empty. -/
theorem Reads.ne_nil
    {phrase : Phrase}
    {tokens : List Token}
    {tree : phrase.Tree}
    (reads : phrase.Reads tokens tree)
    (solid : phrase.nullable = false) :
    tokens ≠ [] := by
  induction reads with
  | parenthesized _ inductionHypothesis => exact inductionHypothesis rfl
  | aggregate _ inductionHypothesis => exact inductionHypothesis rfl
  | bare _ _ inductionHypothesis => exact inductionHypothesis rfl
  | element _ _ inductionHypothesis =>
      exact List.append_ne_nil_of_left_ne_nil (inductionHypothesis rfl) _
  | subvector _ _ inductionHypothesis =>
      exact List.append_ne_nil_of_left_ne_nil (inductionHypothesis rfl) _
  | submatrix _ _ _ inductionHypothesis =>
      exact List.append_ne_nil_of_left_ne_nil (inductionHypothesis rfl) _
  | chain _ _ inductionHypothesis =>
      exact List.append_ne_nil_of_left_ne_nil (inductionHypothesis rfl) _
  | noOperands | operand | noIndices | index | nothingFurther | further
  | noArguments | arguments =>
      cases solid
  | _ => simp

end Phrase
end MatrixLang
