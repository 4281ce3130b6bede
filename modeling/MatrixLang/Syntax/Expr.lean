import MatrixLang.Numeral.Shortest
import MatrixLang.Position
import MatrixLang.Syntax.Operator
import MatrixLang.Text.Basic

/-!
# Expressions

Expression trees, in which every node carries a position, and their text.  The
text puts parentheses around every composite expression, so it needs no rules
of precedence.
-/

namespace MatrixLang

/-- An expression. -/
inductive Expr
  | int (position : Position) (value : Int32)
  | float (position : Position) (value : Single)
  | bool (position : Position) (value : Bool)
  | string (position : Position) (value : String)
  /-- The value of a name. -/
  | reference (position : Position) (name : String)
  /-- A call of a function by its name. -/
  | call (position : Position) (name : String) (arguments : List Expr)
  | unary (position : Position) (operator : UnaryOp) (operand : Expr)
  | binary (position : Position) (operator : BinaryOp) (left right : Expr)
  /-- The choice between two values by a condition. -/
  | select (position : Position) (condition onTrue onFalse : Expr)
  /-- An element of a vector, or a row of a matrix. -/
  | element (position : Position) (base index : Expr)
  /-- A named element of a record. -/
  | field (position : Position) (base : Expr) (name : String)
  /-- The part of a vector from `first` to `last`, counted from `origin`. -/
  | subvector (position : Position) (base first origin last : Expr)
  /-- The part of a matrix between two rows and two columns. -/
  | submatrix (position : Position) (base : Expr)
      (firstRow originRow lastRow firstColumn originColumn lastColumn : Expr)
  /-- A vector or matrix given by its elements. -/
  | aggregate (position : Position) (elements : List Expr)
  /-- A record given by the name of its type and its elements. -/
  | record (position : Position) (name : String) (elements : List Expr)

namespace Expr

/-- The position of an expression. -/
def position : Expr -> Position
  | .int position _ => position
  | .float position _ => position
  | .bool position _ => position
  | .string position _ => position
  | .reference position _ => position
  | .call position _ _ => position
  | .unary position _ _ => position
  | .binary position _ _ _ => position
  | .select position _ _ _ => position
  | .element position _ _ => position
  | .field position _ _ => position
  | .subvector position _ _ _ _ => position
  | .submatrix position _ _ _ _ _ _ _ => position
  | .aggregate position _ => position
  | .record position _ _ => position

/-- The text of a call. -/
def callText (name : String) (arguments : List String) : String :=
  name ++ "(" ++ Text.commaSeparated arguments ++ ")"

/-- The text of a range. -/
def rangeText (first origin last : String) : String :=
  "\x7b" ++ first ++ ":" ++ origin ++ ":" ++ last ++ "\x7d"

mutual

/-- The text of an expression, with parentheses around every composite one. -/
@[simp]
def text : Expr -> String
  | .int _ value => Numeral.ofInt32 value
  | .float _ value => value.text
  | .bool _ value => if value then "true" else "false"
  | .string _ value => "\"" ++ value ++ "\""
  | .reference _ name => name
  | .call _ name arguments => callText name (texts arguments)
  | .unary _ operator operand => operator.apply operand.text
  | .binary _ operator left right =>
      "(" ++ left.text ++ " " ++ operator.sign ++ " " ++ right.text ++ ")"
  | .select _ condition onTrue onFalse =>
      "(" ++ condition.text ++ " ? " ++ onTrue.text ++
        " : " ++ onFalse.text ++ ")"
  | .element _ base index => "(" ++ base.text ++ "[" ++ index.text ++ "])"
  | .field _ base name => "(" ++ base.text ++ "@" ++ name ++ ")"
  | .subvector _ base first origin last =>
      "(" ++ base.text ++ rangeText first.text origin.text last.text ++ ")"
  | .submatrix _ base firstRow originRow lastRow firstColumn originColumn
      lastColumn =>
      "(" ++ base.text ++ rangeText firstRow.text originRow.text lastRow.text ++
        rangeText firstColumn.text originColumn.text lastColumn.text ++ ")"
  | .aggregate _ elements => "[" ++ Text.commaSeparated (texts elements) ++ "]"
  | .record _ name elements =>
      "@" ++ name ++ "[" ++ Text.commaSeparated (texts elements) ++ "]"

/-- The texts of several expressions. -/
def texts : List Expr -> List String
  | [] => []
  | expr :: rest => expr.text :: texts rest

end

@[simp]
theorem texts_eq_map (exprs : List Expr) : texts exprs = exprs.map text := by
  induction exprs with
  | nil => simp [texts]
  | cons expr rest inductionHypothesis => simp [texts, inductionHypothesis]

end Expr
end MatrixLang
