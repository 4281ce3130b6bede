/-!
# Operators

The comparisons and the unary and binary operators of expressions, with the way
each one is written.
-/

namespace MatrixLang

/-- The six comparisons. -/
inductive Comparison
  | less
  | greater
  | lessEqual
  | greaterEqual
  | equal
  | notEqual
deriving DecidableEq

/-- The name of a comparison in an outline. -/
def Comparison.name : Comparison -> String
  | .less => "Less"
  | .greater => "Greater"
  | .lessEqual => "LessEqual"
  | .greaterEqual => "GreaterEqual"
  | .equal => "Equal"
  | .notEqual => "NotEqual"

/-- The sign of a comparison. -/
def Comparison.sign : Comparison -> String
  | .less => "<"
  | .greater => ">"
  | .lessEqual => "<="
  | .greaterEqual => ">="
  | .equal => "=="
  | .notEqual => "!="

/-- The operators with one operand. -/
inductive UnaryOp
  | not
  | negate
  | xDimension
  | yDimension
  | dimension
deriving DecidableEq

/-- The text of an operator applied to the text of its operand. -/
def UnaryOp.apply (operand : String) : UnaryOp -> String
  | .not => "(!" ++ operand ++ ")"
  | .negate => "(-" ++ operand ++ ")"
  | .xDimension => "(" ++ operand ++ ".xDimension)"
  | .yDimension => "(" ++ operand ++ ".yDimension)"
  | .dimension => "(" ++ operand ++ ".dimension)"

/-- The operators with two operands. -/
inductive BinaryOp
  | or
  | and
  | compare (comparison : Comparison)
  | add
  | subtract
  | multiply
  | divide
  | power
  | dotProduct
  | matrixProduct
deriving DecidableEq

/-- The sign between the operands of an operator. -/
def BinaryOp.sign : BinaryOp -> String
  | .or => "||"
  | .and => "&&"
  | .compare comparison => comparison.sign
  | .add => "+"
  | .subtract => "-"
  | .multiply => "*"
  | .divide => "/"
  | .power => "^"
  | .dotProduct => ".*"
  | .matrixProduct => "#"

end MatrixLang
