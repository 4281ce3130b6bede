import MatrixLang.Syntax.Operator
import MatrixLang.Token.Kind

/-!
# Levels of binary operators

The left-associative levels of binary operators, from the loosest to the
tightest, and the tokens that each level takes for its operators.
-/

namespace MatrixLang

/-- The comparison that a kind of token stands for. -/
def Comparison.ofKind? : Token.Kind -> Option Comparison
  | .less => some .less
  | .greater => some .greater
  | .lessEquals => some .lessEqual
  | .greaterEquals => some .greaterEqual
  | .equals => some .equal
  | .notEquals => some .notEqual
  | _ => none

/-- The left-associative levels, loosest first. -/
inductive Level
  | disjunction
  | conjunction
  | comparison
  | additive
  | multiplicative
  | dotProduct
  | matrixProduct
deriving DecidableEq, Ord

namespace Level

/-- The operator that a kind of token stands for on a level. -/
def operator? : Level -> Token.Kind -> Option BinaryOp
  | .disjunction, .or => some .or
  | .conjunction, .and => some .and
  | .comparison, kind => (Comparison.ofKind? kind).map .compare
  | .additive, .plus => some .add
  | .additive, .dash => some .subtract
  | .multiplicative, .star => some .multiply
  | .multiplicative, .slash => some .divide
  | .dotProduct, .dotProduct => some .dotProduct
  | .matrixProduct, .hash => some .matrixProduct
  | _, _ => none

/-- The end of the file is no operator. -/
theorem operator?_endOfFile
    (level : Level) :
    level.operator? .endOfFile = none := by
  cases level <;> rfl

end Level
end MatrixLang
