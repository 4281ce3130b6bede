import MatrixLang.Syntax.Expr

/-!
# Equality of expressions

Expressions are compared node by node, positions included; `Expr.same_iff` says
that the comparison decides equality.
-/

namespace MatrixLang
namespace Expr

mutual

/-- Two expressions agree in every node. -/
def same : Expr -> Expr -> Bool
  | .int position value, .int position' value' =>
      position == position' && value == value'
  | .float position value, .float position' value' =>
      position == position' && value == value'
  | .bool position value, .bool position' value' =>
      position == position' && value == value'
  | .string position value, .string position' value' =>
      position == position' && value == value'
  | .reference position name, .reference position' name' =>
      position == position' && name == name'
  | .call position name arguments, .call position' name' arguments' =>
      position == position' && name == name' && sameAll arguments arguments'
  | .unary position operator operand, .unary position' operator' operand' =>
      position == position' && operator == operator' && operand.same operand'
  | .binary position operator left right, .binary position' operator' left'
      right' =>
      position == position' && operator == operator' &&
        left.same left' && right.same right'
  | .select position condition onTrue onFalse, .select position' condition'
      onTrue' onFalse' =>
      position == position' && condition.same condition' &&
        onTrue.same onTrue' &&
        onFalse.same onFalse'
  | .element position base index, .element position' base' index' =>
      position == position' && base.same base' && index.same index'
  | .field position base name, .field position' base' name' =>
      position == position' && base.same base' && name == name'
  | .subvector position base first origin last, .subvector position' base'
      first' origin' last' =>
      position == position' && base.same base' &&
        first.same first' && origin.same origin' &&
        last.same last'
  | .submatrix position base firstRow originRow lastRow firstColumn
    originColumn lastColumn,
      .submatrix position' base' firstRow' originRow' lastRow' firstColumn'
        originColumn'
        lastColumn' =>
      position == position' && base.same base' && firstRow.same firstRow' &&
        originRow.same originRow' && lastRow.same lastRow' &&
          firstColumn.same firstColumn' &&
        originColumn.same originColumn' && lastColumn.same lastColumn'
  | .aggregate position elements, .aggregate position' elements' =>
      position == position' && sameAll elements elements'
  | .record position name elements, .record position' name' elements' =>
      position == position' && name == name' && sameAll elements elements'
  | _, _ => false

/-- Two lists of expressions agree in every node. -/
def sameAll : List Expr -> List Expr -> Bool
  | [], [] => true
  | expr :: rest, expr' :: rest' => expr.same expr' && sameAll rest rest'
  | _, _ => false

end

mutual

/-- Agreement in every node is equality. -/
theorem same_iff
    (left right : Expr) :
    left.same right = true ↔ left = right := by
  cases left with
  | int | float | bool | string | reference => cases right <;> simp [same]
  | call position name arguments =>
      cases right <;> simp [same, sameAll_iff arguments, and_assoc]
  | unary position operator operand =>
      cases right <;> simp [same, same_iff operand, and_assoc]
  | binary position operator first second =>
      cases right <;> simp [same, same_iff first, same_iff second, and_assoc]
  | select position condition onTrue onFalse =>
      cases right <;>
        simp [same, same_iff condition, same_iff onTrue, same_iff onFalse,
          and_assoc]
  | element position base index =>
      cases right <;> simp [same, same_iff base, same_iff index, and_assoc]
  | field position base name =>
      cases right <;> simp [same, same_iff base, and_assoc]
  | subvector position base first origin last =>
      cases right <;>
        simp [same, same_iff base, same_iff first, same_iff origin,
          same_iff last, and_assoc]
  | submatrix position base firstRow originRow lastRow firstColumn originColumn
      lastColumn =>
      cases right <;>
        simp [same, same_iff base, same_iff firstRow, same_iff originRow,
          same_iff lastRow, same_iff firstColumn, same_iff originColumn,
          same_iff lastColumn, and_assoc]
  | aggregate position elements =>
      cases right <;> simp [same, sameAll_iff elements]
  | record position name elements =>
      cases right <;> simp [same, sameAll_iff elements, and_assoc]

/-- Agreement in every node is equality of lists. -/
theorem sameAll_iff
    (left right : List Expr) :
    sameAll left right = true ↔ left = right := by
  cases left with
  | nil => cases right <;> simp [sameAll]
  | cons expr rest =>
      cases right <;> simp [sameAll, same_iff expr, sameAll_iff rest]

end

instance : DecidableEq Expr :=
  fun left right => decidable_of_iff _ (same_iff left right)

end Expr
end MatrixLang
