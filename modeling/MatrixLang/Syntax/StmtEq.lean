import MatrixLang.Syntax.Stmt

/-!
# Equality of statements

Statements are compared node by node, positions included; `Stmt.same_iff` says
that the comparison decides equality.
-/

namespace MatrixLang
namespace Stmt

mutual

/-- Two statements agree in every node. -/
def same : Stmt -> Stmt -> Bool
  | .define position type name value, .define position' type' name' value' =>
      position == position' && type == type' && name == name' && value == value'
  | .declare position type name, .declare position' type' name' =>
      position == position' && type == type' && name == name'
  | .returnValue position value, .returnValue position' value' =>
      position == position' && value == value'
  | .assign position target value, .assign position' target' value' =>
      position == position' && target == target' && value == value'
  | .call position name arguments, .call position' name' arguments' =>
      position == position' && name == name' && arguments == arguments'
  | .forLoop position counter init condition stepVariable step body,
      .forLoop position' counter' init' condition' stepVariable' step' body' =>
      position == position' && counter == counter' && init == init' &&
        condition == condition' && stepVariable == stepVariable' &&
          step == step' &&
        body.same body'
  | .foreachLoop position iterator source body, .foreachLoop position' iterator'
      source' body' =>
      position == position' && iterator == iterator' &&
        source == source' && body.same body'
  | .ifThen position condition body, .ifThen position' condition' body' =>
      position == position' && condition == condition' && body.same body'
  | .ifElse position condition thenBody elseBody,
      .ifElse position' condition' thenBody' elseBody' =>
      position == position' && condition == condition' &&
        thenBody.same thenBody' &&
        elseBody.same elseBody'
  | .switch position test cases, .switch position' test' cases' =>
      position == position' && test == test' && sameCases cases cases'
  | .block position statements, .block position' statements' =>
      position == position' && sameAll statements statements'
  | _, _ => false

/-- The cases of two switches agree in every node. -/
def sameCases : Cases -> Cases -> Bool
  | .nil, .nil => true
  | .otherwise position body, .otherwise position' body' =>
      position == position' && body.same body'
  | .cons position condition body rest, .cons position' condition' body'
      rest' =>
      position == position' && condition == condition' &&
        body.same body' && sameCases rest rest'
  | _, _ => false

/-- Two lists of statements agree in every node. -/
def sameAll : List Stmt -> List Stmt -> Bool
  | [], [] => true
  | statement :: rest, statement' :: rest' =>
      statement.same statement' && sameAll rest rest'
  | _, _ => false

end

mutual

/-- Agreement in every node is equality. -/
theorem same_iff
    (left right : Stmt) :
    left.same right = true ↔ left = right := by
  cases left with
  | define | declare | returnValue | assign | call =>
      cases right <;> simp [same, and_assoc]
  | forLoop position counter init condition stepVariable step body =>
      cases right <;> simp [same, same_iff body, and_assoc]
  | foreachLoop position iterator source body =>
      cases right <;> simp [same, same_iff body, and_assoc]
  | ifThen position condition body =>
      cases right <;> simp [same, same_iff body, and_assoc]
  | ifElse position condition thenBody elseBody =>
      cases right <;> simp [same, same_iff thenBody,
        same_iff elseBody, and_assoc]
  | switch position test cases =>
      cases right <;> simp [same, sameCases_iff cases, and_assoc]
  | block position statements =>
      cases right <;> simp [same, sameAll_iff statements]

/-- Agreement in every node is equality of cases. -/
theorem sameCases_iff
    (left right : Cases) :
    sameCases left right = true ↔ left = right := by
  cases left with
  | nil => cases right <;> simp [sameCases]
  | otherwise position body => cases right <;> simp [sameCases, same_iff body]
  | cons position condition body rest =>
      cases right <;> simp [sameCases, same_iff body,
        sameCases_iff rest, and_assoc]

/-- Agreement in every node is equality of lists. -/
theorem sameAll_iff
    (left right : List Stmt) :
    sameAll left right = true ↔ left = right := by
  cases left with
  | nil => cases right <;> simp [sameAll]
  | cons statement rest =>
      cases right <;> simp [sameAll, same_iff statement, sameAll_iff rest]

end

instance : DecidableEq Stmt :=
  fun left right => decidable_of_iff _ (same_iff left right)

end Stmt
end MatrixLang
