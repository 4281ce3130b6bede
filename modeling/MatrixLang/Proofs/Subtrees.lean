import MatrixLang.Syntax.Module

/-!
# Subtrees

The expressions and statements that stand directly in a tree.  `Expr.Everywhere`
and `Stmt.Everywhere` say of a tree and of all the trees in it, at every depth,
that they have a property.
-/

namespace MatrixLang

/-! ## Expressions -/

namespace Expr

/-- The expressions that stand directly in an expression. -/
def children : Expr -> List Expr
  | .int _ _ | .float _ _ | .bool _ _ | .string _ _ | .reference _ _ => []
  | .call _ _ arguments => arguments
  | .unary _ _ operand => [operand]
  | .binary _ _ left right => [left, right]
  | .select _ condition onTrue onFalse => [condition, onTrue, onFalse]
  | .element _ base index => [base, index]
  | .field _ base _ => [base]
  | .subvector _ base first origin last => [base, first, origin, last]
  | .submatrix _ base firstRow originRow lastRow firstColumn originColumn
      lastColumn =>
      [base, firstRow, originRow, lastRow, firstColumn,
        originColumn, lastColumn]
  | .aggregate _ elements => elements
  | .record _ _ elements => elements

/-- An expression and all the expressions in it have a property. -/
inductive Everywhere (property : Expr -> Prop) : Expr -> Prop
  | intro
      {expr : Expr}
      (here : property expr)
      (inside : ∀ child ∈ expr.children, Everywhere property child) :
      Everywhere property expr

end Expr

/-! ## Types -/

/-- The sizes of a type. -/
def Ty.sizes : Ty -> List Expr
  | .vector _ size => [size]
  | .matrix _ rows columns => [rows, columns]
  | _ => []

/-! ## Statements -/

/-- The indices of what an assignment changes. -/
def Selector.indices : Selector -> List Expr
  | .index only => [only]
  | .cell row column => [row, column]
  | _ => []

namespace Cases

/-- The conditions of the cases. -/
def conditions : Cases -> List Expr
  | .nil => []
  | .otherwise _ _ => []
  | .cons _ condition _ rest => condition :: rest.conditions

/-- The statements of the cases, that of the default at the end. -/
def bodies : Cases -> List Stmt
  | .nil => []
  | .otherwise _ body => [body]
  | .cons _ _ body rest => body :: rest.bodies

end Cases

namespace Stmt

/--
The expressions that stand directly in a statement, those in its types included.
-/
def expressions : Stmt -> List Expr
  | .define _ type _ value => value :: type.sizes
  | .declare _ type _ => type.sizes
  | .returnValue _ value => [value]
  | .assign _ target value => value :: target.selector.indices
  | .call _ _ arguments => arguments
  | .forLoop _ _ init condition _ step _ => [init, condition, step]
  | .foreachLoop _ iterator source _ => source :: iterator.type.sizes
  | .ifThen _ condition _ => [condition]
  | .ifElse _ condition _ _ => [condition]
  | .switch _ test cases => test :: cases.conditions
  | .block _ _ => []

/-- The statements that stand directly in a statement. -/
def children : Stmt -> List Stmt
  | .define _ _ _ _ | .declare _ _ _ | .returnValue _ _ | .assign _ _
      _ | .call _ _ _ => []
  | .forLoop _ _ _ _ _ _ body => [body]
  | .foreachLoop _ _ _ body => [body]
  | .ifThen _ _ body => [body]
  | .ifElse _ _ thenBody elseBody => [thenBody, elseBody]
  | .switch _ _ cases => cases.bodies
  | .block _ statements => statements

/--
A statement and all the statements in it have a property, and so have all
expressions in it.
-/
inductive Everywhere
    (property : Stmt -> Prop)
    (exprProperty : Expr -> Prop) : Stmt -> Prop
  | intro
      {statement : Stmt}
      (here : property statement)
      (expressions : ∀ expr ∈ statement.expressions,
        expr.Everywhere exprProperty)
      (inside : ∀ child ∈ statement.children,
        Everywhere property exprProperty child) :
      Everywhere property exprProperty statement

end Stmt
end MatrixLang
