import MatrixLang.Diagnostic
import MatrixLang.Proofs.Reading.Statement
import MatrixLang.Syntax.Stmt
import MatrixLang.Syntax.Module

/-!
# Relabeled tokens and trees

A relabeling maps positions, names and the texts of string literals.  It acts on
tokens by their kinds, on trees node by node, and on the failures of parsing
through their tokens.
-/

namespace MatrixLang

/-- A map of positions, names and the texts of string literals. -/
structure Relabeling where
  /-- Where a position goes. -/
  position : Position -> Position
  /-- What becomes of a name. -/
  name : String -> String
  /-- What becomes of the text of a string literal. -/
  string : String -> String

namespace Relabeling

/--
What becomes of the spelling of a token of a kind; only names and strings
change.
-/
def spelling (labels : Relabeling) : Token.Kind -> String -> String
  | .identifier => labels.name
  | .stringLiteral => labels.string
  | _ => id

end Relabeling

/-- A token at its new position with its new spelling. -/
def Token.relabel (labels : Relabeling) (token : Token) : Token where
  kind := token.kind
  spelling := labels.spelling token.kind token.spelling
  position := labels.position token.position

@[simp]
theorem Token.kind_relabel
    (labels : Relabeling)
    (token : Token) :
    (token.relabel labels).kind = token.kind :=
  rfl

/-- A cause of a failure at the new token. -/
def Cause.relabel (labels : Relabeling) : Cause -> Cause
  | .unexpected found expected => .unexpected (found.relabel labels) expected
  | .lexical token => .lexical (token.relabel labels)
  | .number token => .number (token.relabel labels)

/-- A failure at its new position. -/
def Diagnostic.relabel
    (labels : Relabeling)
    (diagnostic : Diagnostic) : Diagnostic where
  cause := diagnostic.cause.relabel labels
  position := labels.position diagnostic.position

/-! ## Expressions and types -/

namespace Expr

mutual

/-- An expression with its new positions, names and strings. -/
@[simp]
def relabel (labels : Relabeling) : Expr -> Expr
  | .int position value => .int (labels.position position) value
  | .float position value => .float (labels.position position) value
  | .bool position value => .bool (labels.position position) value
  | .string position value =>
      .string (labels.position position) (labels.string value)
  | .reference position name =>
      .reference (labels.position position) (labels.name name)
  | .call position name arguments =>
      .call (labels.position position) (labels.name name)
        (relabelAll labels arguments)
  | .unary position operator operand =>
      .unary (labels.position position) operator (relabel labels operand)
  | .binary position operator left right =>
      .binary (labels.position position) operator (relabel labels left)
        (relabel labels right)
  | .select position condition onTrue onFalse =>
      .select (labels.position position) (relabel labels condition)
        (relabel labels onTrue)
        (relabel labels onFalse)
  | .element position base index =>
      .element (labels.position position) (relabel labels base)
        (relabel labels index)
  | .field position base name =>
      .field (labels.position position) (relabel labels base) (labels.name name)
  | .subvector position base first origin last =>
      .subvector (labels.position position) (relabel labels base)
        (relabel labels first)
        (relabel labels origin) (relabel labels last)
  | .submatrix position base firstRow originRow lastRow firstColumn originColumn
      lastColumn =>
      .submatrix (labels.position position) (relabel labels base)
        (relabel labels firstRow)
        (relabel labels originRow) (relabel labels lastRow)
          (relabel labels firstColumn)
        (relabel labels originColumn) (relabel labels lastColumn)
  | .aggregate position elements =>
      .aggregate (labels.position position) (relabelAll labels elements)
  | .record position name elements =>
      .record (labels.position position) (labels.name name)
        (relabelAll labels elements)

/-- Several expressions, each relabeled. -/
def relabelAll (labels : Relabeling) : List Expr -> List Expr
  | [] => []
  | expr :: rest => relabel labels expr :: relabelAll labels rest

end

@[simp]
theorem relabelAll_eq_map
    (labels : Relabeling)
    (exprs : List Expr) :
    relabelAll labels exprs = exprs.map (relabel labels) := by
  induction exprs with
  | nil => rw [relabelAll, List.map_nil]
  | cons expr rest inductionHypothesis =>
      rw [relabelAll, List.map_cons, inductionHypothesis]

/-- Indices are relabeled with what they are applied to. -/
theorem relabel_foldl_element
    (labels : Relabeling)
    (position : Position)
    (base : Expr)
    (list : List Expr) :
    (list.foldl (.element position) base).relabel labels =
      (list.map (relabel labels)).foldl (.element (labels.position position))
        (base.relabel labels) := by
  induction list generalizing base with
  | nil => rfl
  | cons index list inductionHypothesis =>
      rw [List.foldl_cons, inductionHypothesis, List.map_cons, List.foldl_cons,
        relabel]

/-- Operands are relabeled with what they are applied to. -/
theorem relabel_foldl_binary
    (labels : Relabeling)
    (position : Position)
    (first : Expr)
    (pairs : List (BinaryOp × Expr)) :
    (pairs.foldl (fun left pair => .binary position pair.1 left pair.2)
        first).relabel labels =
      (pairs.map (Prod.map id (relabel labels))).foldl
        (fun left pair => .binary (labels.position position) pair.1 left pair.2)
        (first.relabel labels) := by
  induction pairs generalizing first with
  | nil => rfl
  | cons pair pairs inductionHypothesis =>
      rw [List.foldl_cons, inductionHypothesis, List.map_cons, List.foldl_cons,
        relabel]
      rfl

end Expr

/-- A type with its sizes and its name relabeled. -/
@[simp]
def Ty.relabel (labels : Relabeling) : Ty -> Ty
  | .int => .int
  | .float => .float
  | .bool => .bool
  | .void => .void
  | .string => .string
  | .vector element size => .vector element (size.relabel labels)
  | .matrix element rows columns =>
      .matrix element (rows.relabel labels) (columns.relabel labels)
  | .record name => .record (labels.name name)

/-- A binding at its new position with its new name. -/
def Binding.relabel (labels : Relabeling) (binding : Binding) : Binding where
  mutable := binding.mutable
  type := binding.type.relabel labels
  name := labels.name binding.name
  position := labels.position binding.position

/-! ## Statements -/

/-- A selector with its parts relabeled. -/
@[simp]
def Selector.relabel (labels : Relabeling) : Selector -> Selector
  | .whole => .whole
  | .index place => .index (place.relabel labels)
  | .cell row column => .cell (row.relabel labels) (column.relabel labels)
  | .field name => .field (labels.name name)

/-- A target at its new position with its new name. -/
def Target.relabel (labels : Relabeling) (target : Target) : Target where
  name := labels.name target.name
  selector := target.selector.relabel labels
  position := labels.position target.position

namespace Stmt

mutual

/-- A statement with its new positions, names and strings. -/
@[simp]
def relabel (labels : Relabeling) : Stmt -> Stmt
  | .define position type name value =>
      .define (labels.position position) (type.relabel labels)
        (labels.name name)
        (value.relabel labels)
  | .declare position type name =>
      .declare (labels.position position) (type.relabel labels)
        (labels.name name)
  | .returnValue position value =>
      .returnValue (labels.position position) (value.relabel labels)
  | .assign position target value =>
      .assign (labels.position position) (target.relabel labels)
        (value.relabel labels)
  | .call position name arguments =>
      .call (labels.position position) (labels.name name)
        (arguments.map (Expr.relabel labels))
  | .forLoop position counter init condition stepVariable step body =>
      .forLoop (labels.position position) (labels.name counter)
        (init.relabel labels)
        (condition.relabel labels) (labels.name stepVariable)
          (step.relabel labels)
        (relabel labels body)
  | .foreachLoop position iterator source body =>
      .foreachLoop (labels.position position) (iterator.relabel labels)
        (source.relabel labels) (relabel labels body)
  | .ifThen position condition body =>
      .ifThen (labels.position position) (condition.relabel labels)
        (relabel labels body)
  | .ifElse position condition thenBody elseBody =>
      .ifElse (labels.position position) (condition.relabel labels)
        (relabel labels thenBody) (relabel labels elseBody)
  | .switch position test cases =>
      .switch (labels.position position) (test.relabel labels)
        (relabelCases labels cases)
  | .block position statements =>
      .block (labels.position position) (relabelAll labels statements)

/-- The cases of a switch, each relabeled. -/
@[simp]
def relabelCases (labels : Relabeling) : Cases -> Cases
  | .nil => .nil
  | .otherwise position body =>
      .otherwise (labels.position position) (relabel labels body)
  | .cons position condition body rest =>
      .cons (labels.position position) (condition.relabel labels)
        (relabel labels body)
        (relabelCases labels rest)

/-- Several statements, each relabeled. -/
def relabelAll (labels : Relabeling) : List Stmt -> List Stmt
  | [] => []
  | statement :: rest => relabel labels statement :: relabelAll labels rest

end

@[simp]
theorem relabelAll_eq_map
    (labels : Relabeling)
    (statements : List Stmt) :
    relabelAll labels statements = statements.map (relabel labels) := by
  induction statements with
  | nil => rw [relabelAll, List.map_nil]
  | cons statement rest inductionHypothesis =>
      rw [relabelAll, List.map_cons, inductionHypothesis]

/--
Whether an `else` would belong to a statement does not depend on positions and
names.
-/
theorem endsOpen_relabel
    (labels : Relabeling)
    (statement : Stmt) :
    (statement.relabel labels).endsOpen = statement.endsOpen := by
  induction statement using Stmt.endsOpen.induct with
  | case1 => simp only [relabel, endsOpen]
  | case2 _ _ _ _ inductionHypothesis =>
      simpa only [relabel, endsOpen] using inductionHypothesis
  | case3 _ _ _ _ _ _ _ inductionHypothesis =>
      simpa only [relabel, endsOpen] using inductionHypothesis
  | case4 _ _ _ _ inductionHypothesis =>
      simpa only [relabel, endsOpen] using inductionHypothesis
  | case5 statement notThen notElse notFor notForeach =>
      cases statement with
      | ifThen position condition body =>
          exact absurd rfl (notThen position condition body)
      | ifElse position condition thenBody elseBody =>
          exact absurd rfl (notElse position condition thenBody elseBody)
      | forLoop position counter init condition stepVariable step body =>
          exact absurd rfl
            (notFor position counter init condition stepVariable step body)
      | foreachLoop position iterator source body =>
          exact absurd rfl (notForeach position iterator source body)
      | _ => simp only [relabel, endsOpen]

end Stmt

/-- A clause of a switch with its new positions, names and strings. -/
def Clause.relabel (labels : Relabeling) : Clause -> Clause
  | .case position condition body =>
      .case (labels.position position) (condition.relabel labels)
        (body.relabel labels)
  | .otherwise position body =>
      .otherwise (labels.position position) (body.relabel labels)

theorem Stmt.relabelCases_defaultOf
    (labels : Relabeling)
    (clauses : List Clause) :
    Stmt.relabelCases labels (.defaultOf clauses) =
      .defaultOf (clauses.map (Clause.relabel labels)) := by
  induction clauses with
  | nil => simp [Cases.defaultOf]
  | cons clause clauses inductionHypothesis =>
      cases clause with
      | case => exact inductionHypothesis
      | otherwise => simp [Cases.defaultOf, Clause.relabel]

/--
Bringing clauses into their normal order and relabeling them may be done in
either order.
-/
theorem Stmt.relabelCases_ofClauses
    (labels : Relabeling)
    (clauses : List Clause) :
    Stmt.relabelCases labels (.ofClauses clauses) =
      .ofClauses (clauses.map (Clause.relabel labels)) := by
  rw [Cases.ofClauses, Cases.ofClauses, ← Stmt.relabelCases_defaultOf]
  generalize Cases.defaultOf clauses = last
  induction clauses with
  | nil => rfl
  | cons clause clauses inductionHypothesis =>
      cases clause with
      | case => simp [Clause.relabel, inductionHypothesis]
      | otherwise => simp [Clause.relabel, inductionHypothesis]

/-! ## Declarations -/

/-- A parameter at its new position with its new name. -/
def Parameter.relabel
    (labels : Relabeling)
    (parameter : Parameter) : Parameter where
  type := parameter.type.relabel labels
  name := labels.name parameter.name
  position := labels.position parameter.position

/-- A function with its new positions, names and strings. -/
def Function.relabel
    (labels : Relabeling)
    (function : Function) : Function where
  returnType := function.returnType.relabel labels
  name := labels.name function.name
  parameters := function.parameters.map (Parameter.relabel labels)
  body := function.body.map (Stmt.relabel labels)
  position := labels.position function.position

/-- A record type with its new positions, names and strings. -/
def Record.relabel (labels : Relabeling) (record : Record) : Record where
  name := labels.name record.name
  elements := record.elements.map (Binding.relabel labels)
  position := labels.position record.position

/-- A declaration with its new positions, names and strings. -/
def Declaration.relabel (labels : Relabeling) : Declaration -> Declaration
  | .function declared => .function (declared.relabel labels)
  | .record declared => .record (declared.relabel labels)

/-- A module with its new positions, names and strings. -/
def Module.relabel (labels : Relabeling) (module : Module) : Module where
  functions := module.functions.map (Function.relabel labels)
  records := module.records.map (Record.relabel labels)
  position := labels.position module.position

/-- Relabeling the declarations of a module relabels the module. -/
theorem Module.relabel_ofDeclarations
    (labels : Relabeling)
    (position : Position)
    (list : List Declaration) :
    (ofDeclarations position list).relabel labels =
      ofDeclarations (labels.position position)
        (list.map (Declaration.relabel labels)) := by
  simp only [ofDeclarations, Module.relabel, List.map_filterMap,
    List.filterMap_map]
  congr 2
  · funext declaration
    cases declaration <;> rfl
  · funext declaration
    cases declaration <;> rfl

end MatrixLang
