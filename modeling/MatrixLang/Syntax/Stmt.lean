import MatrixLang.Syntax.Ty

/-!
# Statements

Statement trees and their text.  `Stmt.textAt level` is the text of a statement
whose first line already stands at nesting `level`; only the further lines carry
their own indentation.  A switch is written as clauses, where the default may
stand anywhere among the cases; its tree has them in their normal order, with
the default at the end.
-/

namespace MatrixLang

/-- What an assignment changes, behind its name. -/
inductive Selector
  /-- The whole variable. -/
  | whole
  /-- One element of a vector. -/
  | index (index : Expr)
  /-- One element of a matrix. -/
  | cell (row column : Expr)
  /-- One element of a record. -/
  | field (name : String)
deriving DecidableEq

/-- The target of an assignment. -/
structure Target where
  /-- The name of the variable. -/
  name : String
  /-- The part of the variable that is assigned. -/
  selector : Selector
  /-- The position of the target. -/
  position : Position
deriving DecidableEq

/-- The text of a target. -/
def Target.text (target : Target) : String :=
  target.name ++
    match target.selector with
    | .whole => ""
    | .index index => "[" ++ index.text ++ "]"
    | .cell row column => "[" ++ row.text ++ "][" ++ column.text ++ "]"
    | .field name => "@" ++ name

mutual

/-- A statement. -/
inductive Stmt
  /-- The definition of a fixed value. -/
  | define (position : Position) (type : Ty) (name : String) (value : Expr)
  /-- The declaration of a variable. -/
  | declare (position : Position) (type : Ty) (name : String)
  | returnValue (position : Position) (value : Expr)
  | assign (position : Position) (target : Target) (value : Expr)
  /-- A call whose result is dropped. -/
  | call (position : Position) (name : String) (arguments : List Expr)
  | forLoop (position : Position) (counter : String) (init condition : Expr)
      (stepVariable : String) (step : Expr) (body : Stmt)
  | foreachLoop
      (position : Position)
      (iterator : Binding)
      (source : Expr)
      (body : Stmt)
  | ifThen (position : Position) (condition : Expr) (body : Stmt)
  | ifElse (position : Position) (condition : Expr) (thenBody elseBody : Stmt)
  | switch (position : Position) (test : Expr) (cases : Cases)
  | block (position : Position) (statements : List Stmt)

/-- The cases of a switch in order, with its default behind them. -/
inductive Cases
  /-- No further case and no default. -/
  | nil
  /-- The default. -/
  | otherwise (position : Position) (body : Stmt)
  | cons (position : Position) (condition : Expr) (body : Stmt) (rest : Cases)

end

/-- The number of cases, without the default. -/
def Cases.length : Cases -> Nat
  | .nil => 0
  | .otherwise _ _ => 0
  | .cons _ _ _ rest => rest.length + 1

/-- A default stands behind the cases. -/
def Cases.hasDefault : Cases -> Bool
  | .nil => false
  | .otherwise _ _ => true
  | .cons _ _ _ rest => rest.hasDefault

/-- Every level of nesting is two spaces deep. -/
def indentation (level : Nat) : String :=
  String.ofList (List.replicate (2 * level) ' ')

namespace Stmt

/-- The position of a statement. -/
def position : Stmt -> Position
  | .define position _ _ _ => position
  | .declare position _ _ => position
  | .returnValue position _ => position
  | .assign position _ _ => position
  | .call position _ _ => position
  | .forLoop position _ _ _ _ _ _ => position
  | .foreachLoop position _ _ _ => position
  | .ifThen position _ _ => position
  | .ifElse position _ _ _ => position
  | .switch position _ _ => position
  | .block position _ => position

/-- The head of a conditional. -/
def ifHead (condition : Expr) : String :=
  "if (" ++ condition.text ++ ") "

/-- The head of a loop with a start, a condition and a step. -/
def forHead
    (counter : String)
    (init condition : Expr)
    (stepVariable : String)
    (step : Expr) :
    String :=
  "for (" ++ counter ++ " = " ++ init.text ++ "; " ++ condition.text ++ "; " ++
    stepVariable ++ " = " ++ step.text ++ ") "

/-- The head of a loop over the elements of a value. -/
def foreachHead (iterator : Binding) (source : Expr) : String :=
  "foreach (" ++ iterator.text ++ " : " ++ source.text ++ ") "

/--
Lines between braces, of which the closing one stands at a level of nesting.
-/
def braced (level : Nat) (lines : String) : String :=
  "\x7b\n" ++ lines ++ indentation level ++ "\x7d"

/-- A text on a line of its own at a level of nesting. -/
def line (level : Nat) (text : String) : String :=
  indentation level ++ text ++ "\n"

mutual

/-- The text of a statement at a level of nesting. -/
@[simp]
def textAt (level : Nat) : Stmt -> String
  | .define _ type name value =>
      "val " ++ type.text ++ " " ++ name ++ " = " ++ value.text ++ ";"
  | .declare _ type name => "var " ++ type.text ++ " " ++ name ++ ";"
  | .returnValue _ value => "return " ++ value.text ++ ";"
  | .assign _ target value => target.text ++ " = " ++ value.text ++ ";"
  | .call _ name arguments => Expr.callText name (Expr.texts arguments) ++ ";"
  | .forLoop _ counter init condition stepVariable step body =>
      forHead counter init condition stepVariable step ++ textAt level body
  | .foreachLoop _ iterator source body =>
      foreachHead iterator source ++ textAt level body
  | .ifThen _ condition body => ifHead condition ++ textAt level body
  | .ifElse _ condition thenBody elseBody =>
      ifHead condition ++ textAt level thenBody ++
        " else " ++ textAt level elseBody
  | .switch _ test cases =>
      "switch (" ++ test.text ++ ") " ++
        braced level (casesLines (level + 1) cases)
  | .block _ statements => braced level (lines (level + 1) statements)

/-- The cases of a switch, each on a line of its own at a level of nesting. -/
def casesLines (level : Nat) : Cases -> String
  | .nil => ""
  | .otherwise _ body => line level ("default: " ++ textAt level body)
  | .cons _ condition body rest =>
      line level ("case " ++ condition.text ++ ": " ++ textAt level body) ++
        casesLines level rest

/-- Statements, each on a line of its own at a level of nesting. -/
def lines (level : Nat) : List Stmt -> String
  | [] => ""
  | statement :: rest => line level (textAt level statement) ++ lines level rest

end

/-- The text of a statement that is not nested. -/
def text (statement : Stmt) : String :=
  textAt 0 statement

end Stmt

/-! ## Clauses of a switch -/

/-- One clause of a switch. -/
inductive Clause
  | case (position : Position) (condition : Expr) (body : Stmt)
  | otherwise (position : Position) (body : Stmt)

namespace Cases

/-- The first default among some clauses, as the end of a list of cases. -/
def defaultOf : List Clause -> Cases
  | [] => .nil
  | .otherwise position body :: _ => .otherwise position body
  | .case _ _ _ :: rest => defaultOf rest

/-- Clauses in their normal order: the cases as written, then the default. -/
def ofClauses (clauses : List Clause) : Cases :=
  clauses.foldr
    (fun clause rest =>
      match clause with
      | .case position condition body => .cons position condition body rest
      | .otherwise _ _ => rest)
    (defaultOf clauses)

end Cases
end MatrixLang
