import MatrixLang.Grammar.Ty

/-!
# The grammar of statements

Each form of statement starts with a kind of token of its own, which
`Grammar.statementForm?` looks up.
-/

namespace MatrixLang
namespace Grammar

open MatrixLang.Parser

/-- The definition of a fixed value. -/
def define : Parser Stmt := do
  let position ← here
  pass .valWord
  let type ← type
  let name ← expect .identifier
  pass .assignment
  let value ← expression
  pass .semicolon
  pure (.define position type name value)

/-- The declaration of a variable. -/
def declare : Parser Stmt := do
  let position ← here
  pass .varWord
  let type ← type
  let name ← expect .identifier
  pass .semicolon
  pure (.declare position type name)

/-- The end of a function with its result. -/
def returnValue : Parser Stmt := do
  let position ← here
  pass .returnWord
  let value ← expression
  pass .semicolon
  pure (.returnValue position value)

/-- What an assignment changes, behind its name. -/
def selector : Parser Selector := do
  let token ← current
  match token.kind with
  | .openBracket => do
      let index ← enclosed .openBracket .closeBracket
      let token ← current
      if token.kind = .openBracket then do
        let column ← enclosed .openBracket .closeBracket
        pure (.cell index column)
      else
        pure (.index index)
  | .atSign => do
      skip
      let name ← expect .identifier
      pure (.field name)
  | _ => pure .whole

/-- An assignment behind the name of its target. -/
def assignmentTo (position : Position) (name : String) : Parser Stmt := do
  let selector ← selector
  pass .assignment
  let value ← expression
  pure (.assign position ⟨name, selector, position⟩ value)

/-- A call if a parenthesis follows the name, and an assignment otherwise. -/
def assignOrCallOf (position : Position) (name : String) : Parser Stmt := do
  let token ← current
  if token.kind = .openParen then do
    let list ← arguments
    pure (.call position name list)
  else
    assignmentTo position name

/-- A call or an assignment. -/
def assignOrCall : Parser Stmt := do
  let position ← here
  let name ← expect .identifier
  let statement ← assignOrCallOf position name
  pass .semicolon
  pure statement

/-- A statement of any form, behind some other token. -/
def body : Parser Stmt :=
  apply .statement

/-- A loop with a start, a condition and a step. -/
def forLoop : Parser Stmt := do
  let position ← here
  pass .forWord
  pass .openParen
  let counter ← expect .identifier
  pass .assignment
  let init ← expression
  pass .semicolon
  let condition ← expression
  pass .semicolon
  let stepVariable ← expect .identifier
  pass .assignment
  let step ← expression
  pass .closeParen
  let body ← body
  pure (.forLoop position counter init condition stepVariable step body)

/-- A loop over the elements of a value. -/
def foreachLoop : Parser Stmt := do
  let position ← here
  pass .foreachWord
  pass .openParen
  let iterator ← binding
  pass .colon
  let source ← expression
  pass .closeParen
  let body ← body
  pure (.foreachLoop position iterator source body)

/-- A conditional; an `else` belongs to the nearest one. -/
def conditional : Parser Stmt := do
  let position ← here
  pass .ifWord
  let condition ← enclosed .openParen .closeParen
  let thenBody ← body
  let token ← current
  if token.kind = .elseWord then do
    skip
    let elseBody ← body
    pure (.ifElse position condition thenBody elseBody)
  else
    pure (.ifThen position condition thenBody)

/-- A case of a switch. -/
def case : Parser Clause := do
  let position ← here
  pass .caseWord
  let condition ← expression
  pass .colon
  let body ← body
  pure (.case position condition body)

/-- The default of a switch. -/
def otherwise : Parser Clause := do
  let position ← here
  pass .defaultWord
  pass .colon
  let body ← body
  pure (.otherwise position body)

/-- The clauses of a switch, of which at most one is the default. -/
def clauses (afterDefault : Bool) : Parser (List Clause) := do
  let token ← current
  if token.kind = .caseWord then do
    let first ← case
    let rest ← apply (.clauses afterDefault)
    pure (first :: rest)
  else if token.kind = .defaultWord ∧ afterDefault = false then do
    let first ← otherwise
    let rest ← apply (.clauses true)
    pure (first :: rest)
  else if token.kind = .closeCurly then
    pure []
  else
    unexpected
      (if afterDefault then Expected.switchAfterDefault else Expected.switch)

/-- A switch with any number of cases and at most one default. -/
def switch : Parser Stmt := do
  let position ← here
  pass .switchWord
  let test ← enclosed .openParen .closeParen
  pass .openCurly
  let list ← apply (.clauses false)
  pass .closeCurly
  pure (.switch position test (.ofClauses list))

/-- Statements between braces. -/
def block : Parser (List Stmt) := do
  pass .openCurly
  let list ← apply .statements
  pass .closeCurly
  pure list

/-- Statements between braces as one statement. -/
def compound : Parser Stmt := do
  let position ← here
  let list ← block
  pure (.block position list)

/-- The form of statement that starts with a kind of token. -/
def statementForm? : Token.Kind -> Option (Parser Stmt)
  | .valWord => some define
  | .varWord => some declare
  | .returnWord => some returnValue
  | .identifier => some assignOrCall
  | .forWord => some forLoop
  | .foreachWord => some foreachLoop
  | .ifWord => some conditional
  | .switchWord => some switch
  | .openCurly => some compound
  | _ => none

/-- A statement. -/
def statement : Parser Stmt := do
  let token ← current
  (statementForm? token.kind).getD (unexpected Expected.statement)

/-- The statements of a block up to its closing brace. -/
def statements : Parser (List Stmt) := do
  let token ← current
  if token.kind = .closeCurly then
    pure []
  else if token.kind ∈ Expected.statement then do
    let first ← statement
    let rest ← apply .statements
    pure (first :: rest)
  else
    unexpected Expected.block

end Grammar
end MatrixLang
