import MatrixLang.Grammar.Statement

/-!
# The grammar of declarations

Functions, record types and modules.
-/

namespace MatrixLang
namespace Grammar

open MatrixLang.Parser

/-- A parameter of a function. -/
def parameter : Parser Parameter := do
  let position ← here
  let type ← type
  let name ← expect .identifier
  pure ⟨type, name, position⟩

/-- The parameters of a function behind the first one. -/
def furtherParameters : Parser (List Parameter) :=
  furtherItems parameter (apply .parameters)

/-- A function. -/
def function : Parser Function := do
  let position ← here
  pass .functionWord
  let returnType ← type
  let name ← expect .identifier
  let parameters ← parenthesized parameter (apply .parameters)
  let body ← block
  pure ⟨returnType, name, parameters, body, position⟩

/-- An element of a record type. -/
def recordElement : Parser Binding := do
  let element ← binding
  pass .semicolon
  pure element

/-- The elements of a record type behind the first one. -/
def furtherRecordElements : Parser (List Binding) := do
  let token ← current
  if token.kind = .closeCurly then
    pure []
  else if token.kind ∈ Expected.binding then do
    let first ← recordElement
    let rest ← apply .bindings
    pure (first :: rest)
  else
    unexpected Expected.record

/-- A record type, which has at least one element. -/
def record : Parser Record := do
  let position ← here
  pass .recordWord
  let name ← expect .identifier
  pass .openCurly
  let first ← recordElement
  let rest ← apply .bindings
  pass .closeCurly
  pure ⟨name, first :: rest, position⟩

/-- The declarations of a module up to the end of the file. -/
def declarations : Parser (List Declaration) := do
  let token ← current
  match token.kind with
  | .functionWord => do
      let first ← function
      emit (.parsedFunction first.name first.position)
      let rest ← apply .declarations
      pure (.function first :: rest)
  | .recordWord => do
      let first ← record
      emit (.parsedRecord first.name first.position)
      let rest ← apply .declarations
      pure (.record first :: rest)
  | .endOfFile => pure []
  | _ => unexpected Expected.declaration

/-- A module. -/
def module : Parser Module := do
  let position ← here
  let list ← apply .declarations
  let module := Module.ofDeclarations position list
  emit (.parsedModule module.functions.length module.records.length)
  pure module

end Grammar

/-- The parser of a rule. -/
def Rule.body : (rule : Rule) -> Parser rule.Result
  | .expression => Grammar.selection
  | .power => Grammar.power
  | .operands level => Grammar.operands level
  | .indices => Grammar.indices
  | .arguments => Grammar.furtherArguments
  | .elements => Grammar.furtherElements
  | .statement => Grammar.statement
  | .statements => Grammar.statements
  | .parameters => Grammar.furtherParameters
  | .bindings => Grammar.furtherRecordElements
  | .clauses afterDefault => Grammar.clauses afterDefault
  | .declarations => Grammar.declarations

end MatrixLang
