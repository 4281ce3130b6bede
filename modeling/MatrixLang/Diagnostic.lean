import MatrixLang.Text.Basic
import MatrixLang.Token.Basic

/-!
# Diagnostics

Why parsing stopped, and where.  A diagnostic has a name, a message and, where
it helps, a tip.  It is shown to a reader with the file, the source line behind
a gutter with the line number, and a caret under the column.
-/

namespace MatrixLang

/-- Why parsing stopped. -/
inductive Cause
  /-- A token does not continue what has been read; some other kinds would. -/
  | unexpected (found : Token) (expected : List Token.Kind)
  /-- The scanner could not read a token. -/
  | lexical (token : Token)
  /-- A literal has no value of its type. -/
  | number (token : Token)
deriving DecidableEq

namespace Cause

/-- The token that stopped parsing. -/
def token : Cause -> Token
  | .unexpected found _ => found
  | .lexical token => token
  | .number token => token

/-- The kinds that would have been accepted, where that is known. -/
def expected? : Cause -> Option (List Token.Kind)
  | .unexpected _ expected => some expected
  | .lexical _ | .number _ => none

/-- The name of a cause. -/
def name : Cause -> String
  | .unexpected .. => "UnexpectedToken"
  | .lexical _ => "LexicalError"
  | .number _ => "NumberParseError"

/--
Kinds in a message: their descriptions in backquotes, with commas between them.
-/
def kindList (kinds : List Token.Kind) : String :=
  Text.commaSeparated (kinds.map fun kind => "`" ++ kind.describe ++ "`")

/-- The message of a cause. -/
def message : Cause -> String
  | .unexpected found expected =>
      "unexpected token `" ++ found.spelling ++
        "`, expected one of: " ++ kindList expected
  | .lexical token => "lexical error at `" ++ token.spelling ++ "`"
  | .number token => "error parsing number: " ++ Text.quoted token.spelling

/-- A tip; the source line alone explains text that cannot be read. -/
def tip? : Cause -> Option String
  | .unexpected found expected =>
      some ("found `" ++ found.spelling ++
        "`, expected one of: " ++ kindList expected)
  | .lexical _ => none
  | .number token =>
      some ("Invalid number: `" ++ token.spelling ++
        "`, is it outside the 32-bit range?")

end Cause

/-- A failure of parsing at a position. -/
structure Diagnostic where
  /-- Why parsing stopped. -/
  cause : Cause
  /-- The position to which the failure refers. -/
  position : Position
deriving DecidableEq

namespace Diagnostic

/-- A failure refers to the position of its token. -/
def ofCause (cause : Cause) : Diagnostic :=
  ⟨cause, cause.token.position⟩

/-- The message of a failure, with its position. -/
def message (diagnostic : Diagnostic) : String :=
  diagnostic.cause.message ++ " at " ++ diagnostic.position.text

/-! ## Rendering -/

/-- The blanks that are removed before a source line. -/
def isIndent (character : Char) : Bool :=
  character == ' ' || character == '\t'

/--
The gutter without a line number: a bar, aligned behind the widest number shown.
-/
def gutter (lineNumber : String) : List Char :=
  ['|'].leftpad (lineNumber.length + 2) ' '

/-- A diagnostic for a source text and the name of its file. -/
def render (diagnostic : Diagnostic) (source file : String) : String :=
  let position := diagnostic.position
  let line := ((Text.lineAt? source position).getD "").toList
  let indent := line.takeWhile isIndent
  let shown := Text.dropTrailing Text.isBlank (line.drop indent.length)
  let number := position.line.repr
  let bar := String.ofList (gutter number)
  let caret := ['^'].leftpad (max 1 (position.column - indent.length)) '-'
  let tip := (diagnostic.cause.tip?.map fun tip => " (" ++ tip ++ ")").getD ""
  "Error: " ++ diagnostic.cause.name ++ tip ++ "\n" ++
    "-> " ++ file ++ "\n" ++
    bar ++ "\n" ++
    number ++ " | " ++ String.ofList shown ++ "\n" ++
    bar ++ " " ++ String.ofList caret

end Diagnostic
end MatrixLang
