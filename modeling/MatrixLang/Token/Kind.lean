/-!
# Token kinds

The kinds of token, the words that are reserved, and two texts for each kind:
its name, which a token listing shows, and its description, which a diagnostic
shows.
-/

namespace MatrixLang
namespace Token

/-- The kinds of token. -/
inductive Kind
  | endOfFile
  /-- Text that the scanner could not turn into a token. -/
  | invalid
  | intLiteral
  | floatLiteral
  | boolLiteral
  | stringLiteral
  | identifier
  | openBracket
  | closeBracket
  | openCurly
  | closeCurly
  | openParen
  | closeParen
  | assignment
  | equals
  | not
  | notEquals
  | less
  | lessEquals
  | greater
  | greaterEquals
  | or
  | and
  | semicolon
  | colon
  | question
  | comma
  | atSign
  | plus
  | dash
  | slash
  | star
  | caret
  | dotProduct
  | hash
  | xDimension
  | yDimension
  | dimension
  | functionWord
  | recordWord
  | valWord
  | varWord
  | returnWord
  | forWord
  | foreachWord
  | ifWord
  | elseWord
  | switchWord
  | caseWord
  | defaultWord
  | intWord
  | floatWord
  | boolWord
  | voidWord
  | stringWord
  | vectorWord
  | matrixWord
deriving DecidableEq

namespace Kind

/-- Every kind, in the order of its declaration. -/
def all : List Kind :=
  [.endOfFile, .invalid, .intLiteral, .floatLiteral, .boolLiteral,
    .stringLiteral, .identifier, .openBracket, .closeBracket, .openCurly,
    .closeCurly, .openParen, .closeParen, .assignment, .equals, .not,
    .notEquals, .less, .lessEquals, .greater, .greaterEquals, .or, .and,
    .semicolon, .colon, .question, .comma, .atSign, .plus, .dash, .slash, .star,
    .caret, .dotProduct, .hash, .xDimension, .yDimension, .dimension,
    .functionWord, .recordWord, .valWord, .varWord, .returnWord, .forWord,
    .foreachWord, .ifWord, .elseWord, .switchWord, .caseWord, .defaultWord,
    .intWord, .floatWord, .boolWord, .voidWord, .stringWord, .vectorWord,
    .matrixWord]

/-- The name under which a token listing shows a kind. -/
def name : Kind -> String
  | .endOfFile => "EOF"
  | .invalid => "Error"
  | .intLiteral => "IntLit"
  | .floatLiteral => "FloatLit"
  | .boolLiteral => "BoolLit"
  | .stringLiteral => "StringLit"
  | .identifier => "Identifier"
  | .openBracket => "OpenBracket"
  | .closeBracket => "CloseBracket"
  | .openCurly => "OpenCurly"
  | .closeCurly => "CloseCurly"
  | .openParen => "OpenParen"
  | .closeParen => "CloseParen"
  | .assignment => "Assignment"
  | .equals => "Equals"
  | .not => "Not"
  | .notEquals => "NotEquals"
  | .less => "Less"
  | .lessEquals => "LessEquals"
  | .greater => "Greater"
  | .greaterEquals => "GreaterEquals"
  | .or => "Or"
  | .and => "And"
  | .semicolon => "Semicolon"
  | .colon => "Colon"
  | .question => "Question"
  | .comma => "Comma"
  | .atSign => "At"
  | .plus => "Plus"
  | .dash => "Dash"
  | .slash => "Slash"
  | .star => "Star"
  | .caret => "Caret"
  | .dotProduct => "DotProduct"
  | .hash => "Hash"
  | .xDimension => "XDimension"
  | .yDimension => "YDimension"
  | .dimension => "Dimension"
  | .functionWord => "Function"
  | .recordWord => "Record"
  | .valWord => "Val"
  | .varWord => "Var"
  | .returnWord => "Return"
  | .forWord => "For"
  | .foreachWord => "Foreach"
  | .ifWord => "If"
  | .elseWord => "Else"
  | .switchWord => "Switch"
  | .caseWord => "Case"
  | .defaultWord => "Default"
  | .intWord => "Int"
  | .floatWord => "Float"
  | .boolWord => "Bool"
  | .voidWord => "Void"
  | .stringWord => "String"
  | .vectorWord => "Vector"
  | .matrixWord => "Matrix"

/-- The spelling of a fixed token, or a phrase for a class of tokens. -/
def describe : Kind -> String
  | .endOfFile => "end of file"
  | .invalid => "invalid token"
  | .intLiteral => "int literal"
  | .floatLiteral => "float literal"
  | .boolLiteral => "bool literal"
  | .stringLiteral => "string literal"
  | .identifier => "identifier"
  | .openBracket => "["
  | .closeBracket => "]"
  | .openCurly => "\x7b"
  | .closeCurly => "\x7d"
  | .openParen => "("
  | .closeParen => ")"
  | .assignment => "="
  | .equals => "=="
  | .not => "!"
  | .notEquals => "!="
  | .less => "<"
  | .lessEquals => "<="
  | .greater => ">"
  | .greaterEquals => ">="
  | .or => "||"
  | .and => "&&"
  | .semicolon => ";"
  | .colon => ":"
  | .question => "?"
  | .comma => ","
  | .atSign => "@"
  | .plus => "+"
  | .dash => "-"
  | .slash => "/"
  | .star => "*"
  | .caret => "^"
  | .dotProduct => ".*"
  | .hash => "#"
  | .xDimension => ".xDimension"
  | .yDimension => ".yDimension"
  | .dimension => ".dimension"
  | .functionWord => "function"
  | .recordWord => "record"
  | .valWord => "val"
  | .varWord => "var"
  | .returnWord => "return"
  | .forWord => "for"
  | .foreachWord => "foreach"
  | .ifWord => "if"
  | .elseWord => "else"
  | .switchWord => "switch"
  | .caseWord => "case"
  | .defaultWord => "default"
  | .intWord => "int"
  | .floatWord => "float"
  | .boolWord => "bool"
  | .voidWord => "void"
  | .stringWord => "string"
  | .vectorWord => "vector"
  | .matrixWord => "matrix"

/-- The kinds that are single reserved words. -/
def keywords : List Kind :=
  [.functionWord, .recordWord, .valWord, .varWord, .returnWord, .forWord,
    .foreachWord, .ifWord, .elseWord, .switchWord, .caseWord, .defaultWord,
    .intWord, .floatWord, .boolWord, .voidWord, .stringWord, .vectorWord,
    .matrixWord]

/--
The reserved words with their kinds: every keyword under its own spelling, and
the two words that are bool literals.
-/
def reserved : List (String × Kind) :=
  keywords.map (fun kind => (kind.describe, kind)) ++
    [("true", .boolLiteral), ("false", .boolLiteral)]

/-- The kind of a reserved word. -/
def ofReserved? (word : String) : Option Kind :=
  reserved.lookup word

/-- The kind of any word: its reserved kind, or an identifier. -/
def ofWord (word : String) : Kind :=
  (ofReserved? word).getD .identifier

/-- Every kind is listed. -/
theorem mem_all (kind : Kind) : kind ∈ all := by
  cases kind <;> decide

end Kind
end Token
end MatrixLang
