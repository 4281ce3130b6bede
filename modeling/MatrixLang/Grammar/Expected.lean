import MatrixLang.Token.Kind

/-!
# Expected kinds

The kinds that are reported as expected where several could go on.
-/

namespace MatrixLang
namespace Expected

/-- A declaration starts with one of these kinds. -/
def declaration : List Token.Kind :=
  [.functionWord, .recordWord]

/-- A statement starts with one of these kinds. -/
def statement : List Token.Kind :=
  [.valWord, .varWord, .returnWord, .identifier, .forWord, .foreachWord,
    .ifWord, .switchWord, .openCurly]

/-- A block goes on with a statement or ends. -/
def block : List Token.Kind :=
  statement ++ [.closeCurly]

/-- A type starts with one of these kinds. -/
def type : List Token.Kind :=
  [.intWord, .floatWord, .boolWord, .voidWord, .stringWord, .vectorWord,
    .matrixWord, .identifier]

/-- The elements of vectors and matrices have one of these types. -/
def scalar : List Token.Kind :=
  [.intWord, .floatWord]

/-- A binding starts with one of these kinds. -/
def binding : List Token.Kind :=
  [.valWord, .varWord]

/-- A record type goes on with a binding or ends. -/
def record : List Token.Kind :=
  binding ++ [.closeCurly]

/-- A switch goes on with a case or its default, or ends. -/
def switch : List Token.Kind :=
  [.caseWord, .defaultWord, .closeCurly]

/-- Behind its default a switch goes on with a case or ends. -/
def switchAfterDefault : List Token.Kind :=
  [.caseWord, .closeCurly]

/-- An expression starts, behind its prefixed signs, with one of these kinds. -/
def atom : List Token.Kind :=
  [.intLiteral, .floatLiteral, .boolLiteral, .stringLiteral, .identifier,
    .openParen, .openBracket, .atSign]

/-- A list between parentheses goes on or ends with one of these kinds. -/
def separator : List Token.Kind :=
  [.comma, .closeParen]

end Expected
end MatrixLang
