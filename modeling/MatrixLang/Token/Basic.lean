import MatrixLang.Position
import MatrixLang.Token.Kind

/-!
# Tokens

A token has a kind, a spelling and the position of its first character.
-/

namespace MatrixLang

/-- A positioned token. -/
structure Token where
  /-- The kind of the token. -/
  kind : Token.Kind
  /-- The text of the token; a string literal is spelled without its quotes. -/
  spelling : String
  /-- The position of the first character of the token. -/
  position : Position
deriving DecidableEq

namespace Token

/-- The token that ends a stream. -/
def endOfFile (position : Position) : Token :=
  ⟨.endOfFile, "EOF", position⟩

/--
A token listing shows the position in a field of eight columns, the kind and the
spelling.
-/
def text (token : Token) : String :=
  String.ofList (token.position.text.toList.rightpad 8 ' ') ++
    " " ++ token.kind.name ++ " `" ++ token.spelling ++ "`"

end Token
end MatrixLang
