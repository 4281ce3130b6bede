import MatrixLang.Grammar.Expression

/-!
# The grammar of types

Scalar types, sized vectors and matrices, and record types by name.
-/

namespace MatrixLang
namespace Grammar

open MatrixLang.Parser

/-- The type of the elements of a vector or matrix. -/
def scalar : Parser Scalar := do
  let token ← current
  match token.kind with
  | .intWord => do
      skip
      pure .int
  | .floatWord => do
      skip
      pure .float
  | _ => unexpected Expected.scalar

/-- The type of the elements, between angle brackets. -/
def elementType : Parser Scalar := do
  pass .less
  let element ← scalar
  pass .greater
  pure element

/-- A size, between brackets. -/
def size : Parser Expr :=
  enclosed .openBracket .closeBracket

/-- The type of vectors of a size. -/
def vectorType : Parser Ty := do
  pass .vectorWord
  let element ← elementType
  let length ← size
  pure (.vector element length)

/-- The type of matrices with some rows and columns. -/
def matrixType : Parser Ty := do
  pass .matrixWord
  let element ← elementType
  let rows ← size
  let columns ← size
  pure (.matrix element rows columns)

/-- A type that is one token. -/
def simpleType (type : Ty) : Parser Ty := do
  skip
  pure type

/-- A type. -/
def type : Parser Ty := do
  let token ← current
  match token.kind with
  | .intWord => simpleType .int
  | .floatWord => simpleType .float
  | .boolWord => simpleType .bool
  | .voidWord => simpleType .void
  | .stringWord => simpleType .string
  | .vectorWord => vectorType
  | .matrixWord => matrixType
  | .identifier => simpleType (.record token.spelling)
  | _ => unexpected Expected.type

/-- Whether a binding may change. -/
def mutability : Parser Bool := do
  let token ← current
  match token.kind with
  | .valWord => do
      skip
      pure false
  | .varWord => do
      skip
      pure true
  | _ => unexpected Expected.binding

/-- A typed name that is fixed or may change. -/
def binding : Parser Binding := do
  let position ← here
  let mutable ← mutability
  let type ← type
  let name ← expect .identifier
  pure ⟨mutable, type, name, position⟩

end Grammar
end MatrixLang
