import MatrixLang.Syntax.ExprEq

/-!
# Types

Type annotations and their text.  A vector or matrix type holds the expressions
that give its size.
-/

namespace MatrixLang

/-- The types of the elements of vectors and matrices. -/
inductive Scalar
  | int
  | float
deriving DecidableEq

/-- The text of an element type. -/
def Scalar.text : Scalar -> String
  | .int => "int"
  | .float => "float"

/-- A type annotation. -/
inductive Ty
  | int
  | float
  | bool
  | void
  | string
  | vector (element : Scalar) (size : Expr)
  | matrix (element : Scalar) (rows columns : Expr)
  /-- A record type, referred to by its name. -/
  | record (name : String)
deriving DecidableEq

/-- The text of a type. -/
def Ty.text : Ty -> String
  | .int => "int"
  | .float => "float"
  | .bool => "bool"
  | .void => "void"
  | .string => "string"
  | .vector element size =>
      "vector<" ++ element.text ++ ">[" ++ size.text ++ "]"
  | .matrix element rows columns =>
      "matrix<" ++ element.text ++ ">[" ++
        rows.text ++ "][" ++ columns.text ++ "]"
  | .record name => name

/--
A typed name that is fixed or may change: a record element or a loop variable.
-/
structure Binding where
  /-- The name may be assigned to. -/
  mutable : Bool
  /-- The type of the name. -/
  type : Ty
  /-- The name. -/
  name : String
  /-- The position of the binding. -/
  position : Position
deriving DecidableEq

/-- The text of a binding. -/
def Binding.text (binding : Binding) : String :=
  (if binding.mutable then "var " else "val ") ++
    binding.type.text ++ " " ++ binding.name

end MatrixLang
