import MatrixLang.Syntax.StmtEq

/-!
# Modules

Functions, record types and the module that declares them, with their text.
The text of a module lists its records before its functions.
-/

namespace MatrixLang

/-- A parameter of a function. -/
structure Parameter where
  /-- The type of the parameter. -/
  type : Ty
  /-- The name of the parameter. -/
  name : String
  /-- The position of the parameter. -/
  position : Position
deriving DecidableEq

/-- The text of a parameter. -/
def Parameter.text (parameter : Parameter) : String :=
  parameter.type.text ++ " " ++ parameter.name

/-- A function. -/
structure Function where
  /-- The type of the result. -/
  returnType : Ty
  /-- The name of the function. -/
  name : String
  /-- The parameters in order. -/
  parameters : List Parameter
  /-- The statements of the body. -/
  body : List Stmt
  /-- The position of the function. -/
  position : Position
deriving DecidableEq

/-- The text of a function. -/
def Function.text (function : Function) : String :=
  "function " ++ function.returnType.text ++ " " ++ function.name ++ "(" ++
    Text.commaSeparated (function.parameters.map Parameter.text) ++ ") " ++
    Stmt.braced 0 (Stmt.lines 1 function.body)

/-- A record type. -/
structure Record where
  /-- The name of the record type. -/
  name : String
  /-- The elements in order. -/
  elements : List Binding
  /-- The position of the record type. -/
  position : Position
deriving DecidableEq

/-- The text of an element of a record type. -/
def Record.elementText (element : Binding) : String :=
  element.text ++ ";"

/-- The text of a record type. -/
def Record.text (record : Record) : String :=
  "record " ++ record.name ++ " " ++
    Stmt.braced 0
      (String.join (record.elements.map fun element =>
        Stmt.line 1 (Record.elementText element)))

/-- A function or a record type. -/
inductive Declaration
  | function (function : Function)
  | record (record : Record)
deriving DecidableEq

/-- The declarations of one text. -/
structure Module where
  /-- The functions in order. -/
  functions : List Function
  /-- The record types in order. -/
  records : List Record
  /-- The position of the module. -/
  position : Position
deriving DecidableEq

namespace Module

/--
Sorts declarations into functions and record types, keeping the order of each.
-/
def ofDeclarations
    (position : Position)
    (declarations : List Declaration) : Module where
  functions := declarations.filterMap fun
    | .function function => some function
    | .record _ => none
  records := declarations.filterMap fun
    | .record record => some record
    | .function _ => none
  position := position

/--
The text of a module: its records, then its functions, with blank lines between
them.
-/
def text (module : Module) : String :=
  String.intercalate "\n\n"
    (module.records.map Record.text ++ module.functions.map Function.text)

/-- The first function of a name. -/
def function? (module : Module) (name : String) : Option Function :=
  module.functions.find? fun function => function.name == name

/-- The first record type of a name. -/
def record? (module : Module) (name : String) : Option Record :=
  module.records.find? fun record => record.name == name

end Module
end MatrixLang
