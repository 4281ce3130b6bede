import MatrixLang.Position

/-!
# Outlines

A uniform view of syntax trees.  Every node has a form, the category of syntax
to which it belongs, its position if it has one, some attributes, and children
that are told apart by their roles.  The rows of an outline list its nodes, each
before its children.
-/

namespace MatrixLang

/-- The categories of syntax. -/
inductive Category
  | module
  | function
  | parameter
  | record
  | element
  | iterator
  | type
  | statement
  | case
  | otherwise
  | target
  | expression
deriving DecidableEq

/-- The name of a category. -/
def Category.name : Category -> String
  | .module => "Module"
  | .function => "Function"
  | .parameter => "FormalParameter"
  | .record => "RecordTypeDeclaration"
  | .element => "RecordElementDeclaration"
  | .iterator => "IteratorDeclaration"
  | .type => "Type"
  | .statement => "Stmt"
  | .case => "Case"
  | .otherwise => "DefaultCase"
  | .target => "LeftHandIdentifier"
  | .expression => "Expr"

/-- An attribute of a node. -/
inductive Attribute
  | text (value : String)
  | number (value : Int)
  | flag (value : Bool)
deriving DecidableEq

/-- What a node says of itself. -/
structure Label where
  /-- The form of the node. -/
  form : String
  /-- The category of the node. -/
  category : Category
  /-- The position of the node, if it has one. -/
  position? : Option Position
  /-- The attributes of the node. -/
  attributes : List Attribute
deriving DecidableEq

/-- A node with its children, each in its role. -/
inductive Outline
  | node (label : Label) (children : List (String × Outline))

/-- One node in the listing of an outline. -/
structure Row where
  /-- How deep the node stands below the root. -/
  depth : Nat
  /-- The role of the node in its parent. -/
  role : String
  /-- What the node says of itself. -/
  label : Label
deriving DecidableEq

namespace Outline

mutual

/-- The rows of an outline that stands at a depth in a role. -/
def rowsAt (depth : Nat) (role : String) : Outline -> List Row
  | .node label children =>
      ⟨depth, role, label⟩ :: childRows (depth + 1) children

/-- The rows of children that stand at a depth. -/
def childRows (depth : Nat) : List (String × Outline) -> List Row
  | [] => []
  | (role, child) :: rest => rowsAt depth role child ++ childRows depth rest

end

/-- The rows of an outline, the root first. -/
def rows (outline : Outline) : List Row :=
  rowsAt 0 "root" outline

end Outline
end MatrixLang
