import MatrixLang.Outline.Basic
import MatrixLang.Syntax.Module

/-!
# Outlines of syntax trees

The outline of each kind of syntax tree.
-/

namespace MatrixLang

/-- The form of an operator with one operand. -/
def UnaryOp.form : UnaryOp -> String
  | .not => "bool_not"
  | .negate => "unary_minus"
  | .xDimension => "matrix_x_dimension"
  | .yDimension => "matrix_y_dimension"
  | .dimension => "vector_dimension"

/-- The form of an operator with two operands. -/
def BinaryOp.form : BinaryOp -> String
  | .or => "or"
  | .and => "and"
  | .compare _ => "compare"
  | .add => "addition"
  | .subtract => "subtraction"
  | .multiply => "multiplication"
  | .divide => "division"
  | .power => "exponentiation"
  | .dotProduct => "dot_product"
  | .matrixProduct => "matrix_multiplication"

/-- A comparison also names its sign. -/
def BinaryOp.attributes : BinaryOp -> List Attribute
  | .compare comparison => [.text comparison.name]
  | _ => []

namespace Expr

/-- The label of an expression of a form. -/
def label
    (position : Position)
    (form : String)
    (attributes : List Attribute) : Label :=
  ⟨form, .expression, some position, attributes⟩

mutual

/-- The outline of an expression. -/
def outline : Expr -> Outline
  | .int position value =>
      .node (label position "int_value" [.number value.toInt]) []
  | .float position value =>
      .node
        (label position "float_value" [.text value.text, .number value.bits]) []
  | .bool position value => .node (label position "bool_value" [.flag value]) []
  | .string position value =>
      .node (label position "string_value" [.text value]) []
  | .reference position name =>
      .node (label position "identifier_reference" [.text name]) []
  | .call position name arguments =>
      .node (label position "call" [.text name, .number arguments.length])
        (outlines "arguments" arguments)
  | .unary position operator operand =>
      .node (label position operator.form []) [("operand", operand.outline)]
  | .binary position operator left right =>
      .node (label position operator.form operator.attributes)
        [("left", left.outline), ("right", right.outline)]
  | .select position condition onTrue onFalse =>
      .node (label position "select" [])
        [("condition", condition.outline), ("true_case", onTrue.outline),
          ("false_case", onFalse.outline)]
  | .element position base index =>
      .node (label position "element_select" [])
        [("base", base.outline), ("index", index.outline)]
  | .field position base name =>
      .node (label position "record_element_select" [.text name])
        [("base", base.outline)]
  | .subvector position base first origin last =>
      .node (label position "sub_vector" [])
        [("base", base.outline), ("base_index", origin.outline),
          ("start", first.outline), ("end", last.outline)]
  | .submatrix position base firstRow originRow lastRow firstColumn originColumn
      lastColumn =>
      .node (label position "sub_matrix" [])
        [("base", base.outline), ("row_base", originRow.outline),
          ("row_start", firstRow.outline), ("row_end", lastRow.outline),
          ("col_base", originColumn.outline),
          ("col_start", firstColumn.outline), ("col_end", lastColumn.outline)]
  | .aggregate position elements =>
      .node (label position "structure_init" [.number elements.length])
        (outlines "elements" elements)
  | .record position name elements =>
      .node (label position "record_init" [.text name, .number elements.length])
        (outlines "elements" elements)

/-- The outlines of several expressions in one role. -/
def outlines (role : String) : List Expr -> List (String × Outline)
  | [] => []
  | expr :: rest => (role, expr.outline) :: outlines role rest

end

end Expr

/-- The attributes and children of a type. -/
def Ty.outline (type : Ty) : Outline :=
  let node (attributes : List Attribute) (children : List (String × Outline)) :
      Outline :=
    .node ⟨"type", .type, none, attributes⟩ children
  match type with
  | .int => node [.text "Int"] []
  | .float => node [.text "Float"] []
  | .bool => node [.text "Bool"] []
  | .void => node [.text "Void"] []
  | .string => node [.text "String"] []
  | .record name => node [.text "Record", .text name] []
  | .vector element size =>
      node [.text "Vector", .text element.text] [("size", size.outline)]
  | .matrix element rows columns =>
      node [.text "Matrix", .text element.text]
        [("rows", rows.outline), ("cols", columns.outline)]

/-- The outline of a binding as an element of a record type. -/
def Binding.elementOutline (binding : Binding) : Outline :=
  .node
    ⟨"record_element_declaration", .element, some binding.position,
      [.text binding.name, .flag binding.mutable]⟩
    [("ty", binding.type.outline)]

/-- The outline of a binding as the variable of a loop. -/
def Binding.iteratorOutline (binding : Binding) : Outline :=
  .node
    ⟨"iterator_declaration", .iterator, some binding.position,
      [.text binding.name, .flag binding.mutable, .text binding.text]⟩
    [("ty", binding.type.outline)]

/-- The outline of the target of an assignment. -/
def Target.outline (target : Target) : Outline :=
  let node (form : String) (attributes : List Attribute)
        (children : List (String × Outline)) :
      Outline :=
    .node
      ⟨form, .target, some target.position,
        .text target.name :: .text target.text :: attributes⟩
      children
  match target.selector with
  | .whole => node "plain_lhs" [] []
  | .index index => node "vector_lhs" [] [("index", index.outline)]
  | .cell row column =>
      node "matrix_lhs" [] [("row", row.outline), ("col", column.outline)]
  | .field name => node "record_lhs" [.text name] []

namespace Stmt

/-- The label of a statement of a form. -/
def label
    (position : Position)
    (form : String)
    (attributes : List Attribute) : Label :=
  ⟨form, .statement, some position, attributes⟩

mutual

/-- The outline of a statement. -/
def outline : Stmt -> Outline
  | .define position type name value =>
      .node (label position "value_definition" [.text name])
        [("ty", type.outline), ("value", value.outline)]
  | .declare position type name =>
      .node (label position "variable_declaration" [.text name])
        [("ty", type.outline)]
  | .returnValue position value =>
      .node (label position "return" []) [("value", value.outline)]
  | .assign position target value =>
      .node (label position "variable_assignment" [])
        [("target", target.outline), ("value", value.outline)]
  | .call position name arguments =>
      .node
        (label position "call_statement" [.text name, .number arguments.length])
        (Expr.outlines "arguments" arguments)
  | .forLoop position counter init condition stepVariable step body =>
      .node (label position "for_loop" [.text counter, .text stepVariable])
        [("init", init.outline), ("condition", condition.outline),
          ("step", step.outline), ("body", outline body)]
  | .foreachLoop position iterator source body =>
      .node (label position "for_each_loop" [])
        [("iterator", iterator.iteratorOutline), ("source", source.outline),
          ("body", outline body)]
  | .ifThen position condition body =>
      .node (label position "if" [.flag false])
        [("condition", condition.outline), ("then_body", outline body)]
  | .ifElse position condition thenBody elseBody =>
      .node (label position "if" [.flag true])
        [("condition", condition.outline), ("then_body", outline thenBody),
          ("else_body", outline elseBody)]
  | .switch position test cases =>
      .node
        (label position "switch" [.number cases.length, .flag cases.hasDefault])
        (("test", test.outline) :: casesOutlines cases)
  | .block position statements =>
      .node (label position "compound" [.number statements.length])
        (outlines "statements" statements)

/-- The outlines of the cases of a switch. -/
def casesOutlines : Cases -> List (String × Outline)
  | .nil => []
  | .otherwise position body =>
      [("default",
        .node ⟨"default_case", .otherwise, some position, []⟩
          [("body", outline body)])]
  | .cons position condition body rest =>
      ("cases",
        .node ⟨"case", .case, some position, []⟩
          [("condition", condition.outline), ("body", outline body)]) ::
        casesOutlines rest

/-- The outlines of several statements in one role. -/
def outlines (role : String) : List Stmt -> List (String × Outline)
  | [] => []
  | statement :: rest => (role, outline statement) :: outlines role rest

end

end Stmt

/-- The outline of a parameter. -/
def Parameter.outline (parameter : Parameter) : Outline :=
  .node ⟨"formal_parameter", .parameter, some parameter.position,
      [.text parameter.name]⟩
    [("ty", parameter.type.outline)]

/-- The outline of a function. -/
def Function.outline (function : Function) : Outline :=
  .node ⟨"function", .function, some function.position, [.text function.name]⟩
    (("return_type", function.returnType.outline) ::
      (function.parameters.map
          (fun parameter => ("parameters", parameter.outline)) ++
        Stmt.outlines "body" function.body))

/-- The outline of a record type. -/
def Record.outline (record : Record) : Outline :=
  .node ⟨"record_type_declaration", .record, some record.position,
      [.text record.name]⟩
    (record.elements.map fun element => ("elements", element.elementOutline))

/-- The outline of a module. -/
def Module.outline (module : Module) : Outline :=
  .node
    ⟨"module", .module, some module.position,
      [.number module.functions.length, .number module.records.length]⟩
    (module.functions.map (fun function => ("functions", function.outline)) ++
      module.records.map (fun record => ("records", record.outline)))

end MatrixLang
