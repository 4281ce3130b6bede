import MatrixLang.Grammar.Declaration
import MatrixLang.Proofs.Relabeling.Parsers

/-!
# The grammar follows every relabeling

Each parser of the grammar mirrors itself: it decides by the kinds of tokens and
by the values of numerals and truth values alone, and it fills the positions,
names and strings of a tree from the tokens that they belong to.
`Rule.mirrors_body` collects this for the rules.
-/

namespace MatrixLang
namespace Grammar

open MatrixLang.Parser

variable (labels : Relabeling)

/-! ## Expressions -/

theorem mirrors_expression :
    Mirrors labels (Expr.relabel labels) expression expression :=
  mirrors_apply labels .expression

theorem mirrors_enclosed
    (left right : Token.Kind) :
    Mirrors labels (Expr.relabel labels) (enclosed left right)
      (enclosed left right) :=
  (mirrors_pass labels left).bind fun _ =>
    (mirrors_expression labels).bind fun inner =>
      (mirrors_pass labels right).bind fun _ => .finish inner

section Items

variable {α : Type} {image : α -> α} {item : Parser α} {more : Parser (List α)}

theorem mirrors_parenthesized
    (mirrorsItem : Mirrors labels image item item)
    (mirrorsMore : Mirrors labels (List.map image) more more) :
    Mirrors labels (List.map image) (parenthesized item more)
      (parenthesized item more) := by
  have mirrorsItems :
      Mirrors labels (List.map image) (items item more) (items item more) := by
    refine (mirrors_current labels).bind fun token =>
      .ite (fun _ => .finish []) ?_
    exact mirrorsItem.bind fun first =>
      mirrorsMore.bind fun rest => .finish (first :: rest)
  exact (mirrors_pass labels _).bind fun _ =>
    mirrorsItems.bind fun list =>
      (mirrors_pass labels _).bind fun _ => .finish list

theorem mirrors_furtherItems
    (mirrorsItem : Mirrors labels image item item)
    (mirrorsMore : Mirrors labels (List.map image) more more) :
    Mirrors labels (List.map image) (furtherItems item more)
      (furtherItems item more) := by
  refine (mirrors_current labels).bind fun token =>
    .ite (fun _ => .finish []) ?_
  refine .ite (fun _ => ?_) (.reject _)
  exact (mirrors_skip labels).bind fun _ =>
    mirrorsItem.bind fun first =>
      mirrorsMore.bind fun rest => .finish (first :: rest)

end Items

theorem mirrors_arguments :
    Mirrors labels (List.map (Expr.relabel labels)) arguments arguments :=
  mirrors_parenthesized labels (mirrors_expression labels)
    (mirrors_apply labels .arguments)

theorem mirrors_furtherElements :
    Mirrors labels (List.map (Expr.relabel labels)) furtherElements
      furtherElements := by
  refine (mirrors_current labels).bind fun token =>
    .ite (fun _ => ?_) (.finish [])
  exact (mirrors_skip labels).bind fun _ =>
    (mirrors_expression labels).bind fun first =>
      (mirrors_apply labels .elements).bind fun rest => .finish (first :: rest)

theorem mirrors_elements :
    Mirrors labels (List.map (Expr.relabel labels)) elements elements :=
  (mirrors_pass labels _).bind fun _ =>
    (mirrors_expression labels).bind fun first =>
      (mirrors_apply labels .elements).bind fun rest =>
        (mirrors_pass labels _).bind fun _ => .finish (first :: rest)

theorem mirrors_literal
    {α : Type}
    (value? : Option α) :
    Mirrors labels id (literal value?) (literal value?) := by
  cases value? with
  | none => exact .reject _
  | some value => exact (mirrors_skip labels).bind fun _ => .finish value

theorem mirrors_referenceOrCall
    (position : Position)
    (name : String) :
    Mirrors labels (Expr.relabel labels) (referenceOrCall position name)
      (referenceOrCall (labels.position position) (labels.name name)) := by
  refine (mirrors_skip labels).bind fun _ =>
    (mirrors_current labels).bind fun token => ?_
  refine .ite (fun _ => ?_) (.finish (Expr.reference position name))
  exact (mirrors_arguments labels).bind fun list => .of_eq (by simp)

theorem mirrors_recordLiteral
    (position : Position) :
    Mirrors labels (Expr.relabel labels) (recordLiteral position)
      (recordLiteral (labels.position position)) :=
  (mirrors_skip labels).bind fun _ =>
    (mirrors_name labels).bind fun name =>
      (mirrors_elements labels).bind fun list => .of_eq (by simp)

theorem mirrors_aggregate
    (position : Position) :
    Mirrors labels (Expr.relabel labels) (aggregate position)
      (aggregate (labels.position position)) :=
  (mirrors_elements labels).bind fun list => .of_eq (by simp)

theorem mirrors_atom : Mirrors labels (Expr.relabel labels) atom atom := by
  refine (mirrors_current labels).bind fun token => ?_
  obtain ⟨kind, spelling, position⟩ := token
  cases kind with
  | intLiteral =>
      exact (mirrors_literal labels _).bind fun value =>
        .finish (Expr.int position value)
  | floatLiteral =>
      exact (mirrors_literal labels _).bind fun value =>
        .finish (Expr.float position value)
  | boolLiteral => exact (mirrors_skip labels).bind fun _ => .finish _
  | stringLiteral => exact (mirrors_skip labels).bind fun _ => .finish _
  | identifier => exact mirrors_referenceOrCall labels position spelling
  | openParen => exact mirrors_enclosed labels _ _
  | atSign => exact mirrors_recordLiteral labels position
  | openBracket => exact mirrors_aggregate labels position
  | _ => exact .reject _

theorem mirrors_fieldSelection :
    Mirrors labels (Expr.relabel labels) fieldSelection fieldSelection := by
  refine (mirrors_here labels).bind fun position =>
    (mirrors_atom labels).bind fun base => ?_
  refine (mirrors_current labels).bind fun token =>
    .ite (fun _ => ?_) (.finish base)
  exact (mirrors_skip labels).bind fun _ =>
    (mirrors_name labels).bind fun name =>
      .finish (Expr.field position base name)

theorem mirrors_indices :
    Mirrors labels (List.map (Expr.relabel labels)) indices indices := by
  refine (mirrors_current labels).bind fun token =>
    .ite (fun _ => ?_) (.finish [])
  exact (mirrors_enclosed labels _ _).bind fun first =>
    (mirrors_apply labels .indices).bind fun rest => .finish (first :: rest)

theorem mirrors_elementSelection :
    Mirrors labels (Expr.relabel labels) elementSelection elementSelection :=
  (mirrors_here labels).bind fun position =>
    (mirrors_fieldSelection labels).bind fun base =>
      (mirrors_apply labels .indices).bind fun list =>
        .of_eq (Expr.relabel_foldl_element labels position base list)

/-- The image of the three parts of a range. -/
def relabelRange : Expr × Expr × Expr -> Expr × Expr × Expr :=
  Prod.map (Expr.relabel labels)
    (Prod.map (Expr.relabel labels) (Expr.relabel labels))

theorem mirrors_range : Mirrors labels (relabelRange labels) range range :=
  (mirrors_pass labels _).bind fun _ =>
    (mirrors_expression labels).bind fun first =>
      (mirrors_pass labels _).bind fun _ =>
        (mirrors_expression labels).bind fun origin =>
          (mirrors_pass labels _).bind fun _ =>
            (mirrors_expression labels).bind fun last =>
              (mirrors_pass labels _).bind fun _ =>
                .finish (first, origin, last)

theorem mirrors_subrangeOf
    (position : Position)
    (base : Expr) :
    Mirrors labels (Expr.relabel labels) (subrangeOf position base)
      (subrangeOf (labels.position position) (base.relabel labels)) := by
  refine (mirrors_range labels).bind fun rows => ?_
  refine (mirrors_current labels).bind fun token =>
    .ite (fun _ => ?_) (.finish _)
  exact (mirrors_range labels).bind fun columns => .finish _

theorem mirrors_subrange :
    Mirrors labels (Expr.relabel labels) subrange subrange := by
  refine (mirrors_here labels).bind fun position => ?_
  refine (mirrors_elementSelection labels).bind fun base => ?_
  refine (mirrors_current labels).bind fun token =>
    .ite (fun _ => ?_) (.finish base)
  exact mirrors_subrangeOf labels position base

/--
Operands that associate to the left mirror themselves if one operand does.
-/
theorem mirrors_chain
    {operand : Parser Expr}
    (level : Level)
    (mirrorsOperand : Mirrors labels (Expr.relabel labels) operand operand) :
    Mirrors labels (Expr.relabel labels) (chain level operand)
      (chain level operand) :=
  (mirrors_here labels).bind fun position =>
    mirrorsOperand.bind fun first =>
      (mirrors_apply labels (.operands level)).bind fun rest =>
        .of_eq (Expr.relabel_foldl_binary labels position first rest)

theorem mirrors_matrixProduct :
    Mirrors labels (Expr.relabel labels) matrixProduct matrixProduct :=
  mirrors_chain labels _ (mirrors_subrange labels)

theorem mirrors_dotProduct :
    Mirrors labels (Expr.relabel labels) dotProduct dotProduct :=
  mirrors_chain labels _ (mirrors_matrixProduct labels)

theorem mirrors_dimension :
    Mirrors labels (Expr.relabel labels) dimension dimension := by
  refine (mirrors_here labels).bind fun position => ?_
  refine (mirrors_dotProduct labels).bind fun operand => ?_
  refine (mirrors_current labels).bind fun token => ?_
  rw [Token.kind_relabel]
  cases dimension? token.kind with
  | none => exact .finish operand
  | some operator =>
      exact (mirrors_skip labels).bind fun _ =>
        .finish (Expr.unary position operator operand)

theorem mirrors_power : Mirrors labels (Expr.relabel labels) power power := by
  refine (mirrors_here labels).bind fun position =>
    (mirrors_dimension labels).bind fun base => ?_
  refine (mirrors_current labels).bind fun token =>
    .ite (fun _ => ?_) (.finish base)
  exact (mirrors_skip labels).bind fun _ =>
    (mirrors_apply labels .power).bind fun exponent =>
      .finish (Expr.binary position .power base exponent)

theorem mirrors_prefixed
    {operand : Parser Expr}
    (kind : Token.Kind)
    (operator : UnaryOp)
    (mirrorsOperand : Mirrors labels (Expr.relabel labels) operand operand) :
    Mirrors labels (Expr.relabel labels) (prefixed kind operator operand)
      (prefixed kind operator operand) := by
  refine (mirrors_current labels).bind fun token =>
    .ite (fun _ => ?_) mirrorsOperand
  exact (mirrors_skip labels).bind fun _ =>
    mirrorsOperand.bind fun inner =>
      .finish (Expr.unary token.position operator inner)

theorem mirrors_minus : Mirrors labels (Expr.relabel labels) minus minus :=
  mirrors_prefixed labels _ _ (mirrors_power labels)

theorem mirrors_multiplicative :
    Mirrors labels (Expr.relabel labels) multiplicative multiplicative :=
  mirrors_chain labels _ (mirrors_minus labels)

theorem mirrors_additive :
    Mirrors labels (Expr.relabel labels) additive additive :=
  mirrors_chain labels _ (mirrors_multiplicative labels)

theorem mirrors_comparison :
    Mirrors labels (Expr.relabel labels) comparison comparison :=
  mirrors_chain labels _ (mirrors_additive labels)

theorem mirrors_negation :
    Mirrors labels (Expr.relabel labels) negation negation :=
  mirrors_prefixed labels _ _ (mirrors_comparison labels)

theorem mirrors_conjunction :
    Mirrors labels (Expr.relabel labels) conjunction conjunction :=
  mirrors_chain labels _ (mirrors_negation labels)

theorem mirrors_disjunction :
    Mirrors labels (Expr.relabel labels) disjunction disjunction :=
  mirrors_chain labels _ (mirrors_conjunction labels)

theorem mirrors_selection :
    Mirrors labels (Expr.relabel labels) selection selection := by
  refine (mirrors_here labels).bind fun position => ?_
  refine (mirrors_disjunction labels).bind fun condition => ?_
  refine (mirrors_current labels).bind fun token =>
    .ite (fun _ => ?_) (.finish condition)
  exact (mirrors_skip labels).bind fun _ =>
    (mirrors_disjunction labels).bind fun onTrue =>
      (mirrors_pass labels _).bind fun _ =>
        (mirrors_disjunction labels).bind fun onFalse =>
          .finish (Expr.select position condition onTrue onFalse)

theorem mirrors_operand
    (level : Level) :
    Mirrors labels (Expr.relabel labels) (operand level) (operand level) := by
  cases level with
  | disjunction => exact mirrors_conjunction labels
  | conjunction => exact mirrors_negation labels
  | comparison => exact mirrors_additive labels
  | additive => exact mirrors_multiplicative labels
  | multiplicative => exact mirrors_minus labels
  | dotProduct => exact mirrors_matrixProduct labels
  | matrixProduct => exact mirrors_subrange labels

theorem mirrors_operands
    (level : Level) :
    Mirrors labels (List.map (Prod.map id (Expr.relabel labels)))
      (operands level)
      (operands level) := by
  refine (mirrors_current labels).bind fun token => ?_
  rw [Token.kind_relabel]
  cases level.operator? token.kind with
  | none => exact .finish []
  | some operator =>
      exact (mirrors_skip labels).bind fun _ =>
        (mirrors_operand labels level).bind fun right =>
          (mirrors_apply labels (.operands level)).bind fun rest =>
            .finish ((operator, right) :: rest)

/-! ## Types -/

theorem mirrors_scalar : Mirrors labels id scalar scalar := by
  refine (mirrors_current labels).bind fun token => ?_
  obtain ⟨kind, spelling, position⟩ := token
  cases kind with
  | intWord | floatWord => exact (mirrors_skip labels).bind fun _ => .finish _
  | _ => exact .reject _

theorem mirrors_elementType : Mirrors labels id elementType elementType :=
  (mirrors_pass labels _).bind fun _ =>
    (mirrors_scalar labels).bind fun element =>
      (mirrors_pass labels _).bind fun _ => .finish element

theorem mirrors_vectorType :
    Mirrors labels (Ty.relabel labels) vectorType vectorType :=
  (mirrors_pass labels _).bind fun _ =>
    (mirrors_elementType labels).bind fun element =>
      (mirrors_enclosed labels _ _).bind fun length =>
        .finish (Ty.vector element length)

theorem mirrors_matrixType :
    Mirrors labels (Ty.relabel labels) matrixType matrixType :=
  (mirrors_pass labels _).bind fun _ =>
    (mirrors_elementType labels).bind fun element =>
      (mirrors_enclosed labels _ _).bind fun rows =>
        (mirrors_enclosed labels _ _).bind fun columns =>
          .finish (Ty.matrix element rows columns)

theorem mirrors_simpleType
    (type : Ty) :
    Mirrors labels (Ty.relabel labels) (simpleType type)
      (simpleType (type.relabel labels)) :=
  (mirrors_skip labels).bind fun _ => .finish type

theorem mirrors_type : Mirrors labels (Ty.relabel labels) type type := by
  refine (mirrors_current labels).bind fun token => ?_
  obtain ⟨kind, spelling, position⟩ := token
  cases kind with
  | intWord => exact mirrors_simpleType labels .int
  | floatWord => exact mirrors_simpleType labels .float
  | boolWord => exact mirrors_simpleType labels .bool
  | voidWord => exact mirrors_simpleType labels .void
  | stringWord => exact mirrors_simpleType labels .string
  | vectorWord => exact mirrors_vectorType labels
  | matrixWord => exact mirrors_matrixType labels
  | identifier => exact mirrors_simpleType labels (.record spelling)
  | _ => exact .reject _

theorem mirrors_mutability : Mirrors labels id mutability mutability := by
  refine (mirrors_current labels).bind fun token => ?_
  obtain ⟨kind, spelling, position⟩ := token
  cases kind with
  | valWord | varWord => exact (mirrors_skip labels).bind fun _ => .finish _
  | _ => exact .reject _

theorem mirrors_binding :
    Mirrors labels (Binding.relabel labels) binding binding :=
  (mirrors_here labels).bind fun position =>
    (mirrors_mutability labels).bind fun mutable =>
      (mirrors_type labels).bind fun type =>
        (mirrors_name labels).bind fun name =>
          .finish (Binding.mk mutable type name position)

/-! ## Statements -/

theorem mirrors_define : Mirrors labels (Stmt.relabel labels) define define :=
  (mirrors_here labels).bind fun position =>
    (mirrors_pass labels _).bind fun _ =>
      (mirrors_type labels).bind fun type =>
        (mirrors_name labels).bind fun name =>
          (mirrors_pass labels _).bind fun _ =>
            (mirrors_expression labels).bind fun value =>
              (mirrors_pass labels _).bind fun _ =>
                .finish (Stmt.define position type name value)

theorem mirrors_declare :
    Mirrors labels (Stmt.relabel labels) declare declare :=
  (mirrors_here labels).bind fun position =>
    (mirrors_pass labels _).bind fun _ =>
      (mirrors_type labels).bind fun type =>
        (mirrors_name labels).bind fun name =>
          (mirrors_pass labels _).bind fun _ =>
            .finish (Stmt.declare position type name)

theorem mirrors_returnValue :
    Mirrors labels (Stmt.relabel labels) returnValue returnValue :=
  (mirrors_here labels).bind fun position =>
    (mirrors_pass labels _).bind fun _ =>
      (mirrors_expression labels).bind fun value =>
        (mirrors_pass labels _).bind fun _ =>
          .finish (Stmt.returnValue position value)

theorem mirrors_selector :
    Mirrors labels (Selector.relabel labels) selector selector := by
  refine (mirrors_current labels).bind fun token => ?_
  obtain ⟨kind, spelling, position⟩ := token
  cases kind with
  | openBracket =>
      refine (mirrors_enclosed labels _ _).bind fun index => ?_
      refine (mirrors_current labels).bind fun token =>
        .ite (fun _ => ?_) (.finish (Selector.index index))
      exact (mirrors_enclosed labels _ _).bind fun column =>
        .finish (Selector.cell index column)
  | atSign =>
      exact (mirrors_skip labels).bind fun _ =>
        (mirrors_name labels).bind fun name => .finish (Selector.field name)
  | _ => exact .finish Selector.whole

theorem mirrors_assignmentTo
    (position : Position)
    (name : String) :
    Mirrors labels (Stmt.relabel labels) (assignmentTo position name)
      (assignmentTo (labels.position position) (labels.name name)) :=
  (mirrors_selector labels).bind fun selector =>
    (mirrors_pass labels _).bind fun _ =>
      (mirrors_expression labels).bind fun value =>
        .finish (Stmt.assign position ⟨name, selector, position⟩ value)

theorem mirrors_assignOrCall :
    Mirrors labels (Stmt.relabel labels) assignOrCall assignOrCall := by
  have mirrorsOf : ∀ position name, Mirrors labels (Stmt.relabel labels)
      (assignOrCallOf position name)
      (assignOrCallOf (labels.position position) (labels.name name)) := by
    intro position name
    refine (mirrors_current labels).bind fun token => .ite (fun _ => ?_) ?_
    · exact (mirrors_arguments labels).bind fun list =>
        .finish (Stmt.call position name list)
    · exact mirrors_assignmentTo labels position name
  exact (mirrors_here labels).bind fun position =>
    (mirrors_name labels).bind fun name =>
      (mirrorsOf position name).bind fun statement =>
        (mirrors_pass labels _).bind fun _ => .finish statement

theorem mirrors_body : Mirrors labels (Stmt.relabel labels) body body :=
  mirrors_apply labels .statement

theorem mirrors_forLoop :
    Mirrors labels (Stmt.relabel labels) forLoop forLoop := by
  refine (mirrors_here labels).bind fun position =>
    (mirrors_pass labels _).bind fun _ => ?_
  refine (mirrors_pass labels _).bind fun _ =>
    (mirrors_name labels).bind fun counter => ?_
  refine (mirrors_pass labels _).bind fun _ =>
    (mirrors_expression labels).bind fun init => ?_
  refine (mirrors_pass labels _).bind fun _ =>
    (mirrors_expression labels).bind fun condition => ?_
  refine (mirrors_pass labels _).bind fun _ =>
    (mirrors_name labels).bind fun stepVariable => ?_
  refine (mirrors_pass labels _).bind fun _ =>
    (mirrors_expression labels).bind fun step => ?_
  exact (mirrors_pass labels _).bind fun _ =>
    (mirrors_body labels).bind fun body =>
    .finish
      (Stmt.forLoop position counter init condition stepVariable step body)

theorem mirrors_foreachLoop :
    Mirrors labels (Stmt.relabel labels) foreachLoop foreachLoop := by
  refine (mirrors_here labels).bind fun position =>
    (mirrors_pass labels _).bind fun _ => ?_
  refine (mirrors_pass labels _).bind fun _ =>
    (mirrors_binding labels).bind fun iterator => ?_
  refine (mirrors_pass labels _).bind fun _ =>
    (mirrors_expression labels).bind fun source => ?_
  exact (mirrors_pass labels _).bind fun _ =>
    (mirrors_body labels).bind fun body =>
    .finish (Stmt.foreachLoop position iterator source body)

theorem mirrors_conditional :
    Mirrors labels (Stmt.relabel labels) conditional conditional := by
  refine (mirrors_here labels).bind fun position =>
    (mirrors_pass labels _).bind fun _ => ?_
  refine (mirrors_enclosed labels _ _).bind fun condition => ?_
  refine (mirrors_body labels).bind fun thenBody => ?_
  refine (mirrors_current labels).bind fun token => .ite (fun _ => ?_)
    (.finish (Stmt.ifThen position condition thenBody))
  exact (mirrors_skip labels).bind fun _ =>
    (mirrors_body labels).bind fun elseBody =>
    .finish (Stmt.ifElse position condition thenBody elseBody)

theorem mirrors_case : Mirrors labels (Clause.relabel labels) case case :=
  (mirrors_here labels).bind fun position =>
    (mirrors_pass labels _).bind fun _ =>
      (mirrors_expression labels).bind fun condition =>
        (mirrors_pass labels _).bind fun _ =>
          (mirrors_body labels).bind fun body =>
            .finish (Clause.case position condition body)

theorem mirrors_otherwise :
    Mirrors labels (Clause.relabel labels) otherwise otherwise :=
  (mirrors_here labels).bind fun position =>
    (mirrors_pass labels _).bind fun _ =>
      (mirrors_pass labels _).bind fun _ =>
        (mirrors_body labels).bind fun body =>
          .finish (Clause.otherwise position body)

theorem mirrors_clauses
    (afterDefault : Bool) :
    Mirrors labels (List.map (Clause.relabel labels)) (clauses afterDefault)
      (clauses afterDefault) := by
  refine (mirrors_current labels).bind fun token =>
    .ite (fun _ => ?_) (.ite (fun _ => ?_) ?_)
  · exact (mirrors_case labels).bind fun first =>
      (mirrors_apply labels (.clauses afterDefault)).bind fun rest =>
        .finish (first :: rest)
  · exact (mirrors_otherwise labels).bind fun first =>
      (mirrors_apply labels (.clauses true)).bind fun rest =>
        .finish (first :: rest)
  · exact .ite (fun _ => .finish []) (.reject _)

theorem mirrors_switch :
    Mirrors labels (Stmt.relabel labels) switch switch := by
  refine (mirrors_here labels).bind fun position =>
    (mirrors_pass labels _).bind fun _ => ?_
  refine (mirrors_enclosed labels _ _).bind fun test =>
    (mirrors_pass labels _).bind fun _ => ?_
  refine (mirrors_apply labels (.clauses false)).bind fun list => ?_
  refine (mirrors_pass labels _).bind fun _ => .of_eq ?_
  rw [Stmt.relabel, Stmt.relabelCases_ofClauses]
  rfl

theorem mirrors_block :
    Mirrors labels (List.map (Stmt.relabel labels)) block block :=
  (mirrors_pass labels _).bind fun _ =>
    (mirrors_apply labels .statements).bind fun list =>
      (mirrors_pass labels _).bind fun _ => .finish list

theorem mirrors_compound :
    Mirrors labels (Stmt.relabel labels) compound compound :=
  (mirrors_here labels).bind fun position =>
    (mirrors_block labels).bind fun list => .of_eq (by simp)

theorem mirrors_statement :
    Mirrors labels (Stmt.relabel labels) statement statement := by
  refine (mirrors_current labels).bind fun token => ?_
  obtain ⟨kind, spelling, position⟩ := token
  cases kind with
  | valWord => exact mirrors_define labels
  | varWord => exact mirrors_declare labels
  | returnWord => exact mirrors_returnValue labels
  | identifier => exact mirrors_assignOrCall labels
  | forWord => exact mirrors_forLoop labels
  | foreachWord => exact mirrors_foreachLoop labels
  | ifWord => exact mirrors_conditional labels
  | switchWord => exact mirrors_switch labels
  | openCurly => exact mirrors_compound labels
  | _ => exact .reject _

theorem mirrors_statements :
    Mirrors labels (List.map (Stmt.relabel labels)) statements statements := by
  refine (mirrors_current labels).bind fun token =>
    .ite (fun _ => .finish []) ?_
  refine .ite (fun _ => ?_) (.reject _)
  exact (mirrors_statement labels).bind fun first =>
    (mirrors_apply labels .statements).bind fun rest => .finish (first :: rest)

/-! ## Declarations -/

theorem mirrors_parameter :
    Mirrors labels (Parameter.relabel labels) parameter parameter :=
  (mirrors_here labels).bind fun position =>
    (mirrors_type labels).bind fun type =>
      (mirrors_name labels).bind fun name =>
        .finish (Parameter.mk type name position)

theorem mirrors_function :
    Mirrors labels (Function.relabel labels) function function := by
  have mirrorsParameters :=
      mirrors_parenthesized labels (mirrors_parameter labels)
    (mirrors_apply labels .parameters)
  exact (mirrors_here labels).bind fun position =>
    (mirrors_pass labels _).bind fun _ =>
      (mirrors_type labels).bind fun returnType =>
        (mirrors_name labels).bind fun name =>
          mirrorsParameters.bind fun parameters =>
            (mirrors_block labels).bind fun body =>
              .finish (Function.mk returnType name parameters body position)

theorem mirrors_recordElement :
    Mirrors labels (Binding.relabel labels) recordElement recordElement :=
  (mirrors_binding labels).bind fun element =>
    (mirrors_pass labels _).bind fun _ => .finish element

theorem mirrors_furtherRecordElements :
    Mirrors labels (List.map (Binding.relabel labels)) furtherRecordElements
      furtherRecordElements := by
  refine (mirrors_current labels).bind fun token =>
    .ite (fun _ => .finish []) ?_
  refine .ite (fun _ => ?_) (.reject _)
  exact (mirrors_recordElement labels).bind fun first =>
    (mirrors_apply labels .bindings).bind fun rest => .finish (first :: rest)

theorem mirrors_record : Mirrors labels (Record.relabel labels) record record :=
  (mirrors_here labels).bind fun position =>
    (mirrors_pass labels _).bind fun _ =>
      (mirrors_name labels).bind fun name =>
        (mirrors_pass labels _).bind fun _ =>
          (mirrors_recordElement labels).bind fun first =>
            (mirrors_apply labels .bindings).bind fun rest =>
              (mirrors_pass labels _).bind fun _ =>
                .finish (Record.mk name (first :: rest) position)

theorem mirrors_declarations :
    Mirrors labels (List.map (Declaration.relabel labels)) declarations
      declarations := by
  refine (mirrors_current labels).bind fun token => ?_
  obtain ⟨kind, spelling, position⟩ := token
  cases kind with
  | functionWord =>
      exact (mirrors_function labels).bind fun first =>
        (mirrors_emit labels _ _).bind fun _ =>
          (mirrors_apply labels .declarations).bind fun rest =>
            .finish (Declaration.function first :: rest)
  | recordWord =>
      exact (mirrors_record labels).bind fun first =>
        (mirrors_emit labels _ _).bind fun _ =>
          (mirrors_apply labels .declarations).bind fun rest =>
            .finish (Declaration.record first :: rest)
  | endOfFile => exact .finish []
  | _ => exact .reject _

theorem mirrors_module : Mirrors labels (Module.relabel labels) module module :=
  (mirrors_here labels).bind fun position =>
    (mirrors_apply labels .declarations).bind fun list =>
      (mirrors_emit labels _ _).bind fun _ =>
        .of_eq (Module.relabel_ofDeclarations labels position list)

end Grammar

/-- The parser of every rule mirrors itself. -/
theorem Rule.mirrors_body
    (labels : Relabeling)
    (rule : Rule) :
    Parser.Mirrors labels (rule.relabel labels) rule.body rule.body := by
  cases rule with
  | expression => exact Grammar.mirrors_selection labels
  | power => exact Grammar.mirrors_power labels
  | operands level => exact Grammar.mirrors_operands labels level
  | indices => exact Grammar.mirrors_indices labels
  | arguments =>
      exact Grammar.mirrors_furtherItems labels
        (Grammar.mirrors_expression labels)
        (Parser.mirrors_apply labels .arguments)
  | elements => exact Grammar.mirrors_furtherElements labels
  | statement => exact Grammar.mirrors_statement labels
  | statements => exact Grammar.mirrors_statements labels
  | parameters =>
      exact Grammar.mirrors_furtherItems labels
        (Grammar.mirrors_parameter labels)
        (Parser.mirrors_apply labels .parameters)
  | bindings => exact Grammar.mirrors_furtherRecordElements labels
  | clauses afterDefault => exact Grammar.mirrors_clauses labels afterDefault
  | declarations => exact Grammar.mirrors_declarations labels

end MatrixLang
