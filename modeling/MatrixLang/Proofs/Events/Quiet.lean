import MatrixLang.Proofs.Runs

/-!
# Quiet parsers

Only declarations and modules are announced.  A parser is quiet if it notes no
event and calls no rule that parses declarations.  Quietness goes along `bind`
(`Parser.Quiet.bind`), so it is shown parser by parser, and `Rule.quiet_body`
collects it for the rules.
-/

namespace MatrixLang
namespace Parser

variable {α β : Type}

/-- No event is noted, neither by the parser nor by the rules that it calls. -/
inductive Quiet : Parser α -> Prop
  | finish (value : α) : Quiet (.finish value)
  | inspect {next : Token -> Parser α} :
      (∀ token, Quiet (next token)) ->
      Quiet (.inspect next)
  | advance {next : Parser α} : Quiet next -> Quiet (.advance next)
  | reject (refusal : Refusal) : Quiet (.reject refusal)
  | call {rule : Rule} {next : rule.Result -> Parser α} :
      rule ≠ .declarations ->
      (∀ value, Quiet (next value)) ->
      Quiet (.call rule next)

namespace Quiet

theorem bind
    {parser : Parser α}
    {next : α -> Parser β}
    (first : parser.Quiet)
    (second : ∀ value, (next value).Quiet) :
    (parser.bind next).Quiet := by
  induction first with
  | finish value => exact second value
  | inspect _ inductionHypothesis => exact .inspect inductionHypothesis
  | advance _ inductionHypothesis => exact .advance inductionHypothesis
  | reject refusal => exact .reject refusal
  | call other _ inductionHypothesis => exact .call other inductionHypothesis

theorem ite
    {condition : Prop}
    [Decidable condition]
    {onTrue onFalse : Parser α}
    (first : onTrue.Quiet)
    (second : onFalse.Quiet) :
    (if condition then onTrue else onFalse).Quiet := by
  split
  · exact first
  · exact second

end Quiet

theorem quiet_here : here.Quiet :=
  .inspect fun _ => .finish _

theorem quiet_skip : skip.Quiet :=
  .advance (.finish ())

theorem quiet_apply
    (rule : Rule)
    (other : rule ≠ .declarations) :
    (apply rule).Quiet :=
  .call other .finish

theorem quiet_expect (kind : Token.Kind) : (expect kind).Quiet :=
  .inspect fun _ => .ite (.advance (.finish _)) (.reject _)

theorem quiet_pass (kind : Token.Kind) : (pass kind).Quiet :=
  (quiet_expect kind).bind fun _ => .finish ()

/-- What is decided by the lookahead token is quiet if every choice is. -/
theorem quiet_current
    {next : Token -> Parser α}
    (quiet : ∀ token, (next token).Quiet) :
    (current.bind next).Quiet :=
  .inspect quiet

end Parser

namespace Grammar

open MatrixLang.Parser

/-! ## Expressions -/

theorem quiet_expression : expression.Quiet :=
  quiet_apply .expression nofun

theorem quiet_enclosed
    (left right : Token.Kind) :
    (enclosed left right).Quiet :=
  (quiet_pass left).bind fun _ =>
    quiet_expression.bind fun _ =>
      (quiet_pass right).bind fun _ => .finish _

section Items

variable {α : Type} {item : Parser α} {more : Parser (List α)}

theorem quiet_parenthesized
    (itemQuiet : item.Quiet)
    (moreQuiet : more.Quiet) :
    (parenthesized item more).Quiet := by
  have itemsQuiet : (items item more).Quiet :=
    quiet_current fun _ => .ite (.finish _)
      (itemQuiet.bind fun _ => moreQuiet.bind fun _ => .finish _)
  exact (quiet_pass _).bind fun _ =>
    itemsQuiet.bind fun _ => (quiet_pass _).bind fun _ => .finish _

theorem quiet_furtherItems
    (itemQuiet : item.Quiet)
    (moreQuiet : more.Quiet) :
    (furtherItems item more).Quiet :=
  quiet_current fun _ =>
    .ite (.finish _)
      (.ite
        (quiet_skip.bind fun _ =>
          itemQuiet.bind fun _ => moreQuiet.bind fun _ => .finish _)
        (.reject _))

end Items

theorem quiet_arguments : arguments.Quiet :=
  quiet_parenthesized quiet_expression (quiet_apply .arguments nofun)

theorem quiet_elements : elements.Quiet :=
  (quiet_pass _).bind fun _ =>
    quiet_expression.bind fun _ =>
      (quiet_apply .elements nofun).bind fun _ =>
        (quiet_pass _).bind fun _ => .finish _

theorem quiet_furtherElements : furtherElements.Quiet :=
  quiet_current fun _ => .ite
    (quiet_skip.bind fun _ =>
      quiet_expression.bind fun _ =>
        (quiet_apply .elements nofun).bind fun _ => .finish _)
    (.finish _)

theorem quiet_literal
    {α : Type}
    (value? : Option α) :
    (literal value?).Quiet := by
  cases value? with
  | none => exact .reject _
  | some value => exact quiet_skip.bind fun _ => .finish _

theorem quiet_referenceOrCall
    (position : Position)
    (name : String) :
    (referenceOrCall position name).Quiet :=
  quiet_skip.bind fun _ =>
    quiet_current fun _ =>
      .ite (quiet_arguments.bind fun _ => .finish _) (.finish _)

theorem quiet_atom : atom.Quiet := by
  refine quiet_current fun token => ?_
  split
  · exact (quiet_literal _).bind fun _ => .finish _
  · exact (quiet_literal _).bind fun _ => .finish _
  · exact quiet_skip.bind fun _ => .finish _
  · exact quiet_skip.bind fun _ => .finish _
  · exact quiet_referenceOrCall _ _
  · exact quiet_enclosed _ _
  · exact quiet_skip.bind fun _ =>
      (quiet_expect _).bind fun _ => quiet_elements.bind fun _ => .finish _
  · exact quiet_elements.bind fun _ => .finish _
  · exact .reject _

theorem quiet_fieldSelection : fieldSelection.Quiet :=
  quiet_here.bind fun _ =>
    quiet_atom.bind fun _ =>
      quiet_current fun _ => .ite
        (quiet_skip.bind fun _ => (quiet_expect _).bind fun _ => .finish _)
        (.finish _)

theorem quiet_indices : indices.Quiet :=
  quiet_current fun _ => .ite
    ((quiet_enclosed _ _).bind fun _ =>
      (quiet_apply .indices nofun).bind fun _ => .finish _)
    (.finish _)

theorem quiet_elementSelection : elementSelection.Quiet :=
  quiet_here.bind fun _ =>
    quiet_fieldSelection.bind fun _ =>
      (quiet_apply .indices nofun).bind fun _ => .finish _

theorem quiet_range : range.Quiet :=
  (quiet_pass _).bind fun _ =>
    quiet_expression.bind fun _ =>
      (quiet_pass _).bind fun _ =>
        quiet_expression.bind fun _ =>
          (quiet_pass _).bind fun _ =>
            quiet_expression.bind fun _ =>
              (quiet_pass _).bind fun _ => .finish _

theorem quiet_subrange : subrange.Quiet := by
  have rangesQuiet (position : Position) (base : Expr) :
      (subrangeOf position base).Quiet :=
    quiet_range.bind fun _ =>
      quiet_current fun _ =>
        .ite (quiet_range.bind fun _ => .finish _) (.finish _)
  exact quiet_here.bind fun _ =>
    quiet_elementSelection.bind fun _ =>
      quiet_current fun _ => .ite (rangesQuiet _ _) (.finish _)

theorem quiet_chain
    {operand : Parser Expr}
    (level : Level)
    (quiet : operand.Quiet) :
    (chain level operand).Quiet :=
  quiet_here.bind fun _ =>
    quiet.bind fun _ =>
      (quiet_apply (.operands level) nofun).bind fun _ => .finish _

theorem quiet_dimension : dimension.Quiet := by
  have operandQuiet : dotProduct.Quiet :=
    quiet_chain .dotProduct (quiet_chain .matrixProduct quiet_subrange)
  refine quiet_here.bind fun _ =>
    operandQuiet.bind fun _ => quiet_current fun token => ?_
  cases dimension? token.kind with
  | none => exact .finish _
  | some operator => exact quiet_skip.bind fun _ => .finish _

theorem quiet_power : power.Quiet :=
  quiet_here.bind fun _ =>
    quiet_dimension.bind fun _ =>
      quiet_current fun _ => .ite
        (quiet_skip.bind fun _ =>
          (quiet_apply .power nofun).bind fun _ => .finish _)
        (.finish _)

theorem quiet_prefixed
    {operand : Parser Expr}
    (kind : Token.Kind)
    (operator : UnaryOp)
    (quiet : operand.Quiet) :
    (prefixed kind operator operand).Quiet :=
  quiet_current fun _ =>
    .ite (quiet_skip.bind fun _ => quiet.bind fun _ => .finish _) quiet

theorem quiet_operand (level : Level) : (operand level).Quiet := by
  have minusQuiet : minus.Quiet := quiet_prefixed .dash .negate quiet_power
  have factorQuiet : multiplicative.Quiet :=
    quiet_chain .multiplicative minusQuiet
  have summandQuiet : additive.Quiet := quiet_chain .additive factorQuiet
  have negationQuiet : negation.Quiet :=
    quiet_prefixed .not .not (quiet_chain .comparison summandQuiet)
  cases level with
  | disjunction => exact quiet_chain .conjunction negationQuiet
  | conjunction => exact negationQuiet
  | comparison => exact summandQuiet
  | additive => exact factorQuiet
  | multiplicative => exact minusQuiet
  | dotProduct => exact quiet_chain .matrixProduct quiet_subrange
  | matrixProduct => exact quiet_subrange

theorem quiet_operands (level : Level) : (operands level).Quiet := by
  refine quiet_current fun token => ?_
  cases level.operator? token.kind with
  | none => exact .finish _
  | some operator =>
      exact quiet_skip.bind fun _ =>
        (quiet_operand level).bind fun _ =>
          (quiet_apply (.operands level) nofun).bind fun _ => .finish _

theorem quiet_selection : selection.Quiet := by
  have choiceQuiet : disjunction.Quiet :=
    quiet_chain .disjunction (quiet_operand .disjunction)
  exact quiet_here.bind fun _ =>
    choiceQuiet.bind fun _ =>
      quiet_current fun _ => .ite
        (quiet_skip.bind fun _ =>
          choiceQuiet.bind fun _ =>
            (quiet_pass _).bind fun _ => choiceQuiet.bind fun _ => .finish _)
        (.finish _)

/-! ## Types -/

theorem quiet_elementType : elementType.Quiet := by
  refine (quiet_pass _).bind fun _ =>
    .bind (quiet_current fun token => ?_) fun _ =>
    (quiet_pass _).bind fun _ => .finish _
  split
  · exact quiet_skip.bind fun _ => .finish _
  · exact quiet_skip.bind fun _ => .finish _
  · exact .reject _

theorem quiet_type : type.Quiet := by
  have simpleQuiet (type : Ty) : (simpleType type).Quiet :=
    quiet_skip.bind fun _ => .finish _
  refine quiet_current fun token => ?_
  split
  · exact simpleQuiet _
  · exact simpleQuiet _
  · exact simpleQuiet _
  · exact simpleQuiet _
  · exact simpleQuiet _
  · exact (quiet_pass _).bind fun _ =>
      quiet_elementType.bind fun _ =>
        (quiet_enclosed _ _).bind fun _ => .finish _
  · exact (quiet_pass _).bind fun _ =>
      quiet_elementType.bind fun _ =>
        (quiet_enclosed _ _).bind fun _ =>
          (quiet_enclosed _ _).bind fun _ => .finish _
  · exact simpleQuiet _
  · exact .reject _

theorem quiet_binding : binding.Quiet := by
  have mutabilityQuiet : mutability.Quiet := by
    refine quiet_current fun token => ?_
    split
    · exact quiet_skip.bind fun _ => .finish _
    · exact quiet_skip.bind fun _ => .finish _
    · exact .reject _
  exact quiet_here.bind fun _ =>
    mutabilityQuiet.bind fun _ =>
      quiet_type.bind fun _ => (quiet_expect _).bind fun _ => .finish _

/-! ## Statements -/

theorem quiet_body : body.Quiet :=
  quiet_apply .statement nofun

theorem quiet_define : define.Quiet :=
  quiet_here.bind fun _ =>
    (quiet_pass _).bind fun _ =>
      quiet_type.bind fun _ =>
        (quiet_expect _).bind fun _ =>
          (quiet_pass _).bind fun _ =>
            quiet_expression.bind fun _ =>
              (quiet_pass _).bind fun _ => .finish _

theorem quiet_declare : declare.Quiet :=
  quiet_here.bind fun _ =>
    (quiet_pass _).bind fun _ =>
      quiet_type.bind fun _ =>
        (quiet_expect _).bind fun _ => (quiet_pass _).bind fun _ => .finish _

theorem quiet_returnValue : returnValue.Quiet :=
  quiet_here.bind fun _ =>
    (quiet_pass _).bind fun _ =>
      quiet_expression.bind fun _ => (quiet_pass _).bind fun _ => .finish _

theorem quiet_selector : selector.Quiet := by
  refine quiet_current fun token => ?_
  split
  · exact (quiet_enclosed _ _).bind fun _ =>
      quiet_current fun _ =>
        .ite ((quiet_enclosed _ _).bind fun _ => .finish _) (.finish _)
  · exact quiet_skip.bind fun _ => (quiet_expect _).bind fun _ => .finish _
  · exact .finish _

theorem quiet_assignmentTo
    (position : Position)
    (name : String) :
    (assignmentTo position name).Quiet :=
  quiet_selector.bind fun _ =>
    (quiet_pass _).bind fun _ => quiet_expression.bind fun _ => .finish _

theorem quiet_assignOrCall : assignOrCall.Quiet :=
  quiet_here.bind fun _ =>
    (quiet_expect _).bind fun _ =>
      .bind
        (quiet_current fun _ => .ite (quiet_arguments.bind fun _ => .finish _)
        (quiet_assignmentTo _ _)) fun _ =>
          (quiet_pass _).bind fun _ => .finish _

theorem quiet_forLoop : forLoop.Quiet :=
  quiet_here.bind fun _ =>
    (quiet_pass _).bind fun _ =>
      (quiet_pass _).bind fun _ =>
        (quiet_expect _).bind fun _ =>
          (quiet_pass _).bind fun _ =>
            quiet_expression.bind fun _ =>
              (quiet_pass _).bind fun _ =>
                quiet_expression.bind fun _ =>
                  (quiet_pass _).bind fun _ =>
                    (quiet_expect _).bind fun _ =>
                      (quiet_pass _).bind fun _ =>
                        quiet_expression.bind fun _ =>
                          (quiet_pass _).bind fun _ =>
                            quiet_body.bind fun _ => .finish _

theorem quiet_foreachLoop : foreachLoop.Quiet :=
  quiet_here.bind fun _ =>
    (quiet_pass _).bind fun _ =>
      (quiet_pass _).bind fun _ =>
        quiet_binding.bind fun _ =>
          (quiet_pass _).bind fun _ =>
            quiet_expression.bind fun _ =>
              (quiet_pass _).bind fun _ => quiet_body.bind fun _ => .finish _

theorem quiet_conditional : conditional.Quiet :=
  quiet_here.bind fun _ =>
    (quiet_pass _).bind fun _ =>
      (quiet_enclosed _ _).bind fun _ =>
        quiet_body.bind fun _ =>
          quiet_current fun _ => .ite
            (quiet_skip.bind fun _ => quiet_body.bind fun _ => .finish _)
            (.finish _)

theorem quiet_case : case.Quiet :=
  quiet_here.bind fun _ =>
    (quiet_pass _).bind fun _ =>
      quiet_expression.bind fun _ =>
        (quiet_pass _).bind fun _ => quiet_body.bind fun _ => .finish _

theorem quiet_otherwise : otherwise.Quiet :=
  quiet_here.bind fun _ =>
    (quiet_pass _).bind fun _ =>
      (quiet_pass _).bind fun _ => quiet_body.bind fun _ => .finish _

theorem quiet_clauses (afterDefault : Bool) : (clauses afterDefault).Quiet :=
  quiet_current fun _ =>
    .ite
      (quiet_case.bind fun _ =>
        (quiet_apply (.clauses afterDefault) nofun).bind fun _ => .finish _)
      (.ite
        (quiet_otherwise.bind fun _ =>
          (quiet_apply (.clauses true) nofun).bind fun _ => .finish _)
        (.ite (.finish _) (.reject _)))

theorem quiet_switch : switch.Quiet :=
  quiet_here.bind fun _ =>
    (quiet_pass _).bind fun _ =>
      (quiet_enclosed _ _).bind fun _ =>
        (quiet_pass _).bind fun _ =>
          (quiet_apply (.clauses false) nofun).bind fun _ =>
            (quiet_pass _).bind fun _ => .finish _

theorem quiet_block : block.Quiet :=
  (quiet_pass _).bind fun _ =>
    (quiet_apply .statements nofun).bind fun _ =>
      (quiet_pass _).bind fun _ => .finish _

theorem quiet_compound : compound.Quiet :=
  quiet_here.bind fun _ => quiet_block.bind fun _ => .finish _

theorem quiet_statementForm
    {kind : Token.Kind}
    {form : Parser Stmt}
    (found : statementForm? kind = some form) :
    form.Quiet := by
  unfold statementForm? at found
  split at found <;> cases found
  · exact quiet_define
  · exact quiet_declare
  · exact quiet_returnValue
  · exact quiet_assignOrCall
  · exact quiet_forLoop
  · exact quiet_foreachLoop
  · exact quiet_conditional
  · exact quiet_switch
  · exact quiet_compound

theorem quiet_statement : statement.Quiet := by
  refine quiet_current fun token => ?_
  cases found : statementForm? token.kind with
  | none => exact .reject _
  | some form => exact quiet_statementForm found

theorem quiet_statements : statements.Quiet :=
  quiet_current fun _ =>
    .ite (.finish _)
      (.ite
        (quiet_statement.bind fun _ =>
          (quiet_apply .statements nofun).bind fun _ => .finish _)
        (.reject _))

/-! ## Declarations -/

theorem quiet_parameter : parameter.Quiet :=
  quiet_here.bind fun _ =>
    quiet_type.bind fun _ => (quiet_expect _).bind fun _ => .finish _

theorem quiet_function : function.Quiet :=
  quiet_here.bind fun _ =>
    (quiet_pass _).bind fun _ =>
      quiet_type.bind fun _ =>
        (quiet_expect _).bind fun _ =>
          (quiet_parenthesized quiet_parameter
              (quiet_apply .parameters nofun)).bind fun _ =>
            quiet_block.bind fun _ => .finish _

theorem quiet_recordElement : recordElement.Quiet :=
  quiet_binding.bind fun _ => (quiet_pass _).bind fun _ => .finish _

theorem quiet_furtherRecordElements : furtherRecordElements.Quiet :=
  quiet_current fun _ =>
    .ite (.finish _)
      (.ite
        (quiet_recordElement.bind fun _ =>
          (quiet_apply .bindings nofun).bind fun _ => .finish _)
        (.reject _))

theorem quiet_record : record.Quiet :=
  quiet_here.bind fun _ =>
    (quiet_pass _).bind fun _ =>
      (quiet_expect _).bind fun _ =>
        (quiet_pass _).bind fun _ =>
          quiet_recordElement.bind fun _ =>
            (quiet_apply .bindings nofun).bind fun _ =>
              (quiet_pass _).bind fun _ => .finish _

end Grammar

/-- No rule but that of declarations notes an event. -/
theorem Rule.quiet_body
    {rule : Rule}
    (other : rule ≠ .declarations) :
    rule.body.Quiet :=
  match rule with
  | .expression => Grammar.quiet_selection
  | .power => Grammar.quiet_power
  | .operands level => Grammar.quiet_operands level
  | .indices => Grammar.quiet_indices
  | .arguments =>
      Grammar.quiet_furtherItems Grammar.quiet_expression
        (Parser.quiet_apply .arguments nofun)
  | .elements => Grammar.quiet_furtherElements
  | .statement => Grammar.quiet_statement
  | .statements => Grammar.quiet_statements
  | .parameters =>
      Grammar.quiet_furtherItems Grammar.quiet_parameter
        (Parser.quiet_apply .parameters nofun)
  | .bindings => Grammar.quiet_furtherRecordElements
  | .clauses afterDefault => Grammar.quiet_clauses afterDefault
  | .declarations => absurd rfl other

end MatrixLang
