import MatrixLang.Grammar.Declaration
import MatrixLang.Parser.Guarded

/-!
# The rules are guarded

Every parser of the grammar moves before it calls a rule and never moves over
the end of the file.  `Rule.guarded_body` collects this for the rules.
-/

namespace MatrixLang
namespace Grammar

open MatrixLang.Parser

/-! ## Expressions -/

theorem steady_expression : expression.Steady :=
  steady_apply _

theorem consumes_enclosed
    {left right : Token.Kind}
    (leftInside : left ≠ .endOfFile)
    (rightInside : right ≠ .endOfFile) :
    (enclosed left right).Consumes :=
  (consumes_pass leftInside).bind fun _ =>
    steady_expression.bind fun _ =>
      (consumes_pass rightInside).steady.bind fun _ => steady_finish _

theorem consumes_parenthesized
    {α : Type}
    {item : Parser α}
    {more : Parser (List α)}
    (itemSteady : item.Steady)
    (moreSteady : more.Steady) :
    (parenthesized item more).Consumes := by
  have itemsSteady : (items item more).Steady := by
    refine steady_current fun token => ?_
    split
    · exact steady_finish _
    · exact itemSteady.bind fun _ => moreSteady.bind fun _ => steady_finish _
  exact (consumes_pass (by decide)).bind fun _ =>
    itemsSteady.bind fun _ =>
      (consumes_pass (by decide)).steady.bind fun _ => steady_finish _

theorem guarded_furtherItems
    {α : Type}
    {item : Parser α}
    {more : Parser (List α)}
    (itemSteady : item.Steady)
    (moreSteady : more.Steady)
    (token : Token) :
    (furtherItems item more).Guarded token false fun _ _ _ => True := by
  rw [furtherItems, bind_eq, guarded_current]
  split
  · trivial
  · split
    · next comma =>
        exact guarded_skip (by simp [comma])
          (itemSteady.bind fun _ => moreSteady.bind fun _ => steady_finish _)
            fun _ _ => trivial
    · trivial

theorem consumes_arguments : arguments.Consumes :=
  consumes_parenthesized steady_expression (steady_apply _)

theorem consumes_elements : elements.Consumes :=
  (consumes_pass (by decide)).bind fun _ =>
    steady_expression.bind fun _ =>
      (steady_apply _).bind fun _ =>
        (consumes_pass (by decide)).steady.bind fun _ => steady_finish _

theorem guarded_literal
    {α β : Type}
    {value? : Option α}
    {next : α -> Parser β}
    {token : Token}
    {moved : Bool}
    {post : β -> Token -> Bool -> Prop}
    (inside : token.kind ≠ .endOfFile)
    (steady : ∀ value, (next value).Steady)
    (ends : ∀ value after, post value after true) :
    ((literal value?).bind next).Guarded token moved post := by
  cases value? with
  | none => trivial
  | some value => exact ⟨inside, fun after => steady value after post ends⟩

theorem guarded_referenceOrCall
    {position : Position}
    {name : String}
    {token : Token}
    {moved : Bool}
    {post : Expr -> Token -> Bool -> Prop}
    (inside : token.kind ≠ .endOfFile)
    (ends : ∀ value after, post value after true) :
    (referenceOrCall position name).Guarded token moved post := by
  refine guarded_skip inside (steady_current fun next => ?_) ends
  split
  · exact consumes_arguments.steady.bind fun _ => steady_finish _
  · exact steady_finish _

theorem consumes_atom : atom.Consumes := by
  intro token moved post ends
  rw [atom, bind_eq, guarded_current]
  split
  · next kind =>
      exact guarded_literal (by simp [kind]) (fun _ => steady_finish _) ends
  · next kind =>
      exact guarded_literal (by simp [kind]) (fun _ => steady_finish _) ends
  · next kind => exact guarded_skip (by simp [kind]) (steady_finish _) ends
  · next kind => exact guarded_skip (by simp [kind]) (steady_finish _) ends
  · next kind => exact guarded_referenceOrCall (by simp [kind]) ends
  · exact consumes_enclosed (by decide) (by decide) token moved post ends
  · next kind =>
      exact guarded_skip (by simp [kind])
        ((consumes_expect (by decide)).steady.bind fun _ =>
          consumes_elements.steady.bind fun _ => steady_finish _)
        ends
  · exact (consumes_elements.bind fun _ => steady_finish _) token
      moved post ends
  · trivial

theorem consumes_fieldSelection : fieldSelection.Consumes := by
  refine consumes_here fun _ => consumes_atom.bind fun _ => ?_
  intro token post ends
  rw [bind_eq, guarded_current]
  split
  · next kind =>
      exact guarded_skip (by simp [kind])
        ((consumes_expect (by decide)).steady.bind fun _ => steady_finish _)
          ends
  · exact ends _ token

theorem guarded_indices
    (token : Token) :
    indices.Guarded token false fun _ _ _ => True := by
  rw [indices, bind_eq, guarded_current]
  split
  · exact ((consumes_enclosed (by decide) (by decide)).bind fun _ =>
      (steady_apply _).bind fun _ => steady_finish _) token false _ fun _ _ =>
        trivial
  · trivial

theorem consumes_elementSelection : elementSelection.Consumes :=
  consumes_here fun _ =>
    consumes_fieldSelection.bind fun _ =>
      (steady_apply _).bind fun _ => steady_finish _

theorem consumes_range : range.Consumes :=
  (consumes_pass (by decide)).bind fun _ =>
    steady_expression.bind fun _ =>
      (consumes_pass (by decide)).steady.bind fun _ =>
        steady_expression.bind fun _ =>
          (consumes_pass (by decide)).steady.bind fun _ =>
            steady_expression.bind fun _ =>
              (consumes_pass (by decide)).steady.bind fun _ => steady_finish _

theorem steady_subrangeOf
    (position : Position)
    (base : Expr) :
    (subrangeOf position base).Steady := by
  refine consumes_range.steady.bind fun _ => steady_current fun token => ?_
  split
  · exact consumes_range.steady.bind fun _ => steady_finish _
  · exact steady_finish _

theorem consumes_subrange : subrange.Consumes := by
  refine consumes_here fun _ =>
    consumes_elementSelection.bind fun _ => steady_current fun token => ?_
  split
  · exact steady_subrangeOf _ _
  · exact steady_finish _

theorem consumes_chain
    {level : Level}
    {operand : Parser Expr}
    (consumes : operand.Consumes) :
    (chain level operand).Consumes :=
  consumes_here fun _ =>
    consumes.bind fun _ => (steady_apply _).bind fun _ => steady_finish _

theorem consumes_dotProduct : dotProduct.Consumes :=
  consumes_chain (consumes_chain consumes_subrange)

theorem dimension?_endOfFile : dimension? .endOfFile = none :=
  rfl

theorem consumes_dimension : dimension.Consumes := by
  refine consumes_here fun _ => consumes_dotProduct.bind fun _ => ?_
  intro token post ends
  rw [bind_eq, guarded_current]
  split
  · next operator found =>
      refine guarded_skip (fun atEnd => ?_) (steady_finish _) ends
      rw [atEnd, dimension?_endOfFile] at found
      cases found
  · exact ends _ token

theorem consumes_power : power.Consumes := by
  refine consumes_here fun _ => consumes_dimension.bind fun _ => ?_
  intro token post ends
  rw [bind_eq, guarded_current]
  split
  · next kind =>
      exact guarded_skip (by simp [kind])
        ((steady_apply .power).bind fun _ => steady_finish _) ends
  · exact ends _ token

theorem consumes_prefixed
    {kind : Token.Kind}
    {operator : UnaryOp}
    {operand : Parser Expr}
    (inside : kind ≠ .endOfFile)
    (consumes : operand.Consumes) :
    (prefixed kind operator operand).Consumes := by
  intro token moved post ends
  rw [prefixed, bind_eq, guarded_current]
  split
  · next same =>
      exact guarded_skip (same ▸ inside)
        (consumes.steady.bind fun _ => steady_finish _) ends
  · exact consumes token moved post ends

theorem consumes_minus : minus.Consumes :=
  consumes_prefixed (by decide) consumes_power

theorem consumes_additive : additive.Consumes :=
  consumes_chain (consumes_chain consumes_minus)

theorem consumes_negation : negation.Consumes :=
  consumes_prefixed (by decide) (consumes_chain consumes_additive)

theorem consumes_disjunction : disjunction.Consumes :=
  consumes_chain (consumes_chain consumes_negation)

theorem consumes_selection : selection.Consumes := by
  refine consumes_here fun _ => consumes_disjunction.bind fun _ => ?_
  intro token post ends
  rw [bind_eq, guarded_current]
  split
  · next kind =>
      exact guarded_skip (by simp [kind])
        (consumes_disjunction.steady.bind fun _ =>
          (consumes_pass (by decide)).steady.bind fun _ =>
            consumes_disjunction.steady.bind fun _ => steady_finish _)
        ends
  · exact ends _ token

theorem consumes_operand (level : Level) : (operand level).Consumes :=
  match level with
  | .disjunction => consumes_chain consumes_negation
  | .conjunction => consumes_negation
  | .comparison => consumes_additive
  | .additive => consumes_chain consumes_minus
  | .multiplicative => consumes_minus
  | .dotProduct => consumes_chain consumes_subrange
  | .matrixProduct => consumes_subrange

theorem guarded_operands
    (level : Level)
    (token : Token) :
    (operands level).Guarded token false fun _ _ _ => True := by
  rw [operands, bind_eq, guarded_current]
  split
  · next operator found =>
      refine guarded_skip (fun atEnd => ?_)
        ((consumes_operand level).steady.bind fun _ =>
          (steady_apply _).bind fun _ => steady_finish _)
        fun _ _ => trivial
      rw [atEnd, Level.operator?_endOfFile] at found
      cases found
  · trivial

theorem guarded_furtherElements
    (token : Token) :
    furtherElements.Guarded token false fun _ _ _ => True := by
  rw [furtherElements, bind_eq, guarded_current]
  split
  · next kind =>
      exact guarded_skip (by simp [kind])
        (steady_expression.bind fun _ =>
          (steady_apply _).bind fun _ => steady_finish _)
        fun _ _ => trivial
  · trivial

/-! ## Types -/

theorem consumes_scalar : scalar.Consumes := by
  intro token moved post ends
  rw [scalar, bind_eq, guarded_current]
  split
  · next kind => exact guarded_skip (by simp [kind]) (steady_finish _) ends
  · next kind => exact guarded_skip (by simp [kind]) (steady_finish _) ends
  · trivial

theorem consumes_elementType : elementType.Consumes :=
  (consumes_pass (by decide)).bind fun _ =>
    consumes_scalar.steady.bind fun _ =>
      (consumes_pass (by decide)).steady.bind fun _ => steady_finish _

theorem steady_size : size.Steady :=
  (consumes_enclosed (by decide) (by decide)).steady

theorem consumes_vectorType : vectorType.Consumes :=
  (consumes_pass (by decide)).bind fun _ =>
    consumes_elementType.steady.bind fun _ =>
      steady_size.bind fun _ => steady_finish _

theorem consumes_matrixType : matrixType.Consumes :=
  (consumes_pass (by decide)).bind fun _ =>
    consumes_elementType.steady.bind fun _ =>
      steady_size.bind fun _ => steady_size.bind fun _ => steady_finish _

theorem consumes_type : type.Consumes := by
  intro token moved post ends
  rw [type, bind_eq, guarded_current]
  split
  · next kind => exact guarded_skip (by simp [kind]) (steady_finish _) ends
  · next kind => exact guarded_skip (by simp [kind]) (steady_finish _) ends
  · next kind => exact guarded_skip (by simp [kind]) (steady_finish _) ends
  · next kind => exact guarded_skip (by simp [kind]) (steady_finish _) ends
  · next kind => exact guarded_skip (by simp [kind]) (steady_finish _) ends
  · exact consumes_vectorType token moved post ends
  · exact consumes_matrixType token moved post ends
  · next kind => exact guarded_skip (by simp [kind]) (steady_finish _) ends
  · trivial

theorem consumes_mutability : mutability.Consumes := by
  intro token moved post ends
  rw [mutability, bind_eq, guarded_current]
  split
  · next kind => exact guarded_skip (by simp [kind]) (steady_finish _) ends
  · next kind => exact guarded_skip (by simp [kind]) (steady_finish _) ends
  · trivial

theorem consumes_binding : binding.Consumes :=
  consumes_here fun _ =>
    consumes_mutability.bind fun _ =>
      consumes_type.steady.bind fun _ =>
        (consumes_expect (by decide)).steady.bind fun _ => steady_finish _

/-! ## Statements -/

theorem consumes_define : define.Consumes :=
  consumes_here fun _ =>
    (consumes_pass (by decide)).bind fun _ =>
      consumes_type.steady.bind fun _ =>
        (consumes_expect (by decide)).steady.bind fun _ =>
          (consumes_pass (by decide)).steady.bind fun _ =>
            steady_expression.bind fun _ =>
              (consumes_pass (by decide)).steady.bind fun _ => steady_finish _

theorem consumes_declare : declare.Consumes :=
  consumes_here fun _ =>
    (consumes_pass (by decide)).bind fun _ =>
      consumes_type.steady.bind fun _ =>
        (consumes_expect (by decide)).steady.bind fun _ =>
          (consumes_pass (by decide)).steady.bind fun _ => steady_finish _

theorem consumes_returnValue : returnValue.Consumes :=
  consumes_here fun _ =>
    (consumes_pass (by decide)).bind fun _ =>
      steady_expression.bind fun _ =>
        (consumes_pass (by decide)).steady.bind fun _ => steady_finish _

theorem steady_selector : selector.Steady := by
  intro token post ends
  rw [selector, bind_eq, guarded_current]
  split
  · refine ((consumes_enclosed (by decide) (by decide)).steady.bind fun _ =>
      steady_current fun token => ?_) token post ends
    split
    · exact (consumes_enclosed (by decide) (by decide)).steady.bind fun _ =>
        steady_finish _
    · exact steady_finish _
  · next kind =>
      exact guarded_skip (by simp [kind])
        ((consumes_expect (by decide)).steady.bind fun _ => steady_finish _)
          ends
  · exact ends _ token

theorem steady_assignOrCallOf
    (position : Position)
    (name : String) :
    (assignOrCallOf position name).Steady := by
  refine steady_current fun token => ?_
  split
  · exact consumes_arguments.steady.bind fun _ => steady_finish _
  · exact steady_selector.bind fun _ =>
      (consumes_pass (by decide)).steady.bind fun _ =>
        steady_expression.bind fun _ => steady_finish _

theorem consumes_assignOrCall : assignOrCall.Consumes :=
  consumes_here fun _ =>
    (consumes_expect (by decide)).bind fun _ =>
      (steady_assignOrCallOf _ _).bind fun _ =>
        (consumes_pass (by decide)).steady.bind fun _ => steady_finish _

theorem steady_body : body.Steady :=
  steady_apply _

theorem consumes_forLoop : forLoop.Consumes :=
  consumes_here fun _ =>
    (consumes_pass (by decide)).bind fun _ =>
      (consumes_pass (by decide)).steady.bind fun _ =>
        (consumes_expect (by decide)).steady.bind fun _ =>
          (consumes_pass (by decide)).steady.bind fun _ =>
            steady_expression.bind fun _ =>
              (consumes_pass (by decide)).steady.bind fun _ =>
                steady_expression.bind fun _ =>
                  (consumes_pass (by decide)).steady.bind fun _ =>
                    (consumes_expect (by decide)).steady.bind fun _ =>
                      (consumes_pass (by decide)).steady.bind fun _ =>
                        steady_expression.bind fun _ =>
                          (consumes_pass (by decide)).steady.bind fun _ =>
                            steady_body.bind fun _ => steady_finish _

theorem consumes_foreachLoop : foreachLoop.Consumes :=
  consumes_here fun _ =>
    (consumes_pass (by decide)).bind fun _ =>
      (consumes_pass (by decide)).steady.bind fun _ =>
        consumes_binding.steady.bind fun _ =>
          (consumes_pass (by decide)).steady.bind fun _ =>
            steady_expression.bind fun _ =>
              (consumes_pass (by decide)).steady.bind fun _ =>
                steady_body.bind fun _ => steady_finish _

theorem consumes_conditional : conditional.Consumes := by
  refine consumes_here fun _ =>
    (consumes_pass (by decide)).bind fun _ =>
      (consumes_enclosed (by decide) (by decide)).steady.bind fun _ =>
        steady_body.bind fun _ => ?_
  intro token post ends
  rw [bind_eq, guarded_current]
  split
  · next kind =>
      exact guarded_skip (by simp [kind])
        (steady_body.bind fun _ => steady_finish _) ends
  · exact ends _ token

theorem consumes_case : case.Consumes :=
  consumes_here fun _ =>
    (consumes_pass (by decide)).bind fun _ =>
      steady_expression.bind fun _ =>
        (consumes_pass (by decide)).steady.bind fun _ =>
          steady_body.bind fun _ => steady_finish _

theorem consumes_otherwise : otherwise.Consumes :=
  consumes_here fun _ =>
    (consumes_pass (by decide)).bind fun _ =>
      (consumes_pass (by decide)).steady.bind fun _ =>
        steady_body.bind fun _ => steady_finish _

theorem guarded_clauses
    (afterDefault : Bool)
    (token : Token) :
    (clauses afterDefault).Guarded token false fun _ _ _ => True := by
  rw [clauses, bind_eq, guarded_current]
  split
  · exact (consumes_case.bind fun _ =>
        (steady_apply _).bind fun _ => steady_finish _)
      token false _ fun _ _ => trivial
  · split
    · exact (consumes_otherwise.bind fun _ =>
          (steady_apply _).bind fun _ => steady_finish _)
        token false _ fun _ _ => trivial
    · split <;> trivial

theorem consumes_switch : switch.Consumes :=
  consumes_here fun _ =>
    (consumes_pass (by decide)).bind fun _ =>
      (consumes_enclosed (by decide) (by decide)).steady.bind fun _ =>
        (consumes_pass (by decide)).steady.bind fun _ =>
          (steady_apply _).bind fun _ =>
            (consumes_pass (by decide)).steady.bind fun _ => steady_finish _

theorem consumes_block : block.Consumes :=
  (consumes_pass (by decide)).bind fun _ =>
    (steady_apply _).bind fun _ =>
      (consumes_pass (by decide)).steady.bind fun _ => steady_finish _

theorem consumes_compound : compound.Consumes :=
  consumes_here fun _ => consumes_block.bind fun _ => steady_finish _

theorem consumes_statementForm
    {kind : Token.Kind}
    {form : Parser Stmt}
    (found : statementForm? kind = some form) :
    form.Consumes := by
  unfold statementForm? at found
  split at found <;> cases found
  · exact consumes_define
  · exact consumes_declare
  · exact consumes_returnValue
  · exact consumes_assignOrCall
  · exact consumes_forLoop
  · exact consumes_foreachLoop
  · exact consumes_conditional
  · exact consumes_switch
  · exact consumes_compound

theorem consumes_statement : statement.Consumes := by
  intro token moved post ends
  rw [statement, bind_eq, guarded_current]
  cases found : statementForm? token.kind with
  | none => trivial
  | some form => exact consumes_statementForm found token moved post ends

theorem guarded_statements
    (token : Token) :
    statements.Guarded token false fun _ _ _ => True := by
  rw [statements, bind_eq, guarded_current]
  split
  · trivial
  · split
    · exact (consumes_statement.bind fun _ =>
          (steady_apply _).bind fun _ => steady_finish _)
        token false _ fun _ _ => trivial
    · trivial

/-! ## Declarations -/

theorem consumes_parameter : parameter.Consumes :=
  consumes_here fun _ =>
    consumes_type.bind fun _ =>
      (consumes_expect (by decide)).steady.bind fun _ => steady_finish _

theorem consumes_function : function.Consumes :=
  consumes_here fun _ =>
    (consumes_pass (by decide)).bind fun _ =>
      consumes_type.steady.bind fun _ =>
        (consumes_expect (by decide)).steady.bind fun _ =>
          (consumes_parenthesized consumes_parameter.steady
              (steady_apply _)).steady.bind fun _ =>
            consumes_block.steady.bind fun _ => steady_finish _

theorem consumes_recordElement : recordElement.Consumes :=
  consumes_binding.bind fun _ =>
    (consumes_pass (by decide)).steady.bind fun _ => steady_finish _

theorem guarded_furtherRecordElements
    (token : Token) :
    furtherRecordElements.Guarded token false fun _ _ _ => True := by
  rw [furtherRecordElements, bind_eq, guarded_current]
  split
  · trivial
  · split
    · exact (consumes_recordElement.bind fun _ =>
          (steady_apply _).bind fun _ => steady_finish _)
        token false _ fun _ _ => trivial
    · trivial

theorem consumes_record : record.Consumes :=
  consumes_here fun _ =>
    (consumes_pass (by decide)).bind fun _ =>
      (consumes_expect (by decide)).steady.bind fun _ =>
        (consumes_pass (by decide)).steady.bind fun _ =>
          consumes_recordElement.steady.bind fun _ =>
            (steady_apply _).bind fun _ =>
              (consumes_pass (by decide)).steady.bind fun _ => steady_finish _

theorem guarded_declarations
    (token : Token) :
    declarations.Guarded token false fun _ _ _ => True := by
  rw [declarations, bind_eq, guarded_current]
  split
  · exact (consumes_function.bind fun _ =>
      (steady_emit _).bind fun _ =>
        (steady_apply _).bind fun _ => steady_finish _)
      token false _ fun _ _ => trivial
  · exact (consumes_record.bind fun _ =>
      (steady_emit _).bind fun _ =>
        (steady_apply _).bind fun _ => steady_finish _)
      token false _ fun _ _ => trivial
  · trivial
  · trivial

end Grammar

/--
Every rule moves before it calls a rule and never moves over the end of the
file.
-/
theorem Rule.guarded_body
    (rule : Rule)
    (token : Token) :
    rule.body.Guarded token false fun _ _ _ => True :=
  match rule with
  | .expression => Grammar.consumes_selection token false _ fun _ _ => trivial
  | .power => Grammar.consumes_power token false _ fun _ _ => trivial
  | .operands level => Grammar.guarded_operands level token
  | .indices => Grammar.guarded_indices token
  | .arguments =>
      Grammar.guarded_furtherItems Grammar.steady_expression
        (Parser.steady_apply _) token
  | .elements => Grammar.guarded_furtherElements token
  | .statement => Grammar.consumes_statement token false _ fun _ _ => trivial
  | .statements => Grammar.guarded_statements token
  | .parameters =>
      Grammar.guarded_furtherItems Grammar.consumes_parameter.steady
        (Parser.steady_apply _) token
  | .bindings => Grammar.guarded_furtherRecordElements token
  | .clauses afterDefault => Grammar.guarded_clauses afterDefault token
  | .declarations => Grammar.guarded_declarations token

end MatrixLang
