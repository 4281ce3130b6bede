import MatrixLang.Proofs.Parses
import MatrixLang.Proofs.Reading.Declaration

/-!
# Expressions are read by the grammar

`Grammar.contract` ties every rule to its form and to the trees that it reads.
The parsers of expressions keep it: what they take is a word of their layer, the
tree they yield is read from it, and where they fail every expected kind leads
on.
-/

namespace MatrixLang

/-- The words that a rule takes. -/
def Rule.form : Rule -> Form
  | .expression => .expression
  | .power => .tier .power
  | .operands level => .operands level
  | .indices => .indices
  | .arguments => .further .expression
  | .elements => .further .expression
  | .statement => .statement
  | .statements => .many .statement
  | .parameters => .further .parameter
  | .bindings => .many .recordElement
  | .clauses false => .clauses
  | .clauses true => .many .case
  | .declarations => .module

/--
The kinds that close what a rule is a part of, where it reports them as
expected.
-/
def Rule.closers : Rule -> List Token.Kind
  | .arguments | .parameters => [.closeParen]
  | .statements | .bindings | .clauses _ => [.closeCurly]
  | _ => []

/-- What a statement reads; no `else` stands behind an open conditional. -/
def Stmt.Taken
    (tokens : List Token)
    (statement : Stmt)
    (after : Token) : Prop :=
  Passage.statement.Reads tokens statement ∧
    (statement.endsOpen = true -> after.kind ≠ .elseWord)

/-- What a rule reads from tokens in front of a lookahead token. -/
def Rule.Reads : (rule : Rule) -> List Token -> rule.Result -> Token -> Prop
  | .expression => fun tokens expr _ => Phrase.expression.Reads tokens expr
  | .power => fun tokens expr _ => (Phrase.tier .power).Reads tokens expr
  | .operands level =>
      fun tokens pairs _ => (Phrase.operands level).Reads tokens pairs
  | .indices => fun tokens list _ => Phrase.indices.Reads tokens list
  | .arguments => fun tokens list _ => Phrase.further.Reads tokens list
  | .elements => fun tokens list _ => Phrase.further.Reads tokens list
  | .statement => Stmt.Taken
  | .statements => fun tokens list _ => Passage.statements.Reads tokens list
  | .parameters => fun tokens list _ => Parameter.FurtherReads tokens list
  | .bindings => fun tokens list _ => Record.ElementsRead tokens list
  | .clauses afterDefault =>
      fun tokens list _ => (Passage.clauses afterDefault).Reads tokens list
  | .declarations => fun tokens list after =>
      Declaration.AllRead tokens list ∧ after.kind = .endOfFile

namespace Grammar

open MatrixLang.Parser

/-- The contract of the grammar. -/
def contract : Contract where
  form := Rule.form
  closers := Rule.closers
  reads := Rule.Reads

/--
A parser takes words of a form and reads trees from them, whatever stands
behind.
-/
abbrev Follows
    {α : Type}
    (form : Form)
    (reads : List Token -> α -> Prop)
    (parser : Parser α) : Prop :=
  parser.Parses contract form [] fun tokens value _ => reads tokens value

/-- The first tokens of a start have its position. -/
theorem startOf_of_starts
    {token after : Token}
    {tokens : List Token}
    (starts : Starts token tokens after)
    (nonempty : tokens ≠ []) :
    startOf tokens = token.position := by
  cases tokens with
  | nil => exact absurd rfl nonempty
  | cons head tail =>
      cases starts
      rfl

theorem parses_expression :
    Follows .expression Phrase.expression.Reads expression :=
  parses_apply .expression

theorem parses_enclosed
    (left right : Token.Kind)
    (leftFixed : Fixed left)
    (rightFixed : Fixed right) :
    Follows (.enclosed left right) (Phrase.enclosed left right).Reads
      (enclosed left right) := by
  intro token
  refine parsesAt_pass left leftFixed fun leftSame after => ?_
  refine (parses_expression after).bind fun inner tokens middle read _ => ?_
  refine parsesAt_pass right rightFixed fun rightSame last => ?_
  exact parsesAt_finish (.enclosed leftSame read rightSame)

/-- What is read from the tokens between two others. -/
def Between
    {α : Type}
    (left right : Token.Kind)
    (inside : List Token -> α -> Prop)
    (tokens : List Token)
    (value : α) : Prop :=
  ∃ first inner last, tokens = first :: (inner ++ [last]) ∧
    first.kind = left ∧ inside inner value ∧ last.kind = right

/-! ## Lists -/

section Lists

variable {α : Type} {item : Parser α} {more : Parser (List α)} {form : Form}
  {itemReads : List Token -> α -> Prop} {listReads : List Token ->
    List α -> Prop}

/-- The rest of a list between parentheses is read as the list itself says. -/
theorem parses_furtherItems
    (itemParses : Follows form itemReads item)
    (moreParses : more.Parses contract (.further form) [.closeParen]
      fun tokens list _ => listReads tokens list)
    (nothing : listReads [] [])
    (further : ∀ comma front back value list,
      comma.kind = .comma -> itemReads front value -> listReads back list ->
        listReads (comma :: (front ++ back)) (value :: list)) :
    (furtherItems item more).Parses contract (.further form) [.closeParen]
      fun tokens list _ => listReads tokens list := by
  intro token
  refine parsesAt_current ?_
  split
  · exact (parsesAt_finish nothing).none
  · next notClosing =>
      split
      · next comma =>
          refine ParsesAt.morePairs ?_
          refine Fixed.parsesAt_skip rfl comma fun after => ?_
          refine (itemParses after).bind fun first front middle read _ => ?_
          refine (moreParses middle).last fun rest back last others _ => ?_
          exact further token front back first rest comma read others
      · next notComma =>
          refine parsesAt_unexpected (by decide)
            (by simp [Expected.separator, *]) ?_
          intro kind member
          simp only [Expected.separator, List.mem_cons, List.not_mem_nil,
            or_false] at member
          rcases member with rfl | rfl
          · exact .inl (Form.Opens.single .comma).seq.many
          · exact .inr ⟨by simp, .none⟩

/-- A list between parentheses is read as its items say. -/
theorem parses_parenthesized
    {allRead : List Token -> List α -> Prop}
    (itemParses : Follows form itemReads item)
    (moreParses : more.Parses contract (.further form) [.closeParen]
      fun tokens list _ => listReads tokens list)
    (nothing : allRead [] [])
    (some : ∀ front back value list, itemReads front value ->
      listReads back list -> allRead (front ++ back) (value :: list)) :
    Follows (.parenthesized form) (Between .openParen .closeParen allRead)
      (parenthesized item more) := by
  have itemsParse : (items item more).Parses contract
      (.optional (.sequence [form, .further form])) [.closeParen]
      fun tokens list _ => allRead tokens list := by
    intro token
    refine parsesAt_current ?_
    split
    · exact (parsesAt_finish nothing).absent
    · refine ParsesAt.present
        ((itemParses token).bind fun first front middle read _ => ?_)
      refine (moreParses middle).last fun rest back last others _ => ?_
      exact some front back first rest read others
  intro token
  refine parsesAt_pass .openParen rfl fun leftKind after => ?_
  refine (itemsParse after).bindClosing fun list inner middle read _ => ?_
  refine parsesAt_pass .closeParen rfl fun rightKind last => ?_
  exact parsesAt_finish ⟨token, inner, middle, rfl, leftKind, read, rightKind⟩

end Lists

/-! ## Atoms -/

theorem parses_furtherArguments :
    furtherArguments.Parses contract (.further .expression) [.closeParen]
      fun tokens list _ => Phrase.further.Reads tokens list :=
  parses_furtherItems parses_expression (parses_apply .arguments)
    .nothingFurther
    fun _ _ _ _ _ comma read others => .further comma read others

theorem parses_arguments :
    Follows .call (Between .openParen .closeParen Phrase.arguments.Reads)
      arguments :=
  parses_parenthesized parses_expression (parses_apply .arguments) .noArguments
    fun _ _ _ _ read others => .arguments read others

theorem parses_furtherElements :
    Follows (.further .expression) Phrase.further.Reads furtherElements := by
  intro token
  refine parsesAt_current ?_
  split
  · next comma =>
      refine ParsesAt.morePairs ?_
      refine Fixed.parsesAt_skip rfl comma fun after => ?_
      refine (parses_expression after).bind fun first front middle read _ => ?_
      refine (parses_apply .elements middle).last fun rest back last others _ =>
        ?_
      exact .further comma read others
  · exact (parsesAt_finish .nothingFurther).none

theorem parses_elements : Follows .elements Phrase.elements.Reads elements := by
  intro token
  refine parsesAt_pass .openBracket rfl fun leftKind after => ?_
  refine (parses_expression after).bind fun first front middle read _ => ?_
  refine (parses_apply .elements middle).bind fun rest back middle others _ =>
    ?_
  refine parsesAt_pass .closeBracket rfl fun rightKind last => ?_
  exact parsesAt_finish (.elements leftKind read others rightKind)

/--
A literal with a value is taken; one without a value is refused where it stands.
-/
theorem parsesAt_literal
    {α β : Type}
    {token : Token}
    {kind : Token.Kind}
    {value? : Option α}
    {make : α -> β}
    {reads : List Token -> β -> Token -> Prop}
    (same : token.kind = kind)
    (inside : kind ≠ .endOfFile)
    (readable : value?.isSome -> token.Readable)
    (read :
      ∀ value after, value? = some value -> reads [token] (make value) after) :
    ((literal value?).bind fun value => .finish (make value)).ParsesAt
      contract token
      (.kind kind) [] reads := by
  cases value? with
  | none =>
      intro goal post taken leads ends
      exact (leads _ (.inl (.kind kind))).of_append
  | some value =>
      change (skip.bind fun _ => .finish (make value)).ParsesAt
        contract token _ _ _
      refine ParsesAt.words (fun _ derived => derived.of_seq_empty) ?_
      refine parsesAt_skip same inside (readable rfl) fun after => ?_
      exact parsesAt_finish (read value after rfl)

theorem parsesAt_referenceOrCall
    {token : Token}
    (kind : token.kind = .identifier) :
    (referenceOrCall token.position token.spelling).ParsesAt contract token
      (.sequence [.kind .identifier, .optional .call]) []
      fun tokens expr _ => (Phrase.tier .atom).Reads tokens expr := by
  refine Fixed.parsesAt_skip rfl kind fun after =>
    parsesAt_current (ParsesAt.final ?_)
  split
  · refine ParsesAt.present
      (ParsesAt.words (fun _ derived => derived.of_seq_empty) ?_)
    refine (parses_arguments after).last fun list tokens last read _ => ?_
    obtain ⟨left, inner, right, rfl, leftKind, innerRead, rightKind⟩ := read
    exact .call kind leftKind innerRead rightKind
  · exact (parsesAt_finish (.reference kind)).absent

/-- A parser of one token of a kind, which takes that token. -/
theorem parsesAt_alone
    {α : Type}
    {token : Token}
    {kind : Token.Kind}
    {value : α}
    {reads : List Token -> α -> Token -> Prop}
    (same : token.kind = kind)
    (fixed : Fixed kind)
    (read : ∀ after, reads [token] value after) :
    (skip.bind fun _ => .finish value).ParsesAt contract token (.kind kind)
      [] reads := by
  refine ParsesAt.words (fun _ derived => derived.of_seq_empty) ?_
  exact fixed.parsesAt_skip same fun after => parsesAt_finish (read after)

theorem parsesAt_recordLiteral
    {token : Token}
    (kind : token.kind = .atSign) :
    (recordLiteral token.position).ParsesAt contract token
      (.sequence [.kind .atSign, .kind .identifier, .elements]) []
      fun tokens expr _ => (Phrase.tier .atom).Reads tokens expr := by
  refine Fixed.parsesAt_skip rfl kind fun after => ?_
  refine parsesAt_expect .identifier rfl fun nameKind middle => ?_
  refine (parses_elements middle).last fun list tokens last read _ => ?_
  exact .record kind nameKind read

theorem parsesAt_aggregate
    {token : Token} :
    (aggregate token.position).ParsesAt contract token .elements []
      fun tokens expr _ => (Phrase.tier .atom).Reads tokens expr := by
  refine ParsesAt.words (fun _ derived => derived.of_seq_empty) ?_
  refine (parses_elements token).last fun list tokens last read starts => ?_
  rw [← startOf_of_starts starts (read.ne_nil rfl)]
  exact .aggregate read

/-- An atom starts with any of the kinds that are expected there. -/
theorem opens_atom
    {kind : Token.Kind}
    (member : kind ∈ Expected.atom) :
    Form.atom.Opens kind := by
  have name :
      (Form.sequence [.kind .identifier, .optional .call]).Opens .identifier :=
    (Form.Opens.single _).seq
  have enclosed : (Form.enclosed .openParen .closeParen).Opens .openParen :=
    (Form.Opens.single _).seq
  have record : (Form.sequence [.kind .atSign, .kind .identifier,
      .elements]).Opens .atSign :=
    (Form.Opens.single _).seq
  have list : Form.elements.Opens .openBracket := (Form.Opens.single _).seq
  simp only [Expected.atom, List.mem_cons, List.not_mem_nil, or_false] at member
  rcases member with rfl | rfl | rfl | rfl | rfl | rfl | rfl | rfl
  · exact (Form.Opens.single .intLiteral).oneOf (by simp)
  · exact (Form.Opens.single .floatLiteral).oneOf (by simp)
  · exact (Form.Opens.single .boolLiteral).oneOf (by simp)
  · exact (Form.Opens.single .stringLiteral).oneOf (by simp)
  · exact name.oneOf (by simp)
  · exact enclosed.oneOf (by simp)
  · exact list.oneOf (by simp)
  · exact record.oneOf (by simp)

theorem parses_atom : Follows (.tier .atom) (Phrase.tier .atom).Reads atom := by
  intro token
  refine ParsesAt.symbol (parsesAt_current ?_)
  split
  · next kind =>
      refine ParsesAt.oneOf (parsesAt_literal kind (by decide) ?_ ?_) (by simp)
      · intro present
        exact ⟨fun _ =>
          present, fun float => absurd (kind.symm.trans float) (by decide)⟩
      · exact fun value _ found => .int kind found
  · next kind =>
      refine ParsesAt.oneOf (parsesAt_literal kind (by decide) ?_ ?_) (by simp)
      · intro present
        exact ⟨fun int => absurd (kind.symm.trans int) (by decide),
          fun _ => present⟩
      · exact fun value _ found => .float kind found
  · next kind =>
      exact (parsesAt_alone kind rfl fun _ => .bool kind).oneOf (by simp)
  · next kind =>
      exact (parsesAt_alone kind rfl fun _ => .string kind).oneOf (by simp)
  · next kind => exact (parsesAt_referenceOrCall kind).oneOf (by simp)
  · refine ParsesAt.oneOf (parses_enclosed .openParen .closeParen rfl rfl token)
      (by simp) |>.trees ?_
    exact fun _ _ _ read _ => .parenthesized read
  · next kind => exact (parsesAt_recordLiteral kind).oneOf (by simp)
  · exact parsesAt_aggregate.oneOf (by simp)
  · refine parsesAt_unexpected (by decide) ?_ fun kind member =>
      .inl (opens_atom member)
    simp only [Expected.atom, List.mem_cons, List.not_mem_nil, or_false, not_or]
    refine ⟨?_, ?_, ?_, ?_, ?_, ?_, ?_, ?_⟩ <;> assumption

/-! ## Selections -/

theorem parses_fieldSelection :
    Follows (.tier .fieldSelection) (Phrase.tier .fieldSelection).Reads
      fieldSelection := by
  intro token
  refine ParsesAt.symbol (parsesAt_here ?_)
  refine (parses_atom token).bind fun base tokens middle read starts => ?_
  rw [← startOf_of_starts starts (read.ne_nil rfl)]
  refine parsesAt_current (ParsesAt.final ?_)
  split
  · next sign =>
      refine ParsesAt.present ?_
      refine Fixed.parsesAt_skip rfl sign fun after => ?_
      refine parsesAt_expect .identifier rfl fun nameKind last => ?_
      exact parsesAt_finish (.field read sign nameKind)
  · refine ParsesAt.absent (parsesAt_finish ?_)
    rw [List.append_nil]
    exact .bare rfl read

theorem parses_indices : Follows .indices Phrase.indices.Reads indices := by
  intro token
  refine parsesAt_current ?_
  split
  · refine ParsesAt.more ?_
    refine (parses_enclosed .openBracket .closeBracket rfl rfl token).bind
      fun first front middle read _ => ?_
    refine (parses_apply .indices middle).last fun rest back last others _ => ?_
    exact .index read others
  · exact (parsesAt_finish .noIndices).none

theorem parses_elementSelection :
    Follows (.tier .elementSelection) (Phrase.tier .elementSelection).Reads
      elementSelection := by
  intro token
  refine ParsesAt.symbol (parsesAt_here ?_)
  refine (parses_fieldSelection token).bind
    fun base tokens middle read starts => ?_
  rw [← startOf_of_starts starts (read.ne_nil rfl)]
  refine (parses_apply .indices middle).last fun list rest last indices _ => ?_
  exact .element read indices

theorem parses_range : Follows .range Phrase.range.Reads range := by
  intro token
  refine parsesAt_pass .openCurly rfl fun leftKind after => ?_
  refine (parses_expression after).bind fun first tokens middle read _ => ?_
  refine parsesAt_pass .colon rfl fun colonKind after => ?_
  refine (parses_expression after).bind
    fun origin originTokens middle originRead _ => ?_
  refine parsesAt_pass .colon rfl fun secondColonKind after => ?_
  refine (parses_expression after).bind fun last lastTokens middle lastRead _ =>
    ?_
  refine parsesAt_pass .closeCurly rfl fun rightKind after => ?_
  exact parsesAt_finish
    (.range leftKind read colonKind originRead secondColonKind
      lastRead rightKind)

theorem parses_subrange :
    Follows (.tier .subrange) (Phrase.tier .subrange).Reads subrange := by
  intro token
  refine ParsesAt.symbol (parsesAt_here ?_)
  refine (parses_elementSelection token).bind
    fun base tokens middle read starts => ?_
  rw [← startOf_of_starts starts (read.ne_nil rfl)]
  refine parsesAt_current (ParsesAt.final ?_)
  split
  · refine ParsesAt.present
      ((parses_range middle).bind fun parts rows after rowRead _ => ?_)
    obtain ⟨first, origin, last⟩ := parts
    refine parsesAt_current (ParsesAt.final ?_)
    split
    · refine ParsesAt.present
        (ParsesAt.words (fun _ derived => derived.of_seq_empty) ?_)
      refine (parses_range after).last fun parts columns last columnRead _ => ?_
      exact .submatrix read rowRead columnRead
    · refine ParsesAt.absent (parsesAt_finish ?_)
      rw [List.append_nil]
      exact .subvector read rowRead
  · refine ParsesAt.absent (parsesAt_finish ?_)
    rw [List.append_nil]
    exact .bare rfl read

/-! ## Operators -/

/-- The kinds of the operators of a level are the words of its operators. -/
theorem derives_operator
    {level : Level}
    {kind : Token.Kind}
    {operator : BinaryOp}
    (found : level.operator? kind = some operator) :
    (Form.operator level).Derives [kind] ∧ Fixed kind := by
  unfold Level.operator? at found
  split at found
  · exact ⟨.kind .or, rfl⟩
  · exact ⟨.kind .and, rfl⟩
  · obtain ⟨comparison, known, -⟩ := Option.map_eq_some_iff.1 found
    unfold Comparison.ofKind? at known
    split at known
    case h_7 => cases known
    all_goals exact ⟨.oneOf (by simp) (.kind _), rfl⟩
  · exact ⟨.oneOf (by simp) (.kind .plus), rfl⟩
  · exact ⟨.oneOf (by simp) (.kind .dash), rfl⟩
  · exact ⟨.oneOf (by simp) (.kind .star), rfl⟩
  · exact ⟨.oneOf (by simp) (.kind .slash), rfl⟩
  · exact ⟨.kind .dotProduct, rfl⟩
  · exact ⟨.kind .hash, rfl⟩
  · cases found

/-- Operands of a level with operators between them are read as a chain. -/
theorem parses_chain
    (level : Level)
    {operand : Parser Expr}
    (operandParses : Follows (.tier level.operandTier)
      (Phrase.tier level.operandTier).Reads operand) :
    Follows (.chain level) (Phrase.tier level.tier).Reads
      (chain level operand) := by
  intro token
  refine parsesAt_here ?_
  refine (operandParses token).bind fun first tokens middle read starts => ?_
  rw [← startOf_of_starts starts (read.ne_nil rfl)]
  refine (parses_apply (.operands level) middle).last
    fun pairs rest last operands _ => ?_
  exact .chain read operands

theorem parses_matrixProduct :
    Follows (.tier .matrixProduct) (Phrase.tier .matrixProduct).Reads
      matrixProduct :=
  fun token => (parses_chain .matrixProduct parses_subrange token).symbol

theorem parses_dotProduct :
    Follows (.tier .dotProduct) (Phrase.tier .dotProduct).Reads dotProduct :=
  fun token => (parses_chain .dotProduct parses_matrixProduct token).symbol

/--
The kinds that ask for a dimension are the words that stand behind an operand.
-/
theorem derives_dimension
    {kind : Token.Kind}
    {operator : UnaryOp}
    (asked : dimension? kind = some operator) :
    Form.dimension.Derives [kind] ∧ Fixed kind := by
  unfold dimension? at asked
  split at asked
  case h_4 => cases asked
  all_goals exact ⟨.oneOf (by simp) (.kind _), rfl⟩

theorem parses_dimension :
    Follows (.tier .dimension) (Phrase.tier .dimension).Reads dimension := by
  intro token
  refine ParsesAt.symbol (parsesAt_here ?_)
  refine (parses_dotProduct token).bind fun operand tokens middle read starts =>
    ?_
  rw [← startOf_of_starts starts (read.ne_nil rfl)]
  refine parsesAt_current (ParsesAt.final ?_)
  split
  · next operator asked =>
      obtain ⟨derived, fixed⟩ := derives_dimension asked
      refine ParsesAt.present (ParsesAt.words ?_
        (parsesAt_alone rfl fixed fun _ => .dimension read asked))
      intro word alone
      cases alone
      exact derived
  · refine ParsesAt.absent (parsesAt_finish ?_)
    rw [List.append_nil]
    exact .bare rfl read

theorem parses_power :
    Follows (.tier .power) (Phrase.tier .power).Reads power := by
  intro token
  refine ParsesAt.symbol (parsesAt_here ?_)
  refine (parses_dimension token).bind fun base tokens middle read starts => ?_
  rw [← startOf_of_starts starts (read.ne_nil rfl)]
  refine parsesAt_current (ParsesAt.final ?_)
  split
  · next sign =>
      refine ParsesAt.present ?_
      refine Fixed.parsesAt_skip rfl sign fun after => ?_
      refine (parses_apply .power after).last
        fun exponent rest last exponentRead _ => ?_
      exact .power read sign exponentRead
  · refine ParsesAt.absent (parsesAt_finish ?_)
    rw [List.append_nil]
    exact .bare rfl read

/-- An operand with at most one sign before it. -/
theorem parses_prefixed
    (kind : Token.Kind)
    {operator : UnaryOp}
    {operand : Parser Expr}
    {outer inner : Tier}
    (fixed : Fixed kind)
    (below : outer.bare? = some inner)
    (operandParses : Follows (.tier inner) (Phrase.tier inner).Reads operand)
    (signed : ∀ sign tokens expr, sign.kind = kind ->
      (Phrase.tier inner).Reads tokens expr -> (Phrase.tier outer).Reads
        (sign :: tokens) (.unary sign.position operator expr)) :
    Follows (.sequence [.optional (.kind kind), .tier inner])
      (Phrase.tier outer).Reads
      (prefixed kind operator operand) := by
  intro token
  refine parsesAt_current ?_
  split
  · next sign =>
      refine ParsesAt.front (fun _ derived => derived.present) ?_
      refine fixed.parsesAt_skip sign fun after => ?_
      refine (operandParses after).last fun expr tokens last read _ => ?_
      exact signed token tokens expr sign read
  · refine (operandParses token).words
      (fun _ derived => .unprefixed derived) |>.trees ?_
    exact fun _ _ _ read _ => .bare below read

theorem parses_minus :
    Follows (.tier .minus) (Phrase.tier .minus).Reads minus :=
  fun token => (parses_prefixed .dash rfl rfl parses_power
    (fun _ _ _ sign read => .negate sign read) token).symbol

theorem parses_multiplicative :
    Follows (.tier .multiplicative) (Phrase.tier .multiplicative).Reads
      multiplicative :=
  fun token => (parses_chain .multiplicative parses_minus token).symbol

theorem parses_additive :
    Follows (.tier .additive) (Phrase.tier .additive).Reads additive :=
  fun token => (parses_chain .additive parses_multiplicative token).symbol

theorem parses_comparison :
    Follows (.tier .comparison) (Phrase.tier .comparison).Reads comparison :=
  fun token => (parses_chain .comparison parses_additive token).symbol

theorem parses_negation :
    Follows (.tier .negation) (Phrase.tier .negation).Reads negation :=
  fun token => (parses_prefixed .not rfl rfl parses_comparison
    (fun _ _ _ sign read => .not sign read) token).symbol

theorem parses_conjunction :
    Follows (.tier .conjunction) (Phrase.tier .conjunction).Reads conjunction :=
  fun token => (parses_chain .conjunction parses_negation token).symbol

theorem parses_disjunction :
    Follows (.tier .disjunction) (Phrase.tier .disjunction).Reads disjunction :=
  fun token => (parses_chain .disjunction parses_conjunction token).symbol

theorem parses_selection :
    Follows (.tier .selection) (Phrase.tier .selection).Reads selection := by
  intro token
  refine ParsesAt.symbol (parsesAt_here ?_)
  refine (parses_disjunction token).bind
    fun condition tokens middle read starts => ?_
  rw [← startOf_of_starts starts (read.ne_nil rfl)]
  refine parsesAt_current (ParsesAt.final ?_)
  split
  · next question =>
      refine ParsesAt.present ?_
      refine Fixed.parsesAt_skip rfl question fun after => ?_
      refine (parses_disjunction after).bind
        fun onTrue trueTokens middle trueRead _ => ?_
      refine parsesAt_pass .colon rfl fun colonKind after => ?_
      refine (parses_disjunction after).last
        fun onFalse falseTokens last falseRead _ => ?_
      exact .select read question trueRead colonKind falseRead
  · refine ParsesAt.absent (parsesAt_finish ?_)
    rw [List.append_nil]
    exact .bare rfl read

theorem parses_operand
    (level : Level) :
    Follows (.tier level.operandTier) (Phrase.tier level.operandTier).Reads
      (operand level) :=
  match level with
  | .disjunction => parses_conjunction
  | .conjunction => parses_negation
  | .comparison => parses_additive
  | .additive => parses_multiplicative
  | .multiplicative => parses_minus
  | .dotProduct => parses_matrixProduct
  | .matrixProduct => parses_subrange

theorem parses_operands
    (level : Level) :
    Follows (.operands level) (Phrase.operands level).Reads
      (operands level) := by
  intro token
  refine parsesAt_current ?_
  split
  · next operator found =>
      refine ParsesAt.morePairs ?_
      obtain ⟨derived, fixed⟩ := derives_operator found
      refine ParsesAt.front ?_ (fixed.parsesAt_skip rfl fun after => ?_)
      · intro word alone
        cases alone
        exact derived
      · refine (parses_operand level after).bind
          fun right tokens middle read _ => ?_
        refine (parses_apply (.operands level) middle).last
          fun pairs rest last operands _ => ?_
        exact .operand found read operands
  · exact (parsesAt_finish .noOperands).none

end Grammar
end MatrixLang
