import MatrixLang.Proofs.Soundness.Expression

/-!
# Types and statements are read by the grammar

The parsers of types and statements keep the contract of the grammar.  Where a
conditional ends without an `else`, the lookahead token is no `else`: that is
what `Stmt.Taken` carries from a statement to the conditional around it.
-/

namespace MatrixLang
namespace Grammar

open MatrixLang.Parser

/-! ## Types -/

/-- The one token that a value is read from, if a table knows its kind. -/
def Listed
    {α : Type}
    (table : Token.Kind -> Option α)
    (tokens : List Token)
    (value : α) : Prop :=
  ∃ word, tokens = [word] ∧ table word.kind = some value

/-- A token whose kind is in a table is taken for what it stands for. -/
theorem parsesAt_listed
    {α : Type}
    {token : Token}
    {kind : Token.Kind}
    {table : Token.Kind -> Option α}
    {value : α}
    (same : token.kind = kind)
    (fixed : Fixed kind)
    (found : table kind = some value) :
    (skip.bind fun _ => .finish value).ParsesAt contract token (.kind kind) []
      fun tokens value _ => Listed table tokens value := by
  refine parsesAt_alone same fixed fun _ => ⟨token, rfl, ?_⟩
  rw [same]
  exact found

theorem parses_scalar :
    Follows (.oneOf (.kind .intWord) [.kind .floatWord]) (Listed Scalar.ofKind?)
      scalar := by
  intro token
  refine parsesAt_current ?_
  split
  · next kind => exact ParsesAt.oneOf (parsesAt_listed kind rfl rfl) (by simp)
  · next kind => exact ParsesAt.oneOf (parsesAt_listed kind rfl rfl) (by simp)
  · refine parsesAt_unexpected (by decide) ?_ fun kind member => .inl ?_
    · simp only [Expected.scalar, List.mem_cons, List.not_mem_nil, or_false,
        not_or]
      constructor <;> assumption
    · simp only [Expected.scalar, List.mem_cons, List.not_mem_nil,
        or_false] at member
      rcases member with rfl | rfl <;>
        exact (Form.Opens.single _).oneOf (by simp)

theorem parses_elementType : Follows .elementType Scalar.Reads elementType := by
  intro token
  refine parsesAt_pass .less rfl fun lessKind word => ?_
  refine (parses_scalar word).bind fun element tokens middle found _ => ?_
  refine parsesAt_pass .greater rfl fun greaterKind last => ?_
  obtain ⟨word, rfl, known⟩ := found
  exact parsesAt_finish (.intro lessKind known greaterKind)

theorem parses_size :
    Follows .size (Phrase.enclosed .openBracket .closeBracket).Reads size :=
  parses_enclosed .openBracket .closeBracket rfl rfl

theorem parses_vectorType :
    Follows (.sequence [.kind .vectorWord, .elementType, .size]) Ty.Reads
      vectorType := by
  intro token
  refine parsesAt_pass .vectorWord rfl fun wordKind after => ?_
  refine (parses_elementType after).bind
    fun element elementTokens middle elementRead _ => ?_
  refine (parses_size middle).last fun size tokens last sizeRead _ => ?_
  exact .vector wordKind elementRead sizeRead

theorem parses_matrixType :
    Follows (.sequence [.kind .matrixWord, .elementType, .size, .size]) Ty.Reads
      matrixType := by
  intro token
  refine parsesAt_pass .matrixWord rfl fun wordKind after => ?_
  refine (parses_elementType after).bind
    fun element elementTokens middle elementRead _ => ?_
  refine (parses_size middle).bind fun rows tokens middle rowsRead _ => ?_
  refine (parses_size middle).last fun columns rest last columnsRead _ => ?_
  exact .matrix wordKind elementRead rowsRead columnsRead

/-- A type starts with any of the kinds that are expected there. -/
theorem opens_type
    {kind : Token.Kind}
    (member : kind ∈ Expected.type) :
    Form.type.Opens kind := by
  have vector : (Form.sequence [.kind .vectorWord, .elementType, .size]).Opens
      .vectorWord :=
    (Form.Opens.single _).seq
  have matrix :
      (Form.sequence [.kind .matrixWord, .elementType, .size, .size]).Opens
        .matrixWord :=
    (Form.Opens.single _).seq
  simp only [Expected.type, List.mem_cons, List.not_mem_nil, or_false] at member
  rcases member with rfl | rfl | rfl | rfl | rfl | rfl | rfl | rfl
  · exact (Form.Opens.single .intWord).oneOf (by simp)
  · exact (Form.Opens.single .floatWord).oneOf (by simp)
  · exact (Form.Opens.single .boolWord).oneOf (by simp)
  · exact (Form.Opens.single .voidWord).oneOf (by simp)
  · exact (Form.Opens.single .stringWord).oneOf (by simp)
  · exact vector.oneOf (by simp)
  · exact matrix.oneOf (by simp)
  · exact (Form.Opens.single .identifier).oneOf (by simp)

/-- A type that is one token. -/
theorem parsesAt_simpleType
    {token : Token}
    {kind : Token.Kind}
    {type : Ty}
    (same : token.kind = kind)
    (fixed : Fixed kind)
    (found : Ty.ofKind? kind = some type) :
    (simpleType type).ParsesAt contract token (.kind kind) []
      fun tokens type _ => type.Reads tokens :=
  parsesAt_alone same fixed fun _ => .simple (same ▸ found)

theorem parses_type : Follows .type Ty.Reads type := by
  intro token
  refine parsesAt_current ?_
  split
  · next kind => exact (parsesAt_simpleType kind rfl rfl).oneOf (by simp)
  · next kind => exact (parsesAt_simpleType kind rfl rfl).oneOf (by simp)
  · next kind => exact (parsesAt_simpleType kind rfl rfl).oneOf (by simp)
  · next kind => exact (parsesAt_simpleType kind rfl rfl).oneOf (by simp)
  · next kind => exact (parsesAt_simpleType kind rfl rfl).oneOf (by simp)
  · exact (parses_vectorType token).oneOf (by simp)
  · exact (parses_matrixType token).oneOf (by simp)
  · next kind =>
      exact (parsesAt_alone kind rfl fun _ => Ty.Reads.record kind).oneOf
        (by simp)
  · refine parsesAt_unexpected (by decide) ?_ fun kind member =>
      .inl (opens_type member)
    simp only [Expected.type, List.mem_cons, List.not_mem_nil, or_false, not_or]
    refine ⟨?_, ?_, ?_, ?_, ?_, ?_, ?_, ?_⟩ <;> assumption

theorem opens_binding
    {kind : Token.Kind}
    (member : kind ∈ Expected.binding) :
    (Form.oneOf (.kind .valWord) [.kind .varWord]).Opens kind := by
  simp only [Expected.binding, List.mem_cons, List.not_mem_nil,
    or_false] at member
  rcases member with rfl | rfl <;> exact (Form.Opens.single _).oneOf (by simp)

theorem parses_mutability :
    Follows (.oneOf (.kind .valWord) [.kind .varWord]) (Listed Binding.mutable?)
      mutability := by
  intro token
  refine parsesAt_current ?_
  split
  · next kind => exact ParsesAt.oneOf (parsesAt_listed kind rfl rfl) (by simp)
  · next kind => exact ParsesAt.oneOf (parsesAt_listed kind rfl rfl) (by simp)
  · refine parsesAt_unexpected (by decide) ?_ fun kind member =>
      .inl (opens_binding member)
    simp only [Expected.binding, List.mem_cons, List.not_mem_nil, or_false,
      not_or]
    constructor <;> assumption

theorem parses_binding : Follows .binding Binding.Reads binding := by
  intro token
  refine parsesAt_here ?_
  refine (parses_mutability token).bind
    fun mutable tokens middle found starts => ?_
  obtain ⟨word, rfl, known⟩ := found
  cases starts
  refine (parses_type middle).bind fun type tokens middle typeRead _ => ?_
  refine parsesAt_expect .identifier rfl fun nameKind last => ?_
  exact parsesAt_finish (.intro known typeRead nameKind)

/-! ## Statements -/

/--
A statement that does not end in an open conditional is taken wherever it is
read.
-/
theorem taken_of_reads
    {tokens : List Token}
    {statement : Stmt}
    {after : Token}
    (read : Passage.statement.Reads tokens statement)
    (closed : statement.endsOpen = false) :
    statement.Taken tokens after := by
  refine ⟨read, fun opens => ?_⟩
  rw [closed] at opens
  cases opens

theorem parses_body : body.Parses contract .statement [] Stmt.Taken :=
  parses_apply .statement

theorem parses_define : define.Parses contract .define [] Stmt.Taken := by
  intro token
  refine parsesAt_here ?_
  refine parsesAt_pass .valWord rfl fun wordKind after => ?_
  refine (parses_type after).bind fun type typeTokens middle typeRead _ => ?_
  refine parsesAt_expect .identifier rfl fun nameKind after => ?_
  refine parsesAt_pass .assignment rfl fun assignmentKind after => ?_
  refine (parses_expression after).bind fun value tokens middle valueRead _ =>
    ?_
  refine parsesAt_pass .semicolon rfl fun semicolonKind last => ?_
  refine parsesAt_finish (taken_of_reads ?_ rfl)
  exact .define wordKind typeRead nameKind assignmentKind valueRead
    semicolonKind

theorem parses_declare : declare.Parses contract .declare [] Stmt.Taken := by
  intro token
  refine parsesAt_here ?_
  refine parsesAt_pass .varWord rfl fun wordKind after => ?_
  refine (parses_type after).bind fun type typeTokens middle typeRead _ => ?_
  refine parsesAt_expect .identifier rfl fun nameKind after => ?_
  refine parsesAt_pass .semicolon rfl fun semicolonKind last => ?_
  refine parsesAt_finish (taken_of_reads ?_ rfl)
  exact .declare wordKind typeRead nameKind semicolonKind

theorem parses_returnValue :
    returnValue.Parses contract .returnValue [] Stmt.Taken := by
  intro token
  refine parsesAt_here ?_
  refine parsesAt_pass .returnWord rfl fun wordKind after => ?_
  refine (parses_expression after).bind fun value tokens middle valueRead _ =>
    ?_
  refine parsesAt_pass .semicolon rfl fun semicolonKind last => ?_
  exact parsesAt_finish
    (taken_of_reads (.returnValue wordKind valueRead semicolonKind) rfl)

theorem parses_selector : Follows .selector Selector.Reads selector := by
  intro token
  refine parsesAt_current ?_
  split
  · refine ParsesAt.present (ParsesAt.oneOf ?_ (List.mem_cons_self ..))
    refine (parses_enclosed .openBracket .closeBracket rfl rfl token).bind
      fun index tokens middle read _ => ?_
    refine parsesAt_current (ParsesAt.final ?_)
    split
    · refine ParsesAt.present
        (ParsesAt.words (fun _ derived => derived.of_seq_empty) ?_)
      refine (parses_enclosed .openBracket .closeBracket rfl rfl middle).last
        fun column rest last columnRead _ => ?_
      exact .cell read columnRead
    · refine ParsesAt.absent (parsesAt_finish ?_)
      rw [List.append_nil]
      exact .index read
  · next sign =>
      refine ParsesAt.present
        (ParsesAt.words (fun _ derived => .right derived) ?_)
      refine Fixed.parsesAt_skip rfl sign fun after => ?_
      refine parsesAt_expect .identifier rfl fun nameKind last => ?_
      exact parsesAt_finish (.field sign nameKind)
  · exact (parsesAt_finish .whole).absent

/-- What is read behind a name becomes a statement with a semicolon. -/
def FollowsName
    (name : Token)
    (tokens : List Token)
    (statement : Stmt) : Prop :=
  statement.endsOpen = false ∧ ∀ semicolon, semicolon.kind = .semicolon ->
    Passage.statement.Reads (name :: (tokens ++ [semicolon])) statement

theorem parses_assignmentTo
    {name : Token}
    (nameKind : name.kind = .identifier) :
    Follows .assign (FollowsName name)
      (assignmentTo name.position name.spelling) := by
  intro token
  refine (parses_selector token).bind
    fun selector selectorTokens middle selectorRead _ => ?_
  refine parsesAt_pass .assignment rfl fun assignmentKind after => ?_
  refine (parses_expression after).last fun value tokens last valueRead _ =>
    ⟨rfl, ?_⟩
  intro semicolon semicolonKind
  rw [List.append_assoc]
  exact .assign nameKind selectorRead assignmentKind valueRead semicolonKind

theorem parses_assignOrCallOf
    {name : Token}
    (nameKind : name.kind = .identifier) :
    Follows (.oneOf .call [.assign]) (FollowsName name)
      (assignOrCallOf name.position name.spelling) := by
  intro token
  refine parsesAt_current ?_
  split
  · refine ParsesAt.oneOf ?_ (List.mem_cons_self ..)
    refine ParsesAt.words (fun _ derived => derived.of_seq_empty) ?_
    refine (parses_arguments token).last fun list tokens last read _ =>
      ⟨rfl, ?_⟩
    obtain ⟨left, inner, right, rfl, leftKind, innerRead, rightKind⟩ := read
    intro semicolon semicolonKind
    rw [List.cons_append, List.append_assoc]
    exact .call nameKind leftKind innerRead rightKind semicolonKind
  · exact (parses_assignmentTo nameKind token).oneOf (by simp)

theorem parses_assignOrCall :
    assignOrCall.Parses contract .assignOrCall [] Stmt.Taken := by
  intro token
  refine parsesAt_here ?_
  refine parsesAt_expect .identifier rfl fun nameKind after => ?_
  refine (parses_assignOrCallOf nameKind after).bind
    fun statement tokens middle read _ => ?_
  refine parsesAt_pass .semicolon rfl fun semicolonKind last => ?_
  exact parsesAt_finish (taken_of_reads (read.2 middle semicolonKind) read.1)

theorem parses_forLoop : forLoop.Parses contract .forLoop [] Stmt.Taken := by
  intro token
  refine parsesAt_here ?_
  refine parsesAt_pass .forWord rfl fun wordKind after => ?_
  refine parsesAt_pass .openParen rfl fun leftKind after => ?_
  refine parsesAt_expect .identifier rfl fun counterKind after => ?_
  refine parsesAt_pass .assignment rfl fun assignmentKind after => ?_
  refine (parses_expression after).bind fun init initTokens middle initRead _ =>
    ?_
  refine parsesAt_pass .semicolon rfl fun semicolonKind after => ?_
  refine (parses_expression after).bind
    fun condition conditionTokens middle conditionRead _ => ?_
  refine parsesAt_pass .semicolon rfl fun secondSemicolonKind after => ?_
  refine parsesAt_expect .identifier rfl fun stepVariableKind after => ?_
  refine parsesAt_pass .assignment rfl fun secondAssignmentKind after => ?_
  refine (parses_expression after).bind fun step stepTokens middle stepRead _ =>
    ?_
  refine parsesAt_pass .closeParen rfl fun rightKind after => ?_
  refine (parses_body after).last fun body tokens last bodyTaken _ =>
    ⟨?_, bodyTaken.2⟩
  exact .forLoop wordKind leftKind counterKind assignmentKind initRead
    semicolonKind
    conditionRead secondSemicolonKind stepVariableKind secondAssignmentKind
      stepRead rightKind
    bodyTaken.1

theorem parses_foreachLoop :
    foreachLoop.Parses contract .foreachLoop [] Stmt.Taken := by
  intro token
  refine parsesAt_here ?_
  refine parsesAt_pass .foreachWord rfl fun wordKind after => ?_
  refine parsesAt_pass .openParen rfl fun leftKind after => ?_
  refine (parses_binding after).bind
    fun iterator iteratorTokens middle iteratorRead _ => ?_
  refine parsesAt_pass .colon rfl fun colonKind after => ?_
  refine (parses_expression after).bind
    fun source sourceTokens middle sourceRead _ => ?_
  refine parsesAt_pass .closeParen rfl fun rightKind after => ?_
  refine (parses_body after).last fun body tokens last bodyTaken _ =>
    ⟨?_, bodyTaken.2⟩
  exact .foreachLoop wordKind leftKind iteratorRead colonKind sourceRead
    rightKind bodyTaken.1

/-- Where an `else` is taken, the branch before it has left none open. -/
theorem parses_conditional :
    conditional.Parses contract .conditional [] Stmt.Taken := by
  intro token
  refine parsesAt_here ?_
  refine parsesAt_pass .ifWord rfl fun wordKind after => ?_
  refine (parses_enclosed .openParen .closeParen rfl rfl after).bind
    fun condition conditionTokens middle conditionRead _ => ?_
  refine (parses_body middle).bind fun thenBody tokens middle thenTaken _ => ?_
  refine parsesAt_current (ParsesAt.final ?_)
  split
  · next elseKind =>
      have closed : thenBody.endsOpen = false := by
        rw [← Bool.not_eq_true]
        exact fun opens => thenTaken.2 opens elseKind
      refine ParsesAt.present ?_
      refine Fixed.parsesAt_skip rfl elseKind fun after => ?_
      refine (parses_body after).last
          fun elseBody elseTokens last elseTaken _ =>
        ⟨?_, elseTaken.2⟩
      exact .ifElse wordKind conditionRead thenTaken.1 closed
        elseKind elseTaken.1
  · next noElse =>
      refine ParsesAt.absent (parsesAt_finish ⟨?_, fun _ => noElse⟩)
      rw [List.append_nil]
      exact .ifThen wordKind conditionRead thenTaken.1

/-! ## Blocks and switches -/

/-- A clause may stand in front of others, before the default or behind it. -/
def Precedes
    (before after : Bool)
    (tokens : List Token)
    (clause : Clause) : Prop :=
  ∀ rest list, (Passage.clauses after).Reads rest list ->
    (Passage.clauses before).Reads (tokens ++ rest) (clause :: list)

theorem parses_case
    (afterDefault : Bool) :
    Follows .case (Precedes afterDefault afterDefault) case := by
  intro token
  refine parsesAt_here ?_
  refine parsesAt_pass .caseWord rfl fun wordKind after => ?_
  refine (parses_expression after).bind
    fun condition conditionTokens middle conditionRead _ => ?_
  refine parsesAt_pass .colon rfl fun colonKind after => ?_
  refine (parses_body after).last fun body tokens last bodyTaken _ => ?_
  exact fun rest list others =>
    .case wordKind conditionRead colonKind bodyTaken.1 others

theorem parses_otherwise :
    Follows .otherwise (Precedes false true) otherwise := by
  intro token
  refine parsesAt_here ?_
  refine parsesAt_pass .defaultWord rfl fun wordKind after => ?_
  refine parsesAt_pass .colon rfl fun colonKind after => ?_
  refine (parses_body after).last fun body tokens last bodyTaken _ => ?_
  exact fun rest list others => .otherwise wordKind colonKind bodyTaken.1 others

/-- One more case in front of the clauses of a switch. -/
theorem derives_case_clauses
    {afterDefault : Bool}
    {word : List Token.Kind}
    (derived :
      (Form.sequence [.case, (Rule.clauses afterDefault).form]).Derives word) :
    (Rule.clauses afterDefault).form.Derives word := by
  cases derived with
  | seq caseDerived behind =>
      have clausesDerived := behind.of_seq_empty
      cases afterDefault with
      | true => exact .more caseDerived clausesDerived
      | false =>
          cases clausesDerived with
          | seq casesDerived restDerived =>
              rw [← List.append_assoc]
              exact .seq (.more caseDerived casesDerived) restDerived

/-- A default in front of the cases behind it. -/
theorem derives_otherwise_clauses
    {word : List Token.Kind}
    (derived : (Form.sequence [.otherwise, .many .case]).Derives word) :
    Form.clauses.Derives word := by
  have behind : (Form.sequence
      [.optional (.sequence [.otherwise, .many .case])]).Derives word :=
    derived.present.seq_empty
  exact .seq .none behind

theorem derives_noClauses
    (afterDefault : Bool) :
    (Rule.clauses afterDefault).form.Derives [] := by
  cases afterDefault with
  | true => exact .none
  | false => exact .seq .none Form.Derives.absent.seq_empty

/--
The clauses of a switch start with any of the kinds that are expected there, or
end.
-/
theorem opens_clauses
    {afterDefault : Bool}
    {kind : Token.Kind}
    (member : kind ∈
      if afterDefault then Expected.switchAfterDefault else Expected.switch) :
    (Rule.clauses afterDefault).form.Opens kind ∨ kind = .closeCurly := by
  have case : Form.case.Opens .caseWord := (Form.Opens.single _).seq
  have otherwise : Form.otherwise.Opens .defaultWord :=
    (Form.Opens.single _).seq
  cases afterDefault with
  | true =>
      simp only [if_true, Expected.switchAfterDefault, List.mem_cons,
        List.not_mem_nil, or_false] at member
      rcases member with rfl | rfl
      · exact .inl case.many
      · exact .inr rfl
  | false =>
      simp only [Bool.false_eq_true, if_false, Expected.switch, List.mem_cons,
        List.not_mem_nil, or_false] at member
      rcases member with rfl | rfl | rfl
      · exact .inl case.many.seq
      · have behind :
            (Form.sequence [.otherwise, .many .case]).Opens .defaultWord :=
          otherwise.seq
        exact .inl (behind.imp fun _ => derives_otherwise_clauses)
      · exact .inr rfl

theorem parses_clauses
    (afterDefault : Bool) :
    (clauses afterDefault).Parses contract (Rule.clauses afterDefault).form
      [.closeCurly]
      fun tokens list _ =>
        (Passage.clauses afterDefault).Reads tokens list := by
  intro token
  refine parsesAt_current ?_
  split
  · refine ParsesAt.words (fun _ => derives_case_clauses) ?_
    refine (parses_case afterDefault token).bind
      fun first tokens middle precedes _ => ?_
    refine (parses_apply (.clauses afterDefault) middle).last
      fun list rest last others _ => ?_
    exact precedes rest list others
  · next notCase =>
      split
      · next found =>
          obtain ⟨-, rfl⟩ := found
          refine ParsesAt.words (fun _ => derives_otherwise_clauses) ?_
          refine (parses_otherwise token).bind
            fun first tokens middle precedes _ => ?_
          refine (parses_apply (.clauses true) middle).last
            fun list rest last others _ => ?_
          exact precedes rest list others
      · next notDefault =>
          split
          · refine (parsesAt_finish .noClauses).words fun word derived => ?_
            cases derived
            exact derives_noClauses afterDefault
          · next notClosing =>
              refine parsesAt_unexpected ?_ ?_ fun kind member => ?_
              · cases afterDefault <;> exact List.cons_ne_nil _ _
              · cases afterDefault <;>
                  simp_all [Expected.switch, Expected.switchAfterDefault]
              · rcases opens_clauses member with opens | rfl
                · exact .inl opens
                · exact .inr
                    ⟨List.mem_singleton_self _, derives_noClauses afterDefault⟩

theorem parses_switch : switch.Parses contract .switch [] Stmt.Taken := by
  intro token
  refine parsesAt_here ?_
  refine parsesAt_pass .switchWord rfl fun wordKind after => ?_
  refine (parses_enclosed .openParen .closeParen rfl rfl after).bind
    fun test testTokens middle testRead _ => ?_
  refine parsesAt_pass .openCurly rfl fun leftKind after => ?_
  refine (parses_apply (.clauses false) after).bindClosing
    fun list tokens middle read _ => ?_
  refine parsesAt_pass .closeCurly rfl fun rightKind last => ?_
  exact parsesAt_finish
    (taken_of_reads (.switch wordKind testRead leftKind read rightKind) rfl)

theorem parses_block :
    Follows .block (Between .openCurly .closeCurly Passage.statements.Reads)
      block := by
  intro token
  refine parsesAt_pass .openCurly rfl fun leftKind after => ?_
  refine (parses_apply .statements after).bindClosing
    fun list tokens middle read _ => ?_
  refine parsesAt_pass .closeCurly rfl fun rightKind last => ?_
  exact parsesAt_finish ⟨token, tokens, middle, rfl, leftKind, read, rightKind⟩

theorem parses_compound : compound.Parses contract .block [] Stmt.Taken := by
  intro token
  refine parsesAt_here ?_
  refine ParsesAt.words (fun _ derived => derived.of_seq_empty) ?_
  refine (parses_block token).last fun list tokens last read starts => ?_
  obtain ⟨left, inner, right, rfl, leftKind, innerRead, rightKind⟩ := read
  cases starts
  exact taken_of_reads (.block leftKind innerRead rightKind) rfl

/-- Each form of statement is parsed by its own parser. -/
theorem parses_statementForm
    {kind : Token.Kind}
    {form : Parser Stmt}
    (found : statementForm? kind = some form) :
    form.Parses contract .statement [] Stmt.Taken := by
  intro token
  refine ParsesAt.symbol ?_
  unfold statementForm? at found
  split at found <;> cases found
  · exact (parses_define token).oneOf (by simp)
  · exact (parses_declare token).oneOf (by simp)
  · exact (parses_returnValue token).oneOf (by simp)
  · exact (parses_assignOrCall token).oneOf (by simp)
  · exact (parses_forLoop token).oneOf (by simp)
  · exact (parses_foreachLoop token).oneOf (by simp)
  · exact (parses_conditional token).oneOf (by simp)
  · exact (parses_switch token).oneOf (by simp)
  · exact (parses_compound token).oneOf (by simp)

/-- A statement starts with any of the kinds that are expected there. -/
theorem opens_statement
    {kind : Token.Kind}
    (member : kind ∈ Expected.statement) :
    Form.statement.Opens kind := by
  have define : Form.define.Opens .valWord := (Form.Opens.single _).seq
  have declare : Form.declare.Opens .varWord := (Form.Opens.single _).seq
  have returnValue : Form.returnValue.Opens .returnWord :=
    (Form.Opens.single _).seq
  have assignOrCall : Form.assignOrCall.Opens .identifier :=
    (Form.Opens.single _).seq
  have forLoop : Form.forLoop.Opens .forWord := (Form.Opens.single _).seq
  have foreachLoop : Form.foreachLoop.Opens .foreachWord :=
    (Form.Opens.single _).seq
  have conditional : Form.conditional.Opens .ifWord := (Form.Opens.single _).seq
  have switch : Form.switch.Opens .switchWord := (Form.Opens.single _).seq
  have block : Form.block.Opens .openCurly := (Form.Opens.single _).seq
  refine Form.Opens.symbol ?_
  simp only [Expected.statement, List.mem_cons, List.not_mem_nil,
    or_false] at member
  rcases member with rfl | rfl | rfl | rfl | rfl | rfl | rfl | rfl | rfl
  · exact define.oneOf (by simp)
  · exact declare.oneOf (by simp)
  · exact returnValue.oneOf (by simp)
  · exact assignOrCall.oneOf (by simp)
  · exact forLoop.oneOf (by simp)
  · exact foreachLoop.oneOf (by simp)
  · exact conditional.oneOf (by simp)
  · exact switch.oneOf (by simp)
  · exact block.oneOf (by simp)

/-- The kinds with a form of statement are those that are expected. -/
theorem not_mem_of_statementForm?
    {kind : Token.Kind}
    (absent : statementForm? kind = none) :
    kind ∉ Expected.statement := by
  intro member
  simp only [Expected.statement, List.mem_cons, List.not_mem_nil,
    or_false] at member
  rcases member with
    rfl | rfl | rfl | rfl | rfl | rfl | rfl | rfl | rfl <;> cases absent

theorem parses_statement :
    statement.Parses contract .statement [] Stmt.Taken := by
  intro token
  refine parsesAt_current ?_
  cases found : statementForm? token.kind with
  | none =>
      exact parsesAt_unexpected (List.cons_ne_nil _ _)
        (not_mem_of_statementForm? found)
        fun _ member => .inl (opens_statement member)
  | some form => exact parses_statementForm found token

theorem parses_statements :
    statements.Parses contract (.many .statement) [.closeCurly]
      fun tokens list _ => Passage.statements.Reads tokens list := by
  intro token
  refine parsesAt_current ?_
  split
  · exact (parsesAt_finish .noStatements).none
  · next notClosing =>
      split
      · refine ParsesAt.more ?_
        refine (parses_statement token).bind fun first tokens middle taken _ =>
          ?_
        refine (parses_apply .statements middle).last
          fun list rest last others _ => ?_
        exact .statements taken.1 others
      · next notStatement =>
          refine parsesAt_unexpected (List.cons_ne_nil _ _) ?_
            fun kind member => ?_
          · rw [Expected.block, List.mem_append, List.mem_singleton, not_or]
            exact ⟨notStatement, notClosing⟩
          · rw [Expected.block, List.mem_append, List.mem_singleton] at member
            rcases member with start | rfl
            · exact .inl (opens_statement start).many
            · exact .inr ⟨List.mem_singleton_self _, .none⟩

end Grammar
end MatrixLang
