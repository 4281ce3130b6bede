import MatrixLang.Proofs.EndOfStream

/-!
# Progress

The procedures of the grammar end on every stream of tokens.  `Parser.Runs` is
built of finitely many steps, so a run is an end; what is left to say is how a
run gets there.  `Parser.Does` tells what a parser does on its way, in the rules
that it calls too: it moves over its lookahead token, or it calls a rule.  A
guarded parser never moves over the end of the file, and it calls a rule only
behind a token (`Parser.Does.guarded`).  The loops of the grammar are rules that
call themselves again, so every time round takes a token.
-/

namespace MatrixLang

/-! ## What a parser does on its way -/

/-- What a parser does with its cursor. -/
inductive Action
  /-- It moves over the lookahead token. -/
  | advance
  /-- It calls a rule. -/
  | call (rule : Rule)

namespace Parser

variable {α : Type} {parser : Parser α} {cursor there : Cursor}
  {pulled count : Nat}
  {action : Action} {reply : Reply α} {moved : Bool} {post : α ->
    Token -> Bool -> Prop}

/--
On its way from a cursor a parser does something at another cursor, after it has
pulled so many tokens.
-/
inductive Does :
    {α : Type} -> Parser α -> Cursor -> (pulled : Nat) ->
      Action -> Cursor -> Prop
  | advance {α : Type} (next : Parser α) (cursor : Cursor) :
      Does (.advance next) cursor 0 .advance cursor
  | call
      {α : Type}
      {rule : Rule}
      (next : rule.Result -> Parser α)
      (cursor : Cursor) :
      Does (.call rule next) cursor 0 (.call rule) cursor
  | inspect
      {α : Type}
      {next : Token -> Parser α}
      {cursor there : Cursor}
      {pulled : Nat}
      {action : Action} :
      Does (next cursor.current) cursor pulled action there ->
      Does (.inspect next) cursor pulled action there
  | note
      {α : Type}
      {event : Event}
      {next : Parser α}
      {cursor there : Cursor}
      {pulled : Nat}
      {action : Action} :
      Does next (cursor.record event) pulled action there ->
      Does (.note event next) cursor pulled action there
  | afterAdvance
      {α : Type}
      {next : Parser α}
      {cursor after there : Cursor}
      {pulled : Nat}
      {action : Action} :
      cursor.advance = ⟨.ok (), after⟩ ->
      Does next after pulled action there ->
      Does (.advance next) cursor (1 + pulled) action there
  /-- A rule that is called does it. -/
  | withinCall
      {α : Type}
      {rule : Rule}
      {cursor there : Cursor}
      {pulled : Nat}
      {action : Action}
      (next : rule.Result -> Parser α) :
      Does rule.body cursor pulled action there ->
      Does (.call rule next) cursor pulled action there
  | afterCall {α : Type} {rule : Rule} {next : rule.Result -> Parser α}
      {cursor middle there : Cursor} {front pulled : Nat} {value : rule.Result}
        {action : Action} :
      Runs rule.body cursor front ⟨.ok value, middle⟩ ->
      Does (next value) middle pulled action there ->
      Does (.call rule next) cursor (front + pulled) action there

/-- Every token that a run pulls is pulled by moving over a lookahead token. -/
theorem Runs.does
    (runs : parser.Runs cursor count reply)
    (early : pulled < count) :
    ∃ there, parser.Does cursor pulled .advance there := by
  induction runs generalizing pulled with
  | finish | reject => omega
  | inspect _ inductionHypothesis =>
      obtain ⟨there, does⟩ := inductionHypothesis early
      exact ⟨there, .inspect does⟩
  | @advance _ next cursor _ _ _ moved _ inductionHypothesis =>
      cases pulled with
      | zero => exact ⟨cursor, .advance next cursor⟩
      | succ pulled =>
          obtain ⟨there, does⟩ := inductionHypothesis (by omega : pulled < _)
          rw [Nat.add_comm]
          exact ⟨there, .afterAdvance moved does⟩
  | @stuck _ cursor _ _ next failed =>
      have first : pulled = 0 := by omega
      subst first
      exact ⟨cursor, .advance next cursor⟩
  | note _ inductionHypothesis =>
      obtain ⟨there, does⟩ := inductionHypothesis early
      exact ⟨there, .note does⟩
  | @call _ rule next _ _ front _ _ _ first _ firstHypothesis restHypothesis =>
      by_cases within : pulled < front
      · obtain ⟨there, does⟩ := firstHypothesis within
        exact ⟨there, .withinCall next does⟩
      · obtain ⟨there, does⟩ := restHypothesis (by omega : pulled - front < _)
        have behind := Does.afterCall first does
        rw [Nat.add_sub_cancel' (Nat.le_of_not_lt within)] at behind
        exact ⟨there, behind⟩
  | failedCall next _ inductionHypothesis =>
      obtain ⟨there, does⟩ := inductionHypothesis early
      exact ⟨there, .withinCall next does⟩

/-- What a parser does, it does in its run. -/
theorem Does.within
    (does : parser.Does cursor pulled action there)
    (runs : parser.Runs cursor count reply) :
    pulled ≤ count ∧ (action = .advance -> pulled < count) := by
  induction does generalizing count with
  | advance next cursor => cases runs <;> exact ⟨by omega, fun _ => by omega⟩
  | call next cursor => exact ⟨Nat.zero_le _, nofun⟩
  | inspect _ inductionHypothesis =>
      cases runs with
      | inspect runs => exact inductionHypothesis runs
  | note _ inductionHypothesis =>
      cases runs with
      | note runs => exact inductionHypothesis runs
  | afterAdvance moved _ inductionHypothesis =>
      cases runs with
      | advance otherMoved runs =>
          cases moved.symm.trans otherMoved
          obtain ⟨le, lt⟩ := inductionHypothesis runs
          exact ⟨by omega, fun isAdvance => by have := lt isAdvance; omega⟩
      | stuck _ failed =>
          rw [moved] at failed
          cases failed
  | withinCall next _ inductionHypothesis =>
      cases runs with
      | call first rest =>
          obtain ⟨le, lt⟩ := inductionHypothesis first
          exact ⟨by omega, fun isAdvance => by have := lt isAdvance; omega⟩
      | failedCall _ first => exact inductionHypothesis first
  | afterCall first _ inductionHypothesis =>
      cases runs with
      | call otherFirst rest =>
          have counts := first.count_eq otherFirst
          cases first.parse_eq.symm.trans otherFirst.parse_eq
          obtain ⟨le, lt⟩ := inductionHypothesis rest
          exact ⟨by omega, fun isAdvance => by have := lt isAdvance; omega⟩
      | failedCall _ otherFirst =>
          cases first.parse_eq.symm.trans otherFirst.parse_eq

/--
A guarded parser moves over no end of the file, and it calls a rule only behind
a token.  In a rule that it calls this holds because the rule is guarded itself.
-/
theorem Does.guarded
    (does : parser.Does cursor pulled action there)
    (guarded : parser.Guarded cursor.current moved post) :
    (action = .advance -> ¬ there.AtEnd) ∧
      ∀ rule, action = .call rule -> moved = true ∨ 0 < pulled := by
  induction does generalizing moved with
  | advance next cursor => exact ⟨fun _ => guarded.1, nofun⟩
  | call next cursor => exact ⟨nofun, fun _ _ => .inl guarded.1⟩
  | inspect _ inductionHypothesis => exact inductionHypothesis guarded
  | note _ inductionHypothesis => exact inductionHypothesis guarded
  | afterAdvance _ _ inductionHypothesis =>
      exact ⟨(inductionHypothesis (guarded.2 _)).1, fun _ _ => .inr (by omega)⟩
  | @withinCall _ rule cursor _ _ _ _ _ inductionHypothesis =>
      have body := rule.guarded_body cursor.current
      exact ⟨(inductionHypothesis body).1, fun _ _ => .inl guarded.1⟩
  | afterCall _ _ inductionHypothesis =>
      exact ⟨(inductionHypothesis (guarded.2 _ _)).1, fun _ _ => .inl guarded.1⟩

/--
A rule calls another one, or itself once more, only after it has taken a token.
-/
theorem Does.pos_of_call
    {rule inner : Rule}
    (does : rule.body.Does cursor pulled (.call inner) there) : 0 < pulled := by
  rcases (does.guarded (rule.guarded_body cursor.current)).2 inner rfl with
    before | behind
  · cases before
  · exact behind

/--
A parser is guarded behind another token, and it pulls one before it yields a
value.
-/
structure Progresses (parser : Parser α) : Prop where
  /-- It is guarded if something has moved before it. -/
  steady : parser.Steady
  /-- It pulls a token before it yields a value. -/
  pos : ∀ {cursor after count value},
    parser.Runs cursor count ⟨.ok value, after⟩ -> 0 < count

theorem Consumes.progresses (consumes : parser.Consumes) : parser.Progresses :=
  ⟨consumes.steady, Runs.pos_of_consumes consumes⟩

/-- A call pulls a token where the rule does. -/
theorem progresses_apply
    {rule : Rule}
    (consumes : rule.body.Consumes) : (apply rule).Progresses := by
  refine ⟨steady_apply rule, fun runs => ?_⟩
  cases runs with
  | call first _ => exact Nat.add_pos_left (first.pos_of_consumes consumes) _

end Parser

/--
A cursor reaches over its lookahead token and those behind it up to the end of
the file.
-/
theorem Cursor.reach_eq
    (cursor : Cursor) :
    cursor.reach = (cursor.spot.tokens.takeWhile fun token =>
      token.kind ≠ .endOfFile).length := by
  by_cases ended : cursor.AtEnd
  · have first : cursor.current.kind = .endOfFile := ended
    simp [reach, ended, Spot.tokens, Cursor.spot, first]
  · have first : cursor.current.kind ≠ .endOfFile := ended
    simp [reach, ended, Spot.tokens, Cursor.spot, first]

/-! ## The procedures of the grammar -/

namespace Grammar

open MatrixLang.Parser

/-- The procedures that take a token before they yield a value. -/
inductive Solid : {α : Type} -> Parser α -> Prop
  | expression : Solid expression
  | selection : Solid selection
  | disjunction : Solid disjunction
  | conjunction : Solid conjunction
  | negation : Solid negation
  | comparison : Solid comparison
  | additive : Solid additive
  | multiplicative : Solid multiplicative
  | minus : Solid minus
  | power : Solid power
  | dimension : Solid dimension
  | dotProduct : Solid dotProduct
  | matrixProduct : Solid matrixProduct
  | subrange : Solid subrange
  | range : Solid range
  | elementSelection : Solid elementSelection
  | fieldSelection : Solid fieldSelection
  | atom : Solid atom
  | elements : Solid elements
  | arguments : Solid arguments
  | type : Solid type
  | vectorType : Solid vectorType
  | matrixType : Solid matrixType
  | elementType : Solid elementType
  | size : Solid size
  | mutability : Solid mutability
  | binding : Solid binding
  | statement : Solid statement
  | block : Solid block
  | define : Solid define
  | declare : Solid declare
  | returnValue : Solid returnValue
  | assignOrCall : Solid assignOrCall
  | assignmentTo
      (position : Position)
      (name : String) : Solid (assignmentTo position name)
  | forLoop : Solid forLoop
  | foreachLoop : Solid foreachLoop
  | conditional : Solid conditional
  | switch : Solid switch
  | case : Solid case
  | otherwise : Solid otherwise
  | compound : Solid compound
  | function : Solid function
  | parameter : Solid parameter
  | record : Solid record
  | recordElement : Solid recordElement

/-- All the procedures of the grammar. -/
inductive Procedure : {α : Type} -> Parser α -> Prop
  | solid
      {α : Type}
      {parser : Parser α}
      (solid : Solid parser) : Procedure parser
  /--
  Behind the name of a variable that is assigned as a whole there is nothing.
  -/
  | selector : Procedure selector
  /-- A module may be empty. -/
  | module : Procedure module

/--
An assignment takes its sign at least, whether a selector stands before it or
not.
-/
theorem consumes_assignmentTo
    (position : Position)
    (name : String) :
    (assignmentTo position name).Consumes := by
  intro token moved post ends
  have rest (selector : Selector) :
      ((pass .assignment).bind fun _ => expression.bind fun value =>
        .finish
          (Stmt.assign position ⟨name, selector, position⟩ value)).Consumes :=
    (consumes_pass (by decide)).bind fun _ =>
      steady_expression.bind fun _ => steady_finish _
  refine guarded_bind.2 ?_
  rw [selector, bind_eq, guarded_current]
  split
  · refine ((consumes_enclosed (by decide) (by decide)).bind fun _ =>
      steady_current fun next => ?_) token moved _
        fun value after => rest value after true post ends
    split
    · exact (consumes_enclosed (by decide) (by decide)).steady.bind fun _ =>
        steady_finish _
    · exact steady_finish _
  · next kind =>
      exact guarded_skip (by simp [kind])
        ((consumes_expect (by decide)).steady.bind fun _ => steady_finish _)
        fun value after => rest value after true post ends
  · exact rest _ token moved post ends

variable {α : Type} {parser : Parser α}

/-- A solid procedure takes a token. -/
theorem Solid.progresses (solid : Solid parser) : parser.Progresses := by
  cases solid with
  | expression => exact @progresses_apply .expression consumes_selection
  | selection => exact consumes_selection.progresses
  | disjunction => exact consumes_disjunction.progresses
  | conjunction => exact (consumes_chain consumes_negation).progresses
  | negation => exact consumes_negation.progresses
  | comparison => exact (consumes_chain consumes_additive).progresses
  | additive => exact consumes_additive.progresses
  | multiplicative => exact (consumes_chain consumes_minus).progresses
  | minus => exact consumes_minus.progresses
  | power => exact consumes_power.progresses
  | dimension => exact consumes_dimension.progresses
  | dotProduct => exact consumes_dotProduct.progresses
  | matrixProduct => exact (consumes_chain consumes_subrange).progresses
  | subrange => exact consumes_subrange.progresses
  | range => exact consumes_range.progresses
  | elementSelection => exact consumes_elementSelection.progresses
  | fieldSelection => exact consumes_fieldSelection.progresses
  | atom => exact consumes_atom.progresses
  | elements => exact consumes_elements.progresses
  | arguments => exact consumes_arguments.progresses
  | type => exact consumes_type.progresses
  | vectorType => exact consumes_vectorType.progresses
  | matrixType => exact consumes_matrixType.progresses
  | elementType => exact consumes_elementType.progresses
  | size => exact (consumes_enclosed (by decide) (by decide)).progresses
  | mutability => exact consumes_mutability.progresses
  | binding => exact consumes_binding.progresses
  | statement => exact consumes_statement.progresses
  | block => exact consumes_block.progresses
  | define => exact consumes_define.progresses
  | declare => exact consumes_declare.progresses
  | returnValue => exact consumes_returnValue.progresses
  | assignOrCall => exact consumes_assignOrCall.progresses
  | assignmentTo position name =>
      exact (consumes_assignmentTo position name).progresses
  | forLoop => exact consumes_forLoop.progresses
  | foreachLoop => exact consumes_foreachLoop.progresses
  | conditional => exact consumes_conditional.progresses
  | switch => exact consumes_switch.progresses
  | case => exact consumes_case.progresses
  | otherwise => exact consumes_otherwise.progresses
  | compound => exact consumes_compound.progresses
  | function => exact consumes_function.progresses
  | parameter => exact consumes_parameter.progresses
  | record => exact consumes_record.progresses
  | recordElement => exact consumes_recordElement.progresses

theorem Procedure.steady (procedure : Procedure parser) : parser.Steady := by
  cases procedure with
  | solid solid => exact solid.progresses.steady
  | selector => exact steady_selector
  | module => exact steady_module

/--
A procedure of the grammar ends on every stream of tokens, in one run.  It takes
a token before it yields a value, unless it is the selector of an assignment or
a module.  A rule that has been called takes a token before it calls another one
or itself: so does each time round of a loop, be it over declarations,
statements, bindings, parameters, arguments, elements, clauses, operands or
indices.  Every token is pulled by moving over a lookahead token that is not the
end of the file, so there are at most as many moves as tokens in front of the
first one.
-/
theorem Procedure.progress
    (procedure : Procedure parser)
    (cursor : Cursor) :
    ∃ count, parser.Runs cursor count (parser.parse cursor) ∧
      (∀ other reply, parser.Runs cursor other reply ->
        other = count ∧ reply = parser.parse cursor) ∧
      (Solid parser ->
        ∀ value, (parser.parse cursor).result = .ok value -> 0 < count) ∧
      (∀ (rule inner : Rule) start taken again,
        rule.body.Does start taken (.call inner) again -> 0 < taken) ∧
      (∀ before,
        before < count ↔ ∃ there, parser.Does cursor before .advance there) ∧
      (∀ before there,
        parser.Does cursor before .advance there -> ¬ there.AtEnd) ∧
      count ≤ (cursor.spot.tokens.takeWhile fun token =>
        token.kind ≠ .endOfFile).length := by
  obtain ⟨count, runs⟩ := parser.runs_parse cursor
  have guarded :=
    procedure.steady cursor.current (fun _ _ _ => True) fun _ _ => trivial
  refine ⟨count, runs, ?_, ?_, ?_, ?_, ?_, ?_⟩
  · exact fun other reply otherRuns =>
      ⟨runs.count_eq otherRuns, otherRuns.parse_eq.symm⟩
  · intro solid value yielded
    rcases known : parser.parse cursor with ⟨result, after⟩
    rw [known] at runs yielded
    cases yielded
    exact solid.progresses.pos runs
  · exact fun _ _ _ _ _ does => does.pos_of_call
  · exact fun before => ⟨runs.does, fun ⟨_, does⟩ => (does.within runs).2 rfl⟩
  · exact fun _ _ does => (does.guarded guarded).1 rfl
  · rw [← Cursor.reach_eq]
    have within := runs.within guarded
    omega

/-- The tokens of an empty block, without an end of the file behind them. -/
def emptyBlock : Cursor :=
  ⟨.listed [⟨.closeCurly, "\x7d", ⟨1, 2⟩⟩], ⟨.openCurly, "\x7b", ⟨1, 1⟩⟩, []⟩

/-- An empty block takes a token, and at most the two that there are. -/
theorem Procedure.progress_emptyBlock :
    Procedure block ∧ Solid block ∧ (block.parse emptyBlock).result = .ok [] ∧
      ∃ count, block.Runs emptyBlock count (block.parse emptyBlock) ∧
        0 < count ∧ count ≤ 2 := by
  have procedure : Procedure block := .solid .block
  have yielded : (block.parse emptyBlock).result = .ok [] := rfl
  obtain ⟨count, runs, -, pos, -, -, -, most⟩ := procedure.progress emptyBlock
  exact ⟨procedure, .block, yielded, count, runs, pos .block [] yielded, most⟩

end Grammar
end MatrixLang
