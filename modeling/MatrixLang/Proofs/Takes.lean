import MatrixLang.Proofs.Movement

/-!
# Parsers that take given tokens

`Parser.Takes` says that a parser moves over exactly some tokens and yields a
given value when a given token stands behind them.  Since one token of lookahead
decides how parsers go on, every lemma about a sequence asks for the token
behind its first part: the first token of its second part, or else the token
behind both.
-/

namespace MatrixLang

/-- The first of some tokens, or else the one behind them. -/
def lookahead (tokens : List Token) (after : Token) : Token :=
  tokens.head?.getD after

@[simp]
theorem lookahead_nil (after : Token) : lookahead [] after = after :=
  rfl

@[simp]
theorem lookahead_cons
    (token : Token)
    (tokens : List Token)
    (after : Token) :
    lookahead (token :: tokens) after = token :=
  rfl

theorem lookahead_append
    (front back : List Token)
    (after : Token) :
    lookahead (front ++ back) after =
      lookahead front (lookahead back after) := by
  cases front <;> rfl

/-- A movement starts at the lookahead token of what it passes. -/
theorem Spot.Moves.lookahead_eq
    {start stop : Spot}
    {tokens : List Token}
    (moves : start.Moves tokens stop) :
    lookahead tokens stop.current = start.current := by
  cases moves with
  | stay spot => rfl
  | step inside found further => rfl

namespace Parser

variable {α β : Type} {tokens front back : List Token} {token after : Token}
  {value : α}

/--
A parser moves over some tokens in front of another one and yields a value.
-/
def Takes
    (tokens : List Token)
    (after : Token)
    (value : α)
    (parser : Parser α) : Prop :=
  ∀ (cursor : Cursor) (stop : Spot),
    cursor.spot.Moves tokens stop -> stop.current = after ->
      ∃ log, parser.parse cursor = ⟨.ok value, stop.cursor log⟩

theorem takes_finish
    (value : α) :
    (Parser.finish value).Takes [] after value := by
  intro cursor stop moves same
  cases moves
  exact ⟨cursor.log, rfl⟩

/-- A sequence takes what its parts take, each in front of what comes next. -/
theorem Takes.bind
    {parser : Parser α}
    {next : α -> Parser β}
    {result : β}
    (first : parser.Takes front (lookahead back after) value)
    (rest : (next value).Takes back after result) :
    (parser.bind next).Takes (front ++ back) after result := by
  intro cursor stop moves same
  obtain ⟨middle, frontMoves, backMoves⟩ := moves.split
  have between : middle.current = lookahead back after := by
    rw [← same, backMoves.lookahead_eq]
  obtain ⟨log, firstReply⟩ := first cursor middle frontMoves between
  obtain ⟨lastLog, restReply⟩ := rest (middle.cursor log) stop backMoves same
  refine ⟨lastLog, ?_⟩
  rw [parse_bind, firstReply]
  exact restReply

/-- A sequence whose first part takes one token. -/
theorem Takes.one
    {parser : Parser α}
    {next : α -> Parser β}
    {result : β}
    (first : parser.Takes [token] (lookahead back after) value)
    (rest : (next value).Takes back after result) :
    (parser.bind next).Takes (token :: back) after result :=
  first.bind rest

/-- A sequence whose second part takes nothing. -/
theorem Takes.alone
    {parser : Parser α}
    {next : α -> Parser β}
    {result : β}
    (takes : parser.Takes tokens after value)
    (nothing : (next value).Takes [] after result) :
    (parser.bind next).Takes tokens after result := by
  have both : (parser.bind next).Takes (tokens ++ []) after result :=
    takes.bind nothing
  rwa [List.append_nil] at both

/-- A value that is made from what the last part of a sequence yields. -/
theorem Takes.last
    {parser : Parser α}
    {make : α -> β}
    (takes : parser.Takes tokens after value) :
    (parser.bind fun value => .finish (make value)).Takes tokens after
      (make value) :=
  takes.alone (takes_finish (make value))

/-- What goes on by the lookahead token takes what it goes on with. -/
theorem takes_current
    {next : Token -> Parser α}
    (takes : (next (lookahead tokens after)).Takes tokens after value) :
    (current.bind next).Takes tokens after value := by
  intro cursor stop moves same
  have start : lookahead tokens after = cursor.current := by
    rw [← same, moves.lookahead_eq]
    rfl
  rw [start] at takes
  exact takes cursor stop moves same

theorem takes_here
    {next : Position -> Parser α}
    (takes :
      (next (lookahead tokens after).position).Takes tokens after value) :
    (here.bind next).Takes tokens after value := by
  intro cursor stop moves same
  have start : lookahead tokens after = cursor.current := by
    rw [← same, moves.lookahead_eq]
    rfl
  rw [start] at takes
  exact takes cursor stop moves same

theorem takes_emit
    {event : Event}
    {next : Unit -> Parser α}
    (takes : (next ()).Takes tokens after value) :
    ((emit event).bind next).Takes tokens after value :=
  fun cursor stop moves same => takes (cursor.record event) stop moves same

/-- A call of a rule takes what its body takes. -/
theorem takes_apply
    {rule : Rule}
    {value : rule.Result}
    (takes : rule.body.Takes tokens after value) :
    (apply rule).Takes tokens after value := by
  intro cursor stop moves same
  obtain ⟨log, reply⟩ := takes cursor stop moves same
  refine ⟨log, ?_⟩
  rw [apply, parse_call, reply]
  rfl

/-- Moving over a token takes it. -/
theorem takes_skip
    {next : Unit -> Parser α}
    (takes : (next ()).Takes back after value) :
    (skip.bind next).Takes (token :: back) after value := by
  intro cursor stop moves same
  cases moves with
  | @step _ spot _ _ inside found further =>
      obtain ⟨log, advanced⟩ := Spot.advance_of_next? found
      obtain ⟨lastLog, reply⟩ := takes (spot.cursor log) stop further same
      refine ⟨lastLog, ?_⟩
      change (Parser.advance (next ())).parse cursor = _
      rw [parse_advance, advanced]
      exact reply

/-- A token of an expected kind is taken. -/
theorem takes_expect
    {kind : Token.Kind}
    {next : String -> Parser α}
    (same : token.kind = kind)
    (takes : (next token.spelling).Takes back after value) :
    ((expect kind).bind next).Takes (token :: back) after value := by
  rw [expect_bind]
  refine takes_current ?_
  rw [lookahead_cons, if_pos same]
  exact takes_skip takes

theorem takes_pass
    {kind : Token.Kind}
    {next : Unit -> Parser α}
    (same : token.kind = kind)
    (takes : (next ()).Takes back after value) :
    ((pass kind).bind next).Takes (token :: back) after value := by
  rw [pass_bind]
  exact takes_expect same takes

end Parser
end MatrixLang
