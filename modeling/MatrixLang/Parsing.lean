import MatrixLang.Grammar.Guarded

/-!
# Parsing

Every parser has a reply on every cursor.  `Rule.answer?` answers calls of rules
to a given depth; since every rule moves before it calls another, a depth of one
more than what the cursor has in front of it always suffices, and `Parser.parse`
takes the reply at that depth.

The lemmas `Parser.parse_finish` to `Parser.parse_call` say what each step of a
parser does, and `Parser.parse_bind` what a sequence does, so that nothing has
to look at depths again.
-/

namespace MatrixLang

namespace Rule

/-- The reply of a rule in which calls are answered to a given depth. -/
def answer? : (depth : Nat) -> Callee
  | 0, _, _ => none
  | depth + 1, rule, cursor => rule.body.run (answer? depth) cursor

/-- No answer leaves more in front of the cursor than there was. -/
theorem left_le_of_answer?
    {depth : Nat}
    {rule : Rule}
    {cursor : Cursor}
    {reply : Reply rule.Result}
    (found : answer? depth rule cursor = some reply) :
    reply.cursor.left ≤ cursor.left := by
  induction depth generalizing rule cursor with
  | zero => cases found
  | succ depth inductionHypothesis =>
      exact Parser.left_le_of_run
        (fun _ _ _ answered => inductionHypothesis answered) found

/-- A greater depth never changes an answer. -/
theorem answer?_succ
    {depth : Nat}
    {rule : Rule}
    {cursor : Cursor}
    {reply : Reply rule.Result}
    (found : answer? depth rule cursor = some reply) :
    answer? (depth + 1) rule cursor = some reply := by
  induction depth generalizing rule cursor with
  | zero => cases found
  | succ depth inductionHypothesis =>
      exact Parser.run_eq_some_of_le
        (fun _ _ _ answered => inductionHypothesis answered) found

/-- A greater depth never changes an answer. -/
theorem answer?_mono
    {depth deeper : Nat}
    (le : depth ≤ deeper)
    {rule : Rule}
    {cursor : Cursor}
    {reply : Reply rule.Result}
    (found : answer? depth rule cursor = some reply) :
    answer? deeper rule cursor = some reply := by
  induction le with
  | refl => exact found
  | step _ inductionHypothesis => exact answer?_succ inductionHypothesis

/-- A depth beyond what the cursor has in front of it answers every call. -/
theorem isSome_answer?
    {depth : Nat}
    {rule : Rule}
    {cursor : Cursor}
    (enough : cursor.left < depth) :
    (answer? depth rule cursor).isSome := by
  induction depth generalizing rule cursor with
  | zero => omega
  | succ depth inductionHypothesis =>
      exact Parser.isSome_run (fun _ _ _ => left_le_of_answer?)
        (fun _ _ below => inductionHypothesis below)
        (rule.guarded_body cursor.current) (Nat.le_of_lt_succ enough)
        (fun moved => by cases moved)

end Rule

namespace Parser

variable {α β : Type}

/--
Running to a depth beyond what the cursor has in front of it gives a reply.
-/
theorem isSome_run_answer?
    {depth : Nat}
    {parser : Parser α}
    {cursor : Cursor}
    (enough : cursor.left < depth) :
    (parser.run (Rule.answer? depth) cursor).isSome := by
  induction parser generalizing cursor with
  | finish value => rfl
  | inspect next inductionHypothesis => exact inductionHypothesis _ enough
  | advance next inductionHypothesis =>
      have moved := Nat.lt_of_le_of_lt cursor.left_advance_le enough
      simp only [run]
      generalize cursor.advance = step at moved ⊢
      rcases step with ⟨_ | _, after⟩
      · rfl
      · exact inductionHypothesis moved
  | reject refusal => rfl
  | note event next inductionHypothesis =>
      have reply :
          (next.run (Rule.answer? depth) (cursor.record event)).isSome :=
        inductionHypothesis enough
      exact reply
  | call rule next inductionHypothesis =>
      have present : (Rule.answer? depth rule cursor).isSome :=
        Rule.isSome_answer? enough
      obtain ⟨reply, answer⟩ := Option.isSome_iff_exists.1 present
      have moved := Nat.lt_of_le_of_lt (Rule.left_le_of_answer? answer) enough
      simp only [run, answer]
      rcases reply with ⟨_ | value, after⟩
      · rfl
      · exact inductionHypothesis _ moved

/-- The reply of a parser. -/
def parse (parser : Parser α) (cursor : Cursor) : Reply α :=
  (parser.run (Rule.answer? (cursor.left + 1)) cursor).get
    (isSome_run_answer? (Nat.lt_succ_self _))

/--
A depth beyond what the cursor has in front of it gives the reply of the parser.
-/
theorem run_answer?_eq
    {depth : Nat}
    {parser : Parser α}
    {cursor : Cursor}
    (enough : cursor.left < depth) :
    parser.run (Rule.answer? depth) cursor = some (parser.parse cursor) :=
  run_eq_some_of_le (fun _ _ _ answered => Rule.answer?_mono enough answered)
    (Option.some_get _).symm

/-- Whatever reply some depth gives is the reply of the parser. -/
theorem parse_eq_of_run
    {depth : Nat}
    {parser : Parser α}
    {cursor : Cursor}
    {reply : Reply α}
    (found : parser.run (Rule.answer? depth) cursor = some reply) :
    parser.parse cursor = reply := by
  have deeper : parser.run (Rule.answer? (depth + (cursor.left + 1))) cursor =
      some reply :=
    run_eq_some_of_le
      (fun _ _ _ answered => Rule.answer?_mono (Nat.le_add_right _ _) answered)
        found
  rw [run_answer?_eq (by omega)] at deeper
  exact Option.some.inj deeper

/-- Parsing never leaves more in front of the cursor than there was. -/
theorem left_parse_le
    (parser : Parser α)
    (cursor : Cursor) :
    (parser.parse cursor).cursor.left ≤ cursor.left :=
  left_le_of_run (fun _ _ _ => Rule.left_le_of_answer?)
    (run_answer?_eq (Nat.lt_succ_self _))

end Parser

namespace Reply

variable {α β : Type}

/-- Goes on with the value of a reply; a failure stays. -/
def bind (reply : Reply α) (next : α -> Cursor -> Reply β) : Reply β :=
  match reply with
  | ⟨.ok value, cursor⟩ => next value cursor
  | ⟨.error diagnostic, cursor⟩ => ⟨.error diagnostic, cursor⟩

/-- Going on where every continuation has a reply is going on. -/
theorem andThen_eq_some
    {reply : Reply α}
    {next? : α -> Cursor -> Option (Reply β)}
    {next : α -> Cursor -> Reply β}
    (agree : ∀ value,
      next? value reply.cursor = some (next value reply.cursor)) :
    reply.andThen next? = some (reply.bind next) := by
  rcases reply with ⟨_ | value, cursor⟩
  · rfl
  · exact agree value

end Reply

namespace Parser

variable {α β : Type}

@[simp]
theorem parse_finish
    (value : α)
    (cursor : Cursor) :
    (Parser.finish value).parse cursor = ⟨.ok value, cursor⟩ :=
  rfl

@[simp]
theorem parse_inspect
    (next : Token -> Parser α)
    (cursor : Cursor) :
    (Parser.inspect next).parse cursor = (next cursor.current).parse cursor :=
  rfl

theorem parse_advance
    (next : Parser α)
    (cursor : Cursor) :
    (Parser.advance next).parse cursor =
      cursor.advance.bind fun _ after => next.parse after := by
  have reply :
      (Parser.advance next).run (Rule.answer? (cursor.left + 1)) cursor =
        some (cursor.advance.bind fun _ after => next.parse after) :=
    Reply.andThen_eq_some fun _ =>
      run_answer?_eq (Nat.lt_succ_of_le cursor.left_advance_le)
  exact parse_eq_of_run reply

@[simp]
theorem parse_reject
    (refusal : Refusal)
    (cursor : Cursor) :
    (Parser.reject refusal : Parser α).parse cursor =
      ⟨.error (.ofCause (refusal.cause cursor.current)), cursor⟩ :=
  rfl

@[simp]
theorem parse_note
    (event : Event)
    (next : Parser α)
    (cursor : Cursor) :
    (Parser.note event next).parse cursor = next.parse (cursor.record event) :=
  rfl

/-- A call of a rule parses its body. -/
theorem parse_call
    (rule : Rule)
    (next : rule.Result -> Parser α)
    (cursor : Cursor) :
    (Parser.call rule next).parse cursor =
      (rule.body.parse cursor).bind fun value after =>
        (next value).parse after := by
  have answer : Rule.answer? (cursor.left + 2) rule cursor =
      some (rule.body.parse cursor) :=
    run_answer?_eq (Nat.lt_succ_self _)
  have reply :
      (Parser.call rule next).run (Rule.answer? (cursor.left + 2)) cursor =
        some ((rule.body.parse cursor).bind fun value after =>
          (next value).parse after) := by
    simp only [run, answer, Option.bind_some]
    refine Reply.andThen_eq_some fun value => run_answer?_eq ?_
    have shorter := rule.body.left_parse_le cursor
    omega
  exact parse_eq_of_run reply

/-- A sequence parses its second part where the first one ends. -/
theorem parse_bind
    (parser : Parser α)
    (next : α -> Parser β)
    (cursor : Cursor) :
    (parser.bind next).parse cursor =
      (parser.parse cursor).bind fun value after =>
        (next value).parse after := by
  have reply : (parser.bind next).run (Rule.answer? (cursor.left + 1)) cursor =
      some ((parser.parse cursor).bind fun value after =>
        (next value).parse after) := by
    rw [run_bind, run_answer?_eq (Nat.lt_succ_self _), Option.bind_some]
    refine Reply.andThen_eq_some fun value => run_answer?_eq ?_
    exact Nat.lt_succ_of_le (parser.left_parse_le cursor)
  exact parse_eq_of_run reply

end Parser

/-- Parses a whole stream as a module. -/
def parseModule (source : TokenStream) : Reply Module :=
  (Parser.advance Grammar.module).parse (.before source)

/-- Parses a text as a module. -/
def parseText (text : String) : Except Diagnostic Module :=
  (parseModule (.ofText text)).result

end MatrixLang
