import MatrixLang.Proofs.Movement

/-!
# How far a parser reads

`Parser.Runs` is a run of a parser that counts the tokens it pulls from its
stream.  Every parser has one run on a cursor, and it ends in the reply of the
parser.  A run is the same on cursors that move in lockstep
(`Parser.Runs.lockstep`), so it depends on nothing behind the last token that it
pulls (`Parser.Runs.agree`), and that token is what a run ends at, whether it
yields a value or fails (`Parser.Runs.endsAt`).
-/

namespace MatrixLang

/--
The token at an index of a list, or else the end of the file behind the list.
-/
def tokenAt (tokens : List Token) (index : Nat) : Token :=
  tokens[index]?.getD (endOf tokens)

/-- Behind the last token of a list stands the end of the file. -/
theorem endOfFile_tokenAt
    {tokens : List Token}
    {index : Nat}
    (last : tokens.length ≤ index + 1) :
    .endOfFile (tokenAt tokens index).position =
      tokenAt tokens (index + 1) := by
  have behind : tokenAt tokens (index + 1) = endOf tokens := by
    rw [tokenAt, List.getElem?_eq_none last]
    rfl
  rw [behind]
  rcases Nat.lt_or_ge index tokens.length with within | beyond
  · have isLast : index = tokens.length - 1 := by omega
    have nonempty : tokens ≠ [] := List.ne_nil_of_length_pos (by omega)
    rw [tokenAt, isLast, ← List.getLast?_eq_getElem?, endOf, Spot.endBehind,
      List.getLastD_eq_getLast?, List.getLast?_eq_some_getLast nonempty]
    rfl
  · rw [tokenAt, List.getElem?_eq_none beyond]
    rfl

/-- The token at an index comes first among those from the index on. -/
theorem tokenAt_of_drop
    {tokens rest : List Token}
    {index : Nat}
    {token : Token}
    (known : tokens.drop index = token :: rest) :
    tokenAt tokens index = token ∧ tokens.drop (index + 1) = rest := by
  constructor
  · rw [tokenAt, ← List.head?_drop, known]
    rfl
  · rw [← List.drop_drop, known]
    rfl

namespace Cursor

/-! ## One step -/

/-- At the end of its stream a cursor moves to an end of the file. -/
theorem advance_of_nil
    {cursor : Cursor}
    (ended : cursor.source.tokens = []) :
    cursor.advance =
      ⟨.ok (),
        ⟨cursor.source, .endOfFile cursor.current.position, cursor.log⟩⟩ := by
  unfold advance
  rw [TokenStream.next?_of_tokens_nil ended]

/--
Before another token a cursor moves to it, or fails because it could not be
scanned.
-/
theorem advance_of_cons
    {cursor : Cursor}
    {token : Token}
    {rest : List Token}
    (known : cursor.source.tokens = token :: rest) :
    ∃ behind log, behind.tokens = rest ∧
      cursor.advance =
        if token.kind = .invalid then
          ⟨.error (.ofCause (.lexical token)), ⟨behind, cursor.current, log⟩⟩
        else
          ⟨.ok (), ⟨behind, token, log⟩⟩ := by
  obtain ⟨pull, pulled, rfl, remaining⟩ :=
    TokenStream.next?_of_tokens_cons known
  refine ⟨pull.rest, cursor.log ++ pull.events, remaining, ?_⟩
  unfold advance
  rw [pulled]

/-- Moving on pulls one token, whether it can be read or not. -/
theorem tokens_advance
    (cursor : Cursor) :
    cursor.advance.cursor.source.tokens = cursor.source.tokens.drop 1 := by
  cases known : cursor.source.tokens with
  | nil =>
      rw [advance_of_nil known]
      exact known
  | cons token rest =>
      obtain ⟨behind, log, remaining, moved⟩ := advance_of_cons known
      rw [moved]
      split <;> exact remaining

/-- A cursor that fails to move keeps its lookahead token. -/
theorem current_of_stuck
    {cursor after : Cursor}
    {diagnostic : Diagnostic}
    (failed : cursor.advance = ⟨.error diagnostic, after⟩) :
    after.current = cursor.current := by
  cases known : cursor.source.tokens with
  | nil =>
      rw [advance_of_nil known] at failed
      cases failed
  | cons token rest =>
      obtain ⟨behind, log, -, moved⟩ := advance_of_cons known
      rw [moved] at failed
      split at failed <;> cases failed
      rfl

/--
Cursors in lockstep show the same lookahead token and move with the same result,
for a number of steps or until they fail.
-/
structure Lockstep (related : Nat -> Cursor -> Cursor -> Prop) : Prop where
  /-- The lookahead tokens are the same. -/
  current : ∀ {count first second},
    related count first second -> first.current = second.current
  /-- An event tells no cursors apart. -/
  record : ∀ {count first second} (event : Event),
    related count first second ->
      related count (first.record event) (second.record event)
  /-- Both move, or both fail for the same reason. -/
  result : ∀ {count first second},
    related (count + 1) first second ->
      first.advance.result = second.advance.result
  /-- Where both move they stay in lockstep. -/
  advance : ∀ {count first second},
    related (count + 1) first second -> first.advance.result = .ok () ->
      related count first.advance.cursor second.advance.cursor

/--
Two cursors with the same lookahead token, behind which their streams agree for
a while.
-/
structure Agree (count : Nat) (first second : Cursor) : Prop where
  /-- The lookahead tokens are the same. -/
  current : first.current = second.current
  /-- The next tokens are the same, or both streams end. -/
  ahead :
    ∀ index < count, first.source.tokens[index]? = second.source.tokens[index]?

/--
Moving over a token tells two cursors apart only by the token that is pulled.
-/
theorem Agree.advance
    {count : Nat}
    {first second : Cursor}
    (agree : first.Agree (count + 1) second) :
    first.advance.result = second.advance.result ∧
      first.advance.cursor.Agree count second.advance.cursor := by
  have next := agree.ahead 0 (Nat.succ_pos count)
  have later : ∀ index < count,
      first.source.tokens[index + 1]? = second.source.tokens[index + 1]? :=
    fun index within => agree.ahead (index + 1) (Nat.succ_lt_succ within)
  cases known : first.source.tokens with
  | nil =>
      rw [known] at next
      have ended : second.source.tokens = [] :=
        List.eq_nil_of_length_eq_zero
          (Nat.le_zero.1 (List.getElem?_eq_none_iff.1 next.symm))
      rw [advance_of_nil known, advance_of_nil ended, agree.current]
      refine ⟨rfl, rfl, fun index _ => ?_⟩
      rw [known, ended]
  | cons token rest =>
      cases others : second.source.tokens with
      | nil =>
          rw [known, others] at next
          cases next
      | cons other otherRest =>
          rw [known, others] at next later
          cases next
          obtain ⟨behind, log, rfl, moved⟩ := advance_of_cons known
          obtain ⟨otherBehind, otherLog, rfl, otherMoved⟩ :=
            advance_of_cons others
          rw [moved, otherMoved]
          split
          · exact ⟨rfl, agree.current, later⟩
          · exact ⟨rfl, rfl, later⟩

/-- An event tells no cursors apart. -/
theorem Agree.record
    {count : Nat}
    {first second : Cursor}
    (agree : first.Agree count second)
    (event : Event) :
    (first.record event).Agree count (second.record event) :=
  ⟨agree.current, agree.ahead⟩

theorem lockstep_agree : Lockstep Agree where
  current := Agree.current
  record event agree := agree.record event
  result agree := agree.advance.1
  advance agree _ := agree.advance.2

/--
A cursor whose lookahead token stands at an index of a list, or else behind its
end.
-/
structure IsAt
    (tokens : List Token)
    (index : Nat)
    (cursor : Cursor) : Prop where
  /-- The lookahead token is the one at the index. -/
  current : cursor.current = tokenAt tokens index
  /-- The tokens behind the index are still to come. -/
  ahead : cursor.source.tokens = tokens.drop (index + 1)

end Cursor

/--
A reply that has read a list up to the token at an index, and looks at that
token.
-/
structure Reply.EndsAt
    {α : Type}
    (tokens : List Token)
    (index : Nat)
    (reply : Reply α) : Prop where
  /-- A value leaves the token as the lookahead token. -/
  current : ∀ value,
    reply.result = .ok value -> reply.cursor.current = tokenAt tokens index
  /-- A failure is a failure at the token. -/
  failure : ∀ diagnostic, reply.result = .error diagnostic ->
    diagnostic = .ofCause diagnostic.cause ∧
      diagnostic.cause.token = tokenAt tokens index
  /-- The tokens behind the index have not been pulled. -/
  ahead : reply.cursor.source.tokens = tokens.drop (index + 1)

namespace Cursor

/-- Moving over a token reads one further. -/
theorem IsAt.advance
    {tokens : List Token}
    {index : Nat}
    {cursor : Cursor}
    (isAt : cursor.IsAt tokens index) :
    cursor.advance.EndsAt tokens (index + 1) := by
  have ahead := isAt.ahead
  cases known : cursor.source.tokens with
  | nil =>
      rw [known] at ahead
      have last : tokens.length ≤ index + 1 := List.drop_eq_nil_iff.1 ahead.symm
      rw [advance_of_nil known]
      refine ⟨fun _ _ => ?_, nofun, ?_⟩
      · rw [isAt.current, endOfFile_tokenAt last]
      · rw [known, List.drop_of_length_le (Nat.le_succ_of_le last)]
  | cons token rest =>
      rw [known] at ahead
      obtain ⟨here, further⟩ := tokenAt_of_drop ahead.symm
      obtain ⟨behind, log, rfl, moved⟩ := advance_of_cons known
      rw [moved]
      split
      · refine ⟨nofun, fun diagnostic failed => ?_, further.symm⟩
        cases failed
        exact ⟨rfl, here.symm⟩
      · exact ⟨fun _ _ => here.symm, nofun, further.symm⟩

end Cursor

/-! ## Runs -/

namespace Parser

variable {α : Type} {parser : Parser α} {cursor : Cursor} {count : Nat}
  {reply : Reply α}

/-- A parser replies on a cursor after it has pulled so many tokens. -/
inductive Runs :
    {α : Type} -> Parser α -> Cursor -> (count : Nat) -> Reply α -> Prop
  | finish {α : Type} (value : α) (cursor : Cursor) :
      Runs (.finish value) cursor 0 ⟨.ok value, cursor⟩
  | inspect
      {α : Type}
      {next : Token -> Parser α}
      {cursor : Cursor}
      {count : Nat}
      {reply : Reply α} :
      Runs (next cursor.current) cursor count reply ->
      Runs (.inspect next) cursor count reply
  | advance {α : Type} {next : Parser α} {cursor after : Cursor} {count : Nat}
      {reply : Reply α} :
      cursor.advance = ⟨.ok (), after⟩ ->
      Runs next after count reply ->
      Runs (.advance next) cursor (1 + count) reply
  /-- The token that is pulled could not be scanned. -/
  | stuck
      {α : Type}
      {cursor after : Cursor}
      {diagnostic : Diagnostic}
      (next : Parser α) :
      cursor.advance = ⟨.error diagnostic, after⟩ ->
      Runs (.advance next) cursor 1 ⟨.error diagnostic, after⟩
  | reject {α : Type} (refusal : Refusal) (cursor : Cursor) :
      Runs (.reject refusal : Parser α) cursor 0
        ⟨.error (.ofCause (refusal.cause cursor.current)), cursor⟩
  | note
      {α : Type}
      {event : Event}
      {next : Parser α}
      {cursor : Cursor}
      {count : Nat}
      {reply : Reply α} :
      Runs next (cursor.record event) count reply ->
      Runs (.note event next) cursor count reply
  | call
      {α : Type}
      {rule : Rule}
      {next : rule.Result -> Parser α}
      {cursor middle : Cursor}
      {front back : Nat} {value : rule.Result} {reply : Reply α} :
      Runs rule.body cursor front ⟨.ok value, middle⟩ ->
      Runs (next value) middle back reply ->
      Runs (.call rule next) cursor (front + back) reply
  /-- The rule that is called fails. -/
  | failedCall {α : Type} {rule : Rule} {cursor after : Cursor} {count : Nat}
      {diagnostic : Diagnostic} (next : rule.Result -> Parser α) :
      Runs rule.body cursor count ⟨.error diagnostic, after⟩ ->
      Runs (.call rule next) cursor count ⟨.error diagnostic, after⟩

/-- A run ends in the reply of the parser. -/
theorem Runs.parse_eq
    (runs : parser.Runs cursor count reply) :
    parser.parse cursor = reply := by
  induction runs with
  | finish value cursor => rfl
  | inspect _ inductionHypothesis => exact inductionHypothesis
  | advance moved _ inductionHypothesis =>
      rw [parse_advance, moved]
      exact inductionHypothesis
  | stuck next failed =>
      rw [parse_advance, failed]
      rfl
  | reject refusal cursor => rfl
  | note _ inductionHypothesis => exact inductionHypothesis
  | call _ _ firstHypothesis restHypothesis =>
      rw [parse_call, firstHypothesis]
      exact restHypothesis
  | failedCall next _ inductionHypothesis =>
      rw [parse_call, inductionHypothesis]
      rfl

/-- A parser has a run when every call in it has one. -/
theorem runs_of_run
    {callee : Callee}
    (answers : ∀ rule cursor reply, callee rule cursor = some reply ->
      ∃ count, rule.body.Runs cursor count reply)
    (found : parser.run callee cursor = some reply) :
    ∃ count, parser.Runs cursor count reply := by
  induction parser generalizing cursor with
  | finish value =>
      cases found
      exact ⟨0, .finish value cursor⟩
  | inspect next inductionHypothesis =>
      obtain ⟨count, runs⟩ := inductionHypothesis _ found
      exact ⟨count, .inspect runs⟩
  | advance next inductionHypothesis =>
      simp only [run] at found
      rcases moved : cursor.advance with ⟨diagnostic | value, after⟩
      · rw [moved] at found
        cases found
        exact ⟨1, .stuck next moved⟩
      · rw [moved] at found
        obtain ⟨count, runs⟩ := inductionHypothesis found
        exact ⟨1 + count, .advance moved runs⟩
  | reject refusal =>
      cases found
      exact ⟨0, .reject refusal cursor⟩
  | note event next inductionHypothesis =>
      obtain ⟨count, runs⟩ := inductionHypothesis found
      exact ⟨count, .note runs⟩
  | call rule next inductionHypothesis =>
      simp only [run] at found
      obtain ⟨step, answer, found⟩ := Option.bind_eq_some_iff.1 found
      obtain ⟨front, first⟩ := answers _ _ _ answer
      rcases step with ⟨diagnostic | value, after⟩
      · cases found
        exact ⟨front, .failedCall next first⟩
      · obtain ⟨back, rest⟩ := inductionHypothesis value found
        exact ⟨front + back, .call first rest⟩

theorem runs_of_answer?
    {depth : Nat}
    {rule : Rule}
    {reply : Reply rule.Result}
    (found : Rule.answer? depth rule cursor = some reply) :
    ∃ count, rule.body.Runs cursor count reply := by
  induction depth generalizing rule cursor with
  | zero => cases found
  | succ depth inductionHypothesis =>
      refine runs_of_run (fun _ _ _ answered => ?_) found
      exact inductionHypothesis answered

/-- Every parser has a run. -/
theorem runs_parse
    (parser : Parser α)
    (cursor : Cursor) :
    ∃ count, parser.Runs cursor count (parser.parse cursor) :=
  runs_of_run (fun _ _ _ answered => runs_of_answer? answered)
    (run_answer?_eq (Nat.lt_succ_self _))

/-- A parser has one run only. -/
theorem Runs.count_eq
    {other : Nat}
    {otherReply : Reply α}
    (runs : parser.Runs cursor count reply)
    (otherRuns : parser.Runs cursor other otherReply) :
    other = count := by
  induction runs generalizing other with
  | finish value cursor =>
      cases otherRuns
      rfl
  | inspect _ inductionHypothesis =>
      cases otherRuns with
      | inspect otherRuns => exact inductionHypothesis otherRuns
  | advance moved _ inductionHypothesis =>
      cases otherRuns with
      | advance otherMoved otherRuns =>
          cases moved.symm.trans otherMoved
          rw [inductionHypothesis otherRuns]
      | stuck _ failed =>
          rw [moved] at failed
          cases failed
  | stuck _ failed =>
      cases otherRuns with
      | advance moved _ =>
          rw [failed] at moved
          cases moved
      | stuck _ _ => rfl
  | reject refusal cursor =>
      cases otherRuns
      rfl
  | note _ inductionHypothesis =>
      cases otherRuns with
      | note otherRuns => exact inductionHypothesis otherRuns
  | call first _ firstHypothesis restHypothesis =>
      cases otherRuns with
      | call otherFirst otherRest =>
          cases first.parse_eq.symm.trans otherFirst.parse_eq
          rw [firstHypothesis otherFirst, restHypothesis otherRest]
      | failedCall _ otherFirst =>
          cases first.parse_eq.symm.trans otherFirst.parse_eq
  | failedCall _ first inductionHypothesis =>
      cases otherRuns with
      | call otherFirst _ => cases first.parse_eq.symm.trans otherFirst.parse_eq
      | failedCall _ otherFirst => exact inductionHypothesis otherFirst

/-- A run leaves the tokens behind those that it pulls. -/
theorem Runs.ahead
    (runs : parser.Runs cursor count reply) :
    reply.cursor.source.tokens = cursor.source.tokens.drop count := by
  induction runs with
  | finish value cursor => rfl
  | inspect _ inductionHypothesis => exact inductionHypothesis
  | @advance _ _ cursor after _ _ moved _ inductionHypothesis =>
      have step := cursor.tokens_advance
      rw [moved] at step
      rw [inductionHypothesis, step, List.drop_drop]
  | @stuck _ cursor _ _ next failed =>
      have step := cursor.tokens_advance
      rwa [failed] at step
  | reject refusal cursor => rfl
  | note _ inductionHypothesis => exact inductionHypothesis
  | call _ _ firstHypothesis restHypothesis =>
      rw [restHypothesis, firstHypothesis, List.drop_drop]
  | failedCall next _ inductionHypothesis => exact inductionHypothesis

/--
A run is the same on a cursor in lockstep with its own, and leaves the two in
lockstep.
-/
theorem Runs.lockstep
    {related : Nat -> Cursor -> Cursor -> Prop}
    {other : Cursor}
    (lockstep : Cursor.Lockstep related)
    (runs : parser.Runs cursor count reply)
    (more : Nat)
    (alike : related (count + more) cursor other) :
    ∃ otherReply,
      parser.Runs other count otherReply ∧ otherReply.result = reply.result ∧
      reply.cursor.current = otherReply.cursor.current ∧
        ∀ value, reply.result = .ok value ->
          related more reply.cursor otherReply.cursor := by
  induction runs generalizing other more with
  | finish value cursor =>
      rw [Nat.zero_add] at alike
      exact ⟨_, .finish value other, rfl, lockstep.current alike,
        fun _ _ => alike⟩
  | inspect _ inductionHypothesis =>
      obtain ⟨otherReply, runs, same, further⟩ := inductionHypothesis more alike
      rw [lockstep.current alike] at runs
      exact ⟨otherReply, .inspect runs, same, further⟩
  | advance moved _ inductionHypothesis =>
      rw [Nat.add_assoc, Nat.add_comm 1] at alike
      have step := lockstep.result alike
      have behind := lockstep.advance alike
      rcases otherMoved : other.advance with ⟨result, after⟩
      rw [moved, otherMoved] at step behind
      cases step
      obtain ⟨otherReply, runs, same, further⟩ :=
        inductionHypothesis more (behind rfl)
      exact ⟨otherReply, .advance otherMoved runs, same, further⟩
  | stuck next failed =>
      rw [Nat.add_comm 1] at alike
      have step := lockstep.result alike
      have current := lockstep.current alike
      rcases otherFailed : other.advance with ⟨result, after⟩
      rw [failed, otherFailed] at step
      cases step
      rw [← Cursor.current_of_stuck failed,
        ← Cursor.current_of_stuck otherFailed] at current
      exact ⟨_, .stuck next otherFailed, rfl, current, nofun⟩
  | reject refusal cursor =>
      have current := lockstep.current alike
      refine ⟨_, .reject refusal other, ?_, current, nofun⟩
      rw [current]
  | note _ inductionHypothesis =>
      obtain ⟨otherReply, runs, same, further⟩ :=
        inductionHypothesis more (lockstep.record _ alike)
      exact ⟨otherReply, .note runs, same, further⟩
  | call _ _ firstHypothesis restHypothesis =>
      rw [Nat.add_assoc] at alike
      obtain ⟨⟨result, middle⟩, firstRuns, rfl, -, between⟩ :=
        firstHypothesis _ alike
      obtain ⟨otherReply, restRuns, same, further⟩ :=
        restHypothesis more (between _ rfl)
      exact ⟨otherReply, .call firstRuns restRuns, same, further⟩
  | failedCall next _ inductionHypothesis =>
      obtain ⟨⟨result, after⟩, runs, rfl, current, -⟩ :=
        inductionHypothesis more alike
      exact ⟨_, .failedCall next runs, rfl, current, nofun⟩

/--
A run is the same on a cursor that agrees with its own about the tokens that it
pulls.
-/
theorem Runs.agree
    {other : Cursor}
    {more : Nat}
    (runs : parser.Runs cursor count reply)
    (agree : cursor.Agree (count + more) other) :
    ∃ otherReply,
      parser.Runs other count otherReply ∧ otherReply.result = reply.result ∧
      reply.cursor.Agree more otherReply.cursor := by
  obtain ⟨otherReply, otherRuns, same, current, -⟩ :=
    runs.lockstep Cursor.lockstep_agree more agree
  refine ⟨otherReply, otherRuns, same, current, fun index within => ?_⟩
  rw [runs.ahead, otherRuns.ahead, List.getElem?_drop, List.getElem?_drop]
  exact agree.ahead (count + index) (Nat.add_lt_add_left within count)

/--
The lookahead token and the tokens behind it decide what a parser replies.
-/
theorem result_congr
    {other : Cursor}
    (current : cursor.current = other.current)
    (ahead : cursor.source.tokens = other.source.tokens) :
    (parser.parse other).result = (parser.parse cursor).result := by
  obtain ⟨count, runs⟩ := parser.runs_parse cursor
  have agree : cursor.Agree (count + 0) other :=
    ⟨current, fun index _ => by rw [ahead]⟩
  obtain ⟨otherReply, otherRuns, same, -⟩ := runs.agree agree
  rw [otherRuns.parse_eq, same]

/-- A run ends at the last token that it pulls. -/
theorem Runs.endsAt
    {tokens : List Token}
    {index : Nat}
    (runs : parser.Runs cursor count reply)
    (isAt : cursor.IsAt tokens index) :
    reply.EndsAt tokens (index + count) := by
  induction runs generalizing index with
  | finish value cursor => exact ⟨fun _ _ => isAt.current, nofun, isAt.ahead⟩
  | inspect _ inductionHypothesis => exact inductionHypothesis isAt
  | advance moved _ inductionHypothesis =>
      have step := isAt.advance
      rw [moved] at step
      rw [← Nat.add_assoc]
      exact inductionHypothesis ⟨step.current _ rfl, step.ahead⟩
  | stuck next failed =>
      have step := isAt.advance
      rw [failed] at step
      refine ⟨nofun, fun diagnostic same => ?_, step.ahead⟩
      cases same
      exact step.failure _ rfl
  | reject refusal cursor =>
      refine ⟨nofun, fun diagnostic same => ?_, isAt.ahead⟩
      cases same
      refine ⟨rfl, ?_⟩
      rw [Nat.add_zero, ← isAt.current]
      cases refusal <;> rfl
  | note _ inductionHypothesis =>
      exact inductionHypothesis ⟨isAt.current, isAt.ahead⟩
  | call _ _ firstHypothesis restHypothesis =>
      rw [← Nat.add_assoc]
      have between := firstHypothesis isAt
      exact restHypothesis ⟨between.current _ rfl, between.ahead⟩
  | failedCall next _ inductionHypothesis =>
      have ends := inductionHypothesis isAt
      refine ⟨nofun, fun diagnostic same => ?_, ends.ahead⟩
      cases same
      exact ends.failure _ rfl

end Parser

/-! ## One token of lookahead -/

/--
A cursor that has pulled the first token of its stream stands at that token.
-/
theorem Cursor.isAt_zero
    {source : TokenStream}
    {cursor : Cursor}
    (opened : (before source).advance = ⟨.ok (), cursor⟩) :
    cursor.IsAt source.tokens 0 := by
  cases known : source.tokens with
  | nil =>
      have ended : (before source).source.tokens = [] := known
      have moved := advance_of_nil ended
      cases opened.symm.trans moved
      exact ⟨rfl, known⟩
  | cons token rest =>
      have more : (before source).source.tokens = token :: rest := known
      obtain ⟨behind, log, rfl, moved⟩ := advance_of_cons more
      have reply := opened.symm.trans moved
      split at reply
      · cases reply
      · cases reply
        exact ⟨rfl, rfl⟩

/--
A parser looks one token ahead.  It replies the same on every stream that agrees
with its own up to the last token that it has pulled, and ends there if its own
had ended.  A value leaves that token as the lookahead token, and a failure is a
failure at that token.  This holds of every parser, those of the grammar among
them.
-/
theorem Parser.lookahead_decides
    {α : Type}
    (parser : Parser α)
    (source : TokenStream)
    (cursor : Cursor)
    (opened : (Cursor.before source).advance = ⟨.ok (), cursor⟩) :
    ∃ last,
      (∀ count, parser.Runs cursor count (parser.parse cursor) ↔ count = last) ∧
      (∀ other : TokenStream,
        (∀ index ≤ last, other.tokens[index]? = source.tokens[index]?) ->
        ∃ otherCursor,
          (Cursor.before other).advance = ⟨.ok (), otherCursor⟩ ∧
          (parser.parse otherCursor).result = (parser.parse cursor).result ∧
          (parser.parse otherCursor).cursor.current =
            (parser.parse cursor).cursor.current) ∧
      (∀ value, (parser.parse cursor).result = .ok value ->
        (parser.parse cursor).cursor.current = tokenAt source.tokens last) ∧
      (∀ diagnostic, (parser.parse cursor).result = .error diagnostic ->
        diagnostic = .ofCause diagnostic.cause ∧
          diagnostic.cause.token = tokenAt source.tokens last) ∧
      (parser.parse cursor).cursor.source.tokens =
        source.tokens.drop (last + 1) := by
  obtain ⟨last, runs⟩ := parser.runs_parse cursor
  have ends := runs.endsAt (Cursor.isAt_zero opened)
  rw [Nat.zero_add] at ends
  refine ⟨last, fun count => ⟨runs.count_eq, ?_⟩, ?_, ends.current,
    ends.failure, ends.ahead⟩
  · rintro rfl
    exact runs
  · intro other same
    have agree :
        (Cursor.before source).Agree (last + 1) (Cursor.before other) :=
      ⟨rfl, fun index within => (same index (Nat.le_of_lt_succ within)).symm⟩
    obtain ⟨step, behind⟩ := agree.advance
    rcases otherOpened : (Cursor.before other).advance with
      ⟨result, otherCursor⟩
    rw [opened, otherOpened] at step behind
    cases step
    have together : cursor.Agree (last + 0) otherCursor := behind
    obtain ⟨otherReply, otherRuns, sameResult, between⟩ := runs.agree together
    have otherParsed : parser.parse otherCursor = otherReply :=
      otherRuns.parse_eq
    refine ⟨otherCursor, rfl, ?_⟩
    rw [otherParsed]
    exact ⟨sameResult, between.current.symm⟩

/--
The tokens of `1 + )` with a character behind them that could not be scanned.
-/
def openSum : List Token :=
  [⟨.intLiteral, "1", ⟨1, 1⟩⟩, ⟨.plus, "+", ⟨1, 3⟩⟩, ⟨.closeParen, ")", ⟨1, 5⟩⟩,
    ⟨.invalid, "$", ⟨1, 6⟩⟩]

/--
Whatever stands behind the parenthesis of `1 + )`, the parenthesis is refused.
-/
theorem Parser.lookahead_decides_openSum :
    (Cursor.before (.listed openSum)).advance =
        ⟨.ok (), ⟨.listed openSum.tail, ⟨.intLiteral, "1", ⟨1, 1⟩⟩, []⟩⟩ ∧
      ∀ rest, ∃ cursor,
        (Cursor.before (.listed (openSum.take 3 ++ rest))).advance =
          ⟨.ok (), cursor⟩ ∧
        (Grammar.expression.parse cursor).result =
          .error (.ofCause
            (.unexpected ⟨.closeParen, ")", ⟨1, 5⟩⟩ Expected.atom)) := by
  refine ⟨rfl, fun rest => ?_⟩
  obtain ⟨last, -, decides, -, -, ahead⟩ :=
    Parser.lookahead_decides Grammar.expression (.listed openSum) _ rfl
  have second : last = 2 := by
    have left : 1 = (openSum.drop (last + 1)).length :=
      congrArg List.length ahead
    rw [List.length_drop] at left
    change 1 = 4 - (last + 1) at left
    omega
  subst second
  obtain ⟨cursor, opened, result, -⟩ :=
    decides (.listed (openSum.take 3 ++ rest)) (by
    intro index within
    match index, within with
    | 0, _ => rfl
    | 1, _ => rfl
    | 2, _ => rfl)
  exact ⟨cursor, opened, result⟩

end MatrixLang
