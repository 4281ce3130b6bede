import MatrixLang.Proofs.Runs

/-!
# Parsing on behind a failure

A cursor may be used again after a parser has failed on it, in the middle of
whatever was being parsed.  Every reply comes about by steps of the cursor, of
which only the last one may fail (`Parser.Runs.comesFrom`), and each step pulls
one token (`Cursor.HasPulled.advance`).  So the lookahead token is always the
last one that could be read, however the cursor has been used.
-/

namespace MatrixLang

/-! ## Replies come about by steps -/

namespace Cursor

/--
So many steps lead from one cursor to another, with events noted between them.
-/
inductive Advances : (count : Nat) -> Cursor -> Cursor -> Prop
  | stay (cursor : Cursor) : Advances 0 cursor cursor
  | advance {count : Nat} {cursor next after : Cursor} :
      cursor.advance = ⟨.ok (), next⟩ ->
      Advances count next after ->
      Advances (1 + count) cursor after
  | note {count : Nat} {cursor after : Cursor} {event : Event} :
      Advances count (cursor.record event) after ->
      Advances count cursor after

theorem Advances.trans
    {first second : Nat}
    {start middle after : Cursor}
    (front : start.Advances first middle)
    (back : middle.Advances second after) :
    start.Advances (first + second) after := by
  induction front with
  | stay cursor =>
      rw [Nat.zero_add]
      exact back
  | advance moved _ inductionHypothesis =>
      rw [Nat.add_assoc]
      exact .advance moved (inductionHypothesis back)
  | note _ inductionHypothesis => exact .note (inductionHypothesis back)

/-- A step fails only at a token that could not be scanned. -/
theorem of_stuck
    {cursor after : Cursor}
    {diagnostic : Diagnostic}
    (failed : cursor.advance = ⟨.error diagnostic, after⟩) :
    ∃ token, token.kind = .invalid ∧ diagnostic = .ofCause (.lexical token) ∧
      cursor.source.tokens = token :: after.source.tokens := by
  cases known : cursor.source.tokens with
  | nil =>
      rw [advance_of_nil known] at failed
      cases failed
  | cons token rest =>
      obtain ⟨behind, log, rfl, moved⟩ := advance_of_cons known
      rw [moved] at failed
      split at failed
      · next invalid =>
          cases failed
          exact ⟨token, invalid, rfl, rfl⟩
      · cases failed

end Cursor

/--
A reply comes about by so many steps from a cursor, of which the last one may
have failed.
-/
inductive Reply.ComesFrom
    {α : Type}
    (cursor : Cursor) : (count : Nat) -> Reply α -> Prop
  | yields {count : Nat} {after : Cursor} (value : α) :
      cursor.Advances count after ->
      ComesFrom cursor count ⟨.ok value, after⟩
  /-- The lookahead token behind the steps is refused. -/
  | refused {count : Nat} {after : Cursor} (refusal : Refusal) :
      cursor.Advances count after ->
      ComesFrom cursor count
        ⟨.error (.ofCause (refusal.cause after.current)), after⟩
  /-- The last step pulls a token that could not be scanned. -/
  | stuck {count : Nat} {last after : Cursor} {token : Token} :
      cursor.Advances count last ->
      last.advance = ⟨.error (.ofCause (.lexical token)), after⟩ ->
      token.kind = .invalid ->
      ComesFrom cursor (count + 1) ⟨.error (.ofCause (.lexical token)), after⟩

/-- A reply comes about from before some steps as it does behind them. -/
theorem Reply.ComesFrom.after
    {α : Type}
    {start middle : Cursor}
    {front back : Nat}
    {reply : Reply α}
    (steps : start.Advances front middle)
    (comes : reply.ComesFrom middle back) :
    reply.ComesFrom start (front + back) := by
  cases comes with
  | yields value further => exact .yields value (steps.trans further)
  | refused refusal further => exact .refused refusal (steps.trans further)
  | stuck further failed invalid =>
      exact .stuck (steps.trans further) failed invalid

/-- Every run is a number of steps, one for each token that it pulls. -/
theorem Parser.Runs.comesFrom
    {α : Type}
    {parser : Parser α}
    {cursor : Cursor}
    {count : Nat}
    {reply : Reply α}
    (runs : parser.Runs cursor count reply) :
    reply.ComesFrom cursor count := by
  induction runs with
  | finish value cursor => exact .yields value (.stay cursor)
  | inspect _ inductionHypothesis => exact inductionHypothesis
  | advance moved _ inductionHypothesis =>
      exact inductionHypothesis.after (.advance moved (.stay _))
  | stuck next failed =>
      obtain ⟨token, invalid, rfl, -⟩ := Cursor.of_stuck failed
      exact .stuck (.stay _) failed invalid
  | reject refusal cursor => exact .refused refusal (.stay cursor)
  | note _ inductionHypothesis =>
      have noted := inductionHypothesis.after (.note (.stay _))
      rwa [Nat.zero_add] at noted
  | call _ _ firstHypothesis restHypothesis =>
      cases firstHypothesis with
      | yields _ steps => exact restHypothesis.after steps
  | failedCall next _ inductionHypothesis =>
      cases inductionHypothesis with
      | refused refusal steps => exact .refused refusal steps
      | stuck steps failed invalid => exact .stuck steps failed invalid

/-- Steps leave the tokens behind those that they pull. -/
theorem Cursor.Advances.ahead
    {count : Nat}
    {cursor after : Cursor}
    (steps : cursor.Advances count after) :
    after.source.tokens = cursor.source.tokens.drop count := by
  induction steps with
  | stay cursor => rfl
  | @advance _ cursor _ _ moved _ inductionHypothesis =>
      have step := cursor.tokens_advance
      rw [moved] at step
      rw [inductionHypothesis, step, List.drop_drop]
  | note _ inductionHypothesis => exact inductionHypothesis

/-- Steps pull only tokens that could be scanned. -/
theorem Cursor.Advances.kind_ne
    {count : Nat}
    {cursor after : Cursor}
    (steps : cursor.Advances count after)
    {index : Nat}
    {token : Token}
    (within : index < count)
    (known : cursor.source.tokens[index]? = some token) :
    token.kind ≠ .invalid := by
  induction steps generalizing index with
  | stay cursor => exact absurd within (Nat.not_lt_zero _)
  | @advance count cursor next _ moved _ inductionHypothesis =>
      have step := cursor.tokens_advance
      rw [moved] at step
      cases index with
      | zero =>
          obtain ⟨rest, all⟩ :
            ∃ rest, cursor.source.tokens = token :: rest := by
            rw [← List.head?_eq_getElem?] at known
            exact List.head?_eq_some_iff.1 known
          obtain ⟨behind, log, -, pulled⟩ := Cursor.advance_of_cons all
          intro invalid
          rw [pulled, if_pos invalid] at moved
          cases moved
      | succ index =>
          have later : next.source.tokens[index]? = some token := by
            rwa [step, List.getElem?_drop, Nat.add_comm]
          exact inductionHypothesis (by omega) later
  | note _ inductionHypothesis => exact inductionHypothesis within known

/--
A run that pulls more tokens than it shares with another cursor fails there if
the first token that is not shared could not be scanned.
-/
theorem Parser.Runs.blocked
    {α : Type}
    {parser : Parser α}
    {cursor other : Cursor}
    {count shared : Nat}
    {reply : Reply α}
    {token : Token}
    (runs : parser.Runs cursor count reply)
    (agree : other.Agree shared cursor)
    (further : shared < count)
    (known : other.source.tokens[shared]? = some token)
    (invalid : token.kind = .invalid) :
    (parser.parse other).result = .error (.ofCause (.lexical token)) := by
  obtain ⟨pulls, otherRuns⟩ := parser.runs_parse other
  have beyond : shared < pulls := by
    apply Nat.lt_of_not_le
    intro few
    obtain ⟨more, total⟩ := Nat.exists_eq_add_of_le few
    rw [total] at agree
    obtain ⟨same, sameRuns, -⟩ := otherRuns.agree agree
    have equal := sameRuns.count_eq runs
    omega
  generalize parser.parse other = otherReply at otherRuns
  cases otherRuns.comesFrom with
  | yields value steps => exact absurd invalid (steps.kind_ne beyond known)
  | refused refusal steps => exact absurd invalid (steps.kind_ne beyond known)
  | @stuck before last after found steps failed _ =>
      obtain ⟨same, -, cause, pulled⟩ := Cursor.of_stuck failed
      cases cause
      have notEarlier : ¬ shared < before := fun earlier =>
        steps.kind_ne earlier known invalid
      have here : shared = before := by omega
      rw [steps.ahead] at pulled
      rw [here, ← List.head?_drop, pulled] at known
      cases known
      rfl

/--
What holds of a cursor by the number of tokens that have been pulled, and goes
on to hold with every step, holds behind any number of steps.
-/
theorem Cursor.Advances.keeps
    {property : Nat -> Cursor -> Prop}
    {pulls count : Nat}
    {cursor after : Cursor}
    (record : ∀ {pulls cursor} (event : Event),
      property pulls cursor -> property pulls (cursor.record event))
    (advance : ∀ {pulls cursor},
      property pulls cursor -> property (pulls + 1) cursor.advance.cursor)
    (steps : cursor.Advances count after)
    (holds : property pulls cursor) :
    property (pulls + count) after := by
  induction steps generalizing pulls with
  | stay cursor => exact holds
  | advance moved _ inductionHypothesis =>
      have step := advance holds
      rw [moved] at step
      rw [← Nat.add_assoc]
      exact inductionHypothesis step
  | note _ inductionHypothesis => exact inductionHypothesis (record _ holds)

/-- What every step of a cursor carries on is carried on by every run. -/
theorem Parser.Runs.keeps
    {α : Type}
    {parser : Parser α}
    {property : Nat -> Cursor -> Prop}
    {pulls count : Nat}
    {cursor : Cursor}
    {reply : Reply α}
    (record : ∀ {pulls cursor} (event : Event),
      property pulls cursor -> property pulls (cursor.record event))
    (advance : ∀ {pulls cursor},
      property pulls cursor -> property (pulls + 1) cursor.advance.cursor)
    (runs : parser.Runs cursor count reply)
    (holds : property pulls cursor) :
    property (pulls + count) reply.cursor := by
  cases runs.comesFrom with
  | yields value steps => exact steps.keeps record advance holds
  | refused refusal steps => exact steps.keeps record advance holds
  | stuck steps failed invalid =>
      have step := advance (steps.keeps record advance holds)
      rwa [failed] at step

/-! ## What has been pulled -/

/-- The tokens of a list that could be scanned. -/
def scannable (tokens : List Token) : List Token :=
  tokens.filter fun token => token.kind ≠ .invalid

theorem scannable_append
    (front back : List Token) :
    scannable (front ++ back) = scannable front ++ scannable back :=
  List.filter_append front back

namespace Cursor

/--
A cursor has pulled so many tokens of a list.  Its lookahead token is the last
of them that could be scanned, or the end of the file at the position of that
token once the list has run out.
-/
structure HasPulled
    (tokens : List Token)
    (pulls : Nat)
    (cursor : Cursor) : Prop where
  /-- The other tokens are still to come. -/
  ahead : cursor.source.tokens = tokens.drop pulls
  /-- The lookahead token is the last one that could be scanned. -/
  current : pulls ≤ tokens.length ->
    cursor.current =
      (scannable (tokens.take pulls)).getLastD (.endOfFile .start)
  /-- Behind the list stands the end of the file. -/
  ended : tokens.length < pulls -> cursor.current = endOf (scannable tokens)

theorem hasPulled_before
    (source : TokenStream) :
    (before source).HasPulled source.tokens 0 where
  ahead := rfl
  current _ := rfl
  ended impossible := absurd impossible (Nat.not_lt_zero _)

/-- A step pulls one token more, whether it can be scanned or not. -/
theorem HasPulled.advance
    {tokens : List Token}
    {pulls : Nat}
    {cursor : Cursor}
    (pulled : cursor.HasPulled tokens pulls) :
    cursor.advance.cursor.HasPulled tokens (pulls + 1) := by
  have ahead := pulled.ahead
  have further :
      cursor.advance.cursor.source.tokens = tokens.drop (pulls + 1) := by
    rw [tokens_advance, ahead, List.drop_drop]
  cases known : cursor.source.tokens with
  | nil =>
      have all : tokens.length ≤ pulls := by
        rw [known] at ahead
        exact List.drop_eq_nil_iff.1 ahead.symm
      refine ⟨further, fun within => by omega, fun _ => ?_⟩
      rw [advance_of_nil known]
      rcases Nat.eq_or_lt_of_le all with last | beyond
      · have current := pulled.current (Nat.le_of_eq last.symm)
        rw [List.take_of_length_le all] at current
        rw [current]
        rfl
      · rw [pulled.ended beyond]
        rfl
  | cons token rest =>
      rw [known] at ahead
      have within : pulls < tokens.length := by
        have longer : (tokens.drop pulls).length = (token :: rest).length :=
          congrArg List.length ahead.symm
        rw [List.length_drop, List.length_cons] at longer
        omega
      have next : tokens.take (pulls + 1) = tokens.take pulls ++ [token] := by
        rw [List.take_add_one, ← List.head?_drop, ← ahead]
        rfl
      refine ⟨further, fun _ => ?_, fun beyond => by omega⟩
      have current := pulled.current (Nat.le_of_lt within)
      obtain ⟨behind, log, -, moved⟩ := advance_of_cons known
      rw [moved, next, scannable_append]
      by_cases invalid : token.kind = .invalid
      · have dropped : scannable [token] = [] := by simp [scannable, invalid]
        rw [if_pos invalid, dropped, List.append_nil]
        exact current
      · have kept : scannable [token] = [token] := by simp [scannable, invalid]
        rw [if_neg invalid, kept, List.getLastD_concat]

/-- A run pulls the tokens that it counts. -/
theorem HasPulled.runs
    {α : Type}
    {parser : Parser α}
    {tokens : List Token}
    {pulls count : Nat}
    {cursor : Cursor}
    {reply : Reply α}
    (pulled : cursor.HasPulled tokens pulls)
    (runs : parser.Runs cursor count reply) :
    reply.cursor.HasPulled tokens (pulls + count) :=
  runs.keeps (fun _ pulled => ⟨pulled.ahead, pulled.current, pulled.ended⟩)
    (fun pulled => pulled.advance) pulled

/-! ## Any sequence of uses -/

/--
The cursors that lead on from the first token of a stream when parsers run one
after the other, whether they yield a value or fail, with the number of tokens
that have been pulled.
-/
inductive Reaches (source : TokenStream) : (pulls : Nat) -> Cursor -> Prop
  | start {cursor : Cursor} :
      (before source).advance = ⟨.ok (), cursor⟩ ->
      Reaches source 1 cursor
  | step {α : Type} {pulls count : Nat} {cursor : Cursor} (parser : Parser α) :
      Reaches source pulls cursor ->
      parser.Runs cursor count (parser.parse cursor) ->
      Reaches source (pulls + count) (parser.parse cursor).cursor

namespace Reaches

variable {source : TokenStream} {pulls : Nat} {cursor : Cursor}

theorem hasPulled
    (reached : Reaches source pulls cursor) :
    cursor.HasPulled source.tokens pulls := by
  induction reached with
  | start opened =>
      have pulled := (hasPulled_before source).advance
      rwa [opened] at pulled
  | step parser _ runs inductionHypothesis =>
      exact inductionHypothesis.runs runs

/-- The first token of the stream could be scanned. -/
theorem scannable_take
    (reached : Reaches source pulls cursor)
    (within : pulls ≤ source.tokens.length) :
    scannable (source.tokens.take pulls) ≠ [] := by
  induction reached with
  | @start cursor opened =>
      cases known : source.tokens with
      | nil =>
          rw [known] at within
          exact absurd within (Nat.not_succ_le_zero 0)
      | cons token rest =>
          have more : (before source).source.tokens = token :: rest := known
          obtain ⟨behind, log, -, moved⟩ := advance_of_cons more
          rw [moved] at opened
          split at opened
          · cases opened
          · next valid => simp [scannable, valid]
  | @step _ pulls count _ parser _ _ inductionHypothesis =>
      intro empty
      apply inductionHypothesis (Nat.le_trans (Nat.le_add_right _ _) within)
      rw [List.take_add, scannable_append] at empty
      exact (List.append_eq_nil_iff.1 empty).1

/--
The lookahead token is the last one that could be scanned, until the stream has
run out.
-/
theorem getLast?_eq
    (reached : Reaches source pulls cursor)
    (within : pulls ≤ source.tokens.length) :
    (scannable (source.tokens.take pulls)).getLast? = some cursor.current := by
  have nonempty := reached.scannable_take within
  rw [reached.hasPulled.current within, List.getLastD_eq_getLast?,
    List.getLast?_eq_some_getLast nonempty]
  rfl

/-- The lookahead token could always be scanned. -/
theorem kind_ne
    (reached : Reaches source pulls cursor) :
    cursor.current.kind ≠ .invalid := by
  rcases Nat.lt_or_ge source.tokens.length pulls with beyond | within
  · rw [reached.hasPulled.ended beyond]
    simp [endOf, Spot.endBehind, Token.endOfFile]
  · have isOne := List.mem_of_getLast? (reached.getLast?_eq within)
    simpa using (List.mem_filter.1 isOne).2

end Reaches

/--
However a cursor is used, whether parsers yield values on it or fail, its
lookahead token could be scanned.  It is the last such token among those that
have been pulled, or the end of the file at the position of that token once the
stream has run out.  Every further use is a number of steps of the cursor; it
fails at a token that could not be scanned exactly if one more step fails at
that token, and every other failure is at the lookahead token that it leaves.
Where a kind is expected that the lookahead token has not, the cursor stays as
it is.
-/
theorem Reaches.staysSound
    {source : TokenStream}
    {pulls : Nat}
    {cursor : Cursor}
    (reached : Reaches source pulls cursor) :
    cursor.current.kind ≠ .invalid ∧
    cursor.source.tokens = source.tokens.drop pulls ∧
    (pulls ≤ source.tokens.length ->
      (scannable (source.tokens.take pulls)).getLast? = some cursor.current) ∧
    (source.tokens.length < pulls ->
      cursor.current = endOf (scannable source.tokens)) ∧
    (∀ {α : Type} (parser : Parser α), ∃ count last,
      cursor.Advances count last ∧
      ((parser.Runs cursor count (parser.parse cursor) ∧
          (parser.parse cursor).cursor = last ∧
          ∀ diagnostic, (parser.parse cursor).result = .error diagnostic ->
            diagnostic = .ofCause diagnostic.cause ∧
              diagnostic.cause.token = last.current ∧
              ∀ token, diagnostic.cause ≠ .lexical token) ∨
        (parser.Runs cursor (count + 1) (parser.parse cursor) ∧
          ∃ token, token.kind = .invalid ∧
            last.advance =
              ⟨.error (.ofCause (.lexical token)),
                (parser.parse cursor).cursor⟩ ∧
            (parser.parse cursor).result =
              .error (.ofCause (.lexical token))))) ∧
    (∀ kind, cursor.current.kind ≠ kind ->
      (Parser.expect kind).parse cursor =
        ⟨.error (.ofCause (.unexpected cursor.current [kind])), cursor⟩) := by
  refine ⟨reached.kind_ne, reached.hasPulled.ahead, reached.getLast?_eq,
    reached.hasPulled.ended, ?_, ?_⟩
  · intro α parser
    obtain ⟨count, runs⟩ := parser.runs_parse cursor
    generalize parser.parse cursor = reply at runs
    cases runs.comesFrom with
    | yields value steps => exact ⟨count, _, steps, .inl ⟨runs, rfl, nofun⟩⟩
    | refused refusal steps =>
        refine ⟨count, _, steps, .inl ⟨runs, rfl, fun diagnostic same => ?_⟩⟩
        cases same
        cases refusal <;> exact ⟨rfl, rfl, nofun⟩
    | stuck steps failed invalid =>
        exact ⟨_, _, steps, .inr ⟨runs, _, invalid, failed, rfl⟩⟩
  · intro kind other
    rw [Parser.expect, Parser.parse_inspect, if_neg other]
    rfl

/-- The tokens of `1 + $ 2`, where the third one could not be scanned. -/
def brokenSum : List Token :=
  [⟨.intLiteral, "1", ⟨1, 1⟩⟩, ⟨.plus, "+", ⟨1, 3⟩⟩, ⟨.invalid, "$", ⟨1, 5⟩⟩,
    ⟨.intLiteral, "2", ⟨1, 7⟩⟩]

/--
Behind the failure within `1 + $ 2` the plus is still the lookahead token.
-/
theorem Reaches.staysSound_brokenSum :
    Reaches (.listed brokenSum) 3
        ⟨.listed (brokenSum.drop 3), ⟨.plus, "+", ⟨1, 3⟩⟩, []⟩ ∧
      (scannable (brokenSum.take 3)).getLast? = some ⟨.plus, "+", ⟨1, 3⟩⟩ ∧
      (Parser.expect .semicolon).parse
          ⟨.listed (brokenSum.drop 3), ⟨.plus, "+", ⟨1, 3⟩⟩, []⟩ =
        ⟨.error (.ofCause (.unexpected ⟨.plus, "+", ⟨1, 3⟩⟩ [.semicolon])),
          ⟨.listed (brokenSum.drop 3), ⟨.plus, "+", ⟨1, 3⟩⟩, []⟩⟩ := by
  have first : Reaches (.listed brokenSum) 1
      ⟨.listed brokenSum.tail, ⟨.intLiteral, "1", ⟨1, 1⟩⟩, []⟩ :=
    .start rfl
  obtain ⟨count, runs⟩ := Grammar.expression.runs_parse
    ⟨.listed brokenSum.tail, ⟨.intLiteral, "1", ⟨1, 1⟩⟩, []⟩
  have two : count = 2 := by
    have left : 1 = (brokenSum.tail.drop count).length :=
      congrArg List.length runs.ahead
    rw [List.length_drop] at left
    change 1 = 3 - count at left
    omega
  subst two
  have reached : Reaches (.listed brokenSum) 3
      ⟨.listed (brokenSum.drop 3), ⟨.plus, "+", ⟨1, 3⟩⟩, []⟩ :=
    first.step Grammar.expression runs
  obtain ⟨-, -, last, -, -, expects⟩ := Reaches.staysSound reached
  exact ⟨reached, last (by decide), expects .semicolon (by decide)⟩

end Cursor
end MatrixLang
