import MatrixLang.Proofs.Runs

/-!
# The end of a stream

Parsers of the grammar never move over the end of the file, so a run pulls no
token behind the first one (`Parser.Runs.within`).  A stream without an end of
the file is read as if one stood behind its last token: the padding shows at the
same moment and at the same position (`Cursor.lockstep_pads`).
-/

namespace MatrixLang

/-! ## Nothing behind the first end of the file is pulled -/

namespace Cursor

/--
How many tokens a cursor pulls at most until the end of the file is its
lookahead token.
-/
def reach (cursor : Cursor) : Nat :=
  if cursor.AtEnd then 0
  else (cursor.source.tokens.takeWhile fun token =>
    token.kind ≠ .endOfFile).length + 1

theorem reach_eq_zero
    {cursor : Cursor}
    (ended : cursor.AtEnd) :
    cursor.reach = 0 :=
  if_pos ended

/-- Moving over a token that is not the end of the file comes closer to it. -/
theorem reach_advance_lt
    {cursor : Cursor}
    (inside : ¬ cursor.AtEnd) :
    cursor.advance.cursor.reach < cursor.reach := by
  cases known : cursor.source.tokens with
  | nil =>
      have ended : Cursor.AtEnd
          ⟨cursor.source, .endOfFile cursor.current.position, cursor.log⟩ :=
        rfl
      rw [advance_of_nil known, reach_eq_zero ended, reach, if_neg inside]
      exact Nat.succ_pos _
  | cons token rest =>
      obtain ⟨behind, log, rfl, moved⟩ := advance_of_cons known
      have whole : cursor.reach =
          ((token :: behind.tokens).takeWhile fun token =>
            token.kind ≠ .endOfFile).length + 1 := by
        rw [reach, if_neg inside, known]
      rw [moved, whole]
      by_cases ended : token.kind = .endOfFile
      · simp [reach, AtEnd, ended]
      · split <;> simp only [reach] <;> split <;> simp [ended]

/-- A cursor reaches no further than to an end of the file in front of it. -/
theorem reach_le
    {cursor : Cursor}
    {front rest : List Token}
    {last : Token}
    (known : cursor.source.tokens = front ++ last :: rest)
    (ended : last.kind = .endOfFile) :
    cursor.reach ≤ front.length + 1 := by
  have stops :
      (last :: rest).takeWhile (fun token => token.kind ≠ .endOfFile) = [] := by
    simp [ended]
  rw [reach, known, List.takeWhile_append, stops, List.append_nil]
  split
  · exact Nat.zero_le _
  · apply Nat.succ_le_succ
    split
    · exact Nat.le_refl _
    · exact (List.takeWhile_prefix _).length_le

end Cursor

namespace Parser

variable {α : Type} {parser : Parser α} {cursor : Cursor} {count : Nat}
  {reply : Reply α}
  {moved : Bool} {post : α -> Token -> Bool -> Prop}

/-- A guarded parser pulls no token behind the first end of the file. -/
theorem Runs.within
    (runs : parser.Runs cursor count reply)
    (guarded : parser.Guarded cursor.current moved post) :
    count + reply.cursor.reach ≤ cursor.reach := by
  induction runs generalizing moved with
  | finish value cursor => exact Nat.le_of_eq (Nat.zero_add _)
  | inspect _ inductionHypothesis => exact inductionHypothesis guarded
  | @advance _ _ cursor after count reply step _ inductionHypothesis =>
      obtain ⟨inside, next⟩ := guarded
      have closer := Cursor.reach_advance_lt inside
      rw [step] at closer
      have further : count + reply.cursor.reach ≤ after.reach :=
        inductionHypothesis (next _)
      dsimp only at closer
      omega
  | stuck next failed =>
      have closer := Cursor.reach_advance_lt guarded.1
      rw [failed] at closer
      rw [Nat.add_comm]
      exact closer
  | reject refusal cursor => exact Nat.le_of_eq (Nat.zero_add _)
  | note _ inductionHypothesis => exact inductionHypothesis guarded
  | @call _ rule _ cursor middle front back _ reply _ _ firstHypothesis
      restHypothesis =>
      have first : front + middle.reach ≤ cursor.reach :=
        firstHypothesis (rule.guarded_body cursor.current)
      have rest : back + reply.cursor.reach ≤ middle.reach :=
        restHypothesis (guarded.2 _ middle.current)
      omega
  | @failedCall _ rule cursor _ _ _ _ _ inductionHypothesis =>
      exact inductionHypothesis (rule.guarded_body cursor.current)

/--
Where a guarded parser ends, its postcondition holds, and it has moved only if
it says so.
-/
theorem Runs.ends
    (runs : parser.Runs cursor count reply)
    (guarded : parser.Guarded cursor.current moved post)
    {value : α}
    (yielded : reply.result = .ok value) :
    ∃ hasMoved, post value reply.cursor.current hasMoved ∧
      (hasMoved = true -> moved = true ∨ 0 < count) := by
  induction runs generalizing moved with
  | finish value cursor =>
      cases yielded
      exact ⟨moved, guarded, .inl⟩
  | inspect _ inductionHypothesis => exact inductionHypothesis guarded yielded
  | advance _ _ inductionHypothesis =>
      obtain ⟨hasMoved, holds, -⟩ := inductionHypothesis (guarded.2 _) yielded
      exact ⟨hasMoved, holds, fun _ => .inr (by omega)⟩
  | stuck next failed => cases yielded
  | reject refusal cursor => cases yielded
  | note _ inductionHypothesis => exact inductionHypothesis guarded yielded
  | call _ _ _ restHypothesis =>
      obtain ⟨hasMoved, holds, -⟩ := restHypothesis (guarded.2 _ _) yielded
      exact ⟨hasMoved, holds, fun _ => .inl guarded.1⟩
  | failedCall next _ _ => cases yielded

/-- A parser that consumes pulls a token before it yields a value. -/
theorem Runs.pos_of_consumes
    {value : α}
    {after : Cursor}
    (consumes : parser.Consumes)
    (runs : parser.Runs cursor count ⟨.ok value, after⟩) :
    0 < count := by
  obtain ⟨hasMoved, holds, moves⟩ := runs.ends
    (consumes cursor.current false (fun _ _ hasMoved => hasMoved = true)
      fun _ _ => rfl) rfl
  rcases moves holds with before | pulled
  · cases before
  · exact pulled

/--
A guarded parser replies the same where the tokens up to the end of the file are
the same.
-/
theorem result_of_agree
    {other : Cursor}
    {bound : Nat}
    (guarded : parser.Guarded cursor.current moved post)
    (within : cursor.reach ≤ bound)
    (agree : cursor.Agree bound other) :
    (parser.parse other).result = (parser.parse cursor).result := by
  obtain ⟨count, runs⟩ := parser.runs_parse cursor
  have few : count + (parser.parse cursor).cursor.reach ≤ cursor.reach :=
    runs.within guarded
  obtain ⟨more, total⟩ :
    ∃ more, bound = count + more := Nat.exists_eq_add_of_le (by omega)
  rw [total] at agree
  obtain ⟨otherReply, otherRuns, same, -⟩ := runs.agree agree
  rw [otherRuns.parse_eq, same]

end Parser

theorem Grammar.steady_module : Grammar.module.Steady :=
  fun token => (Parser.steady_apply .declarations).bind
    (fun _ => (Parser.steady_emit _).bind fun _ => Parser.steady_finish _) token

/--
A cursor behind the first token of a stream reaches no further than to an end of
the file.
-/
theorem Cursor.reach_opened_le
    {source : TokenStream}
    {cursor : Cursor}
    {front rest : List Token}
    {last : Token}
    (opened : (before source).advance = ⟨.ok (), cursor⟩)
    (known : source.tokens = front ++ last :: rest)
    (ended : last.kind = .endOfFile) :
    cursor.reach ≤ front.length := by
  obtain ⟨current, ahead⟩ := isAt_zero opened
  rw [known] at current ahead
  cases front with
  | nil =>
      have atEnd : cursor.AtEnd := by
        rw [AtEnd, current]
        exact ended
      rw [reach_eq_zero atEnd]
      exact Nat.zero_le _
  | cons token front => exact reach_le ahead ended

/-- What stands behind an end of the file is not read. -/
theorem parseModule_behind_end
    {last : Token}
    (ended : last.kind = .endOfFile)
    (front rest : List Token) :
    (parseModule (.listed (front ++ last :: rest))).result =
      (parseModule (.listed (front ++ [last]))).result := by
  have agree :
      (Cursor.before (.listed (front ++ [last]))).Agree (front.length + 1)
        (Cursor.before (.listed (front ++ last :: rest))) := by
    refine ⟨rfl, fun index within => ?_⟩
    change (front ++ [last])[index]? = (front ++ last :: rest)[index]?
    have within' : index < (front ++ [last]).length := by
      rwa [List.length_append]
    rw [List.append_cons front last rest, List.getElem?_append_left within']
  obtain ⟨step, behind⟩ := agree.advance
  rw [parseModule, parseModule, Parser.parse_advance, Parser.parse_advance]
  rcases opened : (Cursor.before (.listed (front ++ [last]))).advance with
    ⟨result, cursor⟩
  rcases others : (Cursor.before (.listed (front ++ last :: rest))).advance with
    ⟨result, other⟩
  rw [opened, others] at step behind
  cases step
  rcases result with diagnostic | value
  · rfl
  · exact Parser.result_of_agree
      (Grammar.steady_module _ (fun _ _ _ => True) fun _ _ => trivial)
      (Cursor.reach_opened_le opened rfl ended) behind

/-! ## Streams without an end of the file -/

/--
The second cursor finds an end of the file where the stream of the first one
runs out.
-/
structure Cursor.Pads (first second : Cursor) : Prop where
  /-- The lookahead tokens are the same. -/
  current : first.current = second.current
  /--
  The end of the file stands behind the last token, unless it has been pulled
  already.
  -/
  ahead : second.source.tokens = first.source.tokens ∨
    second.source.tokens =
      first.source.tokens ++ [Spot.endBehind first.current first.source.tokens]

namespace Cursor

variable {first second : Cursor}

/-- Padding a stream does not show when a cursor moves. -/
theorem Pads.advance
    (pads : first.Pads second) :
    first.advance.result = second.advance.result ∧
      (first.advance.result = .ok () ->
        first.advance.cursor.Pads second.advance.cursor) := by
  obtain ⟨current, same | padded⟩ := pads
  · have agree : ∀ count, first.Agree count second := fun count =>
      ⟨current, fun index _ => by rw [same]⟩
    refine ⟨(agree 1).advance.1,
      fun _ => ⟨(agree 1).advance.2.current, .inl ?_⟩⟩
    rw [tokens_advance, tokens_advance, same]
  · cases known : first.source.tokens with
    | nil =>
        rw [known] at padded
        obtain ⟨behind, log, remaining, moved⟩ := advance_of_cons padded
        rw [advance_of_nil known, moved]
        exact ⟨rfl, fun _ => ⟨rfl, .inl (remaining.trans known.symm)⟩⟩
    | cons token rest =>
        rw [known, Spot.endBehind_cons] at padded
        obtain ⟨behind, log, rfl, moved⟩ := advance_of_cons known
        obtain ⟨otherBehind, otherLog, remaining, otherMoved⟩ :=
          advance_of_cons padded
        rw [moved, otherMoved]
        split
        · exact ⟨rfl, nofun⟩
        · exact ⟨rfl, fun _ => ⟨rfl, .inr remaining⟩⟩

theorem lockstep_pads : Lockstep fun _ => Pads where
  current := Pads.current
  record _ pads := ⟨pads.current, pads.ahead⟩
  result pads := pads.advance.1
  advance pads := pads.advance.2

end Cursor

/-- A stream is read as if an end of the file stood behind its last token. -/
theorem parseModule_padded
    (tokens : List Token) :
    (parseModule (.listed tokens)).result =
      (parseModule (.listed (tokens ++ [endOf tokens]))).result := by
  have pads : (Cursor.before (.listed tokens)).Pads
      (Cursor.before (.listed (tokens ++ [endOf tokens]))) :=
    ⟨rfl, .inr rfl⟩
  obtain ⟨count, runs⟩ :=
    (Parser.advance Grammar.module).runs_parse (.before (.listed tokens))
  obtain ⟨otherReply, otherRuns, same, -⟩ :=
    runs.lockstep Cursor.lockstep_pads 0 pads
  rw [parseModule, parseModule, otherRuns.parse_eq, same]

/--
A stream ends with its first end of the file, whatever stands behind it.  A
stream without one ends behind its last token, at the position of that token,
and an empty stream at the start of the text.
-/
theorem parseModule_endOfStream :
    (∀ front last rest, last.kind = .endOfFile ->
      (parseModule (.listed (front ++ last :: rest))).result =
        (parseModule (.listed (front ++ [last]))).result) ∧
    (∀ front last,
      (parseModule (.listed (front ++ [last]))).result =
        (parseModule
          (.listed (front ++ [last, .endOfFile last.position]))).result) ∧
    (parseModule (.listed [])).result =
      (parseModule (.listed [.endOfFile .start])).result := by
  refine ⟨fun front last rest ended => parseModule_behind_end ended front rest,
    ?_, parseModule_padded []⟩
  intro front last
  have position : endOf (front ++ [last]) = .endOfFile last.position := by
    rw [endOf, Spot.endBehind, List.getLastD_concat]
  rw [parseModule_padded, position, List.append_assoc]
  rfl

/-- The tokens of `function void f(){` in front of a `return`. -/
def openFunction : List Token :=
  [⟨.functionWord, "function", ⟨1, 1⟩⟩, ⟨.voidWord, "void", ⟨1, 10⟩⟩,
    ⟨.identifier, "f", ⟨1, 15⟩⟩, ⟨.openParen, "(", ⟨1, 16⟩⟩,
    ⟨.closeParen, ")", ⟨1, 17⟩⟩, ⟨.openCurly, "\x7b", ⟨1, 18⟩⟩]

/--
Within a `return` the end of the file is refused, with an unreadable token
behind it and as the padding of a stream that has run out.
-/
theorem parseModule_endOfStream_openReturn :
    ((Token.endOfFile ⟨1, 25⟩).kind = .endOfFile ∧
      (parseModule
          (.listed (openFunction ++ [⟨.returnWord, "return", ⟨1, 19⟩⟩] ++
            [.endOfFile ⟨1, 25⟩, ⟨.invalid, "$", ⟨1, 26⟩⟩]))).result =
        .error (.ofCause (.unexpected (.endOfFile ⟨1, 25⟩) Expected.atom))) ∧
    (parseModule
        (.listed (openFunction ++ [⟨.returnWord, "return", ⟨1, 19⟩⟩]))).result =
      .error (.ofCause (.unexpected (.endOfFile ⟨1, 19⟩) Expected.atom)) := by
  refine ⟨⟨rfl, ?_⟩, ?_⟩
  · rw [parseModule_endOfStream.1 _ _ _ rfl]
    rfl
  · rw [parseModule_endOfStream.2.1]
    rfl

end MatrixLang
