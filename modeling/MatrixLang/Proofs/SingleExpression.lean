import MatrixLang.Proofs.RoundTrip

/-!
# Parsing a single expression

An expression is parsed on its own once the first token of a stream has been
pulled.  From tokens that an expression can be read from it is parsed, up to any
token at which no layer of expressions goes on, and whatever expression is
parsed is read from the tokens that were taken.
-/

namespace MatrixLang

variable {source : TokenStream} {cursor : Cursor} {tokens rest : List Token}
  {after : Token}
  {expr : Expr}

/-- A parser that takes tokens takes them from the start of a stream. -/
theorem Parser.Takes.started
    {α : Type}
    {parser : Parser α}
    {value : α}
    (takes : parser.Takes tokens after value)
    (known : source.tokens = tokens ++ after :: rest)
    (proper : Proper tokens)
    (valid : after.kind ≠ .invalid) :
    ∃ cursor,
      (Parser.advance parser).parse (.before source) = ⟨.ok value, cursor⟩ ∧
      cursor.current = after ∧ cursor.source.tokens = rest := by
  obtain ⟨start, stop, found, moves, stopped⟩ :=
    Spot.moves_before known proper valid
  have first : (Cursor.before source).spot.next? = some start := found
  obtain ⟨log, advanced⟩ := Spot.advance_of_next? first
  obtain ⟨lastLog, taken⟩ := takes (start.cursor log) stop moves stopped
  refine ⟨stop.cursor lastLog, ?_, stopped, ?_⟩
  · rw [Parser.parse_advance, advanced]
    exact taken
  · rcases Spot.Moves.tokens_eq found moves with more | ⟨all, -, -⟩
    · have listed : tokens ++ after :: rest = tokens ++ stop.tokens :=
        known.symm.trans more
      exact (List.cons.inj (List.append_cancel_left listed)).2.symm
    · have tooLong : tokens ++ after :: rest = tokens := known.symm.trans all
      simp at tooLong

/-- An expression that is parsed is read from the tokens that were taken. -/
theorem Grammar.reads_of_expression
    (parsed : (Grammar.expression.parse cursor).result = .ok expr) :
    ∃ tokens,
      cursor.spot.Moves tokens (Grammar.expression.parse cursor).cursor.spot ∧
      Phrase.expression.Reads tokens expr := by
  have meets := Grammar.parses_expression.meets cursor
  rw [Reply.Meets, parsed] at meets
  obtain ⟨tokens, moves, -, -, reads⟩ := meets
  exact ⟨tokens, moves, reads⟩

/--
An expression at the start of a stream is read from the tokens that come first.
-/
theorem Grammar.reads_of_started
    (parsed : (Parser.advance Grammar.expression).parse (.before source) =
      ⟨.ok expr, cursor⟩) :
    ∃ tokens, Phrase.expression.Reads tokens expr ∧
      (source.tokens = tokens ++ cursor.spot.tokens ∨
        source.tokens = tokens ∧ cursor.source.tokens = [] ∧
          cursor.current = endOf tokens) := by
  rw [Parser.parse_advance] at parsed
  cases found : (Spot.before source).next? with
  | none =>
      have first : (Cursor.before source).spot.next? = none := found
      obtain ⟨token, rest, log, -, -, failed⟩ :=
        Spot.advance_of_next?_none first
      rw [failed] at parsed
      cases parsed
  | some start =>
      have first : (Cursor.before source).spot.next? = some start := found
      obtain ⟨log, advanced⟩ := Spot.advance_of_next? first
      rw [advanced] at parsed
      have reply : Grammar.expression.parse (start.cursor log) =
          ⟨.ok expr, cursor⟩ := parsed
      have yielded :
          (Grammar.expression.parse (start.cursor log)).result = .ok expr := by
        rw [reply]
      obtain ⟨tokens, moves, reads⟩ := Grammar.reads_of_expression yielded
      rw [reply] at moves
      exact ⟨tokens, reads, Spot.Moves.tokens_eq found moves⟩

end MatrixLang
