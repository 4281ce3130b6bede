import MatrixLang.Proofs.ExpressionText
import MatrixLang.Proofs.Numerals.Canonical
import MatrixLang.Proofs.Refusals

/-!
# Integer literals are exact

Digits in front of a text that closes an expression are one token, however many
they are.  Up to the 32-bit limit the expression is the integer whose value the
digits have; beyond it the literal is refused as a whole and stays the lookahead
token.
-/

namespace MatrixLang

/--
Digits at the start of a text are one token in front of what closes the
expression.
-/
theorem tokens_ofDigits
    {digits context : String}
    (nonempty : digits.toList ≠ [])
    (isDigit : ∀ character ∈ digits.toList, character.isDigit = true)
    (closes : Closes context.toList) :
    (TokenStream.ofText (digits ++ context)).tokens =
      ⟨.intLiteral, digits, .start⟩ ::
        Scanner.tokens ⟨context.toList, Position.start.afterAll digits.toList,
          false⟩ := by
  have first := Token.Lexeme.first?_integer nonempty isDigit closes.stops
  have passes :=
    Scanner.passes_lexeme (.matched .integer digits.toList) first rfl .start
  have token : (Token.Lexeme.matched .integer digits.toList).token .start =
      ⟨.intLiteral, digits, .start⟩ := by
    rw [Token.Lexeme.token, Token.Pattern.spelling_of_ne_string (by decide),
      String.ofList_toList]
    rfl
  rw [token, Scanner.Passes, Token.Lexeme.text,
    ← String.toList_append] at passes
  exact passes

/--
Digits are parsed as the integer they stand for, whatever closes the expression
behind them, if it is at most the greatest 32-bit integer.  The text of the
expression is then the one canonical numeral of that integer.  Otherwise parsing
fails for the number, and its token is still the lookahead token.
-/
theorem Grammar.expression_integer
    (digits context : String)
    (nonempty : digits ≠ "")
    (isDigit : ∀ character ∈ digits.toList, character.isDigit = true)
    (closes : Closes context.toList) :
    (Numeral.placeValue digits.toList ≤ 2147483647 ->
      ∃ value cursor,
        (Parser.advance Grammar.expression).parse
            (.before (.ofText (digits ++ context))) =
          ⟨.ok (.int ⟨1, 1⟩ value), cursor⟩ ∧
        value.toInt = Numeral.placeValue digits.toList ∧
        (∀ numeral,
          Numeral.IsCanonical (Numeral.placeValue digits.toList) numeral ↔
            numeral = (Expr.int ⟨1, 1⟩ value).text.toList) ∧
        cursor.current :: cursor.source.tokens =
          Scanner.tokens
            ⟨context.toList, Position.start.afterAll digits.toList, false⟩) ∧
    (2147483647 < Numeral.placeValue digits.toList ->
      ∃ cursor,
        (Parser.advance Grammar.expression).parse
            (.before (.ofText (digits ++ context))) =
          ⟨.error (.ofCause (.number ⟨.intLiteral, digits, ⟨1, 1⟩⟩)), cursor⟩ ∧
        cursor.current = ⟨.intLiteral, digits, ⟨1, 1⟩⟩ ∧
        cursor.source.tokens =
          Scanner.tokens ⟨context.toList, Position.start.afterAll digits.toList,
            false⟩) := by
  have present : digits.toList ≠ [] :=
    fun empty => nonempty (String.toList_inj.1 empty)
  have known := tokens_ofDigits present isDigit closes
  constructor
  · intro fits
    obtain ⟨value, read, same⟩ := Numeral.int32?_of_le present isDigit fits
    have reads : (Phrase.tier .atom).Reads [⟨.intLiteral, digits, .start⟩]
        (.int .start value) :=
      .int rfl read
    obtain ⟨after, rest, behind, valid, ends, -⟩ :=
      closes.tokens_eq (Position.start.afterAll digits.toList)
    have takes := reads.toExpression.takes_expression rfl ends
    rw [behind] at known
    obtain ⟨cursor, parsed, current, remaining⟩ :=
      takes.started known (by simp) valid
    refine ⟨value, cursor, parsed, same, fun numeral => ?_, ?_⟩
    · have nonneg : 0 ≤ value.toInt := by omega
      rw [Numeral.isCanonical_iff, Expr.text, Numeral.toList_ofInt32 nonneg,
        same, Int.toNat_natCast]
    · rw [current, remaining, behind]
  · intro beyond
    -- The value is looked up before the literal is passed, so nothing has moved
    -- yet.
    have refused : Grammar.atom.Refuses ⟨.intLiteral, digits, .start⟩ .number :=
      Grammar.refuses_int rfl (Numeral.int32?_of_lt present isDigit beyond)
    exact (Grammar.refuses_expression refused nofun nofun).started known nofun

/--
Zeros before the limit change nothing, and a value that would wrap around is
refused.
-/
theorem Grammar.expression_integer_limits :
    (∃ cursor,
      (Parser.advance Grammar.expression).parse
          (.before (.ofText ("0002147483647" ++ ")"))) =
        ⟨.ok (.int ⟨1, 1⟩ 2147483647), cursor⟩) ∧
    (∃ cursor,
      (Parser.advance Grammar.expression).parse
          (.before (.ofText ("4294967297" ++ ";"))) =
        ⟨.error (.ofCause (.number ⟨.intLiteral, "4294967297", ⟨1, 1⟩⟩)),
          cursor⟩ ∧
      cursor.current = ⟨.intLiteral, "4294967297", ⟨1, 1⟩⟩) := by
  constructor
  · have isDigit :
        ∀ character ∈ "0002147483647".toList, character.isDigit = true :=
      List.all_eq_true.1 rfl
    have closes : Closes (")" : String).toList := by
      rintro character ⟨⟩
      decide
    obtain ⟨value, cursor, parsed, same, -⟩ :=
      (Grammar.expression_integer "0002147483647" ")" (by decide) isDigit
        closes).1 (by decide)
    have limit : value = 2147483647 := Int32.toInt_inj.1 same
    exact ⟨cursor, limit ▸ parsed⟩
  · have isDigit :
        ∀ character ∈ "4294967297".toList, character.isDigit = true :=
      List.all_eq_true.1 rfl
    have closes : Closes (";" : String).toList := by
      rintro character ⟨⟩
      decide
    obtain ⟨cursor, failed, current, -⟩ :=
      (Grammar.expression_integer "4294967297" ";" (by decide) isDigit closes).2
        (by decide)
    exact ⟨cursor, failed, current⟩

end MatrixLang
