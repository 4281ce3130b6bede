import MatrixLang.Proofs.Reuse
import MatrixLang.Proofs.SingleExpression

/-!
# The text of an expression in its context

The text of a printable expression is parsed back to the same expression, but
for positions, whatever stands behind the sign that closes it.  Every expression
that is parsed from a text, wherever in the text and whatever was parsed before
it, is printable.
-/

namespace MatrixLang

/-! ## What stands behind an expression -/

/-- The signs that close an expression. -/
def closingSigns : List Char :=
  [';', ')', ']', ',', '\x7d', ':']

/-- A text that is empty or starts with a sign that closes an expression. -/
def Closes (context : List Char) : Prop :=
  ∀ character ∈ context.head?, character ∈ closingSigns

/-- The kind of a sign that closes an expression, at which no layer goes on. -/
theorem kind_of_closingSign
    {character : Char}
    (closing : character ∈ closingSigns) :
    ∃ kind ∈ Token.Pattern.symbols, kind.describe.toList = [character] ∧
      kind ≠ .invalid ∧ kind.suffixRank = 0 ∧
        ∀ rest, kind.standsBefore rest = true := by
  simp only [closingSigns, List.mem_cons, List.not_mem_nil, or_false] at closing
  rcases closing with rfl | rfl | rfl | rfl | rfl | rfl
  · exact ⟨.semicolon, by decide, rfl, by decide, rfl, fun _ => rfl⟩
  · exact ⟨.closeParen, by decide, rfl, by decide, rfl, fun _ => rfl⟩
  · exact ⟨.closeBracket, by decide, rfl, by decide, rfl, fun _ => rfl⟩
  · exact ⟨.comma, by decide, rfl, by decide, rfl, fun _ => rfl⟩
  · exact ⟨.closeCurly, by decide, rfl, by decide, rfl, fun _ => rfl⟩
  · exact ⟨.colon, by decide, rfl, by decide, rfl, fun _ => rfl⟩

namespace Closes

variable {context : List Char}

/-- No word or numeral goes on with a text that closes an expression. -/
theorem stops (closes : Closes context) : Token.stops context = true := by
  cases context with
  | nil => rfl
  | cons character rest =>
      have closing := closes character rfl
      simp only [closingSigns, List.mem_cons, List.not_mem_nil,
        or_false] at closing
      rcases closing with rfl | rfl | rfl | rfl | rfl | rfl <;> rfl

/-- The first token of a text that closes an expression does not continue it. -/
theorem tokens_eq
    (closes : Closes context)
    (start : Position) :
    ∃ after rest, Scanner.tokens ⟨context, start, false⟩ = after :: rest ∧
      after.kind ≠ .invalid ∧ after.kind.suffixRank = 0 ∧
        (context = [] -> after = .endOfFile start) := by
  cases context with
  | nil =>
      exact ⟨.endOfFile start, [], rfl, by
        simp [Token.endOfFile], rfl, fun _ => rfl⟩
  | cons character rest =>
      obtain ⟨kind, listed, described, valid, ends, apart⟩ :=
        kind_of_closingSign (closes character rfl)
      have printed : Prints kind.describe.toList rest fun tokens =>
          ∃ token, tokens = [token] ∧ token.kind = kind :=
        Prints.lastSign kind listed (apart rest) fun token same =>
          ⟨token, rfl, same⟩
      obtain ⟨_, passes, -, after, rfl, rfl⟩ := printed start
      rw [described] at passes
      exact ⟨after, _, passes, valid, ends,
        fun empty => absurd empty (List.cons_ne_nil _ _)⟩

end Closes

/-! ## What an expression was parsed from -/

/--
A movement passes over tokens that are spelled well if those in front of it are.
-/
theorem Spot.Moves.spelled
    {start stop : Spot}
    {tokens : List Token}
    (moves : start.Moves tokens stop)
    (current : start.current.Spelled)
    (ahead : ∀ token ∈ start.source.tokens, token.Spelled) :
    ∀ token ∈ tokens, token.Spelled := by
  induction moves with
  | stay spot => exact List.forall_mem_nil _
  | step _ found _ inductionHypothesis =>
      refine List.forall_mem_cons.2 ⟨current, ?_⟩
      rcases Spot.next?_tokens found with ⟨-, known⟩ | ⟨-, empty, last⟩
      · rw [known, Spot.tokens, List.forall_mem_cons] at ahead
        exact inductionHypothesis ahead.1 ahead.2
      · apply inductionHypothesis
        · rw [last]
          exact Token.spelled_of_kind (by simp [Token.endOfFile])
        · rw [empty]
          exact List.forall_mem_nil _

/--
Whatever has been parsed of a text, its tokens are spelled as the scanner spells
them.
-/
theorem Cursor.Reaches.spelled
    {text : String}
    {pulls : Nat}
    {cursor : Cursor}
    (reached : Reaches (.ofText text) pulls cursor) :
    cursor.current.Spelled ∧ ∀ token ∈ cursor.source.tokens, token.Spelled := by
  have spelled : ∀ token ∈ (TokenStream.ofText text).tokens, token.Spelled :=
    Scanner.spelled_tokens (.ofText text)
  constructor
  · rcases Nat.lt_or_ge (TokenStream.ofText text).tokens.length pulls with
      beyond | within
    · rw [reached.hasPulled.ended beyond]
      exact Token.spelled_of_kind
        (by simp [endOf, Spot.endBehind, Token.endOfFile])
    · have isOne := List.mem_of_getLast? (reached.getLast?_eq within)
      exact spelled _ (List.mem_of_mem_take (List.mem_filter.1 isOne).1)
  · rw [reached.hasPulled.ahead]
    exact fun token isLater => spelled token (List.mem_of_mem_drop isLater)

/--
The text of a printable expression is parsed back in every context.  The
expression is the same, but for positions, and the lookahead token is the first
one of the context, or the end of the file if there is none.  Whatever
expression is parsed from a text, after whatever else has been parsed of it, is
printable.
-/
theorem Grammar.expression_text :
    (∀ (expr : Expr) (context : String),
      expr.Printable -> Closes context.toList ->
      ∃ read cursor,
        (Parser.advance Grammar.expression).parse
            (.before (.ofText (expr.text ++ context))) =
          ⟨.ok read, cursor⟩ ∧
        read.erase = expr.erase ∧
        cursor.current :: cursor.source.tokens =
          Scanner.tokens
            ⟨context.toList, Position.start.afterAll expr.text.toList, false⟩ ∧
        (context = "" ->
          cursor.current =
            .endOfFile (Position.start.afterAll expr.text.toList))) ∧
    (∀ (text : String) (pulls : Nat) (cursor : Cursor) (expr : Expr),
      Cursor.Reaches (.ofText text) pulls cursor ->
        (Grammar.expression.parse cursor).result = .ok expr ->
          expr.Printable) := by
  constructor
  · intro expr context printable closes
    obtain ⟨tokens, passes, proper, read, reads, same⟩ :=
      printable.written.prints _ closes.stops .start
    obtain ⟨after, rest, behind, valid, ends, atEnd⟩ :=
      closes.tokens_eq (Position.start.afterAll expr.text.toList)
    have known : (TokenStream.ofText (expr.text ++ context)).tokens =
        tokens ++ after :: rest := by
      have all :
          Scanner.tokens ⟨expr.text.toList ++ context.toList, .start, false⟩ =
            tokens ++ after :: rest := behind ▸ passes
      rwa [← String.toList_append] at all
    have takes := reads.toExpression.takes_expression rfl ends
    obtain ⟨cursor, parsed, current, remaining⟩ :=
      takes.started known proper valid
    refine ⟨read, cursor, parsed, same, ?_, fun empty => ?_⟩
    · rw [current, remaining, behind]
    · rw [current]
      exact atEnd (congrArg String.toList empty)
  · intro text pulls cursor expr reached parsed
    obtain ⟨tokens, moves, reads⟩ := Grammar.reads_of_expression parsed
    obtain ⟨current, ahead⟩ := reached.spelled
    exact reads.printable (moves.spelled current ahead)

/-- A vector of a negative number and a size. -/
def sizedVector : Expr :=
  .aggregate ⟨1, 1⟩
    [.unary ⟨1, 2⟩ .negate (.int ⟨1, 3⟩ 1),
      .unary ⟨1, 6⟩ .dimension (.reference ⟨1, 6⟩ "x")]

/--
The vector is parsed back although what stands behind the semicolon cannot be
scanned.
-/
theorem Grammar.expression_text_sizedVector :
    ∃ read cursor,
      (Parser.advance Grammar.expression).parse
          (.before (.ofText (sizedVector.text ++ ";$"))) =
        ⟨.ok read, cursor⟩ ∧
      read.erase = sizedVector.erase ∧
        cursor.current = ⟨.semicolon, ";", ⟨1, 22⟩⟩ := by
  have printable : sizedVector.Printable := by
    apply Expr.Printable.aggregate ⟨1, 1⟩ (by simp)
    refine List.forall_mem_cons.2 ⟨?_, List.forall_mem_singleton.2 ?_⟩
    · exact .unary _ _ (.int _ (by decide))
    · exact .unary _ _
        (.reference _ ⟨'x', [], rfl, rfl, List.forall_mem_nil _, rfl⟩)
  have closes : Closes (";$" : String).toList := by
    rintro character ⟨⟩
    decide
  obtain ⟨read, cursor, parsed, same, lookahead, -⟩ :=
    Grammar.expression_text.1 sizedVector ";$" printable closes
  have first : cursor.current = ⟨.semicolon, ";", ⟨1, 22⟩⟩ := by
    have scanned : Scanner.tokens
        ⟨[';', '$'], Position.start.afterAll sizedVector.text.toList, false⟩ =
          [⟨.semicolon, ";", ⟨1, 22⟩⟩, ⟨.invalid, "$", ⟨1, 23⟩⟩,
            .endOfFile ⟨1, 24⟩] := by
      rfl
    exact (List.cons.inj (lookahead.trans scanned)).1
  exact ⟨read, cursor, parsed, same, first⟩

end MatrixLang
