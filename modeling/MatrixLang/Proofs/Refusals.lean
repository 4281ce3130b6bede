import MatrixLang.Proofs.Movement

/-!
# Parsers that refuse a token

`Parser.Refuses` says that a parser fails at a lookahead token before it has
moved or noted anything.  The layers of expressions begin one inside the other
without a move, so an expression refuses whatever an atom refuses, unless the
token is one of the signs that stand before an operand.
-/

namespace MatrixLang
namespace Parser

variable {α β : Type} {token : Token} {refusal : Refusal} {parser : Parser α}

/-- A parser fails at a lookahead token and leaves the cursor where it is. -/
def Refuses (token : Token) (refusal : Refusal) (parser : Parser α) : Prop :=
  ∀ cursor : Cursor, cursor.current = token ->
    parser.parse cursor = ⟨.error (.ofCause (refusal.cause token)), cursor⟩

theorem refuses_reject
    (token : Token)
    (refusal : Refusal) :
    (Parser.reject refusal : Parser α).Refuses token refusal := by
  rintro cursor rfl
  exact parse_reject refusal cursor

/-- A sequence refuses what its first part refuses. -/
theorem Refuses.bind
    (refuses : parser.Refuses token refusal)
    (next : α -> Parser β) :
    (parser.bind next).Refuses token refusal := by
  intro cursor same
  rw [parse_bind, refuses cursor same]
  rfl

/-- What goes on by the lookahead token refuses what it goes on with. -/
theorem refuses_current
    {next : Token -> Parser α}
    (refuses : (next token).Refuses token refusal) :
    (current.bind next).Refuses token refusal := by
  rintro cursor rfl
  exact refuses cursor rfl

/--
A layer that first remembers where it starts refuses what its first part
refuses.
-/
theorem Refuses.layer
    {next : Position -> α -> Parser β}
    (refuses : parser.Refuses token refusal) :
    (here.bind fun position => parser.bind (next position)).Refuses token
      refusal := by
  rintro cursor rfl
  exact refuses.bind (next cursor.current.position) cursor rfl

/-- A call of a rule refuses what its body refuses. -/
theorem refuses_apply
    {rule : Rule}
    (refuses : rule.body.Refuses token refusal) :
    (apply rule).Refuses token refusal := by
  intro cursor same
  rw [apply, parse_call, refuses cursor same]
  rfl

/-- A parser that refuses the first token of a stream stays there. -/
theorem Refuses.started
    {source : TokenStream}
    {rest : List Token}
    (refuses : parser.Refuses token refusal)
    (known : source.tokens = token :: rest)
    (valid : token.kind ≠ .invalid) :
    ∃ cursor, (Parser.advance parser).parse (.before source) =
        ⟨.error (.ofCause (refusal.cause token)), cursor⟩ ∧
      cursor.current = token ∧ cursor.source.tokens = rest := by
  obtain ⟨pull, pulled, rfl, behind⟩ := TokenStream.next?_of_tokens_cons known
  have found :
      (Cursor.before source).spot.next? = some ⟨pull.token, pull.rest⟩ := by
    rw [Spot.next?, Cursor.spot, Cursor.before, pulled]
    exact if_neg valid
  obtain ⟨log, advanced⟩ := Spot.advance_of_next? found
  refine ⟨Spot.cursor ⟨pull.token, pull.rest⟩ log, ?_, rfl, behind⟩
  rw [parse_advance, advanced]
  exact refuses _ rfl

end Parser

namespace Grammar

open MatrixLang.Parser

variable {token : Token} {refusal : Refusal}

/--
A sign that may be missing does not keep its operand from refusing another
token.
-/
theorem refuses_prefixed
    {kind : Token.Kind}
    {operator : UnaryOp}
    {operand : Parser Expr}
    (other : token.kind ≠ kind)
    (refuses : operand.Refuses token refusal) :
    (prefixed kind operator operand).Refuses token refusal := by
  refine refuses_current ?_
  rw [if_neg other]
  exact refuses

/-- An integer literal without a value is refused. -/
theorem refuses_int
    (kind : token.kind = .intLiteral)
    (unread : Numeral.int32? token.spelling = none) :
    atom.Refuses token .number := by
  refine refuses_current ?_
  rw [kind]
  have failed :
      (literal (Numeral.int32? token.spelling)).Refuses token .number := by
    rw [unread]
    exact refuses_reject token .number
  exact failed.bind _

/--
An expression refuses what an atom refuses, but for the signs before operands.
-/
theorem refuses_expression
    (refuses : atom.Refuses token refusal)
    (notDash : token.kind ≠ .dash)
    (notNot : token.kind ≠ .not) :
    expression.Refuses token refusal := by
  -- Every layer starts with the next tighter one, so the refusal goes up from
  -- the atom.
  have field : fieldSelection.Refuses token refusal := refuses.layer
  have element : elementSelection.Refuses token refusal := field.layer
  have part : subrange.Refuses token refusal := element.layer
  have ofMatrices : matrixProduct.Refuses token refusal := part.layer
  have ofVectors : dotProduct.Refuses token refusal := ofMatrices.layer
  have size : dimension.Refuses token refusal := ofVectors.layer
  have base : power.Refuses token refusal := size.layer
  have opposite : minus.Refuses token refusal := refuses_prefixed notDash base
  have factor : multiplicative.Refuses token refusal := opposite.layer
  have summand : additive.Refuses token refusal := factor.layer
  have compared : comparison.Refuses token refusal := summand.layer
  have negated : negation.Refuses token refusal :=
    refuses_prefixed notNot compared
  have both : conjunction.Refuses token refusal := negated.layer
  have either : disjunction.Refuses token refusal := both.layer
  have chosen : selection.Refuses token refusal := either.layer
  exact refuses_apply chosen

end Grammar
end MatrixLang
