import MatrixLang.Proofs.Contract

/-!
# Tokens that span forms

`Form.Spans` is the meaning of a form over tokens, once its nonterminals have
one.  A word of the grammar is spanned by all readable tokens of its kinds as
soon as the meaning is closed under the productions, and so a reading of every
production is a reading of every word: `Form.Derives.spans`.
-/

namespace MatrixLang

/-- Any number of parts, one behind the other. -/
inductive Repeats (part : List Token -> Prop) : List Token -> Prop
  | none : Repeats part []
  | more
      {front back : List Token}
      (first : part front)
      (rest : Repeats part back) :
      Repeats part (front ++ back)

namespace Form

/-- The tokens that a form spans, given those that its nonterminals span. -/
def Spans (meaning : Symbol -> List Token -> Prop) : Form -> List Token -> Prop
  | .empty, tokens => tokens = []
  | .kind expected, tokens =>
      ∃ token, tokens = [token] ∧ token.kind = expected ∧ token.Readable
  | .symbol nonterminal, tokens => meaning nonterminal tokens
  | .seq first second, tokens =>
      ∃ front back, tokens = front ++ back ∧
        first.Spans meaning front ∧ second.Spans meaning back
  | .choice first second, tokens =>
      first.Spans meaning tokens ∨ second.Spans meaning tokens
  | .many part, tokens => Repeats (part.Spans meaning) tokens

/--
A meaning of the nonterminals that holds of whatever their productions span.
-/
def Closed (meaning : Symbol -> List Token -> Prop) : Prop :=
  ∀ symbol tokens, symbol.form.Spans meaning tokens -> meaning symbol tokens

/-- Readable tokens span the forms that describe the word of their kinds. -/
theorem Derives.spans
    {meaning : Symbol -> List Token -> Prop}
    (closed : Closed meaning)
    {form : Form}
    {word : List Token.Kind}
    (derived : form.Derives word)
    {tokens : List Token}
    (same : kinds tokens = word)
    (readable : ∀ token ∈ tokens, token.Readable) :
    form.Spans meaning tokens := by
  induction derived generalizing tokens with
  | empty => exact List.map_eq_nil_iff.1 same
  | kind kind =>
      obtain ⟨token, rest, rfl, sameKind, restSame⟩ :=
        List.map_eq_cons_iff.1 same
      cases List.map_eq_nil_iff.1 restSame
      exact ⟨token, rfl, sameKind, readable token (List.mem_singleton_self _)⟩
  | symbol production inductionHypothesis =>
      exact closed _ _ (inductionHypothesis same readable)
  | seq frontDerived backDerived frontHypothesis backHypothesis =>
      obtain ⟨front, back, rfl, frontSame, backSame⟩ :=
        List.map_eq_append_iff.1 same
      have frontReadable : ∀ token ∈ front, token.Readable :=
        fun token member => readable token (List.mem_append_left _ member)
      have backReadable : ∀ token ∈ back, token.Readable :=
        fun token member => readable token (List.mem_append_right _ member)
      exact ⟨front, back, rfl, frontHypothesis frontSame frontReadable,
        backHypothesis backSame backReadable⟩
  | left derived inductionHypothesis =>
      exact .inl (inductionHypothesis same readable)
  | right derived inductionHypothesis =>
      exact .inr (inductionHypothesis same readable)
  | none =>
      cases List.map_eq_nil_iff.1 same
      exact Repeats.none
  | more frontDerived backDerived frontHypothesis backHypothesis =>
      obtain ⟨front, back, rfl, frontSame, backSame⟩ :=
        List.map_eq_append_iff.1 same
      have frontReadable : ∀ token ∈ front, token.Readable :=
        fun token member => readable token (List.mem_append_left _ member)
      have backReadable : ∀ token ∈ back, token.Readable :=
        fun token member => readable token (List.mem_append_right _ member)
      exact Repeats.more (frontHypothesis frontSame frontReadable)
        (backHypothesis backSame backReadable)

end Form
end MatrixLang
