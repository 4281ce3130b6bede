import MatrixLang.Proofs.Reading.Statement
import MatrixLang.Proofs.Words.Spans

/-!
# Words of expressions can be read

Whatever tokens the productions of expressions span, a tree can be read from
them.
-/

namespace MatrixLang

/-- Some tree can be read from tokens. -/
def Phrase.Readable (phrase : Phrase) (tokens : List Token) : Prop :=
  ∃ tree, phrase.Reads tokens tree

/-- Some tree can be read from tokens. -/
def Passage.Readable (passage : Passage) (tokens : List Token) : Prop :=
  ∃ tree, passage.Reads tokens tree

/-- Some tree can be read from tokens in place of a nonterminal. -/
def Symbol.Readable : Symbol -> List Token -> Prop
  | .tier layer => (Phrase.tier layer).Readable
  | .statement => Passage.statement.Readable

namespace Form

/-- Tokens span a form whose nonterminals stand for what can be read. -/
abbrev Fits (form : Form) (tokens : List Token) : Prop :=
  form.Spans Symbol.Readable tokens

variable {tokens : List Token}

/-! ## Parts of expressions -/

theorem readable_enclosed
    {left right : Token.Kind}
    (fits : (enclosed left right).Fits tokens) :
    (Phrase.enclosed left right).Readable tokens := by
  obtain ⟨_, _, rfl, ⟨_, rfl, leftKind, -⟩, _, _, rfl, ⟨inner, read⟩, _, _, rfl,
    ⟨_, rfl, rightKind, -⟩, rfl⟩ := fits
  exact ⟨inner, .enclosed leftKind read rightKind⟩

theorem readable_further
    (fits : (further expression).Fits tokens) :
    Phrase.further.Readable tokens := by
  induction fits with
  | none => exact ⟨[], .nothingFurther⟩
  | more first rest inductionHypothesis =>
      obtain ⟨_, _, rfl, ⟨_, rfl, commaKind, -⟩, _, _, rfl, ⟨expr, read⟩,
        rfl⟩ := first
      obtain ⟨list, others⟩ := inductionHypothesis
      rw [List.append_nil]
      exact ⟨expr :: list, .further commaKind read others⟩

theorem readable_arguments
    (fits :
      (optional (sequence [expression, further expression])).Fits tokens) :
    Phrase.arguments.Readable tokens := by
  rcases fits with ⟨_, _, rfl, ⟨expr, read⟩, _, _, rfl, rest, rfl⟩ | rfl
  · obtain ⟨list, others⟩ := readable_further rest
    rw [List.append_nil]
    exact ⟨expr :: list, .arguments read others⟩
  · exact ⟨[], .noArguments⟩

theorem readable_elements
    (fits : elements.Fits tokens) :
    Phrase.elements.Readable tokens := by
  obtain ⟨_, _, rfl, ⟨_, rfl, leftKind, -⟩, _, _, rfl, ⟨expr, read⟩, _, _, rfl,
    rest, _, _, rfl, ⟨_, rfl, rightKind, -⟩, rfl⟩ := fits
  obtain ⟨list, others⟩ := readable_further rest
  exact ⟨expr :: list, .elements leftKind read others rightKind⟩

theorem readable_range
    (fits : range.Fits tokens) :
    Phrase.range.Readable tokens := by
  obtain ⟨_, _, rfl, ⟨_, rfl, leftKind, -⟩, _, _, rfl, ⟨first, read⟩, _, _, rfl,
    ⟨_, rfl, colonKind, -⟩, _, _, rfl, ⟨origin, originRead⟩, _, _, rfl,
    ⟨_, rfl, secondColonKind, -⟩, _, _, rfl, ⟨last, lastRead⟩, _, _, rfl,
    ⟨_, rfl, rightKind, -⟩, rfl⟩ := fits
  exact ⟨(first, origin, last),
    .range leftKind read colonKind originRead secondColonKind
      lastRead rightKind⟩

theorem readable_indices
    (fits : indices.Fits tokens) :
    Phrase.indices.Readable tokens := by
  induction fits with
  | none => exact ⟨[], .noIndices⟩
  | more first rest inductionHypothesis =>
      obtain ⟨index, read⟩ := readable_enclosed first
      obtain ⟨list, others⟩ := inductionHypothesis
      exact ⟨index :: list, .index read others⟩

/-- A token whose kind is in a table stands for what the table says. -/
theorem listed_of_fits
    {α : Type}
    {table : Token.Kind -> Option α}
    {expected : Token.Kind}
    {value : α}
    (known : table expected = some value)
    (fits : (kind expected).Fits tokens) :
    ∃ token value, tokens = [token] ∧ table token.kind = some value := by
  obtain ⟨token, rfl, same, -⟩ := fits
  rw [← same] at known
  exact ⟨token, value, rfl, known⟩

/-- The operators of a level are single tokens. -/
theorem operator?_of_fits
    {level : Level}
    (fits : (operator level).Fits tokens) :
    ∃ token operator,
      tokens = [token] ∧ level.operator? token.kind = some operator := by
  cases level with
  | disjunction | conjunction | dotProduct | matrixProduct =>
      exact listed_of_fits rfl fits
  | comparison =>
      rcases fits with fits | fits | fits | fits | fits | fits <;>
        exact listed_of_fits rfl fits
  | additive | multiplicative =>
      rcases fits with fits | fits <;> exact listed_of_fits rfl fits

/-- What asks for a dimension is a single token. -/
theorem dimension?_of_fits
    (fits : dimension.Fits tokens) :
    ∃ token operator,
      tokens = [token] ∧ Grammar.dimension? token.kind = some operator := by
  rcases fits with fits | fits | fits <;> exact listed_of_fits rfl fits

theorem readable_operands
    {level : Level}
    (fits : (operands level).Fits tokens) :
    (Phrase.operands level).Readable tokens := by
  induction fits with
  | none => exact ⟨[], .noOperands⟩
  | more first rest inductionHypothesis =>
      obtain ⟨_, _, rfl, sign, _, _, rfl, ⟨right, read⟩, rfl⟩ := first
      obtain ⟨token, operator, rfl, found⟩ := operator?_of_fits sign
      obtain ⟨pairs, others⟩ := inductionHypothesis
      rw [List.append_nil]
      exact ⟨(operator, right) :: pairs, .operand found read others⟩

/-! ## Layers -/

theorem readable_chain
    {level : Level}
    (fits : (chain level).Fits tokens) :
    (Phrase.tier level.tier).Readable tokens := by
  obtain ⟨_, _, rfl, ⟨first, read⟩, _, _, rfl, rest, rfl⟩ := fits
  obtain ⟨pairs, operands⟩ := readable_operands rest
  rw [List.append_nil]
  exact ⟨_, .chain read operands⟩

theorem readable_atom
    (fits : atom.Fits tokens) :
    (Phrase.tier .atom).Readable tokens := by
  rcases fits with
    int | float | bool | string | name | enclosed | record | elements
  · obtain ⟨token, rfl, kind, readable⟩ := int
    obtain ⟨value, found⟩ := Option.isSome_iff_exists.1 (readable.1 kind)
    exact ⟨_, .int kind found⟩
  · obtain ⟨token, rfl, kind, readable⟩ := float
    obtain ⟨value, found⟩ := Option.isSome_iff_exists.1 (readable.2 kind)
    exact ⟨_, .float kind found⟩
  · obtain ⟨token, rfl, kind, -⟩ := bool
    exact ⟨_, .bool kind⟩
  · obtain ⟨token, rfl, kind, -⟩ := string
    exact ⟨_, .string kind⟩
  · obtain ⟨_, _, rfl, ⟨_, rfl, nameKind, -⟩, _, _, rfl, call, rfl⟩ := name
    rcases call with ⟨_, _, rfl, ⟨_, rfl, leftKind, -⟩, _, _, rfl, inside, _, _,
      rfl, ⟨_, rfl, rightKind, -⟩, rfl⟩ | rfl
    · obtain ⟨list, arguments⟩ := readable_arguments inside
      rw [List.append_nil]
      exact ⟨_, .call nameKind leftKind arguments rightKind⟩
    · exact ⟨_, .reference nameKind⟩
  · obtain ⟨inner, read⟩ := readable_enclosed enclosed
    exact ⟨inner, .parenthesized read⟩
  · obtain ⟨_, _, rfl, ⟨_, rfl, signKind, -⟩, _, _, rfl, ⟨_, rfl, nameKind, -⟩,
      _, _, rfl, inside, rfl⟩ := record
    obtain ⟨list, read⟩ := readable_elements inside
    rw [List.append_nil]
    exact ⟨_, .record signKind nameKind read⟩
  · obtain ⟨list, read⟩ := readable_elements elements
    exact ⟨_, .aggregate read⟩

/-- A layer may add nothing to the tighter one in it. -/
theorem readable_bare
    {outer inner : Tier}
    (below : outer.bare? = some inner)
    (readable : (Phrase.tier inner).Readable tokens) :
    (Phrase.tier outer).Readable tokens := by
  obtain ⟨expr, read⟩ := readable
  exact ⟨expr, .bare below read⟩

theorem readable_fieldSelection
    (fits : Tier.fieldSelection.form.Fits tokens) :
    (Phrase.tier .fieldSelection).Readable tokens := by
  obtain ⟨_, _, rfl, ⟨base, read⟩, _, _, rfl, suffix, rfl⟩ := fits
  rcases suffix with ⟨_, _, rfl, ⟨_, rfl, signKind, -⟩, _, _, rfl,
    ⟨_, rfl, nameKind, -⟩, rfl⟩ | rfl
  · exact ⟨_, .field read signKind nameKind⟩
  · rw [List.append_nil, List.append_nil]
    exact readable_bare rfl ⟨base, read⟩

theorem readable_elementSelection
    (fits : Tier.elementSelection.form.Fits tokens) :
    (Phrase.tier .elementSelection).Readable tokens := by
  obtain ⟨_, _, rfl, ⟨base, read⟩, _, _, rfl, rest, rfl⟩ := fits
  obtain ⟨list, indices⟩ := readable_indices rest
  rw [List.append_nil]
  exact ⟨_, .element read indices⟩

theorem readable_subrange
    (fits : Tier.subrange.form.Fits tokens) :
    (Phrase.tier .subrange).Readable tokens := by
  obtain ⟨_, _, rfl, ⟨base, read⟩, _, _, rfl, suffix, rfl⟩ := fits
  rcases suffix with ⟨_, _, rfl, rows, _, _, rfl, columns, rfl⟩ | rfl
  · obtain ⟨⟨first, origin, last⟩, rowRead⟩ := readable_range rows
    rw [List.append_nil, List.append_nil]
    rcases columns with columns | rfl
    · obtain ⟨⟨firstColumn, originColumn, lastColumn⟩, columnRead⟩ :=
        readable_range columns
      exact ⟨_, .submatrix read rowRead columnRead⟩
    · rw [List.append_nil]
      exact ⟨_, .subvector read rowRead⟩
  · rw [List.append_nil, List.append_nil]
    exact readable_bare rfl ⟨base, read⟩

theorem readable_dimension
    (fits : Tier.dimension.form.Fits tokens) :
    (Phrase.tier .dimension).Readable tokens := by
  obtain ⟨_, _, rfl, ⟨operand, read⟩, _, _, rfl, suffix, rfl⟩ := fits
  rcases suffix with suffix | rfl
  · obtain ⟨token, operator, rfl, asked⟩ := dimension?_of_fits suffix
    exact ⟨_, .dimension read asked⟩
  · rw [List.append_nil, List.append_nil]
    exact readable_bare rfl ⟨operand, read⟩

theorem readable_power
    (fits : Tier.power.form.Fits tokens) :
    (Phrase.tier .power).Readable tokens := by
  obtain ⟨_, _, rfl, ⟨base, read⟩, _, _, rfl, suffix, rfl⟩ := fits
  rcases suffix with ⟨_, _, rfl, ⟨_, rfl, signKind, -⟩, _, _, rfl,
    ⟨exponent, exponentRead⟩, rfl⟩ | rfl
  · rw [List.append_nil, List.append_nil]
    exact ⟨_, .power read signKind exponentRead⟩
  · rw [List.append_nil, List.append_nil]
    exact readable_bare rfl ⟨base, read⟩

theorem readable_minus
    (fits : Tier.minus.form.Fits tokens) :
    (Phrase.tier .minus).Readable tokens := by
  obtain ⟨_, _, rfl, sign, _, _, rfl, ⟨operand, read⟩, rfl⟩ := fits
  rw [List.append_nil]
  rcases sign with ⟨_, rfl, signKind, -⟩ | rfl
  · exact ⟨_, .negate signKind read⟩
  · exact readable_bare rfl ⟨operand, read⟩

theorem readable_negation
    (fits : Tier.negation.form.Fits tokens) :
    (Phrase.tier .negation).Readable tokens := by
  obtain ⟨_, _, rfl, sign, _, _, rfl, ⟨operand, read⟩, rfl⟩ := fits
  rw [List.append_nil]
  rcases sign with ⟨_, rfl, signKind, -⟩ | rfl
  · exact ⟨_, .not signKind read⟩
  · exact readable_bare rfl ⟨operand, read⟩

theorem readable_selection
    (fits : Tier.selection.form.Fits tokens) :
    (Phrase.tier .selection).Readable tokens := by
  obtain ⟨_, _, rfl, ⟨condition, read⟩, _, _, rfl, suffix, rfl⟩ := fits
  rcases suffix with ⟨_, _, rfl, ⟨_, rfl, questionKind, -⟩, _, _, rfl,
    ⟨onTrue, trueRead⟩, _, _, rfl, ⟨_, rfl, colonKind, -⟩, _, _, rfl,
    ⟨onFalse, falseRead⟩, rfl⟩ | rfl
  · rw [List.append_nil, List.append_nil]
    exact ⟨_, .select read questionKind trueRead colonKind falseRead⟩
  · rw [List.append_nil, List.append_nil]
    exact readable_bare rfl ⟨condition, read⟩

/-- What the production of a layer spans can be read. -/
theorem readable_layer
    {layer : Tier}
    (fits : layer.form.Fits tokens) :
    (Phrase.tier layer).Readable tokens := by
  cases layer with
  | selection => exact readable_selection fits
  | disjunction => exact readable_chain fits
  | conjunction => exact readable_chain fits
  | negation => exact readable_negation fits
  | comparison => exact readable_chain fits
  | additive => exact readable_chain fits
  | multiplicative => exact readable_chain fits
  | minus => exact readable_minus fits
  | power => exact readable_power fits
  | dimension => exact readable_dimension fits
  | dotProduct => exact readable_chain fits
  | matrixProduct => exact readable_chain fits
  | subrange => exact readable_subrange fits
  | elementSelection => exact readable_elementSelection fits
  | fieldSelection => exact readable_fieldSelection fits
  | atom => exact readable_atom fits

end Form
end MatrixLang
