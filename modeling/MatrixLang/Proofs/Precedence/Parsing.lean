import MatrixLang.Proofs.Precedence.Table

/-!
# The parser follows the table of precedence

Whatever a layer of the grammar reads is printed on its level
(`Phrase.Reads.isPrinted`).  Together with `Expr.Printed.readIn` this makes the
table exact: an expression is parsed from the tokens that print it, and from no
others.
-/

namespace MatrixLang

/-! ## What is read is printed -/

/--
A kind that stands for an operator on a level is the sign of the operator.
-/
theorem Level.eq_signKind_of_operator?
    {level : Level}
    {kind : Token.Kind}
    {operator : BinaryOp}
    (found : level.operator? kind = some operator) :
    kind = Expr.signKind operator := by
  unfold Level.operator? at found
  split at found
  case h_3 =>
    obtain ⟨comparison, known, rfl⟩ := Option.map_eq_some_iff.1 found
    unfold Comparison.ofKind? at known
    split at known
    case h_7 => cases known
    all_goals
      cases known
      rfl
  case h_10 => cases found
  all_goals
    cases found
    rfl

/--
A kind that asks for a dimension is the sign of an operator behind its operand.
-/
theorem Grammar.trailing_of_dimension?
    {kind : Token.Kind}
    {operator : UnaryOp}
    (asked : dimension? kind = some operator) :
    kind = operator.signKind ∧ operator.isLeading = false ∧
      operator.level = Tier.dimension.rank := by
  unfold dimension? at asked
  split at asked
  case h_4 => cases asked
  all_goals
    cases asked
    exact ⟨rfl, rfl, rfl⟩

namespace Phrase

/-- The tokens of a part of an expression print what is read from them. -/
def IsPrinted : (phrase : Phrase) -> List Token -> phrase.Tree -> Prop
  | .tier layer, tokens, expr => expr.Printed layer.rank tokens
  | .enclosed leftKind rightKind, tokens, expr =>
      ∃ (left : Token.Of leftKind)
        (right : Token.Of rightKind) (inner : List Token),
        tokens = left.val :: (inner ++ [right.val]) ∧ expr.Printed 1 inner
  | .operands level, tokens, pairs =>
      ∀ (position : Position) (first : Expr) (front : List Token),
        first.Printed level.tier.rank front ->
          (pairs.foldl (fun left pair => .binary position pair.1 left pair.2)
            first).Printed
            level.tier.rank (front ++ tokens)
  | .indices, tokens, list =>
      ∀ (position : Position) (base : Expr) (front : List Token),
        base.Printed 14 front ->
          (list.foldl (.element position) base).Printed 14 (front ++ tokens)
  | .further, tokens, list =>
      ∃ items,
        tokens = Expr.Item.listed items ∧ list = items.map Expr.Item.expr ∧
        ∀ item ∈ items, item.expr.Printed 1 item.tokens
  | .arguments, tokens, list =>
      tokens = [] ∧ list = [] ∨
        ∃ first front items, tokens = front ++ Expr.Item.listed items ∧
          list = first :: items.map Expr.Item.expr ∧ first.Printed 1 front ∧
            ∀ item ∈ items, item.expr.Printed 1 item.tokens
  | .elements, tokens, list =>
      ∃ (left : Token.Of .openBracket) (right : Token.Of .closeBracket)
        (first : Expr) (front : List Token) (items : List Expr.Item),
        tokens =
            left.val :: (front ++ (Expr.Item.listed items ++ [right.val])) ∧
          list = first :: items.map Expr.Item.expr ∧ first.Printed 1 front ∧
            ∀ item ∈ items, item.expr.Printed 1 item.tokens
  | .range, tokens, parts =>
      ∃ (signs : Expr.RangeSigns) (first origin last : List Token),
        tokens = signs.around first origin last ∧ parts.1.Printed 1 first ∧
          parts.2.1.Printed 1 origin ∧ parts.2.2.Printed 1 last

/-- Whatever a layer reads is printed on its level. -/
theorem Reads.isPrinted
    {phrase : Phrase}
    {tokens : List Token}
    {tree : phrase.Tree}
    (reads : phrase.Reads tokens tree) : phrase.IsPrinted tokens tree := by
  induction reads with
  | @int token _ kind read => exact .int token.position ⟨token, kind⟩ read
  | @float token _ kind read => exact .float token.position ⟨token, kind⟩ read
  | @bool token kind => exact .bool token.position ⟨token, kind⟩
  | @string token kind => exact .string token.position ⟨token, kind⟩
  | @reference token kind => exact .reference token.position ⟨token, kind⟩
  | @call name left right _ _ nameKind leftKind _ rightKind arguments =>
      rcases arguments with
        ⟨rfl, rfl⟩ | ⟨first, front, items, rfl, rfl, printed, others⟩
      · exact .callAlone name.position ⟨name, nameKind⟩
          ⟨left, leftKind⟩ ⟨right, rightKind⟩
      · rw [List.append_assoc]
        exact .call name.position ⟨name, nameKind⟩ ⟨left, leftKind⟩
          ⟨right, rightKind⟩ printed others
  | parenthesized _ enclosed =>
      obtain ⟨left, right, inner, rfl, printed⟩ := enclosed
      exact .parenthesized left right printed
  | aggregate _ elements =>
      obtain ⟨left, right, first, front, items, rfl, rfl, printed, others⟩ :=
        elements
      exact .aggregate _ left right printed others
  | @record sign name _ _ signKind nameKind _ elements =>
      obtain ⟨left, right, first, front, items, rfl, rfl, printed, others⟩ :=
        elements
      exact .record sign.position ⟨sign, signKind⟩ ⟨name, nameKind⟩ left right
        printed others
  | bare below _ printed =>
      exact .fits (Nat.le_of_lt (Tier.rank_lt_of_bare? below)) printed
  | @field sign name _ _ _ signKind nameKind printed =>
      exact .field _ ⟨sign, signKind⟩ ⟨name, nameKind⟩ printed
  | element _ _ printed indices =>
      exact indices _ _ _ (.fits (by decide) printed)
  | subvector _ _ printed range =>
      obtain ⟨signs, first, origin, last, rfl, firstPrinted, originPrinted,
        lastPrinted⟩ := range
      exact .subvector _ signs printed firstPrinted originPrinted lastPrinted
  | submatrix _ _ _ printed rows columns =>
      obtain ⟨rowSigns, _, _, _, rfl, firstRow, originRow, lastRow⟩ := rows
      obtain ⟨columnSigns, _, _, _, rfl, firstColumn, originColumn,
        lastColumn⟩ := columns
      exact .submatrix _ rowSigns columnSigns printed firstRow originRow
        lastRow firstColumn
        originColumn lastColumn
  | @chain level _ _ _ _ _ _ printed operands =>
      exact operands _ _ _ (.fits (Nat.le_of_lt level.rank_tier_lt) printed)
  | @dimension token _ operator _ _ asked printed =>
      obtain ⟨kind, isTrailing, level⟩ := Grammar.trailing_of_dimension? asked
      have operand : operator.level + 1 = Tier.dotProduct.rank :=
        congrArg (· + 1) level
      show Expr.Printed Tier.dimension.rank _ _
      rw [← level]
      exact .trailing _ isTrailing ⟨token, kind⟩ (operand ▸ printed)
  | @power sign _ _ _ _ _ signKind _ printed exponentPrinted =>
      exact @Expr.Printed.binary _ .power ⟨sign, signKind⟩ _ _ _ _ printed
        exponentPrinted
  | @negate sign _ _ signKind _ printed =>
      exact @Expr.Printed.leading sign.position .negate rfl
        ⟨sign, signKind⟩ _ _ printed
  | @not sign _ _ signKind _ printed =>
      exact @Expr.Printed.leading sign.position .not rfl
        ⟨sign, signKind⟩ _ _ printed
  | @select question colon _ _ _ _ _ _ _ questionKind _ colonKind _ printed
      truePrinted falsePrinted =>
      exact .select _ ⟨question, questionKind⟩ ⟨colon, colonKind⟩ printed
        truePrinted falsePrinted
  | @enclosed _ _ left right tokens _ leftSame _ rightSame printed =>
      exact ⟨⟨left, leftSame⟩, ⟨right, rightSame⟩, tokens, rfl, printed⟩
  | noOperands =>
      intro position first front printed
      rwa [List.append_nil]
  | @operand level sign operator tokens rest right pairs found _ _ printed
      operands =>
      intro position first front firstPrinted
      have same := Level.eq_signKind_of_operator? found
      rw [same] at found
      obtain ⟨operatorLevel, leftSlot, rightSlot⟩ :=
        Expr.level_of_operator? found
      have left : first.Printed operator.leftSlot front :=
        leftSlot ▸ firstPrinted
      have rightPrinted : right.Printed operator.rightSlot tokens := by
        rw [rightSlot, ← Expr.rank_operandTier]
        exact printed
      have binary := Expr.Printed.binary position ⟨sign, same⟩ left rightPrinted
      rw [operatorLevel] at binary
      have further := operands position _ _ binary
      rwa [List.append_assoc, List.cons_append] at further
  | noIndices =>
      intro position base front printed
      rwa [List.append_nil]
  | index _ _ enclosed indices =>
      intro position base front printed
      obtain ⟨left, right, inner, rfl, indexPrinted⟩ := enclosed
      have further :=
        indices position _ _ (.element position left right printed indexPrinted)
      rwa [List.append_assoc] at further
  | nothingFurther => exact ⟨[], rfl, rfl, List.forall_mem_nil _⟩
  | @further comma tokens _ expr _ commaKind _ _ printed others =>
      obtain ⟨items, rfl, rfl, itemsPrinted⟩ := others
      exact ⟨⟨⟨comma, commaKind⟩, expr, tokens⟩ :: items, rfl, rfl,
        List.forall_mem_cons.2 ⟨printed, itemsPrinted⟩⟩
  | noArguments => exact .inl ⟨rfl, rfl⟩
  | arguments _ _ printed others =>
      obtain ⟨items, rfl, rfl, itemsPrinted⟩ := others
      exact .inr ⟨_, _, items, rfl, rfl, printed, itemsPrinted⟩
  | @elements left right _ _ _ _ leftKind _ _ rightKind printed others =>
      obtain ⟨items, rfl, rfl, itemsPrinted⟩ := others
      exact ⟨⟨left, leftKind⟩, ⟨right, rightKind⟩, _, _, items, rfl, rfl,
        printed, itemsPrinted⟩
  | @range left colon secondColon right _ _ _ _ _ _ leftKind _ colonKind _
      secondColonKind _ rightKind first origin last =>
      exact ⟨⟨⟨left, leftKind⟩, ⟨colon, colonKind⟩,
        ⟨secondColon, secondColonKind⟩,
        ⟨right, rightKind⟩⟩, _, _, _, rfl, first, origin, last⟩

end Phrase

/-! ## The tokens of an expression -/

namespace Expr

/--
Neither the end of the file nor an unreadable token is the sign of an operator.
-/
theorem proper_signKind
    (operator : BinaryOp) :
    signKind operator ≠ .endOfFile ∧ signKind operator ≠ .invalid := by
  cases operator with
  | compare comparison => cases comparison <;> decide
  | _ => decide

theorem proper_unarySignKind
    (operator : UnaryOp) :
    operator.signKind ≠ .endOfFile ∧ operator.signKind ≠ .invalid := by
  cases operator <;> decide

theorem Item.proper_listed
    {items : List Item}
    (proper : ∀ item ∈ items, Proper item.tokens) :
    Proper (Item.listed items) := by
  intro token isListed
  obtain ⟨item, isItem, isOne⟩ := List.mem_flatMap.1 isListed
  rcases List.mem_cons.1 isOne with rfl | inside
  · rw [item.comma.property]
    decide
  · exact proper item isItem token inside

theorem RangeSigns.proper_around
    {first origin last : List Token}
    (signs : RangeSigns)
    (firstProper : Proper first)
    (originProper : Proper origin)
    (lastProper : Proper last) : Proper (signs.around first origin last) := by
  simp [RangeSigns.around, signs.left.property, signs.colon.property,
    signs.secondColon.property, signs.right.property, firstProper, originProper,
    lastProper]

/--
Neither the end of the file nor an unreadable token stands in an expression.
-/
theorem Printed.proper
    {level : Nat}
    {expr : Expr}
    {tokens : List Token}
    (printed : expr.Printed level tokens) : Proper tokens := by
  induction printed with
  | int _ token _ | float _ token _ | bool _ token | string _ token
  | reference _ token =>
      simp [token.property]
  | callAlone _ name left right =>
      simp [name.property, left.property, right.property]
  | call _ name left right _ _ proper others =>
      simp [name.property, left.property, right.property, proper,
        Item.proper_listed others]
  | aggregate _ left right _ _ proper others =>
      simp [left.property, right.property, proper, Item.proper_listed others]
  | record _ sign name left right _ _ proper others =>
      simp [sign.property, name.property, left.property, right.property, proper,
        Item.proper_listed others]
  | parenthesized left right _ proper =>
      simp [left.property, right.property, proper]
  | field _ sign name _ proper => simp [sign.property, name.property, proper]
  | element _ left right _ _ proper indexProper =>
      simp [left.property, right.property, proper, indexProper]
  | subvector _ signs _ _ _ _ proper first origin last =>
      exact (proper_append _ _).2
        ⟨proper, signs.proper_around first origin last⟩
  | submatrix _ rowSigns columnSigns _ _ _ _ _ _ _ proper firstRow originRow
      lastRow firstColumn originColumn lastColumn =>
      exact (proper_append _ _).2 ⟨proper, (proper_append _ _).2
        ⟨rowSigns.proper_around firstRow originRow lastRow,
          columnSigns.proper_around firstColumn originColumn lastColumn⟩⟩
  | leading _ _ sign _ proper | trailing _ _ sign _ proper =>
      simp [sign.property, proper_unarySignKind, proper]
  | binary _ sign _ _ leftProper rightProper =>
      simp [sign.property, proper_signKind, leftProper, rightProper]
  | select _ question colon _ _ _ proper trueProper falseProper =>
      simp [question.property, colon.property, proper, trueProper, falseProper]
  | fits _ _ proper => exact proper

end Expr

/-! ## The parser -/

/-- The kinds of token at which an expression goes on. -/
def Token.Kind.continuations : List Token.Kind :=
  [.question, .or, .and, .less, .greater, .lessEquals, .greaterEquals, .equals,
    .notEquals, .plus, .dash, .star, .slash, .caret, .xDimension, .yDimension,
    .dimension, .dotProduct, .hash, .openCurly, .openBracket, .atSign,
    .openParen]

/-- No layer goes on at a kind of token that does not continue an expression. -/
theorem Token.Kind.suffixRank_eq_zero
    {kind : Token.Kind}
    (ends : kind ∉ continuations) : kind.suffixRank = 0 := by
  revert ends
  cases kind <;> decide

/--
The table of precedence is exact.  In front of a token that does not continue
it, an expression is parsed from any tokens that print it, but for positions;
and whatever expression is parsed there is printed by the tokens.
-/
theorem Grammar.expression_printed
    {source : TokenStream}
    {tokens rest : List Token}
    {after : Token}
    (known : source.tokens = tokens ++ after :: rest)
    (valid : after.kind ≠ .invalid)
    (ends : after.kind ∉ Token.Kind.continuations) :
    (∀ expr : Expr, expr.Printed 1 tokens ->
      ∃ read cursor,
        (Parser.advance Grammar.expression).parse (.before source) =
            ⟨.ok read, cursor⟩ ∧
          read.erase = expr.erase ∧ cursor.current = after ∧
            cursor.source.tokens = rest) ∧
    (∀ read cursor,
      (Parser.advance Grammar.expression).parse (.before source) =
          ⟨.ok read, cursor⟩ ->
        cursor.current = after -> cursor.source.tokens = rest ->
          read.Printed 1 tokens) := by
  constructor
  · intro expr printed
    obtain ⟨read, reads, same⟩ := printed.readIn .selection (Nat.le_refl 1)
    have takes :=
      reads.takes_expression rfl (Token.Kind.suffixRank_eq_zero ends)
    obtain ⟨cursor, parsed, current, remaining⟩ :=
      takes.started known printed.proper valid
    exact ⟨read, cursor, parsed, same, current, remaining⟩
  · intro read cursor parsed current remaining
    obtain ⟨taken, reads, more | ⟨all, empty, last⟩⟩ :=
      Grammar.reads_of_started parsed
    · rw [Spot.tokens, known] at more
      have same : tokens ++ after :: rest = taken ++ after :: rest := by
        rw [more, ← current, ← remaining]
        rfl
      rw [List.append_cancel_right same]
      exact reads.isPrinted
    · -- The end of the file would stand among the tokens of the expression.
      have isTaken : after ∈ taken := by
        rw [← all, known]
        exact List.mem_append_right _ List.mem_cons_self
      have isEnd : after.kind = .endOfFile := by
        rw [← current, last]
        rfl
      exact absurd isEnd (Expr.Printed.proper reads.isPrinted after isTaken).1

/-- A name at the start of a text. -/
def Token.Of.named (name : String) : Token.Of .identifier :=
  ⟨⟨.identifier, name, .start⟩, rfl⟩

/-- A sign at the start of a text. -/
def Token.Of.sign (kind : Token.Kind) : Token.Of kind :=
  ⟨⟨kind, kind.describe, .start⟩, rfl⟩

/--
A minus is looser than a power, which associates to the right and has a tight
base.
-/
theorem Grammar.expression_printed_powers :
    ∃ read cursor,
      (Parser.advance Grammar.expression).parse (.before (.listed
          [⟨.dash, "-", .start⟩, ⟨.identifier, "x", .start⟩,
            ⟨.caret, "^", .start⟩, ⟨.openParen, "(", .start⟩,
            ⟨.dash, "-", .start⟩, ⟨.identifier, "y", .start⟩,
            ⟨.closeParen, ")", .start⟩, ⟨.caret, "^", .start⟩,
            ⟨.identifier, "z", .start⟩, ⟨.semicolon, ";", .start⟩])) =
        ⟨.ok read, cursor⟩ ∧
      read.erase =
        (Expr.unary .start .negate
          (.binary .start .power (.reference .start "x")
          (.binary .start .power (.unary .start .negate (.reference .start "y"))
            (.reference .start "z")))).erase ∧
      cursor.current = ⟨.semicolon, ";", .start⟩ ∧
        cursor.source.tokens = [] := by
  have reference (name : Token.Of .identifier) (slot : Nat)
        (within : slot ≤ 16) :
      Expr.Printed slot (.reference .start name.val.spelling) [name.val] :=
    .fits within (.reference .start name)
  have inner := @Expr.Printed.leading .start .negate rfl (.sign .dash) _ _
    (reference (.named "y") 9 (by decide))
  have base : Expr.Printed 10 _ _ :=
    .fits (by decide) (.parenthesized (.sign .openParen) (.sign .closeParen)
      (.fits (by decide) inner))
  have exponent :=
      @Expr.Printed.binary .start .power (.sign .caret) _ _ _ _ base
    (reference (.named "z") 9 (by decide))
  have power := @Expr.Printed.binary .start .power (.sign .caret) _ _ _ _
    (reference (.named "x") 10 (by decide)) exponent
  have negated :=
    @Expr.Printed.leading .start .negate rfl (.sign .dash) _ _ power
  exact (Grammar.expression_printed rfl (by decide) (by decide)).1 _
    (.fits (by decide) negated)

end MatrixLang
