import MatrixLang.Proofs.SingleExpression

/-!
# The table of precedence

`Expr.Printed` is the table of precedence as a printer.  Every form of
expression has a level between 1, the loosest, and 16, and every operand has a
slot, the least level that may stand there without parentheses.  Parentheses are
put wherever an operand is looser than its slot, and may be put anywhere else.

The layers of the grammar are the levels of the table: what is printed on a
level is read by the layer of that rank and by all looser ones
(`Expr.Printed.readIn`).
-/

namespace MatrixLang

/-! ## The table -/

/-- The tokens of a kind. -/
abbrev Token.Of (kind : Token.Kind) : Type :=
  { token : Token // token.kind = kind }

/-- The level of a binary operator. -/
def BinaryOp.level : BinaryOp -> Nat
  | .or => 2
  | .and => 3
  | .compare _ => 5
  | .add | .subtract => 6
  | .multiply | .divide => 7
  | .power => 9
  | .dotProduct => 11
  | .matrixProduct => 12

/-- The slot of a left operand; only a power does not associate to the left. -/
def BinaryOp.leftSlot : BinaryOp -> Nat
  | .power => 10
  | operator => operator.level

/-- The slot of a right operand; only a power associates to the right. -/
def BinaryOp.rightSlot : BinaryOp -> Nat
  | .power => 9
  | operator => operator.level + 1

/-- The level of a unary operator. -/
def UnaryOp.level : UnaryOp -> Nat
  | .not => 4
  | .negate => 8
  | .xDimension | .yDimension | .dimension => 10

/-- The kind of the sign of a unary operator. -/
def UnaryOp.signKind : UnaryOp -> Token.Kind
  | .not => .not
  | .negate => .dash
  | .xDimension => .xDimension
  | .yDimension => .yDimension
  | .dimension => .dimension

/-- The sign of a unary operator stands before its operand. -/
def UnaryOp.isLeading : UnaryOp -> Bool
  | .not | .negate => true
  | .xDimension | .yDimension | .dimension => false

/--
An expression in a list, with the comma before it and the tokens that print it.
-/
structure Expr.Item where
  /-- The comma before the expression. -/
  comma : Token.Of .comma
  /-- The expression. -/
  expr : Expr
  /-- The tokens that print the expression. -/
  tokens : List Token

/-- The tokens of expressions behind their commas. -/
def Expr.Item.listed (items : List Item) : List Token :=
  items.flatMap fun item => item.comma.val :: item.tokens

/-- The signs of a range. -/
structure Expr.RangeSigns where
  /-- The brace that opens the range. -/
  left : Token.Of .openCurly
  /-- The colon behind the first part. -/
  colon : Token.Of .colon
  /-- The colon behind the second part. -/
  secondColon : Token.Of .colon
  /-- The brace that closes the range. -/
  right : Token.Of .closeCurly

/-- The tokens of a range, given those of its parts. -/
def Expr.RangeSigns.around
    (signs : RangeSigns)
    (first origin last : List Token) : List Token :=
  signs.left.val ::
    (first ++ signs.colon.val ::
      (origin ++ signs.secondColon.val :: (last ++ [signs.right.val])))

/--
Tokens print an expression on a level.  A literal is printed by any spelling
with its value.  An operand is printed on the level of its slot: on its own
level if that is tight enough (`fits`), or else in parentheses, which are atoms.
-/
inductive Expr.Printed : (level : Nat) -> Expr -> List Token -> Prop
  | int
      (position : Position)
      (token : Token.Of .intLiteral)
      {value : Int32}
      (read : Numeral.int32? token.val.spelling = some value) :
      Printed 16 (.int position value) [token.val]
  | float
      (position : Position)
      (token : Token.Of .floatLiteral)
      {value : Single}
      (read : Single.ofLiteral? token.val.spelling = some value) :
      Printed 16 (.float position value) [token.val]
  | bool
      (position : Position)
      (token : Token.Of .boolLiteral) :
      Printed 16 (.bool position (token.val.spelling == "true")) [token.val]
  | string
      (position : Position)
      (token : Token.Of .stringLiteral) :
      Printed 16 (.string position token.val.spelling) [token.val]
  | reference
      (position : Position)
      (name : Token.Of .identifier) :
      Printed 16 (.reference position name.val.spelling) [name.val]
  | callAlone
      (position : Position)
      (name : Token.Of .identifier)
      (left : Token.Of .openParen)
      (right : Token.Of .closeParen) :
      Printed 16 (.call position name.val.spelling []) [name.val,
        left.val, right.val]
  | call
      (position : Position)
      (name : Token.Of .identifier)
      (left : Token.Of .openParen)
      (right : Token.Of .closeParen)
      {first : Expr}
      {tokens : List Token}
      {items : List Item}
      (printed : Printed 1 first tokens)
      (others : ∀ item ∈ items, Printed 1 item.expr item.tokens) :
      Printed 16
        (.call position name.val.spelling (first :: items.map Item.expr))
        (name.val :: left.val :: (tokens ++ (Item.listed items ++ [right.val])))
  | aggregate
      (position : Position)
      (left : Token.Of .openBracket)
      (right : Token.Of .closeBracket)
      {first : Expr}
      {tokens : List Token}
      {items : List Item}
      (printed : Printed 1 first tokens)
      (others : ∀ item ∈ items, Printed 1 item.expr item.tokens) :
      Printed 16 (.aggregate position (first :: items.map Item.expr))
        (left.val :: (tokens ++ (Item.listed items ++ [right.val])))
  | record
      (position : Position)
      (sign : Token.Of .atSign)
      (name : Token.Of .identifier)
      (left : Token.Of .openBracket)
      (right : Token.Of .closeBracket)
      {first : Expr}
      {tokens : List Token}
      {items : List Item}
      (printed : Printed 1 first tokens)
      (others : ∀ item ∈ items, Printed 1 item.expr item.tokens) :
      Printed 16
        (.record position name.val.spelling (first :: items.map Item.expr))
        (sign.val :: name.val :: left.val ::
          (tokens ++ (Item.listed items ++ [right.val])))
  | parenthesized
      (left : Token.Of .openParen)
      (right : Token.Of .closeParen)
      {expr : Expr}
      {tokens : List Token}
      (printed : Printed 1 expr tokens) :
      Printed 16 expr (left.val :: (tokens ++ [right.val]))
  | field
      (position : Position)
      (sign : Token.Of .atSign)
      (name : Token.Of .identifier)
      {base : Expr}
      {tokens : List Token}
      (printed : Printed 16 base tokens) :
      Printed 15 (.field position base name.val.spelling)
        (tokens ++ [sign.val, name.val])
  | element
      (position : Position)
      (left : Token.Of .openBracket)
      (right : Token.Of .closeBracket)
      {base index : Expr}
      {tokens indexTokens : List Token}
      (printed : Printed 14 base tokens)
      (indexPrinted : Printed 1 index indexTokens) :
      Printed 14 (.element position base index)
        (tokens ++ left.val :: (indexTokens ++ [right.val]))
  | subvector
      (position : Position)
      (signs : RangeSigns)
      {base first origin last : Expr}
      {tokens firstTokens originTokens lastTokens : List Token}
      (printed : Printed 14 base tokens)
      (firstPrinted : Printed 1 first firstTokens)
      (originPrinted : Printed 1 origin originTokens)
      (lastPrinted : Printed 1 last lastTokens) :
      Printed 13 (.subvector position base first origin last)
        (tokens ++ signs.around firstTokens originTokens lastTokens)
  | submatrix
      (position : Position)
      (rowSigns columnSigns : RangeSigns)
      {base firstRow originRow lastRow firstColumn originColumn
        lastColumn : Expr}
      {tokens firstRows originRows lastRows firstColumns originColumns
        lastColumns : List Token}
      (printed : Printed 14 base tokens)
      (firstRowPrinted : Printed 1 firstRow firstRows)
      (originRowPrinted : Printed 1 originRow originRows)
      (lastRowPrinted : Printed 1 lastRow lastRows)
      (firstColumnPrinted : Printed 1 firstColumn firstColumns)
      (originColumnPrinted : Printed 1 originColumn originColumns)
      (lastColumnPrinted : Printed 1 lastColumn lastColumns) :
      Printed 13
        (.submatrix position base firstRow originRow lastRow firstColumn
          originColumn lastColumn)
        (tokens ++ (rowSigns.around firstRows originRows lastRows ++
          columnSigns.around firstColumns originColumns lastColumns))
  | leading
      (position : Position)
      {operator : UnaryOp}
      (isLeading : operator.isLeading = true)
      (sign : Token.Of operator.signKind)
      {operand : Expr}
      {tokens : List Token}
      (printed : Printed (operator.level + 1) operand tokens) :
      Printed operator.level (.unary position operator operand)
        (sign.val :: tokens)
  | trailing
      (position : Position)
      {operator : UnaryOp}
      (isTrailing : operator.isLeading = false)
      (sign : Token.Of operator.signKind)
      {operand : Expr}
      {tokens : List Token}
      (printed : Printed (operator.level + 1) operand tokens) :
      Printed operator.level (.unary position operator operand)
        (tokens ++ [sign.val])
  | binary
      (position : Position)
      {operator : BinaryOp}
      (sign : Token.Of (signKind operator))
      {left right : Expr}
      {leftTokens rightTokens : List Token}
      (leftPrinted : Printed operator.leftSlot left leftTokens)
      (rightPrinted : Printed operator.rightSlot right rightTokens) :
      Printed operator.level (.binary position operator left right)
        (leftTokens ++ sign.val :: rightTokens)
  | select
      (position : Position)
      (question : Token.Of .question)
      (colon : Token.Of .colon)
      {condition onTrue onFalse : Expr}
      {tokens trueTokens falseTokens : List Token}
      (printed : Printed 2 condition tokens)
      (truePrinted : Printed 2 onTrue trueTokens)
      (falsePrinted : Printed 2 onFalse falseTokens) :
      Printed 1 (.select position condition onTrue onFalse)
        (tokens ++ question.val :: (trueTokens ++ colon.val :: falseTokens))
  | fits
      {level slot : Nat}
      {expr : Expr}
      {tokens : List Token}
      (within : slot ≤ level)
      (printed : Printed level expr tokens) :
      Printed slot expr tokens

/-! ## Chains read one operand further -/

namespace Phrase

variable {tokens front back : List Token} {sign : Token}
  {left right base index : Expr}

/-- A looser layer reads what a tighter one reads. -/
theorem Reads.loosenTo
    {inner : Tier}
    {expr : Expr}
    (read : (Phrase.tier inner).Reads tokens expr)
    (tier : Tier)
    (looser : tier.rank ≤ inner.rank) :
    (Phrase.tier tier).Reads tokens expr := by
  apply Reads.loosenBy (inner.rank - tier.rank)
  have steps :
      Nat.repeat Tier.tighter (inner.rank - tier.rank) tier = inner := by
    revert looser
    cases tier <;> cases inner <;> decide
  rwa [steps]

/-- A level reads an operand and then operators with their right operands. -/
theorem Reads.of_level
    {level : Level}
    {expr : Expr}
    (read : (Phrase.tier level.tier).Reads tokens expr) :
    ∃ front rest first pairs,
      tokens = front ++ rest ∧
      expr = pairs.foldl
        (fun left pair => .binary (startOf front) pair.1 left pair.2) first ∧
      (Phrase.tier level.operandTier).Reads front first ∧
      (Phrase.operands level).Reads rest pairs := by
  generalize known : level.tier = tier at read
  cases read with
  | @chain other front rest first pairs first operands =>
      have same : level = other := by
        revert known
        cases level <;> cases other <;> simp [Level.tier]
      subst same
      exact ⟨_, _, _, _, rfl, rfl, first, operands⟩
  | bare below _ =>
      subst known
      cases level <;> cases below
  | _ => cases level <;> cases known

/-- Another operator with its right operand stands behind those of a level. -/
theorem Reads.snocOperand
    {level : Level}
    {operator : BinaryOp}
    {pairs : List (BinaryOp × Expr)}
    (operands : (Phrase.operands level).Reads front pairs)
    (found : level.operator? sign.kind = some operator)
    (rightRead : (Phrase.tier level.operandTier).Reads back right) :
    (Phrase.operands level).Reads (front ++ sign :: back)
      (pairs ++ [(operator, right)]) := by
  induction pairs generalizing front with
  | nil =>
      cases operands
      have one := Reads.operand found rightRead .noOperands
      rwa [List.append_nil] at one
  | cons pair pairs inductionHypothesis =>
      cases operands with
      | operand otherFound otherRead further =>
          rw [List.cons_append, List.append_assoc]
          exact .operand otherFound otherRead (inductionHypothesis further)

/-- A level associates to the left. -/
theorem Reads.binary
    {level : Level}
    {operator : BinaryOp}
    (leftRead : (Phrase.tier level.tier).Reads front left)
    (found : level.operator? sign.kind = some operator)
    (rightRead : (Phrase.tier level.operandTier).Reads back right) :
    ∃ position,
      (Phrase.tier level.tier).Reads (front ++ sign :: back)
        (.binary position operator left right) := by
  obtain ⟨first, rest, expr, pairs, rfl, rfl, firstRead, operands⟩ :=
    leftRead.of_level
  refine ⟨startOf first, ?_⟩
  have longer := Reads.chain firstRead (operands.snocOperand found rightRead)
  rwa [List.foldl_append, ← List.append_assoc] at longer

/-- Another index stands behind others. -/
theorem Reads.snocIndex
    {list : List Expr}
    (indices : Phrase.indices.Reads front list)
    (enclosed : (Phrase.enclosed .openBracket .closeBracket).Reads back index) :
    Phrase.indices.Reads (front ++ back) (list ++ [index]) := by
  induction list generalizing front with
  | nil =>
      cases indices
      have one := Reads.index enclosed .noIndices
      rwa [List.append_nil] at one
  | cons first list inductionHypothesis =>
      cases indices with
      | index otherEnclosed further =>
          rw [List.append_assoc]
          exact .index otherEnclosed (inductionHypothesis further)

/-- An element is selected from whatever stands before its index. -/
theorem Reads.indexed
    (read : (Phrase.tier .elementSelection).Reads front base)
    (enclosed : (Phrase.enclosed .openBracket .closeBracket).Reads back index) :
    ∃ position,
      (Phrase.tier .elementSelection).Reads (front ++ back)
        (.element position base index) := by
  generalize known : Tier.elementSelection = tier at read
  cases read with
  | @element tokens rest first list first indices =>
      refine ⟨startOf tokens, ?_⟩
      have longer := Reads.element first (indices.snocIndex enclosed)
      rwa [List.foldl_append, ← List.append_assoc] at longer
  | bare below _ =>
      subst known
      cases below
  | @chain level =>
      cases level <;> cases known
  | _ => cases known

end Phrase

/-! ## What is printed is read -/

namespace Expr

/--
Every layer that is loose enough reads an expression from tokens, but for
positions.
-/
def ReadIn (level : Nat) (expr : Expr) (tokens : List Token) : Prop :=
  ∀ tier : Tier, tier.rank ≤ level ->
    ∃ read, (Phrase.tier tier).Reads tokens read ∧ read.erase = expr.erase

variable {expr read : Expr} {tokens : List Token}

/-- What one layer reads, all looser ones read. -/
theorem readIn_of_reads
    (tier : Tier)
    (reads : (Phrase.tier tier).Reads tokens read)
    (same : read.erase = expr.erase) :
    expr.ReadIn tier.rank tokens :=
  fun looser within => ⟨read, reads.loosenTo looser within, same⟩

/-- An operator that is no power stands on the level of its sign. -/
theorem level_of_operator?
    {level : Level}
    {operator : BinaryOp}
    (found : level.operator? (signKind operator) = some operator) :
    operator.level = level.tier.rank ∧
      operator.leftSlot = level.tier.rank ∧
      operator.rightSlot = level.tier.rank + 1 := by
  have rank := Level.suffixRank_of_operator? found
  rw [← rank]
  cases operator with
  | power => cases level <;> cases found
  | compare comparison => cases comparison <;> exact ⟨rfl, rfl, rfl⟩
  | _ => exact ⟨rfl, rfl, rfl⟩

/-- The next layer below a level reads its right operands. -/
theorem rank_operandTier
    (level : Level) :
    level.operandTier.rank = level.tier.rank + 1 := by
  cases level <;> rfl

/-- The sign of an operator with a trailing sign asks for a dimension. -/
theorem dimension?_signKind
    {operator : UnaryOp}
    (isTrailing : operator.isLeading = false) :
    Grammar.dimension? operator.signKind = some operator := by
  cases operator with
  | not | negate => cases isTrailing
  | xDimension | yDimension | dimension => rfl

/-- Expressions behind commas are read one by one. -/
theorem reads_items
    {items : List Item}
    (others : ∀ item ∈ items, item.expr.ReadIn 1 item.tokens) :
    ListReadsBack erase Phrase.further.Reads (items.map Item.expr)
      (Item.listed items) := by
  induction items with
  | nil => exact ⟨[], .nothingFurther, rfl⟩
  | cons item items inductionHypothesis =>
      obtain ⟨printed, others⟩ := List.forall_mem_cons.1 others
      obtain ⟨read, reads, same⟩ := printed .selection (Nat.le_refl 1)
      obtain ⟨list, listReads, listSame⟩ := inductionHypothesis others
      refine ⟨read :: list, .further item.comma.property reads listReads, ?_⟩
      rw [List.map_cons, same, listSame]
      rfl

/-- The elements between two brackets are read one by one. -/
theorem reads_elements
    {first : Expr}
    {items : List Item}
    (left : Token.Of .openBracket)
    (right : Token.Of .closeBracket)
    (printed : first.ReadIn 1 tokens)
    (others : ∀ item ∈ items, item.expr.ReadIn 1 item.tokens) :
    ListReadsBack erase Phrase.elements.Reads (first :: items.map Item.expr)
      (left.val :: (tokens ++ (Item.listed items ++ [right.val]))) := by
  obtain ⟨read, reads, same⟩ := printed .selection (Nat.le_refl 1)
  obtain ⟨list, listReads, listSame⟩ := reads_items others
  refine ⟨read :: list, .elements left.property reads listReads right.property,
    ?_⟩
  rw [List.map_cons, same, listSame]
  rfl

/-- The parts of a range are read one by one. -/
theorem reads_range
    {first origin last : Expr}
    {firstTokens originTokens lastTokens : List Token}
    (signs : RangeSigns)
    (firstPrinted : first.ReadIn 1 firstTokens)
    (originPrinted : origin.ReadIn 1 originTokens)
    (lastPrinted : last.ReadIn 1 lastTokens) :
    ∃ firstRead originRead lastRead,
      Phrase.range.Reads (signs.around firstTokens originTokens lastTokens)
        (firstRead, originRead, lastRead) ∧
      firstRead.erase = first.erase ∧
      originRead.erase = origin.erase ∧
      lastRead.erase = last.erase := by
  obtain ⟨firstRead, firstReads, firstSame⟩ :=
    firstPrinted .selection (Nat.le_refl 1)
  obtain ⟨originRead, originReads, originSame⟩ :=
    originPrinted .selection (Nat.le_refl 1)
  obtain ⟨lastRead, lastReads, lastSame⟩ :=
    lastPrinted .selection (Nat.le_refl 1)
  exact ⟨firstRead, originRead, lastRead,
    .range signs.left.property firstReads signs.colon.property originReads
      signs.secondColon.property lastReads signs.right.property,
    firstSame, originSame, lastSame⟩

/--
What is printed on a level is read by the layer of the level and by all looser
ones.
-/
theorem Printed.readIn
    {level : Nat}
    (printed : expr.Printed level tokens) :
    expr.ReadIn level tokens := by
  induction printed with
  | int position token read =>
      exact readIn_of_reads .atom (.int token.property read)
        (by simp only [relabel])
  | float position token read =>
      exact readIn_of_reads .atom (.float token.property read)
        (by simp only [relabel])
  | bool position token =>
      exact readIn_of_reads .atom (.bool token.property)
        (by simp only [relabel])
  | string position token =>
      exact readIn_of_reads .atom (.string token.property)
        (by simp only [relabel])
  | reference position name =>
      exact readIn_of_reads .atom (.reference name.property)
        (by simp only [relabel])
  | callAlone position name left right =>
      have reads := Phrase.Reads.call name.property left.property .noArguments
        right.property
      exact readIn_of_reads .atom reads (by simp only [relabel])
  | call position name left right _ _ printed others =>
      obtain ⟨read, reads, same⟩ := printed .selection (Nat.le_refl 1)
      obtain ⟨list, listReads, listSame⟩ := reads_items others
      have call := Phrase.Reads.call name.property left.property
        (.arguments reads listReads)
        right.property
      rw [List.append_assoc] at call
      refine readIn_of_reads .atom call ?_
      simp only [relabel, relabelAll_eq_map, List.map_cons, same, listSame]
  | aggregate position left right _ _ printed others =>
      obtain ⟨list, listReads, listSame⟩ :=
        reads_elements left right printed others
      refine readIn_of_reads .atom (.aggregate listReads) ?_
      simp only [relabel, relabelAll_eq_map, listSame]
  | record position sign name left right _ _ printed others =>
      obtain ⟨list, listReads, listSame⟩ :=
        reads_elements left right printed others
      refine readIn_of_reads .atom
        (.record sign.property name.property listReads) ?_
      simp only [relabel, relabelAll_eq_map, listSame]
  | parenthesized left right _ printed =>
      obtain ⟨read, reads, same⟩ := printed .selection (Nat.le_refl 1)
      exact readIn_of_reads .atom
        (reads.inParens left.property right.property) same
  | field position sign name _ printed =>
      obtain ⟨read, reads, same⟩ := printed .atom (Nat.le_refl 16)
      refine readIn_of_reads .fieldSelection
        (.field reads sign.property name.property) ?_
      simp only [relabel, same]
  | element position left right _ _ printed indexPrinted =>
      obtain ⟨read, reads, same⟩ := printed .elementSelection (Nat.le_refl 14)
      obtain ⟨index, indexReads, indexSame⟩ :=
        indexPrinted .selection (Nat.le_refl 1)
      obtain ⟨start, indexed⟩ :=
        reads.indexed (.enclosed left.property indexReads right.property)
      refine readIn_of_reads .elementSelection indexed ?_
      simp only [relabel, same, indexSame]
  | subvector position signs _ _ _ _ printed firstPrinted originPrinted
      lastPrinted =>
      obtain ⟨read, reads, same⟩ := printed .elementSelection (Nat.le_refl 14)
      obtain ⟨_, _, _, range, firstSame, originSame, lastSame⟩ :=
        reads_range signs firstPrinted originPrinted lastPrinted
      refine readIn_of_reads .subrange (.subvector reads range) ?_
      simp only [relabel, same, firstSame, originSame, lastSame]
  | submatrix position rowSigns columnSigns _ _ _ _ _ _ _ printed firstRow
      originRow lastRow firstColumn originColumn lastColumn =>
      obtain ⟨read, reads, same⟩ := printed .elementSelection (Nat.le_refl 14)
      obtain ⟨_, _, _, rows, firstRowSame, originRowSame, lastRowSame⟩ :=
        reads_range rowSigns firstRow originRow lastRow
      obtain ⟨_, _, _, columns, firstColumnSame, originColumnSame,
        lastColumnSame⟩ :=
        reads_range columnSigns firstColumn originColumn lastColumn
      refine readIn_of_reads .subrange (.submatrix reads rows columns) ?_
      simp only [relabel, same, firstRowSame, originRowSame, lastRowSame,
        firstColumnSame, originColumnSame, lastColumnSame]
  | @leading position operator isLeading sign _ _ _ printed =>
      cases operator with
      | not =>
          obtain ⟨read, reads, same⟩ := printed .comparison (Nat.le_refl 5)
          refine readIn_of_reads .negation (.not sign.property reads) ?_
          simp only [relabel, same]
      | negate =>
          obtain ⟨read, reads, same⟩ := printed .power (Nat.le_refl 9)
          refine readIn_of_reads .minus (.negate sign.property reads) ?_
          simp only [relabel, same]
      | xDimension | yDimension | dimension => cases isLeading
  | @trailing position operator isTrailing sign _ _ _ printed =>
      have asked := dimension?_signKind isTrailing
      rw [← sign.property] at asked
      have level : operator.level = Tier.dimension.rank := by
        cases operator with
        | not | negate => cases isTrailing
        | xDimension | yDimension | dimension => rfl
      rw [level] at printed ⊢
      obtain ⟨read, reads, same⟩ := printed .dotProduct (Nat.le_refl 11)
      refine readIn_of_reads .dimension (.dimension reads asked) ?_
      simp only [relabel, same]
  | @binary position operator sign _ _ _ _ _ _ leftPrinted rightPrinted =>
      rcases operator?_signKind operator with rfl | ⟨level, found⟩
      · obtain ⟨left, leftReads, leftSame⟩ :=
          leftPrinted .dimension (Nat.le_refl 10)
        obtain ⟨right, rightReads, rightSame⟩ :=
          rightPrinted .power (Nat.le_refl 9)
        refine readIn_of_reads .power
          (.power leftReads sign.property rightReads) ?_
        simp only [relabel, leftSame, rightSame]
      · obtain ⟨operatorLevel, leftSlot, rightSlot⟩ := level_of_operator? found
        obtain ⟨left, leftReads, leftSame⟩ :=
          leftPrinted level.tier (Nat.le_of_eq leftSlot.symm)
        obtain ⟨right, rightReads, rightSame⟩ := rightPrinted level.operandTier
          (Nat.le_of_eq ((rank_operandTier level).trans rightSlot.symm))
        rw [← sign.property] at found
        obtain ⟨start, reads⟩ := leftReads.binary found rightReads
        rw [operatorLevel]
        refine readIn_of_reads level.tier reads ?_
        simp only [relabel, leftSame, rightSame]
  | select position question colon _ _ _ printed truePrinted falsePrinted =>
      obtain ⟨condition, reads, same⟩ := printed .disjunction (Nat.le_refl 2)
      obtain ⟨onTrue, trueReads, trueSame⟩ :=
        truePrinted .disjunction (Nat.le_refl 2)
      obtain ⟨onFalse, falseReads, falseSame⟩ :=
        falsePrinted .disjunction (Nat.le_refl 2)
      refine readIn_of_reads .selection
        (.select reads question.property trueReads colon.property falseReads) ?_
      simp only [relabel, same, trueSame, falseSame]
  | fits within _ readIn =>
      exact fun tier looser => readIn tier (Nat.le_trans looser within)

end Expr
end MatrixLang
