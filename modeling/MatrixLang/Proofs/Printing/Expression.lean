import MatrixLang.Proofs.Numerals.Float
import MatrixLang.Proofs.Printing.Erase
import MatrixLang.Proofs.Printing.Pieces

/-!
# Printed expressions are read back

The text of an expression is an atom: a literal, a name, a call or something in
parentheses or brackets.  `Expr.Written` says that it is scanned and read as the
same expression, but for positions, wherever it stands.  Each form of expression
is written when its parts are.
-/

namespace MatrixLang

/-! ## Layers -/

namespace Phrase

variable {tokens : List Token} {expr : Expr}

/-- A level without operators reads what its operand reads. -/
theorem Reads.operandOnly
    (level : Level)
    (read : (Phrase.tier level.operandTier).Reads tokens expr) :
    (Phrase.tier level.tier).Reads tokens expr := by
  have none : (Phrase.operands level).Reads [] [] := .noOperands
  have chained := Reads.chain read none
  rw [List.append_nil] at chained
  exact chained

/-- A layer reads what the next tighter one reads. -/
theorem Reads.loosen
    {tier : Tier}
    (read : (Phrase.tier tier.tighter).Reads tokens expr) :
    (Phrase.tier tier).Reads tokens expr := by
  cases tier with
  | disjunction => exact .operandOnly .disjunction read
  | conjunction => exact .operandOnly .conjunction read
  | comparison => exact .operandOnly .comparison read
  | additive => exact .operandOnly .additive read
  | multiplicative => exact .operandOnly .multiplicative read
  | dotProduct => exact .operandOnly .dotProduct read
  | matrixProduct => exact .operandOnly .matrixProduct read
  | elementSelection =>
      have selected := Reads.element read .noIndices
      rw [List.append_nil] at selected
      exact selected
  | atom => exact read
  | _ => exact .bare rfl read

/-- A layer reads what a layer some steps tighter reads. -/
theorem Reads.loosenBy
    (count : Nat)
    {tier : Tier}
    (read :
      (Phrase.tier (Nat.repeat Tier.tighter count tier)).Reads tokens expr) :
    (Phrase.tier tier).Reads tokens expr := by
  induction count generalizing tier with
  | zero => exact read
  | succ count inductionHypothesis => exact inductionHypothesis (.loosen read)

/-- Every layer reads what the tightest one reads. -/
theorem Reads.ofAtom
    (read : (Phrase.tier .atom).Reads tokens expr)
    (tier : Tier) : (Phrase.tier tier).Reads tokens expr := by
  apply Reads.loosenBy 15
  cases tier <;> exact read

/-- The loosest layer reads what any layer reads. -/
theorem Reads.toExpression
    {tier : Tier}
    (read : (Phrase.tier tier).Reads tokens expr) :
    Phrase.expression.Reads tokens expr := by
  cases tier with
  | selection => exact .loosenBy 0 read
  | disjunction => exact .loosenBy 1 read
  | conjunction => exact .loosenBy 2 read
  | negation => exact .loosenBy 3 read
  | comparison => exact .loosenBy 4 read
  | additive => exact .loosenBy 5 read
  | multiplicative => exact .loosenBy 6 read
  | minus => exact .loosenBy 7 read
  | power => exact .loosenBy 8 read
  | dimension => exact .loosenBy 9 read
  | dotProduct => exact .loosenBy 10 read
  | matrixProduct => exact .loosenBy 11 read
  | subrange => exact .loosenBy 12 read
  | elementSelection => exact .loosenBy 13 read
  | fieldSelection => exact .loosenBy 14 read
  | atom => exact .loosenBy 15 read

/-- Whatever a layer reads stands in parentheses as an atom. -/
theorem Reads.inParens
    {opening closing : Token}
    {tier : Tier}
    (openingKind : opening.kind = .openParen)
    (read : (Phrase.tier tier).Reads tokens expr)
    (closingKind : closing.kind = .closeParen) :
    (Phrase.tier .atom).Reads (opening :: (tokens ++ [closing])) expr :=
  .parenthesized (.enclosed openingKind read.toExpression closingKind)

end Phrase

/-! ## Written expressions -/

namespace Expr

/-- Tokens from which an expression is read as an atom, but for positions. -/
def ReadsBack (expr : Expr) (tokens : List Token) : Prop :=
  ∃ read, (Phrase.tier .atom).Reads tokens read ∧ read.erase = expr.erase

/--
The text of an expression is read back wherever no word or numeral goes on
behind it.
-/
structure Written (expr : Expr) : Prop where
  /-- The text is scanned and read back. -/
  prints : ∀ rest,
    Token.stops rest = true -> Prints expr.text.toList rest expr.ReadsBack
  /-- A sign before the text does not go on with it. -/
  starts : ∃ first rest, expr.text.toList = first :: rest ∧ first ≠ '='

theorem written_int
    {value : Int32}
    (nonneg : 0 ≤ value.toInt)
    (position : Position) : (Expr.int position value).Written where
  prints := by
    intro rest stop
    have digits : ∀ character ∈ Nat.toDigits 10 value.toInt.toNat,
        character.isDigit = true :=
      fun character member => Numeral.isDigit_toDigits member
    have first := Token.Lexeme.first?_integer Nat.toDigits_ne_nil digits stop
    rw [Expr.text, Numeral.toList_ofInt32 nonneg]
    apply Prints.lastLexeme first rfl rfl
    intro token kind spelling
    have spelled : token.spelling = Numeral.ofInt32 value := by
      rw [spelling, ← String.toList_inj, Numeral.toList_ofInt32 nonneg]
      exact String.toList_ofList
    have read : Numeral.int32? token.spelling = some value := by
      rw [spelled, Numeral.int32?_ofInt32 nonneg]
    exact ⟨_, .int kind read, by simp only [relabel]⟩
  starts := by
    rw [Expr.text, Numeral.toList_ofInt32 nonneg]
    cases written : Nat.toDigits 10 value.toInt.toNat with
    | nil => exact absurd written Nat.toDigits_ne_nil
    | cons digit digits =>
        refine ⟨digit, digits, rfl, ?_⟩
        rintro rfl
        have isDigit := Numeral.isDigit_toDigits (written ▸ List.mem_cons_self)
        cases isDigit

theorem written_float
    {value : Single}
    (finite : value.IsFinite)
    (nonneg : value.negative = false)
    (position : Position) : (Expr.float position value).Written := by
  obtain ⟨⟨digit, numeral, start, isDigit⟩, taken, read⟩ :=
    Single.text_reads finite nonneg
  constructor
  · intro rest stop
    have whole := taken rest stop
    rw [start] at whole
    have first := Token.Lexeme.first?_float isDigit whole
    rw [Expr.text, start]
    apply Prints.lastLexeme first rfl rfl
    intro token kind spelling
    have spelled : token.spelling = value.text := by
      rw [spelling, ← String.toList_inj, start]
      exact String.toList_ofList
    rw [← spelled] at read
    exact ⟨_, .float kind read, by simp only [relabel]⟩
  · refine ⟨digit, numeral, by rw [Expr.text, start], ?_⟩
    rintro rfl
    cases isDigit

/-- The words of the truth values are scanned as bool literals. -/
theorem prints_boolWord
    {rest : List Char}
    (stop : Token.stops rest = true)
    (value : Bool) :
    Prints (if value then "true" else "false").toList rest fun tokens =>
      ∃ token, tokens = [token] ∧ token.kind = .boolLiteral ∧
        (token.spelling == "true") = value := by
  cases value with
  | true =>
      have first : Token.Lexeme.first? ('t' :: ['r', 'u', 'e'] ++ rest) = _ :=
        Token.Lexeme.first?_word rfl (List.all_eq_true.1 rfl) stop
      apply Prints.lastLexeme first rfl rfl
      intro token kind spelling
      exact ⟨token, rfl, kind, by rw [spelling]; rfl⟩
  | false =>
      have first :
          Token.Lexeme.first? ('f' :: ['a', 'l', 's', 'e'] ++ rest) = _ :=
        Token.Lexeme.first?_word rfl (List.all_eq_true.1 rfl) stop
      apply Prints.lastLexeme first rfl rfl
      intro token kind spelling
      exact ⟨token, rfl, kind, by rw [spelling]; rfl⟩

theorem written_bool
    (position : Position)
    (value : Bool) : (Expr.bool position value).Written := by
  constructor
  · intro rest stop
    rw [Expr.text]
    apply Prints.mono (prints_boolWord stop value)
    rintro tokens ⟨token, rfl, kind, spelling⟩
    refine ⟨_, .bool kind, ?_⟩
    simp only [relabel, spelling]
  · rw [Expr.text]
    cases value with
    | true => exact ⟨'t', _, rfl, by decide⟩
    | false => exact ⟨'f', _, rfl, by decide⟩

theorem written_string
    {value : String}
    (inner : ∀ character ∈ value.toList, character ≠ '"' ∧ character ≠ '\n')
    (position : Position) : (Expr.string position value).Written := by
  have letters : (Expr.string position value).text.toList =
      '"' :: (value.toList ++ ['"']) := by
    rw [Expr.text, String.toList_append, String.toList_append]
    rfl
  constructor
  · intro rest stop
    have first : Token.Lexeme.first? ('"' :: (value.toList ++ ['"']) ++ rest) =
        some (.matched .string ('"' :: (value.toList ++ ['"']))) := by
      rw [List.cons_append, List.append_assoc]
      exact Token.Lexeme.first?_string inner rest
    rw [letters]
    apply Prints.lastLexeme first rfl rfl
    intro token kind spelling
    have spelled : token.spelling = value := by
      rw [spelling, Token.Pattern.spelling, ← String.toList_inj,
        String.toList_ofList]
      simp
    refine ⟨_, .string kind, ?_⟩
    simp only [relabel, spelled]
  · exact ⟨'"', _, letters, by decide⟩

theorem written_reference
    {name : String}
    (isName : IsName name)
    (position : Position) : (Expr.reference position name).Written := by
  constructor
  · intro rest stop
    rw [Expr.text]
    apply Prints.lastName isName stop
    intro token kind spelling
    refine ⟨_, .reference kind, ?_⟩
    simp only [relabel, spelling]
  · rw [Expr.text]
    exact isName.starts

/-! ## Composite expressions -/

/-- The kind of the sign of an operator. -/
def signKind : BinaryOp -> Token.Kind
  | .or => .or
  | .and => .and
  | .compare .less => .less
  | .compare .greater => .greater
  | .compare .lessEqual => .lessEquals
  | .compare .greaterEqual => .greaterEquals
  | .compare .equal => .equals
  | .compare .notEqual => .notEquals
  | .add => .plus
  | .subtract => .dash
  | .multiply => .star
  | .divide => .slash
  | .power => .caret
  | .dotProduct => .dotProduct
  | .matrixProduct => .hash

/-- An operator is printed as the sign of its kind. -/
theorem sign_eq_describe
    (operator : BinaryOp) :
    operator.sign = (signKind operator).describe ∧
      signKind operator ∈ Token.Pattern.symbols := by
  cases operator with
  | compare comparison => cases comparison <;> exact ⟨rfl, by decide⟩
  | _ => exact ⟨rfl, by decide⟩

/-- Every operator is either a power or stands on a level. -/
theorem operator?_signKind
    (operator : BinaryOp) :
    operator = .power ∨
      ∃ level : Level, level.operator? (signKind operator) = some operator := by
  cases operator with
  | or => exact Or.inr ⟨.disjunction, rfl⟩
  | and => exact Or.inr ⟨.conjunction, rfl⟩
  | compare comparison =>
      exact Or.inr ⟨.comparison, by cases comparison <;> rfl⟩
  | add => exact Or.inr ⟨.additive, rfl⟩
  | subtract => exact Or.inr ⟨.additive, rfl⟩
  | multiply => exact Or.inr ⟨.multiplicative, rfl⟩
  | divide => exact Or.inr ⟨.multiplicative, rfl⟩
  | power => exact Or.inl rfl
  | dotProduct => exact Or.inr ⟨.dotProduct, rfl⟩
  | matrixProduct => exact Or.inr ⟨.matrixProduct, rfl⟩

/-- What is read back between parentheses is read back with them. -/
theorem written_inParens
    {expr : Expr}
    (inside : List Char)
    (text : expr.text.toList = "(".toList ++ (inside ++ ")".toList))
    (printed : ∀ rest,
      Token.stops rest = true -> Prints inside rest fun tokens => ∃ tier read,
        (Phrase.tier tier).Reads tokens read ∧ read.erase = expr.erase) :
    expr.Written := by
  constructor
  · intro rest stop
    rw [text]
    apply Prints.sign .openParen (by decide) rfl
    intro opening openingKind
    apply Prints.part (printed _ rfl)
    rintro tokens ⟨tier, read, reads, same⟩
    apply Prints.lastSign .closeParen (by decide) rfl
    intro closing closingKind
    exact ⟨read, reads.inParens openingKind closingKind, same⟩
  · exact ⟨'(', _, text, by decide⟩

theorem written_binary
    {left right : Expr}
    (leftWritten : left.Written)
    (rightWritten : right.Written)
    (position : Position)
    (operator : BinaryOp) :
    (Expr.binary position operator left right).Written := by
  obtain ⟨spelled, listed⟩ := sign_eq_describe operator
  apply written_inParens
    (left.text.toList ++ (" ".toList ++ ((signKind operator).describe.toList ++
      (" ".toList ++ right.text.toList))))
  · simp only [Expr.text, String.toList_append, List.append_assoc, spelled]
  · intro rest stop
    apply Prints.part (leftWritten.prints _ rfl)
    rintro tokens ⟨leftRead, leftReads, leftSame⟩
    apply Prints.spaced _ listed
    intro sign signed
    apply Prints.mono (rightWritten.prints _ stop)
    rintro others ⟨rightRead, rightReads, rightSame⟩
    rcases operator?_signKind operator with rfl | ⟨level, found⟩
    · refine ⟨_, _, .power (leftReads.ofAtom _) signed (rightReads.ofAtom _),
        ?_⟩
      simp only [relabel, leftSame, rightSame]
    · rw [← signed] at found
      have chain := Phrase.Reads.chain (leftReads.ofAtom level.operandTier)
        (.operand found (rightReads.ofAtom _) .noOperands)
      rw [List.append_nil] at chain
      refine ⟨_, _, chain, ?_⟩
      simp only [List.foldl_cons, List.foldl_nil, relabel, leftSame, rightSame]

theorem written_not
    {operand : Expr}
    (written : operand.Written)
    (position : Position) : (Expr.unary position .not operand).Written := by
  apply written_inParens ("!".toList ++ operand.text.toList)
  · simp [Expr.text, UnaryOp.apply]
  · intro rest stop
    have apart :
        Token.Kind.standsBefore .not (operand.text.toList ++ rest) = true := by
      obtain ⟨first, others, start, notEqual⟩ := written.starts
      rw [start]
      simp [Token.Kind.standsBefore, notEqual]
    apply Prints.sign .not (by decide) apart
    intro sign signed
    apply Prints.mono (written.prints _ stop)
    rintro tokens ⟨read, reads, same⟩
    refine ⟨_, _, .not signed (reads.ofAtom _), ?_⟩
    simp only [relabel, same]

theorem written_negate
    {operand : Expr}
    (written : operand.Written)
    (position : Position) : (Expr.unary position .negate operand).Written := by
  apply written_inParens ("-".toList ++ operand.text.toList)
  · simp [Expr.text, UnaryOp.apply]
  · intro rest stop
    apply Prints.sign .dash (by decide) rfl
    intro sign signed
    apply Prints.mono (written.prints _ stop)
    rintro tokens ⟨read, reads, same⟩
    refine ⟨_, _, .negate signed (reads.ofAtom _), ?_⟩
    simp only [relabel, same]

theorem written_dimension
    {operand : Expr}
    {kind : Token.Kind}
    {operator : UnaryOp}
    (written : operand.Written)
    (asked : Grammar.dimension? kind = some operator)
    (position : Position) : (Expr.unary position operator operand).Written := by
  have known : kind ∈ Token.Pattern.symbols ∧
      (∀ rest, kind.standsBefore rest = true ∧
        Token.stops (kind.describe.toList ++ rest) = true) ∧
      operator.apply operand.text =
        "(" ++ operand.text ++ kind.describe ++ ")" := by
    unfold Grammar.dimension? at asked
    split at asked
    case h_4 => cases asked
    all_goals
      cases asked
      refine ⟨by decide, fun rest => ⟨rfl, rfl⟩, ?_⟩
      rw [String.append_assoc]
      rfl
  obtain ⟨listed, apart, applied⟩ := known
  apply written_inParens (operand.text.toList ++ kind.describe.toList)
  · simp only [Expr.text, applied, String.toList_append, List.append_assoc]
  · intro rest stop
    apply Prints.part (written.prints _ (apart rest).2)
    rintro tokens ⟨read, reads, same⟩
    apply Prints.lastSign kind listed (apart rest).1
    intro sign signed
    refine ⟨_, _, .dimension (reads.ofAtom _) (signed ▸ asked), ?_⟩
    simp only [relabel, same]

theorem written_select
    {condition onTrue onFalse : Expr}
    (conditionWritten : condition.Written)
    (trueWritten : onTrue.Written)
    (falseWritten : onFalse.Written)
    (position : Position) :
    (Expr.select position condition onTrue onFalse).Written := by
  apply written_inParens
    (condition.text.toList ++ (" ".toList ++ ("?".toList ++ (" ".toList ++
      (onTrue.text.toList ++ (" ".toList ++ (":".toList ++ (" ".toList ++
        onFalse.text.toList))))))))
  · simp [Expr.text]
  · intro rest stop
    apply Prints.part (conditionWritten.prints _ rfl)
    rintro tokens ⟨conditionRead, conditionReads, conditionSame⟩
    apply Prints.spaced .question (by decide)
    intro question questionKind
    apply Prints.part (trueWritten.prints _ rfl)
    rintro trueTokens ⟨trueRead, trueReads, trueSame⟩
    apply Prints.spaced .colon (by decide)
    intro colon colonKind
    apply Prints.mono (falseWritten.prints _ stop)
    rintro falseTokens ⟨falseRead, falseReads, falseSame⟩
    refine ⟨_, _, .select (conditionReads.ofAtom _) questionKind
      (trueReads.ofAtom _) colonKind
      (falseReads.ofAtom _), ?_⟩
    simp only [relabel, conditionSame, trueSame, falseSame]

/-- An expression between two signs is read back. -/
theorem Written.prints_enclosed
    {expr : Expr}
    {rest : List Char}
    (written : expr.Written)
    (left right : Token.Kind)
    (leftListed : left ∈ Token.Pattern.symbols)
    (leftApart : ∀ behind, left.standsBefore behind = true)
    (rightListed : right ∈ Token.Pattern.symbols)
    (rightApart : right.standsBefore rest = true)
    (rightStops : Token.stops (right.describe.toList ++ rest) = true) :
    Prints (left.describe.toList ++ (expr.text.toList ++ right.describe.toList))
        rest fun tokens =>
      ∃ read, (Phrase.enclosed left right).Reads tokens read ∧
        read.erase = expr.erase := by
  apply Prints.sign left leftListed (leftApart _)
  intro leftToken leftKind
  apply Prints.part (written.prints _ rightStops)
  rintro tokens ⟨read, reads, same⟩
  apply Prints.lastSign right rightListed rightApart
  intro rightToken rightKind
  exact ⟨read, .enclosed leftKind (reads.ofAtom _) rightKind, same⟩

/-- An expression in brackets is read back. -/
theorem Written.prints_inBrackets
    {expr : Expr}
    (written : expr.Written)
    (rest : List Char) :
    Prints ("[".toList ++ (expr.text.toList ++ "]".toList)) rest fun tokens =>
      ∃ read, (Phrase.enclosed .openBracket .closeBracket).Reads tokens read ∧
        read.erase = expr.erase :=
  written.prints_enclosed .openBracket .closeBracket (by decide) (fun _ => rfl)
    (by decide) rfl rfl

/-- An expression in parentheses is read back. -/
theorem Written.prints_inParens
    {expr : Expr}
    (written : expr.Written)
    (rest : List Char) :
    Prints ("(".toList ++ (expr.text.toList ++ ")".toList)) rest fun tokens =>
      ∃ read, (Phrase.enclosed .openParen .closeParen).Reads tokens read ∧
        read.erase = expr.erase :=
  written.prints_enclosed .openParen .closeParen (by decide) (fun _ => rfl)
    (by decide) rfl rfl

theorem written_element
    {base index : Expr}
    (baseWritten : base.Written)
    (indexWritten : index.Written)
    (position : Position) : (Expr.element position base index).Written := by
  apply written_inParens
    (base.text.toList ++ ("[".toList ++ (index.text.toList ++ "]".toList)))
  · simp [Expr.text]
  · intro rest stop
    apply Prints.part (baseWritten.prints _ rfl)
    rintro tokens ⟨read, reads, same⟩
    apply Prints.mono (indexWritten.prints_inBrackets _)
    rintro indexTokens ⟨indexRead, indexReads, indexSame⟩
    have selected :=
      Phrase.Reads.element (reads.ofAtom _) (.index indexReads .noIndices)
    rw [List.append_nil] at selected
    refine ⟨_, _, selected, ?_⟩
    simp only [List.foldl_cons, List.foldl_nil, relabel, same, indexSame]

theorem written_field
    {base : Expr}
    {name : String}
    (written : base.Written)
    (isName : IsName name)
    (position : Position) : (Expr.field position base name).Written := by
  apply written_inParens (base.text.toList ++ ("@".toList ++ name.toList))
  · simp [Expr.text]
  · intro rest stop
    apply Prints.part (written.prints _ rfl)
    rintro tokens ⟨read, reads, same⟩
    apply Prints.sign .atSign (by decide) rfl
    intro sign signKind
    apply Prints.lastName isName stop
    intro token kind spelling
    refine ⟨_, _, .field reads signKind kind, ?_⟩
    simp only [relabel, same, spelling]

/-- The three parts of a range are read back. -/
theorem prints_range
    {first origin last : Expr}
    (firstWritten : first.Written)
    (originWritten : origin.Written)
    (lastWritten : last.Written)
    (rest : List Char) :
    Prints (rangeText first.text origin.text last.text).toList rest
        fun tokens =>
      ∃ firstRead originRead lastRead,
        Phrase.range.Reads tokens (firstRead, originRead, lastRead) ∧
          firstRead.erase = first.erase ∧ originRead.erase = origin.erase ∧
            lastRead.erase = last.erase := by
  simp only [rangeText, String.toList_append, List.append_assoc]
  apply Prints.sign .openCurly (by decide) rfl
  intro left leftKind
  apply Prints.part (firstWritten.prints _ rfl)
  rintro tokens ⟨firstRead, firstReads, firstSame⟩
  apply Prints.sign .colon (by decide) rfl
  intro colon colonKind
  apply Prints.part (originWritten.prints _ rfl)
  rintro originTokens ⟨originRead, originReads, originSame⟩
  apply Prints.sign .colon (by decide) rfl
  intro secondColon secondColonKind
  apply Prints.part (lastWritten.prints _ rfl)
  rintro lastTokens ⟨lastRead, lastReads, lastSame⟩
  apply Prints.lastSign .closeCurly (by decide) rfl
  intro right rightKind
  exact ⟨firstRead, originRead, lastRead,
    .range leftKind (firstReads.ofAtom _) colonKind (originReads.ofAtom _)
      secondColonKind (lastReads.ofAtom _) rightKind,
    firstSame, originSame, lastSame⟩

theorem stops_rangeText
    (first origin last : String)
    (rest : List Char) :
    Token.stops ((rangeText first origin last).toList ++ rest) = true := by
  simp only [rangeText, String.toList_append, List.append_assoc]
  rfl

theorem written_subvector
    {base first origin last : Expr}
    (baseWritten : base.Written)
    (firstWritten : first.Written)
    (originWritten : origin.Written)
    (lastWritten : last.Written)
    (position : Position) :
    (Expr.subvector position base first origin last).Written := by
  apply written_inParens
    (base.text.toList ++ (rangeText first.text origin.text last.text).toList)
  · simp only [Expr.text, String.toList_append, List.append_assoc]
  · intro rest stop
    apply Prints.part (baseWritten.prints _ (stops_rangeText _ _ _ _))
    rintro tokens ⟨read, reads, same⟩
    apply Prints.mono (prints_range firstWritten originWritten lastWritten rest)
    rintro others ⟨firstRead, originRead, lastRead, range, firstSame,
      originSame, lastSame⟩
    refine ⟨_, _, .subvector (reads.ofAtom _) range, ?_⟩
    simp only [relabel, same, firstSame, originSame, lastSame]

theorem written_submatrix
    {base first origin last firstColumn originColumn lastColumn : Expr}
    (baseWritten : base.Written)
    (firstWritten : first.Written)
    (originWritten : origin.Written)
    (lastWritten : last.Written)
    (firstColumnWritten : firstColumn.Written)
    (originColumnWritten : originColumn.Written)
    (lastColumnWritten : lastColumn.Written)
    (position : Position) :
    (Expr.submatrix position base first origin last
      firstColumn originColumn lastColumn).Written := by
  apply written_inParens
    (base.text.toList ++ ((rangeText first.text origin.text last.text).toList ++
      (rangeText firstColumn.text originColumn.text lastColumn.text).toList))
  · simp only [Expr.text, String.toList_append, List.append_assoc]
  · intro rest stop
    have baseStops := stops_rangeText first.text origin.text last.text
      ((rangeText firstColumn.text originColumn.text lastColumn.text).toList ++
        rest)
    rw [← List.append_assoc] at baseStops
    apply Prints.part (baseWritten.prints _ baseStops)
    rintro tokens ⟨read, reads, same⟩
    apply Prints.part (prints_range firstWritten originWritten lastWritten _)
    rintro rows ⟨_, _, _, rowRange, firstSame, originSame, lastSame⟩
    apply Prints.mono (prints_range firstColumnWritten originColumnWritten
      lastColumnWritten rest)
    rintro columns ⟨_, _, _, columnRange, firstColumnSame, originColumnSame,
      lastColumnSame⟩
    refine ⟨_, _, .submatrix (reads.ofAtom _) rowRange columnRange, ?_⟩
    simp only [relabel, same, firstSame, originSame, lastSame, firstColumnSame,
      originColumnSame, lastColumnSame]

/-! ## Lists of expressions -/

/-- Expressions behind commas are read back. -/
theorem prints_further
    {list : List Expr}
    {rest : List Char}
    (written : ∀ expr ∈ list, expr.Written)
    (stop : Token.stops rest = true) :
    Prints (furtherText (list.map text)) rest
      (ListReadsBack erase Phrase.further.Reads list) := by
  refine Prints.further ⟨[], .nothingFurther, rfl⟩ ?_
    (fun expr isOne => (written expr isOne).prints) stop
  rintro expr list comma tokens others commaKind ⟨read, reads, same⟩
    ⟨further, furtherReads, furtherSame⟩
  refine ⟨read :: further, .further commaKind (reads.ofAtom _) furtherReads, ?_⟩
  rw [List.map_cons, List.map_cons, same, furtherSame]

/-- The arguments of a call are read back. -/
theorem prints_arguments
    {list : List Expr}
    {rest : List Char}
    (written : ∀ expr ∈ list, expr.Written)
    (stop : Token.stops rest = true) :
    Prints (Text.commaSeparated (list.map text)).toList rest
      (ListReadsBack erase Phrase.arguments.Reads list) := by
  have further :=
    prints_further
      (fun expr isLater => written expr (List.mem_of_mem_tail isLater)) stop
  refine Prints.listing ⟨[], .noArguments, rfl⟩ ?_
    (fun expr isOne => (written expr isOne).prints) further stop
  rintro expr list tokens others ⟨read, reads, same⟩
    ⟨further, furtherReads, furtherSame⟩
  refine ⟨read :: further, .arguments (reads.ofAtom _) furtherReads, ?_⟩
  rw [List.map_cons, List.map_cons, same, furtherSame]

/-- The elements of an aggregate are read back. -/
theorem prints_elements
    {list : List Expr}
    (some : list ≠ [])
    (written : ∀ expr ∈ list, expr.Written)
    (rest : List Char) :
    Prints ("[".toList ++
        ((Text.commaSeparated (list.map text)).toList ++ "]".toList)) rest
      (ListReadsBack erase Phrase.elements.Reads list) := by
  cases list with
  | nil => exact absurd rfl some
  | cons expr list =>
      rw [List.map_cons, toList_commaSeparated, List.append_assoc]
      apply Prints.sign .openBracket (by decide) rfl
      intro left leftKind
      have stop : Token.stops
          (furtherText (list.map text) ++ "]".toList ++ rest) = true := by
        rw [List.append_assoc]
        exact stops_furtherText rfl _
      apply Prints.part ((written expr List.mem_cons_self).prints _ stop)
      rintro tokens ⟨read, reads, same⟩
      apply Prints.part (prints_further
        (fun other isOther => written other (List.mem_cons_of_mem expr isOther))
          rfl)
      rintro others ⟨further, furtherReads, furtherSame⟩
      apply Prints.lastSign .closeBracket (by decide) rfl
      intro right rightKind
      refine ⟨read :: further,
        .elements leftKind (reads.ofAtom _) furtherReads rightKind, ?_⟩
      rw [List.map_cons, List.map_cons, same, furtherSame]

theorem written_call
    {name : String}
    {arguments : List Expr}
    (isName : IsName name)
    (written : ∀ expr ∈ arguments, expr.Written)
    (position : Position) : (Expr.call position name arguments).Written := by
  have letters : (Expr.call position name arguments).text.toList =
      name.toList ++ ("(".toList ++
        ((Text.commaSeparated (arguments.map text)).toList ++ ")".toList)) := by
    simp only [Expr.text, callText, texts_eq_map, String.toList_append,
      List.append_assoc]
  constructor
  · intro rest stop
    rw [letters]
    apply Prints.name isName rfl
    intro token kind spelling
    apply Prints.sign .openParen (by decide) rfl
    intro left leftKind
    apply Prints.part (prints_arguments written rfl)
    rintro tokens ⟨read, reads, same⟩
    apply Prints.lastSign .closeParen (by decide) rfl
    intro right rightKind
    refine ⟨_, .call kind leftKind reads rightKind, ?_⟩
    simp only [relabel, relabelAll_eq_map, spelling, same]
  · obtain ⟨first, others, spelled, notEqual⟩ := isName.starts
    rw [letters, spelled]
    exact ⟨first, _, rfl, notEqual⟩

theorem written_aggregate
    {elements : List Expr}
    (some : elements ≠ [])
    (written : ∀ expr ∈ elements, expr.Written)
    (position : Position) : (Expr.aggregate position elements).Written := by
  have letters : (Expr.aggregate position elements).text.toList =
      "[".toList ++
        ((Text.commaSeparated (elements.map text)).toList ++ "]".toList) := by
    simp only [Expr.text, texts_eq_map, String.toList_append, List.append_assoc]
  constructor
  · intro rest stop
    rw [letters]
    apply Prints.mono (prints_elements some written rest)
    rintro tokens ⟨read, reads, same⟩
    refine ⟨_, .aggregate reads, ?_⟩
    simp only [relabel, relabelAll_eq_map, same]
  · exact ⟨'[', _, letters, by decide⟩

theorem written_record
    {name : String}
    {elements : List Expr}
    (isName : IsName name)
    (some : elements ≠ [])
    (written : ∀ expr ∈ elements, expr.Written)
    (position : Position) : (Expr.record position name elements).Written := by
  have letters : (Expr.record position name elements).text.toList =
      "@".toList ++ (name.toList ++ ("[".toList ++
        ((Text.commaSeparated (elements.map text)).toList ++ "]".toList))) := by
    simp only [Expr.text, texts_eq_map, String.toList_append, List.append_assoc]
  constructor
  · intro rest stop
    rw [letters]
    apply Prints.sign .atSign (by decide) rfl
    intro sign signed
    apply Prints.name isName rfl
    intro token kind spelling
    apply Prints.mono (prints_elements some written rest)
    rintro tokens ⟨read, reads, same⟩
    refine ⟨_, .record signed kind reads, ?_⟩
    simp only [relabel, relabelAll_eq_map, spelling, same]
  · exact ⟨'@', _, letters, by decide⟩

end Expr
end MatrixLang
