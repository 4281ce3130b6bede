import MatrixLang.Proofs.Reading.Expression
import MatrixLang.Proofs.Takes

/-!
# Expressions that can be read are parsed

A layer of expressions goes on at certain kinds of token and starts with certain
others.  `Token.Kind.suffixRank` and `Token.Kind.headRank` order them by the
layers they belong to, and so the token behind an expression decides where every
layer in it ends: `Phrase.Reads.complete`.
-/

namespace MatrixLang

/-! ## Layers and their tokens -/

/-- The place of a layer among the layers, the loosest first. -/
def Tier.rank : Tier -> Nat
  | .selection => 1
  | .disjunction => 2
  | .conjunction => 3
  | .negation => 4
  | .comparison => 5
  | .additive => 6
  | .multiplicative => 7
  | .minus => 8
  | .power => 9
  | .dimension => 10
  | .dotProduct => 11
  | .matrixProduct => 12
  | .subrange => 13
  | .elementSelection => 14
  | .fieldSelection => 15
  | .atom => 16

/--
The rank of the layer that goes on at a kind of token; zero where none does.
-/
def Token.Kind.suffixRank : Token.Kind -> Nat
  | .question => 1
  | .or => 2
  | .and => 3
  | .less | .greater | .lessEquals | .greaterEquals | .equals | .notEquals => 5
  | .plus | .dash => 6
  | .star | .slash => 7
  | .caret => 9
  | .xDimension | .yDimension | .dimension => 10
  | .dotProduct => 11
  | .hash => 12
  | .openCurly => 13
  | .openBracket => 14
  | .atSign => 15
  | .openParen => 16
  | _ => 0

/--
The rank of the tightest layer that starts with a kind of token; zero where none
does.
-/
def Token.Kind.headRank : Token.Kind -> Nat
  | .not => 4
  | .dash => 8
  | .intLiteral | .floatLiteral | .boolLiteral | .stringLiteral | .identifier
  | .openParen | .openBracket | .atSign =>
      16
  | _ => 0

namespace Tier

variable {tier : Tier} {kind other : Token.Kind}

/-- Neither a layer nor a tighter one goes on at a kind of token. -/
def Ends (tier : Tier) (kind : Token.Kind) : Prop :=
  kind.suffixRank < tier.rank

theorem Ends.tighter
    {inner : Tier}
    (ends : tier.Ends kind)
    (le : tier.rank ≤ inner.rank) :
    inner.Ends kind :=
  Nat.lt_of_lt_of_le ends le

theorem Ends.ne
    (ends : tier.Ends kind)
    (goesOn : tier.rank ≤ other.suffixRank) :
    kind ≠ other := by
  rintro rfl
  exact Nat.lt_irrefl _ (Nat.lt_of_lt_of_le ends goesOn)

/-- A layer that stands in place of a looser one is tighter. -/
theorem rank_lt_of_bare?
    {inner : Tier}
    (below : tier.bare? = some inner) :
    tier.rank < inner.rank := by
  cases tier <;> cases below <;> decide

end Tier

namespace Level

variable {level : Level} {kind : Token.Kind}

theorem rank_tier_lt
    (level : Level) :
    level.tier.rank < level.operandTier.rank := by
  cases level <;> decide

/-- The layer of a level goes on at its operators. -/
theorem suffixRank_of_operator?
    {operator : BinaryOp}
    (found : level.operator? kind = some operator) :
    kind.suffixRank = level.tier.rank := by
  unfold Level.operator? at found
  split at found
  case h_3 =>
    obtain ⟨comparison, known, -⟩ := Option.map_eq_some_iff.1 found
    unfold Comparison.ofKind? at known
    split at known
    case h_7 => cases known
    all_goals rfl
  case h_10 => cases found
  all_goals rfl

/-- Where the layer of a level ends, none of its operators stands. -/
theorem operator?_eq_none
    (ends : level.tier.Ends kind) :
    level.operator? kind = none := by
  cases found : level.operator? kind with
  | none => rfl
  | some operator =>
      have rank := suffixRank_of_operator? found
      unfold Tier.Ends at ends
      omega

end Level

namespace Grammar

theorem suffixRank_of_dimension?
    {kind : Token.Kind}
    {operator : UnaryOp}
    (asked : dimension? kind = some operator) :
    kind.suffixRank = Tier.dimension.rank := by
  unfold dimension? at asked
  split at asked
  case h_4 => cases asked
  all_goals rfl

theorem dimension?_eq_none
    {kind : Token.Kind}
    (ends : Tier.dimension.Ends kind) :
    dimension? kind = none := by
  cases asked : dimension? kind with
  | none => rfl
  | some operator =>
      have rank := suffixRank_of_dimension? asked
      unfold Tier.Ends at ends
      omega

end Grammar

/-! ## First tokens -/

/-- What is known of the first token of a part of an expression. -/
def Phrase.Heads
    (phrase : Phrase)
    (tokens : List Token)
    (after : Token) : Prop :=
  match phrase with
  | .tier layer => layer.rank ≤ (lookahead tokens after).kind.headRank
  | .enclosed left _ => (lookahead tokens after).kind = left
  | .operands level =>
      lookahead tokens after = after ∨
        (lookahead tokens after).kind.suffixRank = level.tier.rank
  | .indices =>
      lookahead tokens after = after ∨
        (lookahead tokens after).kind = .openBracket
  | .further =>
      lookahead tokens after = after ∨ (lookahead tokens after).kind = .comma
  | .arguments => True
  | .elements => (lookahead tokens after).kind = .openBracket
  | .range => (lookahead tokens after).kind = .openCurly

/-- A part of an expression starts with a token that belongs to it. -/
theorem Phrase.Reads.heads
    {phrase : Phrase}
    {tokens : List Token}
    {tree : phrase.Tree}
    (reads : phrase.Reads tokens tree)
    (after : Token) :
    phrase.Heads tokens after := by
  induction reads generalizing after with
  | int kind | float kind | bool kind | string kind | reference kind | call kind
  | record kind =>
      simp only [Heads, lookahead_cons, kind]
      decide
  | parenthesized _ enclosed =>
      have kind := enclosed after
      simp only [Heads] at kind ⊢
      rw [kind]
      decide
  | aggregate _ elements =>
      have kind := elements after
      simp only [Heads] at kind ⊢
      rw [kind]
      decide
  | bare below _ inner =>
      exact Nat.le_trans (Nat.le_of_lt (Tier.rank_lt_of_bare? below))
        (inner after)
  | field _ _ _ base | element _ _ base | subvector _ _ base
  | submatrix _ _ _ base | dimension _ _ base | power _ _ _ base
  | select _ _ _ _ _ base =>
      simp only [Heads, lookahead_append]
      refine Nat.le_trans ?_ (base _)
      decide
  | chain _ _ first =>
      simp only [Heads, lookahead_append]
      exact Nat.le_trans (Nat.le_of_lt (Level.rank_tier_lt _)) (first _)
  | negate signKind | not signKind =>
      simp only [Heads, lookahead_cons, signKind]
      decide
  | enclosed leftSame => exact leftSame
  | noOperands | noIndices | nothingFurther => exact .inl rfl
  | operand found => exact .inr (Level.suffixRank_of_operator? found)
  | index _ _ enclosed =>
      simp only [Heads, lookahead_append]
      exact .inr (enclosed _)
  | further commaKind => exact .inr commaKind
  | noArguments | arguments => trivial
  | elements leftKind => exact leftKind
  | range leftKind => exact leftKind

/-- The first of some tokens has their position. -/
theorem position_lookahead
    {tokens : List Token}
    (nonempty : tokens ≠ [])
    (after : Token) :
    (lookahead tokens after).position = startOf tokens := by
  cases tokens with
  | nil => exact absurd rfl nonempty
  | cons token rest => rfl

/-! ## Parsers -/

/-- The parser of a layer. -/
def Tier.parser : Tier -> Parser Expr
  | .selection => Grammar.selection
  | .disjunction => Grammar.disjunction
  | .conjunction => Grammar.conjunction
  | .negation => Grammar.negation
  | .comparison => Grammar.comparison
  | .additive => Grammar.additive
  | .multiplicative => Grammar.multiplicative
  | .minus => Grammar.minus
  | .power => Grammar.power
  | .dimension => Grammar.dimension
  | .dotProduct => Grammar.dotProduct
  | .matrixProduct => Grammar.matrixProduct
  | .subrange => Grammar.subrange
  | .elementSelection => Grammar.elementSelection
  | .fieldSelection => Grammar.fieldSelection
  | .atom => Grammar.atom

/-- An expression is parsed wherever its layer ends behind its tokens. -/
def Tier.Parsed (tier : Tier) (tokens : List Token) (expr : Expr) : Prop :=
  ∀ after, tier.Ends after.kind -> tier.parser.Takes tokens after expr

namespace Grammar

open MatrixLang.Parser

/-! ### Lists -/

section Lists

variable {α : Type} {item : Parser α} {more : Parser (List α)}
  {tokens rest : List Token}
  {after : Token} {value : α} {list : List α}

theorem takes_furtherItems_nil
    (closing : after.kind = .closeParen) :
    (furtherItems item more).Takes [] after [] := by
  refine takes_current ?_
  rw [lookahead_nil, if_pos closing]
  exact takes_finish []

theorem takes_furtherItems_cons
    {comma : Token}
    (commaKind : comma.kind = .comma)
    (itemTakes : item.Takes tokens (lookahead rest after) value)
    (moreTakes : more.Takes rest after list) :
    (furtherItems item more).Takes (comma :: (tokens ++ rest)) after
      (value :: list) := by
  refine takes_current ?_
  rw [lookahead_cons, if_neg (by rw [commaKind]; decide), if_pos commaKind]
  exact takes_skip (itemTakes.bind moreTakes.last)

theorem takes_items_nil
    (closing : after.kind = .closeParen) :
    (items item more).Takes [] after [] := by
  refine takes_current ?_
  rw [lookahead_nil, if_pos closing]
  exact takes_finish []

theorem takes_items_cons
    (opens : (lookahead tokens (lookahead rest after)).kind ≠ .closeParen)
    (itemTakes : item.Takes tokens (lookahead rest after) value)
    (moreTakes : more.Takes rest after list) :
    (items item more).Takes (tokens ++ rest) after (value :: list) := by
  refine takes_current ?_
  rw [lookahead_append, if_neg opens]
  exact itemTakes.bind moreTakes.last

theorem takes_parenthesized
    {left right : Token}
    (leftKind : left.kind = .openParen)
    (itemsTake : (items item more).Takes tokens right list)
    (rightKind : right.kind = .closeParen) :
    (parenthesized item more).Takes (left :: (tokens ++ [right])) after list :=
  takes_pass leftKind
    (itemsTake.bind (takes_pass rightKind (takes_finish list)))

end Lists

/-! ### Expressions between other tokens -/

section Expressions

variable {tokens rest : List Token} {after : Token} {expr : Expr}
  {list : List Expr}

/-- An expression is parsed in front of a token at which no layer goes on. -/
theorem takes_expression
    (parsed : Tier.selection.Parsed tokens expr)
    (ends : after.kind.suffixRank = 0) :
    expression.Takes tokens after expr := by
  refine takes_apply (parsed after ?_)
  rw [Tier.Ends, ends]
  decide

theorem takes_enclosed
    {leftKind rightKind : Token.Kind}
    {left right : Token}
    (leftSame : left.kind = leftKind)
    (parsed : Tier.selection.Parsed tokens expr)
    (rightSame : right.kind = rightKind)
    (ends : rightKind.suffixRank = 0) :
    (enclosed leftKind rightKind).Takes (left :: (tokens ++ [right]))
      after expr := by
  subst rightSame
  exact takes_pass leftSame
    ((takes_expression parsed ends).bind (takes_pass rfl (takes_finish expr)))

theorem takes_furtherElements_nil
    (ends : after.kind ≠ .comma) :
    furtherElements.Takes [] after [] := by
  refine takes_current ?_
  rw [lookahead_nil, if_neg ends]
  exact takes_finish []

theorem takes_furtherElements_cons
    {comma : Token}
    (commaKind : comma.kind = .comma)
    (parsed : Tier.selection.Parsed tokens expr)
    (ends : (lookahead rest after).kind.suffixRank = 0)
    (others : furtherElements.Takes rest after list) :
    furtherElements.Takes (comma :: (tokens ++ rest)) after (expr :: list) := by
  refine takes_current ?_
  rw [lookahead_cons, if_pos commaKind]
  refine takes_skip ?_
  exact (takes_expression parsed ends).bind (takes_apply others).last

theorem takes_elements
    {left right : Token}
    (leftKind : left.kind = .openBracket)
    (parsed : Tier.selection.Parsed tokens expr)
    (ends : (lookahead rest right).kind.suffixRank = 0)
    (others : furtherElements.Takes rest right list)
    (rightKind : right.kind = .closeBracket) :
    elements.Takes (left :: (tokens ++ (rest ++ [right]))) after
      (expr :: list) := by
  refine takes_pass leftKind (Takes.bind (takes_expression parsed ?_) ?_)
  · rw [lookahead_append]
    exact ends
  · exact (takes_apply others).bind
      (takes_pass rightKind (takes_finish (expr :: list)))

theorem takes_range
    {left colon secondColon right : Token}
    {originTokens lastTokens : List Token}
    {first origin last : Expr}
    (leftKind : left.kind = .openCurly)
    (firstParsed : Tier.selection.Parsed tokens first)
    (colonKind : colon.kind = .colon)
    (originParsed : Tier.selection.Parsed originTokens origin)
    (secondColonKind : secondColon.kind = .colon)
    (lastParsed : Tier.selection.Parsed lastTokens last)
    (rightKind : right.kind = .closeCurly) :
    range.Takes
      (left :: (tokens ++ colon ::
        (originTokens ++ secondColon :: (lastTokens ++ [right]))))
      after (first, origin, last) := by
  refine takes_pass leftKind (Takes.bind (takes_expression firstParsed ?_) ?_)
  · rw [lookahead_cons, colonKind]
    rfl
  refine takes_pass colonKind (Takes.bind (takes_expression originParsed ?_) ?_)
  · rw [lookahead_cons, secondColonKind]
    rfl
  refine takes_pass secondColonKind
    (Takes.bind (takes_expression lastParsed ?_) ?_)
  · rw [lookahead_cons, rightKind]
    rfl
  exact takes_pass rightKind (takes_finish (first, origin, last))

end Expressions

/-! ### Atoms -/

section Atoms

variable {token after : Token} {tokens : List Token} {expr : Expr}
  {list : List Expr}

/-- A literal with a value takes its token. -/
theorem takes_literal
    {α β : Type}
    {value? : Option α}
    {value : α}
    {make : α -> β}
    (found : value? = some value) :
    ((literal value?).bind fun value => .finish (make value)).Takes
      [token] after
      (make value) := by
  subst found
  change (skip.bind fun _ => .finish (make value)).Takes [token] after
    (make value)
  exact takes_skip (takes_finish (make value))

theorem takes_int
    {value : Int32}
    (kind : token.kind = .intLiteral)
    (read : Numeral.int32? token.spelling = some value) :
    atom.Takes [token] after (.int token.position value) := by
  refine takes_current ?_
  rw [lookahead_cons, kind]
  exact takes_literal read

theorem takes_float
    {value : Single}
    (kind : token.kind = .floatLiteral)
    (read : Single.ofLiteral? token.spelling = some value) :
    atom.Takes [token] after (.float token.position value) := by
  refine takes_current ?_
  rw [lookahead_cons, kind]
  exact takes_literal read

theorem takes_bool
    (kind : token.kind = .boolLiteral) :
    atom.Takes [token] after
      (.bool token.position (token.spelling == "true")) := by
  refine takes_current ?_
  rw [lookahead_cons, kind]
  exact takes_skip (takes_finish _)

theorem takes_string
    (kind : token.kind = .stringLiteral) :
    atom.Takes [token] after (.string token.position token.spelling) := by
  refine takes_current ?_
  rw [lookahead_cons, kind]
  exact takes_skip (takes_finish _)

theorem takes_reference
    (kind : token.kind = .identifier)
    (ends : after.kind ≠ .openParen) :
    atom.Takes [token] after (.reference token.position token.spelling) := by
  refine takes_current ?_
  rw [lookahead_cons, kind]
  refine takes_skip (takes_current ?_)
  rw [lookahead_nil, if_neg ends]
  exact takes_finish _

theorem takes_call
    {left right : Token}
    (nameKind : token.kind = .identifier)
    (leftKind : left.kind = .openParen)
    (itemsTake : (items expression (apply .arguments)).Takes tokens right list)
    (rightKind : right.kind = .closeParen) :
    atom.Takes (token :: left :: (tokens ++ [right])) after
      (.call token.position token.spelling list) := by
  refine takes_current ?_
  rw [lookahead_cons, nameKind]
  refine takes_skip (takes_current ?_)
  rw [lookahead_cons, if_pos leftKind]
  have takes : arguments.Takes (left :: (tokens ++ [right])) after list :=
    takes_parenthesized leftKind itemsTake rightKind
  exact takes.last

theorem takes_parenthesizedAtom
    (opens : (lookahead tokens after).kind = .openParen)
    (takes : (enclosed .openParen .closeParen).Takes tokens after expr) :
    atom.Takes tokens after expr := by
  refine takes_current ?_
  rw [opens]
  exact takes

theorem takes_aggregate
    (opens : (lookahead tokens after).kind = .openBracket)
    (start : (lookahead tokens after).position = startOf tokens)
    (takes : elements.Takes tokens after list) :
    atom.Takes tokens after (.aggregate (startOf tokens) list) := by
  refine takes_current ?_
  rw [opens, start]
  exact takes.last

theorem takes_record
    {name : Token}
    (signKind : token.kind = .atSign)
    (nameKind : name.kind = .identifier)
    (takes : elements.Takes tokens after list) :
    atom.Takes (token :: name :: tokens) after
      (.record token.position name.spelling list) := by
  refine takes_current ?_
  rw [lookahead_cons, signKind]
  exact takes_skip (takes_expect nameKind takes.last)

end Atoms

/-! ### Layers -/

section Layers

variable {token after : Token} {tokens rest : List Token} {expr : Expr}

/--
A layer that adds nothing to a tighter one ends where nothing of its own
follows.
-/
theorem parsed_bare
    {outer inner : Tier}
    (below : outer.bare? = some inner)
    (heads : ∀ after, inner.rank ≤ (lookahead tokens after).kind.headRank)
    (parsed : inner.Parsed tokens expr) :
    outer.Parsed tokens expr := by
  intro after ends
  have inside :=
    parsed after (ends.tighter (Nat.le_of_lt (Tier.rank_lt_of_bare? below)))
  have notHead {kind : Token.Kind} (low : kind.headRank < inner.rank) :
      (lookahead tokens after).kind ≠ kind := by
    intro same
    have high := heads after
    rw [same] at high
    omega
  cases outer <;> cases below
  · refine takes_here (inside.alone (takes_current ?_))
    rw [lookahead_nil, if_neg (ends.ne (by decide))]
    exact takes_finish expr
  · refine takes_current ?_
    rw [if_neg (notHead (by decide))]
    exact inside
  · refine takes_current ?_
    rw [if_neg (notHead (by decide))]
    exact inside
  · refine takes_here (inside.alone (takes_current ?_))
    rw [lookahead_nil, if_neg (ends.ne (by decide))]
    exact takes_finish expr
  · refine takes_here (inside.alone (takes_current ?_))
    rw [lookahead_nil, dimension?_eq_none ends]
    exact takes_finish expr
  · refine takes_here (inside.alone (takes_current ?_))
    rw [lookahead_nil, if_neg (ends.ne (by decide))]
    exact takes_finish expr
  · refine takes_here (inside.alone (takes_current ?_))
    rw [lookahead_nil, if_neg (ends.ne (by decide))]
    exact takes_finish expr

theorem parsed_field
    {sign name : Token}
    (nonempty : tokens ≠ [])
    (parsed : Tier.atom.Parsed tokens expr)
    (signKind : sign.kind = .atSign)
    (nameKind : name.kind = .identifier) :
    Tier.fieldSelection.Parsed (tokens ++ [sign, name])
      (.field (startOf tokens) expr name.spelling) := by
  intro after ends
  refine takes_here (Takes.bind (parsed sign ?_) (takes_current ?_))
  · rw [Tier.Ends, signKind]
    decide
  · rw [lookahead_cons, if_pos signKind, lookahead_append,
      position_lookahead nonempty]
    exact takes_skip (takes_expect nameKind (takes_finish _))

theorem takes_indices_nil
    (ends : after.kind ≠ .openBracket) :
    indices.Takes [] after [] := by
  refine takes_current ?_
  rw [lookahead_nil, if_neg ends]
  exact takes_finish []

theorem takes_indices_cons
    {index : Expr}
    {list : List Expr}
    (opens : (lookahead tokens (lookahead rest after)).kind = .openBracket)
    (first : (enclosed .openBracket .closeBracket).Takes tokens
      (lookahead rest after) index)
    (others : indices.Takes rest after list) :
    indices.Takes (tokens ++ rest) after (index :: list) := by
  refine takes_current ?_
  rw [lookahead_append, if_pos opens]
  exact first.bind (takes_apply others).last

theorem parsed_element
    {list : List Expr}
    (nonempty : tokens ≠ [])
    (parsed : Tier.fieldSelection.Parsed tokens expr)
    (between : ∀ after, Tier.elementSelection.Ends after.kind ->
      Tier.fieldSelection.Ends (lookahead rest after).kind)
    (others : ∀ after,
      Tier.elementSelection.Ends after.kind -> indices.Takes rest after list) :
    Tier.elementSelection.Parsed (tokens ++ rest)
      (list.foldl (.element (startOf tokens)) expr) := by
  intro after ends
  refine takes_here ((parsed _ (between after ends)).bind ?_)
  rw [lookahead_append, position_lookahead nonempty]
  exact (takes_apply (others after ends)).last

theorem parsed_subvector
    {first origin last : Expr}
    (nonempty : tokens ≠ [])
    (parsed : Tier.elementSelection.Parsed tokens expr)
    (opens : ∀ after, (lookahead rest after).kind = .openCurly)
    (part : ∀ after, range.Takes rest after (first, origin, last)) :
    Tier.subrange.Parsed (tokens ++ rest)
      (.subvector (startOf tokens) expr first origin last) := by
  intro after ends
  refine takes_here (Takes.bind (parsed _ ?_) (takes_current ?_))
  · rw [Tier.Ends, opens after]
    decide
  · rw [if_pos (opens after), lookahead_append, position_lookahead nonempty]
    refine (part after).alone (takes_current ?_)
    rw [lookahead_nil, if_neg (ends.ne (by decide))]
    exact takes_finish _

theorem parsed_submatrix
    {columns : List Token}
    {first origin last firstColumn originColumn lastColumn : Expr}
    (nonempty : tokens ≠ [])
    (parsed : Tier.elementSelection.Parsed tokens expr)
    (opens : ∀ after, (lookahead rest after).kind = .openCurly)
    (part : ∀ after, range.Takes rest after (first, origin, last))
    (columnsOpen : ∀ after, (lookahead columns after).kind = .openCurly)
    (columnPart : ∀ after,
      range.Takes columns after (firstColumn, originColumn, lastColumn)) :
    Tier.subrange.Parsed (tokens ++ (rest ++ columns))
      (.submatrix (startOf tokens) expr first origin last
        firstColumn originColumn lastColumn) := by
  intro after ends
  refine takes_here (Takes.bind (parsed _ ?_) (takes_current ?_))
  · rw [Tier.Ends, lookahead_append, opens]
    decide
  · rw [lookahead_append rest, if_pos (opens _), lookahead_append,
      position_lookahead nonempty]
    refine (part _).bind (takes_current ?_)
    rw [if_pos (columnsOpen after)]
    exact (columnPart after).last

theorem parser_tier
    (level : Level) :
    level.tier.parser = chain level (operand level) := by
  cases level <;> rfl

theorem parser_operandTier
    (level : Level) :
    level.operandTier.parser = operand level := by
  cases level <;> rfl

theorem takes_operands_nil
    {level : Level}
    (ends : level.tier.Ends after.kind) :
    (operands level).Takes [] after [] := by
  refine takes_current ?_
  rw [lookahead_nil, Level.operator?_eq_none ends]
  exact takes_finish []

theorem takes_operands_cons
    {level : Level}
    {operator : BinaryOp}
    {pairs : List (BinaryOp × Expr)}
    (found : level.operator? token.kind = some operator)
    (right : level.operandTier.parser.Takes tokens (lookahead rest after) expr)
    (others : (operands level).Takes rest after pairs) :
    (operands level).Takes (token :: (tokens ++ rest)) after
      ((operator, expr) :: pairs) := by
  refine takes_current ?_
  rw [lookahead_cons, found]
  rw [parser_operandTier] at right
  exact takes_skip (right.bind (takes_apply others).last)

/--
Behind an operand stands an operator of its level or a token at which the level
ends.
-/
theorem ends_of_operands
    {level : Level}
    (heads : (Phrase.operands level).Heads rest after)
    (ends : level.tier.Ends after.kind) :
    level.operandTier.Ends (lookahead rest after).kind := by
  have tighter := level.rank_tier_lt
  rcases heads with same | rank
  · rw [same]
    exact ends.tighter (Nat.le_of_lt tighter)
  · rw [Tier.Ends, rank]
    exact tighter

theorem parsed_chain
    {level : Level}
    {pairs : List (BinaryOp × Expr)}
    (nonempty : tokens ≠ [])
    (parsed : level.operandTier.Parsed tokens expr)
    (heads : ∀ after, (Phrase.operands level).Heads rest after)
    (others : ∀ after,
      level.tier.Ends after.kind -> (operands level).Takes rest after pairs) :
    level.tier.Parsed (tokens ++ rest)
      (pairs.foldl (fun left pair =>
        .binary (startOf tokens) pair.1 left pair.2) expr) := by
  intro after ends
  have first := parsed _ (ends_of_operands (heads after) ends)
  rw [parser_operandTier] at first
  rw [parser_tier]
  refine takes_here (first.bind ?_)
  rw [lookahead_append, position_lookahead nonempty]
  exact (takes_apply (others after ends)).last

theorem parsed_dimension
    {operator : UnaryOp}
    (nonempty : tokens ≠ [])
    (parsed : Tier.dotProduct.Parsed tokens expr)
    (asked : dimension? token.kind = some operator) :
    Tier.dimension.Parsed (tokens ++ [token])
      (.unary (startOf tokens) operator expr) := by
  intro after ends
  refine takes_here (Takes.bind (parsed token ?_) (takes_current ?_))
  · rw [Tier.Ends, suffixRank_of_dimension? asked]
    decide
  · rw [lookahead_cons, asked, lookahead_append, position_lookahead nonempty]
    exact takes_skip (takes_finish _)

theorem parsed_power
    {exponent : Expr}
    (nonempty : tokens ≠ [])
    (parsed : Tier.dimension.Parsed tokens expr)
    (signKind : token.kind = .caret)
    (exponentParsed : Tier.power.Parsed rest exponent) :
    Tier.power.Parsed (tokens ++ token :: rest)
      (.binary (startOf tokens) .power expr exponent) := by
  intro after ends
  refine takes_here (Takes.bind (parsed token ?_) (takes_current ?_))
  · rw [Tier.Ends, signKind]
    decide
  · rw [lookahead_cons, if_pos signKind, lookahead_append,
      position_lookahead nonempty]
    exact takes_skip (takes_apply (exponentParsed after ends)).last

theorem parsed_negate
    (signKind : token.kind = .dash)
    (parsed : Tier.power.Parsed tokens expr) :
    Tier.minus.Parsed (token :: tokens)
      (.unary token.position .negate expr) := by
  intro after ends
  refine takes_current ?_
  rw [lookahead_cons, if_pos signKind]
  exact takes_skip (parsed after (ends.tighter (by decide))).last

theorem parsed_not
    (signKind : token.kind = .not)
    (parsed : Tier.comparison.Parsed tokens expr) :
    Tier.negation.Parsed (token :: tokens)
      (.unary token.position .not expr) := by
  intro after ends
  refine takes_current ?_
  rw [lookahead_cons, if_pos signKind]
  exact takes_skip (parsed after (ends.tighter (by decide))).last

theorem parsed_select
    {question colon : Token}
    {trueTokens falseTokens : List Token}
    {onTrue onFalse : Expr}
    (nonempty : tokens ≠ [])
    (parsed : Tier.disjunction.Parsed tokens expr)
    (questionKind : question.kind = .question)
    (trueParsed : Tier.disjunction.Parsed trueTokens onTrue)
    (colonKind : colon.kind = .colon)
    (falseParsed : Tier.disjunction.Parsed falseTokens onFalse) :
    Tier.selection.Parsed
        (tokens ++ question :: (trueTokens ++ colon :: falseTokens))
      (.select (startOf tokens) expr onTrue onFalse) := by
  intro after ends
  refine takes_here (Takes.bind (parsed question ?_) (takes_current ?_))
  · rw [Tier.Ends, questionKind]
    decide
  rw [lookahead_cons, if_pos questionKind, lookahead_append,
    position_lookahead nonempty]
  refine takes_skip (Takes.bind (trueParsed colon ?_) ?_)
  · rw [Tier.Ends, colonKind]
    decide
  exact takes_pass colonKind (falseParsed after (ends.tighter (by decide))).last

end Layers

end Grammar

/-! ## Completeness -/

/-- A part of an expression is parsed wherever it may end behind its tokens. -/
def Phrase.Complete : (phrase : Phrase) -> List Token -> phrase.Tree -> Prop
  | .tier layer, tokens, expr => layer.Parsed tokens expr
  | .enclosed left right, tokens, expr =>
      right.suffixRank = 0 ->
        ∀ after, (Grammar.enclosed left right).Takes tokens after expr
  | .operands level, tokens, pairs =>
      ∀ after, level.tier.Ends after.kind ->
        (Grammar.operands level).Takes tokens after pairs
  | .indices, tokens, list =>
      ∀ after,
        after.kind ≠ .openBracket -> Grammar.indices.Takes tokens after list
  | .further, tokens, list =>
      (∀ after, after.kind = .closeParen ->
          Grammar.furtherArguments.Takes tokens after list) ∧
        ∀ after, after.kind = .closeBracket ->
          Grammar.furtherElements.Takes tokens after list
  | .arguments, tokens, list =>
      ∀ after, after.kind = .closeParen ->
        (Grammar.items Grammar.expression (.apply .arguments)).Takes
          tokens after list
  | .elements, tokens, list => ∀ after, Grammar.elements.Takes tokens after list
  | .range, tokens, parts => ∀ after, Grammar.range.Takes tokens after parts

/-- No layer goes on where a list of expressions goes on or is closed. -/
theorem Phrase.suffixRank_of_further
    {rest : List Token}
    {after : Token}
    (heads : Phrase.further.Heads rest after)
    (ends : after.kind.suffixRank = 0) :
    (lookahead rest after).kind.suffixRank = 0 := by
  rcases heads with same | comma
  · rw [same]
    exact ends
  · rw [comma]
    rfl

open Grammar in
/-- Whatever can be read from tokens is parsed from them. -/
theorem Phrase.Reads.complete
    {phrase : Phrase}
    {tokens : List Token}
    {tree : phrase.Tree}
    (reads : phrase.Reads tokens tree) :
    phrase.Complete tokens tree := by
  induction reads with
  | int kind read => exact fun after _ => takes_int kind read
  | float kind read => exact fun after _ => takes_float kind read
  | bool kind => exact fun after _ => takes_bool kind
  | string kind => exact fun after _ => takes_string kind
  | reference kind =>
      exact fun after ends => takes_reference kind (ends.ne (by decide))
  | call nameKind leftKind _ rightKind arguments =>
      exact fun after _ =>
        takes_call nameKind leftKind (arguments _ rightKind) rightKind
  | parenthesized enclosedReads enclosed =>
      exact fun after _ =>
        takes_parenthesizedAtom (enclosedReads.heads after) (enclosed rfl after)
  | aggregate elementsRead elements =>
      exact fun after _ => takes_aggregate (elementsRead.heads after)
        (position_lookahead (elementsRead.ne_nil rfl) after) (elements after)
  | record signKind nameKind _ elements =>
      exact fun after _ => takes_record signKind nameKind (elements after)
  | bare below read parsed => exact parsed_bare below read.heads parsed
  | field read signKind nameKind parsed =>
      exact parsed_field (read.ne_nil rfl) parsed signKind nameKind
  | element read indicesRead parsed indices =>
      refine parsed_element (read.ne_nil rfl) parsed ?_ ?_
      · intro after ends
        rcases indicesRead.heads after with same | bracket
        · rw [same]
          exact ends.tighter (by decide)
        · rw [Tier.Ends, bracket]
          decide
      · exact fun after ends => indices after (ends.ne (by decide))
  | subvector read rangeRead parsed range =>
      exact parsed_subvector (read.ne_nil rfl) parsed rangeRead.heads range
  | submatrix read rowsRead columnsRead parsed rows columns =>
      exact parsed_submatrix (read.ne_nil rfl) parsed rowsRead.heads rows
        columnsRead.heads columns
  | chain read operandsRead parsed operands =>
      exact parsed_chain (read.ne_nil rfl) parsed operandsRead.heads operands
  | dimension read asked parsed =>
      exact parsed_dimension (read.ne_nil rfl) parsed asked
  | power read signKind _ parsed exponentParsed =>
      exact parsed_power (read.ne_nil rfl) parsed signKind exponentParsed
  | negate signKind _ parsed => exact parsed_negate signKind parsed
  | not signKind _ parsed => exact parsed_not signKind parsed
  | select read questionKind _ colonKind _ parsed trueParsed falseParsed =>
      exact parsed_select (read.ne_nil rfl) parsed questionKind trueParsed
        colonKind falseParsed
  | enclosed leftSame _ rightSame parsed =>
      exact fun ends after => takes_enclosed leftSame parsed rightSame ends
  | noOperands => exact fun after ends => takes_operands_nil ends
  | operand found _ operandsRead right others =>
      exact fun after ends => takes_operands_cons found
        (right _ (ends_of_operands (operandsRead.heads after) ends))
          (others after ends)
  | noIndices => exact fun after ends => takes_indices_nil ends
  | index enclosedReads indicesRead enclosed others =>
      exact fun after ends =>
          takes_indices_cons (enclosedReads.heads _) (enclosed rfl _)
        (others after ends)
  | nothingFurther =>
      refine ⟨fun after closing => takes_furtherItems_nil closing,
        fun after closing => ?_⟩
      exact takes_furtherElements_nil (by rw [closing]; decide)
  | further commaKind _ othersRead parsed others =>
      constructor
      · intro after closing
        have ends : after.kind.suffixRank = 0 := by rw [closing]; rfl
        exact takes_furtherItems_cons commaKind
          (takes_expression parsed
            (suffixRank_of_further (othersRead.heads after) ends))
          (Parser.takes_apply (others.1 after closing))
      · intro after closing
        have ends : after.kind.suffixRank = 0 := by rw [closing]; rfl
        exact takes_furtherElements_cons commaKind parsed
          (suffixRank_of_further (othersRead.heads after) ends)
            (others.2 after closing)
  | noArguments => exact fun after closing => takes_items_nil closing
  | @arguments _ rest _ _ read othersRead parsed others =>
      intro after closing
      have ends : after.kind.suffixRank = 0 := by rw [closing]; rfl
      refine takes_items_cons ?_
        (takes_expression parsed
          (suffixRank_of_further (othersRead.heads after) ends))
        (Parser.takes_apply (others.1 after closing))
      intro same
      have high := read.heads (lookahead rest after)
      simp only [Heads, same] at high
      exact absurd high (by decide)
  | elements leftKind _ othersRead rightKind parsed others =>
      intro after
      refine takes_elements leftKind parsed ?_ (others.2 _ rightKind) rightKind
      exact suffixRank_of_further (othersRead.heads _) (by rw [rightKind]; rfl)
  | range leftKind _ colonKind _ secondColonKind _ rightKind first origin
      last =>
      exact fun after => takes_range leftKind first colonKind origin
        secondColonKind last rightKind

end MatrixLang
