import MatrixLang.Numeral.Single
import MatrixLang.Syntax.Level
import MatrixLang.Token.Basic

/-!
# The grammar in extended Backus-Naur form

A form describes words over token kinds.  It is built from single kinds and
nonterminals by sequence, choice and repetition, and `Form.Derives` says which
words it describes.  Only nonterminals that occur below themselves are symbols:
the layers of expressions and the statement.  Every other production of the
grammar is a form under its own name.

The grammar is ambiguous in one point only, the place of an `else` behind nested
conditionals; it says nothing about trees.
-/

namespace MatrixLang

/-- The layers of expressions, the loosest first. -/
inductive Tier
  | selection
  | disjunction
  | conjunction
  | negation
  | comparison
  | additive
  | multiplicative
  | minus
  | power
  | dimension
  | dotProduct
  | matrixProduct
  | subrange
  | elementSelection
  | fieldSelection
  | atom
deriving DecidableEq

/-- The next tighter layer. -/
def Tier.tighter : Tier -> Tier
  | .selection => .disjunction
  | .disjunction => .conjunction
  | .conjunction => .negation
  | .negation => .comparison
  | .comparison => .additive
  | .additive => .multiplicative
  | .multiplicative => .minus
  | .minus => .power
  | .power => .dimension
  | .dimension => .dotProduct
  | .dotProduct => .matrixProduct
  | .matrixProduct => .subrange
  | .subrange => .elementSelection
  | .elementSelection => .fieldSelection
  | .fieldSelection => .atom
  | .atom => .atom

/-- The layer in which the operators of a level stand. -/
def Level.tier : Level -> Tier
  | .disjunction => .disjunction
  | .conjunction => .conjunction
  | .comparison => .comparison
  | .additive => .additive
  | .multiplicative => .multiplicative
  | .dotProduct => .dotProduct
  | .matrixProduct => .matrixProduct

/-- The layer of the operands of a level. -/
def Level.operandTier : Level -> Tier
  | .disjunction => .conjunction
  | .conjunction => .negation
  | .comparison => .additive
  | .additive => .multiplicative
  | .multiplicative => .minus
  | .dotProduct => .matrixProduct
  | .matrixProduct => .subrange

/-- The recursive nonterminals of the grammar. -/
inductive Symbol
  | tier (tier : Tier)
  | statement
deriving DecidableEq

/-- A description of words over token kinds. -/
inductive Form
  | empty
  | kind (kind : Token.Kind)
  | symbol (symbol : Symbol)
  | seq (first second : Form)
  | choice (first second : Form)
  /-- Any number of words of a form, one behind the other. -/
  | many (form : Form)

namespace Form

/-- Several forms, one behind the other. -/
def sequence : List Form -> Form
  | [] => .empty
  | form :: rest => .seq form (sequence rest)

/-- One of several forms. -/
def oneOf (first : Form) : List Form -> Form
  | [] => first
  | next :: rest => .choice first (oneOf next rest)

/-- A form or nothing. -/
def optional (form : Form) : Form :=
  .choice form .empty

/-! ## Expressions -/

/-- An expression of one layer. -/
def tier (tier : Tier) : Form :=
  .symbol (.tier tier)

/-- An expression of any form. -/
def expression : Form :=
  tier .selection

/-- An expression between two kinds. -/
def enclosed (left right : Token.Kind) : Form :=
  sequence [.kind left, expression, .kind right]

/-- Any number of items, each behind a comma. -/
def further (item : Form) : Form :=
  .many (sequence [.kind .comma, item])

/--
Items between parentheses with commas between them, of which there may be none.
-/
def parenthesized (item : Form) : Form :=
  sequence [.kind .openParen, optional (sequence [item, further item]),
    .kind .closeParen]

/-- The arguments of a call. -/
def call : Form :=
  parenthesized expression

/-- The elements of an aggregate; there is at least one. -/
def elements : Form :=
  sequence [.kind .openBracket, expression, further expression,
    .kind .closeBracket]

/-- The three parts of a range. -/
def range : Form :=
  sequence [.kind .openCurly, expression, .kind .colon, expression,
    .kind .colon, expression, .kind .closeCurly]

/-- The operators of a level. -/
def operator : Level -> Form
  | .disjunction => .kind .or
  | .conjunction => .kind .and
  | .comparison =>
      oneOf (.kind .greater)
        [.kind .less, .kind .lessEquals, .kind .greaterEquals, .kind .equals,
          .kind .notEquals]
  | .additive => oneOf (.kind .plus) [.kind .dash]
  | .multiplicative => oneOf (.kind .star) [.kind .slash]
  | .dotProduct => .kind .dotProduct
  | .matrixProduct => .kind .hash

/-- Any number of operators of a level, each with its right operand. -/
def operands (level : Level) : Form :=
  .many (sequence [operator level, tier level.operandTier])

/-- Operands of a level with operators between them. -/
def chain (level : Level) : Form :=
  sequence [tier level.operandTier, operands level]

/-- Any number of indices in brackets. -/
def indices : Form :=
  .many (enclosed .openBracket .closeBracket)

/-- What stands behind an operand and asks for its dimension. -/
def dimension : Form :=
  oneOf (.kind .xDimension) [.kind .yDimension, .kind .dimension]

/--
A literal, name, call, aggregate or record, or any expression in parentheses.
-/
def atom : Form :=
  oneOf (.kind .intLiteral)
    [.kind .floatLiteral, .kind .boolLiteral, .kind .stringLiteral,
      sequence [.kind .identifier, optional call],
      enclosed .openParen .closeParen,
      sequence [.kind .atSign, .kind .identifier, elements],
      elements]

end Form

/-- The production of a layer of expressions. -/
def Tier.form : Tier -> Form
  | .selection =>
      .sequence [.tier .disjunction,
        .optional (.sequence
          [.kind .question, .tier .disjunction, .kind .colon,
            .tier .disjunction])]
  | .disjunction => .chain .disjunction
  | .conjunction => .chain .conjunction
  | .negation => .sequence [.optional (.kind .not), .tier .comparison]
  | .comparison => .chain .comparison
  | .additive => .chain .additive
  | .multiplicative => .chain .multiplicative
  | .minus => .sequence [.optional (.kind .dash), .tier .power]
  | .power =>
      .sequence [.tier .dimension,
        .optional (.sequence [.kind .caret, .tier .power])]
  | .dimension => .sequence [.tier .dotProduct, .optional .dimension]
  | .dotProduct => .chain .dotProduct
  | .matrixProduct => .chain .matrixProduct
  | .subrange =>
      .sequence [.tier .elementSelection,
        .optional (.sequence [.range, .optional .range])]
  | .elementSelection => .sequence [.tier .fieldSelection, .indices]
  | .fieldSelection =>
      .sequence [.tier .atom,
        .optional (.sequence [.kind .atSign, .kind .identifier])]
  | .atom => .atom

namespace Form

/-! ## Types -/

/-- The type of the elements of a vector or matrix, between angle brackets. -/
def elementType : Form :=
  sequence [.kind .less, oneOf (.kind .intWord) [.kind .floatWord],
    .kind .greater]

/-- A size, between brackets. -/
def size : Form :=
  enclosed .openBracket .closeBracket

/-- A type. -/
def type : Form :=
  oneOf (.kind .intWord)
    [.kind .floatWord, .kind .boolWord, .kind .voidWord, .kind .stringWord,
      .kind .identifier, sequence [.kind .vectorWord, elementType, size],
      sequence [.kind .matrixWord, elementType, size, size]]

/-- A typed name that is fixed or may change. -/
def binding : Form :=
  sequence [oneOf (.kind .valWord) [.kind .varWord], type, .kind .identifier]

/-! ## Statements -/

/-- A statement of any form. -/
def statement : Form :=
  .symbol .statement

/-- The definition of a fixed value. -/
def define : Form :=
  sequence [.kind .valWord, type, .kind .identifier, .kind .assignment,
    expression, .kind .semicolon]

/-- The declaration of a variable. -/
def declare : Form :=
  sequence [.kind .varWord, type, .kind .identifier, .kind .semicolon]

/-- The end of a function with its result. -/
def returnValue : Form :=
  sequence [.kind .returnWord, expression, .kind .semicolon]

/-- What an assignment changes, behind its name. -/
def selector : Form :=
  optional (oneOf
    (sequence [enclosed .openBracket .closeBracket,
      optional (enclosed .openBracket .closeBracket)])
    [sequence [.kind .atSign, .kind .identifier]])

/-- An assignment behind the name of its target. -/
def assign : Form :=
  sequence [selector, .kind .assignment, expression]

/-- A call or an assignment. -/
def assignOrCall : Form :=
  sequence [.kind .identifier, oneOf call [assign], .kind .semicolon]

/-- A loop with a start, a condition and a step. -/
def forLoop : Form :=
  sequence [.kind .forWord, .kind .openParen, .kind .identifier,
    .kind .assignment, expression, .kind .semicolon, expression,
    .kind .semicolon, .kind .identifier, .kind .assignment, expression,
    .kind .closeParen, statement]

/-- A loop over the elements of a value. -/
def foreachLoop : Form :=
  sequence [.kind .foreachWord, .kind .openParen, binding, .kind .colon,
    expression, .kind .closeParen, statement]

/-- A conditional with or without an `else`. -/
def conditional : Form :=
  sequence [.kind .ifWord, enclosed .openParen .closeParen, statement,
    optional (sequence [.kind .elseWord, statement])]

/-- A case of a switch. -/
def case : Form :=
  sequence [.kind .caseWord, expression, .kind .colon, statement]

/-- The default of a switch. -/
def otherwise : Form :=
  sequence [.kind .defaultWord, .kind .colon, statement]

/--
The clauses of a switch: any number of cases, with at most one default among
them.
-/
def clauses : Form :=
  sequence [.many case, optional (sequence [otherwise, .many case])]

/-- A switch. -/
def switch : Form :=
  sequence [.kind .switchWord, enclosed .openParen .closeParen,
    .kind .openCurly, clauses, .kind .closeCurly]

/-- Statements between braces. -/
def block : Form :=
  sequence [.kind .openCurly, .many statement, .kind .closeCurly]

/-! ## Declarations -/

/-- A parameter of a function. -/
def parameter : Form :=
  sequence [type, .kind .identifier]

/-- A function. -/
def function : Form :=
  sequence [.kind .functionWord, type, .kind .identifier,
    parenthesized parameter, block]

/-- An element of a record type. -/
def recordElement : Form :=
  sequence [binding, .kind .semicolon]

/-- A record type, which has at least one element. -/
def record : Form :=
  sequence [.kind .recordWord, .kind .identifier, .kind .openCurly,
    recordElement, .many recordElement, .kind .closeCurly]

/-- A module; the end of the file behind it is no part of its word. -/
def module : Form :=
  .many (oneOf function [record])

end Form

/-- The production of a recursive nonterminal. -/
def Symbol.form : Symbol -> Form
  | .tier layer => layer.form
  | .statement =>
      .oneOf .define
        [.declare, .returnValue, .assignOrCall, .forLoop, .foreachLoop,
          .conditional, .switch, .block]

namespace Form

/-- The words that a form describes. -/
inductive Derives : Form -> List Token.Kind -> Prop
  | empty : Derives .empty []
  | kind (kind : Token.Kind) : Derives (.kind kind) [kind]
  | symbol
      {symbol : Symbol}
      {word : List Token.Kind}
      (production : Derives symbol.form word) :
      Derives (.symbol symbol) word
  | seq
      {first second : Form}
      {front back : List Token.Kind}
      (frontDerived : Derives first front)
      (backDerived : Derives second back) :
      Derives (.seq first second) (front ++ back)
  | left
      {first second : Form}
      {word : List Token.Kind}
      (derived : Derives first word) :
      Derives (.choice first second) word
  | right
      {first second : Form}
      {word : List Token.Kind}
      (derived : Derives second word) :
      Derives (.choice first second) word
  | none {form : Form} : Derives (.many form) []
  | more
      {form : Form}
      {front back : List Token.Kind}
      (frontDerived : Derives form front)
      (backDerived : Derives (.many form) back) :
      Derives (.many form) (front ++ back)

namespace Derives

variable {form first second : Form} {word front back : List Token.Kind}

/-- A word of one of several forms is a word of their choice. -/
theorem oneOf
    {forms : List Form}
    (member : form ∈ first :: forms)
    (derived : Derives form word) :
    Derives (.oneOf first forms) word := by
  induction forms generalizing first with
  | nil =>
      cases List.mem_singleton.1 member
      exact derived
  | cons next rest inductionHypothesis =>
      rcases List.mem_cons.1 member with rfl | later
      · exact .left derived
      · exact .right (inductionHypothesis later)

/-- Nothing more is needed behind a word. -/
theorem seq_empty
    (derived : Derives form word) :
    Derives (.seq form .empty) word := by
  have longer := Derives.seq derived .empty
  rwa [List.append_nil] at longer

/-- Nothing stands behind a word that nothing follows. -/
theorem of_seq_empty
    (derived : Derives (.seq form .empty) word) :
    Derives form word := by
  cases derived with
  | seq frontDerived backDerived =>
      cases backDerived
      rwa [List.append_nil]

theorem absent : Derives (.optional form) [] :=
  .right .empty

theorem present (derived : Derives form word) : Derives (.optional form) word :=
  .left derived

/-- What may follow a form may also be left out. -/
theorem alone
    (derived : Derives first word)
    (nullable : Derives second []) :
    Derives (.sequence [first, second]) word := by
  have derivation : Derives (.sequence [first, second]) (word ++ ([] ++ [])) :=
    .seq derived (.seq nullable .empty)
  simpa using derivation

/-- What may come before a form may also be left out. -/
theorem unprefixed
    (derived : Derives second word) :
    Derives (.sequence [.optional first, second]) word := by
  have derivation :
      Derives (.sequence [.optional first, second]) ([] ++ (word ++ [])) :=
    .seq absent (.seq derived .empty)
  simpa using derivation

/-- An expression of the next tighter layer is one of a layer. -/
theorem loosen
    {layer : Tier}
    (derived : Derives (.tier layer.tighter) word) :
    Derives (.tier layer) word := by
  cases layer with
  | selection | power | dimension | subrange | fieldSelection =>
      exact .symbol (alone derived absent)
  | negation | minus => exact .symbol (unprefixed derived)
  | atom => exact derived
  | _ => exact .symbol (alone derived .none)

/-- An expression of a layer some steps tighter is one of a layer. -/
theorem loosenBy
    (count : Nat)
    {layer : Tier}
    (derived : Derives (.tier (Nat.repeat Tier.tighter count layer)) word) :
    Derives (.tier layer) word := by
  induction count generalizing layer with
  | zero => exact derived
  | succ count inductionHypothesis => exact inductionHypothesis (loosen derived)

/-- An atom is an expression of every layer. -/
theorem tier_of_atom
    (layer : Tier)
    (derived : Derives (.tier .atom) word) :
    Derives (.tier layer) word := by
  apply loosenBy 15
  cases layer <;> exact derived

/-- A name is an atom. -/
theorem name_atom : Derives .atom [.identifier] := by
  have alone :
      Derives (.sequence [.kind .identifier, .optional .call]) [.identifier] :=
    .alone (.kind .identifier) .absent
  exact alone.oneOf (by simp)

/-- A name is an expression of every layer. -/
theorem name (layer : Tier) : Derives (.tier layer) [.identifier] :=
  .tier_of_atom layer (.symbol name_atom)

/-- An integer is an expression of every layer. -/
theorem integer (layer : Tier) : Derives (.tier layer) [.intLiteral] :=
  .tier_of_atom layer (.symbol (.oneOf (by simp) (.kind .intLiteral)))

/--
Two operands of a level are an expression of it, with an operator between them.
-/
theorem binary
    (level : Level)
    {sign : Token.Kind}
    (left : Derives (.tier level.operandTier) front)
    (operator : Derives (.operator level) [sign])
    (right : Derives (.tier level.operandTier) back) :
    Derives (.tier level.tier) (front ++ sign :: back) := by
  have operand : Derives (.sequence [.operator level, .tier level.operandTier])
      (sign :: (back ++ [])) :=
    .seq operator (.seq right .empty)
  have chained : Derives (.chain level)
      (front ++ (sign :: (back ++ []) ++ [] ++ [])) :=
    .seq left (.seq (.more operand .none) .empty)
  simp only [List.append_nil] at chained
  cases level <;> exact .symbol chained

/-- An empty block is a statement. -/
theorem emptyBlock : Derives .statement [.openCurly, .closeCurly] := by
  have block : Derives .block [.openCurly, .closeCurly] :=
    .seq (.kind .openCurly) (.seq .none (.seq (.kind .closeCurly) .empty))
  exact .symbol (block.oneOf (by simp))

end Derives

/-- Every form describes some word. -/
theorem exists_derives (form : Form) : ∃ word, Derives form word := by
  induction form with
  | empty => exact ⟨[], .empty⟩
  | kind kind => exact ⟨[kind], .kind kind⟩
  | symbol symbol =>
      cases symbol with
      | tier layer => exact ⟨[.identifier], .name layer⟩
      | statement => exact ⟨[.openCurly, .closeCurly], .emptyBlock⟩
  | seq first second firstHypothesis secondHypothesis =>
      obtain ⟨front, frontDerived⟩ := firstHypothesis
      obtain ⟨back, backDerived⟩ := secondHypothesis
      exact ⟨front ++ back, .seq frontDerived backDerived⟩
  | choice first second firstHypothesis secondHypothesis =>
      obtain ⟨word, derived⟩ := firstHypothesis
      exact ⟨word, .left derived⟩
  | many form inductionHypothesis => exact ⟨[], .none⟩

/-- Some word of a form starts with a kind. -/
def Opens (form : Form) (kind : Token.Kind) : Prop :=
  ∃ word, form.Derives (kind :: word)

namespace Opens

variable {form : Form} {kind : Token.Kind}

theorem single (kind : Token.Kind) : Opens (.kind kind) kind :=
  ⟨[], .kind kind⟩

theorem symbol
    {symbol : Symbol}
    (opens : symbol.form.Opens kind) :
    Opens (.symbol symbol) kind :=
  opens.imp fun _ derived => .symbol derived

/-- A sequence starts as its first part does. -/
theorem seq
    {second : Form}
    (opens : form.Opens kind) :
    Opens (.seq form second) kind := by
  obtain ⟨word, derived⟩ := opens
  obtain ⟨rest, restDerived⟩ := second.exists_derives
  exact ⟨word ++ rest, .seq derived restDerived⟩

theorem oneOf
    {first : Form}
    {forms : List Form}
    (opens : form.Opens kind)
    (member : form ∈ first :: forms) :
    (Form.oneOf first forms).Opens kind :=
  opens.imp fun _ derived => derived.oneOf member

theorem many (opens : form.Opens kind) : Opens (.many form) kind := by
  obtain ⟨word, derived⟩ := opens
  refine ⟨word, ?_⟩
  have longer := Derives.more derived .none
  rwa [List.append_nil] at longer

end Opens
end Form
end MatrixLang
