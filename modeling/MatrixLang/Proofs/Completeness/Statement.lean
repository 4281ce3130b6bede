import MatrixLang.Proofs.Completeness.Expression
import MatrixLang.Proofs.Reading.Statement

/-!
# Types and statements that can be read are parsed

Behind a statement that ends in an open conditional no `else` may stand; every
other statement is parsed in front of any token: `Passage.Reads.complete`.
-/

namespace MatrixLang

open MatrixLang.Parser MatrixLang.Grammar

/-! ## Types -/

/-- A size between brackets is parsed in front of any token. -/
theorem Phrase.Reads.takes_enclosed
    {left right : Token.Kind}
    {tokens : List Token}
    {expr : Expr}
    (reads : (Phrase.enclosed left right).Reads tokens expr)
    (ends : right.suffixRank = 0)
    (after : Token) :
    (Grammar.enclosed left right).Takes tokens after expr :=
  reads.complete ends after

/-- An expression is parsed in front of any token at which no layer goes on. -/
theorem Phrase.Reads.takes_expression
    {tokens : List Token}
    {expr : Expr}
    {after : Token}
    {kind : Token.Kind}
    (reads : Phrase.expression.Reads tokens expr)
    (same : after.kind = kind)
    (ends : kind.suffixRank = 0) :
    Grammar.expression.Takes tokens after expr := by
  subst same
  exact Grammar.takes_expression reads.complete ends

theorem Scalar.Reads.takes
    {tokens : List Token}
    {element : Scalar}
    (reads : element.Reads tokens)
    (after : Token) :
    elementType.Takes tokens after element := by
  cases reads with
  | @intro less word greater _ lessKind found greaterKind =>
      have first (next : Token) : scalar.Takes [word] next element := by
        apply takes_current
        rcases Scalar.of_ofKind? found with ⟨kind, rfl⟩ | ⟨kind, rfl⟩
        · rw [lookahead_cons, kind]
          exact takes_skip (takes_finish _)
        · rw [lookahead_cons, kind]
          exact takes_skip (takes_finish _)
      apply takes_pass lessKind
      apply (first _).one
      exact takes_pass greaterKind (takes_finish element)

/-- A type is parsed in front of any token. -/
theorem Ty.Reads.takes
    {tokens : List Token}
    {ty : Ty}
    (reads : ty.Reads tokens)
    (after : Token) :
    type.Takes tokens after ty := by
  apply takes_current
  cases reads with
  | simple found =>
      rw [lookahead_cons]
      rcases Ty.of_ofKind? found with
          ⟨kind, rfl⟩ | ⟨kind, rfl⟩ | ⟨kind, rfl⟩ | ⟨kind, rfl⟩ |
        ⟨kind, rfl⟩
      all_goals
        rw [kind]
        exact takes_skip (takes_finish _)
  | record kind =>
      rw [lookahead_cons, kind]
      exact takes_skip (takes_finish _)
  | vector wordKind elementRead sizeRead =>
      rw [lookahead_cons, wordKind]
      apply takes_pass wordKind
      apply (elementRead.takes _).bind
      exact (sizeRead.takes_enclosed rfl after).last
  | matrix wordKind elementRead rowsRead columnsRead =>
      rw [lookahead_cons, wordKind]
      apply takes_pass wordKind
      apply (elementRead.takes _).bind
      apply (rowsRead.takes_enclosed rfl _).bind
      exact (columnsRead.takes_enclosed rfl after).last

theorem Binding.Reads.takes
    {tokens : List Token}
    {element : Binding}
    (reads : element.Reads tokens)
    (after : Token) :
    binding.Takes tokens after element := by
  cases reads with
  | @intro word name typeTokens mutable type found typeRead nameKind =>
      have first (next : Token) : mutability.Takes [word] next mutable := by
        apply takes_current
        rcases Binding.of_mutable? found with ⟨kind, rfl⟩ | ⟨kind, rfl⟩
        · rw [lookahead_cons, kind]
          exact takes_skip (takes_finish _)
        · rw [lookahead_cons, kind]
          exact takes_skip (takes_finish _)
      apply takes_here
      apply (first _).one
      apply (typeRead.takes name).bind
      exact takes_expect nameKind (takes_finish _)

/-! ## Statements -/

/-- What an assignment changes is parsed in front of its sign. -/
theorem Selector.Reads.takes
    {tokens : List Token}
    {target : Selector}
    {after : Token}
    (reads : target.Reads tokens)
    (assignment : after.kind = .assignment) :
    selector.Takes tokens after target := by
  apply takes_current
  cases reads with
  | whole =>
      rw [lookahead_nil, assignment]
      exact takes_finish _
  | index read =>
      have opens : (lookahead tokens after).kind = .openBracket :=
        read.heads after
      rw [opens]
      apply (read.takes_enclosed rfl after).alone
      apply takes_current
      rw [lookahead_nil, if_neg (by rw [assignment]; decide)]
      exact takes_finish _
  | @cell rowTokens columnTokens row column rowRead columnRead =>
      have opens : (lookahead rowTokens (lookahead columnTokens after)).kind =
          .openBracket :=
        rowRead.heads _
      have columnOpens : (lookahead columnTokens after).kind = .openBracket :=
        columnRead.heads after
      rw [lookahead_append, opens]
      apply (rowRead.takes_enclosed rfl _).bind
      apply takes_current
      rw [if_pos columnOpens]
      exact (columnRead.takes_enclosed rfl after).last
  | field signKind nameKind =>
      rw [lookahead_cons, signKind]
      exact takes_skip (takes_expect nameKind (takes_finish _))

/--
The tokens between the name of a target and the sign do not start with a
parenthesis.
-/
theorem Selector.Reads.start_ne
    {tokens : List Token}
    {target : Selector}
    {after : Token}
    (reads : target.Reads tokens)
    (assignment : after.kind = .assignment) :
    (lookahead tokens after).kind ≠ .openParen := by
  cases reads with
  | whole =>
      rw [lookahead_nil, assignment]
      decide
  | index read =>
      have opens : (lookahead tokens after).kind = .openBracket :=
        read.heads after
      rw [opens]
      decide
  | @cell rowTokens columnTokens _ _ rowRead _ =>
      have opens : (lookahead rowTokens (lookahead columnTokens after)).kind =
          .openBracket :=
        rowRead.heads _
      rw [lookahead_append, opens]
      decide
  | field signKind nameKind =>
      rw [lookahead_cons, signKind]
      decide

namespace Grammar

/-- A statement is parsed by the parser of its form. -/
theorem takes_statement
    {word after : Token}
    {tokens : List Token}
    {tree : Stmt}
    {kind : Token.Kind}
    {form : Parser Stmt}
    (start : word.kind = kind)
    (found : statementForm? kind = some form)
    (takes : form.Takes (word :: tokens) after tree) :
    statement.Takes (word :: tokens) after tree := by
  apply takes_current
  rw [lookahead_cons, start, found]
  exact takes

end Grammar

/-- A statement starts with one of the kinds that are expected of statements. -/
theorem Passage.Reads.start
    {tokens : List Token}
    {tree : Stmt}
    (reads : Passage.statement.Reads tokens tree)
    (after : Token) :
    (lookahead tokens after).kind ∈ Expected.statement := by
  cases reads <;> simp [Expected.statement, *]

/-- A statement is parsed in front of a token that does not go on with it. -/
def Stmt.Parsed (tokens : List Token) (tree : Stmt) : Prop :=
  ∀ after, (tree.endsOpen = true -> after.kind ≠ .elseWord) ->
    statement.Takes tokens after tree

/-- A part of a statement is parsed wherever it may end behind its tokens. -/
def Passage.Complete : (passage : Passage) -> List Token -> passage.Tree -> Prop
  | .statement, tokens, tree => tree.Parsed tokens
  | .statements, tokens, list =>
      ∀ after, after.kind = .closeCurly ->
        Grammar.statements.Takes tokens after list ∧
          (lookahead tokens after).kind ≠ .elseWord
  | .clauses afterDefault, tokens, list =>
      ∀ after, after.kind = .closeCurly ->
        (Grammar.clauses afterDefault).Takes tokens after list ∧
          (lookahead tokens after).kind ≠ .elseWord

namespace Grammar

section Forms

variable {tokens rest : List Token} {word after : Token} {tree : Stmt}

theorem takes_body
    (parsed : tree.Parsed tokens)
    (closes : tree.endsOpen = true -> after.kind ≠ .elseWord) :
    body.Takes tokens after tree :=
  takes_apply (parsed after closes)

/-- What is parsed behind a name is a statement with a semicolon. -/
theorem parsed_assignOrCall
    {name semicolon : Token}
    (nameKind : name.kind = .identifier)
    (takes :
      (assignOrCallOf name.position name.spelling).Takes tokens semicolon tree)
    (semicolonKind : semicolon.kind = .semicolon) :
    tree.Parsed (name :: (tokens ++ [semicolon])) := by
  intro after _
  apply takes_statement nameKind rfl
  apply takes_here
  apply takes_expect nameKind
  apply takes.bind
  exact takes_pass semicolonKind (takes_finish tree)

theorem parsed_assign
    {name assignment semicolon : Token}
    {selectorTokens : List Token}
    {target : Selector}
    {value : Expr}
    (nameKind : name.kind = .identifier)
    (selectorRead : target.Reads selectorTokens)
    (assignmentKind : assignment.kind = .assignment)
    (valueRead : Phrase.expression.Reads tokens value)
    (semicolonKind : semicolon.kind = .semicolon) :
    (Stmt.assign name.position
        ⟨name.spelling, target, name.position⟩ value).Parsed
      (name :: (selectorTokens ++ assignment :: (tokens ++ [semicolon]))) := by
  have start :
      (lookahead (selectorTokens ++ assignment :: tokens) semicolon).kind ≠
        .openParen := by
    rw [lookahead_append]
    exact selectorRead.start_ne assignmentKind
  have takes : (assignOrCallOf name.position name.spelling).Takes
      (selectorTokens ++ assignment :: tokens) semicolon
      (.assign name.position ⟨name.spelling, target, name.position⟩ value) := by
    apply takes_current
    rw [if_neg start]
    apply (selectorRead.takes assignmentKind).bind
    apply takes_pass assignmentKind
    exact (valueRead.takes_expression semicolonKind rfl).last
  have parsed := parsed_assignOrCall nameKind takes semicolonKind
  rwa [List.append_assoc] at parsed

theorem parsed_call
    {name left right semicolon : Token}
    {list : List Expr}
    (nameKind : name.kind = .identifier)
    (leftKind : left.kind = .openParen)
    (argumentsRead : Phrase.arguments.Reads tokens list)
    (rightKind : right.kind = .closeParen)
    (semicolonKind : semicolon.kind = .semicolon) :
    (Stmt.call name.position name.spelling list).Parsed
      (name :: left :: (tokens ++ [right, semicolon])) := by
  have takes : (assignOrCallOf name.position name.spelling).Takes
      (left :: (tokens ++ [right])) semicolon
        (.call name.position name.spelling list) := by
    have inside :
        arguments.Takes (left :: (tokens ++ [right])) semicolon list :=
      takes_parenthesized leftKind
        (argumentsRead.complete right rightKind) rightKind
    apply takes_current
    rw [lookahead_cons, if_pos leftKind]
    exact inside.last
  have parsed := parsed_assignOrCall nameKind takes semicolonKind
  rwa [List.cons_append, List.append_assoc] at parsed

theorem parsed_conditional
    {conditionTokens : List Token}
    {condition : Expr}
    (wordKind : word.kind = .ifWord)
    (conditionRead :
      (Phrase.enclosed .openParen .closeParen).Reads conditionTokens condition)
    (parsed : tree.Parsed tokens) :
    (Stmt.ifThen word.position condition tree).Parsed
      (word :: (conditionTokens ++ tokens)) := by
  intro after closes
  apply takes_statement wordKind rfl
  apply takes_here
  apply takes_pass wordKind
  apply (conditionRead.takes_enclosed rfl _).bind
  apply (takes_body parsed fun _ => closes rfl).alone
  apply takes_current
  rw [lookahead_nil, if_neg (closes rfl)]
  exact takes_finish _

theorem parsed_alternative
    {elseWord : Token}
    {conditionTokens : List Token}
    {condition : Expr}
    {elseBody : Stmt}
    (wordKind : word.kind = .ifWord)
    (conditionRead :
      (Phrase.enclosed .openParen .closeParen).Reads conditionTokens condition)
    (parsed : tree.Parsed tokens)
    (closed : tree.endsOpen = false)
    (elseKind : elseWord.kind = .elseWord)
    (elseParsed : elseBody.Parsed rest) :
    (Stmt.ifElse word.position condition tree elseBody).Parsed
      (word :: (conditionTokens ++ (tokens ++ elseWord :: rest))) := by
  intro after closes
  have front : body.Takes tokens elseWord tree := by
    apply takes_body parsed
    intro opens
    rw [closed] at opens
    cases opens
  apply takes_statement wordKind rfl
  apply takes_here
  apply takes_pass wordKind
  apply (conditionRead.takes_enclosed rfl _).bind
  apply front.bind
  apply takes_current
  rw [lookahead_cons, if_pos elseKind]
  exact takes_skip (takes_body elseParsed closes).last

theorem takes_block
    {left right : Token}
    {list : List Stmt}
    (leftKind : left.kind = .openCurly)
    (takes : statements.Takes tokens right list)
    (rightKind : right.kind = .closeCurly) :
    block.Takes (left :: (tokens ++ [right])) after list := by
  apply takes_pass leftKind
  apply (takes_apply takes).bind
  exact takes_pass rightKind (takes_finish list)

theorem takes_statements_cons
    {list : List Stmt}
    (read : Passage.statement.Reads tokens tree)
    (parsed : tree.Parsed tokens)
    (next : (lookahead rest after).kind ≠ .elseWord)
    (others : statements.Takes rest after list) :
    statements.Takes (tokens ++ rest) after (tree :: list) := by
  have start := read.start (lookahead rest after)
  have notClosing :
      (lookahead tokens (lookahead rest after)).kind ≠ .closeCurly := by
    intro same
    rw [same] at start
    exact absurd start (by decide)
  apply takes_current
  rw [lookahead_append, if_neg notClosing, if_pos start]
  exact (parsed _ fun _ => next).bind (takes_apply others).last

theorem takes_clauses_case
    {afterDefault : Bool}
    {colon : Token}
    {conditionTokens : List Token}
    {condition : Expr}
    {list : List Clause}
    (wordKind : word.kind = .caseWord)
    (conditionRead : Phrase.expression.Reads conditionTokens condition)
    (colonKind : colon.kind = .colon)
    (parsed : tree.Parsed tokens)
    (next : (lookahead rest after).kind ≠ .elseWord)
    (others : (clauses afterDefault).Takes rest after list) :
    (clauses afterDefault).Takes
        (word :: (conditionTokens ++ colon :: tokens) ++ rest) after
      (.case word.position condition tree :: list) := by
  have first : case.Takes (word :: (conditionTokens ++ colon :: tokens))
      (lookahead rest after)
      (.case word.position condition tree) := by
    apply takes_here
    apply takes_pass wordKind
    apply (conditionRead.takes_expression colonKind rfl).bind
    apply takes_pass colonKind
    exact (takes_body parsed fun _ => next).last
  apply takes_current
  rw [lookahead_append, lookahead_cons, if_pos wordKind]
  exact first.bind (takes_apply others).last

theorem takes_clauses_otherwise
    {colon : Token}
    {list : List Clause}
    (wordKind : word.kind = .defaultWord)
    (colonKind : colon.kind = .colon)
    (parsed : tree.Parsed tokens)
    (next : (lookahead rest after).kind ≠ .elseWord)
    (others : (clauses true).Takes rest after list) :
    (clauses false).Takes (word :: colon :: tokens ++ rest) after
      (.otherwise word.position tree :: list) := by
  have first : otherwise.Takes (word :: colon :: tokens) (lookahead rest after)
      (.otherwise word.position tree) := by
    apply takes_here
    apply takes_pass wordKind
    apply takes_pass colonKind
    exact (takes_body parsed fun _ => next).last
  have notCase : word.kind ≠ .caseWord := by
    rw [wordKind]
    decide
  apply takes_current
  rw [lookahead_append, lookahead_cons, if_neg notCase, if_pos ⟨wordKind, rfl⟩]
  exact first.bind (takes_apply others).last

theorem takes_clauses_nil
    {afterDefault : Bool}
    (closing : after.kind = .closeCurly) :
    (clauses afterDefault).Takes [] after [] := by
  apply takes_current
  rw [lookahead_nil, closing]
  exact takes_finish []

end Forms

end Grammar

/-- Whatever can be read from tokens is parsed from them. -/
theorem Passage.Reads.complete
    {passage : Passage}
    {tokens : List Token}
    {tree : passage.Tree}
    (reads : passage.Reads tokens tree) :
    passage.Complete tokens tree := by
  induction reads with
  | define wordKind typeRead nameKind assignmentKind valueRead semicolonKind =>
      intro after _
      apply takes_statement wordKind rfl
      apply takes_here
      apply takes_pass wordKind
      apply (typeRead.takes _).bind
      apply takes_expect nameKind
      apply takes_pass assignmentKind
      apply (valueRead.takes_expression semicolonKind rfl).bind
      exact takes_pass semicolonKind (takes_finish _)
  | declare wordKind typeRead nameKind semicolonKind =>
      intro after _
      apply takes_statement wordKind rfl
      apply takes_here
      apply takes_pass wordKind
      apply (typeRead.takes _).bind
      apply takes_expect nameKind
      exact takes_pass semicolonKind (takes_finish _)
  | returnValue wordKind valueRead semicolonKind =>
      intro after _
      apply takes_statement wordKind rfl
      apply takes_here
      apply takes_pass wordKind
      apply (valueRead.takes_expression semicolonKind rfl).bind
      exact takes_pass semicolonKind (takes_finish _)
  | assign nameKind selectorRead assignmentKind valueRead semicolonKind =>
      exact parsed_assign nameKind selectorRead assignmentKind valueRead
        semicolonKind
  | call nameKind leftKind arguments rightKind semicolonKind =>
      exact parsed_call nameKind leftKind arguments rightKind semicolonKind
  | forLoop wordKind leftKind counterKind assignmentKind initRead semicolonKind
      conditionRead secondSemicolonKind stepVariableKind secondAssignmentKind
      stepRead rightKind _ parsed =>
      intro after closes
      apply takes_statement wordKind rfl
      apply takes_here
      apply takes_pass wordKind
      apply takes_pass leftKind
      apply takes_expect counterKind
      apply takes_pass assignmentKind
      apply (initRead.takes_expression semicolonKind rfl).bind
      apply takes_pass semicolonKind
      apply (conditionRead.takes_expression secondSemicolonKind rfl).bind
      apply takes_pass secondSemicolonKind
      apply takes_expect stepVariableKind
      apply takes_pass secondAssignmentKind
      apply (stepRead.takes_expression rightKind rfl).bind
      apply takes_pass rightKind
      exact (takes_body parsed closes).last
  | foreachLoop wordKind leftKind iteratorRead colonKind sourceRead rightKind _
      parsed =>
      intro after closes
      apply takes_statement wordKind rfl
      apply takes_here
      apply takes_pass wordKind
      apply takes_pass leftKind
      apply (iteratorRead.takes _).bind
      apply takes_pass colonKind
      apply (sourceRead.takes_expression rightKind rfl).bind
      apply takes_pass rightKind
      exact (takes_body parsed closes).last
  | ifThen wordKind conditionRead _ parsed =>
      exact parsed_conditional wordKind conditionRead parsed
  | ifElse wordKind conditionRead _ closed elseKind _ parsed elseParsed =>
      exact parsed_alternative wordKind conditionRead parsed closed
        elseKind elseParsed
  | switch wordKind testRead leftKind _ rightKind clauses =>
      intro after _
      apply takes_statement wordKind rfl
      apply takes_here
      apply takes_pass wordKind
      apply (testRead.takes_enclosed rfl _).bind
      apply takes_pass leftKind
      apply (takes_apply (clauses _ rightKind).1).bind
      exact takes_pass rightKind (takes_finish _)
  | block leftKind _ rightKind statements =>
      intro after _
      apply takes_statement leftKind rfl
      apply takes_here
      exact (takes_block leftKind (statements _ rightKind).1 rightKind).last
  | noStatements =>
      intro after closing
      refine ⟨takes_current ?_, ?_⟩
      · rw [lookahead_nil, if_pos closing]
        exact takes_finish []
      · rw [lookahead_nil, closing]
        decide
  | @statements _ rest _ _ read _ parsed others =>
      intro after closing
      obtain ⟨takes, next⟩ := others after closing
      refine ⟨takes_statements_cons read parsed next takes, ?_⟩
      intro same
      have start := read.start (lookahead rest after)
      rw [lookahead_append] at same
      rw [same] at start
      exact absurd start (by decide)
  | noClauses =>
      intro after closing
      refine ⟨takes_clauses_nil closing, ?_⟩
      rw [lookahead_nil, closing]
      decide
  | case wordKind conditionRead colonKind _ _ parsed others =>
      intro after closing
      obtain ⟨takes, next⟩ := others after closing
      refine ⟨takes_clauses_case wordKind conditionRead colonKind parsed
        next takes, ?_⟩
      rw [lookahead_append, lookahead_cons, wordKind]
      decide
  | otherwise wordKind colonKind _ _ parsed others =>
      intro after closing
      obtain ⟨takes, next⟩ := others after closing
      refine ⟨takes_clauses_otherwise wordKind colonKind parsed next takes, ?_⟩
      rw [lookahead_append, lookahead_cons, wordKind]
      decide

end MatrixLang
