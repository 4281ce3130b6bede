import MatrixLang.Proofs.Acceptance
import MatrixLang.Proofs.Printing.Printable
import MatrixLang.Proofs.Subtrees

/-!
# Well-formed trees

What holds at every depth of a tree that was parsed.  Its aggregates, record
values and record types have elements, its floating-point literals are finite
and come from tokens that were in front of the parser, and an `else` belongs to
the nearest conditional that is still open.

Nothing checks where an `else` belongs.  It follows from what `Stmt.Taken` says
about the token behind a statement: a statement that ends in an open conditional
is never left in front of an `else`.
-/

namespace MatrixLang

/-! ## Trees -/

namespace Expr

/--
An expression that can be built from some tokens: a floating-point literal is a
finite number that one of them is a numeral of, and no aggregate is empty.
-/
def BuiltFrom (tokens : List Token) : Expr -> Prop
  | .float position value =>
      value.IsFinite ∧ ∃ token ∈ tokens, token.kind = .floatLiteral ∧
        token.position = position ∧
          Single.ofNumeral? token.spelling = some value
  | .aggregate _ elements => elements ≠ []
  | .record _ _ elements => elements ≠ []
  | _ => True

/-- An expression is built from tokens at every depth. -/
abbrev WellFormed (tokens : List Token) : Expr -> Prop :=
  Everywhere (BuiltFrom tokens)

end Expr

/-- The sizes of a type are well formed. -/
def Ty.WellFormed (tokens : List Token) (type : Ty) : Prop :=
  ∀ size ∈ type.sizes, size.WellFormed tokens

/--
The first branch of a conditional with an `else` leaves no conditional open.
-/
def Stmt.BindsElse : Stmt -> Prop
  | .ifElse _ _ thenBody _ => thenBody.endsOpen = false
  | _ => True

/--
A statement binds every `else` in it, and all its expressions are built from
tokens.
-/
abbrev Stmt.WellFormed (tokens : List Token) : Stmt -> Prop :=
  Everywhere BindsElse (Expr.BuiltFrom tokens)

/-- All parts of a function are well formed. -/
structure Function.WellFormed
    (tokens : List Token)
    (function : Function) : Prop where
  returnType : function.returnType.WellFormed tokens
  parameters :
    ∀ parameter ∈ function.parameters, parameter.type.WellFormed tokens
  body : ∀ statement ∈ function.body, statement.WellFormed tokens

/-- A record type has elements and all their types are well formed. -/
structure Record.WellFormed (tokens : List Token) (record : Record) : Prop where
  some : record.elements ≠ []
  elements : ∀ element ∈ record.elements, element.type.WellFormed tokens

/-- All declarations of a module are well formed. -/
structure Module.WellFormed (tokens : List Token) (module : Module) : Prop where
  functions : ∀ function ∈ module.functions, function.WellFormed tokens
  records : ∀ record ∈ module.records, record.WellFormed tokens

/-! ## Expressions that are read -/

variable {all : List Token}

namespace Expr

/-- Indexing some times in a row is well formed. -/
theorem wellFormed_elements
    {base : Expr}
    {indices : List Expr}
    (baseFormed : base.WellFormed all)
    (formed : ∀ index ∈ indices, index.WellFormed all)
    (position : Position) :
    (indices.foldl (Expr.element position) base).WellFormed all := by
  induction indices generalizing base with
  | nil => exact baseFormed
  | cons index indices inductionHypothesis =>
      rw [List.forall_mem_cons] at formed
      refine inductionHypothesis ?_ formed.2
      exact .intro trivial (by simp [children, baseFormed, formed.1])

/-- A chain of operators is well formed. -/
theorem wellFormed_chain
    {first : Expr}
    {pairs : List (BinaryOp × Expr)}
    (firstFormed : first.WellFormed all)
    (formed : ∀ pair ∈ pairs, pair.2.WellFormed all)
    (position : Position) :
    (pairs.foldl (fun left pair => .binary position pair.1 left pair.2)
      first).WellFormed all := by
  induction pairs generalizing first with
  | nil => exact firstFormed
  | cons pair pairs inductionHypothesis =>
      rw [List.forall_mem_cons] at formed
      refine inductionHypothesis ?_ formed.2
      exact .intro trivial (by simp [children, firstFormed, formed.1])

end Expr

/-- Whatever a part of an expression reads is well formed. -/
theorem Phrase.Reads.wellFormed
    {phrase : Phrase}
    {tokens : List Token}
    {tree : phrase.Tree}
    (reads : phrase.Reads tokens tree)
    (within : ∀ token ∈ tokens, token ∈ all) :
    phrase.Each (Expr.WellFormed all) tree := by
  induction reads with
  | int | bool | string | reference =>
      exact .intro trivial (List.forall_mem_nil _)
  | @float token value kind read =>
      have origin := within token List.mem_cons_self
      obtain ⟨found, finite⟩ := Single.ofLiteral?_eq_some.1 read
      exact .intro ⟨finite, token, origin, kind, rfl,
        found⟩ (List.forall_mem_nil _)
  | call _ _ _ _ inductionHypothesis =>
      simp only [List.forall_mem_cons, List.forall_mem_append] at within
      exact .intro trivial (inductionHypothesis within.2.2.1)
  | parenthesized _ inductionHypothesis => exact inductionHypothesis within
  | aggregate _ inductionHypothesis =>
      obtain ⟨some, formed⟩ := inductionHypothesis within
      exact .intro some formed
  | record _ _ _ inductionHypothesis =>
      simp only [List.forall_mem_cons] at within
      obtain ⟨some, formed⟩ := inductionHypothesis within.2.2
      exact .intro some formed
  | bare _ _ inductionHypothesis => exact inductionHypothesis within
  | field _ _ _ inductionHypothesis =>
      rw [List.forall_mem_append] at within
      exact .intro trivial
        (List.forall_mem_singleton.2 (inductionHypothesis within.1))
  | element _ _ baseHypothesis indicesHypothesis =>
      rw [List.forall_mem_append] at within
      exact Expr.wellFormed_elements (baseHypothesis within.1)
        (indicesHypothesis within.2) _
  | subvector _ _ baseHypothesis rangeHypothesis =>
      rw [List.forall_mem_append] at within
      obtain ⟨first, origin, last⟩ := rangeHypothesis within.2
      have base := baseHypothesis within.1
      exact .intro trivial
        (by simpa [Expr.children] using ⟨base, first, origin, last⟩)
  | submatrix _ _ _ baseHypothesis rowsHypothesis columnsHypothesis =>
      simp only [List.forall_mem_append] at within
      obtain ⟨first, origin, last⟩ := rowsHypothesis within.2.1
      obtain ⟨firstColumn, originColumn, lastColumn⟩ :=
        columnsHypothesis within.2.2
      have base := baseHypothesis within.1
      exact .intro trivial (by
        simpa [Expr.children] using
          ⟨base, first, origin, last, firstColumn, originColumn, lastColumn⟩)
  | chain _ _ firstHypothesis operandsHypothesis =>
      rw [List.forall_mem_append] at within
      exact Expr.wellFormed_chain (firstHypothesis within.1)
        (operandsHypothesis within.2) _
  | dimension _ _ inductionHypothesis =>
      rw [List.forall_mem_append] at within
      exact .intro trivial
        (List.forall_mem_singleton.2 (inductionHypothesis within.1))
  | power _ _ _ baseHypothesis exponentHypothesis =>
      simp only [List.forall_mem_cons, List.forall_mem_append] at within
      have base := baseHypothesis within.1
      have exponent := exponentHypothesis within.2.2
      exact .intro trivial (by simpa [Expr.children] using ⟨base, exponent⟩)
  | negate _ _ inductionHypothesis | not _ _ inductionHypothesis =>
      rw [List.forall_mem_cons] at within
      exact .intro trivial
        (List.forall_mem_singleton.2 (inductionHypothesis within.2))
  | select _ _ _ _ _ conditionHypothesis trueHypothesis falseHypothesis =>
      simp only [List.forall_mem_cons, List.forall_mem_append] at within
      have condition := conditionHypothesis within.1
      have onTrue := trueHypothesis within.2.2.1
      have onFalse := falseHypothesis within.2.2.2.2
      exact .intro trivial
        (by simpa [Expr.children] using ⟨condition, onTrue, onFalse⟩)
  | enclosed _ _ _ inductionHypothesis =>
      simp only [List.forall_mem_cons, List.forall_mem_append] at within
      exact inductionHypothesis within.2.1
  | noOperands | noIndices | nothingFurther | noArguments =>
      exact List.forall_mem_nil _
  | operand _ _ _ rightHypothesis operandsHypothesis =>
      simp only [List.forall_mem_cons, List.forall_mem_append] at within
      exact List.forall_mem_cons.2
        ⟨rightHypothesis within.2.1, operandsHypothesis within.2.2⟩
  | index _ _ indexHypothesis indicesHypothesis =>
      rw [List.forall_mem_append] at within
      exact List.forall_mem_cons.2
        ⟨indexHypothesis within.1, indicesHypothesis within.2⟩
  | further _ _ _ exprHypothesis othersHypothesis =>
      simp only [List.forall_mem_cons, List.forall_mem_append] at within
      exact List.forall_mem_cons.2
        ⟨exprHypothesis within.2.1, othersHypothesis within.2.2⟩
  | arguments _ _ exprHypothesis othersHypothesis =>
      rw [List.forall_mem_append] at within
      exact List.forall_mem_cons.2
        ⟨exprHypothesis within.1, othersHypothesis within.2⟩
  | elements _ _ _ _ exprHypothesis othersHypothesis =>
      simp only [List.forall_mem_cons, List.forall_mem_append] at within
      refine ⟨List.cons_ne_nil _ _, ?_⟩
      exact List.forall_mem_cons.2
        ⟨exprHypothesis within.2.1, othersHypothesis within.2.2.1⟩
  | range _ _ _ _ _ _ _ firstHypothesis originHypothesis lastHypothesis =>
      simp only [List.forall_mem_cons, List.forall_mem_append] at within
      obtain ⟨-, first, -, origin, -, last, -⟩ := within
      exact ⟨firstHypothesis first, originHypothesis origin,
        lastHypothesis last⟩

/-! ## Types and targets that are read -/

theorem Ty.Reads.wellFormed
    {type : Ty}
    {tokens : List Token}
    (reads : type.Reads tokens)
    (within : ∀ token ∈ tokens, token ∈ all) : type.WellFormed all := by
  cases reads with
  | simple found =>
      rcases Ty.of_ofKind? found with
          ⟨-, rfl⟩ | ⟨-, rfl⟩ | ⟨-, rfl⟩ | ⟨-, rfl⟩ | ⟨-, rfl⟩ <;>
        exact List.forall_mem_nil _
  | record => exact List.forall_mem_nil _
  | vector _ _ sizeRead =>
      simp only [List.forall_mem_cons, List.forall_mem_append] at within
      exact List.forall_mem_singleton.2 (sizeRead.wellFormed within.2.2)
  | matrix _ _ rowsRead columnsRead =>
      simp only [List.forall_mem_cons, List.forall_mem_append] at within
      have rows := rowsRead.wellFormed within.2.2.1
      have columns := columnsRead.wellFormed within.2.2.2
      exact List.forall_mem_cons.2 ⟨rows, List.forall_mem_singleton.2 columns⟩

theorem Binding.Reads.wellFormed
    {binding : Binding}
    {tokens : List Token}
    (reads : binding.Reads tokens)
    (within : ∀ token ∈ tokens, token ∈ all) : binding.type.WellFormed all := by
  cases reads with
  | intro _ typeRead _ =>
      simp only [List.forall_mem_cons, List.forall_mem_append] at within
      exact typeRead.wellFormed within.2.1

theorem Selector.Reads.wellFormed
    {selector : Selector}
    {tokens : List Token}
    (reads : selector.Reads tokens)
    (within : ∀ token ∈ tokens, token ∈ all) :
    ∀ index ∈ selector.indices, index.WellFormed all := by
  cases reads with
  | whole | field => exact List.forall_mem_nil _
  | index read => exact List.forall_mem_singleton.2 (read.wellFormed within)
  | cell rowRead columnRead =>
      rw [List.forall_mem_append] at within
      have row := rowRead.wellFormed within.1
      have column := columnRead.wellFormed within.2
      exact List.forall_mem_cons.2 ⟨row, List.forall_mem_singleton.2 column⟩

/-! ## Statements that are read -/

/-- All parts of a clause are well formed. -/
def Clause.WellFormed (tokens : List Token) : Clause -> Prop
  | .case _ condition body =>
      condition.WellFormed tokens ∧ body.WellFormed tokens
  | .otherwise _ body => body.WellFormed tokens

/-- All parts of the cases of a switch are well formed. -/
structure Cases.WellFormed (tokens : List Token) (cases : Cases) : Prop where
  conditions : ∀ condition ∈ cases.conditions, condition.WellFormed tokens
  bodies : ∀ body ∈ cases.bodies, body.WellFormed tokens

namespace Cases

/-- The default among well-formed clauses is well formed. -/
theorem wellFormed_defaultOf
    {clauses : List Clause}
    (formed : ∀ clause ∈ clauses, clause.WellFormed all) :
    (defaultOf clauses).WellFormed all := by
  induction clauses with
  | nil => exact ⟨List.forall_mem_nil _, List.forall_mem_nil _⟩
  | cons clause clauses inductionHypothesis =>
      rw [List.forall_mem_cons] at formed
      cases clause with
      | case _ _ _ => exact inductionHypothesis formed.2
      | otherwise position body =>
          exact ⟨List.forall_mem_nil _, List.forall_mem_singleton.2 formed.1⟩

/-- Well-formed clauses are well formed in their normal order. -/
theorem wellFormed_ofClauses
    {clauses : List Clause}
    (formed : ∀ clause ∈ clauses, clause.WellFormed all) :
    (ofClauses clauses).WellFormed all := by
  have lastFormed := wellFormed_defaultOf formed
  rw [ofClauses]
  generalize defaultOf clauses = last at lastFormed ⊢
  induction clauses with
  | nil => exact lastFormed
  | cons clause clauses inductionHypothesis =>
      rw [List.forall_mem_cons] at formed
      have others := inductionHypothesis formed.2
      cases clause with
      | case position condition body =>
          exact ⟨List.forall_mem_cons.2 ⟨formed.1.1, others.conditions⟩,
            List.forall_mem_cons.2 ⟨formed.1.2, others.bodies⟩⟩
      | otherwise position body => exact others

end Cases

namespace Passage

/-- All that a part of a statement reads is well formed. -/
def WellFormed
    (tokens : List Token) : (passage : Passage) -> passage.Tree -> Prop
  | .statement, one => Stmt.WellFormed tokens one
  | .statements, list => ∀ statement ∈ list, Stmt.WellFormed tokens statement
  | .clauses _, list => ∀ clause ∈ list, Clause.WellFormed tokens clause

/-- Whatever a part of a statement reads is well formed. -/
theorem Reads.wellFormed
    {passage : Passage}
    {tokens : List Token}
    {tree : passage.Tree}
    (reads : passage.Reads tokens tree)
    (within : ∀ token ∈ tokens, token ∈ all) : passage.WellFormed all tree := by
  induction reads with
  | define _ typeRead _ _ valueRead _ =>
      simp only [List.forall_mem_cons, List.forall_mem_append] at within
      obtain ⟨-, type, -, -, value, -⟩ := within
      have sizes := typeRead.wellFormed type
      exact .intro trivial
        (List.forall_mem_cons.2 ⟨valueRead.wellFormed value, sizes⟩)
        (List.forall_mem_nil _)
  | declare _ typeRead _ _ =>
      simp only [List.forall_mem_cons, List.forall_mem_append] at within
      exact .intro trivial (typeRead.wellFormed within.2.1)
        (List.forall_mem_nil _)
  | returnValue _ valueRead _ =>
      simp only [List.forall_mem_cons, List.forall_mem_append] at within
      exact .intro trivial
        (List.forall_mem_singleton.2 (valueRead.wellFormed within.2.1))
        (List.forall_mem_nil _)
  | assign _ selectorRead _ valueRead _ =>
      simp only [List.forall_mem_cons, List.forall_mem_append] at within
      obtain ⟨-, selector, -, value, -⟩ := within
      have indices := selectorRead.wellFormed selector
      exact .intro trivial
        (List.forall_mem_cons.2 ⟨valueRead.wellFormed value, indices⟩)
        (List.forall_mem_nil _)
  | call _ _ arguments _ _ =>
      simp only [List.forall_mem_cons, List.forall_mem_append] at within
      exact .intro trivial (arguments.wellFormed within.2.2.1)
        (List.forall_mem_nil _)
  | forLoop _ _ _ _ initRead _ conditionRead _ _ _ stepRead _ _
      inductionHypothesis =>
      simp only [List.forall_mem_cons, List.forall_mem_append] at within
      obtain ⟨-, -, -, -, init, -, condition, -, -, -, step, -, body⟩ := within
      have initFormed := initRead.wellFormed init
      have conditionFormed := conditionRead.wellFormed condition
      have stepFormed := stepRead.wellFormed step
      refine .intro trivial ?_
        (List.forall_mem_singleton.2 (inductionHypothesis body))
      simpa [Stmt.expressions] using
        ⟨initFormed, conditionFormed, stepFormed⟩
  | foreachLoop _ _ iteratorRead _ sourceRead _ _ inductionHypothesis =>
      simp only [List.forall_mem_cons, List.forall_mem_append] at within
      obtain ⟨-, -, iterator, -, source, -, body⟩ := within
      have sizes := iteratorRead.wellFormed iterator
      exact .intro trivial
        (List.forall_mem_cons.2 ⟨sourceRead.wellFormed source, sizes⟩)
        (List.forall_mem_singleton.2 (inductionHypothesis body))
  | ifThen _ conditionRead _ inductionHypothesis =>
      simp only [List.forall_mem_cons, List.forall_mem_append] at within
      obtain ⟨-, condition, body⟩ := within
      exact .intro trivial
        (List.forall_mem_singleton.2 (conditionRead.wellFormed condition))
        (List.forall_mem_singleton.2 (inductionHypothesis body))
  | ifElse _ conditionRead _ closed _ _ thenHypothesis elseHypothesis =>
      simp only [List.forall_mem_cons, List.forall_mem_append] at within
      obtain ⟨-, condition, thenBody, -, elseBody⟩ := within
      have branches := List.forall_mem_cons.2
        ⟨thenHypothesis thenBody,
          List.forall_mem_singleton.2 (elseHypothesis elseBody)⟩
      exact .intro closed
        (List.forall_mem_singleton.2 (conditionRead.wellFormed condition))
          branches
  | switch _ testRead _ _ _ inductionHypothesis =>
      simp only [List.forall_mem_cons, List.forall_mem_append] at within
      obtain ⟨-, test, -, clauses, -⟩ := within
      have cases := Cases.wellFormed_ofClauses (inductionHypothesis clauses)
      exact .intro trivial
        (List.forall_mem_cons.2 ⟨testRead.wellFormed test, cases.conditions⟩)
          cases.bodies
  | block _ _ _ inductionHypothesis =>
      simp only [List.forall_mem_cons, List.forall_mem_append] at within
      exact .intro trivial (List.forall_mem_nil _)
        (inductionHypothesis within.2.1)
  | noStatements | noClauses => exact List.forall_mem_nil _
  | statements _ _ statementHypothesis othersHypothesis =>
      rw [List.forall_mem_append] at within
      exact List.forall_mem_cons.2
        ⟨statementHypothesis within.1, othersHypothesis within.2⟩
  | case _ conditionRead _ _ _ bodyHypothesis othersHypothesis =>
      simp only [List.forall_mem_cons, List.forall_mem_append] at within
      obtain ⟨⟨-, condition, -, body⟩, others⟩ := within
      exact List.forall_mem_cons.2
        ⟨⟨conditionRead.wellFormed condition, bodyHypothesis body⟩,
          othersHypothesis others⟩
  | otherwise _ _ _ _ bodyHypothesis othersHypothesis =>
      simp only [List.forall_mem_cons, List.forall_mem_append] at within
      obtain ⟨⟨-, -, body⟩, others⟩ := within
      exact List.forall_mem_cons.2
        ⟨bodyHypothesis body, othersHypothesis others⟩

end Passage

/-! ## Declarations that are read -/

namespace Parameter

theorem Reads.wellFormed
    {parameter : Parameter}
    {tokens : List Token}
    (reads : parameter.Reads tokens)
    (within : ∀ token ∈ tokens, token ∈ all) :
    parameter.type.WellFormed all := by
  cases reads with
  | intro typeRead _ =>
      rw [List.forall_mem_append] at within
      exact typeRead.wellFormed within.1

theorem FurtherReads.wellFormed
    {parameters : List Parameter}
    {tokens : List Token}
    (reads : FurtherReads tokens parameters)
    (within : ∀ token ∈ tokens, token ∈ all) :
    ∀ parameter ∈ parameters, parameter.type.WellFormed all := by
  induction reads with
  | none => exact List.forall_mem_nil _
  | more _ read _ inductionHypothesis =>
      simp only [List.forall_mem_cons, List.forall_mem_append] at within
      exact List.forall_mem_cons.2
        ⟨read.wellFormed within.2.1, inductionHypothesis within.2.2⟩

theorem AllRead.wellFormed
    {parameters : List Parameter}
    {tokens : List Token}
    (reads : AllRead tokens parameters)
    (within : ∀ token ∈ tokens, token ∈ all) :
    ∀ parameter ∈ parameters, parameter.type.WellFormed all := by
  cases reads with
  | none => exact List.forall_mem_nil _
  | some read others =>
      rw [List.forall_mem_append] at within
      exact List.forall_mem_cons.2
        ⟨read.wellFormed within.1, others.wellFormed within.2⟩

end Parameter

theorem Function.Reads.wellFormed
    {function : Function}
    {tokens : List Token}
    (reads : function.Reads tokens)
    (within : ∀ token ∈ tokens, token ∈ all) : function.WellFormed all := by
  cases reads with
  | intro _ typeRead _ _ parametersRead _ _ bodyRead _ =>
      simp only [List.forall_mem_cons, List.forall_mem_append] at within
      obtain ⟨-, type, -, -, parameters, -, -, body, -⟩ := within
      exact ⟨typeRead.wellFormed type, parametersRead.wellFormed parameters,
        bodyRead.wellFormed body⟩

theorem Record.ElementsRead.wellFormed
    {elements : List Binding}
    {tokens : List Token}
    (reads : ElementsRead tokens elements)
    (within : ∀ token ∈ tokens, token ∈ all) :
    ∀ element ∈ elements, element.type.WellFormed all := by
  induction reads with
  | none => exact List.forall_mem_nil _
  | more read _ _ inductionHypothesis =>
      simp only [List.forall_mem_cons, List.forall_mem_append] at within
      exact List.forall_mem_cons.2
        ⟨read.wellFormed within.1, inductionHypothesis within.2.2⟩

theorem Record.Reads.wellFormed
    {record : Record}
    {tokens : List Token}
    (reads : record.Reads tokens)
    (within : ∀ token ∈ tokens, token ∈ all) : record.WellFormed all := by
  cases reads with
  | intro _ _ _ elementsRead _ =>
      simp only [List.forall_mem_cons, List.forall_mem_append] at within
      exact ⟨List.cons_ne_nil _ _, elementsRead.wellFormed within.2.2.2.1⟩

/--
Declarations that are read are well formed, whatever else they are sorted with.
-/
theorem Declaration.AllRead.wellFormed
    {declarations : List Declaration}
    {tokens : List Token}
    (reads : AllRead tokens declarations)
    (within : ∀ token ∈ tokens, token ∈ all)
    (position : Position) :
    (Module.ofDeclarations position declarations).WellFormed all := by
  induction reads with
  | none => exact ⟨List.forall_mem_nil _, List.forall_mem_nil _⟩
  | function read _ inductionHypothesis =>
      rw [List.forall_mem_append] at within
      obtain ⟨functions, records⟩ := inductionHypothesis within.2
      exact ⟨List.forall_mem_cons.2 ⟨read.wellFormed within.1, functions⟩,
        records⟩
  | record read _ inductionHypothesis =>
      rw [List.forall_mem_append] at within
      obtain ⟨functions, records⟩ := inductionHypothesis within.2
      exact ⟨functions,
        List.forall_mem_cons.2 ⟨read.wellFormed within.1, records⟩⟩

/-! ## Trees that are parsed -/

/-- A movement passes over tokens that were in front of it. -/
theorem Spot.Moves.mem_tokens
    {start stop : Spot}
    {tokens : List Token}
    (moves : start.Moves tokens stop) :
    ∀ token ∈ tokens, token ∈ start.tokens := by
  induction moves with
  | stay spot => exact List.forall_mem_nil _
  | step _ found further inductionHypothesis =>
      refine List.forall_mem_cons.2 ⟨List.mem_cons_self, fun token member => ?_⟩
      rcases Spot.next?_tokens found with ⟨-, known⟩ | ⟨-, -, last⟩
      · rw [Spot.tokens, known]
        exact List.mem_cons_of_mem _ (inductionHypothesis token member)
      · -- There is no movement over the end of the file.
        cases further with
        | stay => cases member
        | step inside => exact absurd (congrArg Token.kind last) inside

/-- What a parser yields is read from tokens that were in front of it. -/
theorem Parser.Parses.reads_of_ok
    {α : Type}
    {form : Form}
    {reads : List Token -> α -> Token -> Prop}
    {parser : Parser α}
    {cursor : Cursor}
    {value : α}
    (parses : parser.Parses Grammar.contract form [] reads)
    (parsed : (parser.parse cursor).result = .ok value) :
    ∃ tokens, (∀ token ∈ tokens, token ∈ cursor.spot.tokens) ∧
      reads tokens value (parser.parse cursor).cursor.current := by
  have meets := parses.meets cursor
  rw [Reply.Meets, parsed] at meets
  obtain ⟨tokens, moves, -, -, read⟩ := meets
  exact ⟨tokens, moves.mem_tokens, read⟩

/--
Whatever is parsed from a stream of tokens is well formed at every depth.
Behind a statement that ends in an open conditional there is no `else`.
-/
theorem Grammar.wellFormed_of_parse
    (cursor : Cursor) :
    (∀ parsed, (module.parse cursor).result = .ok parsed ->
        parsed.WellFormed cursor.spot.tokens) ∧
      (∀ parsed, (function.parse cursor).result = .ok parsed ->
        parsed.WellFormed cursor.spot.tokens) ∧
      (∀ parsed, (statement.parse cursor).result = .ok parsed ->
        parsed.WellFormed cursor.spot.tokens ∧
          (parsed.endsOpen = true ->
            (statement.parse cursor).cursor.current.kind ≠ .elseWord)) ∧
      (∀ parsed, (block.parse cursor).result = .ok parsed ->
        ∀ one ∈ parsed, one.WellFormed cursor.spot.tokens) := by
  refine ⟨fun parsed yields => ?_, fun parsed yields => ?_,
    fun parsed yields => ?_, fun parsed yields => ?_⟩
  · obtain ⟨tokens, within, ⟨list, read, rfl⟩, -⟩ :=
      parses_module.reads_of_ok yields
    exact read.wellFormed within _
  · obtain ⟨tokens, within, read⟩ := parses_function.reads_of_ok yields
    exact read.wellFormed within
  · obtain ⟨tokens, within, read, notElse⟩ :=
      parses_statement.reads_of_ok yields
    exact ⟨read.wellFormed within, notElse⟩
  · obtain ⟨tokens, within, left, inner, right, rfl, -, read, -⟩ :=
      parses_block.reads_of_ok yields
    simp only [List.forall_mem_cons, List.forall_mem_append] at within
    exact read.wellFormed within.2.1

/-- The start of a text with two conditionals and one `else`. -/
def twoConditionals : Cursor :=
  (Cursor.before
    (.ofText "if (a) if (b) \x7b\x7d else return [0.5];")).advance.cursor

/-- The statement of that text. -/
def elseInside : Stmt :=
  .ifThen ⟨1, 1⟩ (.reference ⟨1, 5⟩ "a")
    (.ifElse ⟨1, 8⟩ (.reference ⟨1, 12⟩ "b") (.block ⟨1, 15⟩ [])
      (.returnValue ⟨1, 23⟩
        (.aggregate ⟨1, 30⟩ [.float ⟨1, 31⟩ ⟨false, 0x3f000000, by decide⟩])))

/--
The `else` belongs to the inner one of two conditionals, and the outer one stays
open.
-/
theorem Grammar.wellFormed_of_parse_elseInside :
    (statement.parse twoConditionals).result = .ok elseInside ∧
      elseInside.WellFormed twoConditionals.spot.tokens ∧
      elseInside.endsOpen = true ∧
      (statement.parse twoConditionals).cursor.current.kind ≠ .elseWord := by
  have found :
      (statement.parse twoConditionals).result.toOption = some elseInside := by
    decide +kernel
  have yields : (statement.parse twoConditionals).result = .ok elseInside := by
    cases result : (statement.parse twoConditionals).result with
    | error failure => rw [result] at found; cases found
    | ok parsed =>
        rw [result] at found; exact congrArg _ (Option.some.inj found)
  obtain ⟨formed, notElse⟩ :=
    (wellFormed_of_parse twoConditionals).2.2.1 elseInside yields
  exact ⟨yields, formed, rfl, notElse rfl⟩

end MatrixLang
