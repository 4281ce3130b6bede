import MatrixLang.Proofs.Placement.Outline
import MatrixLang.Proofs.Reading.Statement

/-!
# Expressions, types and statements are well placed

Every tree fits the tokens from which it is read.  The proofs go by the grammar:
a node takes the position of its first token and its parts are laid over the
tokens behind it.  Operators and indices that are read in a loop are laid behind
the operand that they are applied to, whose position they take over
(`Outline.Laid.fits_foldl`).
-/

namespace MatrixLang
namespace Outline

/-- An outline fits the tokens over which it is laid. -/
theorem Laid.fits
    {outline : Outline}
    {tokens : List Token}
    (laid : Laid [outline] tokens) : outline.Fits tokens :=
  fun increasing =>
    (laid.placed increasing).2 outline (List.mem_singleton_self _)

end Outline

open Outline (Laid)

/-- The position of some tokens is that of the first one. -/
theorem head?_of_ne_nil
    {tokens : List Token}
    (nonempty : tokens ≠ []) :
    tokens.head?.map Token.position = some (startOf tokens) := by
  cases tokens with
  | nil => exact absurd rfl nonempty
  | cons token tokens => rfl

theorem starts_append
    {tokens : List Token}
    (nonempty : tokens ≠ [])
    (rest : List Token) :
    ∀ own ∈ some (startOf tokens),
      (tokens ++ rest).head?.map Token.position = some own := by
  cases tokens with
  | nil => exact absurd rfl nonempty
  | cons token tokens => exact fun _ => id

/-! ## Expressions -/

@[simp]
theorem Expr.outlines_eq_map
    (role : String)
    (exprs : List Expr) :
    Expr.outlines role exprs = exprs.map fun expr => (role, expr.outline) := by
  induction exprs with
  | nil => rfl
  | cons expr exprs inductionHypothesis =>
      rw [Expr.outlines, inductionHypothesis, List.map_cons]

/--
An expression that takes up parts from the left fits if every step of it does.
-/
theorem Outline.Laid.fits_foldl
    {α : Type}
    {build : Expr -> α -> Expr}
    {start : Position}
    (part : α -> Outline)
    (step : ∀ base item tokens, tokens.head?.map Token.position = some start ->
      Laid [Expr.outline base, part item] tokens ->
      (build base item).outline.Fits tokens)
    {items : List α}
    {base : Expr}
    {tokens rest : List Token}
    (first : tokens.head?.map Token.position = some start)
    (fits : base.outline.Fits tokens)
    (laid : Laid (items.map part) rest) :
    (items.foldl build base).outline.Fits (tokens ++ rest) := by
  induction items generalizing base tokens rest with
  | nil => exact ((Laid.only fits).leave rest).fits
  | cons item items inductionHypothesis =>
      obtain ⟨skipped, own, behind, rfl, itemFits, othersLaid⟩ := laid.uncons
      have front : (tokens ++ (skipped ++ own)).head?.map Token.position =
          some start := by
        cases tokens with
        | nil => cases first
        | cons token tokens => exact first
      have applied := step base item _ front
        (.child fits ((Laid.only itemFits).skipAll skipped))
      have folded := inductionHypothesis front applied othersLaid
      rwa [List.append_assoc, List.append_assoc] at folded

/-- A part of an expression fits tokens, each of its trees behind the other. -/
def Phrase.Fits : (phrase : Phrase) -> phrase.Tree -> List Token -> Prop
  | .tier _, tree, tokens => tree.outline.Fits tokens
  | .enclosed _ _, tree, tokens => tree.outline.Fits tokens
  | .operands _, pairs, tokens =>
      Laid (pairs.map fun pair => pair.2.outline) tokens
  | .indices, list, tokens => Laid (list.map Expr.outline) tokens
  | .further, list, tokens => Laid (list.map Expr.outline) tokens
  | .arguments, list, tokens => Laid (list.map Expr.outline) tokens
  | .elements, list, tokens => Laid (list.map Expr.outline) tokens
  | .range, (first, origin, last), tokens =>
      Laid [first.outline, origin.outline, last.outline] tokens

/-- What is read from a part of an expression fits its tokens. -/
theorem Phrase.Reads.fits
    {phrase : Phrase}
    {tokens : List Token}
    {tree : phrase.Tree}
    (reads : phrase.Reads tokens tree) : phrase.Fits tree tokens := by
  induction reads with
  | int | float | bool | string | reference =>
      exact .node (fun _ => id) nofun (.nothing _)
  | call _ _ _ _ arguments =>
      rw [Fits, Expr.outline, Expr.outlines_eq_map]
      exact .repeated (fun _ => id) (by decide)
        (.skip (.skip (arguments.leave _)))
  | parenthesized _ inner => exact inner
  | aggregate elements laid =>
      rw [Fits, Expr.outline, Expr.outlines_eq_map]
      refine .repeated (fun _ => Eq.trans ?_) (by decide) laid
      exact head?_of_ne_nil (elements.ne_nil rfl)
  | record _ _ _ elements =>
      rw [Fits, Expr.outline, Expr.outlines_eq_map]
      exact .repeated (fun _ => id) (by decide) (.skip (.skip elements))
  | bare _ _ inner => exact inner
  | field read _ _ base =>
      exact .node (starts_append (read.ne_nil rfl) _) (by simp)
        ((Laid.only base).leave _)
  | element read _ base indices =>
      refine Laid.fits_foldl Expr.outline
        (fun base index tokens first laid => ?_)
        (head?_of_ne_nil (read.ne_nil rfl)) base indices
      exact .node (fun _ => first.trans) (by simp) laid
  | subvector read _ base range =>
      refine .of_laid (starts_append (read.ne_nil rfl) _)
        (.child base range) (by simp) fun inOrder => ?_
      simp_all [Outline.InOrder, Outline.swapped, Outline.unordered]
  | submatrix read _ _ base rows columns =>
      refine .of_laid (starts_append (read.ne_nil rfl) _)
        (.child base (rows.append columns)) (by simp) fun inOrder => ?_
      simp_all [Outline.InOrder, Outline.swapped, Outline.unordered]
  | chain read _ first operands =>
      refine Laid.fits_foldl (fun pair : BinaryOp × Expr => pair.2.outline)
        (fun base pair tokens first laid => ?_)
          (head?_of_ne_nil (read.ne_nil rfl)) first operands
      exact .node (fun _ => first.trans) (by simp) laid
  | dimension read _ operand =>
      exact .node (starts_append (read.ne_nil rfl) _) (by simp)
        ((Laid.only operand).leave _)
  | power read _ _ base exponent =>
      exact .node (starts_append (read.ne_nil rfl) _) (by simp)
        (.child base (.skip (.only exponent)))
  | negate _ _ operand | not _ _ operand =>
      exact .node (fun _ => id) (by simp) (.skip (.only operand))
  | select read _ _ _ _ condition onTrue onFalse =>
      exact .node (starts_append (read.ne_nil rfl) _) (by simp)
        (.child condition (.skip (.child onTrue (.skip (.only onFalse)))))
  | enclosed _ _ _ inner => exact (Laid.skip ((Laid.only inner).leave _)).fits
  | noOperands | noIndices | nothingFurther | noArguments => exact .nothing _
  | operand _ _ _ right operands => exact .skip (.child right operands)
  | index _ _ index indices => exact .child index indices
  | further _ _ _ expr others => exact .skip (.child expr others)
  | arguments _ _ expr others => exact .child expr others
  | elements _ _ _ _ expr others => exact .skip (.child expr (others.leave _))
  | range _ _ _ _ _ _ _ first origin last =>
      exact .skip (.child first
        (.skip (.child origin (.skip ((Laid.only last).leave _)))))

/-! ## Types -/

/-- A type fits its tokens. -/
theorem Ty.Reads.fits
    {tokens : List Token}
    {type : Ty}
    (reads : type.Reads tokens) : type.outline.Fits tokens := by
  cases reads with
  | simple found =>
      obtain ⟨-, rfl⟩ | ⟨-, rfl⟩ | ⟨-, rfl⟩ | ⟨-, rfl⟩ | ⟨-, rfl⟩ :=
        Ty.of_ofKind? found
      all_goals exact .node nofun nofun (.nothing _)
  | record => exact .node nofun nofun (.nothing _)
  | vector _ _ sizeRead =>
      exact .node nofun (by simp) (.skip ((Laid.only sizeRead.fits).skipAll _))
  | matrix _ _ rowsRead columnsRead =>
      exact .node nofun (by simp)
        (.skip ((Laid.child rowsRead.fits (.only columnsRead.fits)).skipAll _))

/--
A binding fits its tokens, be it an element of a record type or the variable of
a loop.
-/
theorem Binding.Reads.fits
    {tokens : List Token}
    {binding : Binding}
    (reads : binding.Reads tokens) :
    binding.elementOutline.Fits tokens ∧
      binding.iteratorOutline.Fits tokens := by
  cases reads with
  | intro _ typeRead _ =>
      have laid := Laid.only typeRead.fits
      exact ⟨.node (fun _ => id) (by simp) (.skip (laid.leave _)),
        .node (fun _ => id) (by simp) (.skip (laid.leave _))⟩

/-! ## Statements -/

/-- The target of an assignment fits its name and what stands behind it. -/
theorem Selector.Reads.fits
    {tokens : List Token}
    {selector : Selector}
    (reads : selector.Reads tokens)
    (name : Token) :
    (Target.outline ⟨name.spelling, selector, name.position⟩).Fits
      (name :: tokens) := by
  cases reads with
  | whole | field => exact .node (fun _ => id) nofun (.nothing _)
  | index read => exact .node (fun _ => id) (by simp) (.skip (.only read.fits))
  | cell rowRead columnRead =>
      exact .node (fun _ => id) (by simp)
        (.skip (.child rowRead.fits (.only columnRead.fits)))

theorem Stmt.outlines_eq_map
    (role : String)
    (statements : List Stmt) :
    Stmt.outlines role statements =
      statements.map fun statement => (role, statement.outline) := by
  induction statements with
  | nil => rfl
  | cons statement statements inductionHypothesis =>
      rw [Stmt.outlines, inductionHypothesis, List.map_cons]

/-- The outline of a clause of a switch, in its role. -/
def Clause.outline : Clause -> String × Outline
  | .case position condition body =>
      ("cases",
        .node ⟨"case", .case, some position, []⟩
          [("condition", condition.outline), ("body", body.outline)])
  | .otherwise position body =>
      ("default",
        .node ⟨"default_case", .otherwise, some position,
          []⟩ [("body", body.outline)])

theorem Stmt.casesOutlines_defaultOf
    (clauses : List Clause) :
    (Stmt.casesOutlines (.defaultOf clauses)).Sublist
      ((clauses.map Clause.outline).filter (·.1 = "default")) := by
  induction clauses with
  | nil => exact .slnil
  | cons clause clauses inductionHypothesis =>
      cases clause with
      | case =>
          simpa [Cases.defaultOf, Clause.outline] using inductionHypothesis
      | otherwise => simp [Cases.defaultOf, Clause.outline, Stmt.casesOutlines]

/-- The clauses of a switch are listed by their roles. -/
theorem Stmt.casesOutlines_ofClauses
    (clauses : List Clause) :
    (Stmt.casesOutlines (.ofClauses clauses)).Sublist
      (Outline.byRole "cases" "default" (clauses.map Clause.outline)) := by
  have last := Stmt.casesOutlines_defaultOf clauses
  rw [Cases.ofClauses, Outline.byRole]
  generalize Cases.defaultOf clauses = default at last ⊢
  generalize (clauses.map Clause.outline).filter (·.1 = "default") =
    defaults at last ⊢
  induction clauses with
  | nil => exact last
  | cons clause clauses inductionHypothesis =>
      cases clause with
      | case =>
          simpa [Clause.outline, Stmt.casesOutlines] using inductionHypothesis
      | otherwise => simpa [Clause.outline] using inductionHypothesis

/--
A switch fits tokens over which its test and its clauses are laid as they were
written.
-/
theorem Stmt.fits_switch
    {word : Token}
    {tokens : List Token}
    {test : Expr}
    {clauses : List Clause}
    (laid :
      Laid (test.outline :: clauses.map fun clause => clause.outline.2)
        tokens) :
    (Stmt.switch word.position test (.ofClauses clauses)).outline.Fits
      (word :: tokens) := by
  have fewer := Stmt.casesOutlines_ofClauses clauses
  have among : ∀ child ∈ Stmt.casesOutlines (.ofClauses clauses),
      child.2 ∈ clauses.map fun clause => clause.outline.2 := by
    intro child listed
    obtain ⟨clause, isClause, rfl⟩ :=
      List.mem_map.1 (Outline.mem_of_mem_byRole (fewer.subset listed))
    exact List.mem_map_of_mem isClause
  refine .of_laid (fun _ => id) (.skip laid) ?_ fun inOrder => ?_
  · exact List.forall_mem_cons.2 ⟨List.mem_cons_self, fun child listed =>
      List.mem_cons_of_mem _ (among child listed)⟩
  · obtain ⟨testFirst, ordered⟩ := List.pairwise_cons.1 inOrder
    refine List.pairwise_cons.2 ⟨fun child listed => ?_, ?_⟩
    · exact (testFirst _ (among child listed)).inOrder
        (by simp [Outline.swapped])
    · refine (Outline.pairwise_byRole (by decide) ?_).sublist fewer
      rwa [List.map_map]

/-- A part of a statement fits tokens, each of its trees behind the other. -/
def Passage.Fits : (passage : Passage) -> passage.Tree -> List Token -> Prop
  | .statement, tree, tokens => tree.outline.Fits tokens
  | .statements, list, tokens => Laid (list.map Stmt.outline) tokens
  | .clauses _, list, tokens =>
      Laid (list.map fun clause => clause.outline.2) tokens

/-- What is read from a part of a statement fits its tokens. -/
theorem Passage.Reads.fits
    {passage : Passage}
    {tokens : List Token}
    {tree : passage.Tree}
    (reads : passage.Reads tokens tree) : passage.Fits tree tokens := by
  induction reads with
  | define _ typeRead _ _ valueRead _ =>
      exact .node (fun _ => id) (by simp)
        (.skip (.child typeRead.fits
          (.skip (.skip ((Laid.only valueRead.fits).leave _)))))
  | declare _ typeRead _ _ =>
      exact .node (fun _ => id) (by simp)
        (.skip ((Laid.only typeRead.fits).leave _))
  | returnValue _ valueRead _ =>
      exact .node (fun _ => id) (by simp)
        (.skip ((Laid.only valueRead.fits).leave _))
  | assign _ selectorRead _ valueRead _ =>
      exact .node (fun _ => id) (by simp)
        (.child (selectorRead.fits _)
          (.skip ((Laid.only valueRead.fits).leave _)))
  | call _ _ arguments _ _ =>
      rw [Fits, Stmt.outline, Expr.outlines_eq_map]
      exact .repeated (fun _ => id) (by decide)
        (.skip (.skip (arguments.fits.leave _)))
  | forLoop _ _ _ _ initRead _ conditionRead _ _ _ stepRead _ _ body =>
      exact .node (fun _ => id) (by simp)
        (.skip (.skip
          (.skip (.skip (.child initRead.fits (.skip (.child conditionRead.fits
          (.skip
            (.skip (.skip (.child stepRead.fits (.skip (.only body)))))))))))))
  | foreachLoop _ _ iteratorRead _ sourceRead _ _ body =>
      exact .node (fun _ => id) (by simp)
        (.skip (.skip (.child iteratorRead.fits.2 (.skip (.child sourceRead.fits
          (.skip (.only body)))))))
  | ifThen _ conditionRead _ body =>
      exact .node (fun _ => id) (by simp)
        (.skip (.child conditionRead.fits (.only body)))
  | ifElse _ conditionRead _ _ _ _ thenBody elseBody =>
      exact .node (fun _ => id) (by simp)
        (.skip (.child conditionRead.fits
          (.child thenBody (.skip (.only elseBody)))))
  | switch _ testRead _ _ _ clauses =>
      exact Stmt.fits_switch (.child testRead.fits (.skip (clauses.leave _)))
  | block _ _ _ statements =>
      rw [Fits, Stmt.outline, Stmt.outlines_eq_map]
      exact .repeated (fun _ => id) (by decide) (.skip (statements.leave _))
  | noStatements | noClauses => exact .nothing _
  | statements _ _ statement others => exact .child statement others
  | case _ conditionRead _ _ _ body others =>
      refine .child (.node (fun _ => id) (by simp) ?_) others
      exact .skip (.child conditionRead.fits (.skip (.only body)))
  | otherwise _ _ _ _ body others =>
      refine .child (.node (fun _ => id) (by simp) ?_) others
      exact .skip (.skip (.only body))

end MatrixLang
