import MatrixLang.Proofs.Acceptance
import MatrixLang.Proofs.Placement.Syntax

/-!
# Parsed modules are well placed

Functions, record types and modules fit the tokens from which they are read.
The children of a module are listed by their kind, so that a function and a
record type may stand in either order.  Whatever is parsed from tokens in order
is therefore well placed, and the tokens of a text are in order.
-/

namespace MatrixLang

open Outline (Laid)

/-! ## Functions and record types -/

namespace Parameter

/-- A parameter fits its tokens. -/
theorem Reads.fits
    {tokens : List Token}
    {parameter : Parameter}
    (reads : parameter.Reads tokens) : parameter.outline.Fits tokens := by
  cases reads with
  | intro typeRead _ =>
      exact .node (starts_append typeRead.ne_nil _) (by simp)
        ((Laid.only typeRead.fits).leave _)

theorem FurtherReads.laid
    {tokens : List Token}
    {parameters : List Parameter}
    (reads : FurtherReads tokens parameters) :
    Laid (parameters.map outline) tokens := by
  induction reads with
  | none => exact .nothing _
  | more _ read _ inductionHypothesis =>
      exact .skip (.child read.fits inductionHypothesis)

/-- Parameters are laid over their tokens. -/
theorem AllRead.laid
    {tokens : List Token}
    {parameters : List Parameter}
    (reads : AllRead tokens parameters) :
    Laid (parameters.map outline) tokens := by
  cases reads with
  | none => exact .nothing _
  | some read others => exact .child read.fits others.laid

end Parameter

/-- A function fits its tokens. -/
theorem Function.Reads.fits
    {tokens : List Token}
    {function : Function}
    (reads : function.Reads tokens) : function.outline.Fits tokens := by
  cases reads with
  | intro _ typeRead _ _ parametersRead _ _ bodyRead _ =>
      rw [Function.outline, Stmt.outlines_eq_map]
      refine .node (fun _ => id) (by simp [or_imp, forall_and]) ?_
      rw [List.map_cons, List.map_append, List.map_map, List.map_map]
      refine .skip (.child typeRead.fits (.skip (.skip ?_)))
      refine parametersRead.laid.append (.skip (.skip ?_))
      exact bodyRead.fits.leave _

namespace Record

theorem ElementsRead.laid
    {tokens : List Token}
    {elements : List Binding}
    (reads : ElementsRead tokens elements) :
    Laid (elements.map Binding.elementOutline) tokens := by
  induction reads with
  | none => exact .nothing _
  | more read _ _ inductionHypothesis =>
      exact .child read.fits.1 (.skip inductionHypothesis)

/-- A record type fits its tokens. -/
theorem Reads.fits
    {tokens : List Token}
    {record : Record}
    (reads : record.Reads tokens) : record.outline.Fits tokens := by
  cases reads with
  | intro _ _ _ elementsRead _ =>
      exact .repeated (fun _ => id) (by decide)
        (.skip (.skip (.skip (elementsRead.laid.leave _))))

end Record

/-! ## Modules -/

namespace Declaration

/-- The outline of a declaration, in its role. -/
def outline : Declaration -> String × Outline
  | .function declared => ("functions", declared.outline)
  | .record declared => ("records", declared.outline)

/-- Declarations are laid over their tokens. -/
theorem AllRead.laid
    {tokens : List Token}
    {declarations : List Declaration}
    (reads : AllRead tokens declarations) :
    Laid (declarations.map fun declaration => declaration.outline.2)
      tokens := by
  induction reads with
  | none => exact .nothing _
  | function read _ inductionHypothesis =>
      exact .child read.fits inductionHypothesis
  | record read _ inductionHypothesis =>
      exact .child read.fits inductionHypothesis

end Declaration

/-- The declarations of a module are listed by their roles. -/
theorem Module.outline_ofDeclarations
    (position : Position)
    (declarations : List Declaration) :
    ∃ label, label.position? = some position ∧
      (Module.ofDeclarations position declarations).outline =
        .node label
          (Outline.byRole "functions" "records"
            (declarations.map Declaration.outline)) := by
  refine ⟨_, rfl, congrArg (Outline.node _) ?_⟩
  simp only [Module.ofDeclarations, Outline.byRole]
  congr 1
  all_goals
    induction declarations with
    | nil => rfl
    | cons declaration declarations inductionHypothesis =>
        cases declaration <;> simp [Declaration.outline, inductionHypothesis]

/--
A module fits the tokens of its declarations, with whatever stands behind them.
-/
theorem Declaration.AllRead.fits
    {tokens : List Token}
    {declarations : List Declaration}
    (reads : AllRead tokens declarations)
    (rest : List Token)
    (nonempty : tokens ++ rest ≠ []) :
    (Module.ofDeclarations (startOf (tokens ++ rest)) declarations).outline.Fits
      (tokens ++ rest) := by
  obtain ⟨label, position, same⟩ :=
    Module.outline_ofDeclarations (startOf (tokens ++ rest)) declarations
  rw [same]
  refine .of_laid (fun own isOwn => ?_) (reads.laid.leave rest)
    (fun child listed => ?_)
    fun inOrder => ?_
  · rw [head?_of_ne_nil nonempty, ← position]
    exact isOwn
  · obtain ⟨declaration, isDeclaration, rfl⟩ :=
      List.mem_map.1 (Outline.mem_of_mem_byRole listed)
    exact List.mem_map_of_mem isDeclaration
  · refine Outline.pairwise_byRole (by decide) ?_
    rwa [List.map_map]

/--
A module fits the tokens that were parsed, or the end of the file where there
were none.
-/
theorem parseModule_fits
    {source : TokenStream}
    {module : Module}
    (parsed : (parseModule source).result = .ok module) :
    ∃ tokens,
      module.outline.Fits tokens ∧
      (tokens <+: source.tokens ∨
        (source.tokens = [] ∧ tokens = [endOf []])) := by
  obtain ⟨start, tokens, found, moves, -, -, ⟨declarations, reads, rfl⟩, -⟩ :=
    parseModule_of_ok parsed
  rcases Spot.Moves.tokens_eq found moves with more | ⟨all, -, last⟩
  · refine ⟨tokens ++ [(parseModule source).cursor.current], ?_, .inl ?_⟩
    · exact reads.fits _
        (List.append_ne_nil_of_right_ne_nil _ (List.cons_ne_nil _ _))
    · have listed : source.tokens =
          tokens ++ (parseModule source).cursor.spot.tokens := more
      rw [listed, List.prefix_append_right_inj]
      exact ⟨_, rfl⟩
  · have listed : source.tokens = tokens := all
    have ended : (parseModule source).cursor.current = endOf tokens := last
    rw [listed, ended]
    cases tokens with
    | nil =>
        exact ⟨[endOf []], reads.fits [endOf []] (List.cons_ne_nil _ _),
          .inr ⟨rfl, rfl⟩⟩
    | cons token tokens =>
        have fits := reads.fits [] (List.cons_ne_nil _ _)
        rw [List.append_nil] at fits
        exact ⟨token :: tokens, fits, .inl (List.prefix_refl _)⟩

/--
Tokens of a text have increasing positions, and whatever is parsed from tokens
with increasing positions is well placed and has no positions but those of
tokens; where there is no token, it has that of the end of the file.
-/
theorem parseModule_wellPlaced :
    (∀ text, Increasing (TokenStream.ofText text).tokens) ∧
    ∀ (source : TokenStream) (module : Module),
      Increasing source.tokens ->
      (parseModule source).result = .ok module ->
      module.outline.WellPlaced ∧
      ∀ position ∈ module.outline.positions,
        (∃ token ∈ source.tokens, token.position = position) ∨
        (source.tokens = [] ∧ position = (endOf []).position) := by
  refine ⟨fun text => (Scanner.ofText text).increasing_tokens.1, ?_⟩
  intro source module increasing parsed
  obtain ⟨tokens, fits, isFront | ⟨empty, rfl⟩⟩ := parseModule_fits parsed
  · obtain ⟨placed, within⟩ := fits (increasing.sublist isFront.sublist)
    refine ⟨placed, fun position shown => .inl ?_⟩
    obtain ⟨token, listed, rfl⟩ := List.mem_map.1 (within position shown)
    exact ⟨token, isFront.subset listed, rfl⟩
  · obtain ⟨placed, within⟩ := fits (List.pairwise_singleton _ _)
    refine ⟨placed, fun position shown => .inr ⟨empty, ?_⟩⟩
    simpa using within position shown

/-- A function with a switch whose default is written before its case. -/
def defaultFirstText : String :=
  "function int f()\x7b\nswitch (a) \x7b\ndefault: return (b);\n" ++
    "case 1: return v\x7b1:0:2\x7d;\n\x7d\x7d"

/-- The module of that function, where the default stands behind the case. -/
def defaultFirst : Module :=
  ⟨[⟨.int, "f", [],
    [.switch ⟨2, 1⟩ (.reference ⟨2, 9⟩ "a")
      (.cons ⟨4, 1⟩ (.int ⟨4, 6⟩ 1)
        (.returnValue ⟨4, 9⟩ (.subvector ⟨4, 16⟩ (.reference ⟨4, 16⟩ "v")
          (.int ⟨4, 18⟩ 1) (.int ⟨4, 20⟩ 0) (.int ⟨4, 22⟩ 2)))
        (.otherwise ⟨3, 1⟩ (.returnValue ⟨3, 10⟩ (.reference ⟨3, 18⟩ "b"))))],
    ⟨1, 1⟩⟩], [], ⟨1, 1⟩⟩

/--
A switch is well placed though its children are listed in another order than
written.
-/
theorem parseModule_wellPlaced_defaultFirst :
    Increasing (TokenStream.ofText defaultFirstText).tokens ∧
      (parseModule (.ofText defaultFirstText)).result = .ok defaultFirst ∧
      defaultFirst.outline.WellPlaced := by
  have increasing := parseModule_wellPlaced.1 defaultFirstText
  have parsed :
      (parseModule (.ofText defaultFirstText)).result = .ok defaultFirst := by
    rfl
  exact ⟨increasing, parsed, (parseModule_wellPlaced.2 _ _ increasing parsed).1⟩

end MatrixLang
