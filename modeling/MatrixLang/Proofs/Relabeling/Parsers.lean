import MatrixLang.Parser.Basic
import MatrixLang.Proofs.Relabeling.Trees

/-!
# Parsers that follow a relabeling

A parser mirrors another one if it takes the same steps on relabeled tokens and
yields the image of the value.  It may look at the positions, names and strings
of tokens, but no step may depend on them.  Mirroring goes along `bind`
(`Parser.Mirrors.bind`), so it is shown parser by parser.
-/

namespace MatrixLang

/-- What a rule yields, relabeled. -/
def Rule.relabel
    (labels : Relabeling) : (rule : Rule) -> rule.Result -> rule.Result
  | .expression => Expr.relabel labels
  | .power => Expr.relabel labels
  | .operands _ => List.map (Prod.map id (Expr.relabel labels))
  | .indices => List.map (Expr.relabel labels)
  | .arguments => List.map (Expr.relabel labels)
  | .elements => List.map (Expr.relabel labels)
  | .statement => Stmt.relabel labels
  | .statements => List.map (Stmt.relabel labels)
  | .parameters => List.map (Parameter.relabel labels)
  | .bindings => List.map (Binding.relabel labels)
  | .clauses _ => List.map (Clause.relabel labels)
  | .declarations => List.map (Declaration.relabel labels)

namespace Parser

/--
The second parser does on relabeled tokens what the first one does, and yields
the image.
-/
inductive Mirrors
    (labels : Relabeling)
    {α β : Type}
    (image : α -> β) :
    Parser α -> Parser β -> Prop
  | finish
      (value : α) : Mirrors labels image (.finish value) (.finish (image value))
  | inspect {next : Token -> Parser α} {other : Token -> Parser β} :
      (∀ token,
        Mirrors labels image (next token) (other (token.relabel labels))) ->
      Mirrors labels image (.inspect next) (.inspect other)
  | advance {next : Parser α} {other : Parser β} :
      Mirrors labels image next other ->
      Mirrors labels image (.advance next) (.advance other)
  | reject
      (refusal : Refusal) :
      Mirrors labels image (.reject refusal) (.reject refusal)
  /-- The noted events may differ. -/
  | note {event otherEvent : Event} {next : Parser α} {other : Parser β} :
      Mirrors labels image next other ->
      Mirrors labels image (.note event next) (.note otherEvent other)
  | call
      {rule : Rule}
      {next : rule.Result -> Parser α}
      {other : rule.Result -> Parser β} :
      (∀ value, Mirrors labels image (next value)
        (other (rule.relabel labels value))) ->
      Mirrors labels image (.call rule next) (.call rule other)

variable {α β γ δ : Type} {labels : Relabeling} {image : α -> β}

namespace Mirrors

/-- What follows mirrors what follows, given the image of the value. -/
theorem bind
    {nextImage : γ -> δ}
    {parser : Parser α}
    {other : Parser β}
    {next : α -> Parser γ}
    {otherNext : β -> Parser δ}
    (first : Mirrors labels image parser other)
    (second : ∀ value,
      Mirrors labels nextImage (next value) (otherNext (image value))) :
    Mirrors labels nextImage (parser.bind next) (other.bind otherNext) := by
  induction first with
  | finish value => exact second value
  | inspect _ inductionHypothesis => exact .inspect inductionHypothesis
  | advance _ inductionHypothesis => exact .advance inductionHypothesis
  | reject refusal => exact .reject refusal
  | note _ inductionHypothesis => exact .note inductionHypothesis
  | call _ inductionHypothesis => exact .call inductionHypothesis

/-- A value mirrors its image, however that is written. -/
theorem of_eq
    {value : α}
    {other : β}
    (same : image value = other) :
    Mirrors labels image (.finish value) (.finish other) :=
  same ▸ .finish value

/--
A choice that does not depend on the relabeling is mirrored branch by branch.
-/
theorem ite
    {condition : Prop}
    [Decidable condition]
    {onTrue onFalse : Parser α}
    {otherTrue otherFalse : Parser β}
    (first : condition -> Mirrors labels image onTrue otherTrue)
    (second : Mirrors labels image onFalse otherFalse) :
    Mirrors labels image (if condition then onTrue else onFalse)
      (if condition then otherTrue else otherFalse) := by
  split
  · next holds => exact first holds
  · exact second

end Mirrors

theorem mirrors_current
    (labels : Relabeling) :
    Mirrors labels (Token.relabel labels) current current :=
  .inspect .finish

theorem mirrors_here
    (labels : Relabeling) :
    Mirrors labels labels.position here here :=
  .inspect fun token => .finish token.position

theorem mirrors_skip (labels : Relabeling) : Mirrors labels id skip skip :=
  .advance (.finish ())

theorem mirrors_emit
    (labels : Relabeling)
    (event other : Event) :
    Mirrors labels id (emit event) (emit other) :=
  .note (.finish ())

theorem mirrors_apply
    (labels : Relabeling)
    (rule : Rule) :
    Mirrors labels (rule.relabel labels) (apply rule) (apply rule) :=
  .call .finish

/-- The spelling of an expected token is relabeled by its kind. -/
theorem mirrors_expect
    (labels : Relabeling)
    (kind : Token.Kind) :
    Mirrors labels (labels.spelling kind) (expect kind) (expect kind) := by
  refine .inspect fun token =>
    .ite (fun known => .advance (.of_eq ?_)) (.reject _)
  rw [← known]
  rfl

theorem mirrors_name
    (labels : Relabeling) :
    Mirrors labels labels.name (expect .identifier) (expect .identifier) :=
  mirrors_expect labels .identifier

theorem mirrors_pass
    (labels : Relabeling)
    (kind : Token.Kind) :
    Mirrors labels id (pass kind) (pass kind) :=
  (mirrors_expect labels kind).bind fun _ => .finish ()

end Parser
end MatrixLang
