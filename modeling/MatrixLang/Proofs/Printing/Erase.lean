import MatrixLang.Proofs.Relabeling.Trees

/-!
# Trees without their positions

Erasing a tree puts the start of a text in place of all its positions.  Two
trees are the same program when they are equal once they are erased.
-/

namespace MatrixLang

/-- The relabeling that forgets positions and keeps all else. -/
abbrev Relabeling.unplaced : Relabeling :=
  ⟨fun _ => .start, id, id⟩

/-- An expression without its positions. -/
abbrev Expr.erase : Expr -> Expr :=
  Expr.relabel .unplaced

/-- A type without the positions in its sizes. -/
abbrev Ty.erase : Ty -> Ty :=
  Ty.relabel .unplaced

/-- A binding without its positions. -/
abbrev Binding.erase : Binding -> Binding :=
  Binding.relabel .unplaced

/-- A selector without its positions. -/
abbrev Selector.erase : Selector -> Selector :=
  Selector.relabel .unplaced

/-- A statement without its positions. -/
abbrev Stmt.erase : Stmt -> Stmt :=
  Stmt.relabel .unplaced

/--
Whether an `else` would belong to a statement does not depend on positions.
-/
theorem Stmt.endsOpen_erase
    (statement : Stmt) :
    statement.erase.endsOpen = statement.endsOpen :=
  Stmt.endsOpen_relabel .unplaced statement

/-- A parameter without its positions. -/
abbrev Parameter.erase : Parameter -> Parameter :=
  Parameter.relabel .unplaced

/-- A function without its positions. -/
abbrev Function.erase : Function -> Function :=
  Function.relabel .unplaced

/-- A record type without its positions. -/
abbrev Record.erase : Record -> Record :=
  Record.relabel .unplaced

/-- A declaration without its positions. -/
abbrev Declaration.erase : Declaration -> Declaration :=
  Declaration.relabel .unplaced

/-- A module without its positions. -/
abbrev Module.erase : Module -> Module :=
  Module.relabel .unplaced

/-- Sorting declarations and erasing them may be done in either order. -/
theorem Module.erase_ofDeclarations
    (position : Position)
    (list : List Declaration) :
    (ofDeclarations position list).erase =
      ofDeclarations .start (list.map Declaration.erase) :=
  Module.relabel_ofDeclarations .unplaced position list

end MatrixLang
