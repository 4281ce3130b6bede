import MatrixLang.Proofs.Printing.Expression

/-!
# Printable expressions

An expression is printable if its names and literals are spelled in its text as
the scanner spells them and none of its aggregates is empty.  Printable
expressions are written back (`Expr.Printable.written`), and whatever is read
from scanned tokens is printable (`Phrase.Reads.printable`).
-/

namespace MatrixLang

/--
The names of an expression are names, its numbers are finite and have no sign,
its strings have neither a quote nor a line feed in them and its aggregates have
elements.
-/
inductive Expr.Printable : Expr -> Prop
  | int
      (position : Position)
      {value : Int32}
      (nonneg : 0 ≤ value.toInt) :
      Printable (.int position value)
  | float
      (position : Position)
      {value : Single}
      (finite : value.IsFinite)
      (nonneg : value.negative = false) :
      Printable (.float position value)
  | bool
      (position : Position)
      (value : Bool) :
      Printable (.bool position value)
  | string
      (position : Position)
      {value : String}
      (inner : ∀ character ∈ value.toList, character ≠ '"' ∧ character ≠ '\n') :
      Printable (.string position value)
  | reference
      (position : Position)
      {name : String}
      (isName : IsName name) :
      Printable (.reference position name)
  | call
      (position : Position)
      {name : String}
      {arguments : List Expr}
      (isName : IsName name)
      (printable : ∀ expr ∈ arguments, Printable expr) :
      Printable (.call position name arguments)
  | unary
      (position : Position)
      (operator : UnaryOp)
      {operand : Expr}
      (printable : Printable operand) :
      Printable (.unary position operator operand)
  | binary
      (position : Position)
      (operator : BinaryOp)
      {left right : Expr}
      (leftPrintable : Printable left)
      (rightPrintable : Printable right) :
      Printable (.binary position operator left right)
  | select
      (position : Position)
      {condition onTrue onFalse : Expr}
      (printable : Printable condition)
      (truePrintable : Printable onTrue)
      (falsePrintable : Printable onFalse) :
      Printable (.select position condition onTrue onFalse)
  | element
      (position : Position)
      {base index : Expr}
      (printable : Printable base)
      (indexPrintable : Printable index) :
      Printable (.element position base index)
  | field
      (position : Position)
      {base : Expr}
      {name : String}
      (printable : Printable base)
      (isName : IsName name) :
      Printable (.field position base name)
  | subvector
      (position : Position)
      {base first origin last : Expr}
      (printable : Printable base)
      (firstPrintable : Printable first)
      (originPrintable : Printable origin)
      (lastPrintable : Printable last) :
      Printable (.subvector position base first origin last)
  | submatrix
      (position : Position)
      {base firstRow originRow lastRow firstColumn originColumn
        lastColumn : Expr}
      (printable : Printable base)
      (firstRowPrintable : Printable firstRow)
      (originRowPrintable : Printable originRow)
      (lastRowPrintable : Printable lastRow)
      (firstColumnPrintable : Printable firstColumn)
      (originColumnPrintable : Printable originColumn)
      (lastColumnPrintable : Printable lastColumn) :
      Printable
        (.submatrix position base firstRow originRow lastRow firstColumn
          originColumn lastColumn)
  | aggregate
      (position : Position)
      {elements : List Expr}
      (some : elements ≠ [])
      (printable : ∀ expr ∈ elements, Printable expr) :
      Printable (.aggregate position elements)
  | record
      (position : Position)
      {name : String}
      {elements : List Expr}
      (isName : IsName name)
      (some : elements ≠ [])
      (printable : ∀ expr ∈ elements, Printable expr) :
      Printable (.record position name elements)

namespace Expr

/-- An operator with one operand is written back. -/
theorem written_unary
    {operand : Expr}
    (written : operand.Written)
    (position : Position)
    (operator : UnaryOp) : (Expr.unary position operator operand).Written := by
  cases operator with
  | not => exact written_not written position
  | negate => exact written_negate written position
  | xDimension => exact @written_dimension _ .xDimension _ written rfl position
  | yDimension => exact @written_dimension _ .yDimension _ written rfl position
  | dimension => exact @written_dimension _ .dimension _ written rfl position

/-- Printable expressions are written back. -/
theorem Printable.written
    {expr : Expr}
    (printable : expr.Printable) : expr.Written := by
  induction printable with
  | int position nonneg => exact written_int nonneg position
  | float position finite nonneg => exact written_float finite nonneg position
  | bool position value => exact written_bool position value
  | string position inner => exact written_string inner position
  | reference position isName => exact written_reference isName position
  | call position isName _ written => exact written_call isName written position
  | unary position operator _ written =>
      exact written_unary written position operator
  | binary position operator _ _ left right =>
      exact written_binary left right position operator
  | select position _ _ _ condition onTrue onFalse =>
      exact written_select condition onTrue onFalse position
  | element position _ _ base index => exact written_element base index position
  | field position _ isName base => exact written_field base isName position
  | subvector position _ _ _ _ base first origin last =>
      exact written_subvector base first origin last position
  | submatrix position _ _ _ _ _ _ _ base firstRow originRow lastRow firstColumn
      originColumn lastColumn =>
      exact written_submatrix base firstRow originRow lastRow firstColumn
        originColumn lastColumn
        position
  | aggregate position some _ written =>
      exact written_aggregate some written position
  | record position isName some _ written =>
      exact written_record isName some written position

/-- Indexing some times in a row is printable. -/
theorem printable_elements
    {base : Expr}
    {indices : List Expr}
    (basePrintable : base.Printable)
    (printable : ∀ index ∈ indices, index.Printable)
    (position : Position) :
    (indices.foldl (Expr.element position) base).Printable := by
  induction indices generalizing base with
  | nil => exact basePrintable
  | cons index indices inductionHypothesis =>
      rw [List.forall_mem_cons] at printable
      exact inductionHypothesis
        (.element position basePrintable printable.1) printable.2

/-- A chain of operators is printable. -/
theorem printable_chain
    {first : Expr}
    {pairs : List (BinaryOp × Expr)}
    (firstPrintable : first.Printable)
    (printable : ∀ pair ∈ pairs, pair.2.Printable)
    (position : Position) :
    (pairs.foldl (fun left pair => .binary position pair.1 left pair.2)
      first).Printable := by
  induction pairs generalizing first with
  | nil => exact firstPrintable
  | cons pair pairs inductionHypothesis =>
      rw [List.forall_mem_cons] at printable
      exact inductionHypothesis
        (.binary position pair.1 firstPrintable printable.1) printable.2

end Expr

/-! ## Whatever is read is printable -/

namespace Phrase

/-- All the expressions that a part of an expression reads have a property. -/
def Each (property : Expr -> Prop) : (phrase : Phrase) -> phrase.Tree -> Prop
  | .tier _, expr => property expr
  | .enclosed _ _, expr => property expr
  | .operands _, pairs => ∀ pair ∈ pairs, property pair.2
  | .indices, list => ∀ expr ∈ list, property expr
  | .further, list => ∀ expr ∈ list, property expr
  | .arguments, list => ∀ expr ∈ list, property expr
  | .elements, list => list ≠ [] ∧ ∀ expr ∈ list, property expr
  | .range, parts => property parts.1 ∧ property parts.2.1 ∧ property parts.2.2

/-- A property of all the expressions may be weakened. -/
theorem Each.mono
    {property weaker : Expr -> Prop}
    (weaken : ∀ {expr}, property expr -> weaker expr)
    {phrase : Phrase}
    {tree : phrase.Tree}
    (each : phrase.Each property tree) : phrase.Each weaker tree := by
  cases phrase with
  | tier | enclosed => exact weaken each
  | operands => exact fun pair isOne => weaken (each pair isOne)
  | indices | further | arguments =>
      exact fun expr isOne => weaken (each expr isOne)
  | elements => exact ⟨each.1, fun expr isOne => weaken (each.2 expr isOne)⟩
  | range => exact ⟨weaken each.1, weaken each.2.1, weaken each.2.2⟩

/--
Whatever is read from tokens that are spelled as the scanner spells them is
printable.
-/
theorem Reads.printable
    {phrase : Phrase}
    {tokens : List Token}
    {tree : phrase.Tree}
    (reads : phrase.Reads tokens tree)
    (spelled : ∀ token ∈ tokens, token.Spelled) :
    phrase.Each Expr.Printable tree := by
  induction reads with
  | int kind read =>
      have unsigned := (spelled _ List.mem_cons_self).numeral (Or.inl kind)
      exact .int _ (Numeral.nonneg_of_int32? unsigned read)
  | float kind read =>
      have unsigned := (spelled _ List.mem_cons_self).numeral (Or.inr kind)
      obtain ⟨found, finite⟩ := Single.ofLiteral?_eq_some.1 read
      exact .float _ finite (Single.nonneg_of_ofNumeral? unsigned found)
  | bool => exact .bool _ _
  | string kind => exact .string _ ((spelled _ List.mem_cons_self).string kind)
  | reference kind =>
      exact .reference _ ((spelled _ List.mem_cons_self).name kind)
  | call nameKind _ _ _ inductionHypothesis =>
      simp only [List.forall_mem_cons, List.forall_mem_append] at spelled
      obtain ⟨name, -, inner, -⟩ := spelled
      exact .call _ (name.name nameKind) (inductionHypothesis inner)
  | parenthesized _ inductionHypothesis => exact inductionHypothesis spelled
  | aggregate _ inductionHypothesis =>
      obtain ⟨some, printable⟩ := inductionHypothesis spelled
      exact .aggregate _ some printable
  | record _ nameKind _ inductionHypothesis =>
      simp only [List.forall_mem_cons] at spelled
      obtain ⟨-, name, elements⟩ := spelled
      obtain ⟨some, printable⟩ := inductionHypothesis elements
      exact .record _ (name.name nameKind) some printable
  | bare _ _ inductionHypothesis => exact inductionHypothesis spelled
  | field _ _ nameKind inductionHypothesis =>
      simp only [List.forall_mem_cons, List.forall_mem_append] at spelled
      obtain ⟨base, -, name, -⟩ := spelled
      exact .field _ (inductionHypothesis base) (name.name nameKind)
  | element _ _ baseHypothesis indicesHypothesis =>
      rw [List.forall_mem_append] at spelled
      exact Expr.printable_elements (baseHypothesis spelled.1)
        (indicesHypothesis spelled.2) _
  | subvector _ _ baseHypothesis rangeHypothesis =>
      rw [List.forall_mem_append] at spelled
      obtain ⟨first, origin, last⟩ := rangeHypothesis spelled.2
      exact .subvector _ (baseHypothesis spelled.1) first origin last
  | submatrix _ _ _ baseHypothesis rowsHypothesis columnsHypothesis =>
      simp only [List.forall_mem_append] at spelled
      obtain ⟨base, rows, columns⟩ := spelled
      obtain ⟨first, origin, last⟩ := rowsHypothesis rows
      obtain ⟨firstColumn, originColumn, lastColumn⟩ :=
        columnsHypothesis columns
      exact .submatrix _ (baseHypothesis base) first origin last firstColumn
        originColumn lastColumn
  | chain _ _ firstHypothesis operandsHypothesis =>
      rw [List.forall_mem_append] at spelled
      exact Expr.printable_chain (firstHypothesis spelled.1)
        (operandsHypothesis spelled.2) _
  | dimension _ _ inductionHypothesis =>
      rw [List.forall_mem_append] at spelled
      exact .unary _ _ (inductionHypothesis spelled.1)
  | power _ _ _ baseHypothesis exponentHypothesis =>
      simp only [List.forall_mem_cons, List.forall_mem_append] at spelled
      obtain ⟨base, -, exponent⟩ := spelled
      exact .binary _ _ (baseHypothesis base) (exponentHypothesis exponent)
  | negate _ _ inductionHypothesis =>
      rw [List.forall_mem_cons] at spelled
      exact .unary _ _ (inductionHypothesis spelled.2)
  | not _ _ inductionHypothesis =>
      rw [List.forall_mem_cons] at spelled
      exact .unary _ _ (inductionHypothesis spelled.2)
  | select _ _ _ _ _ conditionHypothesis trueHypothesis falseHypothesis =>
      simp only [List.forall_mem_cons, List.forall_mem_append] at spelled
      obtain ⟨condition, -, onTrue, -, onFalse⟩ := spelled
      exact .select _ (conditionHypothesis condition) (trueHypothesis onTrue)
        (falseHypothesis onFalse)
  | enclosed _ _ _ inductionHypothesis =>
      simp only [List.forall_mem_cons, List.forall_mem_append] at spelled
      exact inductionHypothesis spelled.2.1
  | noOperands => exact List.forall_mem_nil _
  | operand _ _ _ rightHypothesis operandsHypothesis =>
      simp only [List.forall_mem_cons, List.forall_mem_append] at spelled
      obtain ⟨-, right, operands⟩ := spelled
      exact List.forall_mem_cons.2
        ⟨rightHypothesis right, operandsHypothesis operands⟩
  | noIndices => exact List.forall_mem_nil _
  | index _ _ indexHypothesis indicesHypothesis =>
      rw [List.forall_mem_append] at spelled
      exact List.forall_mem_cons.2
        ⟨indexHypothesis spelled.1, indicesHypothesis spelled.2⟩
  | nothingFurther => exact List.forall_mem_nil _
  | further _ _ _ exprHypothesis othersHypothesis =>
      simp only [List.forall_mem_cons, List.forall_mem_append] at spelled
      obtain ⟨-, expr, others⟩ := spelled
      exact List.forall_mem_cons.2
        ⟨exprHypothesis expr, othersHypothesis others⟩
  | noArguments => exact List.forall_mem_nil _
  | arguments _ _ exprHypothesis othersHypothesis =>
      rw [List.forall_mem_append] at spelled
      exact List.forall_mem_cons.2
        ⟨exprHypothesis spelled.1, othersHypothesis spelled.2⟩
  | elements _ _ _ _ exprHypothesis othersHypothesis =>
      simp only [List.forall_mem_cons, List.forall_mem_append] at spelled
      obtain ⟨-, expr, others, -⟩ := spelled
      refine ⟨List.cons_ne_nil _ _, ?_⟩
      exact List.forall_mem_cons.2
        ⟨exprHypothesis expr, othersHypothesis others⟩
  | range _ _ _ _ _ _ _ firstHypothesis originHypothesis lastHypothesis =>
      simp only [List.forall_mem_cons, List.forall_mem_append] at spelled
      obtain ⟨-, first, -, origin, -, last, -⟩ := spelled
      exact ⟨firstHypothesis first, originHypothesis origin,
        lastHypothesis last⟩

/--
Whatever is read from tokens that are spelled as the scanner spells them is
written back.
-/
theorem Reads.written
    {phrase : Phrase}
    {tokens : List Token}
    {tree : phrase.Tree}
    (reads : phrase.Reads tokens tree)
    (spelled : ∀ token ∈ tokens, token.Spelled) :
    phrase.Each Expr.Written tree :=
  (reads.printable spelled).mono Expr.Printable.written

end Phrase
end MatrixLang
