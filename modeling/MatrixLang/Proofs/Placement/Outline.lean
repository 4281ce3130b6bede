import MatrixLang.Outline.Syntax
import MatrixLang.Proofs.Reading.Expression
import MatrixLang.Proofs.Scanning.Order
import Mathlib.Data.List.Pairwise

/-!
# Well placed outlines

An outline is well placed when no position in it is before that of the root and
its children stand one behind the other in the order in which they were written.
`Outline.Fits` says so of an outline that was read from some tokens, and
`Outline.Laid` says that outlines were read from parts of the tokens, one behind
the other; a node fits its tokens when its children are laid over them
(`Outline.Fits.of_laid`).
-/

namespace MatrixLang
namespace Outline

mutual

/-- The positions in an outline, that of the root first. -/
def positions : Outline -> List Position
  | .node label children => label.position?.toList ++ childPositions children

/-- The positions in children. -/
def childPositions : List (String × Outline) -> List Position
  | [] => []
  | (_, child) :: rest => positions child ++ childPositions rest

end

theorem mem_childPositions
    {position : Position}
    {children : List (String × Outline)} :
    position ∈ childPositions children ↔
      ∃ child ∈ children, position ∈ child.2.positions := by
  induction children with
  | nil => simp [childPositions]
  | cons child children inductionHypothesis =>
      simp [childPositions, inductionHypothesis]

/-- All of an outline stands before all of another. -/
def Before (earlier later : Outline) : Prop :=
  ∀ first ∈ earlier.positions, ∀ second ∈ later.positions, first < second

/-- One of two outlines stands before the other. -/
def Apart (left right : Outline) : Prop :=
  left.Before right ∨ right.Before left

instance : Std.Symm fun left right : String × Outline => left.2.Apart right.2 :=
  ⟨fun _ _ => Or.symm⟩

/-- Two roles of which the second is written before the first. -/
def swapped : List (String × String) :=
  [("base_index", "start"), ("row_base", "row_start"),
    ("col_base", "col_start")]

@[simp]
theorem mem_swapped_fst
    {role : String} :
    role ∈ swapped.map Prod.fst ↔
      role = "base_index" ∨ role = "row_base" ∨ role = "col_base" := by
  simp [swapped]

/-- Two roles that are written in any order. -/
def unordered : List (String × String) :=
  [("cases", "default"), ("functions", "records")]

/-- Two children stand in the order in which they were written. -/
def InOrder (left right : String × Outline) : Prop :=
  if (left.1, right.1) ∈ swapped then
    right.2.Before left.2
  else if (left.1, right.1) ∈ unordered then
    left.2.Apart right.2
  else
    left.2.Before right.2

theorem Before.inOrder
    {left right : String × Outline}
    (before : left.2.Before right.2)
    (listed : (left.1, right.1) ∉ swapped) : InOrder left right := by
  rw [InOrder, if_neg listed]
  split
  · exact .inl before
  · exact before

/--
No position is before that of the root, children are in order and well placed
themselves.
-/
inductive WellPlaced : Outline -> Prop
  | node
      {label : Label}
      {children : List (String × Outline)}
      (first : ∀ own ∈ label.position?,
        ∀ position ∈ childPositions children, own ≤ position)
      (ordered : children.Pairwise InOrder)
      (below : ∀ child ∈ children, child.2.WellPlaced) :
      WellPlaced (.node label children)

/--
If tokens are in order, an outline is well placed and has only positions of the
tokens.
-/
def Fits (outline : Outline) (tokens : List Token) : Prop :=
  Increasing tokens ->
    outline.WellPlaced ∧
      ∀ position ∈ outline.positions, position ∈ tokens.map Token.position

/-- Outlines that fit parts of some tokens, one behind the other. -/
inductive Laid : List Outline -> List Token -> Prop
  | nothing (tokens : List Token) : Laid [] tokens
  | skip
      {token : Token}
      {tokens : List Token}
      {outlines : List Outline}
      (behind : Laid outlines tokens) :
      Laid outlines (token :: tokens)
  | child
      {tokens rest : List Token}
      {outline : Outline}
      {outlines : List Outline}
      (fits : outline.Fits tokens)
      (behind : Laid outlines rest) :
      Laid (outline :: outlines) (tokens ++ rest)

namespace Laid

theorem skipAll
    {tokens : List Token}
    {outlines : List Outline}
    (skipped : List Token)
    (behind : Laid outlines tokens) : Laid outlines (skipped ++ tokens) := by
  induction skipped with
  | nil => exact behind
  | cons token skipped inductionHypothesis => exact .skip inductionHypothesis

/-- Outlines are laid behind others. -/
theorem append
    {tokens rest : List Token}
    {outlines others : List Outline}
    (front : Laid outlines tokens)
    (behind : Laid others rest) :
    Laid (outlines ++ others) (tokens ++ rest) := by
  induction front with
  | nothing tokens => exact behind.skipAll tokens
  | skip _ inductionHypothesis => exact .skip inductionHypothesis
  | child fits _ inductionHypothesis =>
      rw [List.append_assoc]
      exact .child fits inductionHypothesis

/-- Tokens may be left behind the last outline. -/
theorem leave
    {tokens : List Token}
    {outlines : List Outline}
    (laid : Laid outlines tokens)
    (rest : List Token) : Laid outlines (tokens ++ rest) := by
  have extended := laid.append (.nothing rest)
  rwa [List.append_nil] at extended

/-- One outline is laid over the tokens that it fits. -/
theorem only
    {tokens : List Token}
    {outline : Outline}
    (fits : outline.Fits tokens) : Laid [outline] tokens := by
  have laid := child fits (.nothing [])
  rwa [List.append_nil] at laid

/--
The first of some outlines fits a part of the tokens, and the others are laid
behind it.
-/
theorem uncons
    {tokens : List Token}
    {outline : Outline}
    {outlines : List Outline}
    (laid : Laid (outline :: outlines) tokens) :
    ∃ skipped own rest,
      tokens = skipped ++ (own ++ rest) ∧
        outline.Fits own ∧ Laid outlines rest := by
  generalize all : outline :: outlines = list at laid
  induction laid with
  | nothing => cases all
  | @skip token _ _ _ inductionHypothesis =>
      obtain ⟨skipped, own, rest, rfl, fits, behind⟩ := inductionHypothesis all
      exact ⟨token :: skipped, own, rest, rfl, fits, behind⟩
  | child fits behind =>
      cases all
      exact ⟨[], _, _, rfl, fits, behind⟩

/-- Outlines that are laid over tokens in order stand in order. -/
theorem placed
    {tokens : List Token}
    {outlines : List Outline}
    (laid : Laid outlines tokens)
    (increasing : Increasing tokens) :
    outlines.Pairwise Before ∧
      ∀ outline ∈ outlines, outline.WellPlaced ∧
        ∀ position ∈ outline.positions,
          position ∈ tokens.map Token.position := by
  induction laid with
  | nothing => exact ⟨.nil, nofun⟩
  | skip _ inductionHypothesis =>
      obtain ⟨ordered, all⟩ :=
        inductionHypothesis (List.pairwise_cons.1 increasing).2
      refine ⟨ordered, fun outline listed => ?_⟩
      obtain ⟨placed, within⟩ := all outline listed
      exact ⟨placed,
        fun position shown => List.mem_cons_of_mem _ (within position shown)⟩
  | child fits _ inductionHypothesis =>
      obtain ⟨first, second, across⟩ := List.pairwise_append.1 increasing
      obtain ⟨placed, within⟩ := fits first
      obtain ⟨ordered, all⟩ := inductionHypothesis second
      rw [List.map_append]
      refine ⟨List.pairwise_cons.2 ⟨?_, ordered⟩,
        List.forall_mem_cons.2 ⟨?_, ?_⟩⟩
      · intro later listed position shown other otherShown
        obtain ⟨token, isEarly, rfl⟩ := List.mem_map.1 (within position shown)
        obtain ⟨otherToken, isLate, rfl⟩ :=
          List.mem_map.1 ((all later listed).2 other otherShown)
        exact across token isEarly otherToken isLate
      · exact ⟨placed,
          fun position shown => List.mem_append_left _ (within position shown)⟩
      · intro later listed
        obtain ⟨laterPlaced, laterWithin⟩ := all later listed
        exact ⟨laterPlaced,
          fun position shown =>
            List.mem_append_right _ (laterWithin position shown)⟩

end Laid

/-- The first of tokens in order has the least position. -/
theorem le_of_head?
    {tokens : List Token}
    {own position : Position}
    (increasing : Increasing tokens)
    (first : tokens.head?.map Token.position = some own)
    (listed : position ∈ tokens.map Token.position) : own ≤ position := by
  cases tokens with
  | nil => cases first
  | cons token rest =>
      cases first
      obtain ⟨other, member, rfl⟩ := List.mem_map.1 listed
      rcases List.mem_cons.1 member with rfl | later
      · exact Position.le_refl _
      · exact Position.le_of_lt
          ((List.pairwise_cons.1 increasing).1 other later)

/--
A node fits tokens over which its children are laid in the order in which they
were written.
-/
theorem Fits.of_laid
    {label : Label}
    {children : List (String × Outline)}
    {written : List Outline}
    {tokens : List Token}
    (start :
      ∀ own ∈ label.position?, tokens.head?.map Token.position = some own)
    (laid : Laid written tokens)
    (among : ∀ child ∈ children, child.2 ∈ written)
    (ordered : written.Pairwise Before -> children.Pairwise InOrder) :
    Fits (.node label children) tokens := by
  intro increasing
  obtain ⟨inOrder, all⟩ := laid.placed increasing
  have within : ∀ position ∈ childPositions children,
      position ∈ tokens.map Token.position := by
    intro position shown
    obtain ⟨child, listed, shown⟩ := mem_childPositions.1 shown
    exact (all child.2 (among child listed)).2 position shown
  refine ⟨.node ?_ (ordered inOrder) ?_, ?_⟩
  · intro own isOwn position shown
    exact le_of_head? increasing (start own isOwn) (within position shown)
  · intro child listed
    exact (all child.2 (among child listed)).1
  · intro position shown
    rw [positions, List.mem_append, Option.mem_toList] at shown
    rcases shown with isOwn | shown
    · have first := start position isOwn
      rw [← List.head?_map] at first
      exact List.mem_of_head? first
    · exact within position shown

/--
A node fits tokens over which its children are laid, when they are listed as
written.
-/
theorem Fits.node
    {label : Label}
    {children : List (String × Outline)}
    {tokens : List Token}
    (start :
      ∀ own ∈ label.position?, tokens.head?.map Token.position = some own)
    (listed : ∀ child ∈ children, child.1 ∉ swapped.map Prod.fst)
    (laid : Laid (children.map Prod.snd) tokens) :
    Fits (.node label children) tokens := by
  refine .of_laid start laid (fun child member => List.mem_map_of_mem member)
    fun inOrder => ?_
  refine (List.pairwise_map.1 inOrder).imp_of_mem fun isLeft _ before =>
    before.inOrder ?_
  exact fun isSwapped => listed _ isLeft (List.mem_map_of_mem isSwapped)

/-- A node with children in one role fits tokens over which they are laid. -/
theorem Fits.repeated
    {α : Type}
    {outline : α -> Outline}
    {label : Label}
    {role : String}
    {items : List α}
    {tokens : List Token}
    (start :
      ∀ own ∈ label.position?, tokens.head?.map Token.position = some own)
    (listed : role ∉ swapped.map Prod.fst)
    (laid : Laid (items.map outline) tokens) :
    Fits (.node label (items.map fun item => (role, outline item))) tokens := by
  refine .node start (List.forall_mem_map.2 fun _ _ => listed) ?_
  rw [List.map_map]
  exact laid

/--
Children in two roles, those in the first role before those in the second.
-/
def byRole
    (first second : String)
    (children : List (String × Outline)) :
    List (String × Outline) :=
  children.filter (·.1 = first) ++ children.filter (·.1 = second)

theorem mem_of_mem_byRole
    {first second : String}
    {children : List (String × Outline)}
    {child : String × Outline}
    (listed : child ∈ byRole first second children) : child ∈ children := by
  rcases List.mem_append.1 listed with isFirst | isSecond
  · exact (List.mem_filter.1 isFirst).1
  · exact (List.mem_filter.1 isSecond).1

/--
Children in two roles that are written in any order may be listed by their
roles.
-/
theorem pairwise_byRole
    {first second : String}
    {written : List (String × Outline)}
    (free : (first, second) ∈ unordered)
    (ordered : (written.map Prod.snd).Pairwise Before) :
    (byRole first second written).Pairwise InOrder := by
  rw [List.pairwise_map] at ordered
  have distinct :
      first ≠ second ∧ (first, first) ∉ swapped ∧ (second, second) ∉ swapped ∧
        (first, second) ∉ swapped := by
    simp only [unordered, List.mem_cons, Prod.mk.injEq, List.not_mem_nil,
      or_false] at free
    rcases free with ⟨rfl, rfl⟩ | ⟨rfl, rfl⟩ <;> decide
  have alike : ∀ role, (role, role) ∉ swapped ->
      (written.filter (·.1 = role)).Pairwise InOrder := by
    intro role notSwapped
    refine (ordered.filter _).imp_of_mem fun isLeft isRight before =>
      before.inOrder ?_
    rw [List.mem_filter, decide_eq_true_iff] at isLeft isRight
    rwa [isLeft.2, isRight.2]
  refine List.pairwise_append.2
    ⟨alike first distinct.2.1, alike second distinct.2.2.1, ?_⟩
  intro left isLeft right isRight
  rw [List.mem_filter, decide_eq_true_iff] at isLeft isRight
  have other : left ≠ right := by
    rintro rfl
    exact distinct.1 (isLeft.2.symm.trans isRight.2)
  have apart : written.Pairwise fun left right =>
      left.2.Apart right.2 := ordered.imp .inl
  rw [InOrder, isLeft.2, isRight.2, if_neg distinct.2.2.2, if_pos free]
  exact apart.forall isLeft.1 isRight.1 other

end Outline
end MatrixLang
