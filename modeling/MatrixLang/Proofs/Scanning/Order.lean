import MatrixLang.Proofs.Scanning.Steps

/-!
# Tokens are scanned in order

Positions are ordered by line and then by column.  Every character moves the
position on, and so the tokens of a scanner have strictly increasing positions
(`Scanner.increasing_tokens`).
-/

namespace MatrixLang

namespace Position

instance : LT Position := ltOfOrd

instance : LE Position := leOfOrd

theorem lt_iff
    {left right : Position} :
    left < right ↔
      left.line < right.line ∨
        (left.line = right.line ∧ left.column < right.column) := by
  change ((compare left.line right.line).then
    (compare left.column right.column)) = .lt ↔ _
  simp [Ordering.then_eq_lt, Nat.compare_eq_lt]

theorem le_iff
    {left right : Position} :
    left ≤ right ↔
      left.line < right.line ∨
        (left.line = right.line ∧ left.column ≤ right.column) := by
  change ((compare left.line right.line).then
    (compare left.column right.column)).isLE = true ↔ _
  rw [Ordering.isLE_then_iff_or]
  simp [Nat.compare_eq_lt, Nat.isLE_compare]

theorem le_refl (position : Position) : position ≤ position := by
  rw [le_iff]
  omega

theorem le_of_lt
    {left right : Position}
    (less : left < right) : left ≤ right := by
  rw [lt_iff] at less
  rw [le_iff]
  omega

theorem lt_of_le_of_lt
    {left middle right : Position}
    (first : left ≤ middle)
    (second : middle < right) : left < right := by
  rw [le_iff] at first
  rw [lt_iff] at second ⊢
  omega

theorem lt_of_lt_of_le
    {left middle right : Position}
    (first : left < middle)
    (second : middle ≤ right) : left < right := by
  rw [le_iff] at second
  rw [lt_iff] at first ⊢
  omega

/-- A character moves the position on. -/
theorem lt_after
    (position : Position)
    (character : Char) :
    position < position.after character := by
  rw [lt_iff, after]
  split <;> simp

/-- A text moves the position on, if it has a character. -/
theorem le_afterAll
    (position : Position)
    (text : List Char) :
    position ≤ position.afterAll text := by
  induction text generalizing position with
  | nil => exact le_refl position
  | cons character text inductionHypothesis =>
      exact le_of_lt
        (lt_of_lt_of_le (lt_after position character) (inductionHypothesis _))

theorem lt_afterAll
    {text : List Char}
    (nonempty : text ≠ [])
    (position : Position) :
    position < position.afterAll text := by
  cases text with
  | nil => exact absurd rfl nonempty
  | cons character text =>
      exact lt_of_lt_of_le (lt_after position character) (le_afterAll _ text)

end Position

/-- The positions of tokens increase strictly. -/
def Increasing (tokens : List Token) : Prop :=
  tokens.Pairwise fun earlier later => earlier.position < later.position

namespace Scanner

/-- What is scanned next stands behind what was scanned before. -/
theorem position_of_next?
    {scanner : Scanner}
    {scan : Scan}
    (found : scanner.next? = some scan) :
    scanner.position ≤ scan.token.position ∧
      (scan.rest.finished = false ->
        scan.token.position < scan.rest.position) := by
  have skipped : scanner.position ≤ scanner.skipTrivia.position :=
    Position.le_afterAll _ _
  obtain ⟨-, ⟨lexeme, first, token, rest⟩ | ⟨-, token, rest⟩⟩ :=
    next_cases found
  · have start : scan.token.position = scanner.skipTrivia.position := by
      rw [token]
      cases lexeme <;> rfl
    refine ⟨start ▸ skipped, fun _ => ?_⟩
    have taken :
        scanner.skipTrivia.rest.take lexeme.text.length = lexeme.text :=
      List.prefix_iff_eq_take.1 (Token.Lexeme.text_isPrefix first) |>.symm
    rw [start, rest, skip, taken]
    exact Position.lt_afterAll (Token.Lexeme.text_ne_nil first) _
  · refine ⟨?_, fun unfinished => ?_⟩
    · rw [token]
      exact skipped
    · rw [rest] at unfinished
      cases unfinished

/-- The tokens of a scanner stand behind its position, in order. -/
theorem increasing_tokens
    (scanner : Scanner) :
    Increasing scanner.tokens ∧
      ∀ token ∈ scanner.tokens, scanner.position ≤ token.position := by
  induction size : scanner.size using Nat.strongRecOn generalizing scanner with
  | ind size inductionHypothesis =>
      cases found : scanner.next? with
      | none =>
          rw [tokens, scans_of_next?_none found]
          exact ⟨.nil, List.forall_mem_nil _⟩
      | some scan =>
          have smaller := size_lt_of_next? found
          obtain ⟨start, further⟩ := position_of_next? found
          obtain ⟨increasing, later⟩ :=
            inductionHypothesis _ (by omega) scan.rest rfl
          have behind : ∀ token ∈ scan.rest.tokens,
              scan.token.position < token.position := by
            intro token isLater
            cases ended : scan.rest.finished with
            | false =>
                exact Position.lt_of_lt_of_le (further ended)
                  (later token isLater)
            | true =>
                rw [tokens,
                  scans_of_next?_none (next?_eq_none_iff.2 ended)] at isLater
                cases isLater
          rw [tokens, scans_of_next? found, List.map_cons, ← tokens]
          refine ⟨List.pairwise_cons.2 ⟨behind, increasing⟩,
            List.forall_mem_cons.2 ⟨start, ?_⟩⟩
          intro token isLater
          exact Position.le_of_lt
            (Position.lt_of_le_of_lt start (behind token isLater))

end Scanner
end MatrixLang
