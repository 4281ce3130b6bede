import MatrixLang.Proofs.Scanning.Layout

/-!
# Classes of lexemes

`Token.Pattern.Holds` says without the scanner which texts belong to the class
of a pattern.  From a text that starts with a member of its class a pattern
takes at least that member (`Token.Pattern.Holds.taken`), and it takes nothing
but members of its class (`Token.Pattern.holds_of_lexeme?`).  The open strings
and comments have no members: they are what is left when a class should have
matched.
-/

namespace MatrixLang
namespace Token
namespace Pattern

/-- The texts that belong to the class of a pattern. -/
def Holds : Pattern -> List Char -> Prop
  | .word, text =>
      ∃ first parts, text = first :: parts ∧ isWordStart first = true ∧
        ∀ part ∈ parts, isWordPart part = true
  | .float, text =>
      ∃ whole, IsDigits whole ∧
        ((∃ fraction exponent,
            text = whole ++ '.' :: (fraction ++ exponent) ∧ IsDigits fraction ∧
            (exponent = [] ∨ IsExponent exponent)) ∨
          ∃ exponent, text = whole ++ exponent ∧ IsExponent exponent)
  | .integer, text => IsDigits text
  | .blanks, text =>
      text ≠ [] ∧ ∀ character ∈ text, Text.isBlank character = true
  | .string, text =>
      ∃ body, text = '"' :: (body ++ ['"']) ∧
        ∀ character ∈ body, character ≠ '"' ∧ character ≠ '\n'
  | .lineComment, text => ∃ body, text = '/' :: '/' :: body ∧ '\n' ∉ body
  | .blockComment, text =>
      ∃ body, text = '/' :: '*' :: (body ++ ['*', '/']) ∧ ¬ ['*', '/'] <:+: body
  | .symbol kind, text => kind ∈ symbols ∧ text = kind.describe.toList
  | .openString, _ | .openComment, _ => False

variable {front text : List Char}

/-! ## What is taken -/

/-- A run with a property goes on as far as the property does. -/
theorem prefix_takeWhile
    {property : Char -> Bool}
    (all : ∀ character ∈ front, property character = true)
    (isFront : front <+: text) : front <+: text.takeWhile property := by
  obtain ⟨rest, rfl⟩ := isFront
  rw [List.takeWhile_append_of_pos all]
  exact List.prefix_append front _

theorem IsDigits.taken
    (isDigits : IsDigits front)
    (isFront : front <+: text) :
    ∃ digits, digits? text = some digits ∧ front.length ≤ digits.length := by
  have run := prefix_takeWhile isDigits.2 isFront
  rw [digits?]
  split
  · next empty =>
      rw [empty, List.prefix_nil] at run
      exact absurd run isDigits.1
  · exact ⟨_, rfl, run.length_le⟩

theorem IsExponent.taken
    (isExponent : IsExponent front)
    (isFront : front <+: text) :
    ∃ exponent,
      exponent? text = some exponent ∧ front.length ≤ exponent.length := by
  obtain ⟨mark, sign, digits, rfl, isMark, isSign, isDigits⟩ := isExponent
  obtain ⟨rest, rfl⟩ := isFront
  have signed : exponentSign (sign ++ (digits ++ rest)) = sign := by
    rcases isSign with rfl | rfl | rfl
    · rfl
    · rfl
    · exact exponentSign_digits isDigits.1 isDigits.2 rest
  obtain ⟨more, taken, longer⟩ :=
    isDigits.taken (List.prefix_append digits rest)
  refine ⟨mark :: (sign ++ more), ?_, by simpa using longer⟩
  rw [List.cons_append, List.append_assoc, exponent?, if_pos isMark]
  simp only [signed, List.drop_left, taken, Option.map_some]

/--
Behind digits and a point the digits of a fraction are taken, and an exponent
behind them.
-/
theorem float?_point
    {whole behind digits : List Char}
    (isWhole : IsDigits whole)
    (taken : digits? behind = some digits) :
    float? (whole ++ '.' :: behind) =
      some (whole ++ '.' :: digits ++
        (exponent? (behind.drop digits.length)).getD []) := by
  have wholeTaken : digits? (whole ++ '.' :: behind) = some whole :=
    digits?_append isWhole.1 isWhole.2 (by rintro character ⟨⟩; rfl)
  rw [float?, wholeTaken]
  simp only [Option.bind_some, List.drop_left, fraction?, taken,
    Option.map_some, List.length_cons, List.drop_succ_cons]

/--
A numeral with a fraction or an exponent is taken with all that goes on with it.
-/
theorem float_taken
    (holds : Holds .float front)
    (isFront : front <+: text) :
    ∃ numeral, float? text = some numeral ∧ front.length ≤ numeral.length := by
  obtain ⟨rest, rfl⟩ := isFront
  obtain ⟨whole, isWhole, ⟨fraction, exponent, rfl, isFraction, isExponent⟩ |
    ⟨exponent, rfl, isExponent⟩⟩ := holds
  · rw [List.append_assoc, List.cons_append, List.append_assoc]
    rcases isExponent with rfl | isExponent
    · obtain ⟨digits, taken, longer⟩ :=
        isFraction.taken (List.prefix_append fraction rest)
      refine ⟨_, float?_point isWhole taken, ?_⟩
      simp only [List.append_nil, List.length_append, List.length_cons]
      omega
    · have taken :=
        digits?_append isFraction.1 isFraction.2 (isExponent.head? rest).1
      obtain ⟨more, exponentTaken, longer⟩ :=
        isExponent.taken (List.prefix_append exponent rest)
      refine ⟨_, float?_point isWhole taken, ?_⟩
      simp only [List.drop_left, exponentTaken, Option.getD_some,
        List.length_append, List.length_cons]
      omega
  · obtain ⟨noDigit, noFraction⟩ := isExponent.head? rest
    have wholeTaken := digits?_append isWhole.1 isWhole.2 noDigit
    obtain ⟨more, exponentTaken, longer⟩ :=
      isExponent.taken (List.prefix_append exponent rest)
    refine ⟨whole ++ more, ?_, by simpa using longer⟩
    rw [List.append_assoc, float?, wholeTaken]
    simp only [Option.bind_some, List.drop_left, noFraction, exponentTaken,
      Option.map_some]

/-- A block comment is taken up to its first end. -/
theorem throughClose?_append
    {body : List Char}
    (without : ¬ ['*', '/'] <:+: body)
    (rest : List Char) :
    throughClose? (body ++ '*' :: '/' :: rest) = some (body ++ ['*', '/']) := by
  induction body with
  | nil => rfl
  | cons character body inductionHypothesis =>
      rw [List.infix_cons_iff, not_or] at without
      rw [List.cons_append, throughClose?, inductionHypothesis without.2]
      · rfl
      · -- The comment would end with this character and the next one.
        rintro later rfl closes
        cases body with
        | nil => cases closes
        | cons next body =>
            obtain ⟨rfl, -⟩ := List.cons.inj closes
            exact without.1 ⟨body, rfl⟩

/--
A comment is left open where no end stands in the text behind its opening.
-/
theorem throughClose?_eq_none_iff :
    throughClose? text = none ↔ ¬ ['*', '/'] <:+: text := by
  induction text using throughClose?.induct with
  | case1 => simp [throughClose?]
  | case2 rest => simpa [throughClose?] using ⟨[], rest, rfl⟩
  | case3 character rest notClosed inductionHypothesis =>
      have notHere : ¬ ['*', '/'] <+: character :: rest := by
        rintro ⟨later, split⟩
        obtain ⟨rfl, rfl⟩ := List.cons.inj split
        exact notClosed later rfl rfl
      rw [throughClose?, Option.map_eq_none_iff, inductionHypothesis,
        List.infix_cons_iff, not_or]
      · exact ⟨fun later => ⟨notHere, later⟩, And.right⟩
      · exact notClosed

/--
From a text that starts with a member of its class a pattern takes at least that
member.
-/
theorem Holds.taken
    {pattern : Pattern}
    (holds : pattern.Holds front)
    (isFront : front <+: text) :
    ∃ lexeme,
      pattern.lexeme? text = some lexeme ∧ front.length ≤ lexeme.length := by
  cases pattern with
  | word =>
      obtain ⟨first, parts, rfl, start, all⟩ := holds
      obtain ⟨rest, rfl⟩ := isFront
      refine ⟨_, if_pos start, ?_⟩
      have run := prefix_takeWhile all (List.prefix_append parts rest)
      exact Nat.succ_le_succ run.length_le
  | float => exact float_taken holds isFront
  | integer => exact IsDigits.taken holds isFront
  | blanks =>
      obtain ⟨nonempty, all⟩ := holds
      obtain ⟨rest, rfl⟩ := isFront
      cases front with
      | nil => exact absurd rfl nonempty
      | cons first more =>
          rw [List.forall_mem_cons] at all
          refine ⟨_, if_pos all.1, ?_⟩
          have run := prefix_takeWhile all.2 (List.prefix_append more rest)
          exact Nat.succ_le_succ run.length_le
  | string =>
      obtain ⟨body, rfl, inner⟩ := holds
      obtain ⟨rest, rfl⟩ := isFront
      refine ⟨'"' :: (body ++ ['"']), ?_, Nat.le_refl _⟩
      have run : stringBody (body ++ '"' :: rest) = body := by
        apply takeWhile_append
        · intro character isInner
          simpa using inner character isInner
        · rintro character ⟨⟩
          rfl
      rw [List.cons_append, List.append_assoc]
      simp [lexeme?, run]
  | lineComment =>
      obtain ⟨body, rfl, inLine⟩ := holds
      obtain ⟨rest, rfl⟩ := isFront
      refine ⟨_, rfl, ?_⟩
      have all : ∀ character ∈ body, (character != '\n') = true := by
        intro character inside
        rw [bne_iff_ne]
        rintro rfl
        exact inLine inside
      have run := prefix_takeWhile all (List.prefix_append body rest)
      exact Nat.succ_le_succ (Nat.succ_le_succ run.length_le)
  | blockComment =>
      obtain ⟨body, rfl, without⟩ := holds
      obtain ⟨rest, rfl⟩ := isFront
      refine ⟨'/' :: '*' :: (body ++ ['*', '/']), ?_, Nat.le_refl _⟩
      have closed := throughClose?_append without rest
      rw [List.cons_append, List.cons_append, List.append_assoc]
      simp [lexeme?, closed]
  | symbol kind =>
      obtain ⟨-, rfl⟩ := holds
      exact ⟨_, if_pos (List.isPrefixOf_iff_prefix.2 isFront), Nat.le_refl _⟩
  | openString | openComment => cases holds

/-! ## Nothing else is taken -/

theorem holds_of_float?
    {numeral : List Char}
    (found : float? text = some numeral) : Holds .float numeral := by
  unfold float? at found
  obtain ⟨whole, wholeFound, found⟩ := Option.bind_eq_some_iff.1 found
  refine ⟨whole, of_digits? wholeFound, ?_⟩
  dsimp only at found
  split at found
  · next fraction fractionFound =>
      cases found
      unfold fraction? at fractionFound
      split at fractionFound
      · obtain ⟨digits, digitsFound, rfl⟩ :=
          Option.map_eq_some_iff.1 fractionFound
        refine .inl ⟨digits, _, List.append_assoc _ _ _,
          of_digits? digitsFound, ?_⟩
        cases exponentFound : exponent? _ with
        | none => exact .inl rfl
        | some exponent => exact .inr (of_exponent? exponentFound)
      · cases fractionFound
  · obtain ⟨exponent, exponentFound, rfl⟩ := Option.map_eq_some_iff.1 found
    exact .inr ⟨exponent, rfl, of_exponent? exponentFound⟩

/-- What a pattern takes belongs to its class, unless it is left open. -/
theorem holds_of_lexeme?
    {pattern : Pattern}
    {lexeme : List Char}
    (listed : pattern ∈ table)
    (isClosed : pattern.isOpen = false)
    (found : pattern.lexeme? text = some lexeme) : pattern.Holds lexeme := by
  unfold lexeme? at found
  split at found
  case h_1 first rest =>
      split at found
      · next start =>
          cases found
          exact ⟨first, _, rfl, start, List.all_eq_true.1 List.all_takeWhile⟩
      · cases found
  case h_2 => exact holds_of_float? found
  case h_3 => exact of_digits? found
  case h_4 first rest =>
      split at found
      · next blank =>
          cases found
          exact ⟨List.cons_ne_nil _ _,
            List.forall_mem_cons.2
              ⟨blank, List.all_eq_true.1 List.all_takeWhile⟩⟩
      · cases found
  case h_5 rest =>
      have quoted : lexeme? .string ('"' :: rest) = some lexeme := found
      exact of_lexeme?_string quoted
  case h_7 rest =>
      cases found
      refine ⟨_, rfl, fun inside => ?_⟩
      have inLine := List.all_eq_true.1 List.all_takeWhile '\n' inside
      cases inLine
  case h_8 rest =>
      obtain ⟨comment, taken, rfl⟩ := Option.map_eq_some_iff.1 found
      obtain ⟨body, rfl, without⟩ := throughClose?_eq_some taken
      exact ⟨body, rfl, without⟩
  case h_10 kind =>
      dsimp only at found
      split at found <;> cases found
      exact ⟨by simpa [table] using listed, rfl⟩
  case h_11 => cases found
  all_goals cases isClosed

end Pattern
end Token
end MatrixLang
