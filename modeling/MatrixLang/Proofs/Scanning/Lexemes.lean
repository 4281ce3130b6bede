import MatrixLang.Scanner

/-!
# The first lexeme of a text

When the scanner takes exactly a given text from the front of a longer one.  A
word or a numeral must not go on behind the text (`Token.stops`), and a sign
must not be the beginning of a longer one (`Token.Kind.standsBefore`).
-/

namespace MatrixLang
namespace Token

/-- Neither a word nor a numeral goes on with a text. -/
def stops : List Char -> Bool
  | [] => true
  | '.' :: character :: _ => !character.isDigit
  | character :: _ => !Pattern.isWordPart character

/--
A sign is not the beginning of a longer sign or of a comment when a text stands
behind it.
-/
def Kind.standsBefore : Kind -> List Char -> Bool
  | .less, rest | .greater, rest | .not, rest | .assignment, rest =>
      rest.head? != some '='
  | .slash, rest => rest.head? != some '/' && rest.head? != some '*'
  | _, _ => true

namespace Pattern

/-- A run of characters ends in front of a text that does not go on with it. -/
theorem takeWhile_append
    {property : Char -> Bool}
    {front back : List Char}
    (all : ∀ character ∈ front, property character = true)
    (stop : ∀ character ∈ back.head?, property character = false) :
    (front ++ back).takeWhile property = front := by
  rw [List.takeWhile_append_of_pos all]
  cases back with
  | nil => simp
  | cons character back =>
      have stopped : property character = false := stop character rfl
      simp [stopped]

/-- What does not go on with a run of characters stands behind it. -/
theorem dropWhile_append
    {property : Char -> Bool}
    {front back : List Char}
    (all : ∀ character ∈ front, property character = true)
    (stop : ∀ character ∈ back.head?, property character = false) :
    (front ++ back).dropWhile property = back := by
  have parts :=
    List.takeWhile_append_dropWhile (p := property) (l := front ++ back)
  rw [takeWhile_append all stop] at parts
  exact List.append_cancel_left parts

/-- The code points of the characters that start a word. -/
theorem isWordStart_iff
    {character : Char} :
    isWordStart character = true ↔
      (65 ≤ character.toNat ∧ character.toNat ≤ 90 ∨
        97 ≤ character.toNat ∧ character.toNat ≤ 122) ∨
          character.toNat = 95 := by
  have underscore : character.toNat = 95 ↔ character = '_' :=
    Char.toNat_inj (d := '_')
  have upper : character.isUpper = true ↔
      65 ≤ character.toNat ∧ character.toNat ≤ 90 :=
    decide_eq_true_iff
  have lower : character.isLower = true ↔
      97 ≤ character.toNat ∧ character.toNat ≤ 122 := by
    change (decide (97 ≤ character.val) && decide (character.val ≤ 122)) =
      true ↔ _
    rw [Bool.and_eq_true, decide_eq_true_eq, decide_eq_true_eq]
    exact Iff.rfl
  change (character.isUpper || character.isLower || character == '_') = true ↔ _
  rw [Bool.or_eq_true, Bool.or_eq_true, beq_iff_eq, upper, lower, underscore]

/-- The code points of digits. -/
theorem isDigit_iff
    {character : Char} :
    character.isDigit = true ↔ 48 ≤ character.toNat ∧ character.toNat ≤ 57 :=
  Char.isDigit_iff_toNat

/-- No word starts with a digit. -/
theorem isWordStart_of_isDigit
    {character : Char}
    (digit : character.isDigit = true) : isWordStart character = false := by
  rw [isDigit_iff] at digit
  rw [← Bool.not_eq_true, isWordStart_iff]
  omega

/-- Neither a word nor a numeral starts with a blank. -/
theorem not_of_isBlank
    {character : Char}
    (blank : Text.isBlank character = true) :
    isWordStart character = false ∧ character.isDigit = false := by
  simp only [Text.isBlank, Text.inRanges, Text.blankRanges, List.any_cons,
    List.any_nil, Bool.or_eq_true, Bool.and_eq_true, decide_eq_true_eq,
    Bool.false_eq_true, or_false] at blank
  rw [← Bool.not_eq_true, ← Bool.not_eq_true, isWordStart_iff, isDigit_iff]
  omega

/--
A digit or any other part of a word does not stand behind the end of a numeral.
-/
theorem of_stops
    {rest : List Char}
    (stop : stops rest = true) :
    (∀ character ∈ rest.head?, isWordPart character = false) ∧
      fraction? rest = none := by
  unfold stops at stop
  split at stop
  · exact ⟨by simp, rfl⟩
  · next character rest =>
      have notDigit : character.isDigit = false := by simpa using stop
      refine ⟨?_, by simp [fraction?, digits?, notDigit]⟩
      intro first isFirst
      cases isFirst
      decide
  · next character rest other =>
      refine ⟨fun first isFirst => ?_, ?_⟩
      · cases isFirst
        simpa using stop
      · by_cases point : character = '.'
        · subst point
          cases rest with
          | nil => rfl
          | cons second rest => exact absurd rfl (other second rest rfl)
        · unfold fraction?
          split
          · next isPoint =>
              cases isPoint
              exact absurd rfl point
          · rfl

/-- Nothing that stops a numeral is the mark of an exponent. -/
theorem exponent?_of_stops
    {rest : List Char}
    (stop : stops rest = true) : exponent? rest = none := by
  have next := (of_stops stop).1
  cases rest with
  | nil => rfl
  | cons character rest =>
      have notPart := next character rfl
      rw [exponent?, if_neg]
      rintro (rfl | rfl)
      · exact absurd notPart (by decide)
      · exact absurd notPart (by decide)

/-- No digit goes on behind the end of a numeral. -/
theorem isDigit_of_stops
    {rest : List Char}
    (stop : stops rest = true) :
    ∀ character ∈ rest.head?, character.isDigit = false := by
  intro character isNext
  have notPart := (of_stops stop).1 character isNext
  simp only [isWordPart, Char.isAlphanum, Bool.or_eq_false_iff] at notPart
  exact notPart.1.2

/-- A run of digits is taken as a whole. -/
theorem digits?_append
    {digits rest : List Char}
    (nonempty : digits ≠ [])
    (all : ∀ character ∈ digits, character.isDigit = true)
    (stop : ∀ character ∈ rest.head?, character.isDigit = false) :
    digits? (digits ++ rest) = some digits := by
  rw [digits?, takeWhile_append all stop]
  cases digits with
  | nil => exact absurd rfl nonempty
  | cons digit digits => rfl

/-- Digits have no sign in front of them. -/
theorem exponentSign_digits
    {digits : List Char}
    (nonempty : digits ≠ [])
    (all : ∀ character ∈ digits, character.isDigit = true)
    (rest : List Char) :
    exponentSign (digits ++ rest) = [] := by
  cases digits with
  | nil => exact absurd rfl nonempty
  | cons digit digits =>
      have isDigit := all digit List.mem_cons_self
      rw [List.cons_append]
      unfold exponentSign
      split
      · next isPlus =>
          cases isPlus
          cases isDigit
      · next isMinus =>
          cases isMinus
          cases isDigit
      · rfl

end Pattern

namespace Lexeme

/-- The blanks at the front of a text are taken together. -/
theorem first?_blank
    {character : Char}
    (blank : Text.isBlank character = true)
    (rest : List Char) :
    first? (character :: rest) =
      some (.matched .blanks (character :: rest.takeWhile Text.isBlank)) := by
  obtain ⟨notStart, notDigit⟩ := Pattern.not_of_isBlank blank
  simp [first?, Pattern.table, Pattern.lexeme?, Pattern.float?, Pattern.digits?,
    notStart, notDigit, blank]

/-- A word is taken as a whole. -/
theorem first?_word
    {character : Char}
    {word rest : List Char}
    (start : Pattern.isWordStart character = true)
    (parts : ∀ part ∈ word, Pattern.isWordPart part = true)
    (stop : stops rest = true) :
    first? (character :: word ++ rest) =
      some (.matched .word (character :: word)) := by
  have run := Pattern.takeWhile_append parts (Pattern.of_stops stop).1
  simp [first?, Pattern.table, Pattern.lexeme?, start, run]

/--
A numeral with a fraction or an exponent is taken before its digits alone.
-/
theorem first?_float
    {character : Char}
    {numeral rest : List Char}
    (digit : character.isDigit = true)
    (taken : Pattern.float? (character :: numeral ++ rest) =
      some (character :: numeral)) :
    first? (character :: numeral ++ rest) =
      some (.matched .float (character :: numeral)) := by
  have notStart := Pattern.isWordStart_of_isDigit digit
  rw [List.cons_append] at taken ⊢
  simp [first?, Pattern.table, Pattern.lexeme?, notStart, taken]

/-- Digits are taken as a whole. -/
theorem first?_integer
    {digits rest : List Char}
    (nonempty : digits ≠ [])
    (all : ∀ character ∈ digits, character.isDigit = true)
    (stop : stops rest = true) :
    first? (digits ++ rest) = some (.matched .integer digits) := by
  have run :=
    Pattern.digits?_append nonempty all (Pattern.isDigit_of_stops stop)
  have noFloat : Pattern.float? (digits ++ rest) = none := by
    simp [Pattern.float?, run, (Pattern.of_stops stop).2,
      Pattern.exponent?_of_stops stop]
  cases digits with
  | nil => exact absurd rfl nonempty
  | cons digit digits =>
      have notStart :=
        Pattern.isWordStart_of_isDigit (all digit List.mem_cons_self)
      rw [List.cons_append] at run noFloat ⊢
      simp [first?, Pattern.table, Pattern.lexeme?, notStart, noFloat, run]

/-- A text in quotes is taken as a whole. -/
theorem first?_string
    {body : List Char}
    (inner : ∀ character ∈ body, character ≠ '"' ∧ character ≠ '\n')
    (rest : List Char) :
    first? ('"' :: (body ++ '"' :: rest)) =
      some (.matched .string ('"' :: (body ++ ['"']))) := by
  have run : Pattern.stringBody (body ++ '"' :: rest) = body := by
    apply Pattern.takeWhile_append
    · intro character isInner
      simpa using inner character isInner
    · intro character isNext
      cases isNext
      rfl
  have fails : Pattern.isWordStart '"' = false ∧ Char.isDigit '"' = false ∧
      Text.isBlank '"' = false := by
    decide
  simp [first?, Pattern.table, Pattern.lexeme?, Pattern.float?, Pattern.digits?,
    fails, run]

/-- What a pattern takes is the lexeme when the patterns before it fail. -/
theorem first?_of_fails
    {text lexeme : List Char}
    {earlier later : List Pattern}
    {pattern : Pattern}
    (table : Pattern.table = earlier ++ pattern :: later)
    (fails : earlier.findSome? (fun other =>
      (other.lexeme? text).map (.matched other)) = (none : Option Lexeme))
    (taken : pattern.lexeme? text = some lexeme) :
    first? text = some (.matched pattern lexeme) := by
  cases text with
  | nil =>
      have nonempty := Pattern.lexeme?_ne_nil taken
      exact absurd (List.prefix_nil.1 (Pattern.lexeme?_isPrefix taken)) nonempty
  | cons character rest =>
      rw [first?, table, List.findSome?_append, fails, List.findSome?_cons,
        taken]
      rfl

/-- A sign is taken when the one pattern for which it is too short fails. -/
theorem first?_shorter
    (front middle : List Pattern)
    {text lexeme : List Char}
    {back : List Pattern}
    {longer pattern : Pattern}
    (table : Pattern.table = front ++ longer :: (middle ++ pattern :: back))
    (frontFails : front.findSome? (fun other =>
      (other.lexeme? text).map (.matched other)) = (none : Option Lexeme))
    (longerFails : longer.lexeme? text = none)
    (middleFails : middle.findSome? (fun other =>
      (other.lexeme? text).map (.matched other)) = (none : Option Lexeme))
    (taken : pattern.lexeme? text = some lexeme) :
    first? text = some (.matched pattern lexeme) := by
  have regrouped :
      Pattern.table = (front ++ longer :: middle) ++ pattern :: back := by
    rw [table, List.append_assoc, List.cons_append]
  apply first?_of_fails regrouped _ taken
  rw [List.findSome?_append, frontFails, List.findSome?_cons, longerFails]
  exact middleFails

/-- Two characters are not a sign when the second one is another. -/
theorem lexeme?_symbol_of_ne
    {kind : Kind}
    {first second next : Char}
    (spelled : kind.describe.toList = [first, second])
    (other : next ≠ second)
    (rest : List Char) :
    Pattern.lexeme? (.symbol kind) (first :: next :: rest) = none := by
  simp [Pattern.lexeme?, spelled, other.symm]

/-- A slash begins a comment only before another slash or a star. -/
theorem findSome?_comments
    {next : Char}
    (notSlash : next ≠ '/')
    (notStar : next ≠ '*')
    (rest : List Char) :
    ([.lineComment, .blockComment, .openComment] : List Pattern).findSome?
        (fun pattern => (pattern.lexeme? ('/' :: next :: rest)).map
          (Lexeme.matched pattern)) =
      none := by
  have line : Pattern.lexeme? .lineComment ('/' :: next :: rest) = none := by
    simp [Pattern.lexeme?, notSlash]
  have block : Pattern.lexeme? .blockComment ('/' :: next :: rest) = none := by
    simp [Pattern.lexeme?, notStar]
  have unclosed :
      Pattern.lexeme? .openComment ('/' :: next :: rest) = none := by
    simp [Pattern.lexeme?, notStar]
  simp [line, block, unclosed]

/-- A sign is taken when it does not begin a longer one. -/
theorem first?_symbol
    {kind : Kind}
    {rest : List Char}
    (listed : kind ∈ Pattern.symbols)
    (apart : kind.standsBefore rest = true) :
    first? (kind.describe.toList ++ rest) =
      some (.matched (.symbol kind) kind.describe.toList) := by
  cases rest with
  | nil =>
      revert listed
      cases kind <;> decide
  | cons next rest =>
      cases kind with
      | less =>
          have other : next ≠ '=' := by simpa [Kind.standsBefore] using apart
          exact first?_shorter (Pattern.table.take 23) [] rfl rfl
            (lexeme?_symbol_of_ne rfl other rest) rfl rfl
      | greater =>
          have other : next ≠ '=' := by simpa [Kind.standsBefore] using apart
          exact first?_shorter (Pattern.table.take 25) [] rfl rfl
            (lexeme?_symbol_of_ne rfl other rest) rfl rfl
      | not =>
          have other : next ≠ '=' := by simpa [Kind.standsBefore] using apart
          exact first?_shorter (Pattern.table.take 20) [] rfl rfl
            (lexeme?_symbol_of_ne rfl other rest) rfl rfl
      | assignment =>
          have other : next ≠ '=' := by simpa [Kind.standsBefore] using apart
          exact first?_shorter (Pattern.table.take 19) [.symbol .notEquals,
              .symbol .not] rfl rfl
            (lexeme?_symbol_of_ne rfl other rest) rfl rfl
      | slash =>
          have other : next ≠ '/' ∧ next ≠ '*' := by
            simpa [Kind.standsBefore] using apart
          have table : Pattern.table =
              (Pattern.table.take 6 ++
                ([.lineComment, .blockComment, .openComment] ++
                (Pattern.symbols.take 29).map .symbol)) ++
                  .symbol .slash :: [.symbol .star] :=
            rfl
          change first? ('/' :: next :: rest) = _
          apply first?_of_fails table _ rfl
          rw [List.findSome?_append, List.findSome?_append,
            findSome?_comments other.1 other.2]
          rfl
      | _ => first | rfl | exact absurd listed (by decide)

end Lexeme
end Token
end MatrixLang
