import MatrixLang.Proofs.Scanning.Steps

/-!
# The spelling of names and literals

What the scanner promises about the tokens whose spelling goes into a tree
(`Token.Spelled`): an identifier is a name, a numeral starts with a digit, and a
string literal has neither a quote nor a line feed in it.
-/

namespace MatrixLang

/-- A name is a word that is not reserved. -/
def IsName (name : String) : Prop :=
  ∃ character word, name.toList = character :: word ∧
    Token.Pattern.isWordStart character = true ∧
    (∀ part ∈ word, Token.Pattern.isWordPart part = true) ∧
    Token.Kind.ofWord name = .identifier

/-- No name starts with a sign of equality. -/
theorem IsName.starts
    {name : String}
    (isName : IsName name) :
    ∃ first rest, name.toList = first :: rest ∧ first ≠ '=' := by
  obtain ⟨character, word, spelled, start, -⟩ := isName
  refine ⟨character, word, spelled, ?_⟩
  rintro rfl
  cases start

namespace Token

/-- The spelling of a token is one that the scanner gives to its kind. -/
structure Spelled (token : Token) : Prop where
  /-- An identifier is a name. -/
  name : token.kind = .identifier -> IsName token.spelling
  /-- A numeral has no sign. -/
  numeral : token.kind = .intLiteral ∨ token.kind = .floatLiteral ->
    ∀ character ∈ token.spelling.toList.head?, character.isDigit = true
  /-- A string literal ends neither early nor in another line. -/
  string : token.kind = .stringLiteral ->
    ∀ character ∈ token.spelling.toList, character ≠ '"' ∧ character ≠ '\n'

/-- Tokens of all other kinds may have any spelling. -/
theorem spelled_of_kind
    {token : Token}
    (other :
      token.kind ∉ [.identifier, .intLiteral, .floatLiteral, .stringLiteral]) :
    token.Spelled := by
  simp only [List.mem_cons, List.not_mem_nil, or_false, not_or] at other
  obtain ⟨notName, notInteger, notFloat, notString⟩ := other
  constructor
  · intro isName
    exact absurd isName notName
  · rintro (isInteger | isFloat)
    · exact absurd isInteger notInteger
    · exact absurd isFloat notFloat
  · intro isString
    exact absurd isString notString

namespace Pattern

/-- Digits are taken from a text that starts with a digit. -/
theorem isDigit_of_digits?
    {text lexeme : List Char}
    (found : digits? text = some lexeme) :
    ∀ character ∈ text.head?, character.isDigit = true := by
  intro character isFirst
  cases text with
  | nil => cases isFirst
  | cons first rest =>
      cases isFirst
      unfold digits? at found
      split at found
      · cases found
      · next nonempty =>
          apply Decidable.byContradiction
          intro notDigit
          exact nonempty (List.takeWhile_cons_of_neg notDigit)

/-- What a pattern takes starts like the text from which it is taken. -/
theorem head?_of_lexeme?
    {pattern : Pattern}
    {text lexeme : List Char}
    (found : pattern.lexeme? text = some lexeme) :
    lexeme.head? = text.head? := by
  have nonempty := lexeme?_ne_nil found
  obtain ⟨behind, rfl⟩ := lexeme?_isPrefix found
  cases lexeme with
  | nil => exact absurd rfl nonempty
  | cons character lexeme => rfl

/-- A word that is not reserved is a name. -/
theorem isName_of_lexeme?
    {text lexeme : List Char}
    (found : Pattern.word.lexeme? text = some lexeme)
    (free : Kind.ofWord (String.ofList lexeme) = .identifier) :
    IsName (String.ofList lexeme) := by
  unfold lexeme? at found
  split at found
  case h_1 _ character rest _ =>
      split at found
      · next start =>
          cases found
          refine ⟨character, _, String.toList_ofList, start, ?_, free⟩
          intro part isPart
          exact List.all_eq_true.1 List.all_takeWhile part isPart
      · cases found
  all_goals contradiction

end Pattern

/-- The token of a lexeme is spelled as its kind asks. -/
theorem Lexeme.spelled_token
    {source : List Char}
    {lexeme : Lexeme}
    (found : Lexeme.first? source = some lexeme)
    (position : Position) : (lexeme.token position).Spelled := by
  rcases Lexeme.of_first? found with
    ⟨pattern, text, rfl, listed, taken⟩ | ⟨character, rfl⟩
  · have start := Pattern.head?_of_lexeme? taken
    cases pattern with
    | word =>
        constructor
        · exact Pattern.isName_of_lexeme? taken
        · rintro (isInteger | isFloat)
          · exact absurd isInteger (Kind.ofWord_ne (by decide) _)
          · exact absurd isFloat (Kind.ofWord_ne (by decide) _)
        · intro isString
          exact absurd isString (Kind.ofWord_ne (by decide) _)
    | float =>
        obtain ⟨whole, wholeFound, -⟩ := Option.bind_eq_some_iff.1 taken
        constructor
        · intro isName
          cases isName
        · intro _
          rw [token, Pattern.spelling, String.toList_ofList, start]
          · exact Pattern.isDigit_of_digits? wholeFound
          · intro isString
            cases isString
        · intro isString
          cases isString
    | integer =>
        constructor
        · intro isName
          cases isName
        · intro _
          rw [token, Pattern.spelling, String.toList_ofList, start]
          · exact Pattern.isDigit_of_digits? taken
          · intro isString
            cases isString
        · intro isString
          cases isString
    | string =>
        obtain ⟨body, rfl, inner⟩ := Pattern.of_lexeme?_string taken
        have between :
            (('"' :: (body ++ ['"'])).drop 1).dropLast = body := by simp
        constructor
        · intro isName
          cases isName
        · rintro (isInteger | isFloat)
          · cases isInteger
          · cases isFloat
        · intro _
          rw [token, Pattern.spelling, between, String.toList_ofList]
          exact inner
    | symbol kind =>
        have other : kind ∉
            [.identifier, .intLiteral, .floatLiteral, .stringLiteral] := by
          revert listed
          cases kind <;> decide
        exact spelled_of_kind other
    | _ => exact spelled_of_kind (by simp [token, Pattern.kind])
  · exact spelled_of_kind (by simp [token])

end Token

namespace Scanner

/-- Every answer of a scanner is spelled as its kind asks. -/
theorem spelled_of_next?
    {scanner : Scanner}
    {scan : Scan}
    (found : scanner.next? = some scan) : scan.token.Spelled := by
  obtain ⟨-, ⟨lexeme, first, token, -⟩ | ⟨-, token, -⟩⟩ := next_cases found
  · rw [token]
    exact Token.Lexeme.spelled_token first _
  · rw [token]
    exact Token.spelled_of_kind (by simp [Token.endOfFile])

/-- All the tokens of a scanner are spelled as their kinds ask. -/
theorem spelled_tokens
    (scanner : Scanner) :
    ∀ token ∈ scanner.tokens, token.Spelled := by
  induction size : scanner.size using Nat.strongRecOn generalizing scanner with
  | ind size inductionHypothesis =>
      intro token isToken
      cases found : scanner.next? with
      | none =>
          rw [tokens, scans_of_next?_none found] at isToken
          cases isToken
      | some scan =>
          rw [tokens, scans_of_next? found, List.map_cons, ← tokens] at isToken
          have smaller := size_lt_of_next? found
          rcases List.mem_cons.1 isToken with rfl | isLater
          · exact spelled_of_next? found
          · exact inductionHypothesis _ (by omega) scan.rest rfl token isLater

end Scanner
end MatrixLang
