import MatrixLang.Scanner

/-!
# Blanks, comments and the texts of tokens

`Text.Trivia` says without the scanner what may stand between two tokens:
blanks, line comments up to the end of their line, and block comments up to
their first end.  `Scanner.trivia_triviaLength` shows that the scanner skips
nothing else, and `Token.Lexeme.written_token` that a token spells out all of
its lexeme.  A lexeme is either passed over on the way to the next token
(`Scanner.next?_of_isTrivia`) or is the next token.
-/

namespace MatrixLang

namespace Text

/-- What yields no token when `rest` stands behind it. -/
inductive Trivia (rest : List Char) : List Char -> Prop
  | nothing : Trivia rest []
  | blank {character : Char} {trivia : List Char} :
      isBlank character = true ->
      Trivia rest trivia ->
      Trivia rest (character :: trivia)
  /-- A line comment ends where its line ends. -/
  | lineComment {comment trivia : List Char} :
      '\n' ∉ comment ->
      (∀ character ∈ (trivia ++ rest).head?, character = '\n') ->
      Trivia rest trivia ->
      Trivia rest ('/' :: '/' :: (comment ++ trivia))
  /-- A block comment ends with the first mark of its end. -/
  | blockComment {body trivia : List Char} :
      ¬ ['*', '/'] <:+: body ->
      Trivia rest trivia ->
      Trivia rest ('/' :: '*' :: (body ++ '*' :: '/' :: trivia))

theorem Trivia.blanks
    {rest front trivia : List Char}
    (blank : ∀ character ∈ front, isBlank character = true)
    (behind : Trivia rest trivia) : Trivia rest (front ++ trivia) := by
  induction front with
  | nil => exact behind
  | cons character front inductionHypothesis =>
      apply Trivia.blank (blank character List.mem_cons_self)
      apply inductionHypothesis
      intro later isLater
      exact blank later (List.mem_cons_of_mem character isLater)

end Text

namespace Token

namespace Pattern

/-- The closed comment that is taken has no other end in it. -/
theorem throughClose?_eq_some
    {text comment : List Char}
    (found : throughClose? text = some comment) :
    ∃ body, comment = body ++ ['*', '/'] ∧ ¬ ['*', '/'] <:+: body := by
  induction text using throughClose?.induct generalizing comment with
  | case1 => cases found
  | case2 rest =>
      cases found
      exact ⟨[], rfl, by simp⟩
  | case3 character rest notClosed inductionHypothesis =>
      rw [throughClose?] at found
      · obtain ⟨shorter, taken, rfl⟩ := Option.map_eq_some_iff.1 found
        obtain ⟨body, rfl, without⟩ := inductionHypothesis taken
        refine ⟨character :: body, rfl, fun inside => ?_⟩
        rcases List.infix_cons_iff.1 inside with front | inner
        · -- The mark would start here, and the text would already have ended.
          obtain ⟨behind, split⟩ := front
          obtain ⟨left, whole⟩ := throughClose?_isPrefix taken
          obtain ⟨rfl, rfl⟩ := List.cons.inj split.symm
          exact notClosed (behind ++ ['*', '/'] ++ left) rfl
            (by rw [← whole]; rfl)
        · exact without inner
      · exact notClosed

/--
A longest run has the property, and what stands behind it does not go on with
it.
-/
theorem of_takeWhile_eq
    {property : Char -> Bool}
    {front back : List Char}
    (run : (front ++ back).takeWhile property = front) :
    (∀ character ∈ front, property character = true) ∧
      ∀ character ∈ back.head?, property character = false := by
  have split :=
    List.takeWhile_append_dropWhile (p := property) (l := front ++ back)
  rw [run] at split
  have behind := List.append_cancel_left split
  constructor
  · intro character isFront
    rw [← run] at isFront
    exact List.all_eq_true.1 List.all_takeWhile character isFront
  · intro character isNext
    have stopped := List.head?_dropWhile_not property (front ++ back)
    rw [behind, Option.mem_def.1 isNext] at stopped
    simpa using stopped

/-- The trivial lexemes are the pieces of which trivia is made. -/
theorem trivia_of_lexeme?
    {pattern : Pattern}
    {lexeme trivia rest : List Char}
    (isTrivia : pattern.isTrivia = true)
    (found : pattern.lexeme? (lexeme ++ (trivia ++ rest)) = some lexeme)
    (behind : Text.Trivia rest trivia) :
    Text.Trivia rest (lexeme ++ trivia) := by
  generalize whole : lexeme ++ (trivia ++ rest) = text at found
  unfold lexeme? at found
  split at found
  case h_4 character text =>
      split at found
      · next blank =>
          cases found
          apply Text.Trivia.blank blank
          apply Text.Trivia.blanks _ behind
          intro later isLater
          exact List.all_eq_true.1 List.all_takeWhile later isLater
      · cases found
  case h_7 text =>
      cases found
      have tail := (List.cons.inj (List.cons.inj whole).2).2
      obtain ⟨without, ends⟩ :=
        of_takeWhile_eq (congrArg (List.takeWhile (· != '\n')) tail)
      apply Text.Trivia.lineComment _ _ behind
      · intro isFeed
        simpa using without '\n' isFeed
      · intro character isNext
        simpa using ends character isNext
  case h_8 text =>
      obtain ⟨comment, taken, rfl⟩ := Option.map_eq_some_iff.1 found
      obtain ⟨body, rfl, without⟩ := throughClose?_eq_some taken
      rw [List.cons_append, List.cons_append, List.append_assoc]
      exact Text.Trivia.blockComment without behind
  case h_11 => cases found
  all_goals cases isTrivia

/--
A string literal stands in quotes, without quotes or line feeds between them.
-/
theorem of_lexeme?_string
    {text lexeme : List Char}
    (found : lexeme? .string text = some lexeme) :
    ∃ body, lexeme = '"' :: (body ++ ['"']) ∧
      ∀ character ∈ body, character ≠ '"' ∧ character ≠ '\n' := by
  unfold lexeme? at found
  split at found
  case h_5 _ text _ =>
      dsimp only at found
      split at found
      · refine ⟨stringBody text, (Option.some.inj found).symm, ?_⟩
        intro character inside
        simpa using List.all_eq_true.1 List.all_takeWhile character inside
      · cases found
  all_goals contradiction

/-- A symbol takes its spelling. -/
theorem of_lexeme?_symbol
    {kind : Kind}
    {text lexeme : List Char}
    (found : (Pattern.symbol kind).lexeme? text = some lexeme) :
    lexeme = kind.describe.toList ∧ kind.describe.toList <+: text := by
  simp only [lexeme?] at found
  split at found
  · next isFront =>
      cases found
      exact ⟨rfl, List.isPrefixOf_iff_prefix.1 isFront⟩
  · cases found

end Pattern

namespace Lexeme

/-- A first lexeme is taken by a pattern of the table or is one character. -/
theorem of_first?
    {source : List Char}
    {lexeme : Lexeme}
    (found : first? source = some lexeme) :
    (∃ pattern text, lexeme = .matched pattern text ∧ pattern ∈ Pattern.table ∧
      pattern.lexeme? source = some text) ∨
    ∃ character, lexeme = .stray character := by
  cases source with
  | nil => cases found
  | cons character rest =>
      simp only [first?, Option.some.injEq] at found
      subst found
      cases matched :
          Pattern.table.findSome? fun pattern =>
            (pattern.lexeme? (character :: rest)).map
              (Lexeme.matched pattern) with
      | none => exact Or.inr ⟨character, rfl⟩
      | some lexeme =>
          obtain ⟨pattern, listed, mapped⟩ :=
            List.exists_of_findSome?_eq_some matched
          obtain ⟨text, taken, rfl⟩ := Option.map_eq_some_iff.1 mapped
          exact Or.inl ⟨pattern, text, rfl, listed, taken⟩

end Lexeme

/-- The text of a token in its source: a string literal stands in quotes. -/
def written (token : Token) : String :=
  if token.kind = .stringLiteral then
    "\"" ++ token.spelling ++ "\""
  else
    token.spelling

theorem written_of_ne
    {token : Token}
    (other : token.kind ≠ .stringLiteral) : token.written = token.spelling :=
  if_neg other

/-- A word is an identifier or has a reserved kind. -/
theorem Kind.ofWord_mem
    (word : String) :
    Kind.ofWord word ∈ Kind.identifier :: Kind.reserved.map Prod.snd := by
  cases found : Kind.ofReserved? word with
  | none => simp [Kind.ofWord, found]
  | some kind =>
      obtain ⟨before, behind, listed, -⟩ := List.lookup_eq_some_iff.1 found
      rw [Kind.ofWord, found, listed]
      simp

/-- No word has a kind that is not among those of words. -/
theorem Kind.ofWord_ne
    {kind : Kind}
    (other : kind ∉ Kind.identifier :: Kind.reserved.map Prod.snd)
    (word : String) : Kind.ofWord word ≠ kind := by
  rintro rfl
  exact other (Kind.ofWord_mem word)

/-- Only quoted text becomes a string, and nothing becomes the end of a file. -/
theorem Pattern.kind_ne
    {pattern : Pattern}
    (listed : pattern ∈ table)
    (text : List Char) :
    pattern.kind text ≠ .endOfFile ∧
      (pattern ≠ .string -> pattern.kind text ≠ .stringLiteral) := by
  cases pattern with
  | word =>
      exact ⟨Kind.ofWord_ne (by decide) _,
        fun _ => Kind.ofWord_ne (by decide) _⟩
  | symbol kind =>
      have other : kind ≠ .stringLiteral ∧ kind ≠ .endOfFile := by
        revert listed
        cases kind <;> decide
      exact ⟨other.2, fun _ => other.1⟩
  | _ => simp [kind]

/-- Only a text without its end becomes an invalid token. -/
theorem Pattern.kind_ne_invalid
    {pattern : Pattern}
    (listed : pattern ∈ table)
    (isToken : pattern.isTrivia = false)
    (isClosed : pattern.isOpen = false)
    (text : List Char) : pattern.kind text ≠ .invalid := by
  cases pattern with
  | word => exact Kind.ofWord_ne (by decide) _
  | symbol kind =>
      rintro rfl
      revert listed
      decide
  | float | integer | string => simp [kind]
  | blanks | lineComment | blockComment => cases isToken
  | openString | openComment => cases isClosed

/-- A pattern spells out what it takes, but for the quotes of a string. -/
theorem Pattern.spelling_of_ne_string
    {pattern : Pattern}
    (other : pattern ≠ .string)
    (text : List Char) : pattern.spelling text = String.ofList text := by
  cases pattern with
  | string => exact absurd rfl other
  | _ => rfl

/--
A lexeme is what its token looks like in the source, and never the end of the
file.
-/
theorem Lexeme.written_token
    {source : List Char}
    {lexeme : Lexeme}
    (found : Lexeme.first? source = some lexeme)
    (position : Position) :
    (lexeme.token position).written = String.ofList lexeme.text ∧
      (lexeme.token position).kind ≠ .endOfFile := by
  rcases Lexeme.of_first? found with
    ⟨pattern, text, rfl, listed, taken⟩ | ⟨character, rfl⟩
  · have kinds := Pattern.kind_ne listed text
    refine ⟨?_, kinds.1⟩
    by_cases quoted : pattern = .string
    · subst quoted
      obtain ⟨body, rfl, -⟩ := Pattern.of_lexeme?_string taken
      have inner : (('"' :: (body ++ ['"'])).drop 1).dropLast = body := by simp
      simp only [written, Lexeme.token, Lexeme.text, Pattern.kind,
        Pattern.spelling, inner, if_true]
      rw [String.ofList_cons, String.ofList_append, ← String.append_assoc]
      rfl
    · rw [written_of_ne (kinds.2 quoted)]
      exact Pattern.spelling_of_ne_string quoted text
  · refine ⟨?_, by simp [Lexeme.token]⟩
    rw [written_of_ne (by simp [Lexeme.token])]
    exact String.singleton_eq_ofList

end Token

namespace Scanner

/--
Moving over some characters and then over more is moving over all of them.
-/
theorem skip_add
    (scanner : Scanner)
    (first second : Nat) :
    scanner.skip (first + second) = (scanner.skip first).skip second := by
  simp only [skip, List.drop_drop, List.take_add, Position.afterAll_append]

/-- A trivial lexeme is passed over on the way to the next token. -/
theorem next?_of_isTrivia
    {scanner : Scanner}
    {lexeme : Token.Lexeme}
    (first : Token.Lexeme.first? scanner.rest = some lexeme)
    (trivia : lexeme.isTrivia = true) :
    scanner.next? = (scanner.skip lexeme.text.length).next? := by
  have same :
      scanner.skipTrivia = (scanner.skip lexeme.text.length).skipTrivia := by
    rw [skipTrivia, triviaLength_of_isTrivia first trivia, skip_add]
    rfl
  rw [next?, next?, same]
  rfl

/-- Any other lexeme is the next token. -/
theorem next?_of_not_isTrivia
    {scanner : Scanner}
    {lexeme : Token.Lexeme}
    (unfinished : scanner.finished = false)
    (first : Token.Lexeme.first? scanner.rest = some lexeme)
    (isToken : lexeme.isTrivia = false) :
    scanner.next? =
      some ⟨lexeme.token scanner.position, lexeme.events scanner.position,
        scanner.skip lexeme.text.length⟩ := by
  have here : scanner.skipTrivia = scanner := by
    rw [skipTrivia, triviaLength_of_not_isTrivia first isToken]
    rfl
  simp [next?, unfinished, here, first]

/--
The scanner skips trivia, and stops at the end or before a lexeme that is not
trivia.
-/
theorem trivia_triviaLength
    (text : List Char) :
    Text.Trivia (text.drop (triviaLength 0 text))
        (text.take (triviaLength 0 text)) ∧
      ∀ lexeme ∈ Token.Lexeme.first? (text.drop (triviaLength 0 text)),
        lexeme.isTrivia = false := by
  induction length : text.length using Nat.strongRecOn generalizing text with
  | ind length inductionHypothesis =>
      cases first : Token.Lexeme.first? text with
      | none =>
          cases text with
          | nil => exact ⟨.nothing, by simp [Token.Lexeme.first?]⟩
          | cons character rest => cases first
      | some lexeme =>
          cases isTrivia : lexeme.isTrivia with
          | false =>
              rw [triviaLength_of_not_isTrivia first isTrivia, List.drop_zero,
                List.take_zero]
              refine ⟨.nothing, fun other isFirst => ?_⟩
              rw [first] at isFirst
              cases isFirst
              exact isTrivia
          | true =>
              obtain ⟨rest, rfl⟩ := Token.Lexeme.text_isPrefix first
              have positive :=
                List.length_pos_iff.2 (Token.Lexeme.text_ne_nil first)
              obtain ⟨behind, stops⟩ :=
                inductionHypothesis rest.length
                  (by simp at length; omega) rest rfl
              rw [triviaLength_of_isTrivia first isTrivia, List.drop_left,
                List.drop_length_add_append, List.take_length_add_append]
              refine ⟨?_, stops⟩
              rcases Token.Lexeme.of_first? first with
                ⟨pattern, taken, rfl, -, found⟩ | ⟨_, rfl⟩
              · apply Token.Pattern.trivia_of_lexeme? isTrivia _ behind
                rw [List.take_append_drop]
                exact found
              · cases isTrivia

end Scanner
end MatrixLang
