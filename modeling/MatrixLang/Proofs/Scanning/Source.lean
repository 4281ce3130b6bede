import MatrixLang.Proofs.Reuse
import MatrixLang.Proofs.Scanning.Lexemes
import MatrixLang.Proofs.Scanning.Steps

/-!
# Tokens in their source

Where the tokens of a text are written in it.  The last one is the end of the
file, at the end of the text (`Scanner.StandsAt.tokens_eq`); every other one is
written from its position on and does not start with a blank.  The same holds of
the token at any index, since behind the last token there is nothing but the end
of the file (`tokenAt_tokenize`).
-/

namespace MatrixLang

/--
A token is written in a text from its position on, and does not start with a
blank.
-/
def Token.WrittenIn (text : String) (token : Token) : Prop :=
  ∃ (start stop : text.Pos) (first : Char) (others : List Char),
    start < stop ∧
    token.position = .ofPlace start ∧
    text.extract start stop = token.written ∧
    token.written.toList = first :: others ∧
    Text.isBlank first = false

namespace Scanner

/-- A token does not start with a blank, since blanks are passed over. -/
theorem first_of_next?
    {scanner : Scanner}
    {scan : Scan}
    (found : scanner.next? = some scan)
    (isToken : scan.token.kind ≠ .endOfFile) :
    ∃ first others, scan.token.written.toList = first :: others ∧
      Text.isBlank first = false := by
  obtain ⟨-, ⟨lexeme, taken, token, -⟩ | ⟨-, token, -⟩⟩ := next_cases found
  · have written :=
      (Token.Lexeme.written_token taken scanner.skipTrivia.position).1
    obtain ⟨first, others, text⟩ :=
      List.exists_cons_of_ne_nil (Token.Lexeme.text_ne_nil taken)
    refine ⟨first, others, ?_, ?_⟩
    · rw [token, written, String.toList_ofList, text]
    · obtain ⟨behind, rest⟩ := Token.Lexeme.text_isPrefix taken
      rw [← Bool.not_eq_true]
      intro blank
      have isTrivia := (trivia_triviaLength scanner.rest).2 lexeme taken
      rw [← rest, text, List.cons_append,
        Token.Lexeme.first?_blank blank] at taken
      cases taken
      cases isTrivia
  · rw [token] at isToken
    exact absurd rfl isToken

/--
The tokens of a scanner are written behind its place, the end of the file as the
last one.
-/
theorem StandsAt.tokens_eq
    {scanner : Scanner}
    {text : String}
    {place : text.Pos}
    (stands : scanner.StandsAt place)
    (unfinished : scanner.finished = false) :
    ∃ front, scanner.tokens = front ++ [.endOfFile (.ofPlace text.endPos)] ∧
      ∀ token ∈ front, token.kind ≠ .endOfFile ∧ token.WrittenIn text := by
  induction size : scanner.size using
    Nat.strongRecOn generalizing scanner place with
  | ind size inductionHypothesis =>
      cases found : scanner.next? with
      | none =>
          rw [next?_eq_none_iff.1 found] at unfinished
          cases unfinished
      | some scan =>
          rw [tokens, scans_of_next? found, List.map_cons, ← tokens]
          by_cases isEnd : scan.token.kind = .endOfFile
          · obtain ⟨-, token, -, finished⟩ := stands.next_endOfFile found isEnd
            have nothing : scan.rest.tokens = [] := by
              rw [tokens, scans_of_next?_none (next?_eq_none_iff.2 finished),
                List.map_nil]
            refine ⟨[], ?_, List.forall_mem_nil _⟩
            rw [token, nothing, List.nil_append]
          · obtain ⟨start, stop, -, forward, -, position, written,
              standsBehind⟩ :=
              stands.next found isEnd
            obtain ⟨first, others, letters, notBlank⟩ :=
              first_of_next? found isEnd
            have stillUnfinished : scan.rest.finished = false := by
              rw [finished_of_next? found]
              exact decide_eq_false isEnd
            obtain ⟨front, listed, placed⟩ := inductionHypothesis _
              (size ▸ size_lt_of_next? found) standsBehind stillUnfinished rfl
            have writtenIn : scan.token.WrittenIn text :=
              ⟨start, stop, first, others, forward, position, written,
                letters, notBlank⟩
            refine ⟨scan.token :: front, ?_, ?_⟩
            · rw [listed, List.cons_append]
            · exact List.forall_mem_cons.2 ⟨⟨isEnd, writtenIn⟩, placed⟩

end Scanner

/--
The token at an index is written in the text, or it is the end of the file at
its end.
-/
theorem tokenAt_tokenize
    (text : String)
    (index : Nat) :
    ((tokenAt (tokenize text) index).kind ≠ .endOfFile ∧
        (tokenAt (tokenize text) index).WrittenIn text) ∨
      tokenAt (tokenize text) index = .endOfFile (.ofPlace text.endPos) := by
  obtain ⟨front, listed, placed⟩ := (Scanner.standsAt_ofText text).tokens_eq rfl
  have all :
      tokenize text = front ++ [.endOfFile (.ofPlace text.endPos)] := listed
  rw [all]
  rcases Nat.lt_trichotomy index front.length with within | last | beyond
  · have token : tokenAt (front ++ [.endOfFile (.ofPlace text.endPos)]) index =
        front.get ⟨index, within⟩ := by
      rw [tokenAt, List.getElem?_append_left within,
        List.getElem?_eq_getElem within]
      rfl
    rw [token]
    exact .inl (placed _ (List.get_mem front _))
  · rw [tokenAt, last, List.getElem?_append_right (Nat.le_refl _), Nat.sub_self]
    exact .inr rfl
  · have missing :
        (front ++ [.endOfFile (.ofPlace text.endPos)])[index]? = none := by
      rw [List.getElem?_eq_none_iff, List.length_append, List.length_singleton]
      omega
    rw [tokenAt, missing, endOf, Spot.endBehind, List.getLastD_concat]
    exact .inr rfl

/-- Parsing a text fails at one of its tokens. -/
theorem parseText_error
    {text : String}
    {diagnostic : Diagnostic}
    (failed : parseText text = .error diagnostic) :
    diagnostic.position = diagnostic.cause.token.position ∧
      ∃ index, diagnostic.cause.token = tokenAt (tokenize text) index := by
  obtain ⟨count, runs⟩ :=
    (Parser.advance Grammar.module).runs_parse (.before (.ofText text))
  have result :
      ((Parser.advance Grammar.module).parse (.before (.ofText text))).result =
        .error diagnostic :=
    failed
  generalize (Parser.advance Grammar.module).parse (.before (.ofText text)) =
    reply at runs result
  cases runs with
  | advance moved further =>
      obtain ⟨same, token⟩ :=
        (further.endsAt (Cursor.isAt_zero moved)).failure diagnostic result
      exact ⟨congrArg Diagnostic.position same, _, token⟩
  | stuck _ stuck =>
      cases result
      obtain ⟨token, -, rfl, known⟩ := Cursor.of_stuck stuck
      have listed : (tokenize text).drop 0 = token :: _ := known
      exact ⟨rfl, 0, (tokenAt_of_drop listed).1.symm⟩

end MatrixLang
