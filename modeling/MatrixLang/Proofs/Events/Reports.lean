import MatrixLang.Proofs.Scanning.Layout

/-!
# What a scanner reports

A scanner reports every token that it could not read, and nothing else.  The
spelling of such a token tells whether a text was left open or a character
starts no token, so the report can be told from the token alone
(`Token.report`).
-/

namespace MatrixLang

namespace Token

/--
The report of a token that could not be scanned: open texts start with a quote
or a slash.
-/
def report (token : Token) : Event :=
  if token.spelling.toList.head? ∈ [some '"', some '/'] then
    .unterminated token.position token.spelling
  else
    .unrecognised token.position token.spelling

/-- The reports of a token, of which there is one if it could not be scanned. -/
def reports (token : Token) : List Event :=
  if token.kind = .invalid then [token.report] else []

/-- What is left open becomes an invalid token, spelled as it stands. -/
theorem Pattern.of_isOpen
    {pattern : Pattern}
    (isOpen : pattern.isOpen = true)
    (text : List Char) :
    pattern.kind text = .invalid ∧
      pattern.spelling text = String.ofList text := by
  cases pattern with
  | openString | openComment => exact ⟨rfl, rfl⟩
  | _ => cases isOpen

/-- What is left open starts with a quote or a slash. -/
theorem Pattern.head?_of_isOpen
    {pattern : Pattern}
    {text lexeme : List Char}
    (isOpen : pattern.isOpen = true)
    (found : pattern.lexeme? text = some lexeme) :
    lexeme.head? ∈ [some '"', some '/'] := by
  unfold lexeme? at found
  split at found
  case h_6 =>
      cases found
      simp
  case h_9 =>
      cases found
      simp
  all_goals first
    | cases isOpen
    | cases found

/-- A character that no pattern takes is neither a quote nor a slash. -/
theorem Lexeme.stray_ne
    {source : List Char}
    {character : Char}
    (found : first? source = some (.stray character)) :
    character ≠ '"' ∧ character ≠ '/' := by
  cases source with
  | nil => cases found
  | cons first rest =>
      obtain ⟨rfl, fails⟩ := first?_eq_stray_iff.1 found
      constructor
      · rintro rfl
        cases fails .openString (by simp [Pattern.table])
      · rintro rfl
        cases fails (.symbol .slash) (by decide)

/-- A lexeme reports its token if that could not be scanned. -/
theorem Lexeme.events_eq
    {source : List Char}
    {lexeme : Lexeme}
    (found : first? source = some lexeme)
    (isToken : lexeme.isTrivia = false)
    (position : Position) :
    lexeme.events position = (lexeme.token position).reports := by
  rcases of_first? found with
    ⟨pattern, text, rfl, listed, taken⟩ | ⟨character, rfl⟩
  · cases isOpen : pattern.isOpen with
    | false =>
        have valid : pattern.kind text ≠ .invalid :=
          Pattern.kind_ne_invalid listed isToken isOpen text
        simp [events, isOpen, reports, token, valid]
    | true =>
        have starts := Pattern.head?_of_isOpen isOpen taken
        obtain ⟨invalid, spelled⟩ := Pattern.of_isOpen isOpen text
        have opened : (token position (.matched pattern text)).report =
            .unterminated position (String.ofList text) := by
          simp only [report, token, spelled, String.toList_ofList]
          exact if_pos starts
        rw [reports, opened, events, isOpen]
        simp [token, invalid]
  · obtain ⟨notQuote, notSlash⟩ := stray_ne found
    have strange : (token position (.stray character)).report =
        .unrecognised position (String.singleton character) := by
      simp [report, token, notQuote, notSlash]
    rw [reports, strange]
    rfl

end Token

namespace Scanner

/-- A step of a scanner reports its token if that could not be scanned. -/
theorem events_of_next?
    {scanner : Scanner}
    {scan : Scan}
    (found : scanner.next? = some scan) :
    scan.events = scan.token.reports := by
  unfold next? at found
  split at found
  · cases found
  · dsimp only at found
    split at found
    · next lexeme first =>
        cases found
        exact Token.Lexeme.events_eq first
          ((trivia_triviaLength scanner.rest).2 lexeme first) _
    · cases found
      rfl

/--
A scanner that is read to its end reports the tokens that it could not scan, in
order.
-/
theorem events_eq
    (scanner : Scanner) :
    scanner.events =
      (scanner.tokens.filter (·.kind = .invalid)).map Token.report := by
  induction size : scanner.size using Nat.strongRecOn generalizing scanner with
  | ind size inductionHypothesis =>
      cases found : scanner.next? with
      | none =>
          rw [events, tokens, scans_of_next?_none found]
          rfl
      | some scan =>
          have smaller := size_lt_of_next? found
          have behind := inductionHypothesis _ (by omega) scan.rest rfl
          rw [events, tokens, scans_of_next? found, List.flatMap_cons,
            List.map_cons, ← events, ← tokens, behind, events_of_next? found,
            Token.reports]
          by_cases invalid : scan.token.kind = .invalid <;> simp [invalid]

end Scanner
end MatrixLang
