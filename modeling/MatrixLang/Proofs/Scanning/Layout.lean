import MatrixLang.Proofs.Printing.Pieces

/-!
# Layout carries no meaning

A lexeme that was taken from a text is taken again when the line ends behind it
(`Token.Lexeme.first?_again`), whatever stood behind it before: a numeral or a
word that ended early ends there too, an operator cannot grow, and an open
string stays open.  Only an open comment reaches over the end of a line, and it
is the last lexeme of its text.  Hence the tokens of a text can be set apart by
any blanks that start with a line feed.
-/

namespace MatrixLang

/-- The line ends where a text starts. -/
def Text.EndsLine (text : List Char) : Prop :=
  ∀ character ∈ text.head?, character = '\n'

namespace Token

theorem stops_of_endsLine
    {rest : List Char}
    (ends : Text.EndsLine rest) : stops rest = true := by
  cases rest with
  | nil => rfl
  | cons character rest =>
      cases ends character rfl
      rfl

namespace Pattern

/-! ## Numerals -/

/-- Digits, and at least one of them. -/
def IsDigits (text : List Char) : Prop :=
  text ≠ [] ∧ ∀ character ∈ text, character.isDigit = true

/-- The mark of an exponent, a sign or none, and digits. -/
def IsExponent (text : List Char) : Prop :=
  ∃ mark sign digits,
    text = mark :: (sign ++ digits) ∧
    (mark = 'e' ∨ mark = 'E') ∧
    (sign = ['+'] ∨ sign = ['-'] ∨ sign = []) ∧
    IsDigits digits

/-- What is taken as digits is digits. -/
theorem of_digits?
    {text digits : List Char}
    (found : digits? text = some digits) : IsDigits digits := by
  refine ⟨digits?_ne_nil found, fun character isDigit => ?_⟩
  unfold digits? at found
  split at found
  · cases found
  · cases found
    exact List.all_eq_true.1 List.all_takeWhile character isDigit

/-- What is taken as an exponent is an exponent. -/
theorem of_exponent?
    {text exponent : List Char}
    (found : exponent? text = some exponent) : IsExponent exponent := by
  unfold exponent? at found
  split at found
  · next mark rest =>
      split at found
      · next isMark =>
          obtain ⟨digits, taken, rfl⟩ := Option.map_eq_some_iff.1 found
          refine ⟨mark, exponentSign rest, digits, rfl, isMark, ?_,
            of_digits? taken⟩
          unfold exponentSign
          split
          · exact .inl rfl
          · exact .inr (.inl rfl)
          · exact .inr (.inr rfl)
      · cases found
  · cases found

/-- An exponent is taken again in front of what no numeral goes on with. -/
theorem exponent?_again
    {text exponent rest : List Char}
    (found : exponent? text = some exponent)
    (stop : stops rest = true) :
    exponent? (exponent ++ rest) = some exponent := by
  obtain ⟨mark, sign, digits, rfl, isMark, isSign, nonempty, all⟩ :=
    of_exponent? found
  have signed : exponentSign (sign ++ (digits ++ rest)) = sign := by
    rcases isSign with rfl | rfl | rfl
    · rfl
    · rfl
    · exact exponentSign_digits nonempty all rest
  have taken := digits?_append nonempty all (isDigit_of_stops stop)
  rw [List.cons_append, List.append_assoc, exponent?, if_pos isMark]
  simp only [signed, List.drop_left, taken, Option.map_some]

/-- An exponent starts with its mark, which is neither a digit nor a point. -/
theorem IsExponent.head?
    {exponent : List Char}
    (isExponent : IsExponent exponent)
    (rest : List Char) :
    (∀ character ∈ (exponent ++ rest).head?, character.isDigit = false) ∧
      fraction? (exponent ++ rest) = none := by
  obtain ⟨mark, sign, digits, rfl, isMark, -⟩ := isExponent
  constructor
  · intro character isFirst
    cases isFirst
    rcases isMark with rfl | rfl <;> rfl
  · rcases isMark with rfl | rfl <;> rfl

/-- A fraction is taken again in front of what starts with no digit. -/
theorem fraction?_again
    {text fraction rest : List Char}
    (found : fraction? text = some fraction)
    (stop : ∀ character ∈ rest.head?, character.isDigit = false) :
    (∀ character ∈ (fraction ++ rest).head?, character.isDigit = false) ∧
      fraction? (fraction ++ rest) = some fraction := by
  unfold fraction? at found
  split at found
  · obtain ⟨digits, taken, rfl⟩ := Option.map_eq_some_iff.1 found
    obtain ⟨nonempty, all⟩ := of_digits? taken
    refine ⟨fun character isFirst => ?_, ?_⟩
    · cases isFirst
      rfl
    · rw [List.cons_append, fraction?, digits?_append nonempty all stop]
      rfl
  · cases found

/-- A numeral is taken again in front of what no numeral goes on with. -/
theorem float?_again
    {text numeral rest : List Char}
    (found : float? text = some numeral)
    (stop : stops rest = true) :
    float? (numeral ++ rest) = some numeral := by
  unfold float? at found
  obtain ⟨whole, wholeFound, found⟩ := Option.bind_eq_some_iff.1 found
  obtain ⟨nonempty, all⟩ := of_digits? wholeFound
  dsimp only at found
  split at found
  · next fraction fractionFound =>
      cases found
      cases exponentFound :
        exponent? ((text.drop whole.length).drop fraction.length) with
      | none =>
          obtain ⟨noDigit, again⟩ :=
            fraction?_again fractionFound (isDigit_of_stops stop)
          simp [float?, digits?_append nonempty all noDigit, again,
            exponent?_of_stops stop]
      | some exponent =>
          obtain ⟨noDigit, again⟩ :=
            fraction?_again fractionFound
              ((of_exponent? exponentFound).head? rest).1
          simp [float?, digits?_append nonempty all noDigit, again,
            exponent?_again exponentFound stop]
  · obtain ⟨exponent, exponentFound, rfl⟩ := Option.map_eq_some_iff.1 found
    obtain ⟨noDigit, noFraction⟩ := (of_exponent? exponentFound).head? rest
    simp [float?, digits?_append nonempty all noDigit, noFraction,
      exponent?_again exponentFound stop]

/-! ## Stray characters -/

/-- No spelling has a line feed in it. -/
theorem lineFeed_not_mem_describe
    (kind : Kind) :
    '\n' ∉ kind.describe.toList := by
  cases kind <;> decide

/-- A sign of several characters does not go over the end of a line. -/
theorem symbol_fails_again
    {kind : Kind}
    {character : Char}
    {text rest : List Char}
    (fails : lexeme? (.symbol kind) (character :: text) = none)
    (ends : Text.EndsLine rest) :
    lexeme? (.symbol kind) (character :: rest) = none := by
  have noFeed := lineFeed_not_mem_describe kind
  simp only [lexeme?] at fails ⊢
  generalize kind.describe.toList = spelling at fails noFeed ⊢
  rw [if_neg]
  intro isFront
  rw [List.isPrefixOf_iff_prefix] at isFront
  cases spelling with
  | nil => simp at fails
  | cons first more =>
      obtain ⟨rfl, behind⟩ := List.cons_prefix_cons.1 isFront
      cases more with
      | nil => simp at fails
      | cons second more =>
          obtain ⟨behind, rfl⟩ := behind
          cases ends second rfl
          simp at noFeed

/--
A character that no pattern takes is taken by none where its line ends behind
it.
-/
theorem fails_again
    {character : Char}
    {text rest : List Char}
    (fails : ∀ pattern ∈ table, lexeme? pattern (character :: text) = none)
    (ends : Text.EndsLine rest) :
    ∀ pattern ∈ table, lexeme? pattern (character :: rest) = none := by
  have notStart : isWordStart character = false := by
    simpa [lexeme?] using fails .word (by simp [table])
  have notBlank : Text.isBlank character = false := by
    simpa [lexeme?] using fails .blanks (by simp [table])
  have notDigit : character.isDigit = false := by
    have noDigits : digits? (character :: text) = none :=
      fails .integer (by simp [table])
    cases isDigit : character.isDigit with
    | false => rfl
    | true => simp [digits?, isDigit] at noDigits
  have noDigits : digits? (character :: rest) = none := by
    simp [digits?, notDigit]
  have notQuote : character ≠ '"' := by
    rintro rfl
    cases fails .openString (by simp [table])
  have notSlash : character ≠ '/' := by
    rintro rfl
    cases fails (.symbol .slash) (by decide)
  intro pattern listed
  cases pattern with
  | word => simp [lexeme?, notStart]
  | float => simp [lexeme?, float?, noDigits]
  | integer => exact noDigits
  | blanks => simp [lexeme?, notBlank]
  | string => simp [lexeme?, notQuote]
  | openString => simp [lexeme?, notQuote]
  | lineComment => simp [lexeme?, notSlash]
  | blockComment => simp [lexeme?, notSlash]
  | openComment => simp [lexeme?, notSlash]
  | symbol kind => exact symbol_fails_again (fails _ listed) ends

end Pattern

/-! ## Lexemes -/

namespace Lexeme

/-- A stray character is one that no pattern takes. -/
theorem first?_eq_stray_iff
    {character other : Char}
    {rest : List Char} :
    first? (character :: rest) = some (.stray other) ↔
      character = other ∧
        ∀ pattern ∈ Pattern.table,
          pattern.lexeme? (character :: rest) = none := by
  have nowhere :
      Pattern.table.findSome? (fun pattern =>
          (pattern.lexeme? (character :: rest)).map (Lexeme.matched pattern)) =
        none ↔
      ∀ pattern ∈ Pattern.table,
        pattern.lexeme? (character :: rest) = none := by
    simp
  rw [← nowhere, first?, Option.some.injEq]
  cases found : Pattern.table.findSome? fun pattern =>
      (pattern.lexeme? (character :: rest)).map (Lexeme.matched pattern) with
  | none => simp
  | some lexeme =>
      obtain ⟨pattern, -, mapped⟩ := List.exists_of_findSome?_eq_some found
      obtain ⟨text, -, rfl⟩ := Option.map_eq_some_iff.1 mapped
      simp

/-- A quote is left open where its line ends before a second quote. -/
theorem first?_openString
    {body rest : List Char}
    (inner : ∀ character ∈ body, character ≠ '"' ∧ character ≠ '\n')
    (ends : Text.EndsLine rest) :
    first? ('"' :: (body ++ rest)) =
      some (.matched .openString ('"' :: body)) := by
  have run : Pattern.stringBody (body ++ rest) = body := by
    apply Pattern.takeWhile_append
    · intro character isInner
      simpa using inner character isInner
    · intro character isNext
      cases ends character isNext
      rfl
  have unclosed : Pattern.lexeme? .string ('"' :: (body ++ rest)) = none := by
    simp only [Pattern.lexeme?, run, List.drop_left]
    cases rest with
    | nil => rfl
    | cons character rest =>
        cases ends character rfl
        rfl
  have taken : Pattern.lexeme? .openString ('"' :: (body ++ rest)) =
      some ('"' :: body) := by
    rw [Pattern.lexeme?, run]
  have table : Pattern.table =
      ([.word, .float, .integer, .blanks] ++ [.string]) ++
        .openString :: Pattern.table.drop 6 :=
    rfl
  apply first?_of_fails table _ taken
  rw [List.findSome?_append, List.findSome?_singleton, unclosed]
  rfl

/--
A sign is not the beginning of a longer one where its line ends behind it.
-/
theorem standsBefore_of_endsLine
    {rest : List Char}
    (kind : Kind)
    (ends : Text.EndsLine rest) :
    kind.standsBefore rest = true := by
  cases rest with
  | nil => cases kind <;> rfl
  | cons character rest =>
      cases ends character rfl
      cases kind <;> rfl

/-- An open comment reaches to the end of its text. -/
theorem text_of_openComment
    {source text : List Char}
    (found : first? source = some (.matched .openComment text)) :
    text = source := by
  rcases of_first? found with ⟨pattern, _, same, -, taken⟩ | ⟨_, isStray⟩
  · cases same
    unfold Pattern.lexeme? at taken
    split at taken
    case h_9 =>
        cases taken
        rfl
    all_goals contradiction
  · cases isStray

/--
A lexeme is taken again where its line ends behind it; an open comment must end
the text.
-/
theorem first?_again
    {source rest : List Char}
    {lexeme : Lexeme}
    (found : first? source = some lexeme)
    (isToken : lexeme.isTrivia = false)
    (ends : Text.EndsLine rest)
    (last : ∀ text, lexeme = .matched .openComment text -> rest = []) :
    first? (lexeme.text ++ rest) = some lexeme := by
  have stop := stops_of_endsLine ends
  rcases of_first? found with
    ⟨pattern, text, rfl, listed, taken⟩ | ⟨character, rfl⟩
  · cases pattern with
    | word =>
        unfold Pattern.lexeme? at taken
        split at taken
        case h_1 _ character rest _ =>
            split at taken
            · next start =>
                cases taken
                refine first?_word start (fun part isPart => ?_) stop
                exact List.all_eq_true.1 List.all_takeWhile part isPart
            · cases taken
        all_goals contradiction
    | float =>
        have again := Pattern.float?_again taken stop
        obtain ⟨whole, wholeFound, -⟩ := Option.bind_eq_some_iff.1 taken
        have isDigit := Pattern.isDigit_of_digits? wholeFound
        rw [← Pattern.head?_of_lexeme? taken] at isDigit
        cases text with
        | nil => exact absurd rfl (Pattern.float?_ne_nil taken)
        | cons character text =>
            exact first?_float (isDigit character rfl) again
    | integer =>
        obtain ⟨nonempty, all⟩ := Pattern.of_digits? taken
        exact first?_integer nonempty all stop
    | string =>
        obtain ⟨body, rfl, inner⟩ := Pattern.of_lexeme?_string taken
        rw [text, List.cons_append, List.append_assoc]
        exact first?_string inner rest
    | openString =>
        unfold Pattern.lexeme? at taken
        split at taken
        case h_6 =>
            cases taken
            refine first?_openString (fun character inside => ?_) ends
            simpa using List.all_eq_true.1 List.all_takeWhile character inside
        all_goals contradiction
    | openComment =>
        cases last text rfl
        have whole := text_of_openComment found
        subst whole
        rw [Lexeme.text, List.append_nil]
        exact found
    | symbol kind =>
        have isSymbol : kind ∈ Pattern.symbols := by
          revert listed
          cases kind <;> decide
        rw [Lexeme.text, (Pattern.of_lexeme?_symbol taken).1]
        exact first?_symbol isSymbol (standsBefore_of_endsLine kind ends)
    | blanks | lineComment | blockComment => cases isToken
  · cases source with
    | nil => cases found
    | cons first source =>
        obtain ⟨rfl, fails⟩ := first?_eq_stray_iff.1 found
        exact first?_eq_stray_iff.2 ⟨rfl, Pattern.fails_again fails ends⟩

end Lexeme

/-! ## Tokens on lines of their own -/

/-- What a token is, wherever it stands. -/
def shape (token : Token) : Kind × String :=
  (token.kind, token.spelling)

end Token

/-- A line feed and blanks behind it. -/
structure Text.LineBreak where
  /-- What stands behind the line feed. -/
  blanks : List Char
  isBlank : ∀ character ∈ blanks, Text.isBlank character = true

namespace Text.LineBreak

/-- The characters of a line break. -/
def text (lineBreak : LineBreak) : List Char :=
  '\n' :: lineBreak.blanks

theorem isBlank_of_mem_text
    (lineBreak : LineBreak) :
    ∀ character ∈ lineBreak.text, Text.isBlank character = true :=
  List.forall_mem_cons.2 ⟨by decide, lineBreak.isBlank⟩

end Text.LineBreak

namespace Token

/-- Tokens as they are written, with a line break before each. -/
def laidBehind (breaks : Nat -> Text.LineBreak) : List Token -> List Char
  | [] => []
  | token :: rest =>
      (breaks 0).text ++
        (token.written.toList ++
          laidBehind (fun index => breaks (index + 1)) rest)

/-- Tokens as they are written, with a line break between each two of them. -/
def laidOut (breaks : Nat -> Text.LineBreak) : List Token -> List Char
  | [] => []
  | token :: rest => token.written.toList ++ laidBehind breaks rest

theorem endsLine_laidBehind
    (breaks : Nat -> Text.LineBreak)
    (tokens : List Token) : Text.EndsLine (laidBehind breaks tokens) := by
  cases tokens with
  | nil =>
      intro character isFirst
      cases isFirst
  | cons token rest =>
      intro character isFirst
      cases isFirst
      rfl

end Token

namespace Scanner

/-- Where there is no text left, only the end of the file is scanned. -/
theorem tokens_of_nil
    {scanner : Scanner}
    (unfinished : scanner.finished = false)
    (empty : scanner.rest = []) :
    scanner.tokens = [.endOfFile scanner.position] := by
  cases scanner
  cases unfinished
  cases empty
  rfl

/--
Scanning finds tokens of the shapes of the given ones and then the end of the
file.
-/
def Finds (scanner : Scanner) (tokens : List Token) : Prop :=
  ∃ found ending,
    scanner.tokens = found ++ [.endOfFile ending] ∧
    found.map Token.shape = tokens.map Token.shape

/-- Tokens are found again on lines of their own. -/
def FindsLaidOut (tokens : List Token) : Prop :=
  ∀ breaks start, Finds ⟨Token.laidOut breaks tokens, start, false⟩ tokens

/-- Tokens behind a line break are found as they are without it. -/
theorem FindsLaidOut.laidBehind
    {tokens : List Token}
    (finds : FindsLaidOut tokens)
    (breaks : Nat -> Text.LineBreak)
    (start : Position) :
    Finds ⟨Token.laidBehind breaks tokens, start, false⟩ tokens := by
  cases tokens with
  | nil => exact finds breaks start
  | cons token rest =>
      have skipped := passes_blanks (breaks 0).isBlank_of_mem_text
        (Token.laidOut (fun index => breaks (index + 1)) (token :: rest)) start
      rw [Passes, List.nil_append] at skipped
      rw [Finds, Token.laidBehind, ← Token.laidOut, skipped]
      exact finds _ _

/-- A token is found again before others that are, if it can end its line. -/
theorem FindsLaidOut.cons
    {source : List Char}
    {lexeme : Token.Lexeme}
    {tokens : List Token}
    (first : Token.Lexeme.first? source = some lexeme)
    (isToken : lexeme.isTrivia = false)
    (last : ∀ text, lexeme = .matched .openComment text -> tokens = [])
    (finds : FindsLaidOut tokens)
    (position : Position) :
    FindsLaidOut (lexeme.token position :: tokens) := by
  intro breaks start
  have written : (lexeme.token position).written.toList = lexeme.text := by
    rw [(Token.Lexeme.written_token first position).1, String.toList_ofList]
  have again := Token.Lexeme.first?_again first isToken
    (Token.endsLine_laidBehind breaks tokens) fun text isComment => by
      rw [last text isComment]
      rfl
  obtain ⟨found, ending, rest, shapes⟩ :=
    finds.laidBehind breaks (start.afterAll lexeme.text)
  have passes := passes_lexeme lexeme again isToken start
  refine ⟨lexeme.token start :: found, ending, ?_, ?_⟩
  · rw [Token.laidOut, written, passes, rest]
    rfl
  · rw [List.map_cons, List.map_cons, shapes]
    cases lexeme <;> rfl

/-- The tokens that a scanner yields are found again on lines of their own. -/
theorem finds_laidOut
    (scanner : Scanner)
    (unfinished : scanner.finished = false) :
    ∃ tokens ending,
      scanner.tokens = tokens ++ [.endOfFile ending] ∧
      (∀ token ∈ tokens, token.kind ≠ .endOfFile) ∧
      FindsLaidOut tokens := by
  induction size : scanner.size using Nat.strongRecOn generalizing scanner with
  | ind size inductionHypothesis =>
      cases found : scanner.next? with
      | none => simp [next?_eq_none_iff, unfinished] at found
      | some scan =>
          have smaller := size_lt_of_next? found
          have finished := finished_of_next? found
          obtain ⟨-, ⟨lexeme, first, token, rest⟩ | ⟨-, token, rest⟩⟩ :=
            next_cases found
          · have isToken : lexeme.isTrivia = false :=
              (trivia_triviaLength scanner.rest).2 lexeme first
            have other :=
              (Token.Lexeme.written_token first scanner.skipTrivia.position).2
            rw [token, decide_eq_false other] at finished
            obtain ⟨tokens, ending, behind, proper, again⟩ :=
              inductionHypothesis _ (by omega) scan.rest finished rfl
            refine ⟨scan.token :: tokens, ending, ?_, ?_, ?_⟩
            · rw [Scanner.tokens, scans_of_next? found, List.map_cons,
                ← Scanner.tokens, behind]
              rfl
            · rw [token]
              exact List.forall_mem_cons.2 ⟨other, proper⟩
            · rw [token]
              refine FindsLaidOut.cons first isToken
                (fun text isComment => ?_) again _
              -- Nothing is left to scan behind an open comment.
              subst isComment
              have empty : scan.rest.rest = [] := by
                rw [rest, skip, Token.Lexeme.text,
                  Token.Lexeme.text_of_openComment first]
                exact List.drop_length
              rw [tokens_of_nil finished empty] at behind
              exact (List.append_eq_singleton_iff.1 behind.symm).resolve_right
                (by simp) |>.1
          · refine ⟨[], scanner.skipTrivia.position, ?_, List.forall_mem_nil _,
              fun breaks start => ?_⟩
            · have ended : scan.rest.next? = none := by
                rw [next?_eq_none_iff, rest]
              rw [Scanner.tokens, scans_of_next? found,
                scans_of_next?_none ended, List.map_cons, token]
              rfl
            · exact ⟨[], start, rfl, rfl⟩

end Scanner

/--
Layout and comments carry no meaning: what is tokenized from a text is tokenized
again, with the same kinds and spellings, when each token stands on a line of
its own and whatever blanks the lines start with.
-/
theorem tokenize_laidOut
    (source : String) :
    ∃ tokens ending,
      tokenize source = tokens ++ [.endOfFile ending] ∧
      (∀ token ∈ tokens, token.kind ≠ .endOfFile) ∧
      ∀ breaks, ∃ others otherEnding,
        tokenize (.ofList (Token.laidOut breaks tokens)) =
          others ++ [.endOfFile otherEnding] ∧
        others.map Token.shape = tokens.map Token.shape := by
  obtain ⟨tokens, ending, scanned, proper, again⟩ :=
    Scanner.finds_laidOut (.ofText source) rfl
  refine ⟨tokens, ending, scanned, proper, fun breaks => ?_⟩
  rw [tokenize, Scanner.ofText, String.toList_ofList]
  exact again breaks .start

end MatrixLang
