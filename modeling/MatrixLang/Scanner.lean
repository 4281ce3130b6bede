import MatrixLang.Token.Lexeme

/-!
# The scanner

A scanner is the text that is left together with the position reached.  It
yields one token at a time, skipping blanks and comments, and ends with exactly
one end-of-file token.  `Scanner.size_lt_of_next?` says that every token makes
the scanner smaller.
-/

namespace MatrixLang

/-- A text that is being scanned. -/
structure Scanner where
  /-- The text that is left. -/
  rest : List Char
  /-- The position of the first character that is left. -/
  position : Position
  /-- The end-of-file token has been yielded. -/
  finished : Bool
deriving DecidableEq

/--
One token from a scanner, the events on the way to it, and the scanner behind
it.
-/
structure Scan where
  /-- The token. -/
  token : Token
  /-- The events that the token reports. -/
  events : List Event
  /-- The scanner behind the token. -/
  rest : Scanner

namespace Scanner

/-- A scanner at the start of a text. -/
def ofText (text : String) : Scanner :=
  ⟨text.toList, .start, false⟩

/-- Nothing is left to scan. -/
def atEnd (scanner : Scanner) : Bool :=
  scanner.rest.isEmpty

/-- The number of bytes of the text that is left. -/
def byteSize (scanner : Scanner) : Nat :=
  (String.ofList scanner.rest).utf8ByteSize

/-- Moves over a number of characters. -/
def skip (scanner : Scanner) (count : Nat) : Scanner :=
  { scanner with
    rest := scanner.rest.drop count
    position := scanner.position.afterAll (scanner.rest.take count) }

/--
The number of characters in the first `bytes` bytes of a text, or in all of a
shorter text; there is none when the last byte would fall inside a character.
-/
def charactersIn? : Nat -> List Char -> Option Nat
  | 0, _ => some 0
  | _ + 1, [] => some 0
  | bytes + 1, character :: rest =>
      if character.utf8Size ≤ bytes + 1 then
        (charactersIn? (bytes + 1 - character.utf8Size) rest).map (· + 1)
      else
        none

/-- Moves over a number of bytes, unless that would end inside a character. -/
def skipBytes? (scanner : Scanner) (bytes : Nat) : Option Scanner :=
  (charactersIn? bytes scanner.rest).map scanner.skip

/--
The number of characters before the first lexeme that is not trivia, where
`pending` characters of a trivial lexeme are still ahead.
-/
def triviaLength : (pending : Nat) -> List Char -> Nat
  | _, [] => 0
  | pending + 1, _ :: rest => triviaLength pending rest + 1
  | 0, character :: rest =>
      match Token.Lexeme.first? (character :: rest) with
      | some lexeme =>
          if lexeme.isTrivia then
            triviaLength (lexeme.text.length - 1) rest + 1
          else
            0
      | none => 0

/-- Pending characters are passed over before anything is looked at. -/
theorem triviaLength_pending
    {pending : Nat}
    {text : List Char}
    (within : pending ≤ text.length) :
    triviaLength pending text =
      pending + triviaLength 0 (text.drop pending) := by
  induction pending generalizing text with
  | zero => simp
  | succ pending inductionHypothesis =>
      cases text with
      | nil => simp at within
      | cons character rest =>
          rw [triviaLength, inductionHypothesis (by simpa using within),
            List.drop_succ_cons]
          omega

/-- A trivial lexeme is passed over as a whole. -/
theorem triviaLength_of_isTrivia
    {text : List Char}
    {lexeme : Token.Lexeme}
    (first : Token.Lexeme.first? text = some lexeme)
    (trivia : lexeme.isTrivia = true) :
    triviaLength 0 text =
      lexeme.text.length + triviaLength 0 (text.drop lexeme.text.length) := by
  have positive := List.length_pos_iff.2 (Token.Lexeme.text_ne_nil first)
  have within := (Token.Lexeme.text_isPrefix first).length_le
  cases text with
  | nil => cases first
  | cons character rest =>
      obtain ⟨count, length⟩ : ∃ count, lexeme.text.length = count + 1 :=
        ⟨lexeme.text.length - 1, by omega⟩
      rw [length, List.length_cons] at within
      simp only [triviaLength, first, trivia, if_true, length,
        Nat.add_sub_cancel, List.drop_succ_cons]
      rw [triviaLength_pending (Nat.le_of_succ_le_succ within)]
      omega

/-- Any other lexeme ends the trivia before it. -/
theorem triviaLength_of_not_isTrivia
    {text : List Char}
    {lexeme : Token.Lexeme}
    (first : Token.Lexeme.first? text = some lexeme)
    (token : lexeme.isTrivia = false) :
    triviaLength 0 text = 0 := by
  cases text with
  | nil => cases first
  | cons character rest => simp [triviaLength, first, token]

/-- Moves to the first lexeme that is not trivia. -/
def skipTrivia (scanner : Scanner) : Scanner :=
  scanner.skip (triviaLength 0 scanner.rest)

/-- The next token; there is none behind the end-of-file token. -/
def next? (scanner : Scanner) : Option Scan :=
  if scanner.finished then
    none
  else
    let start := scanner.skipTrivia
    match Token.Lexeme.first? start.rest with
    | some lexeme =>
        some {
          token := lexeme.token start.position
          events := lexeme.events start.position
          rest := start.skip lexeme.text.length }
    | none =>
        some {
          token := .endOfFile start.position
          events := []
          rest := { start with finished := true } }

/-- An upper bound on the number of tokens that a scanner still yields. -/
def size (scanner : Scanner) : Nat :=
  if scanner.finished then 0 else scanner.rest.length + 1

/-- Every token makes the scanner smaller. -/
theorem size_lt_of_next?
    {scanner : Scanner}
    {scan : Scan}
    (found : scanner.next? = some scan) :
    scan.rest.size < scanner.size := by
  unfold next? at found
  split at found
  · cases found
  · next unfinished =>
      dsimp only at found
      split at found
      · next lexeme first =>
          cases found
          have nonempty :=
            List.length_pos_iff.2 (Token.Lexeme.text_ne_nil first)
          have present : scanner.skipTrivia.rest ≠ [] := by
            intro empty
            simp [empty, Token.Lexeme.first?] at first
          have positive := List.length_pos_iff.2 present
          simp only [size, skip, skipTrivia, List.length_drop,
            unfinished] at positive ⊢
          simp only [Bool.false_eq_true, if_false]
          omega
      · cases found
        simp [size, unfinished]

/-- The first tokens of a scanner, at most `fuel` of them. -/
def scansUpTo : Nat -> Scanner -> List Scan
  | 0, _ => []
  | fuel + 1, scanner =>
      match scanner.next? with
      | some scan => scan :: scansUpTo fuel scan.rest
      | none => []

/-- All the tokens that a scanner yields. -/
def scans (scanner : Scanner) : List Scan :=
  scansUpTo scanner.size scanner

/-- A scanner of size zero yields nothing more. -/
theorem next?_of_size_zero
    {scanner : Scanner}
    (empty : scanner.size = 0) :
    scanner.next? = none := by
  cases state : scanner.finished
  · simp [size, state] at empty
  · simp [next?, state]

/-- Fuel beyond the size of a scanner changes nothing. -/
theorem scansUpTo_congr
    {first second : Nat}
    {scanner : Scanner}
    (firstEnough : scanner.size ≤ first)
    (secondEnough : scanner.size ≤ second) :
    scansUpTo first scanner = scansUpTo second scanner := by
  induction first generalizing second scanner with
  | zero =>
      have none := next?_of_size_zero (Nat.le_zero.1 firstEnough)
      cases second <;> simp [scansUpTo, none]
  | succ first inductionHypothesis =>
      cases second with
      | zero =>
          have none := next?_of_size_zero (Nat.le_zero.1 secondEnough)
          simp [scansUpTo, none]
      | succ second =>
          rw [scansUpTo, scansUpTo]
          cases found : scanner.next? with
          | none => rfl
          | some scan =>
              have smaller := size_lt_of_next? found
              exact congrArg (scan :: ·)
                (inductionHypothesis (by omega) (by omega))

/-- The first token comes before those of the scanner behind it. -/
theorem scans_of_next?
    {scanner : Scanner}
    {scan : Scan}
    (found : scanner.next? = some scan) :
    scanner.scans = scan :: scan.rest.scans := by
  have smaller := size_lt_of_next? found
  rw [scans, scansUpTo_congr (Nat.le_refl _) (Nat.le_succ _), scansUpTo, found]
  exact congrArg (scan :: ·) (scansUpTo_congr (by omega) (Nat.le_refl _))

/-- A scanner without a next token yields nothing. -/
theorem scans_of_next?_none
    {scanner : Scanner}
    (ended : scanner.next? = none) :
    scanner.scans = [] := by
  rw [scans, scansUpTo_congr (Nat.le_refl _) (Nat.le_succ _), scansUpTo, ended]

/-- The scanner behind its last token. -/
def drained (scanner : Scanner) : Scanner :=
  (scanner.scans.getLast?.map Scan.rest).getD scanner

/-- The tokens that a scanner yields, without their events. -/
def tokens (scanner : Scanner) : List Token :=
  scanner.scans.map Scan.token

/-- The events that a scanner reports when it is scanned to its end. -/
def events (scanner : Scanner) : List Event :=
  scanner.scans.flatMap Scan.events

end Scanner

/-- The tokens of a text; the last one is the end of the file. -/
def tokenize (text : String) : List Token :=
  (Scanner.ofText text).tokens

end MatrixLang
