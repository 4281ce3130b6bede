import MatrixLang.Event
import MatrixLang.Text.Character
import MatrixLang.Token.Basic

/-!
# Lexemes

What the scanner may take from the front of a text.  The patterns stand in an
ordered table and the first one that matches wins; a character that no pattern
takes is a lexeme of its own.

The main facts are `Lexeme.text_ne_nil` and `Lexeme.text_isPrefix`: a lexeme is
never empty, so scanning always moves on, and it is the front of the text from
which it is taken, so scanning loses nothing.
-/

namespace MatrixLang
namespace Token

/-- The classes of text that the scanner takes as a whole. -/
inductive Pattern
  /-- A letter or an underscore, then letters, underscores and digits. -/
  | word
  /-- Digits with a fraction, an exponent or both. -/
  | float
  /-- Digits. -/
  | integer
  /-- A run of blanks. -/
  | blanks
  /-- A quoted text within one line. -/
  | string
  /-- A quote whose line ends before a second quote. -/
  | openString
  /-- Two slashes and the rest of the line. -/
  | lineComment
  /-- A comment between `/*` and the first `*/` behind it. -/
  | blockComment
  /-- A block comment without its end. -/
  | openComment
  /-- The fixed spelling of one kind. -/
  | symbol (kind : Kind)
deriving DecidableEq

namespace Pattern

/-- The letters that may start a word are ASCII. -/
def isWordStart (character : Char) : Bool :=
  character.isAlpha || character == '_'

/-- A word goes on with ASCII letters, digits and underscores. -/
def isWordPart (character : Char) : Bool :=
  character.isAlphanum || character == '_'

/-- The nonempty run of digits at the front of a text. -/
def digits? (text : List Char) : Option (List Char) :=
  match text.takeWhile Char.isDigit with
  | [] => none
  | digits => some digits

/-- The sign that may stand before the digits of an exponent. -/
def exponentSign : List Char -> List Char
  | '+' :: _ => ['+']
  | '-' :: _ => ['-']
  | _ => []

/-- An exponent: its mark, an optional sign and digits. -/
def exponent? : List Char -> Option (List Char)
  | mark :: rest =>
      if mark = 'e' ∨ mark = 'E' then
        let sign := exponentSign rest
        (digits? (rest.drop sign.length)).map fun digits =>
          mark :: (sign ++ digits)
      else
        none
  | [] => none

/-- A fraction: a point and digits. -/
def fraction? : List Char -> Option (List Char)
  | '.' :: rest => (digits? rest).map ('.' :: ·)
  | _ => none

/--
Digits, then a fraction that an exponent may follow, or an exponent alone.
-/
def float? (text : List Char) : Option (List Char) :=
  (digits? text).bind fun whole =>
    let rest := text.drop whole.length
    match fraction? rest with
    | some fraction =>
        some (whole ++ fraction ++
          (exponent? (rest.drop fraction.length)).getD [])
    | none => (exponent? rest).map (whole ++ ·)

/-- The characters of a string behind its opening quote. -/
def stringBody (text : List Char) : List Char :=
  text.takeWhile fun character => character != '"' && character != '\n'

/-- The text up to and including the first `*/`. -/
def throughClose? : List Char -> Option (List Char)
  | [] => none
  | '*' :: '/' :: _ => some ['*', '/']
  | character :: rest => (throughClose? rest).map (character :: ·)

/-- The lexeme that a pattern takes from the front of a text. -/
def lexeme? : Pattern -> List Char -> Option (List Char)
  | .word, character :: rest =>
      if isWordStart character then
        some (character :: rest.takeWhile isWordPart)
      else
        none
  | .float, text => float? text
  | .integer, text => digits? text
  | .blanks, character :: rest =>
      if Text.isBlank character then
        some (character :: rest.takeWhile Text.isBlank)
      else
        none
  | .string, '"' :: rest =>
      let body := stringBody rest
      match rest.drop body.length with
      | '"' :: _ => some ('"' :: (body ++ ['"']))
      | _ => none
  | .openString, '"' :: rest => some ('"' :: stringBody rest)
  | .lineComment, '/' :: '/' :: rest =>
      some ('/' :: '/' :: rest.takeWhile (· != '\n'))
  | .blockComment, '/' :: '*' :: rest =>
      (throughClose? rest).map ('/' :: '*' :: ·)
  | .openComment, '/' :: '*' :: rest => some ('/' :: '*' :: rest)
  | .symbol kind, text =>
      let spelling := kind.describe.toList
      if spelling.isPrefixOf text then some spelling else none
  | _, _ => none

/--
The kinds with a spelling of punctuation, longer spellings before their
beginnings.
-/
def symbols : List Kind :=
  [.xDimension, .yDimension, .dimension, .dotProduct, .openBracket,
    .closeBracket, .openCurly, .closeCurly, .openParen, .closeParen, .equals,
    .notEquals, .not, .assignment, .lessEquals, .less, .greaterEquals, .greater,
    .or, .and, .semicolon, .colon, .question, .comma, .atSign, .hash, .caret,
    .plus, .dash, .slash, .star]

/-- The patterns in the order in which they are tried. -/
def table : List Pattern :=
  [.word, .float, .integer, .blanks, .string, .openString, .lineComment,
    .blockComment, .openComment] ++ symbols.map .symbol

/-- Blanks and closed comments yield no token. -/
def isTrivia : Pattern -> Bool
  | .blanks | .lineComment | .blockComment => true
  | _ => false

/-- Texts without their end become invalid tokens. -/
def isOpen : Pattern -> Bool
  | .openString | .openComment => true
  | _ => false

/-- The kind of the token that a lexeme of a pattern yields. -/
def kind : Pattern -> List Char -> Kind
  | .word, text => Kind.ofWord (String.ofList text)
  | .float, _ => .floatLiteral
  | .integer, _ => .intLiteral
  | .string, _ => .stringLiteral
  | .symbol kind, _ => kind
  | _, _ => .invalid

/--
The spelling of a token: its lexeme, or for a string the text between the
quotes.
-/
def spelling : Pattern -> List Char -> String
  | .string, text => String.ofList (text.drop 1).dropLast
  | _, text => String.ofList text

theorem digits?_ne_nil
    {text lexeme : List Char}
    (found : digits? text = some lexeme) :
    lexeme ≠ [] := by
  unfold digits? at found
  split at found
  · cases found
  · next nonempty =>
      cases found
      exact nonempty

theorem float?_ne_nil
    {text lexeme : List Char}
    (found : float? text = some lexeme) :
    lexeme ≠ [] := by
  unfold float? at found
  obtain ⟨whole, wholeFound, found⟩ := Option.bind_eq_some_iff.1 found
  have nonempty := digits?_ne_nil wholeFound
  dsimp only at found
  split at found
  · cases found
    simp [nonempty]
  · obtain ⟨exponent, _, rfl⟩ := Option.map_eq_some_iff.1 found
    simp [nonempty]

/-- A lexeme is never empty. -/
theorem lexeme?_ne_nil
    {pattern : Pattern}
    {text lexeme : List Char}
    (found : pattern.lexeme? text = some lexeme) :
    lexeme ≠ [] := by
  unfold lexeme? at found
  split at found
  · split at found <;> cases found
    simp
  · exact float?_ne_nil found
  · exact digits?_ne_nil found
  · split at found <;> cases found
    simp
  · dsimp only at found
    split at found <;> cases found
    simp
  · cases found
    simp
  · cases found
    simp
  · obtain ⟨comment, _, rfl⟩ := Option.map_eq_some_iff.1 found
    simp
  · cases found
    simp
  · next kind =>
      dsimp only at found
      split at found <;> cases found
      cases kind <;> decide
  · cases found

/-- What is taken behind a front of a text extends that front. -/
theorem append_isPrefix
    {front back text : List Char}
    (frontTaken : front <+: text)
    (backTaken : back <+: text.drop front.length) :
    front ++ back <+: text := by
  obtain ⟨rest, rfl⟩ := frontTaken
  rw [List.drop_left] at backTaken
  exact (List.prefix_append_right_inj front).2 backTaken

theorem digits?_isPrefix
    {text lexeme : List Char}
    (found : digits? text = some lexeme) :
    lexeme <+: text := by
  unfold digits? at found
  split at found <;> cases found
  exact List.takeWhile_prefix _

theorem exponentSign_isPrefix
    (text : List Char) :
    exponentSign text <+: text := by
  unfold exponentSign
  split <;> simp

theorem exponent?_isPrefix
    {text lexeme : List Char}
    (found : exponent? text = some lexeme) :
    lexeme <+: text := by
  unfold exponent? at found
  split at found
  · split at found
    · next mark rest _ =>
        obtain ⟨digits, taken, rfl⟩ := Option.map_eq_some_iff.1 found
        exact (List.prefix_cons_inj mark).2
          (append_isPrefix (exponentSign_isPrefix rest)
            (digits?_isPrefix taken))
    · cases found
  · cases found

theorem fraction?_isPrefix
    {text lexeme : List Char}
    (found : fraction? text = some lexeme) :
    lexeme <+: text := by
  unfold fraction? at found
  split at found
  · obtain ⟨digits, taken, rfl⟩ := Option.map_eq_some_iff.1 found
    exact (List.prefix_cons_inj '.').2 (digits?_isPrefix taken)
  · cases found

theorem float?_isPrefix
    {text lexeme : List Char}
    (found : float? text = some lexeme) :
    lexeme <+: text := by
  unfold float? at found
  obtain ⟨whole, wholeFound, found⟩ := Option.bind_eq_some_iff.1 found
  have wholeTaken := digits?_isPrefix wholeFound
  dsimp only at found
  split at found
  · next fraction fractionFound =>
      cases found
      have fractionTaken :=
        append_isPrefix wholeTaken (fraction?_isPrefix fractionFound)
      cases exponentFound :
        exponent? ((text.drop whole.length).drop fraction.length) with
      | none => simpa using fractionTaken
      | some exponent =>
          refine append_isPrefix fractionTaken ?_
          rw [List.length_append, ← List.drop_drop]
          exact exponent?_isPrefix exponentFound
  · obtain ⟨exponent, exponentFound, rfl⟩ := Option.map_eq_some_iff.1 found
    exact append_isPrefix wholeTaken (exponent?_isPrefix exponentFound)

theorem throughClose?_isPrefix
    {text lexeme : List Char}
    (found : throughClose? text = some lexeme) :
    lexeme <+: text := by
  induction text using throughClose?.induct generalizing lexeme with
  | case1 => cases found
  | case2 rest =>
      cases found
      simp
  | case3 character rest notClosed inductionHypothesis =>
      rw [throughClose?] at found
      · obtain ⟨comment, taken, rfl⟩ := Option.map_eq_some_iff.1 found
        exact (List.prefix_cons_inj character).2 (inductionHypothesis taken)
      · exact notClosed

/-- A lexeme is the front of the text from which it is taken. -/
theorem lexeme?_isPrefix
    {pattern : Pattern}
    {text lexeme : List Char}
    (found : pattern.lexeme? text = some lexeme) :
    lexeme <+: text := by
  unfold lexeme? at found
  split at found
  · split at found <;> cases found
    exact (List.prefix_cons_inj _).2 (List.takeWhile_prefix _)
  · exact float?_isPrefix found
  · exact digits?_isPrefix found
  · split at found <;> cases found
    exact (List.prefix_cons_inj _).2 (List.takeWhile_prefix _)
  · dsimp only at found
    split at found <;> cases found
    next closed =>
      refine (List.prefix_cons_inj '"').2
        (append_isPrefix (List.takeWhile_prefix _) ?_)
      simp [closed]
  · cases found
    exact (List.prefix_cons_inj '"').2 (List.takeWhile_prefix _)
  · cases found
    exact (List.prefix_cons_inj '/').2
      ((List.prefix_cons_inj '/').2 (List.takeWhile_prefix _))
  · obtain ⟨comment, taken, rfl⟩ := Option.map_eq_some_iff.1 found
    exact (List.prefix_cons_inj '/').2
      ((List.prefix_cons_inj '*').2 (throughClose?_isPrefix taken))
  · cases found
    exact List.prefix_refl _
  · dsimp only at found
    split at found
    · next front =>
        cases found
        exact List.isPrefixOf_iff_prefix.1 front
    · cases found
  · cases found

end Pattern

/-- What the scanner takes from the front of a text. -/
inductive Lexeme
  /-- The text that the first matching pattern takes. -/
  | matched (pattern : Pattern) (text : List Char)
  /-- A character that no pattern takes. -/
  | stray (character : Char)
deriving DecidableEq

namespace Lexeme

/-- The first lexeme of a text that is not empty. -/
def first? : List Char -> Option Lexeme
  | [] => none
  | character :: rest =>
      some <|
        (Pattern.table.findSome? fun pattern =>
          (pattern.lexeme? (character :: rest)).map (.matched pattern)).getD
            (.stray character)

/-- The characters of a lexeme. -/
def text : Lexeme -> List Char
  | .matched _ text => text
  | .stray character => [character]

/-- Trivia yield no token. -/
def isTrivia : Lexeme -> Bool
  | .matched pattern _ => pattern.isTrivia
  | .stray _ => false

/-- The token of a lexeme that is not trivia. -/
def token (position : Position) : Lexeme -> Token
  | .matched pattern text =>
      ⟨pattern.kind text, pattern.spelling text, position⟩
  | .stray character => ⟨.invalid, String.singleton character, position⟩

/-- The events that taking a lexeme reports: one for every invalid token. -/
def events (position : Position) : Lexeme -> List Event
  | .matched pattern text =>
      if pattern.isOpen then
        [.unterminated position (String.ofList text)]
      else
        []
  | .stray character => [.unrecognised position (String.singleton character)]

/-- A first lexeme is never empty. -/
theorem text_ne_nil
    {source : List Char}
    {lexeme : Lexeme}
    (found : first? source = some lexeme) :
    lexeme.text ≠ [] := by
  cases source with
  | nil => cases found
  | cons character rest =>
      simp only [first?, Option.some.injEq] at found
      subst found
      cases matched :
          Pattern.table.findSome? fun pattern =>
            (pattern.lexeme? (character :: rest)).map
              (Lexeme.matched pattern) with
      | none => simp [text]
      | some lexeme =>
          obtain ⟨pattern, _, mapped⟩ :=
            List.exists_of_findSome?_eq_some matched
          obtain ⟨text, taken, rfl⟩ := Option.map_eq_some_iff.1 mapped
          exact Pattern.lexeme?_ne_nil taken

/-- A first lexeme is the front of its text. -/
theorem text_isPrefix
    {source : List Char}
    {lexeme : Lexeme}
    (found : first? source = some lexeme) :
    lexeme.text <+: source := by
  cases source with
  | nil => cases found
  | cons character rest =>
      simp only [first?, Option.some.injEq] at found
      subst found
      cases matched :
          Pattern.table.findSome? fun pattern =>
            (pattern.lexeme? (character :: rest)).map
              (Lexeme.matched pattern) with
      | none => simp [text]
      | some lexeme =>
          obtain ⟨pattern, _, mapped⟩ :=
            List.exists_of_findSome?_eq_some matched
          obtain ⟨text, taken, rfl⟩ := Option.map_eq_some_iff.1 mapped
          exact Pattern.lexeme?_isPrefix taken

end Lexeme
end Token
end MatrixLang
