import MatrixLang.Diagnostic
import MatrixLang.Scanner

/-!
# Cursors

Parsing reads a stream of tokens through a cursor, which holds exactly one
token of lookahead.  A stream that has run out is continued by end-of-file
tokens, and a token that the scanner could not read is dropped with a failure.

`Cursor.left` measures what a cursor still has in front of it:
`Cursor.left_advance_lt` says that it shrinks whenever a cursor moves over a
token that is not the end of the file.
-/

namespace MatrixLang

/-- Tokens in order, either listed or still to be scanned. -/
inductive TokenStream
  | listed (tokens : List Token)
  | scanned (scanner : Scanner)

/--
One token of a stream, the events on the way to it, and the stream behind it.
-/
structure Pull where
  /-- The token. -/
  token : Token
  /-- The events that the token reports. -/
  events : List Event
  /-- The stream behind the token. -/
  rest : TokenStream

namespace TokenStream

/-- The stream of a text. -/
def ofText (text : String) : TokenStream :=
  .scanned (.ofText text)

/-- The next token of a stream. -/
def next? : TokenStream -> Option Pull
  | .listed [] => none
  | .listed (token :: rest) => some ⟨token, [], .listed rest⟩
  | .scanned scanner =>
      scanner.next?.map fun scan =>
        ⟨scan.token, scan.events, .scanned scan.rest⟩

/-- An upper bound on the number of tokens in a stream. -/
def size : TokenStream -> Nat
  | .listed tokens => tokens.length
  | .scanned scanner => scanner.size

/-- Every token makes the stream smaller. -/
theorem size_lt_of_next?
    {stream : TokenStream}
    {pull : Pull}
    (found : stream.next? = some pull) :
    pull.rest.size < stream.size := by
  cases stream with
  | listed tokens =>
      cases tokens with
      | nil => cases found
      | cons token rest =>
          cases found
          simp [size]
  | scanned scanner =>
      obtain ⟨scan, scanFound, rfl⟩ := Option.map_eq_some_iff.1 found
      exact Scanner.size_lt_of_next? scanFound

end TokenStream

/-- A stream with one token of lookahead, and the events noted so far. -/
structure Cursor where
  /-- The tokens behind the lookahead token. -/
  source : TokenStream
  /-- The lookahead token. -/
  current : Token
  /-- The events so far, the oldest first. -/
  log : List Event

/-- What parsing yields, and the cursor it leaves, also after a failure. -/
structure Reply (α : Type) where
  /-- The value, or why there is none. -/
  result : Except Diagnostic α
  /-- The cursor afterwards. -/
  cursor : Cursor

namespace Cursor

/-- A cursor before the first token of a stream. -/
def before (source : TokenStream) : Cursor :=
  ⟨source, .endOfFile .start, []⟩

/-- A cursor with one more event. -/
def record (cursor : Cursor) (event : Event) : Cursor :=
  { cursor with log := cursor.log ++ [event] }

/-- Moves over the lookahead token. -/
def advance (cursor : Cursor) : Reply Unit :=
  match cursor.source.next? with
  | none =>
      ⟨.ok (), { cursor with current := .endOfFile cursor.current.position }⟩
  | some pull =>
      let log := cursor.log ++ pull.events
      if pull.token.kind = .invalid then
        ⟨.error (.ofCause (.lexical pull.token)),
          { cursor with source := pull.rest, log := log }⟩
      else
        ⟨.ok (), ⟨pull.rest, pull.token, log⟩⟩

/-- The lookahead token is the end of the file. -/
def AtEnd (cursor : Cursor) : Prop :=
  cursor.current.kind = .endOfFile

instance (cursor : Cursor) : Decidable cursor.AtEnd :=
  inferInstanceAs (Decidable (_ = _))

/-- How much a cursor has in front of it. -/
def left (cursor : Cursor) : Nat :=
  2 * cursor.source.size + if cursor.AtEnd then 0 else 1

@[simp]
theorem left_record
    (cursor : Cursor)
    (event : Event) :
    (cursor.record event).left = cursor.left :=
  rfl

@[simp]
theorem current_record
    (cursor : Cursor)
    (event : Event) :
    (cursor.record event).current = cursor.current :=
  rfl

/-- Moving on never makes the rest longer. -/
theorem left_advance_le
    (cursor : Cursor) :
    cursor.advance.cursor.left ≤ cursor.left := by
  unfold advance
  split
  · simp [left, AtEnd, Token.endOfFile]
  · next pull found =>
      have smaller := TokenStream.size_lt_of_next? found
      dsimp only
      split <;> simp only [left] <;> split <;> omega

/--
Moving over a token that is not the end of the file makes the rest shorter.
-/
theorem left_advance_lt
    {cursor : Cursor}
    (inside : ¬ cursor.AtEnd) :
    cursor.advance.cursor.left < cursor.left := by
  unfold advance
  split
  · simp only [left, if_neg inside]
    simp [AtEnd, Token.endOfFile]
  · next pull found =>
      have smaller := TokenStream.size_lt_of_next? found
      dsimp only
      split <;> simp only [left] <;> split <;> omega

end Cursor
end MatrixLang
