/-!
# Source positions

A position is a one-based line and column.  Columns count characters, and only
a line feed ends a line, so the position reached after some text is a fold over
its characters.
-/

namespace MatrixLang

/-- A one-based line and column of a source text. -/
structure Position where
  /-- The line, counted from one. -/
  line : Nat
  /-- The column, counted in characters from one. -/
  column : Nat
deriving DecidableEq

namespace Position

/-- The position of the first character of a text. -/
def start : Position := ⟨1, 1⟩

/-- The position behind one character. -/
def after (position : Position) (character : Char) : Position :=
  if character = '\n' then
    ⟨position.line + 1, 1⟩
  else
    ⟨position.line, position.column + 1⟩

/-- The position behind a piece of text. -/
def afterAll (position : Position) (text : List Char) : Position :=
  text.foldl after position

@[simp]
theorem afterAll_nil (position : Position) : position.afterAll [] = position :=
  rfl

@[simp]
theorem afterAll_cons
    (position : Position)
    (character : Char)
    (text : List Char) :
    position.afterAll (character :: text) =
      (position.after character).afterAll text :=
  rfl

theorem afterAll_append
    (position : Position)
    (first second : List Char) :
    position.afterAll (first ++ second) =
      (position.afterAll first).afterAll second := by
  simp [afterAll]

/-- A position is written as its line, a colon and its column. -/
def text (position : Position) : String :=
  position.line.repr ++ ":" ++ position.column.repr

/-- Positions are ordered by line, then by column. -/
instance : Ord Position where
  compare left right :=
    (compare left.line right.line).then (compare left.column right.column)

end Position
end MatrixLang
