import MatrixLang.Position
import MatrixLang.Text.Character

/-!
# Texts

Texts in a row, the lines of a text and quoted text.  Line feeds divide a text
into lines, and carriage returns at the end of a line do not belong to it.  In a
quoted text, quotes, backslashes and everything that is not printable is
escaped.
-/

namespace MatrixLang
namespace Text

/-- Several texts with a comma and a space between them. -/
def commaSeparated (texts : List String) : String :=
  String.intercalate ", " texts

/-! ## Lines -/

/-- The text without the longest run of dropped characters at its end. -/
def dropTrailing (drop : Char -> Bool) (text : List Char) : List Char :=
  (text.reverse.dropWhile drop).reverse

/--
The line with a number counted from zero, if line feeds divide the text into so
many.
-/
def nthLine? : Nat -> List Char -> Option (List Char)
  | 0, text => some (text.takeWhile (· != '\n'))
  | number + 1, text =>
      match text.dropWhile (· != '\n') with
      | [] => none
      | _ :: rest => nthLine? number rest

/--
The line of a position without the carriage returns at its end, if the text has
that line.
-/
def lineAt? (text : String) (position : Position) : Option String :=
  (nthLine? (position.line - 1) text.toList).map fun line =>
    String.ofList (dropTrailing (· == '\r') line)

/-! ## Quoted text -/

/-- The lower-case hexadecimal digits of a code point between braces. -/
def codeEscape (character : Char) : List Char :=
  '\\' :: 'u' :: '\x7b' :: (Nat.toDigits 16 character.toNat ++ ['\x7d'])

/-- A character as it stands in a quoted text. -/
def escaped (character : Char) : List Char :=
  match character with
  | '\x00' => ['\\', '0']
  | '\t' => ['\\', 't']
  | '\n' => ['\\', 'n']
  | '\r' => ['\\', 'r']
  | '"' => ['\\', '"']
  | '\\' => ['\\', '\\']
  | _ => if isPrintable character then [character] else codeEscape character

/-- The quoted form of a text. -/
def quoted (text : String) : String :=
  String.ofList ('"' :: (text.toList.flatMap escaped ++ ['"']))

end Text
end MatrixLang
