import MatrixLang.Position

/-!
# Events

What scanning and parsing report on the way: text that became an invalid token,
each finished declaration and the finished module.
-/

namespace MatrixLang

/-- How important an event is. -/
inductive Severity
  | trace
  | debug
deriving DecidableEq

/-- The name of a severity in a report. -/
def Severity.name : Severity -> String
  | .trace => "TRACE"
  | .debug => "DEBUG"

/-- Something that scanning or parsing reports. -/
inductive Event
  /-- A character that starts no token. -/
  | unrecognised (position : Position) (spelling : String)
  /-- A string or a block comment without its end. -/
  | unterminated (position : Position) (spelling : String)
  /-- A function has been parsed. -/
  | parsedFunction (name : String) (position : Position)
  /-- A record type has been parsed. -/
  | parsedRecord (name : String) (position : Position)
  /-- A module with the given numbers of declarations has been parsed. -/
  | parsedModule (functions records : Nat)
deriving DecidableEq

namespace Event

/-- Finished declarations are traces; everything else is worth debugging. -/
def severity : Event -> Severity
  | .parsedFunction .. | .parsedRecord .. => .trace
  | .unrecognised .. | .unterminated .. | .parsedModule .. => .debug

/-- The message of an event. -/
def message : Event -> String
  | .unrecognised .. => "unrecognised input"
  | .unterminated .. => "unterminated input"
  | .parsedFunction .. => "parsed function"
  | .parsedRecord .. => "parsed record"
  | .parsedModule .. => "parsed module"

/-- The named details of an event, in the order of a report. -/
def fields : Event -> List (String × String)
  | .unrecognised position spelling | .unterminated position spelling =>
      [("position", position.text), ("spelling", spelling)]
  | .parsedFunction name position | .parsedRecord name position =>
      [("name", name), ("position", position.text)]
  | .parsedModule functions records =>
      [("functions", functions.repr), ("records", records.repr)]

end Event
end MatrixLang
