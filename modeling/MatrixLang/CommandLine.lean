import MatrixLang.Diagnostic
import MatrixLang.Parsing

/-!
# The command line

The tool parses one file and prints the text of its module, or lists its tokens.
Everything but the reading of files is a function here: from the arguments and a
way to read files to what is printed and the exit status.
-/

namespace MatrixLang
namespace CommandLine

/-- What the arguments ask for. -/
inductive Request
  /-- Parse a file, or list its tokens. -/
  | process (file : String) (listTokens : Bool)
  | version
  | help
  /-- The arguments make no sense. -/
  | misuse
deriving DecidableEq

/-- The arguments read so far. -/
structure Progress where
  /-- The file named so far. -/
  file? : Option String := none
  /-- The tokens are to be listed. -/
  listTokens : Bool := false
  /-- Every further argument names a file. -/
  filesOnly : Bool := false

namespace Request

/-- Short options decide by the first one, as none of them can be combined. -/
def ofShort : List Char -> Request
  | 'V' :: _ => .version
  | 'h' :: _ => .help
  | _ => .misuse

/-- Reads arguments from left to right; the first one that decides wins. -/
def read (progress : Progress) : List String -> Request
  | [] =>
      match progress.file? with
      | some file => .process file progress.listTokens
      | none => .misuse
  | argument :: rest =>
      let named :=
        if progress.file?.isNone ∧ argument ≠ "" then
          read { progress with file? := some argument } rest
        else
          .misuse
      if progress.filesOnly then
        named
      else
        match argument.toList with
        | ['-', '-'] => read { progress with filesOnly := true } rest
        | '-' :: '-' :: _ =>
            if argument = "--tokens" ∧ progress.listTokens = false then
              read { progress with listTokens := true } rest
            else if argument = "--version" then
              .version
            else if argument = "--help" then
              .help
            else
              .misuse
        | '-' :: option :: options => ofShort (option :: options)
        | _ => named

/-- What the arguments of a call ask for. -/
def ofArguments (arguments : List String) : Request :=
  read {} arguments

end Request

/-- Why a file could not be read as text. -/
inductive ReadError
  | missing
  | directory
  | notDirectory
  | notText
  /-- Any other reason, in the words of the system. -/
  | other (reason : String)
deriving DecidableEq

/-- The reason for which a file could not be read. -/
def ReadError.reason : ReadError -> String
  | .missing => "No such file or directory (os error 2)"
  | .notDirectory => "Not a directory (os error 20)"
  | .directory => "Is a directory (os error 21)"
  | .notText => "stream did not contain valid UTF-8"
  | .other reason => reason

/-- What a call of the tool prints, and its exit status. -/
structure Outcome where
  /-- The exit status. -/
  status : UInt8
  /-- What is printed as the result. -/
  output : String
  /-- What is printed as a complaint. -/
  complaint : String
deriving DecidableEq

namespace Outcome

/-- A call that went well. -/
def success (output : String) : Outcome :=
  ⟨0, output, ""⟩

/-- A call whose file is at fault. -/
def failure (complaint : String) : Outcome :=
  ⟨1, "", complaint⟩

/-- A call whose arguments are at fault. -/
def misuse : Outcome :=
  ⟨2, "", "Usage: mavlc [OPTIONS] <FILE>\n"⟩

/-- The complaint about a file that cannot be read. -/
def unreadable (file : String) (error : ReadError) : Outcome :=
  failure ("Error: failed to read " ++ file ++
    "\n\nCaused by:\n    " ++ error.reason ++ "\n")

end Outcome

/-- The version of the tool. -/
def versionText : String :=
  "mavlc 0.1.0\n"

/-- A summary of the arguments. -/
def helpText : String :=
  "Parses a MAVL source file and prints its syntax tree\n\n" ++
    "Usage: mavlc [OPTIONS] <FILE>\n\n" ++
    "Arguments:\n" ++
    "  <FILE>  Source file to parse\n\n" ++
    "Options:\n" ++
    "      --tokens   Print the token stream instead of parsing\n" ++
    "  -h, --help     Print help\n" ++
    "  -V, --version  Print version\n"

/-- The listing of the tokens of a text, one on each line. -/
def tokenListing (source : String) : String :=
  String.join ((tokenize source).map fun token => token.text ++ "\n")

/-- What is printed for the text of a file. -/
def processText (file source : String) (listTokens : Bool) : Outcome :=
  if listTokens then
    .success (tokenListing source)
  else
    match parseText source with
    | .ok module => .success (module.text ++ "\n")
    | .error diagnostic => .failure (diagnostic.render source file ++ "\n")

/-- The text of a file, unless its bytes are no text. -/
def decode (bytes : ByteArray) : Except ReadError String :=
  match String.fromUTF8? bytes with
  | some text => .ok text
  | none => .error .notText

/-- What a request prints, given what reading its file brought. -/
def Request.outcome
    (contents : String -> Except ReadError ByteArray) : Request -> Outcome
  | .process file listTokens =>
      match (contents file).bind decode with
      | .ok source => processText file source listTokens
      | .error error => .unreadable file error
  | .version => .success versionText
  | .help => .success helpText
  | .misuse => .misuse

/-- What a call of the tool prints, given a way to read files. -/
def respond
    (arguments : List String)
    (contents : String -> Except ReadError ByteArray) : Outcome :=
  (Request.ofArguments arguments).outcome contents

end CommandLine
end MatrixLang
