import MatrixLang.CommandLine

/-!
# The tool

Reads the file that the arguments name and prints the outcome.
-/

namespace MatrixLang
namespace CommandLine

/-- The reason behind a failure of the system to read a file. -/
def ReadError.ofSystem : IO.Error -> ReadError
  | .noFileOrDirectory .. => .missing
  | .inappropriateType _ code _ =>
      if code = 21 then .directory else .notDirectory
  | .permissionDenied .. => .other "Permission denied (os error 13)"
  | error => .other (toString error)

/-- The bytes of a file, or why there are none. -/
def readBytes (file : String) : IO (Except ReadError ByteArray) := do
  try
    return .ok (← IO.FS.readBinFile file)
  catch error =>
    return .error (ReadError.ofSystem error)

/-- Reads the file of a request, if it has one. -/
def load (request : Request) : IO (Except ReadError ByteArray) :=
  match request with
  | .process file _ => readBytes file
  | .version | .help | .misuse => return .error .missing

end CommandLine
end MatrixLang

/-- Answers one call of the tool. -/
def main (arguments : List String) : IO UInt32 := do
  let request := MatrixLang.CommandLine.Request.ofArguments arguments
  let contents ← MatrixLang.CommandLine.load request
  let outcome := request.outcome fun _ => contents
  IO.print outcome.output
  IO.eprint outcome.complaint
  return outcome.status.toUInt32
