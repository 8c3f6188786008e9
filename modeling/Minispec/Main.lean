import Minispec.Command

/-! The command line tool: reads files and standard input, prints what a run gives. -/

namespace Minispec.Main

def usage : String :=
  "Convert minitest/mocha S-expression trees into RSpec trees\n\n"
    ++ "Usage: minispec [OPTIONS] [FILE]\n\n"
    ++ "Arguments:\n"
    ++ "  [FILE]  Tree to convert; read from stdin when omitted\n\n"
    ++ "Options:\n"
    ++ "      --json           Input and output are JSON instead of S-expression notation\n"
    ++ "      --rails          Follow rspec-rails conventions (type: metadata)\n"
    ++ "      --mocha          Convert mocha stubs and expectations to rspec-mocks\n"
    ++ "      --strict-names   Reject class names written in module shorthand\n"
    ++ "      --config <PATH>  JSON file with conversion options\n"
    ++ "      --stats          Print per-rule statistics to stderr\n"
    ++ "  -h, --help           Print help\n"
    ++ "  -V, --version        Print version"

def refusalText : Command.Refusal → String
  | .unknownArgument => "error: unexpected argument"
  | .conflict => "error: an argument cannot be used multiple times"
  | .invalidValue => "error: a value is required"
  | .tooManyValues => "error: unexpected value"
  | .help => usage
  | .version => "minispec 0.1.0"

/-- The number of a system error, which is reported with either sign. -/
def systemCode (code : UInt32) : Nat :=
  min code.toNat (-code).toNat

def readFault (e : IO.Error) : Command.ReadFault :=
  match e with
  | .noFileOrDirectory _ _ _ => .missing
  | .inappropriateType _ code _ | .invalidArgument _ code _ =>
    match systemCode code with
    | 20 => .notDirectory
    | 21 => .isDirectory
    | 36 => .nameTooLong
    | _ => .other (toString e)
  | _ => .other (toString e)

def readFile (path : String) : IO (Except Command.ReadFault ByteArray) := do
  if path.contains '\x00' then return .error .nulInPath
  try
    return .ok (← IO.FS.readBinFile path)
  catch e =>
    return .error (readFault e)

partial def readAll (stream : IO.FS.Stream) (bytes : ByteArray) : IO ByteArray := do
  let chunk ← stream.read 65536
  if chunk.isEmpty then return bytes else readAll stream (bytes ++ chunk)

def runWith (a : Command.Arguments) : IO UInt32 := do
  let paths := a.config.toList ++ a.file.toList
  let contents ← paths.mapM fun path => return (path, ← readFile path)
  let files : Command.Files := fun path =>
    (contents.lookup path).getD (.error .missing)
  let stdin ← if a.file.isNone then readAll (← IO.getStdin) .empty else pure .empty
  match Command.run a files stdin with
  | .ok output =>
    output.stats.forM IO.eprintln
    IO.println output.text
    return 0
  | .error failure =>
    IO.eprintln ("Error: " ++ failure.message)
    return 1

end Minispec.Main

def main (args : List String) : IO UInt32 := do
  match Minispec.Command.Arguments.parse args with
  | .ok arguments => Minispec.Main.runWith arguments
  | .error refusal =>
    let text := Minispec.Main.refusalText refusal
    if refusal = .help ∨ refusal = .version then
      IO.println text
      return 0
    else
      IO.eprintln text
      return 2
