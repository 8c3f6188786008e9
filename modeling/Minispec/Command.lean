import Minispec.Command.Arguments
import Minispec.Command.Directory
import Minispec.Converter

/-!
A run of the command line tool: the options are put together first, then the input is read and
converted.
-/

namespace Minispec.Command

/-- Why a run fails. -/
inductive Failure
  | configUnreadable (path : String) (cause : ReadFault)
  | configInvalid (path : String) (cause : Error)
  | inputUnreadable (source : String) (cause : ReadFault)
  | conversion (source : String) (cause : Error)

def Failure.message : Failure → String
  | .configUnreadable path cause => "Failed to load config " ++ path ++ ": " ++ cause.message
  | .configInvalid path cause =>
    "Failed to load config " ++ path ++ ": " ++ path ++ ": " ++ cause.message
  | .inputUnreadable source cause => "Failed to read " ++ source ++ ": " ++ cause.message
  | .conversion source cause => "Failed to convert " ++ source ++ ": " ++ cause.message

structure Output where
  text : String
  /-- One line a rule, if statistics are asked for. -/
  stats : List String

def decodeText (bytes : ByteArray) : Except ReadFault String :=
  match String.fromUTF8? bytes with
  | some text => .ok text
  | none => .error .notUtf8

namespace Arguments

/-- The options of the config file, to which flags add. -/
def options (a : Arguments) (files : Files) : Except Failure Options := do
  let base ←
    match a.config with
    | none => pure {}
    | some path =>
      let text ← (files path >>= decodeText).mapError (.configUnreadable path)
      (Options.readJson text).mapError (.configInvalid path)
  return { base with
    rails := base.rails || a.rails
    mocha := base.mocha || a.mocha
    strictNames := base.strictNames || a.strictNames }

def input (a : Arguments) (files : Files) (stdin : ByteArray) : Except Failure String :=
  match a.file with
  | some path => (files path >>= decodeText).mapError (.inputUnreadable path)
  | none => (decodeText stdin).mapError (.inputUnreadable "stdin")

/-- What the input is called in messages about its conversion. -/
def sourceName (a : Arguments) : String :=
  a.file.getD "<stdin>"

end Arguments

def statsLine (s : RuleStats) : String :=
  s.ruleName ++ ": " ++ toString s.applications ++ " applied, "
    ++ toString s.transformations ++ " converted, " ++ toString s.errors ++ " failed"

/-- The statistics of all rules, sorted by name. -/
def statsLines (l : Ledger) : List String :=
  (l.stats.mergeSort fun s t => s.ruleName ≤ t.ruleName).map statsLine

/-- Runs the conversion. Notation may be surrounded by white space. -/
def run (a : Arguments) (files : Files) (stdin : ByteArray) : Except Failure Output := do
  let converter := Converter.new (← a.options files)
  let input ← a.input files stdin
  let (result, converter) :=
    if a.json then converter.convertJson input
    else converter.convert (String.ofList (Text.trim input.toList))
  let text ← result.mapError (.conversion a.sourceName)
  return { text, stats := if a.stats then statsLines converter.ledger else [] }

end Minispec.Command
