/-!
The arguments of the command line.

A value is looked at when the next known option, the file or the end of the arguments is
reached, not before: an option that is not known is reported first.
-/

namespace Minispec.Command

structure Arguments where
  /-- The tree to convert; standard input without one. -/
  file : Option String := none
  json : Bool := false
  rails : Bool := false
  mocha : Bool := false
  strictNames : Bool := false
  config : Option String := none
  stats : Bool := false
deriving DecidableEq

/-- Why no conversion is run. -/
inductive Refusal
  | unknownArgument
  /-- An option is given twice. -/
  | conflict
  /-- A value is missing or empty. -/
  | invalidValue
  /-- A value is given to an option that takes none. -/
  | tooManyValues
  | help
  | version
deriving DecidableEq

inductive Switch
  | flag (isSet : Arguments → Bool) (set : Arguments → Arguments)
  | config
  | help
  | version

/-- The options by their long names. -/
def switch? : String → Option Switch
  | "json" => some (.flag (·.json) ({ · with json := true }))
  | "rails" => some (.flag (·.rails) ({ · with rails := true }))
  | "mocha" => some (.flag (·.mocha) ({ · with mocha := true }))
  | "strict-names" => some (.flag (·.strictNames) ({ · with strictNames := true }))
  | "stats" => some (.flag (·.stats) ({ · with stats := true }))
  | "config" => some .config
  | "help" => some .help
  | "version" => some .version
  | _ => none

/-- A value that has not been looked at yet. -/
inductive Pending
  | nothing
  | config (value : Option String)
  | file (value : String)

structure State where
  arguments : Arguments := {}
  pending : Pending := .nothing
  /-- Whether a file has been given. -/
  fileGiven : Bool := false
  /-- Whether everything that follows is a file. -/
  optionsEnded : Bool := false

namespace State

def setConfig (s : State) (value : String) : Except Refusal State :=
  if s.arguments.config.isSome then .error .conflict
  else if value.isEmpty then .error .invalidValue
  else .ok { s with arguments := { s.arguments with config := some value }, pending := .nothing }

/-- Takes the pending value into the arguments. -/
def resolve (s : State) : Except Refusal State :=
  match s.pending with
  | .nothing => .ok s
  | .config none => .error .invalidValue
  | .config (some value) => s.setConfig value
  | .file value =>
    if value.isEmpty then .error .invalidValue
    else .ok { s with arguments := { s.arguments with file := some value }, pending := .nothing }

/-- A file; there is at most one. -/
def positional (s : State) (value : String) : Except Refusal State := do
  if s.fileGiven then .error .unknownArgument
  let s ← s.resolve
  return { s with pending := .file value, fileGiven := true }

/-- An option by its long name, with the value attached to it by `=`, if any. -/
def long (s : State) (name : String) (attached : Option String) : Except Refusal State :=
  match switch? name, attached with
  | none, _ => .error .unknownArgument
  | some .config, none => do return { ← s.resolve with pending := .config none }
  | some .config, some value => do (← s.resolve).setConfig value
  | some _, some _ => .error .tooManyValues
  | some (.flag isSet set), none => do
    let s ← s.resolve
    if isSet s.arguments then .error .conflict
    return { s with arguments := set s.arguments }
  | some .help, none => do
    let _ ← s.resolve
    .error .help
  | some .version, none => do
    let _ ← s.resolve
    .error .version

/-- Options by one letter, of which there are only two. -/
def short (s : State) (letters : List Char) : Except Refusal State :=
  match letters with
  | 'h' :: _ => s.long "help" none
  | 'V' :: _ => s.long "version" none
  | _ => .error .unknownArgument

/-- A name and the value after the first `=`. -/
def splitAttached (cs : List Char) : String × Option String :=
  (String.ofList (cs.takeWhile (· != '=')),
    match cs.dropWhile (· != '=') with
    | [] => none
    | _ :: value => some (String.ofList value))

def step (s : State) (argument : String) : Except Refusal State :=
  if s.optionsEnded then s.positional argument
  else match argument.toList with
    | ['-', '-'] => .ok { s with optionsEnded := true }
    | '-' :: '-' :: cs =>
      let (name, attached) := splitAttached cs
      s.long name attached
    | '-' :: c :: cs => s.short (c :: cs)
    | _ =>
      match s.pending with
      | .config none => .ok { s with pending := .config (some argument) }
      | _ => s.positional argument

end State

/-- The arguments that a command line gives. -/
def Arguments.parse (arguments : List String) : Except Refusal Arguments := do
  let s ← arguments.foldlM State.step {}
  return (← s.resolve).arguments

end Minispec.Command
