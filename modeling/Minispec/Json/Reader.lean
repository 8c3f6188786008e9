import Minispec.Json.Token

/-!
The reader of JSON text: a machine over the tokens, which keeps the arrays and objects that are
still open. Any nesting is read; limits are a matter for those who interpret a value.
-/

namespace Minispec.Json

/-- A container that waits for the value being read; its latest part comes first. -/
inductive Frame
  | element (items : List Json)
  | member (members : List (Option String × Json)) (key : Option String)

/-- What may come next. -/
inductive State
  | value (frames : List Frame)
  | arrayStart (frames : List Frame)
  | afterElement (items : List Json) (frames : List Frame)
  | objectStart (frames : List Frame)
  | nextKey (members : List (Option String × Json)) (frames : List Frame)
  | afterKey (key : Option String) (members : List (Option String × Json)) (frames : List Frame)
  | afterMember (members : List (Option String × Json)) (frames : List Frame)
  | done (value : Json)

namespace State

/-- Hands a finished value to the innermost container. -/
def complete (v : Json) : List Frame → State
  | [] => .done v
  | .element items :: frames => .afterElement (v :: items) frames
  | .member members key :: frames => .afterMember ((key, v) :: members) frames

def startValue (frames : List Frame) : Token → Option State
  | .null => some (complete .null frames)
  | .bool b => some (complete (.bool b) frames)
  | .num n => some (complete (.num n) frames)
  | .str s => some (complete (.str s) frames)
  | .openArr => some (.arrayStart frames)
  | .openObj => some (.objectStart frames)
  | _ => none

def step : State → Token → Option State
  | .value frames, token => startValue frames token
  | .arrayStart frames, .closeArr => some (complete (.arr []) frames)
  | .arrayStart frames, token => startValue (.element [] :: frames) token
  | .afterElement items frames, .comma => some (.value (.element items :: frames))
  | .afterElement items frames, .closeArr => some (complete (.arr items.reverse) frames)
  | .objectStart frames, .closeObj => some (complete (.obj []) frames)
  | .objectStart frames, .str key => some (.afterKey key [] frames)
  | .nextKey members frames, .str key => some (.afterKey key members frames)
  | .afterKey key members frames, .colon => some (.value (.member members key :: frames))
  | .afterMember members frames, .comma => some (.nextKey members frames)
  | .afterMember members frames, .closeObj => some (complete (.obj members.reverse) frames)
  | _, _ => none

/-- Runs the machine to the end of the tokens. -/
def run : State → List Token → Option Json
  | .done v, [] => some v
  | _, [] => none
  | s, token :: tokens => do run (← s.step token) tokens

end State

/-- The value that a whole text denotes. -/
def read? (source : String) : Option Json := do
  State.run (.value []) (← Token.readAll source.toList)

end Minispec.Json
