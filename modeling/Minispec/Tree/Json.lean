import Minispec.Tree
import Minispec.Decimal.Shortest
import Minispec.Json.Number
import Minispec.Json.Reader
import Minispec.Json.Record

/-!
The JSON form of trees: a node is an object with one member, whose key names the constructor; a
constructor without content is just its name.

Reading is bounded. The arrays and objects that make up a tree may be nested at most
`maxJsonDepth` deep; members that are not looked at do not count.
-/

namespace Minispec

namespace Literal

/-- JSON has no infinite numbers; they are written as `null`. -/
def floatToJson (x : Binary64) : Json :=
  if x.isFinite then .num (Decimal.Layout.json.numeral x) else .null

def toJson : Literal → Json
  | .symbol name => .record [("Symbol", .text name)]
  | .integer value => .record [("Integer", .int value.toInt)]
  | .float value => .record [("Float", floatToJson value)]

def ofJson? : Json → Option Literal
  | .obj [(some "Symbol", v)] => v.text?.map .symbol
  | .obj [(some "Integer", v)] => v.int64?.map .integer
  | .obj [(some "Float", v)] => v.float?.map .float
  | _ => none

end Literal

namespace Tree

mutual

def toJson : Tree → Json
  | .empty => .text "Empty"
  | .sym name => .record [("Sym", .text name)]
  | .int value => .record [("Int", .int value.toInt)]
  | .text value => .record [("Text", .text value)]
  | .nil => .text "Nil"
  | .selfRef => .text "SelfRef"
  | .lit value => .record [("Lit", value.toJson)]
  | .str value => .record [("Str", .text value)]
  | .const name => .record [("Const", .text name)]
  | .colon2 scope name =>
    .record [("Colon2", .record [("scope", scope.toJson), ("name", .text name)])]
  | .colon3 name => .record [("Colon3", .text name)]
  | .call receiver method args =>
    .record [("Call", .record [("receiver", optionToJson receiver), ("method", .text method),
      ("args", .arr (listToJson args))])]
  | .iter head params body =>
    .record [("Iter", .record [("call", head.toJson), ("params", params.toJson),
      ("body", optionToJson body)])]
  | .classDecl name parent body =>
    .record [("Class", .record [("name", name.toJson), ("parent", optionToJson parent),
      ("body", .arr (listToJson body))])]
  | .block statements => .record [("Block", .arr (listToJson statements))]
  | .hash entries => .record [("Hash", .arr (listToJson entries))]
  | .array elements => .record [("Array", .arr (listToJson elements))]
  | .node tag children =>
    .record [("Node", .record [("kind", .text tag), ("children", .arr (listToJson children))])]

def optionToJson : Option Tree → Json
  | none => .null
  | some t => t.toJson

def listToJson : List Tree → List Json
  | [] => []
  | t :: ts => t.toJson :: listToJson ts

end

/-- The constructors without content, by name. -/
def unit? : String → Option Tree
  | "Empty" => some .empty
  | "Nil" => some .nil
  | "SelfRef" => some .selfRef
  | _ => none

/-- An absent or null value is no tree. -/
def optionOfJson? (read : Json → Option Tree) : Option Json → Option (Option Tree)
  | none | some .null => some none
  | some v => (read v).map some

/-- The tree that a JSON value denotes, if its arrays and objects are nested at most `room`
deep. -/
def ofJson? (room : Nat) (v : Json) : Option Tree :=
  match v, room with
  | .str (some name), _ => unit? name
  | .obj [(some name, content)], room + 1 =>
    match name with
    | "Sym" => content.text?.map .sym
    | "Int" => content.int64?.map .int
    | "Text" => content.text?.map .text
    | "Str" => content.text?.map .str
    | "Const" => content.text?.map .const
    | "Colon3" => content.text?.map .colon3
    | "Lit" =>
      match room with
      | 0 => none
      | _ + 1 => (Literal.ofJson? content).map .lit
    | "Block" => (listOfJson? room content).map .block
    | "Hash" => (listOfJson? room content).map .hash
    | "Array" => (listOfJson? room content).map .array
    | "Colon2" =>
      match room, content.fields? ["scope", "name"] with
      | room + 1, some [some scope, some name] => do
        return .colon2 (← ofJson? room scope) (← name.text?)
      | _, _ => none
    | "Call" =>
      match room, content.fields? ["receiver", "method", "args"] with
      | room + 1, some [receiver, some method, some args] => do
        return .call (← optionOfJson? (ofJson? room) receiver) (← method.text?)
          (← listOfJson? room args)
      | _, _ => none
    | "Iter" =>
      match room, content.fields? ["call", "params", "body"] with
      | room + 1, some [some head, some params, body] => do
        return .iter (← ofJson? room head) (← ofJson? room params)
          (← optionOfJson? (ofJson? room) body)
      | _, _ => none
    | "Class" =>
      match room, content.fields? ["name", "parent", "body"] with
      | room + 1, some [some name, parent, some body] => do
        return .classDecl (← ofJson? room name) (← optionOfJson? (ofJson? room) parent)
          (← listOfJson? room body)
      | _, _ => none
    | "Node" =>
      match room, content.fields? ["kind", "children"] with
      | room + 1, some [some tag, some children] => do
        return .node (← tag.text?) (← listOfJson? room children)
      | _, _ => none
    | name =>
      match content with
      | .null => unit? name
      | _ => none
  | _, _ => none
where
  /-- An array of trees. -/
  listOfJson? (room : Nat) (v : Json) : Option (List Tree) :=
    match v, room with
    | .arr items, room + 1 => items.mapM (ofJson? room)
    | _, _ => none

end Tree

/-- The deepest nesting of arrays and objects in the JSON form of a tree that is read. -/
def maxJsonDepth : Nat := 127

/-- Reads a tree from JSON text. -/
def Tree.readJson? (source : String) : Option Tree := do
  ofJson? maxJsonDepth (← Json.read? source)

end Minispec
