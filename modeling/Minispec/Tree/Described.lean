import Minispec.Tree
import Minispec.Decimal.Shortest
import Minispec.Text.Quoted

/-!
Trees as they are spelled out in messages about malformed input: every constructor and field by
name, with texts quoted.
-/

namespace Minispec

namespace Described

def int (n : Int64) : String :=
  String.ofList (Decimal.Numeral.ofInt n.toInt).render

def text (s : String) : String :=
  Text.quoted s.toList

def float (x : Binary64) : String :=
  String.ofList (Decimal.Layout.general.text x)

/-- A value with the name of its constructor. -/
def wrapped (name value : String) : String :=
  name ++ "(" ++ value ++ ")"

/-- Fields between braces, after the name of the constructor. -/
def record (name : String) (fields : List (String × String)) : String :=
  name ++ " \x7b " ++ String.intercalate ", " (fields.map fun (f, v) => f ++ ": " ++ v) ++ " \x7d"

def list (items : List String) : String :=
  "[" ++ String.intercalate ", " items ++ "]"

end Described

def Literal.described : Literal → String
  | .symbol name => Described.wrapped "Symbol" (Described.text name)
  | .integer value => Described.wrapped "Integer" (Described.int value)
  | .float value => Described.wrapped "Float" (Described.float value)

namespace Tree

mutual

def described : Tree → String
  | .empty => "Empty"
  | .sym name => Described.wrapped "Sym" (Described.text name)
  | .int value => Described.wrapped "Int" (Described.int value)
  | .text value => Described.wrapped "Text" (Described.text value)
  | .nil => "Nil"
  | .selfRef => "SelfRef"
  | .lit value => Described.wrapped "Lit" value.described
  | .str value => Described.wrapped "Str" (Described.text value)
  | .const name => Described.wrapped "Const" (Described.text name)
  | .colon2 scope name =>
    Described.record "Colon2" [("scope", scope.described), ("name", Described.text name)]
  | .colon3 name => Described.wrapped "Colon3" (Described.text name)
  | .call receiver method args =>
    Described.wrapped "Call" (Described.record "Call"
      [("receiver", optionDescribed receiver), ("method", Described.text method),
        ("args", Described.list (listDescribed args))])
  | .iter head params body =>
    Described.wrapped "Iter" (Described.record "Iter"
      [("call", head.described), ("params", params.described), ("body", optionDescribed body)])
  | .classDecl name parent body =>
    Described.wrapped "Class" (Described.record "Class"
      [("name", name.described), ("parent", optionDescribed parent),
        ("body", Described.list (listDescribed body))])
  | .block statements => Described.wrapped "Block" (Described.list (listDescribed statements))
  | .hash entries => Described.wrapped "Hash" (Described.list (listDescribed entries))
  | .array elements => Described.wrapped "Array" (Described.list (listDescribed elements))
  | .node tag children =>
    Described.wrapped "Node" (Described.record "Node"
      [("kind", Described.text tag), ("children", Described.list (listDescribed children))])

def optionDescribed : Option Tree → String
  | none => "None"
  | some t => Described.wrapped "Some" t.described

def listDescribed : List Tree → List String
  | [] => []
  | t :: ts => t.described :: listDescribed ts

end

end Tree
end Minispec
