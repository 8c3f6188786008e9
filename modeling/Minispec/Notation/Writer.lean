import Minispec.Notation.Lexeme
import Minispec.Tree.Described

/-!
The notation of a tree: `s(:tag, child, ..)` for nodes, with one space after each comma and no
other blanks. An absent receiver or parent is written as `nil`, an absent block body not at all.
-/

namespace Minispec

namespace Notation

def writeInt (n : Int64) : List Char :=
  (Decimal.Numeral.ofInt n.toInt).render

def writeLiteral : Literal → List Char
  | .symbol name => writeSymbol name
  | .integer value => writeInt value
  | .float value => Decimal.Layout.general.text value

/-- A node of the given tag around children that are already written. -/
def writeNode (tag : String) (children : List (List Char)) : List Char :=
  's' :: '(' :: (writeSymbol tag
    ++ children.foldr (fun child rest => ',' :: ' ' :: (child ++ rest)) [')'])

mutual

def write : Tree → List Char
  | .empty => ['n', 'i', 'l']
  | .sym name => writeSymbol name
  | .int value => writeInt value
  | .text value => writeString value
  | .nil => writeNode "nil" []
  | .selfRef => writeNode "self" []
  | .lit value => writeNode "lit" [writeLiteral value]
  | .str value => writeNode "str" [writeString value]
  | .const name => writeNode "const" [writeSymbol name]
  | .colon2 scope name => writeNode "colon2" [write scope, writeSymbol name]
  | .colon3 name => writeNode "colon3" [writeSymbol name]
  | .call receiver method args =>
    writeNode "call" (writeOption receiver :: writeSymbol method :: writeAll args)
  | .iter head params body => writeNode "iter" (write head :: write params :: writeBody body)
  | .classDecl name parent body =>
    writeNode "class" (write name :: writeOption parent :: writeAll body)
  | .block statements => writeNode "block" (writeAll statements)
  | .hash entries => writeNode "hash" (writeAll entries)
  | .array elements => writeNode "array" (writeAll elements)
  | .node tag children => writeNode tag (writeAll children)

def writeOption : Option Tree → List Char
  | none => ['n', 'i', 'l']
  | some t => write t

def writeBody : Option Tree → List (List Char)
  | none => []
  | some t => [write t]

def writeAll : List Tree → List (List Char)
  | [] => []
  | t :: ts => write t :: writeAll ts

end

end Notation

/-- The notation of a tree. -/
def Tree.written (t : Tree) : String :=
  String.ofList (Notation.write t)

end Minispec
