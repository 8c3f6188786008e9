import Minispec.Binary64

/-!
Syntax trees of Ruby code, shared by the minitest input and the RSpec output.

A node is a tag with an ordered list of children. Tags that the conversion looks at have
constructors of their own; every other tag is kept as a `node` and only passed through. The
first four constructors are atoms, which stand in child positions only.
-/

namespace Minispec

/-- What a `lit` node holds. -/
inductive Literal
  | symbol (name : String)
  | integer (value : Int64)
  | float (value : Binary64)
deriving DecidableEq

inductive Tree
  /-- The atom `nil`. -/
  | empty
  | sym (name : String)
  | int (value : Int64)
  | text (value : String)
  | nil
  | selfRef
  | lit (value : Literal)
  | str (value : String)
  | const (name : String)
  /-- Written `scope::name` in code. -/
  | colon2 (scope : Tree) (name : String)
  /-- Written `::name` in code. -/
  | colon3 (name : String)
  /-- Without a receiver the call goes to the object itself. -/
  | call (receiver : Option Tree) (method : String) (args : List Tree)
  /-- A call with a block; `params` is the integer 0 for a block without parameters. -/
  | iter (head params : Tree) (body : Option Tree)
  | classDecl (name : Tree) (parent : Option Tree) (body : List Tree)
  | block (statements : List Tree)
  | hash (entries : List Tree)
  | array (elements : List Tree)
  | node (tag : String) (children : List Tree)
deriving Inhabited

namespace Literal

/-- Equality of values, in which the two floating point zeros are equal. -/
def sameValue : Literal → Literal → Bool
  | .float x, .float y => x.sameValue y
  | .float _, _ | _, .float _ => false
  | a, b => a == b

end Literal

namespace Tree

/-- The tag of a node, or a description of an atom. -/
def kind : Tree → String
  | .empty => "nil atom"
  | .sym _ => "symbol atom"
  | .int _ => "integer atom"
  | .text _ => "string atom"
  | .nil => "nil"
  | .selfRef => "self"
  | .lit _ => "lit"
  | .str _ => "str"
  | .const _ => "const"
  | .colon2 _ _ => "colon2"
  | .colon3 _ => "colon3"
  | .call _ _ _ => "call"
  | .iter _ _ _ => "iter"
  | .classDecl _ _ _ => "class"
  | .block _ => "block"
  | .hash _ => "hash"
  | .array _ => "array"
  | .node tag _ => tag

/-- The name that a constant or a bare symbol carries. -/
def constName? : Tree → Option String
  | .const name | .sym name => some name
  | _ => none

/-- A symbol literal. -/
def symbol (name : String) : Tree :=
  .lit (.symbol name)

/-- A call with a block that takes no parameters. -/
def blockCall (call : Tree) (body : Option Tree) : Tree :=
  .iter call (.int 0) body

mutual

/-- How deep nodes are nested: 0 for an atom, one more than the deepest child for a node. -/
def nesting : Tree → Nat
  | .empty | .sym _ | .int _ | .text _ => 0
  | .nil | .selfRef | .lit _ | .str _ | .const _ | .colon3 _ => 1
  | .colon2 scope _ => 1 + scope.nesting
  | .call receiver _ args => 1 + max (optionNesting receiver) (listNesting args)
  | .iter head params body => 1 + max (max head.nesting params.nesting) (optionNesting body)
  | .classDecl name parent body =>
    1 + max (max name.nesting (optionNesting parent)) (listNesting body)
  | .block children | .hash children | .array children | .node _ children =>
    1 + listNesting children

def optionNesting : Option Tree → Nat
  | none => 0
  | some t => t.nesting

def listNesting : List Tree → Nat
  | [] => 0
  | t :: ts => max t.nesting (listNesting ts)

end

mutual

/-- Equality of trees up to the sign of floating point zeros. -/
def sameValue : Tree → Tree → Bool
  | .empty, .empty | .nil, .nil | .selfRef, .selfRef => true
  | .sym a, .sym b | .text a, .text b | .str a, .str b => a == b
  | .const a, .const b | .colon3 a, .colon3 b => a == b
  | .int a, .int b => a == b
  | .lit a, .lit b => a.sameValue b
  | .colon2 s a, .colon2 t b => a == b && s.sameValue t
  | .call r m as, .call r' m' as' => m == m' && optionSameValue r r' && listSameValue as as'
  | .iter c p b, .iter c' p' b' => c.sameValue c' && p.sameValue p' && optionSameValue b b'
  | .classDecl n p b, .classDecl n' p' b' =>
    n.sameValue n' && optionSameValue p p' && listSameValue b b'
  | .block as, .block bs | .hash as, .hash bs | .array as, .array bs => listSameValue as bs
  | .node k as, .node k' bs => k == k' && listSameValue as bs
  | _, _ => false

def optionSameValue : Option Tree → Option Tree → Bool
  | none, none => true
  | some a, some b => a.sameValue b
  | _, _ => false

def listSameValue : List Tree → List Tree → Bool
  | [], [] => true
  | a :: as, b :: bs => a.sameValue b && listSameValue as bs
  | _, _ => false

end

/-- Applies an operation to the children from left to right and puts the node together again.
The name and the parent of a class stay as they are: they say what the class is. -/
def mapChildren {m : Type → Type} [Monad m] (f : Tree → m Tree) : Tree → m Tree
  | .colon2 scope name => return .colon2 (← f scope) name
  | .call receiver method args => do
    let receiver ← receiver.mapM f
    return .call receiver method (← args.mapM f)
  | .iter head params body => do
    let head ← f head
    let params ← f params
    return .iter head params (← body.mapM f)
  | .classDecl name parent body => return .classDecl name parent (← body.mapM f)
  | .block statements => return .block (← statements.mapM f)
  | .hash entries => return .hash (← entries.mapM f)
  | .array elements => return .array (← elements.mapM f)
  | .node tag children => return .node tag (← children.mapM f)
  | leaf => pure leaf

end Tree
end Minispec
