import Minispec.Error

/-!
The reader of the tree notation.

Tokens drive a machine whose state holds the nodes that are still open, innermost first, with
the children that they have so far. A node is checked against the shape of its tag when it is
closed. Nesting costs no recursion, and is bounded: `room` counts the nodes that may still be
opened inside the current one.
-/

namespace Minispec.Notation

/-! ### Putting nodes together -/

def Item.toTree : Item → Except Fault Tree
  | .tree t => .ok t
  | .float x => .error (.strayFloat x)

/-- The atom `nil` stands for an absent child. -/
def Item.toOption (item : Item) : Except Fault (Option Tree) := do
  match ← item.toTree with
  | .empty => return none
  | t => return some t

def Item.toSymbol (tag : String) : Item → Except Fault String
  | .tree (.sym name) => .ok name
  | item => .error (.notSymbol tag item)

def toTrees (items : List Item) : Except Fault (List Tree) :=
  items.mapM Item.toTree

def buildLit : Item → Except Fault Tree
  | .tree (.sym name) => .ok (.lit (.symbol name))
  | .tree (.int n) => .ok (.lit (.integer n))
  | .float x => .ok (.lit (.float x))
  | item => .error (.wrongPayload "lit" item)

def buildStr : Item → Except Fault Tree
  | .tree (.text text) => .ok (.str text)
  | item => .error (.wrongPayload "str" item)

/-- The node of a tag with the given children. -/
def build (tag : String) (children : List Item) : Except Fault Tree :=
  let wrongArity (expected : Arity) : Except Fault Tree :=
    .error (.wrongArity tag expected children.length)
  match tag with
  | "nil" => match children with
    | [] => .ok .nil
    | _ => wrongArity .none
  | "self" => match children with
    | [] => .ok .selfRef
    | _ => wrongArity .none
  | "lit" => match children with
    | [child] => buildLit child
    | _ => wrongArity .one
  | "str" => match children with
    | [child] => buildStr child
    | _ => wrongArity .one
  | "const" => match children with
    | [child] => return .const (← child.toSymbol "const")
    | _ => wrongArity .one
  | "colon3" => match children with
    | [child] => return .colon3 (← child.toSymbol "colon3")
    | _ => wrongArity .one
  | "colon2" => match children with
    | [scope, name] => do
      let scope ← scope.toTree
      return .colon2 scope (← name.toSymbol "colon2")
    | _ => wrongArity .two
  | "call" => match children with
    | receiver :: method :: args => do
      let receiver ← receiver.toOption
      let method ← method.toSymbol "call"
      return .call receiver method (← toTrees args)
    | _ => wrongArity .twoOrMore
  | "iter" => match children with
    | [head, params] => do
      let head ← head.toTree
      return .iter head (← params.toTree) none
    | [head, params, body] => do
      let head ← head.toTree
      let params ← params.toTree
      return .iter head params (some (← body.toTree))
    | _ => wrongArity .twoOrThree
  | "class" => match children with
    | name :: parent :: body => do
      let name ← name.toTree
      let parent ← parent.toOption
      return .classDecl name parent (← toTrees body)
    | _ => wrongArity .twoOrMore
  | "block" => return .block (← toTrees children)
  | "hash" => return .hash (← toTrees children)
  | "array" => return .array (← toTrees children)
  | _ => return .node tag (← toTrees children)

/-! ### The machine -/

/-- A node that is still open; its latest child comes first. -/
structure Frame where
  tag : String
  children : List Item

structure State where
  frames : List Frame
  /-- Whether the next token has to start a child. -/
  expecting : Bool
  /-- How many more nodes may be opened inside the current one. -/
  room : Nat

inductive Step
  | more (state : State)
  | root (item : Item)

namespace State

/-- Nothing read yet. -/
def start (maxDepth : Nat) : State :=
  { frames := [], expecting := true, room := maxDepth }

/-- Hands a finished child to the innermost open node. -/
def place (frames : List Frame) (room : Nat) (item : Item) : Step :=
  match frames with
  | [] => .root item
  | frame :: outer =>
    .more { frames := { frame with children := item :: frame.children } :: outer,
            expecting := false, room }

/-- What one token does. -/
def step (maxDepth : Nat) (s : State) (token : Token) : Except Error Step :=
  match s.expecting, token with
  | true, .opening tag =>
    match s.room with
    | 0 => .error (.nestingTooDeep maxDepth)
    | room + 1 => .ok (.more { frames := ⟨tag, []⟩ :: s.frames, expecting := false, room })
  | true, .atom item => .ok (place s.frames s.room item)
  | false, .comma =>
    if s.frames.isEmpty then .error (.malformedNotation (.unexpected token))
    else .ok (.more { s with expecting := true })
  | false, .close =>
    match s.frames with
    | [] => .error (.malformedNotation .unbalanced)
    | frame :: outer =>
      match build frame.tag frame.children.reverse with
      | .ok t => .ok (place outer (s.room + 1) (.tree t))
      | .error fault => .error (.malformedNotation fault)
  | _, _ => .error (.malformedNotation (.unexpected token))

end State

/-- The root, provided that only white space follows it. -/
def finish (item : Item) (rest : List Char) : Except Error Tree :=
  match Text.trimStart rest with
  | [] => item.toTree.mapError .malformedNotation
  | rest => .error (.malformedNotation (.trailing rest))

/-- Runs the machine on a text. -/
def run (maxDepth : Nat) (s : State) (cs : List Char) : Except Error Tree :=
  match _h : Token.read cs with
  | .error rest => .error (.malformedNotation (.unreadable rest))
  | .ok (token, rest) =>
    match s.step maxDepth token with
    | .error e => .error e
    | .ok (.more next) => run maxDepth next rest
    | .ok (.root item) => finish item rest
termination_by cs.length
decreasing_by exact Token.length_read _h

/-- Reads a tree in which nodes are nested at most `maxDepth` deep. -/
def read (maxDepth : Nat) (source : String) : Except Error Tree :=
  run maxDepth (.start maxDepth) source.toList

end Minispec.Notation
