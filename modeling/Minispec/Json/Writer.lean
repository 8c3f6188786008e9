import Minispec.Json.Token

/-!
Two layouts of JSON text: compact, without any blanks, and pretty, with each part of a container
on a line of its own, indented by two spaces a level.
-/

namespace Minispec.Json

/-- Parts with a separator between them, and what closes them. -/
def separated (separator closing : List Char) : List (List Char) → List Char
  | [] => closing
  | part :: parts => part ++ parts.foldr (fun p rest => separator ++ (p ++ rest)) closing

def writeNull : List Char :=
  ['n', 'u', 'l', 'l']

def writeBool : Bool → List Char
  | true => ['t', 'r', 'u', 'e']
  | false => ['f', 'a', 'l', 's', 'e']

mutual

def writeCompact : Json → List Char
  | .arr items => '[' :: separated [','] [']'] (writeCompactItems items)
  | .obj members => '\x7b' :: separated [','] ['\x7d'] (writeCompactMembers members)
  | .null => writeNull
  | .bool b => writeBool b
  | .num n => n.render
  | .str s => writeString s

def writeCompactItems : List Json → List (List Char)
  | [] => []
  | v :: vs => writeCompact v :: writeCompactItems vs

def writeCompactMembers : List (Option String × Json) → List (List Char)
  | [] => []
  | (key, v) :: rest => (writeString key ++ ':' :: writeCompact v) :: writeCompactMembers rest

end

/-- A new line at a depth of nesting. -/
def newLine (depth : Nat) : List Char :=
  '\n' :: List.replicate (2 * depth) ' '

/-- Parts between brackets, each on its own line one level below `depth`. -/
def bracketed (depth : Nat) (opening closing : Char) : List (List Char) → List Char
  | [] => [opening, closing]
  | parts =>
    opening :: (newLine (depth + 1)
      ++ separated (',' :: newLine (depth + 1)) (newLine depth ++ [closing]) parts)

mutual

def writePretty (depth : Nat) : Json → List Char
  | .arr items => bracketed depth '[' ']' (writePrettyItems (depth + 1) items)
  | .obj members => bracketed depth '\x7b' '\x7d' (writePrettyMembers (depth + 1) members)
  | .null => writeNull
  | .bool b => writeBool b
  | .num n => n.render
  | .str s => writeString s

def writePrettyItems (depth : Nat) : List Json → List (List Char)
  | [] => []
  | v :: vs => writePretty depth v :: writePrettyItems depth vs

def writePrettyMembers (depth : Nat) : List (Option String × Json) → List (List Char)
  | [] => []
  | (key, v) :: rest =>
    (writeString key ++ ':' :: ' ' :: writePretty depth v) :: writePrettyMembers depth rest

end

def compact (v : Json) : String :=
  String.ofList (writeCompact v)

def pretty (v : Json) : String :=
  String.ofList (writePretty 0 v)

end Minispec.Json
