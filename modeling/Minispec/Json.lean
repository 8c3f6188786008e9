import Minispec.Decimal.Numeral

/-!
JSON values as they are written. Numbers keep their digits, objects the order and repetition of
their members. A string literal can escape half of a surrogate pair alone; such a literal is well
formed, but denotes no text, and its content is `none`.
-/

namespace Minispec

inductive Json
  | null
  | bool (value : Bool)
  | num (value : Decimal.Numeral)
  | str (content : Option String)
  | arr (items : List Json)
  | obj (members : List (Option String × Json))
deriving Inhabited

namespace Json

def text (s : String) : Json :=
  .str (some s)

def nat (n : Nat) : Json :=
  .num (.ofNat n)

def int (n : Int) : Json :=
  .num (.ofInt n)

/-- An object with ordinary keys. -/
def record (members : List (String × Json)) : Json :=
  .obj (members.map fun (key, value) => (some key, value))

def option {α : Type} (encode : α → Json) : Option α → Json
  | none => .null
  | some a => encode a

def text? : Json → Option String
  | .str content => content
  | _ => none

def bool? : Json → Option Bool
  | .bool value => some value
  | _ => none

def items? : Json → Option (List Json)
  | .arr items => some items
  | _ => none

end Json
end Minispec
