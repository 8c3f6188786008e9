import Minispec.Json

/-!
Records in JSON: an object whose members are found by name, or an array of the values in the
order of the fields. Members with other names are not looked at, but no name may be repeated
among the fields.
-/

namespace Minispec.Json

/-- The value of a field, `none` where it is absent; fails if it is given twice. -/
def member? (members : List (Option String × Json)) (name : String) : Option (Option Json) :=
  match members.filter (·.1 == some name) with
  | [] => some none
  | [(_, value)] => some (some value)
  | _ => none

/-- The values of the named fields of an object. Every key must denote a text. -/
def members? (names : List String) (members : List (Option String × Json)) :
    Option (List (Option Json)) :=
  if members.all (·.1.isSome) then names.mapM (member? members) else none

/-- The fields of a record; as an array it has to be complete. -/
def fields? (names : List String) : Json → Option (List (Option Json))
  | .obj members => members? names members
  | .arr items => if items.length = names.length then some (items.map some) else none
  | _ => none

/-- The fields of a record in which all may be absent; as an array it may end early. -/
def optionalFields? (names : List String) : Json → Option (List (Option Json))
  | .obj members => members? names members
  | .arr items =>
    if items.length ≤ names.length then
      some (items.map some ++ List.replicate (names.length - items.length) none)
    else none
  | _ => none

end Minispec.Json
