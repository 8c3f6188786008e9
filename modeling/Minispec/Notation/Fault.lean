import Minispec.Notation.Token

/-! What can be wrong with the notation of a tree, and how it is reported. -/

namespace Minispec.Notation

/-- How many children a tag asks for. -/
inductive Arity
  | none
  | one
  | two
  | twoOrThree
  | twoOrMore
deriving DecidableEq

def Arity.described : Arity → String
  | .none => "no"
  | .one => "1"
  | .two => "2"
  | .twoOrThree => "2 or 3"
  | .twoOrMore => "at least 2"

inductive Fault
  /-- No token starts here. -/
  | unreadable (rest : List Char)
  | unexpected (token : Token)
  | unbalanced
  /-- Something follows the root. -/
  | trailing (rest : List Char)
  | wrongArity (tag : String) (expected : Arity) (got : Nat)
  | notSymbol (tag : String) (got : Item)
  | wrongPayload (tag : String) (got : Item)
  | strayFloat (value : Binary64)
  /-- The text is no JSON form of a tree. -/
  | notJsonTree

def Fault.message : Fault → String
  | .unreadable rest =>
    "cannot read s-expression: Parsing Error: "
      ++ Described.record "Error" [("input", Text.quoted rest), ("code", "Digit")]
  | .unexpected token => "unexpected token " ++ token.described
  | .unbalanced => "unbalanced ')'"
  | .trailing rest => "unexpected trailing input: " ++ String.ofList (rest.take 20)
  | .wrongArity tag expected got =>
    tag ++ " expects " ++ expected.described ++ " children, got " ++ toString got
  | .notSymbol tag got => tag ++ " expects a symbol, got " ++ got.described
  | .wrongPayload tag got => "unexpected payload for " ++ tag ++ ": " ++ got.described
  | .strayFloat value =>
    "float " ++ String.ofList (Decimal.Layout.plain.text value) ++ " outside of a lit node"
  | .notJsonTree => "invalid JSON tree"

end Minispec.Notation
