import Minispec.Text.Unprintable

/-!
Text as it is quoted in messages: between double quotes, on one line, with every character
either visible or escaped.
-/

namespace Minispec.Text

/-- One character inside quotes. Those that cannot be shown are given by their code point in
lower-case hexadecimal. -/
def escapeChar : Char → String
  | '\x00' => "\\0"
  | '\t' => "\\t"
  | '\n' => "\\n"
  | '\r' => "\\r"
  | '"' => "\\\""
  | '\\' => "\\\\"
  | c =>
    if isUnprintable c then "\\u\x7b" ++ String.ofList (Nat.toDigits 16 c.toNat) ++ "\x7d"
    else String.singleton c

def quoted (cs : List Char) : String :=
  "\"" ++ String.join (cs.map escapeChar) ++ "\""

end Minispec.Text
