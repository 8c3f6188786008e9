import Minispec.Json
import Minispec.Text.WhiteSpace

/-!
The tokens of JSON text, each with its writer and its reader. Between any two values JSON asks
for punctuation, so a text can be cut into tokens without looking at how they are nested.
-/

namespace Minispec.Json

inductive Token
  | openArr
  | closeArr
  | openObj
  | closeObj
  | comma
  | colon
  | null
  | bool (value : Bool)
  | num (value : Decimal.Numeral)
  | str (content : Option String)

/-! ### String literals -/

/-- Part of a string literal: a character, or half of a surrogate pair given by an escape. -/
inductive Piece
  | char (c : Char)
  | half (code : Nat)

def Piece.ofCode (code : Nat) : Piece :=
  if 0xD800 ≤ code ∧ code ≤ 0xDFFF then .half code else .char (Char.ofNat code)

/-- The text that the pieces denote, if every half finds its other half next to it. -/
def joinPieces : List Piece → Option (List Char)
  | [] => some []
  | .char c :: rest => (joinPieces rest).map (c :: ·)
  | .half high :: .half low :: rest =>
    if high < 0xDC00 ∧ 0xDC00 ≤ low then
      (joinPieces rest).map
        (Char.ofNat (0x10000 + (high - 0xD800) * 0x400 + (low - 0xDC00)) :: ·)
    else none
  | .half _ :: _ => none

def hexValue? (c : Char) : Option Nat :=
  if c.isDigit then some (c.toNat - '0'.toNat)
  else if 'a' ≤ c ∧ c ≤ 'f' then some (c.toNat - 'a'.toNat + 10)
  else if 'A' ≤ c ∧ c ≤ 'F' then some (c.toNat - 'A'.toNat + 10)
  else none

/-- The character that a letter after a backslash stands for. -/
def escaped? : Char → Option Char
  | '"' => some '"'
  | '\\' => some '\\'
  | '/' => some '/'
  | 'b' => some '\x08'
  | 'f' => some '\x0c'
  | 'n' => some '\n'
  | 'r' => some '\r'
  | 't' => some '\t'
  | _ => none

/-- The pieces up to the closing quote, and what follows it. Control characters must be
escaped. -/
def readPieces : List Char → Option (List Piece × List Char)
  | [] => none
  | '"' :: rest => some ([], rest)
  | '\\' :: 'u' :: a :: b :: c :: d :: rest => do
    let code := ((((← hexValue? a) * 16 + (← hexValue? b)) * 16 + (← hexValue? c)) * 16
      + (← hexValue? d))
    let (pieces, rest) ← readPieces rest
    return (.ofCode code :: pieces, rest)
  | '\\' :: letter :: rest => do
    let c ← escaped? letter
    let (pieces, rest) ← readPieces rest
    return (.char c :: pieces, rest)
  | c :: rest =>
    if c = '\\' ∨ c.toNat < 0x20 then none
    else do
      let (pieces, rest) ← readPieces rest
      return (.char c :: pieces, rest)

def escapeChar (c : Char) : List Char :=
  match c with
  | '"' => ['\\', '"']
  | '\\' => ['\\', '\\']
  | '\x08' => ['\\', 'b']
  | '\x0c' => ['\\', 'f']
  | '\n' => ['\\', 'n']
  | '\r' => ['\\', 'r']
  | '\t' => ['\\', 't']
  | c =>
    if c.toNat < 0x20 then
      ['\\', 'u', '0', '0', Nat.digitChar (c.toNat / 16), Nat.digitChar (c.toNat % 16)]
    else [c]

/-- A literal for the content; one without a text is written as half of a surrogate pair. -/
def writeString : Option String → List Char
  | some s => '"' :: (s.toList.flatMap escapeChar ++ ['"'])
  | none => "\"\\ud800\"".toList

/-! ### All tokens -/

namespace Token

/-- A numeral of JSON has no needless zero in front. -/
def ofNumeral? (n : Decimal.Numeral) : Option Token :=
  if n.whole.head? == some '0' && 1 < n.whole.length then none else some (.num n)

/-- The first token of a text that does not start with a blank, and what follows it. -/
def readFirst (cs : List Char) : Option (Token × List Char) :=
  match cs with
  | '[' :: rest => some (.openArr, rest)
  | ']' :: rest => some (.closeArr, rest)
  | '\x7b' :: rest => some (.openObj, rest)
  | '\x7d' :: rest => some (.closeObj, rest)
  | ',' :: rest => some (.comma, rest)
  | ':' :: rest => some (.colon, rest)
  | 'n' :: 'u' :: 'l' :: 'l' :: rest => some (.null, rest)
  | 't' :: 'r' :: 'u' :: 'e' :: rest => some (.bool true, rest)
  | 'f' :: 'a' :: 'l' :: 's' :: 'e' :: rest => some (.bool false, rest)
  | '"' :: rest => do
    let (pieces, rest) ← readPieces rest
    return (.str ((joinPieces pieces).map String.ofList), rest)
  | cs => do
    let (n, rest) ← Decimal.Numeral.scan cs
    return (← ofNumeral? n, rest)

theorem length_readPieces {cs rest : List Char} {pieces : List Piece}
    (h : readPieces cs = some (pieces, rest)) : rest.length < cs.length := by
  fun_induction readPieces cs generalizing pieces with
  | case1 | case5 => cases h
  | case2 =>
      cases h
      exact Nat.lt_succ_self _
  | case3 a b c d tail ih =>
      simp only [Option.bind_eq_bind, Option.bind_eq_some_iff, Prod.exists] at h
      obtain ⟨_, _, _, _, _, _, _, _, pieces', rest', hpieces, ⟨⟩⟩ := h
      have hshorter := ih hpieces
      simp only [List.length_cons]
      omega
  | case4 letter tail _ ih =>
      simp only [Option.bind_eq_bind, Option.bind_eq_some_iff, Prod.exists] at h
      obtain ⟨_, _, pieces', rest', hpieces, ⟨⟩⟩ := h
      have hshorter := ih hpieces
      simp only [List.length_cons]
      omega
  | case6 c tail _ _ _ _ ih =>
      simp only [Option.bind_eq_bind, Option.bind_eq_some_iff, Prod.exists] at h
      obtain ⟨pieces', rest', hpieces, ⟨⟩⟩ := h
      exact Nat.lt_succ_of_lt (ih hpieces)

theorem length_readFirst {cs rest : List Char} {token : Token}
    (h : readFirst cs = some (token, rest)) : rest.length < cs.length := by
  unfold readFirst at h
  split at h
  case h_10 tail =>
    simp only [Option.bind_eq_bind, Option.bind_eq_some_iff, Prod.exists] at h
    obtain ⟨pieces, rest', hpieces, ⟨⟩⟩ := h
    exact Nat.lt_succ_of_lt (length_readPieces hpieces)
  case h_11 =>
    simp only [Option.bind_eq_bind, Option.bind_eq_some_iff, Prod.exists] at h
    obtain ⟨n, rest', hscan, _, _, ⟨⟩⟩ := h
    exact Decimal.Numeral.length_scan hscan
  -- The other tokens are fixed texts.
  all_goals
    cases h
    simp only [List.length_cons]
    omega

/-- All tokens of a text. -/
def readAll (cs : List Char) : Option (List Token) :=
  match _h : Text.skipBlanks cs with
  | [] => some []
  | c :: cs' =>
    match _h' : readFirst (c :: cs') with
    | none => none
    | some (token, rest) => (readAll rest).map (token :: ·)
termination_by cs.length
decreasing_by
  have h1 := length_readFirst _h'
  have h2 : (Text.skipBlanks cs).length ≤ cs.length := (List.dropWhile_suffix _).length_le
  rw [_h] at h2
  omega

end Token
end Minispec.Json
