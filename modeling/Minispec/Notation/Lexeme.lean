import Minispec.Text.Alphanumeric

/-!
The two lexemes of the tree notation that carry a text: strings between double quotes, and
symbols, which are a colon followed by a bare name or by a string. Each is given by its writer
and its reader.
-/

namespace Minispec.Notation

/-! ### Strings -/

/-- The letter that stands for a character after a backslash. -/
def escapeLetter? : Char → Option Char
  | '\\' => some '\\'
  | '"' => some '"'
  | '\n' => some 'n'
  | '\t' => some 't'
  | '\r' => some 'r'
  | _ => none

/-- The character that a letter after a backslash stands for. -/
def escaped? : Char → Option Char
  | '\\' => some '\\'
  | '"' => some '"'
  | 'n' => some '\n'
  | 't' => some '\t'
  | 'r' => some '\r'
  | _ => none

def writeChar (c : Char) : List Char :=
  match escapeLetter? c with
  | some letter => ['\\', letter]
  | none => [c]

def writeString (text : String) : List Char :=
  '"' :: (text.toList.flatMap writeChar ++ ['"'])

/-- The characters up to the closing quote, and what follows it. An unknown escape and a missing
quote make the string unreadable. -/
def readStringBody : List Char → Option (List Char × List Char)
  | [] => none
  | '"' :: rest => some ([], rest)
  | '\\' :: letter :: rest => do
    let c ← escaped? letter
    let (text, rest) ← readStringBody rest
    return (c :: text, rest)
  | c :: rest =>
    if c = '\\' then none
    else do
      let (text, rest) ← readStringBody rest
      return (c :: text, rest)

def readString : List Char → Option (String × List Char)
  | '"' :: rest => do
    let (text, rest) ← readStringBody rest
    return (String.ofList text, rest)
  | _ => none

/-! ### Symbols -/

def isSymbolChar (c : Char) : Bool :=
  Text.isAlphanumeric c || "_?!=@$<>+-*/%[]~^&|".toList.contains c

/-- Whether a name may follow the colon without quotes. -/
def isBareSymbol (name : List Char) : Bool :=
  match name with
  | [] => false
  | c :: _ => !c.isDigit && name.all isSymbolChar

def writeSymbol (name : String) : List Char :=
  ':' :: if isBareSymbol name.toList then name.toList else writeString name

/-- The longest run of symbol characters; there must be one. -/
def readBareSymbol (cs : List Char) : Option (String × List Char) :=
  match cs.takeWhile isSymbolChar with
  | [] => none
  | name => some (String.ofList name, cs.dropWhile isSymbolChar)

def readSymbol : List Char → Option (String × List Char)
  | ':' :: rest => readString rest <|> readBareSymbol rest
  | _ => none

/-! ### Reading takes something away -/

theorem length_readStringBody {cs text rest : List Char}
    (h : readStringBody cs = some (text, rest)) : rest.length < cs.length := by
  fun_induction readStringBody cs generalizing text with
  | case1 | case4 _ _ => cases h
  | case2 tail =>
      cases h
      exact Nat.lt_succ_self _
  | case3 letter tail ih =>
      simp only [Option.bind_eq_bind, Option.bind_eq_some_iff, Prod.exists] at h
      obtain ⟨_, _, text', rest', hbody, ⟨⟩⟩ := h
      have hshorter := ih hbody
      simp only [List.length_cons]
      omega
  | case5 c tail _ _ _ ih =>
      simp only [Option.bind_eq_bind, Option.bind_eq_some_iff, Prod.exists] at h
      obtain ⟨text', rest', hbody, ⟨⟩⟩ := h
      exact Nat.lt_succ_of_lt (ih hbody)

theorem length_readString {cs rest : List Char} {text : String}
    (h : readString cs = some (text, rest)) : rest.length < cs.length := by
  unfold readString at h
  split at h
  · next tail =>
      simp only [Option.bind_eq_bind, Option.bind_eq_some_iff, Prod.exists] at h
      obtain ⟨text', rest', hbody, ⟨⟩⟩ := h
      exact Nat.lt_succ_of_lt (length_readStringBody hbody)
  · cases h

theorem length_readBareSymbol {cs rest : List Char} {name : String}
    (h : readBareSymbol cs = some (name, rest)) : rest.length ≤ cs.length := by
  unfold readBareSymbol at h
  split at h
  · cases h
  · cases h
    exact (List.dropWhile_suffix isSymbolChar).length_le

theorem length_readSymbol {cs rest : List Char} {name : String}
    (h : readSymbol cs = some (name, rest)) : rest.length < cs.length := by
  unfold readSymbol at h
  split at h
  · next tail =>
      cases hstring : readString tail with
      | some p =>
          rw [hstring] at h
          cases h
          exact Nat.lt_succ_of_lt (length_readString hstring)
      | none =>
          rw [hstring] at h
          exact Nat.lt_succ_of_le (length_readBareSymbol h)
  · cases h

end Minispec.Notation
