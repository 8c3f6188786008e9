import Minispec.Notation.Lexeme
import Minispec.Text.WhiteSpace
import Minispec.Tree.Described

/-!
Tokens of the tree notation, and the reader of the first token of a text.

Blanks may precede a token. The lexemes are tried in a fixed order, and the word `nil` needs no
boundary behind it. A text that starts with no token is reported by the place where a number
would have had to go on.
-/

namespace Minispec.Notation

/-- A child that has been read, before its parent's shape is known. Floating point numbers are
no trees: only a `lit` node may hold one. -/
inductive Item
  | tree (value : Tree)
  | float (value : Binary64)

inductive Token
  /-- Written `s(:tag`. -/
  | opening (tag : String)
  | comma
  | close
  | atom (item : Item)

def Item.described : Item → String
  | .tree t => Described.wrapped "Sexp" t.described
  | .float x => Described.wrapped "Float" (Described.float x)

def Token.described : Token → String
  | .opening tag => Described.wrapped "Open" (Described.text tag)
  | .comma => "Comma"
  | .close => "Close"
  | .atom item => Described.wrapped "Atom" item.described

/-- The place at which a text that starts with no number stops being one. -/
def afterMinus : List Char → List Char
  | '-' :: rest => rest
  | cs => cs

/-- A numeral with a point or an exponent is a floating point number; any other has to fit into
64 bits. -/
def readNumber (cs : List Char) : Except (List Char) (Item × List Char) :=
  match Decimal.Numeral.scan cs with
  | none => .error (afterMinus cs)
  | some (n, rest) =>
    if n.isWhole then
      match n.toInt64? with
      | some value => .ok (.tree (.int value), rest)
      | none => .error cs
    else .ok (.float n.toBinary64, rest)

/-- A symbol, a string or a number. -/
def readAtom (cs : List Char) : Except (List Char) (Item × List Char) :=
  match readSymbol cs with
  | some (name, rest) => .ok (.tree (.sym name), rest)
  | none =>
    match readString cs with
    | some (text, rest) => .ok (.tree (.text text), rest)
    | none => readNumber cs

/-- The tag behind `s(`. -/
def readOpening : List Char → Option (String × List Char)
  | 's' :: '(' :: rest => readSymbol (Text.skipBlanks rest)
  | _ => none

namespace Token

/-- The first token of a text that does not start with a blank. -/
def readFirst (cs : List Char) : Except (List Char) (Token × List Char) :=
  match readOpening cs with
  | some (tag, rest) => .ok (.opening tag, rest)
  | none =>
    match cs with
    | ',' :: rest => .ok (.comma, rest)
    | ')' :: rest => .ok (.close, rest)
    | 'n' :: 'i' :: 'l' :: rest => .ok (.atom (.tree .empty), rest)
    | _ => (readAtom cs).map fun (item, rest) => (.atom item, rest)

/-- The first token of a text and what follows it, or the place of the failure. -/
def read (cs : List Char) : Except (List Char) (Token × List Char) :=
  readFirst (Text.skipBlanks cs)

end Token

/-! ### Reading takes something away -/

theorem length_readNumber {cs rest : List Char} {item : Item}
    (h : readNumber cs = .ok (item, rest)) : rest.length < cs.length := by
  unfold readNumber at h
  split at h
  · cases h
  · next n rest' hscan =>
      have hshorter := Decimal.Numeral.length_scan hscan
      split at h
      · split at h
        · cases h
          exact hshorter
        · cases h
      · cases h
        exact hshorter

theorem length_readAtom {cs rest : List Char} {item : Item}
    (h : readAtom cs = .ok (item, rest)) : rest.length < cs.length := by
  unfold readAtom at h
  split at h
  · next hsymbol =>
      cases h
      exact length_readSymbol hsymbol
  · split at h
    · next hstring =>
        cases h
        exact length_readString hstring
    · exact length_readNumber h

theorem length_readOpening {cs rest : List Char} {tag : String}
    (h : readOpening cs = some (tag, rest)) : rest.length < cs.length := by
  unfold readOpening at h
  split at h
  · next tail =>
      have hsymbol := length_readSymbol h
      have hblanks : (Text.skipBlanks tail).length ≤ tail.length :=
        (List.dropWhile_suffix Text.isBlank).length_le
      simp only [List.length_cons]
      omega
  · cases h

theorem Token.length_readFirst {cs rest : List Char} {token : Token}
    (h : Token.readFirst cs = .ok (token, rest)) : rest.length < cs.length := by
  unfold Token.readFirst at h
  split at h
  · next hopening =>
      cases h
      exact length_readOpening hopening
  · split at h
    · cases h
      exact Nat.lt_succ_self _
    · cases h
      exact Nat.lt_succ_self _
    · cases h
      simp only [List.length_cons]
      omega
    · cases hatom : readAtom cs with
      | error e =>
          rw [hatom] at h
          cases h
      | ok p =>
          rw [hatom] at h
          cases h
          exact length_readAtom hatom

theorem Token.length_read {cs rest : List Char} {token : Token}
    (h : Token.read cs = .ok (token, rest)) : rest.length < cs.length :=
  Nat.lt_of_lt_of_le (Token.length_readFirst h) (List.dropWhile_suffix Text.isBlank).length_le

end Minispec.Notation
