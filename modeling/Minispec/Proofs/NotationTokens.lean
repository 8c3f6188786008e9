import Minispec.Notation.Reader
import Minispec.Proofs.FloatText

/-!
Every lexeme of the notation is read back from its written form, whatever follows it. Behind a
symbol or a number something has to follow that cannot belong to it; strings need no such
boundary. How tokens make up trees is not looked at.
-/

namespace Minispec.Notation

/-! ### Strings and symbols -/

theorem escaped_of_escapeLetter {c letter : Char} (h : escapeLetter? c = some letter) :
    escaped? letter = some c := by
  unfold escapeLetter? at h
  split at h <;> cases h <;> rfl

theorem ne_of_not_escaped {c : Char} (h : escapeLetter? c = none) : c ≠ '\\' ∧ c ≠ '"' := by
  constructor
  · intro hc
    subst hc
    cases h
  · intro hc
    subst hc
    cases h

theorem readStringBody_writeChar (c : Char) (rest : List Char) :
    readStringBody (writeChar c ++ rest) =
      (readStringBody rest).map fun p => (c :: p.1, p.2) := by
  cases h : escapeLetter? c with
  | some letter =>
      simp [writeChar, h, readStringBody, escaped_of_escapeLetter h, Option.map_eq_bind]
  | none =>
      obtain ⟨hbackslash, hquote⟩ := ne_of_not_escaped h
      simp [writeChar, h, readStringBody, hbackslash, Option.map_eq_bind]

theorem readStringBody_written (cs rest : List Char) :
    readStringBody (cs.flatMap writeChar ++ '"' :: rest) = some (cs, rest) := by
  induction cs with
  | nil => rfl
  | cons c cs ih =>
      rw [List.flatMap_cons, List.append_assoc, readStringBody_writeChar, ih]
      rfl

theorem readString_writeString (text : String) (rest : List Char) :
    readString (writeString text ++ rest) = some (text, rest) := by
  simp [writeString, readString, readStringBody_written]

theorem readString_of_ne_quote {c : Char} (h : c ≠ '"') (cs : List Char) :
    readString (c :: cs) = none := by
  simp [readString, h]

/-- No character of a symbol comes next. -/
def SymbolEnds (rest : List Char) : Prop :=
  ∀ c ∈ rest.head?, isSymbolChar c = false

theorem readSymbol_quoted (name : String) (rest : List Char) :
    readSymbol (':' :: (writeString name ++ rest)) = some (name, rest) := by
  rw [readSymbol, readString_writeString]
  rfl

theorem isBareSymbol_iff {name : List Char} :
    isBareSymbol name = true ↔
      name ≠ [] ∧ (∀ c ∈ name, isSymbolChar c = true) ∧ ∀ c ∈ name.head?, c.isDigit = false := by
  cases name with
  | nil => simp [isBareSymbol]
  | cons c cs => simp [isBareSymbol, and_comm]

/-- All characters of symbols that follow a bare symbol are taken for more of it. -/
theorem readSymbol_bare {name : List Char} (hsome : name ≠ [])
    (hname : ∀ c ∈ name, isSymbolChar c = true) (rest : List Char) :
    readSymbol (':' :: (name ++ rest)) =
      some (String.ofList (name ++ rest.takeWhile isSymbolChar),
        rest.dropWhile isSymbolChar) := by
  obtain ⟨c, cs, rfl⟩ := List.exists_cons_of_ne_nil hsome
  have hquote : c ≠ '"' := by
    intro hc
    subst hc
    exact absurd (hname '"' List.mem_cons_self) (by decide)
  rw [readSymbol, readBareSymbol, List.takeWhile_append_of_pos hname,
    List.dropWhile_append_of_pos hname, List.cons_append, readString_of_ne_quote hquote]
  rfl

theorem readSymbol_bare_of_ends {name rest : List Char} (hsome : name ≠ [])
    (hname : ∀ c ∈ name, isSymbolChar c = true) (hr : SymbolEnds rest) :
    readSymbol (':' :: (name ++ rest)) = some (String.ofList name, rest) := by
  obtain ⟨htake, hdrop⟩ := @Text.span_append _ [] rest nofun hr
  rw [List.nil_append] at htake hdrop
  rw [readSymbol_bare hsome hname, htake, hdrop, List.append_nil]

theorem readSymbol_writeSymbol (name : String) {rest : List Char} (hr : SymbolEnds rest) :
    readSymbol (writeSymbol name ++ rest) = some (name, rest) := by
  rw [writeSymbol, List.cons_append]
  split
  · next hbare =>
      obtain ⟨hsome, hname, _⟩ := isBareSymbol_iff.1 hbare
      rw [readSymbol_bare_of_ends hsome hname hr, String.ofList_toList]
  · exact readSymbol_quoted name rest

/-! ### Tokens -/

/-- Where a child may end: before a comma, before a closing parenthesis, or with the text. -/
def ItemEnds (rest : List Char) : Prop :=
  ∀ c ∈ rest.head?, c = ',' ∨ c = ')'

theorem ItemEnds.symbolEnds {rest : List Char} (h : ItemEnds rest) : SymbolEnds rest := by
  intro c hc
  obtain rfl | rfl := h c hc <;> decide

theorem ItemEnds.numeralEnds {rest : List Char} (h : ItemEnds rest) :
    Decimal.NumeralEnds rest := by
  intro c hc
  obtain rfl | rfl := h c hc <;> decide

theorem itemEnds_nil : ItemEnds [] :=
  nofun

theorem itemEnds_comma (rest : List Char) : ItemEnds (',' :: rest) := by
  intro c hc
  cases hc
  exact .inl rfl

theorem itemEnds_close (rest : List Char) : ItemEnds (')' :: rest) := by
  intro c hc
  cases hc
  exact .inr rfl

namespace Token

theorem read_blank (cs : List Char) : read (' ' :: cs) = read cs := rfl

theorem read_comma (rest : List Char) : read (',' :: rest) = .ok (.comma, rest) := rfl

theorem read_close (rest : List Char) : read (')' :: rest) = .ok (.close, rest) := rfl

theorem read_nil (rest : List Char) :
    read ('n' :: 'i' :: 'l' :: rest) = .ok (.atom (.tree .empty), rest) := rfl

theorem read_symbol (name : String) {rest : List Char} (hr : ItemEnds rest) :
    read (writeSymbol name ++ rest) = .ok (.atom (.tree (.sym name)), rest) := by
  have hsymbol := readSymbol_writeSymbol name hr.symbolEnds
  obtain ⟨cs, hcs⟩ : ∃ cs, writeSymbol name ++ rest = ':' :: cs := ⟨_, rfl⟩
  rw [hcs] at hsymbol ⊢
  change (readAtom (':' :: cs)).map (fun p => (Token.atom p.1, p.2)) = _
  rw [readAtom, hsymbol]
  rfl

theorem read_string (text : String) (rest : List Char) :
    read (writeString text ++ rest) = .ok (.atom (.tree (.text text)), rest) := by
  have hstring := readString_writeString text rest
  obtain ⟨cs, hcs⟩ : ∃ cs, writeString text ++ rest = '"' :: cs := ⟨_, rfl⟩
  rw [hcs] at hstring ⊢
  change (readAtom ('"' :: cs)).map (fun p => (Token.atom p.1, p.2)) = _
  have hsymbol : readSymbol ('"' :: cs) = none := rfl
  rw [readAtom, hsymbol, hstring]
  rfl

theorem read_opening (tag : String) {rest : List Char} (hr : ItemEnds rest) :
    read ('s' :: '(' :: (writeSymbol tag ++ rest)) = .ok (.opening tag, rest) := by
  have hsymbol := readSymbol_writeSymbol tag hr.symbolEnds
  have hopening : readOpening ('s' :: '(' :: (writeSymbol tag ++ rest)) = some (tag, rest) :=
    hsymbol
  change readFirst ('s' :: '(' :: (writeSymbol tag ++ rest)) = _
  simp only [readFirst, hopening]

/-- A text that starts like a number is read as one. -/
theorem read_number {c : Char} (cs : List Char) (h : c.isDigit = true ∨ c = '-') :
    read (c :: cs) = (readNumber (c :: cs)).map fun p => (.atom p.1, p.2) := by
  have hne : ∀ d : Char, d.isDigit = false → d ≠ '-' → c ≠ d := by
    intro d hd hminus hcd
    cases h with
    | inl h => exact Decimal.ne_of_isDigit h hd hcd
    | inr h => exact hminus (hcd.symm.trans h)
  have hblank : Text.isBlank c = false := by
    simp [Text.isBlank, hne ' ' rfl (by decide), hne '\t' rfl (by decide),
      hne '\n' rfl (by decide), hne '\r' rfl (by decide)]
  have hs : c ≠ 's' := hne 's' rfl (by decide)
  have hcomma : c ≠ ',' := hne ',' rfl (by decide)
  have hclose : c ≠ ')' := hne ')' rfl (by decide)
  have hn : c ≠ 'n' := hne 'n' rfl (by decide)
  have hcolon : c ≠ ':' := hne ':' rfl (by decide)
  have hquote : c ≠ '"' := hne '"' rfl (by decide)
  have hopening : readOpening (c :: cs) = none := by simp [readOpening, hs]
  have hsymbol : readSymbol (c :: cs) = none := by simp [readSymbol, hcolon]
  simp only [read, Text.skipBlanks, List.dropWhile_cons, hblank, Bool.false_eq_true, if_false,
    readFirst, hopening, readAtom, hsymbol, readString_of_ne_quote hquote]
  split
  · next heq => exact absurd (List.cons.inj heq).1 hcomma
  · next heq => exact absurd (List.cons.inj heq).1 hclose
  · next heq => exact absurd (List.cons.inj heq).1 hn
  · rfl

theorem read_render {n : Decimal.Numeral} (h : n.Proper) {rest : List Char} :
    read (n.render ++ rest) = (readNumber (n.render ++ rest)).map fun p => (.atom p.1, p.2) := by
  obtain ⟨c, cs, hw⟩ := List.exists_cons_of_ne_nil h.whole.1
  have hc : c.isDigit = true := h.whole.2 c (by simp [hw])
  rw [Decimal.Numeral.render_eq, hw]
  cases n.negative with
  | true => exact read_number _ (.inr rfl)
  | false => exact read_number _ (.inl hc)

theorem read_int (n : Int64) {rest : List Char} (hr : ItemEnds rest) :
    read (writeInt n ++ rest) = .ok (.atom (.tree (.int n)), rest) := by
  have hproper := Decimal.Numeral.proper_ofInt n.toInt
  have hwhole : (Decimal.Numeral.ofInt n.toInt).isWhole = true := rfl
  rw [writeInt, read_render hproper, readNumber,
    Decimal.Numeral.scan_render hproper hr.numeralEnds]
  simp only [hwhole, if_true, Decimal.Numeral.toInt64_ofInt]
  rfl

theorem read_float {x : Binary64} (hx : x.isFinite = true) {rest : List Char}
    (hr : ItemEnds rest) :
    read (Decimal.Layout.general.text x ++ rest) = .ok (.atom (.float x), rest) := by
  have hproper := Decimal.Layout.general.numeral_proper hx
  have hpoint : (Decimal.Layout.general.numeral x).isWhole = false :=
    Decimal.Layout.numeral_not_whole rfl x
  have hhonest : Decimal.Layout.general.Honest := nofun
  rw [Decimal.Layout.text, if_pos hx, read_render hproper, readNumber,
    Decimal.Numeral.scan_render hproper hr.numeralEnds]
  simp only [hpoint, Bool.false_eq_true, if_false,
    Decimal.Layout.numeral_toBinary64 hhonest hx]
  rfl

end Token
end Minispec.Notation
