import Minispec.Proofs.NotationGrammar

/-!
The readers of lexemes and the lexemes of the grammar. What a reader takes off a text is always a
lexeme; a lexeme is taken off whole if the text behind it cannot belong to it. How tokens follow
one another is not looked at.
-/

namespace Minispec

/-! ### White space -/

def Text.whiteSpaceCodes : List Nat :=
  whiteSpaceRanges.flatMap fun r => List.range' r.first (r.last + 1 - r.first)

/-- There are few characters of white space, so a fact about all of them can be computed. -/
theorem Text.forall_isWhiteSpace {p : Char → Prop}
    (h : ∀ n ∈ whiteSpaceCodes, p (Char.ofNat n)) : ∀ c, isWhiteSpace c = true → p c := by
  intro c hc
  obtain ⟨r, hr, hin⟩ := List.any_eq_true.1 hc
  simp only [CodeRange.contains, Bool.and_eq_true, decide_eq_true_eq] at hin
  rw [← Char.ofNat_toNat c]
  apply h
  refine List.mem_flatMap.2 ⟨r, hr, List.mem_range'_1.2 ?_⟩
  omega

theorem Text.isWhiteSpace_of_isBlank {c : Char} (h : isBlank c = true) :
    isWhiteSpace c = true := by
  simp only [isBlank, Bool.or_eq_true, beq_iff_eq] at h
  obtain ((rfl | rfl) | rfl) | rfl := h <;> decide

namespace Notation
open Grammar

/-- No lexeme goes on here: a comma, a closing parenthesis, white space or nothing follows. -/
def LexemeEnds (rest : List Char) : Prop :=
  ∀ c ∈ rest.head?, c = ',' ∨ c = ')' ∨ Text.isWhiteSpace c = true

theorem LexemeEnds.symbolEnds {rest : List Char} (h : LexemeEnds rest) : SymbolEnds rest := by
  have hspace : ∀ c, Text.isWhiteSpace c = true → isSymbolChar c = false :=
    Text.forall_isWhiteSpace (by decide +kernel)
  intro c hc
  obtain rfl | rfl | hwhite := h c hc
  · decide
  · decide
  · exact hspace c hwhite

theorem LexemeEnds.numeralEnds {rest : List Char} (h : LexemeEnds rest) :
    Decimal.NumeralEnds rest := by
  have hspace : ∀ c, Text.isWhiteSpace c = true →
      c.isDigit = false ∧ c ≠ '.' ∧ c ≠ 'e' ∧ c ≠ 'E' :=
    Text.forall_isWhiteSpace (by decide +kernel)
  intro c hc
  obtain rfl | rfl | hwhite := h c hc
  · decide
  · decide
  · exact hspace c hwhite

/-! ### Strings -/

theorem escaped_eq_some_iff {letter c : Char} :
    escaped? letter = some c ↔ (letter, c) ∈ escapes := by
  constructor
  · intro h
    unfold escaped? at h
    split at h <;> cases h <;> decide
  · intro h
    simp only [escapes, List.mem_cons, Prod.mk.injEq, List.not_mem_nil, or_false] at h
    obtain ⟨rfl, rfl⟩ | ⟨rfl, rfl⟩ | ⟨rfl, rfl⟩ | ⟨rfl, rfl⟩ | ⟨rfl, rfl⟩ := h <;> rfl

theorem readStringBody_eq_some_iff {cs value rest : List Char} :
    readStringBody cs = some (value, rest) ↔ StringBody cs value rest := by
  constructor
  · intro h
    fun_induction readStringBody cs generalizing value with
    | case1 => cases h
    | case2 rest' =>
        cases h
        exact .close rest
    | case3 letter rest' ih =>
        simp only [Option.bind_eq_bind, Option.bind_eq_some_iff, Prod.exists] at h
        obtain ⟨c, hc, value', rest'', hbody, ⟨⟩⟩ := h
        exact .escape (escaped_eq_some_iff.1 hc) (ih hbody)
    | case4 _ _ => cases h
    | case5 c rest' hquote _ hbackslash ih =>
        simp only [Option.bind_eq_bind, Option.bind_eq_some_iff, Prod.exists] at h
        obtain ⟨value', rest'', hbody, ⟨⟩⟩ := h
        exact .plain hquote hbackslash (ih hbody)
  · intro h
    induction h with
    | close rest => rfl
    | plain hquote hbackslash _ ih => simp [readStringBody, hbackslash, ih]
    | escape hc _ ih => simp [readStringBody, escaped_eq_some_iff.2 hc, ih]

theorem readString_eq_some_iff {cs rest : List Char} {text : String} :
    readString cs = some (text, rest) ↔ Quoted cs text rest := by
  constructor
  · intro h
    unfold readString at h
    split at h
    · simp only [Option.bind_eq_bind, Option.bind_eq_some_iff, Prod.exists] at h
      obtain ⟨value, rest', hbody, ⟨⟩⟩ := h
      exact .mk (readStringBody_eq_some_iff.1 hbody)
    · cases h
  · intro h
    obtain ⟨hbody⟩ := h
    simp [readString, readStringBody_eq_some_iff.2 hbody]

/-! ### Symbols -/

theorem symbol_of_readSymbol {cs rest : List Char} {name : String}
    (h : readSymbol cs = some (name, rest)) : Symbol cs name rest := by
  unfold readSymbol at h
  split at h
  · next tail =>
      cases hstring : readString tail with
      | some p =>
          rw [hstring] at h
          cases h
          exact .quoted (readString_eq_some_iff.1 hstring)
      | none =>
          rw [hstring] at h
          replace h : readBareSymbol tail = some (name, rest) := h
          unfold readBareSymbol at h
          split at h
          · cases h
          · next hsome =>
              cases h
              have hbare := Symbol.bare hsome (fun c hc => List.mem_takeWhile_imp hc)
                (tail.dropWhile isSymbolChar)
              rwa [List.takeWhile_append_dropWhile] at hbare
  · cases h

theorem readSymbol_of_symbol {cs rest : List Char} {name : String} (h : Symbol cs name rest)
    (hr : SymbolEnds rest) : readSymbol cs = some (name, rest) := by
  cases h with
  | quoted h =>
      rw [readSymbol, readString_eq_some_iff.2 h]
      rfl
  | bare hsome hname _ => exact readSymbol_bare_of_ends hsome hname hr

/-! ### Numbers -/

end Notation

namespace Decimal
open Notation.Grammar

theorem scanDigits_eq_some {cs digits rest : List Char}
    (h : scanDigits cs = some (digits, rest)) : IsDigits digits ∧ cs = digits ++ rest := by
  unfold scanDigits at h
  split at h
  · cases h
  · next hsome =>
      cases h
      exact ⟨⟨hsome, fun c hc => List.mem_takeWhile_imp hc⟩,
        List.takeWhile_append_dropWhile.symm⟩

theorem fraction_scanFraction (cs : List Char) :
    Fraction cs (scanFraction cs).1 (scanFraction cs).2 := by
  unfold scanFraction
  split
  · next rest =>
      cases hdigits : scanDigits rest with
      | none => exact .absent _
      | some p =>
          obtain ⟨hproper, rfl⟩ := scanDigits_eq_some hdigits
          exact .present hproper _
  · exact .absent _

theorem scanSign_eq (cs : List Char) :
    cs = (scanSign cs).1.toList.map Sign.mark ++ (scanSign cs).2 := by
  unfold scanSign
  split <;> rfl

theorem exponent_scanExponent (cs : List Char) :
    Notation.Grammar.Exponent cs (scanExponent cs).1 (scanExponent cs).2 := by
  unfold scanExponent
  split
  · exact .absent _
  · next c rest =>
      split
      · next hletter =>
          simp only [Bool.or_eq_true, beq_iff_eq] at hletter
          dsimp only
          split
          · next digits rest' hdigits =>
              obtain ⟨hproper, hrest⟩ := scanDigits_eq_some hdigits
              have hpresent := Notation.Grammar.Exponent.present hletter (scanSign rest).1
                hproper rest'
              rwa [← hrest, ← scanSign_eq rest] at hpresent
          · exact .absent _
      · exact .absent _

theorem number_of_scan {cs rest : List Char} {n : Numeral} (h : Numeral.scan cs = some (n, rest)) :
    Number cs n rest := by
  have hunsigned : ∀ {negative : Bool} {cs : List Char},
      Numeral.scanUnsigned negative cs = some (n, rest) → Unsigned negative cs n rest := by
    intro negative cs h
    simp only [Numeral.scanUnsigned, Option.bind_eq_bind, Option.bind_eq_some_iff,
      Prod.exists] at h
    obtain ⟨whole, after, hdigits, h⟩ := h
    obtain ⟨hwhole, rfl⟩ := scanDigits_eq_some hdigits
    cases h
    exact .mk hwhole (fraction_scanFraction after) (exponent_scanExponent _)
  unfold Numeral.scan at h
  split at h
  · exact .negative (hunsigned h)
  · exact .positive (hunsigned h)

/-- An exponent cannot be mistaken for more of the digits before it, nor for their point. -/
theorem exponent_head {cs rest : List Char} {exponent : Option Exponent}
    (h : Notation.Grammar.Exponent cs exponent rest) (hr : NumeralEnds rest) :
    ∀ c ∈ cs.head?, c.isDigit = false ∧ c ≠ '.' := by
  intro c hc
  cases h with
  | absent => exact ⟨(hr c hc).1, (hr c hc).2.1⟩
  | present hletter _ _ _ =>
      cases hc
      obtain rfl | rfl := hletter <;> decide

theorem scanExponent_of_exponent {cs rest : List Char} {exponent : Option Exponent}
    (h : Notation.Grammar.Exponent cs exponent rest) (hr : NumeralEnds rest) :
    scanExponent cs = (exponent, rest) := by
  cases h with
  | absent => exact @Numeral.scanExponent_render none _ (by simp) hr
  | present hletter sign hdigits _ =>
      have hscan := scanDigits_append hdigits hr.digitsEnd
      cases sign with
      | none => simp [scanExponent, hletter, scanSign_digits hdigits, hscan]
      | some sign => cases sign <;> simp [scanExponent, hletter, scanSign, Sign.mark, hscan]

theorem scanFraction_of_fraction {cs fraction rest : List Char}
    (h : Fraction cs fraction rest) (hr : ∀ c ∈ rest.head?, c.isDigit = false ∧ c ≠ '.') :
    scanFraction cs = (fraction, rest) := by
  have hpoint : rest.head? ≠ some '.' := fun hc => (hr '.' hc).2 rfl
  have hdigits : DigitsEnd rest := fun c hc => (hr c hc).1
  cases h with
  | absent => exact @Numeral.scanFraction_render [] _ nofun hdigits hpoint
  | @present fraction hproper =>
      have hscan := Numeral.scanFraction_render hproper.2 hdigits hpoint
      rwa [Numeral.renderFraction, if_neg (by simpa using hproper.1)] at hscan

theorem digitsEnd_fraction {cs fraction rest : List Char} (h : Fraction cs fraction rest)
    (hr : DigitsEnd rest) : DigitsEnd cs := by
  cases h with
  | absent => exact hr
  | present _ _ => exact digitsEnd_cons rfl

theorem scanUnsigned_of_unsigned {negative : Bool} {cs rest : List Char} {n : Numeral}
    (h : Unsigned negative cs n rest) (hr : NumeralEnds rest) :
    Numeral.scanUnsigned negative cs = some (n, rest) := by
  obtain ⟨hwhole, hfraction, hexponent⟩ := h
  have hhead := exponent_head hexponent hr
  have hafter := digitsEnd_fraction hfraction fun c hc => (hhead c hc).1
  simp only [Numeral.scanUnsigned, Option.bind_eq_bind, scanDigits_append hwhole hafter,
    Option.bind_some, scanFraction_of_fraction hfraction hhead,
    scanExponent_of_exponent hexponent hr]
  rfl

theorem scan_of_number {cs rest : List Char} {n : Numeral} (h : Number cs n rest)
    (hr : NumeralEnds rest) : Numeral.scan cs = some (n, rest) := by
  cases h with
  | negative h => exact scanUnsigned_of_unsigned h hr
  | positive h =>
      have hscan := scanUnsigned_of_unsigned h hr
      obtain ⟨hwhole, _, _⟩ := h
      obtain ⟨c, whole, rfl⟩ := List.exists_cons_of_ne_nil hwhole.1
      have hminus : c ≠ '-' := ne_of_isDigit (hwhole.2 c List.mem_cons_self) rfl
      simpa [Numeral.scan, hminus] using hscan

theorem number_head {cs rest : List Char} {n : Numeral} (h : Number cs n rest) :
    ∃ c tail, cs = c :: tail ∧ (c.isDigit = true ∨ c = '-') := by
  cases h with
  | negative _ => exact ⟨'-', _, rfl, .inr rfl⟩
  | positive h =>
      obtain ⟨hwhole, _, _⟩ := h
      obtain ⟨c, whole, rfl⟩ := List.exists_cons_of_ne_nil hwhole.1
      exact ⟨c, _, rfl, .inl (hwhole.2 c List.mem_cons_self)⟩

theorem Numeral.toInt64_eq_some_iff {n : Numeral} {value : Int64} :
    n.toInt64? = some value ↔ value.toInt = n.toInt := by
  unfold toInt64?
  constructor
  · intro h
    split at h
    · next hrange =>
        cases h
        exact Int64.toInt_ofInt_of_le hrange.1 (Int.lt_of_le_of_lt hrange.2 (by decide))
    · cases h
  · intro h
    have hmin := Int64.le_iff_toInt_le.1 (Int64.minValue_le value)
    have hmax := Int64.le_iff_toInt_le.1 (Int64.le_maxValue value)
    rw [← h, if_pos ⟨hmin, hmax⟩, Int64.ofInt_toInt]

end Decimal

namespace Notation
open Grammar

/-! ### Tokens -/

theorem atom_of_readNumber {cs rest : List Char} {item : Item}
    (h : readNumber cs = .ok (item, rest)) : Atom cs item rest := by
  unfold readNumber at h
  split at h
  · cases h
  · next n rest' hscan =>
      have hnumber := Decimal.number_of_scan hscan
      split at h
      · next hwhole =>
          split at h
          · next value hvalue =>
              cases h
              exact .integer hnumber hwhole (Decimal.Numeral.toInt64_eq_some_iff.1 hvalue)
          · cases h
      · next hwhole =>
          cases h
          exact .float hnumber (Bool.eq_false_of_not_eq_true hwhole)

theorem atom_of_readAtom {cs rest : List Char} {item : Item}
    (h : readAtom cs = .ok (item, rest)) : Atom cs item rest := by
  unfold readAtom at h
  split at h
  · next hsymbol =>
      cases h
      exact .symbol (symbol_of_readSymbol hsymbol)
  · split at h
    · next hstring =>
        cases h
        exact .string (readString_eq_some_iff.1 hstring)
    · exact atom_of_readNumber h

theorem blanks_skipBlanks (cs : List Char) : Blanks cs (Text.skipBlanks cs) := by
  induction cs with
  | nil => exact .none []
  | cons c cs ih =>
      cases hc : Text.isBlank c with
      | true =>
          rw [Text.skipBlanks, List.dropWhile_cons_of_pos hc]
          exact .more hc ih
      | false =>
          rw [Text.skipBlanks, List.dropWhile_cons_of_neg (by simp [hc])]
          exact .none _

theorem lexeme_of_readFirst {cs rest : List Char} {token : Token}
    (h : Token.readFirst cs = .ok (token, rest)) : Lexeme cs token rest := by
  unfold Token.readFirst at h
  split at h
  · next tag rest' hopening =>
      cases h
      unfold readOpening at hopening
      split at hopening
      · next tail =>
          exact .opening (blanks_skipBlanks tail) (symbol_of_readSymbol hopening)
      · cases hopening
  · split at h
    · cases h
      exact .comma rest
    · cases h
      exact .close rest
    · cases h
      exact .atom (.nil rest)
    · cases hatom : readAtom cs with
      | error _ =>
          rw [hatom] at h
          cases h
      | ok p =>
          rw [hatom] at h
          cases h
          exact .atom (atom_of_readAtom hatom)

theorem spaced_of_read {cs rest : List Char} {token : Token}
    (h : Token.read cs = .ok (token, rest)) : Spaced cs token rest :=
  .mk (blanks_skipBlanks cs) (lexeme_of_readFirst h)

theorem skipBlanks_of_blanks {cs rest : List Char} (h : Blanks cs rest) :
    Text.skipBlanks cs = Text.skipBlanks rest := by
  induction h with
  | none => rfl
  | more hc _ ih => rw [← ih, Text.skipBlanks, List.dropWhile_cons_of_pos hc, Text.skipBlanks]

/-- Commas and parentheses stand for themselves; any other token has to end where it ends. -/
def Token.Bounded (rest : List Char) : Token → Prop
  | .comma | .close => True
  | .opening _ | .atom _ => LexemeEnds rest

theorem read_of_atom {cs rest : List Char} {item : Item} (h : Atom cs item rest)
    (hr : LexemeEnds rest) : Token.read cs = .ok (.atom item, rest) := by
  cases h with
  | nil => rfl
  | symbol h =>
      have hsymbol := readSymbol_of_symbol h hr.symbolEnds
      obtain ⟨tail, rfl⟩ : ∃ tail, cs = ':' :: tail := by cases h <;> exact ⟨_, rfl⟩
      change (readAtom (':' :: tail)).map (fun p => (Token.atom p.1, p.2)) = _
      rw [readAtom, hsymbol]
      rfl
  | string h =>
      have hstring := readString_eq_some_iff.2 h
      obtain ⟨hbody⟩ := h
      change (readAtom ('"' :: _)).map (fun p => (Token.atom p.1, p.2)) = _
      rw [readAtom, hstring]
      rfl
  | integer h hwhole hvalue =>
      obtain ⟨c, tail, rfl, hhead⟩ := Decimal.number_head h
      rw [Token.read_number tail hhead, readNumber, Decimal.scan_of_number h hr.numeralEnds]
      simp only [hwhole, if_true, Decimal.Numeral.toInt64_eq_some_iff.2 hvalue]
      rfl
  | float h hwhole =>
      obtain ⟨c, tail, rfl, hhead⟩ := Decimal.number_head h
      rw [Token.read_number tail hhead, readNumber, Decimal.scan_of_number h hr.numeralEnds]
      simp only [hwhole, Bool.false_eq_true, if_false]
      rfl

theorem read_of_spaced {cs rest : List Char} {token : Token} (h : Spaced cs token rest)
    (hr : token.Bounded rest) : Token.read cs = .ok (token, rest) := by
  obtain ⟨hblanks, h⟩ := h
  rw [Token.read, skipBlanks_of_blanks hblanks, ← Token.read]
  cases h with
  | comma | close => rfl
  | atom h => exact read_of_atom h hr
  | @opening cs after _ tag hspace hsymbol =>
      have hafter : Text.skipBlanks after = after := by cases hsymbol <;> rfl
      have hopening : readOpening ('s' :: '(' :: cs) = some (tag, rest) := by
        rw [readOpening, skipBlanks_of_blanks hspace, hafter]
        exact readSymbol_of_symbol hsymbol hr.symbolEnds
      change Token.readFirst ('s' :: '(' :: cs) = _
      simp only [Token.readFirst, hopening]

end Notation
end Minispec
