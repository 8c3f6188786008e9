import Minispec.Proofs.GrammarLexemes

/-!
Strings and symbols in any surroundings. A quoted text is read back whatever follows it. A symbol
without quotes is taken as long as possible, so it is read back unless a character of a symbol
follows. Quotes are left out exactly where a name is read as itself without them and does not
begin with a digit.

The inside of a string may as well be read in pieces, with the empty text to fall back on where
that fails. Both ways agree on every text: the fall-back helps the empty string and no other.
-/

namespace Minispec.Notation
open Grammar

/-! ### Strings in pieces -/

/-- A character that stands for itself inside a string. -/
def isPlain (c : Char) : Bool :=
  c != '"' && c != '\\'

/-- Collects runs of plain characters and escapes for as long as they come. A backslash that starts
no escape is refused, and so is a quote before anything has been taken. -/
def takePieces (taken : List Char) : List Char → Option (List Char × List Char)
  | [] => some (taken, [])
  | c :: rest =>
    if isPlain c then
      takePieces (taken ++ c :: rest.takeWhile isPlain) (rest.dropWhile isPlain)
    else if c = '\\' then
      match rest with
      | [] => none
      | letter :: rest => (escaped? letter).bind fun d => takePieces (taken ++ [d]) rest
    else if taken.isEmpty then none
    else some (taken, c :: rest)
termination_by cs => cs.length
decreasing_by
  · exact Nat.lt_succ_of_le (List.dropWhile_suffix isPlain).length_le
  · simp only [List.length_cons]
    omega

/-- Takes the closing quote off what is left. -/
def closeQuote : List Char × List Char → Option (List Char × List Char)
  | (text, '"' :: rest) => some (text, rest)
  | _ => none

/-- Reads a string in pieces. Where they cannot be collected, the text is taken to be empty and to
end at once. -/
def readInPieces : List Char → Option (String × List Char)
  | '"' :: cs => do
    let (text, rest) ← closeQuote ((takePieces [] cs).getD ([], cs))
    return (String.ofList text, rest)
  | _ => none

theorem isPlain_iff {c : Char} : isPlain c = true ↔ c ≠ '"' ∧ c ≠ '\\' := by
  simp [isPlain]

theorem eq_quote_of_not_plain {c : Char} (hplain : ¬ isPlain c = true) (hbackslash : c ≠ '\\') :
    c = '"' := by
  rw [isPlain_iff] at hplain
  exact Decidable.byContradiction fun hquote => hplain ⟨hquote, hbackslash⟩

theorem readStringBody_plain {run : List Char} (hrun : ∀ c ∈ run, isPlain c = true)
    (rest : List Char) :
    readStringBody (run ++ rest) = (readStringBody rest).map fun p => (run ++ p.1, p.2) := by
  induction run with
  | nil => simp
  | cons c run ih =>
      obtain ⟨hc, hrun⟩ := List.forall_mem_cons.1 hrun
      obtain ⟨hquote, hbackslash⟩ := isPlain_iff.1 hc
      simp [readStringBody, hbackslash, ih hrun, Option.map_eq_bind, Option.bind_assoc]

/-- Once something has been taken, or no quote comes first, pieces are collected up to the quote
that closes the string. -/
theorem closeQuote_takePieces {taken cs : List Char} (h : taken ≠ [] ∨ cs.head? ≠ some '"') :
    (takePieces taken cs).bind closeQuote =
      (readStringBody cs).map fun p => (taken ++ p.1, p.2) := by
  fun_induction takePieces taken cs with
  | case1 taken | case3 taken _ => rfl
  | case2 taken c rest hplain ih =>
      -- The run that is one piece here is read character by character there.
      have hrun : ∀ d ∈ c :: rest.takeWhile isPlain, isPlain d = true :=
        List.forall_mem_cons.2 ⟨hplain, fun d hd => List.mem_takeWhile_imp hd⟩
      have hbody := readStringBody_plain hrun (rest.dropWhile isPlain)
      rw [List.cons_append, List.takeWhile_append_dropWhile] at hbody
      rw [ih (.inl (by simp)), hbody, Option.map_map]
      simp [Function.comp_def]
  | case4 taken letter rest _ ih =>
      cases hletter : escaped? letter with
      | none => simp [readStringBody, hletter]
      | some c =>
          have hbody := ih c (.inl (by simp))
          simp [readStringBody, hletter, hbody, Option.map_eq_bind, Option.bind_assoc]
  | case5 taken c rest hplain hbackslash htaken =>
      -- Only the start of the empty string gets here, which the hypothesis leaves out.
      obtain rfl := eq_quote_of_not_plain hplain hbackslash
      obtain rfl := List.isEmpty_iff.1 htaken
      exact absurd rfl (h.resolve_left (fun hne => hne rfl))
  | case6 taken c rest hplain hbackslash _ =>
      obtain rfl := eq_quote_of_not_plain hplain hbackslash
      simp [closeQuote, readStringBody]

theorem takePieces_quote (rest : List Char) : takePieces [] ('"' :: rest) = none := by
  unfold takePieces
  rfl

theorem closeQuote_of_not_quote {text cs : List Char} (h : cs.head? ≠ some '"') :
    closeQuote (text, cs) = none := by
  cases cs with
  | nil => rfl
  | cons c cs =>
      have hc : c ≠ '"' := fun hc => h (congrArg some hc)
      simp [closeQuote, hc]

/-- With nothing taken, a quote that closes the string can come next in the empty string only. -/
theorem closeQuote_fallBack (cs : List Char) :
    closeQuote ((takePieces [] cs).getD ([], cs)) = readStringBody cs := by
  by_cases hquote : cs.head? = some '"'
  · obtain ⟨rest, rfl⟩ := List.head?_eq_some_iff.1 hquote
    rw [takePieces_quote]
    rfl
  · have hfallBack : closeQuote ((takePieces [] cs).getD ([], cs)) =
        (takePieces [] cs).bind closeQuote := by
      cases takePieces [] cs with
      | none => exact closeQuote_of_not_quote hquote
      | some p => rfl
    rw [hfallBack, closeQuote_takePieces (.inr hquote)]
    simp

theorem readInPieces_eq_readString (cs : List Char) : readInPieces cs = readString cs := by
  cases cs with
  | nil => rfl
  | cons c cs =>
      by_cases hquote : c = '"'
      · subst hquote
        rw [readInPieces, closeQuote_fallBack, readString]
      · simp [readInPieces, readString, hquote]

/-! ### Symbols with and without quotes -/

theorem symbolEnds_of_dropWhile_eq {rest : List Char}
    (h : rest.dropWhile isSymbolChar = rest) : SymbolEnds rest := by
  intro c hc
  have hnot := List.head?_dropWhile_not isSymbolChar rest
  rwa [h, hc] at hnot

/-- The boundary is needed behind a bare name, and only there. -/
theorem readSymbol_writeSymbol_iff {name : String} {rest : List Char} :
    readSymbol (writeSymbol name ++ rest) = some (name, rest) ↔
      SymbolEnds rest ∨ isBareSymbol name.toList = false := by
  cases hbare : isBareSymbol name.toList with
  | false =>
      have hquoted := readSymbol_quoted name rest
      simpa [writeSymbol, hbare] using hquoted
  | true =>
      obtain ⟨hsome, hname, _⟩ := isBareSymbol_iff.1 hbare
      constructor
      · intro h
        rw [writeSymbol, if_pos hbare, List.cons_append, readSymbol_bare hsome hname] at h
        have hrest : rest.dropWhile isSymbolChar = rest := congrArg Prod.snd (Option.some.inj h)
        exact .inl (symbolEnds_of_dropWhile_eq hrest)
      · intro h
        exact readSymbol_writeSymbol name (h.resolve_right (by simp))

theorem Grammar.StringBody.length_lt {cs value rest : List Char} (h : StringBody cs value rest) :
    value.length + rest.length < cs.length := by
  induction h with
  | close rest => simp
  | plain _ _ _ ih | escape _ _ ih =>
      simp only [List.length_cons]
      omega

/-- Quotes make a text longer, so no text is its own written form. -/
theorem not_quoted_self (text : String) : ¬ Quoted text.toList text [] := by
  intro h
  generalize hcs : text.toList = cs at h
  cases h with
  | mk hbody =>
      have hlength := hbody.length_lt
      have hsame := congrArg List.length hcs
      rw [String.toList_ofList, List.length_cons] at hsame
      omega

theorem writeString_ne_self (text : String) : writeString text ≠ text.toList := by
  intro h
  have hquoted := readString_eq_some_iff.1 (readString_writeString text [])
  rw [List.append_nil, h] at hquoted
  exact not_quoted_self text hquoted

theorem writeSymbol_bare_iff {name : String} :
    writeSymbol name = ':' :: name.toList ↔ isBareSymbol name.toList = true := by
  rw [writeSymbol, List.cons.injEq]
  cases isBareSymbol name.toList with
  | true => simp
  | false => simp [writeString_ne_self]

/-- Without quotes a name is read as itself if it consists of characters of symbols. -/
theorem readSymbol_unquoted_iff {name : String} :
    readSymbol (':' :: name.toList) = some (name, []) ↔
      name.toList ≠ [] ∧ ∀ c ∈ name.toList, isSymbolChar c = true := by
  constructor
  · intro h
    have hsymbol := symbol_of_readSymbol h
    generalize hcs : ':' :: name.toList = cs at hsymbol
    cases hsymbol with
    | quoted hquoted =>
        cases hcs
        exact absurd hquoted (not_quoted_self name)
    | bare hsome hname _ => simpa using ⟨hsome, hname⟩
  · intro h
    have hread := readSymbol_bare h.1 h.2 []
    simpa using hread

/-- A text between quotes is read back whatever follows, and in pieces as at one go. A symbol is
read back if it ends where its written form ends or has been quoted, and in no other case; it is
quoted unless it is read as itself without quotes and begins with no digit. -/
theorem written_texts_read_back (text name : String) (rest : List Char) :
    readString (writeString text ++ rest) = some (text, rest) ∧
      (∀ cs, readInPieces cs = readString cs) ∧
      (readSymbol (writeSymbol name ++ rest) = some (name, rest) ↔
        SymbolEnds rest ∨ isBareSymbol name.toList = false) ∧
      (writeSymbol name = ':' :: name.toList ↔
        readSymbol (':' :: name.toList) = some (name, []) ∧
          ∀ c ∈ name.toList.head?, c.isDigit = false) := by
  refine ⟨readString_writeString text rest, readInPieces_eq_readString,
    readSymbol_writeSymbol_iff, ?_⟩
  rw [writeSymbol_bare_iff, isBareSymbol_iff, readSymbol_unquoted_iff, and_assoc]

example : readSymbol (writeSymbol "two words" ++ ['s']) = some ("two words", ['s']) ∧
    readSymbol (writeSymbol "word" ++ ['s']) = some ("words", []) := by
  decide

end Minispec.Notation
