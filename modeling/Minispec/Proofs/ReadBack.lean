import Minispec.Proofs.RecursiveDescent

/-!
What the trees that are read from texts have in common. The notation can express all of them,
except that a numeral may be too large for a floating point number: it is read as infinity, for
which there is no numeral. So a tree is read again from its notation exactly if the text that it
was read from has no such numeral.
-/

namespace Minispec

theorem Tree.wellFormed_of_leaf {t : Tree} (here : t.ExpressibleHere) (hleaf : t.children = []) :
    t.WellFormed := by
  rw [t.wellFormed_iff, hleaf]
  exact ⟨here, nofun⟩

theorem Tree.wellFormed_of_nesting_eq_zero {t : Tree} (h : t.nesting = 0) : t.WellFormed := by
  cases t with
  | empty | sym _ | int _ | text _ => exact wellFormed_of_leaf trivial rfl
  | _ => simp [nesting] at h

namespace Notation
open Grammar

/-! ### The numerals of a text -/

/-- The tokens of a text, up to the place where none can be read. -/
def tokens (cs : List Char) : List Token :=
  match _h : Token.read cs with
  | .error _ => []
  | .ok (token, rest) => token :: tokens rest
termination_by cs.length
decreasing_by exact Token.length_read _h

/-- No numeral of the text is too large for a floating point number. -/
def FiniteLiterals (cs : List Char) : Prop :=
  ∀ x, Token.atom (.float x) ∈ tokens cs → x.isFinite = true

section Tokens
variable {cs rest : List Char}

theorem tokens_unreadable (h : Token.read cs = .error rest) : tokens cs = [] := by
  rw [tokens]
  split
  · rfl
  · next hread =>
      rw [h] at hread
      cases hread

theorem tokens_read {token : Token} (h : Token.read cs = .ok (token, rest)) :
    tokens cs = token :: tokens rest := by
  rw [tokens]
  split
  · next hread =>
      rw [h] at hread
      cases hread
  · next hread =>
      rw [h] at hread
      cases hread
      rfl

theorem finiteLiterals_unreadable (h : Token.read cs = .error rest) : FiniteLiterals cs := by
  intro x hx
  rw [tokens_unreadable h] at hx
  cases hx

theorem finiteLiterals_float_iff {x : Binary64}
    (h : Token.read cs = .ok (.atom (.float x), rest)) :
    FiniteLiterals cs ↔ x.isFinite = true ∧ FiniteLiterals rest := by
  simp only [FiniteLiterals, tokens_read h, List.mem_cons, Token.atom.injEq, Item.float.injEq,
    forall_eq_or_imp]

/-- A token that is no floating point number makes no difference. -/
theorem finiteLiterals_other_iff {token : Token} (h : Token.read cs = .ok (token, rest))
    (hother : ∀ x, token ≠ .atom (.float x)) : FiniteLiterals cs ↔ FiniteLiterals rest := by
  simp only [FiniteLiterals, tokens_read h, List.mem_cons, (hother _).symm, false_or]

theorem finiteLiterals_blank_iff (cs : List Char) :
    FiniteLiterals (' ' :: cs) ↔ FiniteLiterals cs := by
  have hsame : tokens (' ' :: cs) = tokens cs := by rw [tokens, tokens, Token.read_blank]
  rw [FiniteLiterals, hsame, FiniteLiterals]

end Tokens

theorem lexeme_head {cs rest : List Char} {token : Token} (h : Lexeme cs token rest) :
    ∃ c tail, cs = c :: tail ∧ Text.isWhiteSpace c = false := by
  cases h with
  | opening _ _ | comma | close => exact ⟨_, _, rfl, by decide⟩
  | atom h =>
      have hnumber : ∀ c, c.isDigit = true ∨ c = '-' → Text.isWhiteSpace c = false := by
        have hspace : ∀ c, Text.isWhiteSpace c = true → c.isDigit = false ∧ c ≠ '-' :=
          Text.forall_isWhiteSpace (by decide +kernel)
        intro c hc
        by_contra hwhite
        obtain ⟨hdigit, hminus⟩ := hspace c (by simpa using hwhite)
        simp [hdigit, hminus] at hc
      cases h with
      | nil => exact ⟨_, _, rfl, by decide⟩
      | symbol h => cases h <;> exact ⟨_, _, rfl, by decide⟩
      | string h => cases h; exact ⟨_, _, rfl, by decide⟩
      | integer h _ _ | float h _ =>
          obtain ⟨c, tail, rfl, hc⟩ := Decimal.number_head h
          exact ⟨c, tail, rfl, hnumber c hc⟩

theorem finiteLiterals_whiteSpace {cs : List Char}
    (h : ∀ c ∈ cs, Text.isWhiteSpace c = true) : FiniteLiterals cs := by
  cases hread : Token.read cs with
  | error rest => exact finiteLiterals_unreadable hread
  | ok p =>
      obtain ⟨c, tail, hafter, hc⟩ := lexeme_head (lexeme_of_readFirst hread)
      have hmem : c ∈ Text.skipBlanks cs := by simp [hafter]
      have hwhite := h c ((List.dropWhile_sublist _).mem hmem)
      rw [hc] at hwhite
      cases hwhite

/-! ### Trees that are read -/

/-- The child can be written so that it is read back. -/
def Item.Expressible : Item → Prop
  | .tree t => t.WellFormed
  | .float x => x.isFinite = true

theorem wellFormed_getD_iff (o : Option Tree) :
    (o.getD .empty).WellFormed ↔ ∀ t ∈ o.toList, t.WellFormed := by
  cases o with
  | none => exact ⟨nofun, fun _ => Tree.wellFormed_of_leaf trivial rfl⟩
  | some t => simp

/-- The shape of a node takes care of all that can be lost in writing, except for the numbers. -/
theorem Grammar.Shape.wellFormed_iff {tag : String} {items : List Item} {t : Tree}
    (h : Shape tag items t) : t.WellFormed ↔ ∀ item ∈ items, item.Expressible := by
  have hsym (name : String) : (Tree.sym name).WellFormed := Tree.wellFormed_of_leaf trivial rfl
  have hint (value : Int64) : (Tree.int value).WellFormed := Tree.wellFormed_of_leaf trivial rfl
  have htext (text : String) : (Tree.text text).WellFormed := Tree.wellFormed_of_leaf trivial rfl
  rw [t.wellFormed_iff]
  cases h with
  | nil | selfRef | symbolLit _ | integerLit _ | floatLit _ | str _ | const _ | colon3 _
  | colon2 _ _ | iter _ _ _ | block _ | hash _ | array _ =>
      simp [Tree.ExpressibleHere, Tree.children, Item.Expressible, hsym, hint, htext]
  | call hsome method args =>
      simp [Tree.ExpressibleHere, Tree.children, Item.Expressible, hsym, hsome,
        wellFormed_getD_iff, or_imp, forall_and]
  | classDecl hsome name body =>
      simp [Tree.ExpressibleHere, Tree.children, Item.Expressible, hsome,
        wellFormed_getD_iff, or_imp, forall_and]
  | node htag children => simp [Tree.ExpressibleHere, Tree.children, Item.Expressible, htag]

theorem finiteLiterals_atom_iff {cs rest : List Char} {item : Item}
    (h : Token.read cs = .ok (.atom item, rest)) :
    FiniteLiterals cs ↔ item.Expressible ∧ FiniteLiterals rest := by
  cases item with
  | float x => exact finiteLiterals_float_iff h
  | tree t =>
      have hatom : t.nesting = 0 := nesting_of_atom (spaced_of_read h)
      have ht : t.WellFormed := Tree.wellFormed_of_nesting_eq_zero hatom
      rw [finiteLiterals_other_iff h nofun]
      exact ⟨fun hrest => ⟨ht, hrest⟩, And.right⟩

mutual

/-- A child has its share of the numerals, and the text behind it has the others. -/
theorem finiteLiterals_child_iff {cs rest : List Char} {item : Item} :
    Child cs item rest → LexemeEnds rest →
      (FiniteLiterals cs ↔ item.Expressible ∧ FiniteLiterals rest)
  | .atom h, hends => finiteLiterals_atom_iff (read_of_spaced h hends)
  | .node hopen hchildren hshape, _ => by
      have hread := read_of_spaced hopen (lexemeEnds_children hchildren)
      rw [finiteLiterals_other_iff hread nofun, finiteLiterals_children_iff hchildren,
        ← hshape.wellFormed_iff]
      rfl

theorem finiteLiterals_children_iff {cs rest : List Char} {items : List Item} :
    Children cs items rest →
      (FiniteLiterals cs ↔ (∀ item ∈ items, item.Expressible) ∧ FiniteLiterals rest)
  | .close h => by
      rw [finiteLiterals_other_iff (read_of_spaced h trivial) nofun]
      exact ⟨fun hrest => ⟨nofun, hrest⟩, And.right⟩
  | .more hcomma hchild hchildren => by
      have hread := read_of_spaced hcomma trivial
      rw [finiteLiterals_other_iff hread nofun,
        finiteLiterals_child_iff hchild (lexemeEnds_children hchildren),
        finiteLiterals_children_iff hchildren, List.forall_mem_cons, and_assoc]

end

theorem root_of_read {maxDepth : Nat} {source : String} {t : Tree}
    (h : read maxDepth source = .ok t) : Root source.toList t ∧ t.nesting ≤ maxDepth := by
  rwa [read_eq_readByDescent, readByDescent_ok_iff] at h

theorem wellFormed_iff_of_read {maxDepth : Nat} {source : String} {t : Tree}
    (h : read maxDepth source = .ok t) : t.WellFormed ↔ FiniteLiterals source.toList := by
  obtain ⟨⟨hchild, hblank⟩, _⟩ := root_of_read h
  rw [finiteLiterals_child_iff hchild (lexemeEnds_whiteSpace hblank)]
  exact ⟨fun ht => ⟨ht, finiteLiterals_whiteSpace hblank⟩, And.left⟩

/-! ### Texts that are written -/

/-- Put before the end of a child, the text adds no numeral that is too large. -/
def AddsFinite (text : List Char) : Prop :=
  ∀ rest, ItemEnds rest → FiniteLiterals rest → FiniteLiterals (text ++ rest)

theorem addsFinite_atom {text : List Char} {t : Tree}
    (h : ∀ rest, ItemEnds rest → Token.read (text ++ rest) = .ok (.atom (.tree t), rest)) :
    AddsFinite text := by
  intro rest hends hrest
  exact (finiteLiterals_other_iff (h rest hends) nofun).2 hrest

theorem addsFinite_nil : AddsFinite ['n', 'i', 'l'] :=
  addsFinite_atom fun rest _ => Token.read_nil rest

theorem addsFinite_symbol (name : String) : AddsFinite (writeSymbol name) :=
  addsFinite_atom fun _ hends => Token.read_symbol name hends

theorem addsFinite_string (text : String) : AddsFinite (writeString text) :=
  addsFinite_atom fun rest _ => Token.read_string text rest

theorem addsFinite_int (value : Int64) : AddsFinite (writeInt value) :=
  addsFinite_atom fun _ hends => Token.read_int value hends

/-- The text of a finite number is a numeral for it, and that of infinity is no numeral. -/
theorem addsFinite_float (x : Binary64) : AddsFinite (Decimal.Layout.general.text x) := by
  intro rest hends hrest
  by_cases hx : x.isFinite = true
  · exact (finiteLiterals_float_iff (Token.read_float hx hends)).2 ⟨hx, hrest⟩
  · -- With or without its sign, `inf` stops the reader at the first letter.
    have hunreadable : Token.read (Decimal.Layout.general.text x ++ rest) =
        .error ("inf".toList ++ rest) := by
      rw [Decimal.Layout.text, if_neg hx]
      cases x.negative <;> rfl
    exact finiteLiterals_unreadable hunreadable

theorem addsFinite_literal (value : Literal) : AddsFinite (writeLiteral value) := by
  cases value with
  | symbol name => exact addsFinite_symbol name
  | integer value => exact addsFinite_int value
  | float value => exact addsFinite_float value

theorem finiteLiterals_writeRest {texts : List (List Char)} (h : ∀ text ∈ texts, AddsFinite text)
    {rest : List Char} (hrest : FiniteLiterals rest) :
    FiniteLiterals (writeRest texts ++ rest) := by
  induction texts with
  | nil => exact (finiteLiterals_other_iff (Token.read_close rest) nofun).2 hrest
  | cons text texts ih =>
      obtain ⟨hfirst, hothers⟩ := List.forall_mem_cons.1 h
      have htext := hfirst _ (itemEnds_writeRest texts rest) (ih hothers)
      rw [← finiteLiterals_blank_iff, ← List.append_assoc] at htext
      exact (finiteLiterals_other_iff (Token.read_comma _) nofun).2 htext

theorem addsFinite_writeNode (tag : String) {texts : List (List Char)}
    (h : ∀ text ∈ texts, AddsFinite text) : AddsFinite (writeNode tag texts) := by
  intro rest _ hrest
  have hread := Token.read_opening tag (itemEnds_writeRest texts rest)
  rw [← List.append_assoc] at hread
  exact (finiteLiterals_other_iff hread nofun).2 (finiteLiterals_writeRest h hrest)

theorem addsFinite_all {ts : List Tree} (h : ∀ t ∈ ts, AddsFinite (write t)) :
    ∀ text ∈ writeAll ts, AddsFinite text := by
  induction ts with
  | nil => exact nofun
  | cons t ts ih =>
      obtain ⟨hfirst, hothers⟩ := List.forall_mem_cons.1 h
      exact List.forall_mem_cons.2 ⟨hfirst, ih hothers⟩

theorem addsFinite_option {o : Option Tree} (h : ∀ t ∈ o.toList, AddsFinite (write t)) :
    AddsFinite (writeOption o) := by
  cases o with
  | none => exact addsFinite_nil
  | some t => exact h t List.mem_cons_self

theorem addsFinite_body {o : Option Tree} (h : ∀ t ∈ o.toList, AddsFinite (write t)) :
    ∀ text ∈ writeBody o, AddsFinite text := by
  cases o with
  | none => exact nofun
  | some t => exact List.forall_mem_singleton.2 (h t List.mem_cons_self)

theorem addsFinite_write (t : Tree) : AddsFinite (write t) := by
  induction t using Tree.induction_below with
  | step t ih =>
      cases t with
      | empty => exact addsFinite_nil
      | sym name => exact addsFinite_symbol name
      | int value => exact addsFinite_int value
      | text value => exact addsFinite_string value
      | nil | selfRef => exact addsFinite_writeNode _ nofun
      | lit value =>
          exact addsFinite_writeNode _ (List.forall_mem_singleton.2 (addsFinite_literal value))
      | str value =>
          exact addsFinite_writeNode _ (List.forall_mem_singleton.2 (addsFinite_string value))
      | const name | colon3 name =>
          exact addsFinite_writeNode _ (List.forall_mem_singleton.2 (addsFinite_symbol name))
      | colon2 scope name =>
          refine addsFinite_writeNode _ (List.forall_mem_cons.2 ⟨?_, ?_⟩)
          · exact ih scope List.mem_cons_self
          · exact List.forall_mem_singleton.2 (addsFinite_symbol name)
      | call receiver method args =>
          obtain ⟨hreceiver, hargs⟩ := List.forall_mem_append.1 ih
          refine addsFinite_writeNode _ (List.forall_mem_cons.2 ⟨addsFinite_option hreceiver, ?_⟩)
          exact List.forall_mem_cons.2 ⟨addsFinite_symbol method, addsFinite_all hargs⟩
      | iter head params body =>
          obtain ⟨hhead, ih⟩ := List.forall_mem_cons.1 ih
          obtain ⟨hparams, hbody⟩ := List.forall_mem_cons.1 ih
          refine addsFinite_writeNode _ (List.forall_mem_cons.2 ⟨hhead, ?_⟩)
          exact List.forall_mem_cons.2 ⟨hparams, addsFinite_body hbody⟩
      | classDecl name parent body =>
          obtain ⟨hname, ih⟩ := List.forall_mem_cons.1 ih
          obtain ⟨hparent, hbody⟩ := List.forall_mem_append.1 ih
          refine addsFinite_writeNode _ (List.forall_mem_cons.2 ⟨hname, ?_⟩)
          exact List.forall_mem_cons.2 ⟨addsFinite_option hparent, addsFinite_all hbody⟩
      | block ts | hash ts | array ts | node _ ts =>
          exact addsFinite_writeNode _ (addsFinite_all ih)

theorem finiteLiterals_written (t : Tree) : FiniteLiterals t.written.toList := by
  have hend : FiniteLiterals [] := finiteLiterals_whiteSpace nofun
  rw [Tree.written, String.toList_ofList, ← List.append_nil (write t)]
  exact addsFinite_write t [] itemEnds_nil hend

/-! ### Reading again -/

theorem wellFormed_of_read_written {maxDepth : Nat} {t : Tree}
    (h : read maxDepth t.written = .ok t) : t.WellFormed :=
  (wellFormed_iff_of_read h).2 (finiteLiterals_written t)

/-- A tree that was read is read again from its notation, unless a numeral of the text was too
large for a floating point number. -/
theorem read_again_iff_finite {maxDepth : Nat} {source : String} {t : Tree}
    (h : read maxDepth source = .ok t) :
    read maxDepth t.written = .ok t ↔ FiniteLiterals source.toList := by
  rw [← wellFormed_iff_of_read h]
  constructor
  · exact wellFormed_of_read_written
  · intro hformed
    exact read_of_reads (reads_write hformed (root_of_read h).2)

/-- Blanks where writing has none, and a numeral in another form. -/
theorem read_again_loose_text :
    let t := Tree.lit (.float (.ofNat 100))
    read 1 "s( :lit ,\t1E2)\n" = .ok t ∧ read 1 t.written = .ok t := by
  intro t
  have hread : read 1 "s( :lit ,\t1E2)\n" = .ok t :=
    calc read 1 "s( :lit ,\t1E2)\n"
      _ = run 1 ⟨[⟨"lit", []⟩], false, 0⟩ " ,\t1E2)\n".toList := run_more rfl rfl
      _ = run 1 ⟨[⟨"lit", []⟩], true, 0⟩ "\t1E2)\n".toList := run_more rfl rfl
      _ = run 1 ⟨[⟨"lit", [.float (.ofNat 100)]⟩], false, 0⟩ ")\n".toList := run_more rfl rfl
      _ = resume 1 (.root (.tree t)) ['\n'] := run_token rfl rfl
      _ = .ok t := rfl
  have hfinite : (Binary64.ofNat 100).isFinite = true := by decide +kernel
  have hformed : t.WellFormed := Tree.wellFormed_of_leaf hfinite rfl
  exact ⟨hread, (read_again_iff_finite hread).2 ((wellFormed_iff_of_read hread).1 hformed)⟩

/-- A numeral that is too large is accepted, but what is written for it is no numeral. -/
theorem read_again_refuses_infinity :
    ∃ t, read 1 "s(:lit, 1e999)" = .ok t ∧ read 1 t.written ≠ .ok t := by
  have hread : read 1 "s(:lit, 1e999)" = .ok (.lit (.float (.infinity false))) :=
    calc read 1 "s(:lit, 1e999)"
      _ = run 1 ⟨[⟨"lit", []⟩], false, 0⟩ ", 1e999)".toList := run_more rfl rfl
      _ = run 1 ⟨[⟨"lit", []⟩], true, 0⟩ " 1e999)".toList := run_more rfl rfl
      _ = run 1 ⟨[⟨"lit", [.float (.infinity false)]⟩], false, 0⟩ ")".toList :=
        run_more rfl rfl
      _ = resume 1 (.root (.tree (.lit (.float (.infinity false))))) [] := run_token rfl rfl
      _ = .ok (.lit (.float (.infinity false))) := rfl
  refine ⟨_, hread, ?_⟩
  intro hagain
  obtain ⟨hfinite, _⟩ := (Tree.wellFormed_iff _).1 (wellFormed_of_read_written hagain)
  cases hfinite

end Notation
end Minispec
