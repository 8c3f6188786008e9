import Minispec.Proofs.ReadBack

/-!
How reading fails. A text of the grammar needs as much depth as its tree is nested, neither more
nor less. A node ends with its closing parenthesis whatever stands behind it, so its text is not
the beginning of another one; and a text that is nested too deep stays so however it goes on. What
has been cut off or has something added is therefore refused for its notation, and not for its
depth.
-/

namespace Minispec.Notation
open Grammar

/-! ### The depth that a text needs -/

section Depth
variable {maxDepth : Nat}

theorem descend_full {cs rest : List Char} {tag : String}
    (h : Token.read cs = .ok (.opening tag, rest)) :
    descend maxDepth 0 cs = .error (.nestingTooDeep maxDepth) := by
  rw [descend]
  split <;> rename_i hread <;> rw [h] at hread <;> cases hread
  next hopening _ => exact absurd rfl (hopening tag)

mutual

/-- The first node that does not fit is reported: all that stands before it can be read. -/
theorem descend_tooDeep {room : Nat} {cs rest : List Char} {item : Item}
    (h : Child cs item rest) (hroom : room < item.nesting) :
    descend maxDepth room cs = .error (.nestingTooDeep maxDepth) := by
  cases h with
  | atom h =>
      rw [nesting_of_atom h] at hroom
      exact absurd hroom (Nat.not_lt_zero room)
  | node hopen hchildren hshape =>
      have hread := read_of_spaced hopen (lexemeEnds_children hchildren)
      rw [Item.nesting, hshape.nesting_eq] at hroom
      cases room with
      | zero => exact descend_full hread
      | succ room =>
          rw [descend_opening hread, descendChildren_tooDeep hchildren (by omega)]
          rfl

theorem descendChildren_tooDeep {room : Nat} {cs rest : List Char} {items : List Item}
    (h : Children cs items rest) (hroom : room < itemsNesting items) :
    descendChildren maxDepth room cs = .error (.nestingTooDeep maxDepth) := by
  cases h with
  | close _ => exact absurd hroom (Nat.not_lt_zero room)
  | @more _ _ _ _ item items hcomma hchild hchildren =>
      rw [descendChildren_comma (read_of_spaced hcomma trivial)]
      by_cases hfirst : room < item.nesting
      · rw [descend_tooDeep hchild hfirst]
        rfl
      · have hothers : room < itemsNesting items := by
          rw [itemsNesting] at hroom
          omega
        obtain ⟨_, hread⟩ := descend_of_child hchild (Nat.le_of_not_lt hfirst)
          (lexemeEnds_children hchildren)
        rw [hread]
        change descendChildren maxDepth room _ >>= _ = _
        rw [descendChildren_tooDeep hchildren hothers]
        rfl

end

/-- Read with any bound at all, a text tells for which bounds it is read: those that its tree
keeps. Any other bound is reported as exceeded. -/
theorem read_eq_of_read {bound : Nat} {source : String} {t : Tree}
    (h : read bound source = .ok t) (maxDepth : Nat) :
    read maxDepth source =
      if t.nesting ≤ maxDepth then .ok t else .error (.nestingTooDeep maxDepth) := by
  obtain ⟨hroot, _⟩ := root_of_read h
  rw [read_eq_readByDescent]
  split
  · next hdepth => exact readByDescent_ok_iff.2 ⟨hroot, hdepth⟩
  · next hdepth =>
      obtain ⟨hchild, _⟩ := hroot
      rw [readByDescent, descend_tooDeep hchild (Nat.lt_of_not_le hdepth)]
      rfl

theorem read_eq_of_read_nestedArray :
    read 2 "s(:array, s(:const, :A))" = .ok (.array [.const "A"]) ∧
      read 1 "s(:array, s(:const, :A))" = .error (.nestingTooDeep 1) := by
  have hread : read 2 "s(:array, s(:const, :A))" = .ok (.array [.const "A"]) :=
    calc read 2 "s(:array, s(:const, :A))"
      _ = run 2 ⟨[⟨"array", []⟩], false, 1⟩ ", s(:const, :A))".toList := run_more rfl rfl
      _ = run 2 ⟨[⟨"array", []⟩], true, 1⟩ " s(:const, :A))".toList := run_more rfl rfl
      _ = run 2 ⟨[⟨"const", []⟩, ⟨"array", []⟩], false, 0⟩ ", :A))".toList := run_more rfl rfl
      _ = run 2 ⟨[⟨"const", []⟩, ⟨"array", []⟩], true, 0⟩ " :A))".toList := run_more rfl rfl
      _ = run 2 ⟨[⟨"const", [.tree (.sym "A")]⟩, ⟨"array", []⟩], false, 0⟩ "))".toList :=
        run_more rfl rfl
      _ = run 2 ⟨[⟨"array", [.tree (.const "A")]⟩], false, 1⟩ ")".toList := run_more rfl rfl
      _ = resume 2 (.root (.tree (.array [.const "A"]))) [] := run_token rfl rfl
      _ = .ok (.array [.const "A"]) := rfl
  exact ⟨hread, read_eq_of_read hread 1⟩

end Depth

/-! ### What a text is cut into does not depend on its end -/

/-- The relation takes off a text that it takes off in front of any other end as well. -/
def TakesOff (rel : List Char → List Char → Prop) (cs rest : List Char) : Prop :=
  ∃ text, cs = text ++ rest ∧ ∀ other, rel (text ++ other) other

section TakesOff
variable {rel rel' : List Char → List Char → Prop} {cs mid rest : List Char}

theorem TakesOff.append (h : TakesOff rel cs rest) (more : List Char) :
    rel (cs ++ more) (rest ++ more) := by
  obtain ⟨text, rfl, htext⟩ := h
  rw [List.append_assoc]
  exact htext _

theorem TakesOff.behind (front : List Char) (h : TakesOff rel cs rest)
    (hrel : ∀ {cs rest}, rel cs rest → rel' (front ++ cs) rest) :
    TakesOff rel' (front ++ cs) rest := by
  obtain ⟨text, rfl, htext⟩ := h
  refine ⟨front ++ text, (List.append_assoc ..).symm, ?_⟩
  intro other
  rw [List.append_assoc]
  exact hrel (htext other)

theorem TakesOff.imp (h : TakesOff rel cs rest)
    (hrel : ∀ {cs rest}, rel cs rest → rel' cs rest) : TakesOff rel' cs rest :=
  h.behind [] hrel

theorem TakesOff.comp (h : TakesOff rel cs mid) (h' : TakesOff rel' mid rest) :
    TakesOff (Relation.Comp rel rel') cs rest := by
  obtain ⟨text, rfl, htext⟩ := h
  exact h'.behind text fun hrest => ⟨_, htext _, hrest⟩

end TakesOff

namespace Grammar

section Lexemes
variable {cs rest : List Char}

theorem StringBody.takesOff {value : List Char} (h : StringBody cs value rest) :
    TakesOff (StringBody · value ·) cs rest := by
  induction h with
  | close rest => exact ⟨['"'], rfl, .close⟩
  | plain hquote hbackslash _ ih => exact ih.behind [_] (.plain hquote hbackslash)
  | escape hc _ ih => exact ih.behind ['\\', _] (.escape hc)

theorem Quoted.takesOff {text : String} (h : Quoted cs text rest) :
    TakesOff (Quoted · text ·) cs rest := by
  obtain ⟨hbody⟩ := h
  exact hbody.takesOff.behind ['"'] .mk

theorem Symbol.takesOff {name : String} (h : Symbol cs name rest) :
    TakesOff (Symbol · name ·) cs rest := by
  cases h with
  | quoted h => exact h.takesOff.behind [':'] .quoted
  | @bare name hsome hname => exact ⟨':' :: name, rfl, .bare hsome hname⟩

theorem Fraction.takesOff {digits : List Char} (h : Fraction cs digits rest) :
    TakesOff (Fraction · digits ·) cs rest := by
  cases h with
  | absent => exact ⟨[], rfl, .absent⟩
  | present h => exact ⟨'.' :: digits, rfl, .present h⟩

theorem Exponent.takesOff {exponent : Option Decimal.Exponent} (h : Exponent cs exponent rest) :
    TakesOff (Exponent · exponent ·) cs rest := by
  cases h with
  | absent => exact ⟨[], rfl, .absent⟩
  | @present letter digits hletter sign h =>
      have hdigits : TakesOff (fun cs rest => cs = digits ++ rest) (digits ++ rest) rest :=
        ⟨digits, rfl, fun _ => rfl⟩
      refine hdigits.behind (letter :: sign.toList.map Decimal.Sign.mark) ?_
      rintro _ rest rfl
      exact .present hletter sign h rest

theorem Unsigned.takesOff {negative : Bool} {n : Decimal.Numeral}
    (h : Unsigned negative cs n rest) : TakesOff (Unsigned negative · n ·) cs rest := by
  obtain @⟨whole, _, _, _, _, _, hwhole, hfraction, hexponent⟩ := h
  refine (hfraction.takesOff.comp hexponent.takesOff).behind whole ?_
  rintro _ _ ⟨_, hfraction, hexponent⟩
  exact .mk hwhole hfraction hexponent

theorem Number.takesOff {n : Decimal.Numeral} (h : Number cs n rest) :
    TakesOff (Number · n ·) cs rest := by
  cases h with
  | positive h => exact h.takesOff.imp .positive
  | negative h => exact h.takesOff.behind ['-'] .negative

theorem Atom.takesOff {item : Item} (h : Atom cs item rest) :
    TakesOff (Atom · item ·) cs rest := by
  cases h with
  | nil => exact ⟨['n', 'i', 'l'], rfl, .nil⟩
  | symbol h => exact h.takesOff.imp .symbol
  | string h => exact h.takesOff.imp .string
  | integer h hwhole hvalue => exact h.takesOff.imp fun h => .integer h hwhole hvalue
  | float h hwhole => exact h.takesOff.imp fun h => .float h hwhole

theorem Blanks.takesOff (h : Blanks cs rest) : TakesOff Blanks cs rest := by
  induction h with
  | none => exact ⟨[], rfl, .none⟩
  | more hc _ ih => exact ih.behind [_] (.more hc)

theorem Lexeme.takesOff {token : Token} (h : Lexeme cs token rest) :
    TakesOff (Lexeme · token ·) cs rest := by
  cases h with
  | opening hblanks h =>
      refine (hblanks.takesOff.comp h.takesOff).behind ['s', '('] ?_
      rintro _ _ ⟨_, hblanks, h⟩
      exact .opening hblanks h
  | comma => exact ⟨[','], rfl, .comma⟩
  | close => exact ⟨[')'], rfl, .close⟩
  | atom h => exact h.takesOff.imp .atom

theorem Spaced.takesOff {token : Token} (h : Spaced cs token rest) :
    TakesOff (Spaced · token ·) cs rest := by
  obtain ⟨hblanks, h⟩ := h
  refine (hblanks.takesOff.comp h.takesOff).imp ?_
  rintro _ _ ⟨_, hblanks, h⟩
  exact .mk hblanks h

end Lexemes

mutual

theorem Child.takesOff {cs rest : List Char} {item : Item} :
    Child cs item rest → TakesOff (Child · item ·) cs rest
  | .atom h => h.takesOff.imp .atom
  | .node hopen hchildren hshape => by
      refine (hopen.takesOff.comp hchildren.takesOff).imp ?_
      rintro _ _ ⟨_, hopen, hchildren⟩
      exact .node hopen hchildren hshape

theorem Children.takesOff {cs rest : List Char} {items : List Item} :
    Children cs items rest → TakesOff (Children · items ·) cs rest
  | .close h => h.takesOff.imp .close
  | .more hcomma hchild hchildren => by
      refine (hcomma.takesOff.comp (hchild.takesOff.comp hchildren.takesOff)).imp ?_
      rintro _ _ ⟨_, hcomma, _, hchild, hchildren⟩
      exact .more hcomma hchild hchildren

end

theorem Children.closes {cs rest : List Char} {items : List Item} :
    Children cs items rest → ∃ body, cs = body ++ ')' :: rest
  | .close h => by
      obtain ⟨hblanks, h⟩ := h
      cases h
      obtain ⟨body, hbody, _⟩ := hblanks.takesOff
      exact ⟨body, hbody⟩
  | .more hcomma hchild hchildren => by
      obtain ⟨comma, rfl, _⟩ := hcomma.takesOff
      obtain ⟨child, rfl, _⟩ := hchild.takesOff
      obtain ⟨body, rfl⟩ := hchildren.closes
      exact ⟨comma ++ (child ++ body), by simp⟩

/-- What is no atom is written as a node. -/
theorem Child.opens {cs rest : List Char} {t : Tree} (h : Child cs (.tree t) rest)
    (hnode : 0 < t.nesting) :
    ∃ tag after items, Spaced cs (.opening tag) after ∧ Children after items rest ∧
      Shape tag items t := by
  cases h with
  | atom h => exact absurd (nesting_of_atom h) (Nat.ne_of_gt hnode)
  | node hopen hchildren hshape => exact ⟨_, _, _, hopen, hchildren, hshape⟩

/-- A node has its own text, which ends with its closing parenthesis. -/
theorem Child.closes {cs rest : List Char} {t : Tree} (h : Child cs (.tree t) rest)
    (hnode : 0 < t.nesting) :
    ∃ body, cs = body ++ ')' :: rest ∧ Child (body ++ [')']) (.tree t) [] := by
  obtain ⟨text, htext, halone⟩ := h.takesOff
  obtain ⟨tag, after, items, hopen, hchildren, _⟩ := h.opens hnode
  obtain ⟨front, rfl, _⟩ := hopen.takesOff
  obtain ⟨inside, rfl⟩ := hchildren.closes
  have hsame : text = front ++ inside ++ [')'] := by
    apply List.append_cancel_right
    rw [← htext]
    simp
  refine ⟨front ++ inside, (List.append_assoc ..).symm, ?_⟩
  have hown := halone []
  rwa [hsame, List.append_nil] at hown

theorem Lexeme.skipBlanks_eq {cs rest : List Char} {token : Token} (h : Lexeme cs token rest) :
    Text.skipBlanks cs = cs := by
  obtain ⟨c, tail, rfl, hc⟩ := lexeme_head h
  have hblank : ¬ Text.isBlank c = true := by
    intro hblank
    rw [Text.isWhiteSpace_of_isBlank hblank] at hc
    cases hc
  exact List.dropWhile_cons_of_neg hblank

/-- The first letter of a text decides whether it is a node. -/
theorem Spaced.not_atom_of_opening {cs after rest : List Char} {tag : String} {item : Item}
    (hopen : Spaced cs (.opening tag) after) : ¬ Spaced cs (.atom item) rest := by
  intro hatom
  obtain ⟨hblanks, hopen⟩ := hopen
  obtain ⟨hblanks', hatom⟩ := hatom
  have hstart := (skipBlanks_of_blanks hblanks).symm.trans (skipBlanks_of_blanks hblanks')
  rw [hopen.skipBlanks_eq, hatom.skipBlanks_eq] at hstart
  subst hstart
  cases hopen
  cases hatom with
  | atom h =>
      cases h with
      | symbol h => cases h
      | string h => cases h
      | integer h _ _ | float h _ =>
          obtain ⟨c, tail, heq, hc⟩ := Decimal.number_head h
          cases heq
          exact absurd hc (by decide)

end Grammar

/-! ### Texts that go on -/

section Longer
variable {maxDepth : Nat}

theorem finish_error {item : Item} {rest : List Char} {e : Error}
    (h : finish item rest = .error e) : ∃ fault, e = .malformedNotation fault := by
  rw [finish] at h
  split at h
  · cases item with
    | tree t => cases h
    | float x =>
        cases h
        exact ⟨_, rfl⟩
  · cases h
    exact ⟨_, rfl⟩

/-- A node is read before anything behind it is looked at. -/
theorem read_of_node {source : String} {t : Tree} {rest : List Char}
    (h : Child source.toList (.tree t) rest) (hnode : 0 < t.nesting)
    (hdepth : t.nesting ≤ maxDepth) : read maxDepth source = finish (.tree t) rest := by
  obtain ⟨tag, after, items, hopen, hchildren, hshape⟩ := h.opens hnode
  have hread := read_of_spaced hopen (lexemeEnds_children hchildren)
  rw [hshape.nesting_eq] at hdepth
  obtain ⟨room, rfl⟩ : ∃ inner, maxDepth = inner + 1 := ⟨maxDepth - 1, by omega⟩
  obtain ⟨_, hinside⟩ :=
    descendChildren_of_children hchildren (by omega : itemsNesting items ≤ room)
  rw [read_eq_readByDescent, readByDescent, descend_opening hread, hinside]
  change ((build tag items).mapError _ >>= _) >>= _ = _
  rw [build_of_shape hshape]
  rfl

/-- What is put behind a text with a node is left over when the node has been read. -/
theorem read_append_node {source : String} {t : Tree} (h : read maxDepth source = .ok t)
    (hnode : 0 < t.nesting) (more : String) :
    ∃ white, read maxDepth (source ++ more) = finish (.tree t) (white ++ more.toList) := by
  obtain ⟨⟨hchild, _⟩, hdepth⟩ := root_of_read h
  have hlonger := hchild.takesOff.append more.toList
  rw [← String.toList_append] at hlonger
  exact ⟨_, read_of_node hlonger hnode hdepth⟩

/-- A symbol may be longer than the grammar takes it to be, but some symbol is read. -/
theorem readSymbol_of_begins {cs rest : List Char} {name : String} (h : Symbol cs name rest) :
    ∃ found, readSymbol cs = some found := by
  cases h with
  | quoted h =>
      rw [readSymbol, readString_eq_some_iff.2 h]
      exact ⟨_, rfl⟩
  | bare hsome hname rest => exact ⟨_, readSymbol_bare hsome hname rest⟩

theorem read_of_opening {cs rest : List Char} {tag : String} (h : Spaced cs (.opening tag) rest) :
    ∃ tag' rest', Token.read cs = .ok (.opening tag', rest') := by
  obtain ⟨hblanks, h⟩ := h
  rw [Token.read, skipBlanks_of_blanks hblanks, h.skipBlanks_eq]
  cases h with
  | @opening cs after _ tag hspace hsymbol =>
      have hafter : Text.skipBlanks after = after := by cases hsymbol <;> rfl
      obtain ⟨⟨tag', rest'⟩, hfound⟩ := readSymbol_of_begins hsymbol
      have hopening : readOpening ('s' :: '(' :: cs) = some (tag', rest') := by
        rw [readOpening, skipBlanks_of_blanks hspace, hafter, hfound]
      exact ⟨tag', rest', by simp only [Token.readFirst, hopening]⟩

/-- Only at a comma can the children of a node go on to one that is nested too deep. -/
theorem lexemeEnds_of_tooDeep {room depth : Nat} {cs : List Char}
    (h : descendChildren maxDepth room cs = .error (.nestingTooDeep depth)) (more : List Char) :
    LexemeEnds (cs ++ more) := by
  rw [descendChildren] at h
  split at h
  · cases h
  · next rest hread =>
      obtain ⟨hblanks, hcomma⟩ := (spaced_of_read hread).takesOff.append more
      cases hcomma
      exact lexemeEnds_blanks hblanks (by simp [LexemeEnds])
  · cases h
  · cases h

mutual

/-- A node that is opened too deep is noticed at once, whatever stands behind it. -/
theorem descend_append_tooDeep {room depth : Nat} {cs : List Char}
    (h : descend maxDepth room cs = .error (.nestingTooDeep depth)) (more : List Char) :
    descend maxDepth room (cs ++ more) = .error (.nestingTooDeep depth) := by
  rw [descend] at h
  split at h
  · cases h
  · next tag rest hread =>
      have hopen := (spaced_of_read hread).takesOff.append more
      cases room with
      | zero =>
          -- The tag may be longer in the whole text, but a node is opened there as well.
          cases h
          obtain ⟨_, _, hread'⟩ := read_of_opening hopen
          exact descend_full hread'
      | succ room =>
          obtain hinside | ⟨children, _, h⟩ := bind_error h
          · have hread' := read_of_spaced hopen (lexemeEnds_of_tooDeep hinside more)
            rw [descend_opening hread', descendChildren_append_tooDeep hinside more]
            rfl
          · cases hbuild : build tag children.value <;> rw [hbuild] at h <;> cases h
  · cases h
  · cases h
termination_by cs.length
decreasing_by exact Token.length_read ‹_›

theorem descendChildren_append_tooDeep {room depth : Nat} {cs : List Char}
    (h : descendChildren maxDepth room cs = .error (.nestingTooDeep depth))
    (more : List Char) :
    descendChildren maxDepth room (cs ++ more) = .error (.nestingTooDeep depth) := by
  rw [descendChildren] at h
  split at h
  · cases h
  · next rest hread =>
      have hcomma := (spaced_of_read hread).takesOff.append more
      rw [descendChildren_comma (read_of_spaced hcomma trivial)]
      obtain hfirst | ⟨child, hfirst, h⟩ := bind_error h
      · rw [descend_append_tooDeep hfirst more]
        rfl
      · -- The child was read whole, since it ends at the comma before the next one.
        obtain hothers | ⟨_, _, ⟨⟩⟩ := bind_error h
        obtain ⟨hchild, hroom⟩ := child_of_descend hfirst
        obtain ⟨_, hfirst'⟩ := descend_of_child (hchild.takesOff.append more) hroom
          (lexemeEnds_of_tooDeep hothers more)
        rw [hfirst']
        change descendChildren maxDepth room (child.rest ++ more) >>= _ = _
        rw [descendChildren_append_tooDeep hothers more]
        rfl
  · cases h
  · cases h
termination_by cs.length
decreasing_by
  · exact Token.length_read ‹_›
  · exact child.shorter.trans (Token.length_read ‹_›)

end

theorem read_append_tooDeep {source : String} {depth : Nat}
    (h : read maxDepth source = .error (.nestingTooDeep depth)) (more : String) :
    read maxDepth (source ++ more) = .error (.nestingTooDeep depth) := by
  rw [read_eq_readByDescent, readByDescent] at h ⊢
  obtain hroot | ⟨root, _, h⟩ := bind_error h
  · rw [String.toList_append, descend_append_tooDeep hroot more.toList]
    rfl
  · obtain ⟨_, ⟨⟩⟩ := finish_error h

end Longer

/-! ### Texts that are cut off -/

section Cut
variable {maxDepth : Nat}

theorem State.step_error {s : State} {token : Token} {e : Error}
    (h : s.step maxDepth token = .error e) :
    e = .nestingTooDeep maxDepth ∨ ∃ fault, e = .malformedNotation fault := by
  unfold State.step at h
  split at h
  · split at h <;> cases h
    exact .inl rfl
  · cases h
  · split at h <;> cases h
    exact .inr ⟨_, rfl⟩
  · split at h
    · cases h
      exact .inr ⟨_, rfl⟩
    · split at h <;> cases h
      exact .inr ⟨_, rfl⟩
  · cases h
    exact .inr ⟨_, rfl⟩

theorem run_error {s : State} {cs : List Char} {e : Error} (h : run maxDepth s cs = .error e) :
    e = .nestingTooDeep maxDepth ∨ ∃ fault, e = .malformedNotation fault := by
  fun_induction run maxDepth s cs with
  | case1 s cs rest hread =>
      cases h
      exact .inr ⟨_, rfl⟩
  | case2 s cs token rest hread e' hstep =>
      cases h
      exact State.step_error hstep
  | case3 s cs token rest hread next hstep ih => exact ih h
  | case4 s cs token rest hread item hstep => exact .inr (finish_error h)

/-- A text that lacks more than white space is refused for its notation: an atom does not begin a
node, and what is nested too deep is so in the whole text. -/
theorem read_cut {cut more : String} {t : Tree} (h : read maxDepth (cut ++ more) = .ok t)
    (hnode : 0 < t.nesting) (hmore : ¬ ∀ c ∈ more.toList, Text.isWhiteSpace c = true) :
    ∃ fault, read maxDepth cut = .error (.malformedNotation fault) := by
  cases hcut : read maxDepth cut with
  | ok u =>
      exfalso
      by_cases hu : 0 < u.nesting
      · obtain ⟨white, hread⟩ := read_append_node hcut hu more
        rw [h] at hread
        obtain ⟨_, hwhite⟩ := finish_ok_iff.1 hread.symm
        exact hmore fun c hc => hwhite c (List.mem_append_right white hc)
      · obtain ⟨⟨hchild, _⟩, _⟩ := root_of_read h
        obtain ⟨_, _, _, hopen, _, _⟩ := hchild.opens hnode
        obtain ⟨⟨hbegin, _⟩, _⟩ := root_of_read hcut
        cases hbegin with
        | atom hatom =>
            have hlonger := hatom.takesOff.append more.toList
            rw [← String.toList_append] at hlonger
            exact hopen.not_atom_of_opening hlonger
        | node _ _ hshape =>
            rw [hshape.nesting_eq] at hu
            omega
  | error e =>
      obtain rfl | ⟨fault, rfl⟩ := run_error hcut
      · rw [read_append_tooDeep hcut more] at h
        cases h
      · exact ⟨fault, rfl⟩

theorem read_overlong {source more : String} {t : Tree} (h : read maxDepth source = .ok t)
    (hnode : 0 < t.nesting) (hmore : ¬ ∀ c ∈ more.toList, Text.isWhiteSpace c = true) :
    ∃ fault, read maxDepth (source ++ more) = .error (.malformedNotation fault) := by
  obtain ⟨white, hread⟩ := read_append_node h hnode more
  rw [hread]
  cases hfinish : finish (.tree t) (white ++ more.toList) with
  | ok u =>
      obtain ⟨_, hwhite⟩ := finish_ok_iff.1 hfinish
      exact absurd (fun c hc => hwhite c (List.mem_append_right white hc)) hmore
  | error e =>
      obtain ⟨fault, rfl⟩ := finish_error hfinish
      exact ⟨fault, rfl⟩

/-- A text with a node as its root is read for the part of it that ends with the closing
parenthesis of the root. No beginning of that part is a text, and white space is all that may
stand behind it. -/
theorem read_up_to_close {source : String} {t : Tree} (h : read maxDepth source = .ok t)
    (hnode : 0 < t.nesting) :
    ∃ body white : List Char, source.toList = body ++ ')' :: white ∧
      (∀ c ∈ white, Text.isWhiteSpace c = true) ∧ Child (body ++ [')']) (.tree t) [] ∧
      (∀ cut : String, cut.toList <+: body →
        ∃ fault, read maxDepth cut = .error (.malformedNotation fault)) ∧
      ∀ more : String, (¬ ∀ c ∈ more.toList, Text.isWhiteSpace c = true) →
        ∃ fault, read maxDepth (source ++ more) = .error (.malformedNotation fault) := by
  obtain ⟨@⟨white, _, hchild, hwhite⟩, _⟩ := root_of_read h
  obtain ⟨body, hbody, hown⟩ := hchild.closes hnode
  refine ⟨body, white, hbody, hwhite, hown, ?_, fun more => read_overlong h hnode⟩
  intro cut hcut
  obtain ⟨missing, rfl⟩ := hcut
  have hsource : source = cut ++ String.ofList (missing ++ ')' :: white) := by
    apply String.ext
    rw [hbody]
    simp
  rw [hsource] at h
  refine read_cut h hnode ?_
  intro hall
  exact absurd (hall ')' (by simp)) (by decide)

/-- The cut falls into an exponent, of which a shorter numeral is left over. -/
theorem read_up_to_close_exponent :
    (∃ t, read 1 "s(:lit, 1E2)\n" = .ok t ∧ 0 < t.nesting) ∧
      (∃ fault, read 1 "s(:lit, 1E" = .error (.malformedNotation fault)) ∧
      ∃ fault, read 1 ("s(:lit, 1E2)\n" ++ ")") = .error (.malformedNotation fault) := by
  have hread : read 1 "s(:lit, 1E2)\n" = .ok (.lit (.float (.ofNat 100))) :=
    calc read 1 "s(:lit, 1E2)\n"
      _ = run 1 ⟨[⟨"lit", []⟩], false, 0⟩ ", 1E2)\n".toList := run_more rfl rfl
      _ = run 1 ⟨[⟨"lit", []⟩], true, 0⟩ " 1E2)\n".toList := run_more rfl rfl
      _ = run 1 ⟨[⟨"lit", [.float (.ofNat 100)]⟩], false, 0⟩ ")\n".toList := run_more rfl rfl
      _ = resume 1 (.root (.tree (.lit (.float (.ofNat 100))))) ['\n'] := run_token rfl rfl
      _ = .ok (.lit (.float (.ofNat 100))) := rfl
  obtain ⟨body, white, hsource, _, _, hcut, hmore⟩ := read_up_to_close hread Nat.one_pos
  have hmark : ¬ ∀ c ∈ ")".toList, Text.isWhiteSpace c = true :=
    fun hall => absurd (hall ')' (by simp)) (by decide)
  refine ⟨⟨_, hread, Nat.one_pos⟩, hcut _ ?_, hmore _ hmark⟩
  have hbegins : "s(:lit, 1E".toList <+: body ++ ')' :: white := by
    rw [← hsource]
    decide
  obtain hbody | ⟨missing, hmissing⟩ :=
    List.prefix_or_prefix_of_prefix hbegins (List.prefix_append body _)
  · exact hbody
  · rw [← hmissing, List.prefix_append_right_inj] at hbegins
    cases missing with
    | nil => exact ⟨[], by rw [List.append_nil, ← hmissing, List.append_nil]⟩
    | cons c missing =>
        have hclose : ')' ∈ "s(:lit, 1E".toList := by
          rw [← hmissing, (List.cons_prefix_cons.1 hbegins).1]
          simp
        exact absurd hclose (by decide)

end Cut

end Minispec.Notation
