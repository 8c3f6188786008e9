import Minispec.Proofs.GrammarLexemes

/-!
The reader as a recursive descent over the grammar. The machine with its stack of open nodes
gives the same result on every text, the error included, and the descent succeeds on exactly the
texts of the grammar that are not nested too deep.
-/

namespace Minispec.Notation
open Grammar

/-- Something taken off the front of a text, and the shorter text behind it. -/
structure Taken (α : Type) (cs : List Char) where
  value : α
  rest : List Char
  shorter : rest.length < cs.length

mutual

/-- Reads a child, in which nodes may be nested `room` deep. -/
def descend (maxDepth room : Nat) (cs : List Char) : Except Error (Taken Item cs) :=
  match h : Token.read cs with
  | .error rest => .error (.malformedNotation (.unreadable rest))
  | .ok (.opening tag, rest) =>
    match room with
    | 0 => .error (.nestingTooDeep maxDepth)
    | room + 1 => do
      let children ← descendChildren maxDepth room rest
      let t ← (build tag children.value).mapError .malformedNotation
      return ⟨.tree t, children.rest, children.shorter.trans (Token.length_read h)⟩
  | .ok (.atom item, rest) => .ok ⟨item, rest, Token.length_read h⟩
  | .ok (token, _) => .error (.malformedNotation (.unexpected token))
termination_by cs.length
decreasing_by exact Token.length_read h

/-- Reads the children of a node behind its tag, up to the end of the node. -/
def descendChildren (maxDepth room : Nat) (cs : List Char) :
    Except Error (Taken (List Item) cs) :=
  match h : Token.read cs with
  | .error rest => .error (.malformedNotation (.unreadable rest))
  | .ok (.comma, rest) => do
    let child ← descend maxDepth room rest
    let others ← descendChildren maxDepth room child.rest
    return ⟨child.value :: others.value, others.rest,
      (others.shorter.trans child.shorter).trans (Token.length_read h)⟩
  | .ok (.close, rest) => .ok ⟨[], rest, Token.length_read h⟩
  | .ok (token, _) => .error (.malformedNotation (.unexpected token))
termination_by cs.length
decreasing_by
  · exact Token.length_read h
  · exact child.shorter.trans (Token.length_read h)

end

/-- Reads a whole text by recursive descent. -/
def readByDescent (maxDepth : Nat) (source : String) : Except Error Tree := do
  let root ← descend maxDepth maxDepth source.toList
  finish root.value root.rest

/-! ### The machine and the descent -/

section Machine
variable {maxDepth : Nat}

theorem run_unreadable {s : State} {cs rest : List Char} (h : Token.read cs = .error rest) :
    run maxDepth s cs = .error (.malformedNotation (.unreadable rest)) := by
  rw [run]
  split <;> rename_i hread <;> rw [h] at hread <;> cases hread
  rfl

theorem run_read {s : State} {cs rest : List Char} {token : Token}
    (h : Token.read cs = .ok (token, rest)) :
    run maxDepth s cs = s.step maxDepth token >>= fun next => resume maxDepth next rest := by
  cases hstep : s.step maxDepth token with
  | ok next => exact run_token h hstep
  | error e =>
      rw [run]
      split <;> rename_i hread <;> rw [h] at hread <;> cases hread
      rw [hstep]
      rfl

mutual

/-- Whatever is open around it, a machine that expects a child reads what the descent reads. -/
theorem run_expecting (frames : List Frame) (room : Nat) (cs : List Char) :
    run maxDepth ⟨frames, true, room⟩ cs = (do
      let child ← descend maxDepth room cs
      resume maxDepth (State.place frames room child.value) child.rest) := by
  rw [descend]
  split
  · next hread => rw [run_unreadable hread]; rfl
  · next tag rest hread =>
      rw [run_read hread]
      cases room with
      | zero => rfl
      | succ room =>
          have hinside := run_inside tag [] frames room rest
          simp only [bind_assoc, pure_bind]
          exact hinside
  · next item rest hread => rw [run_read hread]; rfl
  · next token rest hopening hatom hread =>
      rw [run_read hread]
      cases token with
      | opening tag => exact absurd rfl (hopening tag)
      | atom item => exact absurd rfl (hatom item)
      | comma | close => rfl
termination_by cs.length
decreasing_by exact Token.length_read ‹_›

/-- Inside a node, it collects the children that the descent reads and closes the node. -/
theorem run_inside (tag : String) (done : List Item) (frames : List Frame) (room : Nat)
    (cs : List Char) :
    run maxDepth ⟨⟨tag, done⟩ :: frames, false, room⟩ cs = (do
      let children ← descendChildren maxDepth room cs
      let t ← (build tag (done.reverse ++ children.value)).mapError .malformedNotation
      resume maxDepth (State.place frames (room + 1) (.tree t)) children.rest) := by
  rw [descendChildren]
  split
  · next hread => rw [run_unreadable hread]; rfl
  · next rest hread =>
      have hexpecting := run_expecting (⟨tag, done⟩ :: frames) room rest
      rw [run_read hread]
      simp only [bind_assoc, pure_bind]
      refine hexpecting.trans (bind_congr fun child => ?_)
      have hinside := run_inside tag (child.value :: done) frames room child.rest
      simp only [List.reverse_cons, List.append_assoc, List.singleton_append] at hinside
      exact hinside
  · next rest hread =>
      rw [run_read hread]
      change _ = (build tag (done.reverse ++ [])).mapError _ >>= _
      rw [List.append_nil]
      simp only [State.step]
      cases build tag done.reverse <;> rfl
  · next token rest hcomma hclose hread =>
      rw [run_read hread]
      cases token with
      | comma => exact absurd rfl hcomma
      | close => exact absurd rfl hclose
      | opening _ | atom _ => rfl
termination_by cs.length
decreasing_by
  · exact Token.length_read ‹_›
  · exact child.shorter.trans (Token.length_read ‹_›)

end

theorem read_eq_readByDescent (source : String) :
    read maxDepth source = readByDescent maxDepth source :=
  run_expecting [] maxDepth source.toList

end Machine

/-! ### The descent and the grammar -/

theorem mapError_ok_iff {α ε ε' : Type} {x : Except ε α} {f : ε → ε'} {a : α} :
    x.mapError f = .ok a ↔ x = .ok a := by
  cases x with
  | error e => exact ⟨nofun, nofun⟩
  | ok b => exact ⟨fun h => congrArg Except.ok (Except.ok.inj h), fun h => by cases h; rfl⟩

theorem nesting_of_atom {cs rest : List Char} {item : Item} (h : Spaced cs (.atom item) rest) :
    item.nesting = 0 := by
  obtain ⟨_, h⟩ := h
  cases h with
  | atom h => cases h <;> rfl

theorem lexemeEnds_blanks {cs rest : List Char} (h : Blanks cs rest) (hr : LexemeEnds rest) :
    LexemeEnds cs := by
  cases h with
  | none => exact hr
  | more hc _ =>
      intro c hhead
      cases hhead
      exact .inr (.inr (Text.isWhiteSpace_of_isBlank hc))

theorem lexemeEnds_whiteSpace {rest : List Char}
    (h : ∀ c ∈ rest, Text.isWhiteSpace c = true) : LexemeEnds rest := by
  intro c hhead
  exact .inr (.inr (h c (List.mem_of_mem_head? hhead)))

/-- Where the children of a node go on or end, the lexeme before them ends. -/
theorem lexemeEnds_children {cs rest : List Char} {items : List Item}
    (h : Children cs items rest) : LexemeEnds cs := by
  cases h with
  | close h =>
      obtain ⟨hblanks, h⟩ := h
      cases h
      exact lexemeEnds_blanks hblanks (by simp [LexemeEnds])
  | more h _ _ =>
      obtain ⟨hblanks, h⟩ := h
      cases h
      exact lexemeEnds_blanks hblanks (by simp [LexemeEnds])

section Acceptance
variable {maxDepth : Nat}

mutual

theorem child_of_descend {room : Nat} {cs : List Char} {child : Taken Item cs}
    (h : descend maxDepth room cs = .ok child) :
    Child cs child.value child.rest ∧ child.value.nesting ≤ room := by
  rw [descend] at h
  split at h
  · cases h
  · next tag rest hread =>
      cases room with
      | zero => cases h
      | succ room =>
          obtain ⟨children, hchildren, h⟩ := bind_ok_iff.1 h
          obtain ⟨t, ht, ⟨⟩⟩ := bind_ok_iff.1 h
          obtain ⟨hinside, hnesting⟩ := children_of_descend hchildren
          have hshape := shape_of_build (mapError_ok_iff.1 ht)
          refine ⟨.node (spaced_of_read hread) hinside hshape, ?_⟩
          change t.nesting ≤ room + 1
          rw [hshape.nesting_eq]
          omega
  · next item rest hread =>
      cases h
      have hatom := spaced_of_read hread
      exact ⟨.atom hatom, (nesting_of_atom hatom).trans_le (Nat.zero_le room)⟩
  · cases h
termination_by cs.length
decreasing_by exact Token.length_read ‹_›

theorem children_of_descend {room : Nat} {cs : List Char} {children : Taken (List Item) cs}
    (h : descendChildren maxDepth room cs = .ok children) :
    Children cs children.value children.rest ∧ itemsNesting children.value ≤ room := by
  rw [descendChildren] at h
  split at h
  · cases h
  · next rest hread =>
      obtain ⟨child, hchild, h⟩ := bind_ok_iff.1 h
      obtain ⟨others, hothers, ⟨⟩⟩ := bind_ok_iff.1 h
      obtain ⟨hfirst, hroom⟩ := child_of_descend hchild
      obtain ⟨hrest, hrooms⟩ := children_of_descend hothers
      exact ⟨.more (spaced_of_read hread) hfirst hrest, Nat.max_le.2 ⟨hroom, hrooms⟩⟩
  · next rest hread =>
      cases h
      exact ⟨.close (spaced_of_read hread), Nat.zero_le room⟩
  · cases h
termination_by cs.length
decreasing_by
  · exact Token.length_read ‹_›
  · exact child.shorter.trans (Token.length_read ‹_›)

end

theorem descend_atom {room : Nat} {cs rest : List Char} {item : Item}
    (h : Token.read cs = .ok (.atom item, rest)) :
    descend maxDepth room cs = .ok ⟨item, rest, Token.length_read h⟩ := by
  rw [descend]
  split <;> rename_i hread <;> rw [h] at hread <;> cases hread
  · rfl
  · next hatom => exact absurd rfl (hatom item)

theorem descend_opening {room : Nat} {cs rest : List Char} {tag : String}
    (h : Token.read cs = .ok (.opening tag, rest)) :
    descend maxDepth (room + 1) cs = (do
      let children ← descendChildren maxDepth room rest
      let t ← (build tag children.value).mapError .malformedNotation
      return ⟨.tree t, children.rest, children.shorter.trans (Token.length_read h)⟩) := by
  rw [descend]
  split <;> rename_i hread <;> rw [h] at hread <;> cases hread
  · rfl
  · next hopening _ => exact absurd rfl (hopening tag)

theorem descendChildren_comma {room : Nat} {cs rest : List Char}
    (h : Token.read cs = .ok (.comma, rest)) :
    descendChildren maxDepth room cs = (do
      let child ← descend maxDepth room rest
      let others ← descendChildren maxDepth room child.rest
      return ⟨child.value :: others.value, others.rest,
        (others.shorter.trans child.shorter).trans (Token.length_read h)⟩) := by
  rw [descendChildren]
  split <;> rename_i hread <;> rw [h] at hread <;> cases hread
  · rfl
  · next hcomma _ => exact absurd rfl hcomma

theorem descendChildren_close {room : Nat} {cs rest : List Char}
    (h : Token.read cs = .ok (.close, rest)) :
    descendChildren maxDepth room cs = .ok ⟨[], rest, Token.length_read h⟩ := by
  rw [descendChildren]
  split <;> rename_i hread <;> rw [h] at hread <;> cases hread
  · rfl
  · next hclose => exact absurd rfl hclose

mutual

theorem descend_of_child {room : Nat} {cs rest : List Char} {item : Item}
    (h : Child cs item rest) (hroom : item.nesting ≤ room) (hends : LexemeEnds rest) :
    ∃ hshort, descend maxDepth room cs = .ok ⟨item, rest, hshort⟩ := by
  cases h with
  | atom h => exact ⟨_, descend_atom (read_of_spaced h hends)⟩
  | node hopen hchildren hshape =>
      have hread := read_of_spaced hopen (lexemeEnds_children hchildren)
      rw [Item.nesting, hshape.nesting_eq] at hroom
      obtain ⟨room, rfl⟩ : ∃ inner, room = inner + 1 := ⟨room - 1, by omega⟩
      obtain ⟨_, hinside⟩ :=
        descendChildren_of_children hchildren (by omega : itemsNesting _ ≤ room)
      have hbuild := build_of_shape hshape
      rw [descend_opening hread, hinside]
      exact ⟨_, bind_ok_iff.2 ⟨_, rfl, bind_ok_iff.2 ⟨_, mapError_ok_iff.2 hbuild, rfl⟩⟩⟩

theorem descendChildren_of_children {room : Nat} {cs rest : List Char} {items : List Item}
    (h : Children cs items rest) (hroom : itemsNesting items ≤ room) :
    ∃ hshort, descendChildren maxDepth room cs = .ok ⟨items, rest, hshort⟩ := by
  cases h with
  | close h => exact ⟨_, descendChildren_close (read_of_spaced h trivial)⟩
  | more hcomma hchild hchildren =>
      obtain ⟨hfirst, hrest⟩ := Nat.max_le.1 hroom
      have hread := read_of_spaced hcomma trivial
      obtain ⟨_, hchild⟩ := descend_of_child hchild hfirst (lexemeEnds_children hchildren)
      obtain ⟨_, hothers⟩ := descendChildren_of_children hchildren hrest
      rw [descendChildren_comma hread, hchild]
      exact ⟨_, bind_ok_iff.2 ⟨_, rfl, bind_ok_iff.2 ⟨_, hothers, rfl⟩⟩⟩

end

theorem finish_ok_iff {item : Item} {rest : List Char} {t : Tree} :
    finish item rest = .ok t ↔ item = .tree t ∧ ∀ c ∈ rest, Text.isWhiteSpace c = true := by
  have htrim : Text.trimStart rest = [] ↔ ∀ c ∈ rest, Text.isWhiteSpace c = true :=
    List.dropWhile_eq_nil_iff
  rw [← htrim, finish]
  split
  · next hblank => rw [hblank, mapError_ok_iff, toTree_ok_iff, and_iff_left rfl]
  · next hsome => exact ⟨nofun, fun h => absurd h.2 hsome⟩

theorem readByDescent_ok_iff {source : String} {t : Tree} :
    readByDescent maxDepth source = .ok t ↔ Root source.toList t ∧ t.nesting ≤ maxDepth := by
  rw [readByDescent, bind_ok_iff]
  constructor
  · intro h
    obtain ⟨root, hroot, hfinish⟩ := h
    obtain ⟨hitem, hblank⟩ := finish_ok_iff.1 hfinish
    obtain ⟨hchild, hnesting⟩ := child_of_descend hroot
    rw [hitem] at hchild hnesting
    exact ⟨.mk hchild hblank, hnesting⟩
  · intro h
    obtain ⟨⟨hchild, hblank⟩, hnesting⟩ := h
    obtain ⟨_, hroot⟩ := descend_of_child hchild hnesting (lexemeEnds_whiteSpace hblank)
    exact ⟨_, hroot, finish_ok_iff.2 ⟨rfl, hblank⟩⟩

/-- Reading accepts the texts of the grammar whose trees are not nested too deep, and no others,
and gives the tree of the text; a recursive descent gives the same on every text. -/
theorem read_accepts_exactly_grammar (maxDepth : Nat) (source : String) (t : Tree) :
    (read maxDepth source = .ok t ↔ Root source.toList t ∧ t.nesting ≤ maxDepth) ∧
      read maxDepth source = readByDescent maxDepth source := by
  have hdescent : read maxDepth source = readByDescent maxDepth source :=
    read_eq_readByDescent source
  refine ⟨?_, hdescent⟩
  rw [hdescent]
  exact readByDescent_ok_iff

end Acceptance

end Minispec.Notation
