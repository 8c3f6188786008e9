import Mathlib.Data.List.Forall2
import Minispec.Proofs.NotationTokens
import Minispec.Proofs.Subtrees

/-!
Reading the notation of a tree gives the tree back, if the notation can tell it from other trees
and the reader is given room for its nesting. The reader is a machine that may be in the middle
of any number of open nodes, so the statement about a subtree is that the machine passes over
its text and goes on as if the finished subtree had been handed to it.
-/

namespace Minispec

/-! ### Trees that the notation can express -/

/-- The tags that stand for constructors of their own. -/
def Notation.typedTags : List String :=
  ["nil", "self", "lit", "str", "const", "colon3", "colon2", "call", "iter", "class", "block",
    "hash", "array"]

/-- Nothing about this node alone is lost in writing. -/
def Tree.ExpressibleHere : Tree → Prop
  | .call receiver _ _ => receiver ≠ some .empty
  | .classDecl _ parent _ => parent ≠ some .empty
  | .node tag _ => tag ∉ Notation.typedTags
  | .lit (.float x) => x.isFinite = true
  | _ => True

/-- No call has the atom `nil` as its receiver and no class as its parent, no tag of a node
belongs to another constructor, and all numbers are finite. -/
def Tree.WellFormed (t : Tree) : Prop :=
  t.ExpressibleHere ∧ ∀ c ∈ t.children, c.WellFormed
termination_by t.nesting
decreasing_by exact nesting_lt_of_mem_children ‹_›

theorem Tree.wellFormed_iff (t : Tree) :
    t.WellFormed ↔ t.ExpressibleHere ∧ ∀ c ∈ t.children, c.WellFormed := by
  rw [WellFormed]

namespace Notation

/-! ### One token -/

/-- Goes on after a step of the machine. -/
def resume (maxDepth : Nat) : Step → List Char → Except Error Tree
  | .more s, rest => run maxDepth s rest
  | .root item, rest => finish item rest

theorem run_token {maxDepth : Nat} {s : State} {cs rest : List Char} {token : Token} {next : Step}
    (hread : Token.read cs = .ok (token, rest)) (hstep : s.step maxDepth token = .ok next) :
    run maxDepth s cs = resume maxDepth next rest := by
  rw [run]
  split
  · next h =>
      rw [hread] at h
      cases h
  · next h =>
      rw [hread] at h
      cases h
      rw [hstep]
      cases next <;> rfl

theorem run_more {maxDepth : Nat} {s next : State} {cs rest : List Char} {token : Token}
    (hread : Token.read cs = .ok (token, rest))
    (hstep : s.step maxDepth token = .ok (.more next)) :
    run maxDepth s cs = run maxDepth next rest :=
  run_token hread hstep

theorem run_blank (maxDepth : Nat) (s : State) (cs : List Char) :
    run maxDepth s (' ' :: cs) = run maxDepth s cs := by
  rw [run, run, Token.read_blank]

/-! ### Texts that stand for a child -/

/-- A machine that expects a child and may open `room` more nodes passes over the text and is
handed the item, whatever is open around it. -/
def Reads (maxDepth room : Nat) (text : List Char) (item : Item) : Prop :=
  ∀ (frames : List Frame) (rest : List Char), ItemEnds rest →
    run maxDepth ⟨frames, true, room⟩ (text ++ rest) =
      resume maxDepth (State.place frames room item) rest

variable {maxDepth room : Nat}

theorem reads_atom {text : List Char} {item : Item}
    (h : ∀ rest, ItemEnds rest → Token.read (text ++ rest) = .ok (.atom item, rest)) :
    Reads maxDepth room text item := by
  intro frames rest hr
  exact run_token (h rest hr) rfl

theorem reads_nil : Reads maxDepth room ['n', 'i', 'l'] (.tree .empty) :=
  reads_atom fun rest _ => Token.read_nil rest

theorem reads_symbol (name : String) :
    Reads maxDepth room (writeSymbol name) (.tree (.sym name)) :=
  reads_atom fun _ hr => Token.read_symbol name hr

theorem reads_string (text : String) :
    Reads maxDepth room (writeString text) (.tree (.text text)) :=
  reads_atom fun rest _ => Token.read_string text rest

theorem reads_int (n : Int64) : Reads maxDepth room (writeInt n) (.tree (.int n)) :=
  reads_atom fun _ hr => Token.read_int n hr

theorem reads_float {x : Binary64} (hx : x.isFinite = true) :
    Reads maxDepth room (Decimal.Layout.general.text x) (.float x) :=
  reads_atom fun _ hr => Token.read_float hx hr

/-! ### Nodes -/

/-- The texts of children and the end of their node. -/
def writeRest (children : List (List Char)) : List Char :=
  children.foldr (fun child rest => ',' :: ' ' :: (child ++ rest)) [')']

theorem itemEnds_writeRest (children : List (List Char)) (rest : List Char) :
    ItemEnds (writeRest children ++ rest) := by
  cases children with
  | nil => exact itemEnds_close _
  | cons child children => exact itemEnds_comma _

/-- Children are collected in front of those that the open node already has. -/
theorem run_children {tag : String} {frames : List Frame} {texts : List (List Char)}
    {items : List Item} (h : List.Forall₂ (Reads maxDepth room) texts items)
    (done : List Item) (rest : List Char) :
    run maxDepth ⟨⟨tag, done⟩ :: frames, false, room⟩ (writeRest texts ++ rest) =
      run maxDepth ⟨⟨tag, items.reverse ++ done⟩ :: frames, false, room⟩ (')' :: rest) := by
  induction h generalizing done with
  | nil => rfl
  | @cons text item texts items htext _ ih =>
      calc run maxDepth ⟨⟨tag, done⟩ :: frames, false, room⟩ (writeRest (text :: texts) ++ rest)
          = run maxDepth ⟨⟨tag, done⟩ :: frames, true, room⟩
              (' ' :: (text ++ writeRest texts ++ rest)) :=
            run_more (Token.read_comma _) rfl
        _ = run maxDepth ⟨⟨tag, done⟩ :: frames, true, room⟩
              (text ++ (writeRest texts ++ rest)) := by
            rw [run_blank, List.append_assoc]
        _ = run maxDepth ⟨⟨tag, item :: done⟩ :: frames, false, room⟩
              (writeRest texts ++ rest) :=
            htext _ _ (itemEnds_writeRest texts rest)
        _ = _ := by
            rw [ih, List.reverse_cons, List.append_assoc]
            rfl

theorem reads_writeNode {tag : String} {texts : List (List Char)} {items : List Item} {t : Tree}
    (h : List.Forall₂ (Reads maxDepth room) texts items) (hbuild : build tag items = .ok t) :
    Reads maxDepth (room + 1) (writeNode tag texts) (.tree t) := by
  intro frames rest _
  have hopen : run maxDepth ⟨frames, true, room + 1⟩ (writeNode tag texts ++ rest) =
      run maxDepth ⟨⟨tag, []⟩ :: frames, false, room⟩ (writeRest texts ++ rest) := by
    have hread := Token.read_opening tag (itemEnds_writeRest texts rest)
    rw [← List.append_assoc] at hread
    exact run_more hread rfl
  rw [hopen, run_children h]
  apply run_token (Token.read_close rest)
  simp only [State.step, List.append_nil, List.reverse_reverse, hbuild]

theorem reads_all (ts : List Tree) (h : ∀ t ∈ ts, Reads maxDepth room (write t) (.tree t)) :
    List.Forall₂ (Reads maxDepth room) (writeAll ts) (ts.map Item.tree) := by
  induction ts with
  | nil => exact .nil
  | cons t ts ih =>
      exact .cons (h t List.mem_cons_self) (ih fun u hu => h u (List.mem_cons_of_mem t hu))

theorem reads_option (o : Option Tree) (h : ∀ t ∈ o, Reads maxDepth room (write t) (.tree t)) :
    Reads maxDepth room (writeOption o) (.tree (o.getD .empty)) := by
  cases o with
  | none => exact reads_nil
  | some t => exact h t rfl

theorem reads_body (o : Option Tree) (h : ∀ t ∈ o, Reads maxDepth room (write t) (.tree t)) :
    List.Forall₂ (Reads maxDepth room) (writeBody o) (o.toList.map Item.tree) := by
  cases o with
  | none => exact .nil
  | some t => exact .cons (h t rfl) .nil

/-! ### Putting nodes together -/

theorem toTrees_map (ts : List Tree) : toTrees (ts.map Item.tree) = .ok ts := by
  induction ts with
  | nil => rfl
  | cons t ts ih =>
      simp only [toTrees] at ih ⊢
      rw [List.map_cons, List.mapM_cons, ih]
      rfl

theorem toOption_getD {o : Option Tree} (h : o ≠ some .empty) :
    (Item.tree (o.getD .empty)).toOption = .ok o := by
  cases o with
  | none => rfl
  | some t =>
      cases t with
      | empty => exact absurd rfl h
      | _ => rfl

theorem build_call {receiver : Option Tree} (h : receiver ≠ some .empty) (method : String)
    (args : List Tree) :
    build "call" (.tree (receiver.getD .empty) :: .tree (.sym method) :: args.map Item.tree) =
      .ok (.call receiver method args) := by
  simp only [build, toOption_getD h, toTrees_map]
  rfl

theorem build_class {parent : Option Tree} (h : parent ≠ some .empty) (name : Tree)
    (body : List Tree) :
    build "class" (.tree name :: .tree (parent.getD .empty) :: body.map Item.tree) =
      .ok (.classDecl name parent body) := by
  simp only [build, toOption_getD h, toTrees_map]
  rfl

theorem build_iter (head params : Tree) (body : Option Tree) :
    build "iter" (.tree head :: .tree params :: body.toList.map Item.tree) =
      .ok (.iter head params body) := by
  cases body <;> rfl

theorem build_node {tag : String} (h : tag ∉ typedTags) (children : List Tree) :
    build tag (children.map Item.tree) = .ok (.node tag children) := by
  unfold build
  split
  case h_14 =>
      rw [toTrees_map]
      rfl
  all_goals exact absurd (by decide) h

/-! ### Whole trees -/

theorem reads_atom_tree {t : Tree} (h : t.nesting = 0) :
    Reads maxDepth room (write t) (.tree t) := by
  cases t with
  | empty => exact reads_nil
  | sym name => exact reads_symbol name
  | int value => exact reads_int value
  | text value => exact reads_string value
  | _ => simp [Tree.nesting] at h

/-- One node is read back if its children are, with one level less of room. -/
theorem reads_step {t : Tree} (h : t.ExpressibleHere)
    (below : ∀ c ∈ t.children, Reads maxDepth room (write c) (.tree c)) :
    Reads maxDepth (room + 1) (write t) (.tree t) := by
  cases t with
  | empty | sym _ | int _ | text _ => exact reads_atom_tree rfl
  | nil | selfRef => exact reads_writeNode .nil rfl
  | lit value =>
      cases value with
      | symbol name => exact reads_writeNode (.cons (reads_symbol name) .nil) rfl
      | integer value => exact reads_writeNode (.cons (reads_int value) .nil) rfl
      | float value => exact reads_writeNode (.cons (reads_float h) .nil) rfl
  | str value => exact reads_writeNode (.cons (reads_string value) .nil) rfl
  | const name | colon3 name => exact reads_writeNode (.cons (reads_symbol name) .nil) rfl
  | colon2 scope name =>
      have hscope := below scope (by simp [Tree.children])
      exact reads_writeNode (.cons hscope (.cons (reads_symbol name) .nil)) rfl
  | call receiver method args =>
      have hreceiver := reads_option receiver fun c hc =>
        below c (by simp [Tree.children, Option.mem_def.1 hc])
      have hargs := reads_all args fun c hc => below c (by simp [Tree.children, hc])
      exact reads_writeNode (.cons hreceiver (.cons (reads_symbol method) hargs))
        (build_call h method args)
  | iter head params body =>
      have hhead := below head (by simp [Tree.children])
      have hparams := below params (by simp [Tree.children])
      have hbody := reads_body body fun c hc =>
        below c (by simp [Tree.children, Option.mem_def.1 hc])
      exact reads_writeNode (.cons hhead (.cons hparams hbody)) (build_iter head params body)
  | classDecl name parent body =>
      have hname := below name (by simp [Tree.children])
      have hparent := reads_option parent fun c hc =>
        below c (by simp [Tree.children, Option.mem_def.1 hc])
      have hbody := reads_all body fun c hc => below c (by simp [Tree.children, hc])
      exact reads_writeNode (.cons hname (.cons hparent hbody)) (build_class h name body)
  | block ts | hash ts | array ts =>
      refine reads_writeNode (reads_all ts below) ?_
      simp only [build, toTrees_map]
      rfl
  | node tag ts => exact reads_writeNode (reads_all ts below) (build_node h ts)

theorem reads_write {t : Tree} (h : t.WellFormed) {room : Nat} (hroom : t.nesting ≤ room) :
    Reads maxDepth room (write t) (.tree t) := by
  induction t using Tree.induction_below generalizing room with
  | step t ih =>
      obtain ⟨here, below⟩ := t.wellFormed_iff.1 h
      cases room with
      | zero => exact reads_atom_tree (Nat.le_zero.1 hroom)
      | succ room =>
          refine reads_step here fun c hc => ih c hc (below c hc) ?_
          have := Tree.nesting_lt_of_mem_children hc
          omega

theorem read_of_reads {t : Tree}
    (h : Reads maxDepth maxDepth (write t) (.tree t)) : read maxDepth t.written = .ok t := by
  rw [read, Tree.written, String.toList_ofList, ← List.append_nil (write t)]
  exact h [] [] itemEnds_nil

theorem read_written {t : Tree} (h : t.WellFormed) {maxDepth : Nat}
    (hdepth : t.nesting ≤ maxDepth) : read maxDepth t.written = .ok t := by
  have hreads : Reads maxDepth maxDepth (write t) (.tree t) := reads_write h hdepth
  exact read_of_reads hreads

/-- An empty tag, a name that has to be quoted, and the negative number next to zero. -/
theorem read_written_quoted_tag :
    let t := Tree.node "" [.sym "a \"b\"", .lit (.float ⟨true, 1, by decide⟩)]
    t.WellFormed ∧ t.nesting ≤ 2 ∧ read 2 t.written = .ok t := by
  intro t
  have hleaf {c : Tree} (here : c.ExpressibleHere) (hnone : c.children = []) : c.WellFormed :=
    c.wellFormed_iff.2 ⟨here, fun d hd => by simp [hnone] at hd⟩
  have hformed : t.WellFormed := by
    have htag : "" ∉ typedTags := by decide
    refine t.wellFormed_iff.2 ⟨htag, List.forall_mem_cons.2 ⟨hleaf trivial rfl, ?_⟩⟩
    exact List.forall_mem_singleton.2 (hleaf rfl rfl)
  have hnesting : t.nesting ≤ 2 := by decide
  exact ⟨hformed, hnesting, read_written hformed hnesting⟩

end Notation
end Minispec
