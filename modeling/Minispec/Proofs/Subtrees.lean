import Mathlib.Data.List.Basic
import Minispec.Tree

/-!
The trees directly below a node, and induction over them. Some children stand in options and in
lists; listing them all lets one hypothesis speak of every child. Nothing here depends on what
the conversion or the notation do with a tree.
-/

namespace Minispec.Tree

/-- All trees directly below a node, from left to right. -/
def children : Tree → List Tree
  | .colon2 scope _ => [scope]
  | .call receiver _ args => receiver.toList ++ args
  | .iter head params body => head :: params :: body.toList
  | .classDecl name parent body => name :: (parent.toList ++ body)
  | .block children | .hash children | .array children | .node _ children => children
  | _ => []

/-- The trees below a node that a conversion visits: all but the name and the parent of a class. -/
def visited : Tree → List Tree
  | .classDecl _ _ body => body
  | t => t.children

theorem mem_children_of_mem_visited {t c : Tree} (h : c ∈ t.visited) : c ∈ t.children := by
  cases t with
  | classDecl name parent body =>
      exact List.mem_cons_of_mem _ (List.mem_append_right _ h)
  | _ => exact h

theorem nesting_le_listNesting {t : Tree} {ts : List Tree} (h : t ∈ ts) :
    t.nesting ≤ listNesting ts := by
  induction h with
  | head => exact Nat.le_max_left _ _
  | tail u _ ih => exact Nat.le_trans ih (Nat.le_max_right _ _)

theorem nesting_le_optionNesting {t : Tree} {o : Option Tree} (h : t ∈ o) :
    t.nesting ≤ optionNesting o := by
  cases h
  exact Nat.le_refl _

theorem nesting_lt_of_mem_children {t c : Tree} (h : c ∈ t.children) :
    c.nesting < t.nesting := by
  cases t with
  | empty | sym _ | int _ | text _ | nil | selfRef | lit _ | str _ | const _ | colon3 _ =>
      cases h
  | colon2 scope name =>
      cases List.mem_singleton.1 h
      simp only [nesting]
      omega
  | call receiver method args =>
      simp only [nesting]
      cases List.mem_append.1 h with
      | inl h =>
          have := nesting_le_optionNesting (Option.mem_toList.1 h)
          omega
      | inr h =>
          have := nesting_le_listNesting h
          omega
  | iter head params body =>
      simp only [children, List.mem_cons, Option.mem_toList] at h
      simp only [nesting]
      obtain rfl | rfl | h := h
      · omega
      · omega
      · have := nesting_le_optionNesting h
        omega
  | classDecl name parent body =>
      simp only [children, List.mem_cons, List.mem_append, Option.mem_toList] at h
      simp only [nesting]
      obtain rfl | h | h := h
      · omega
      · have := nesting_le_optionNesting h
        omega
      · have := nesting_le_listNesting h
        omega
  | block children | hash children | array children | node _ children =>
      have : c.nesting ≤ listNesting children := nesting_le_listNesting h
      simp only [nesting]
      omega

/-- What holds of a node whenever it holds of its children holds of every tree. -/
theorem induction_below {motive : Tree → Prop}
    (step : ∀ t, (∀ c ∈ t.children, motive c) → motive t) (t : Tree) : motive t :=
  step t fun c _ => induction_below step c
termination_by t.nesting
decreasing_by exact nesting_lt_of_mem_children ‹_›

theorem nesting_lt_of_mem_visited {t c : Tree} (h : c ∈ t.visited) : c.nesting < t.nesting :=
  nesting_lt_of_mem_children (mem_children_of_mem_visited h)

/-! ### Rebuilding a node -/

/-- The node with other trees in the places of those that are visited, in the same order. -/
def withVisited : Tree → List Tree → Tree
  | .colon2 _ name, scope :: _ => .colon2 scope name
  | .call (some _) method _, receiver :: args => .call (some receiver) method args
  | .call none method _, args => .call none method args
  | .iter _ _ (some _), head :: params :: body :: _ => .iter head params (some body)
  | .iter _ _ none, head :: params :: _ => .iter head params none
  | .classDecl name parent _, body => .classDecl name parent body
  | .block _, statements => .block statements
  | .hash _, entries => .hash entries
  | .array _, elements => .array elements
  | .node tag _, children => .node tag children
  | t, _ => t

theorem withVisited_visited (t : Tree) : t.withVisited t.visited = t := by
  cases t with
  | call receiver method args => cases receiver <;> rfl
  | iter head params body => cases body <;> rfl
  | _ => rfl

theorem visited_withVisited {t : Tree} {us : List Tree} (h : us.length = t.visited.length) :
    (t.withVisited us).visited = us := by
  cases t with
  | empty | sym _ | int _ | text _ | nil | selfRef | lit _ | str _ | const _ | colon3 _ =>
      exact (List.eq_nil_of_length_eq_zero h).symm
  | colon2 scope name =>
      obtain ⟨u, rfl⟩ := List.length_eq_one_iff.1 h
      rfl
  | call receiver method args =>
      cases receiver with
      | none => rfl
      | some receiver =>
          obtain ⟨u, us, rfl⟩ := List.exists_cons_of_length_eq_add_one h
          rfl
  | iter head params body =>
      cases body with
      | none =>
          obtain ⟨u, v, rfl⟩ := List.length_eq_two.1 h
          rfl
      | some body =>
          obtain ⟨u, v, w, rfl⟩ := List.length_eq_three.1 h
          rfl
  | classDecl _ _ _ | block _ | hash _ | array _ | node _ _ => rfl

/-- Applying an operation to the children is applying it to the visited trees in order. -/
theorem mapChildren_eq {m : Type → Type} [Monad m] [LawfulMonad m] (f : Tree → m Tree)
    (t : Tree) : t.mapChildren f = t.visited.mapM f >>= fun us => pure (t.withVisited us) := by
  cases t with
  | call receiver method args =>
      cases receiver <;> simp [mapChildren, visited, children, withVisited]
  | iter head params body =>
      cases body <;> simp [mapChildren, visited, children, withVisited]
  | _ => simp [mapChildren, visited, children, withVisited]

end Minispec.Tree
