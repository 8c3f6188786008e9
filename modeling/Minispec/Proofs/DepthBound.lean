import Minispec.Proofs.Convertible
import Minispec.Proofs.ReadBack

/-!
The bound on the depth of a conversion. A smaller bound changes a result in one way only: it ends
the conversion early. How far a conversion goes down can be read off the tree. It is at most one
level further than nodes are nested, but can be less: the trees in a stub and the name and the
parent of a class are not visited, and may be nested deeper than the bound.
-/

namespace Minispec

/-! ### Results that are cut short -/

/-- The first result is the second, unless the given error came before it. -/
def CutBy {ε α : Type} (e : ε) (x y : Except ε α) : Prop :=
  x = .error e ∨ x = y

namespace CutBy
variable {α β ε : Type} {e : ε} {f g : α → Except ε β}

theorem refl (x : Except ε α) : CutBy e x x :=
  .inr rfl

theorem bind {x y : Except ε α} (h : CutBy e x y) (hfg : ∀ a, CutBy e (f a) (g a)) :
    CutBy e (x >>= f) (y >>= g) := by
  obtain rfl | rfl := h
  · exact .inl rfl
  · cases x with
    | error e' => exact .refl _
    | ok a => exact hfg a

theorem mapM (h : ∀ a, CutBy e (f a) (g a)) (as : List α) :
    CutBy e (as.mapM f) (as.mapM g) := by
  induction as with
  | nil => exact .refl _
  | cons a as ih =>
      rw [List.mapM_cons, List.mapM_cons]
      exact (h a).bind fun b => ih.bind fun bs => .refl _

theorem mapChildren {f g : Tree → Except ε Tree} (h : ∀ c, CutBy e (f c) (g c)) (t : Tree) :
    CutBy e (t.mapChildren f) (t.mapChildren g) := by
  rw [Tree.mapChildren_eq, Tree.mapChildren_eq]
  exact (mapM h t.visited).bind fun us => .refl _

end CutBy

theorem converted_cut (options : Options) (maxDepth : Nat) {levels more : Nat}
    (h : levels ≤ more) (t : Tree) :
    CutBy (.nestingTooDeep options.maxDepth) (converted options levels t)
      (converted { options with maxDepth } more t) := by
  induction levels generalizing more t with
  | zero => exact .inl rfl
  | succ levels ih =>
      obtain ⟨more, rfl⟩ : ∃ n, more = n + 1 := ⟨more - 1, by omega⟩
      have below := ih (Nat.le_of_succ_le_succ h)
      -- Neither rule looks at the bound.
      have hprepare : TestClass.prepare { options with maxDepth } t =
          TestClass.prepare options t := rfl
      have hclaims : MochaStub.claims { options := { options with maxDepth } } t =
          MochaStub.claims { options } t := rfl
      simp only [converted, hprepare, hclaims]
      split
      · exact (CutBy.refl _).bind fun p => (CutBy.mapM below p.2).bind fun results => .refl _
      · split
        · exact .refl _
        · exact .mapChildren below t

/-! ### How far a conversion goes down -/

namespace Tree

/-- The levels below a class that the statement takes up which includes a helper module. -/
def includedLevels : Tree → Nat
  | .classDecl name parent body =>
    if TestClass.IncludesHelper ⟨name, parent, body⟩ then 2 else 0
  | _ => 0

mutual

/-- How many levels a conversion takes up. A stub takes up one whatever is below it, and the name
and the parent of a class take up none. -/
def reach (mocha : Bool) : Tree → Nat
  | .empty | .sym _ | .int _ | .text _ | .nil | .selfRef | .lit _ | .str _ | .const _
  | .colon3 _ => 1
  | .colon2 scope _ => 1 + scope.reach mocha
  | .call receiver method args =>
    if (call receiver method args).stubCall mocha then 1
    else 1 + max (optionReach mocha receiver) (listReach mocha args)
  | .iter head params body =>
    1 + max (max (head.reach mocha) (params.reach mocha)) (optionReach mocha body)
  | .classDecl name parent body =>
    1 + max (classDecl name parent body).includedLevels (listReach mocha body)
  | .block children | .hash children | .array children | .node _ children =>
    1 + listReach mocha children

def optionReach (mocha : Bool) : Option Tree → Nat
  | none => 0
  | some t => t.reach mocha

def listReach (mocha : Bool) : List Tree → Nat
  | [] => 0
  | t :: ts => max (t.reach mocha) (listReach mocha ts)

end

variable {mocha : Bool} {levels : Nat} {t : Tree}

theorem optionReach_le_iff {o : Option Tree} :
    optionReach mocha o ≤ levels ↔ ∀ t ∈ o, t.reach mocha ≤ levels := by
  cases o with
  | none => simp [optionReach]
  | some t => simp [optionReach]

theorem listReach_le_iff {ts : List Tree} :
    listReach mocha ts ≤ levels ↔ ∀ t ∈ ts, t.reach mocha ≤ levels := by
  induction ts with
  | nil => simp [listReach]
  | cons t ts ih => rw [listReach, Nat.max_le, ih, List.forall_mem_cons]

/-- Levels are enough for a tree if it is a stub, or if those below the root are enough for all
that is visited there. -/
theorem reach_le_succ_iff :
    t.reach mocha ≤ levels + 1 ↔
      t.stubCall mocha = true ∨
        t.includedLevels ≤ levels ∧ ∀ c ∈ t.visited, c.reach mocha ≤ levels := by
  have hshift (n : Nat) : 1 + n ≤ levels + 1 ↔ n ≤ levels := by omega
  cases t with
  | empty | sym _ | int _ | text _ | nil | selfRef | lit _ | str _ | const _ | colon3 _ =>
      simp [reach, includedLevels, visited, children]
  | call receiver method args =>
      cases hstub : (call receiver method args).stubCall mocha with
      | true => simp [reach, hstub]
      | false =>
          simp [reach, hstub, hshift, includedLevels, visited, children, optionReach_le_iff,
            listReach_le_iff, or_imp, forall_and]
  | colon2 scope name =>
      simp [reach, stubCall, methodCall?, hshift, includedLevels, visited, children]
  | iter head params body =>
      simp [reach, stubCall, methodCall?, hshift, includedLevels, visited, children,
        optionReach_le_iff]
  | classDecl name parent body =>
      simp only [reach, stubCall_classDecl, hshift, visited, Nat.max_le, listReach_le_iff,
        Bool.false_eq_true, false_or]
  | block ts | hash ts | array ts | node _ ts =>
      simp [reach, stubCall, methodCall?, hshift, includedLevels, visited, children,
        listReach_le_iff]

theorem reach_le_succ_other_iff (h : t.stubCall mocha = false) :
    t.reach mocha ≤ levels + 1 ↔
      t.includedLevels ≤ levels ∧ ∀ c ∈ t.visited, c.reach mocha ≤ levels := by
  rw [reach_le_succ_iff, h]
  simp only [Bool.false_eq_true, false_or]

theorem reach_pos (t : Tree) : 0 < t.reach mocha := by
  cases t with
  | call receiver method args =>
      rw [reach]
      split <;> omega
  | _ =>
      rw [reach]
      omega

theorem includedLevels_le_iff {name : Tree} {parent : Option Tree} {body : List Tree} :
    (classDecl name parent body).includedLevels ≤ levels ↔
      (TestClass.IncludesHelper ⟨name, parent, body⟩ → 2 ≤ levels) := by
  by_cases h : TestClass.IncludesHelper ⟨name, parent, body⟩
  · simp [includedLevels, h]
  · simp [includedLevels, h]

theorem reach_include (described : String) :
    (call none "include" [.const described]).reach mocha = 2 := by
  cases mocha <;> rfl

end Tree

/-! ### Levels that are enough -/

section Levels
variable {options : Options} {depth levels : Nat} {t : Tree}

theorem reach_le_of_convertible (h : Convertible options depth t) :
    depth + t.reach options.mocha ≤ options.maxDepth := by
  induction t using Tree.induction_below generalizing depth with
  | step t ih =>
      have hdepth : depth < options.maxDepth := by
        rw [Convertible] at h
        exact h.1
      obtain ⟨levels, hlevels⟩ := Nat.exists_eq_add_of_lt hdepth
      have hreach : t.reach options.mocha ≤ levels + 1 := by
        cases hstub : t.stubCall options.mocha with
        | true => exact Tree.reach_le_succ_iff.2 (.inl hstub)
        | false =>
            obtain ⟨_, haccepted, hvisited⟩ := (convertible_other_iff hstub).1 h
            refine (Tree.reach_le_succ_other_iff hstub).2 ⟨?_, ?_⟩
            · cases t with
              | classDecl name parent body =>
                  rw [Tree.includedLevels_le_iff]
                  intro hincludes
                  have := haccepted.2.2 hincludes
                  omega
              | _ => exact Nat.zero_le levels
            · intro c hc
              have := ih c (Tree.mem_children_of_mem_visited hc) (hvisited c hc)
              omega
      omega

/-- The error about the depth is given only where the levels are not enough. -/
theorem lt_reach_of_too_deep {maxDepth : Nat}
    (h : converted options levels t = .error (.nestingTooDeep maxDepth)) :
    levels < t.reach options.mocha := by
  induction levels generalizing t with
  | zero => exact t.reach_pos
  | succ levels ih =>
      by_contra hnot
      have henough := Nat.le_of_not_lt hnot
      cases t.dispatch options.mocha with
      | stub hstub hc hmocha =>
          rw [converted_stub hstub] at h
          obtain ⟨_, ⟨⟩⟩ | ⟨_, ⟨⟩⟩ := MochaStub.convert_error hc hmocha h
      | classDecl name parent body =>
          obtain ⟨hincluded, hbody⟩ :=
            (Tree.reach_le_succ_other_iff (Tree.stubCall_classDecl _ name parent body)).1 henough
          obtain hprepare | ⟨hhelper, _, hdeep⟩ | ⟨s, hs, hdeep⟩ :=
            TestClass.error_of_converted h
          · obtain ⟨_, _, ⟨⟩⟩ | ⟨_, ⟨⟩⟩ := TestClass.prepare_error hprepare
          · have htwo := Tree.includedLevels_le_iff.1 hincluded hhelper
            have hlt := ih hdeep
            rw [Tree.reach_include] at hlt
            omega
          · exact Nat.not_le_of_lt (ih hdeep) (hbody s hs)
      | other hclass hstub =>
          obtain ⟨_, hvisited⟩ := (Tree.reach_le_succ_other_iff hstub).1 henough
          rw [converted_other hclass hstub] at h
          obtain ⟨c, hc, hdeep⟩ := Tree.mapChildren_error h
          exact Nat.not_le_of_lt (ih hdeep) (hvisited c hc)

end Levels

/-! ### Bounds -/

section Bounds
variable {options : Options} {t u : Tree}

theorem reach_le_of_process (h : process options t = .ok u) :
    t.reach options.mocha ≤ options.maxDepth := by
  rw [process_eq_converted] at h
  have hconvertible : Convertible options 0 t :=
    (exists_converted_iff (Nat.zero_add _)).1 ⟨u, h⟩
  have := reach_le_of_convertible hconvertible
  omega

theorem lt_reach_of_process_too_deep {maxDepth : Nat}
    (h : process options t = .error (.nestingTooDeep maxDepth)) :
    options.maxDepth < t.reach options.mocha := by
  rw [process_eq_converted] at h
  exact lt_reach_of_too_deep h

theorem process_cut (options : Options) {maxDepth larger : Nat} (h : maxDepth ≤ larger)
    (t : Tree) :
    CutBy (.nestingTooDeep maxDepth) (process { options with maxDepth } t)
      (process { options with maxDepth := larger } t) := by
  rw [process_eq_converted, process_eq_converted]
  exact converted_cut { options with maxDepth } larger h t

/-- A larger bound changes nothing but the error about the depth, which is given only if the
conversion goes further down than the bound. -/
theorem process_larger_bound (options : Options) (t : Tree) {maxDepth larger : Nat}
    (h : maxDepth ≤ larger) :
    process { options with maxDepth } t = .error (.nestingTooDeep maxDepth) ∧
        maxDepth < t.reach options.mocha ∨
      process { options with maxDepth } t = process { options with maxDepth := larger } t := by
  cases process_cut options h t with
  | inl hdeep => exact .inl ⟨hdeep, lt_reach_of_process_too_deep hdeep⟩
  | inr hsame => exact .inr hsame

/-- Under a small bound the arrays fail first, and otherwise the class, whose name is no name. -/
def arraysBeforeClass : Tree :=
  .array [.array [.array [.nil]], .classDecl (.str "x") none []]

theorem process_larger_bound_arraysBeforeClass :
    process { maxDepth := 2 } arraysBeforeClass = .error (.nestingTooDeep 2) ∧
      process { maxDepth := 4 } arraysBeforeClass = .error (.unsupportedNameForm (.str "x")) ∧
      process { maxDepth := 9 } arraysBeforeClass = .error (.unsupportedNameForm (.str "x")) := by
  have hfour : process { maxDepth := 4 } arraysBeforeClass =
      .error (.unsupportedNameForm (.str "x")) := rfl
  refine ⟨rfl, hfour, ?_⟩
  obtain ⟨hdeep, _⟩ | hsame :=
    process_larger_bound {} arraysBeforeClass (by decide : 4 ≤ 9)
  · cases hfour.symm.trans hdeep
  · exact hsame.symm.trans hfour

/-- No bound lets the tree through. -/
def Refused (options : Options) (t : Tree) : Prop :=
  ∀ maxDepth, ∃ e, process { options with maxDepth } t = .error e

/-- The bounds with enough levels for a tree let it through all alike, or not at all. -/
theorem process_error_iff (options : Options) (t : Tree) :
    (∃ e, process options t = .error e) ↔
      options.maxDepth < t.reach options.mocha ∨ Refused options t := by
  constructor
  · intro h
    obtain ⟨e, he⟩ := h
    by_cases hreach : options.maxDepth < t.reach options.mocha
    · exact .inl hreach
    · refine .inr fun maxDepth => ?_
      cases hother : process { options with maxDepth } t with
      | error e' => exact ⟨e', rfl⟩
      | ok u =>
          -- Neither bound ends the conversion, so the two results cannot differ.
          cases Nat.le_total options.maxDepth maxDepth with
          | inl hle =>
              obtain hdeep | hsame := process_cut options hle t
              · exact absurd (lt_reach_of_process_too_deep hdeep) hreach
              · cases he.symm.trans (hsame.trans hother)
          | inr hle =>
              obtain hdeep | hsame := process_cut options hle t
              · cases hdeep.symm.trans hother
              · cases hother.symm.trans (hsame.trans he)
  · intro h
    cases hresult : process options t with
    | error e => exact ⟨e, rfl⟩
    | ok u =>
        cases h with
        | inl hreach => exact absurd (reach_le_of_process hresult) (Nat.not_le.2 hreach)
        | inr hrefused =>
            obtain ⟨e, he⟩ := hrefused options.maxDepth
            cases hresult.symm.trans he

end Bounds

/-! ### Nesting -/

theorem Tree.reach_le_nesting (mocha : Bool) (t : Tree) :
    t.reach mocha ≤ t.nesting + 1 := by
  induction t using induction_below with
  | step t ih =>
      refine reach_le_succ_iff.2 (.inr ⟨?_, ?_⟩)
      · cases t with
        | classDecl name parent body =>
            -- The parent of a test case is a node, and makes up for the name of the module.
            rw [includedLevels_le_iff]
            intro hincludes
            obtain ⟨scope, base, hparent⟩ :=
              ClassDeclaration.exists_scope_of_isTestCase hincludes.1
            change parent = some (.colon2 scope base) at hparent
            simp only [hparent, nesting, optionNesting]
            omega
        | _ => exact Nat.zero_le _
      · intro c hc
        have hlt := nesting_lt_of_mem_visited hc
        have hle := ih c (mem_children_of_mem_visited hc)
        omega

/-- A conversion is refused exactly if it goes further down than the bound, or if no bound lets it
through. So the bounds below the nesting of a tree refuse it exactly if the conversion goes down
as far as its nodes are nested, or if no bound lets it through. -/
theorem process_refuses_deep_iff (options : Options) (t : Tree) :
    ((∃ e, process options t = .error e) ↔
        options.maxDepth < t.reach options.mocha ∨ Refused options t) ∧
      ((∀ maxDepth, maxDepth < t.nesting → ∃ e, process { options with maxDepth } t = .error e) ↔
        t.nesting ≤ t.reach options.mocha ∨ Refused options t) := by
  refine ⟨process_error_iff options t, ?_⟩
  constructor
  · intro h
    by_cases hreach : t.nesting ≤ t.reach options.mocha
    · exact .inl hreach
    · have hlast := (process_error_iff { options with maxDepth := t.reach options.mocha } t).1
        (h _ (Nat.lt_of_not_le hreach))
      exact .inr (hlast.resolve_left (Nat.lt_irrefl _))
  · intro h maxDepth hdepth
    rw [process_error_iff]
    exact h.imp_left (Nat.lt_of_lt_of_le hdepth)

def deepStub : Tree :=
  .call (some (.call (some (.const "Foo")) "stubs" [.symbol "x"])) "returns"
    [.array [.array [.nil]]]

def scopedClass : Tree :=
  .classDecl (.sym "Foo") (some (.colon2 (.const "Bar") "Baz")) []

/-- Neither the array in a stub nor the parent of a class is held against the bound. -/
theorem process_passes_deep_trees :
    (1 < deepStub.nesting ∧ ∃ u, process { mocha := true, maxDepth := 1 } deepStub = .ok u) ∧
      1 < scopedClass.nesting ∧ process { maxDepth := 1 } scopedClass = .ok scopedClass :=
  ⟨⟨by decide, _, rfl⟩, by decide, rfl⟩

/-- One level more than the reader needs is enough for a conversion, also for the statement that
it puts into the test of a helper module. -/
theorem process_of_read_not_too_deep {maxDepth : Nat} {source : String} {t : Tree}
    (h : Notation.read maxDepth source = .ok t) (options : Options) (reported : Nat) :
    process { options with maxDepth := maxDepth + 1 } t ≠ .error (.nestingTooDeep reported) := by
  intro hdeep
  have hlt : maxDepth + 1 < t.reach options.mocha := lt_reach_of_process_too_deep hdeep
  have hnesting : t.nesting ≤ maxDepth := (Notation.root_of_read h).2
  have := t.reach_le_nesting options.mocha
  omega

/-- A test of a helper module without statements, its parent in a scope that is a bare symbol. -/
def emptyHelperTest : Tree :=
  .classDecl (.sym "FooHelperTest") (some (.colon2 (.sym "ActiveSupport") "TestCase")) []

theorem process_of_read_not_too_deep_emptyHelperTest :
    Notation.read 2 emptyHelperTest.written = .ok emptyHelperTest ∧
      process { maxDepth := 2 } emptyHelperTest = .error (.nestingTooDeep 2) ∧
      process { maxDepth := 3 } emptyHelperTest ≠ .error (.nestingTooDeep 3) := by
  have hsymbol : ∀ name, (Tree.sym name).WellFormed := fun _ =>
    Tree.wellFormed_of_leaf trivial rfl
  have hparent : (Tree.colon2 (.sym "ActiveSupport") "TestCase").WellFormed :=
    (Tree.wellFormed_iff _).2 ⟨trivial, List.forall_mem_singleton.2 (hsymbol _)⟩
  have hformed : emptyHelperTest.WellFormed := by
    refine (Tree.wellFormed_iff _).2 ⟨nofun, List.forall_mem_cons.2 ⟨hsymbol _, ?_⟩⟩
    exact List.forall_mem_singleton.2 hparent
  have hread : Notation.read 2 emptyHelperTest.written = .ok emptyHelperTest :=
    Notation.read_of_reads (Notation.reads_write hformed (by decide))
  exact ⟨hread, rfl, process_of_read_not_too_deep hread {} 3⟩

end Minispec
