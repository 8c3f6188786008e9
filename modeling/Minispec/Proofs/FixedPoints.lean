import Minispec.Proofs.ClassOutline
import Minispec.Proofs.StubReading

/-!
The trees that a conversion leaves as they are: all that it visits lies within the levels, no
call is a stub, and no class is a test case or has anything to flatten or to join. Names and
parents of classes are not visited, so nothing is said about the trees in them.
-/

namespace Minispec

namespace Tree

/-- Everything that a conversion visits is reached within the given number of levels. -/
def Within : Nat → Tree → Prop
  | 0, _ => False
  | levels + 1, t => ∀ c ∈ t.visited, Within levels c

theorem within_of_nesting_lt {levels : Nat} {t : Tree} (h : t.nesting < levels) :
    t.Within levels := by
  induction levels generalizing t with
  | zero => omega
  | succ levels ih =>
      intro c hc
      apply ih
      have := nesting_lt_of_mem_visited hc
      omega

/-- Neither rule has anything to do at the root. -/
def SettledHere (mocha : Bool) : Tree → Prop
  | .classDecl name parent body =>
    (∃ n, name = .sym n) ∧ AcceptedParent parent ∧
      (ClassDeclaration.mk name parent body).isTestCase = false ∧ body.length ≤ 1
  | t => t.stubCall mocha = false

/-- Neither rule has anything to do at any place that is visited. -/
def Settled (mocha : Bool) (t : Tree) : Prop :=
  t.SettledHere mocha ∧ ∀ c ∈ t.visited, c.Settled mocha
termination_by t.nesting
decreasing_by exact nesting_lt_of_mem_visited ‹_›

variable {mocha : Bool} {t : Tree}

theorem settled_iff :
    t.Settled mocha ↔ t.SettledHere mocha ∧ ∀ c ∈ t.visited, c.Settled mocha := by
  rw [Settled]

/-- The places of a tree that are visited, with their depth below the root. -/
inductive VisitsAt : Tree → Nat → Tree → Prop
  | root (t : Tree) : VisitsAt t 0 t
  | deeper {t c d : Tree} {depth : Nat} (hc : c ∈ t.visited) (hd : VisitsAt c depth d) :
      VisitsAt t (depth + 1) d

theorem forall_visitsAt_iff {p : Nat → Tree → Prop} :
    (∀ depth d, t.VisitsAt depth d → p depth d) ↔
      p 0 t ∧ ∀ c ∈ t.visited, ∀ depth d, c.VisitsAt depth d → p (depth + 1) d := by
  constructor
  · intro h
    exact ⟨h 0 t (.root t), fun c hc depth d hd => h (depth + 1) d (.deeper hc hd)⟩
  · intro h depth d hd
    cases hd with
    | root => exact h.1
    | deeper hc hd => exact h.2 _ hc _ d hd

theorem within_iff {levels : Nat} :
    t.Within levels ↔ ∀ depth d, t.VisitsAt depth d → depth < levels := by
  induction levels generalizing t with
  | zero => exact ⟨nofun, fun h => absurd (h 0 t (.root t)) (Nat.not_lt_zero 0)⟩
  | succ levels ih =>
      rw [forall_visitsAt_iff]
      simp only [Within, ih, Nat.zero_lt_succ, true_and, Nat.add_lt_add_iff_right]

theorem settled_iff_visitsAt :
    t.Settled mocha ↔ ∀ depth d, t.VisitsAt depth d → d.SettledHere mocha := by
  induction t using induction_below with
  | step t ih =>
      rw [forall_visitsAt_iff, settled_iff]
      refine and_congr_right fun _ => forall₂_congr fun c hc => ?_
      exact ih c (mem_children_of_mem_visited hc)

theorem settledHere_iff (hclass : TestClass.claims t = false) :
    t.SettledHere mocha ↔ t.stubCall mocha = false := by
  cases t with
  | classDecl _ _ _ => cases hclass
  | _ => rfl

theorem not_settledHere (h : t.stubCall mocha = true) : ¬ t.SettledHere mocha := by
  intro hhere
  cases t with
  | classDecl name parent body =>
      rw [stubCall_classDecl] at h
      cases h
  | _ => cases h.symm.trans hhere

end Tree

/-! ### Classes with nothing to change -/

namespace TestClass

theorem length_joinBody_le (ts : List Tree) : (joinBody ts).toList.length ≤ 1 := by
  cases joinBody ts with
  | none => exact Nat.zero_le 1
  | some t => exact Nat.le_refl 1

theorem joinBody_of_length_le {ts : List Tree} (h : ts.length ≤ 1) :
    (joinBody ts).toList = ts := by
  cases ts with
  | nil => rfl
  | cons t ts =>
      cases ts with
      | nil => rfl
      | cons _ _ => exact absurd h (by simp)

end TestClass

section FixedPoints
variable {options : Options} {levels : Nat} {t : Tree}

theorem converted_class_self_iff {name : Tree} {parent : Option Tree} {body : List Tree} :
    converted options (levels + 1) (.classDecl name parent body) =
        .ok (.classDecl name parent body) ↔
      (Tree.classDecl name parent body).SettledHere options.mocha ∧
        ∀ s ∈ body, converted options levels s = .ok s := by
  rw [converted_class_ok_iff]
  simp only [TestClass.prepare_ok_iff, Tree.SettledHere]
  constructor
  · intro h
    obtain ⟨heading, statements, results, ⟨hparent, _, n, _, hp⟩, hresults, hclose⟩ := h
    cases htest : (ClassDeclaration.mk name parent body).isTestCase with
    | true =>
        rw [TestClass.outline_testCase htest] at hp
        obtain ⟨rfl, _⟩ := Prod.mk.inj hp
        cases hclose
    | false =>
        rw [TestClass.outline_plain htest] at hp
        obtain ⟨rfl, hstatements⟩ : heading = .plain n parent ∧ statements = body :=
          Prod.mk.inj hp
        rw [hstatements] at hresults
        obtain ⟨hname, _, hbody⟩ := Tree.classDecl.inj hclose
        have hone : body.length ≤ 1 := hbody ▸ TestClass.length_joinBody_le results
        have hsame : body = results :=
          hbody.trans (TestClass.joinBody_of_length_le (hresults.length_eq ▸ hone))
        refine ⟨⟨⟨n, hname⟩, hparent, rfl, hone⟩, ?_⟩
        rw [← hsame] at hresults
        exact List.forall₂_same.1 hresults
  · intro h
    obtain ⟨⟨⟨n, rfl⟩, hparent, htest, hone⟩, hbody⟩ := h
    refine ⟨.plain n parent, body, body, ⟨hparent, trivial, n, rfl, ?_⟩,
      List.forall₂_same.2 hbody, ?_⟩
    · rw [TestClass.outline_plain htest]
    · rw [TestClass.Heading.close, TestClass.joinBody_of_length_le hone]

theorem Stub.stubCall_statement (s : Stub) (count : Option String) (mocha : Bool) :
    (s.statement count).stubCall mocha = false := by
  cases mocha <;> rfl

/-- A conversion leaves exactly the settled trees as they are, provided that it reaches all. -/
theorem converted_self_iff :
    converted options levels t = .ok t ↔ t.Within levels ∧ t.Settled options.mocha := by
  induction levels generalizing t with
  | zero => exact ⟨nofun, nofun⟩
  | succ levels ih =>
      have below : (∀ c ∈ t.visited, converted options levels c = .ok c) ↔
          t.Within (levels + 1) ∧ ∀ c ∈ t.visited, c.Settled options.mocha := by
        simp only [ih, Tree.Within, forall_and]
      rw [Tree.settled_iff, and_left_comm, ← below]
      cases t.dispatch options.mocha with
      | stub hstub hc hmocha =>
          constructor
          · intro hself
            rw [converted_stub hstub] at hself
            obtain ⟨s, count, _, _, rfl⟩ := MochaStub.convert_ok hc hself
            rw [s.stubCall_statement] at hstub
            cases hstub
          · intro h
            exact absurd h.1 (Tree.not_settledHere hstub)
      | classDecl name parent body => exact converted_class_self_iff
      | other hclass hstub =>
          rw [converted_other hclass hstub, Tree.mapChildren_self_iff]
          exact ⟨fun h => ⟨(Tree.settledHere_iff hclass).2 hstub, h⟩, And.right⟩

/-- A conversion gives back the tree itself exactly if every place that is visited is less deep
than the bound and neither rule has anything to do there. -/
theorem process_self_iff (options : Options) (t : Tree) :
    process options t = .ok t ↔
      ∀ depth d, t.VisitsAt depth d →
        depth < options.maxDepth ∧ d.SettledHere options.mocha := by
  rw [process_eq_converted, converted_self_iff, Tree.within_iff, Tree.settled_iff_visitsAt]
  constructor
  · intro h depth d hd
    exact ⟨h.1 depth d hd, h.2 depth d hd⟩
  · intro h
    exact ⟨fun depth d hd => (h depth d hd).1, fun depth d hd => (h depth d hd).2⟩

end FixedPoints
end Minispec
