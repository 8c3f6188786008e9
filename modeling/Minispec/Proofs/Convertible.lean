import Minispec.Proofs.ClassOutline
import Minispec.Proofs.StubReading

/-!
The trees that a conversion accepts, described from the tree alone: how deep it may go, which
classes and which stubs it takes. The description says nothing about the result. Every refusal
is of one of five kinds; the other errors belong to reading, and to calls that are no stubs.
-/

namespace Minispec

/-! ### Accepted trees -/

/-- The chain can be read as a stub: its nearest anchor names a message, and no link sets a limit
that cannot be expressed. -/
def MethodCall.StubAccepted (c : MethodCall) : Prop :=
  (∃ anchor, c.anchor? = some anchor ∧ anchor.arguments ≠ []) ∧
    ∀ link ∈ c.links, link.method ∉ unsupportedCounts

/-- What a class at the given depth must satisfy apart from its statements. The module that a
describe block includes is two levels below the class. -/
def Tree.ClassAccepted (options : Options) (depth : Nat) : Tree → Prop
  | .classDecl name parent body =>
    AcceptedParent parent ∧ AcceptedName options.strictNames name ∧
      (TestClass.IncludesHelper ⟨name, parent, body⟩ → depth + 2 < options.maxDepth)
  | _ => True

/-- The tree can be converted at the given depth. A stub is judged as a whole, without a look at
the trees below it. -/
def Convertible (options : Options) (depth : Nat) (t : Tree) : Prop :=
  depth < options.maxDepth ∧
    if t.stubCall options.mocha = true then ∀ c ∈ t.methodCall?, c.StubAccepted
    else t.ClassAccepted options depth ∧ ∀ c ∈ t.visited, Convertible options (depth + 1) c
termination_by t.nesting
decreasing_by exact Tree.nesting_lt_of_mem_visited ‹_›

variable {options : Options} {depth levels : Nat} {t : Tree}

theorem convertible_stub_iff {c : MethodCall} (hstub : t.stubCall options.mocha = true)
    (hc : t.methodCall? = some c) :
    Convertible options depth t ↔ depth < options.maxDepth ∧ c.StubAccepted := by
  rw [Convertible, if_pos hstub, hc]
  simp only [Option.mem_some_iff, forall_eq']

theorem convertible_other_iff (hstub : t.stubCall options.mocha = false) :
    Convertible options depth t ↔ depth < options.maxDepth ∧ t.ClassAccepted options depth ∧
      ∀ c ∈ t.visited, Convertible options (depth + 1) c := by
  rw [Convertible, if_neg (Bool.not_eq_true _ ▸ hstub)]

theorem convertible_include_iff (described : String) :
    Convertible options depth (.call none "include" [.const described]) ↔
      depth + 1 < options.maxDepth := by
  have hcall : (Tree.call none "include" [.const described]).stubCall options.mocha = false := by
    cases options.mocha <;> rfl
  have hconst : (Tree.const described).stubCall options.mocha = false := by
    cases options.mocha <;> rfl
  rw [convertible_other_iff hcall]
  simp only [Tree.ClassAccepted, Tree.visited, Tree.children, Option.toList_none, List.nil_append,
    List.forall_mem_singleton, convertible_other_iff hconst, List.not_mem_nil, true_and,
    IsEmpty.forall_iff, implies_true, and_true]
  omega

/-! ### Stubs -/

namespace MochaStub
variable {c : MethodCall}

theorem exists_convert_ok_iff (hc : t.methodCall? = some c) (h : c.isMochaStub = true) :
    (∃ u, convert t = .ok u) ↔ c.StubAccepted := by
  obtain ⟨anchor, hanchor⟩ := MethodCall.exists_anchor h
  rw [convert_eq hc, MethodCall.toStub_eq hanchor, MethodCall.StubAccepted,
    ← MethodCall.find_unsupported_eq_none_iff]
  simp only [hanchor, Option.some.injEq, exists_eq_left', bind_ok_iff]
  cases anchor.arguments with
  | nil => simp
  | cons message rest =>
      cases c.find? MethodCall.unsupportedCounts with
      | some link => simp
      | none =>
          obtain ⟨u, hu⟩ := Stub.exists_toRspec_stubAt c anchor message
          simp [hu]

theorem convert_error (hc : t.methodCall? = some c) (h : c.isMochaStub = true) {e : Error}
    (herror : convert t = .error e) :
    (∃ fault, e = .unknownStubShape fault) ∨ ∃ count, e = .unsupportedCallCount count := by
  obtain ⟨anchor, hanchor⟩ := MethodCall.exists_anchor h
  rw [convert_eq hc, MethodCall.toStub_eq hanchor] at herror
  cases harguments : anchor.arguments with
  | nil =>
      rw [harguments] at herror
      cases herror
      exact .inl ⟨_, rfl⟩
  | cons message rest =>
      rw [harguments] at herror
      cases hlimit : c.find? MethodCall.unsupportedCounts with
      | some link =>
          rw [hlimit] at herror
          cases herror
          exact .inr ⟨_, rfl⟩
      | none =>
          rw [hlimit] at herror
          obtain ⟨u, hu⟩ := Stub.exists_toRspec_stubAt c anchor message
          cases hu.symm.trans herror

end MochaStub

/-! ### Classes -/

theorem exists_converted_class_iff {name : Tree} {parent : Option Tree} {body : List Tree} :
    (∃ u, converted options (levels + 1) (.classDecl name parent body) = .ok u) ↔
      ∃ p, TestClass.prepare options (.classDecl name parent body) = .ok p ∧
        ∀ s ∈ p.2, ∃ r, converted options levels s = .ok r := by
  simp only [converted_class_ok_iff, ← exists_mapM_ok_iff, mapM_ok_iff]
  constructor
  · intro h
    obtain ⟨u, heading, statements, results, hprepare, hresults, rfl⟩ := h
    exact ⟨(heading, statements), hprepare, results, hresults⟩
  · intro h
    obtain ⟨⟨heading, statements⟩, hprepare, results, hresults⟩ := h
    exact ⟨_, heading, statements, results, hprepare, hresults, rfl⟩

theorem convertible_class_iff {name : Tree} {parent : Option Tree} {body : List Tree}
    (hdepth : depth < options.maxDepth) :
    Convertible options depth (.classDecl name parent body) ↔
      ∃ p, TestClass.prepare options (.classDecl name parent body) = .ok p ∧
        ∀ s ∈ p.2, Convertible options (depth + 1) s := by
  rw [convertible_other_iff (Tree.stubCall_classDecl _ name parent body)]
  simp only [hdepth, true_and, Tree.ClassAccepted, Tree.visited, TestClass.prepare_ok_iff]
  constructor
  · intro h
    obtain ⟨⟨hparent, hname, hhelper⟩, hbody⟩ := h
    obtain ⟨_, n, hn⟩ := (ClassDeclaration.acceptedName_iff _ ⟨name, parent, body⟩).1 hname
    refine ⟨_, ⟨hparent, hname, n, hn, rfl⟩, ?_⟩
    intro s hs
    cases (TestClass.mem_outline_iff hn).1 hs with
    | inl hinclude =>
        rw [hinclude.2]
        exact (convertible_include_iff _).2 (hhelper hinclude.1)
    | inr hs => exact hbody s hs
  · intro h
    obtain ⟨_, ⟨hparent, hname, n, hn, rfl⟩, hall⟩ := h
    refine ⟨⟨hparent, hname, ?_⟩, ?_⟩
    · intro hincludes
      have hmem : _ ∈ (TestClass.outline options ⟨name, parent, body⟩ n).2 :=
        (TestClass.mem_outline_iff hn).2 (.inl ⟨hincludes, rfl⟩)
      exact (convertible_include_iff _).1 (hall _ hmem)
    · intro s hs
      exact hall s ((TestClass.mem_outline_iff hn).2 (.inr hs))

/-! ### Conversion -/

/-- The levels that are left at a depth are enough exactly for what is convertible there. -/
theorem exists_converted_iff (h : depth + levels = options.maxDepth) :
    (∃ u, converted options levels t = .ok u) ↔ Convertible options depth t := by
  induction levels generalizing depth t with
  | zero =>
      rw [Convertible]
      refine ⟨nofun, fun hconvertible => ?_⟩
      have := hconvertible.1
      omega
  | succ levels ih =>
      have hdepth : depth < options.maxDepth := by omega
      have below : ∀ c, (∃ u, converted options levels c = .ok u) ↔
          Convertible options (depth + 1) c := fun c => ih (by omega)
      cases t.dispatch options.mocha with
      | stub hstub hc hmocha =>
          rw [converted_stub hstub, MochaStub.exists_convert_ok_iff hc hmocha,
            convertible_stub_iff hstub hc]
          exact ⟨fun haccepted => ⟨hdepth, haccepted⟩, And.right⟩
      | classDecl name parent body =>
          rw [exists_converted_class_iff, convertible_class_iff hdepth]
          simp only [below]
      | other hclass hstub =>
          have haccepted : t.ClassAccepted options depth := by
            cases t with
            | classDecl _ _ _ => cases hclass
            | _ => trivial
          rw [converted_other hclass hstub, Tree.exists_mapChildren_ok_iff,
            convertible_other_iff hstub]
          simp only [below, hdepth, haccepted, true_and]

/-- The errors with which a conversion can end. -/
def Error.OfConversion (options : Options) : Error → Prop
  | .nestingTooDeep maxDepth => maxDepth = options.maxDepth
  | .structuralMismatch _ _ | .unsupportedNameForm _ | .unknownStubShape _
  | .unsupportedCallCount _ => True
  | .receiverNotFound _ | .malformedNotation _ | .invalidOptions => False

theorem converted_error {e : Error} (h : converted options levels t = .error e) :
    e.OfConversion options := by
  induction levels generalizing t with
  | zero =>
      cases h
      exact rfl
  | succ levels ih =>
      cases t.dispatch options.mocha with
      | stub hstub hc hmocha =>
          rw [converted_stub hstub] at h
          obtain ⟨_, rfl⟩ | ⟨_, rfl⟩ := MochaStub.convert_error hc hmocha h <;> trivial
      | classDecl name parent body =>
          obtain hprepare | ⟨_, _, hinclude⟩ | ⟨_, _, hs⟩ := TestClass.error_of_converted h
          · obtain ⟨_, _, rfl⟩ | ⟨_, rfl⟩ := TestClass.prepare_error hprepare <;> trivial
          · exact ih hinclude
          · exact ih hs
      | other hclass hstub =>
          rw [converted_other hclass hstub] at h
          obtain ⟨c, _, hc⟩ := Tree.mapChildren_error h
          exact ih hc

/-- A conversion succeeds exactly on convertible trees, and the errors of all others are those of
the conversion itself. -/
theorem process_succeeds_iff_convertible (options : Options) (t : Tree) :
    ((∃ u, process options t = .ok u) ↔ Convertible options 0 t) ∧
      ∀ e, process options t = .error e → e.OfConversion options := by
  rw [process_eq_converted]
  exact ⟨exists_converted_iff (Nat.zero_add _), fun _ => converted_error⟩

/-- A test of a helper module needs three levels even if it is empty: one for the class, one for
the statement that includes the module and one for the name of the module. -/
theorem process_empty_helper_test :
    process { maxDepth := 2 } (.classDecl (.sym "FooHelperTest")
        (some (.colon2 (.const "ActiveSupport") "TestCase")) []) = .error (.nestingTooDeep 2) ∧
      (Error.nestingTooDeep 2).OfConversion { maxDepth := 2 } ∧
      Convertible { maxDepth := 3 } 0 (.classDecl (.sym "FooHelperTest")
        (some (.colon2 (.const "ActiveSupport") "TestCase")) []) := by
  refine ⟨rfl, ?_, ?_⟩
  · exact (process_succeeds_iff_convertible _ _).2 _ (rfl : process { maxDepth := 2 }
      (.classDecl (.sym "FooHelperTest") (some (.colon2 (.const "ActiveSupport") "TestCase")) []) =
        .error (.nestingTooDeep 2))
  · exact (process_succeeds_iff_convertible _ _).1.1 ⟨_, rfl⟩

end Minispec
