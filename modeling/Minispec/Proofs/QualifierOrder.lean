import Mathlib.Data.List.Find
import Mathlib.Data.List.Nodup
import Minispec.Proofs.StubReading

/-!
The order of the qualifiers after `expects` or `stubs`. What a stub is called with, returns or
raises is found wherever it stands, so their order says nothing; how often a call is expected is
said by the last qualifier alone, and that may change with the order.
-/

namespace Minispec

/-- A link of a chain without the chain behind it. -/
structure Qualifier where
  method : String
  arguments : List Tree

/-- The qualifiers of mocha that have a counterpart. -/
def Qualifier.methods : List String :=
  ["with", "returns", "raises", "once", "twice", "never"]

namespace MethodCall

def followedBy (c : MethodCall) (q : Qualifier) : MethodCall where
  receiver := some (.call c.receiver c.method c.arguments)
  method := q.method
  arguments := q.arguments

/-- The outermost call of the chain that goes on with the given qualifiers. -/
def qualified (c : MethodCall) (qs : List Qualifier) : MethodCall :=
  qs.foldl followedBy c

variable {c : MethodCall} {q : Qualifier} {qs qs' : List Qualifier}

theorem links_followedBy : (c.followedBy q).links = c.followedBy q :: c.links :=
  links_call c.receiver c.method c.arguments q.method q.arguments

theorem find_followedBy {names : List String} (h : q.method ∉ names) :
    (c.followedBy q).find? names = c.find? names := by
  have hnamed : (c.followedBy q).isNamed names = false := by
    rw [← Bool.not_eq_true, isNamed, List.contains_iff_mem]
    exact h
  simp only [find?, links_followedBy, List.find?_cons, hnamed]

theorem find_qualified {names : List String} (h : ∀ q ∈ qs, q.method ∉ names) :
    (c.qualified qs).find? names = c.find? names := by
  induction qs generalizing c with
  | nil => rfl
  | cons q qs ih =>
      obtain ⟨hq, hqs⟩ := List.forall_mem_cons.1 h
      exact (ih hqs).trans (find_followedBy hq)

theorem argumentsOf_followedBy (method : String) :
    (c.followedBy q).argumentsOf? method =
      if q.method = method then some q.arguments else c.argumentsOf? method := by
  have hnamed : (c.followedBy q).isNamed [method] = decide (q.method = method) := by
    simp [isNamed, followedBy]
  rw [argumentsOf?, find?, links_followedBy, List.find?_cons, hnamed]
  split <;> simp_all [argumentsOf?, find?, followedBy]

/-- Arguments come from the qualifier of the name, if there is one, however many follow it. -/
theorem argumentsOf_qualified (hnodup : (qs.map (·.method)).Nodup) (method : String) :
    (c.qualified qs).argumentsOf? method =
      ((qs.find? (·.method = method)).map (·.arguments)).or (c.argumentsOf? method) := by
  induction qs generalizing c with
  | nil => rfl
  | cons q qs ih =>
      obtain ⟨hfresh, hrest⟩ := List.nodup_cons.1 hnodup
      change ((c.followedBy q).qualified qs).argumentsOf? method = _
      rw [ih hrest, argumentsOf_followedBy, List.find?_cons]
      by_cases hq : q.method = method
      · have hnone : qs.find? (·.method = method) = none := by
          rw [List.find?_eq_none]
          intro p hp hmethod
          exact hfresh (List.mem_map.2 ⟨p, hp, (of_decide_eq_true hmethod).trans hq.symm⟩)
        simp [hq, hnone]
      · simp [hq]

theorem stubsAnyInstance_qualified (h : ∀ q ∈ qs, q.method ∈ Qualifier.methods) :
    (c.qualified qs).stubsAnyInstance = c.stubsAnyInstance := by
  have hmark : ∀ method ∈ Qualifier.methods,
      occursIn "any_instance".toList method.toList = false := by decide
  induction qs generalizing c with
  | nil => rfl
  | cons q qs ih =>
      obtain ⟨hq, hqs⟩ := List.forall_mem_cons.1 h
      have hstep : (c.followedBy q).stubsAnyInstance = c.stubsAnyInstance := by
        have hnot : occursIn "any_instance".toList (c.followedBy q).method.toList = false :=
          hmark q.method hq
        rw [stubsAnyInstance, links_followedBy, List.any_cons, hnot, Bool.false_or,
          stubsAnyInstance]
      exact (ih hqs).trans hstep

/-! ### Reordering -/

theorem argumentsOf_qualified_perm (hnodup : (qs.map (·.method)).Nodup) (hperm : qs.Perm qs')
    (method : String) :
    (c.qualified qs').argumentsOf? method = (c.qualified qs).argumentsOf? method := by
  have hnodup' : (qs'.map (·.method)).Nodup := (hperm.map _).nodup_iff.1 hnodup
  have hfind : qs.find? (·.method = method) = qs'.find? (·.method = method) := by
    refine List.find?_eq_find?_of_perm hperm ?_
    intro p hp q hq
    exact List.inj_on_of_nodup_map hnodup hp.1 hq.1
      ((of_decide_eq_true hp.2).trans (of_decide_eq_true hq.2).symm)
  rw [argumentsOf_qualified hnodup, argumentsOf_qualified hnodup', hfind]

theorem anchor_qualified (hanchor : c.method ∈ mochaAnchors)
    (h : ∀ q ∈ qs, q.method ∈ Qualifier.methods) : (c.qualified qs).anchor? = some c := by
  have hdisjoint : ∀ method ∈ Qualifier.methods, method ∉ mochaAnchors := by decide
  have hnamed : c.isNamed mochaAnchors = true := List.contains_iff_mem.2 hanchor
  rw [anchor?, find_qualified fun q hq => hdisjoint _ (h q hq), find?, links]
  exact List.find?_cons_of_pos hnamed

/-- In another order, a chain stands for the same stub with the count that is then outermost. -/
theorem toStub_qualified_perm (hanchor : c.method ∈ mochaAnchors)
    (h : ∀ q ∈ qs, q.method ∈ Qualifier.methods) (hnodup : (qs.map (·.method)).Nodup)
    (hperm : qs.Perm qs') :
    (c.qualified qs').toStub = (c.qualified qs).toStub.map fun s =>
      { s with count := outermostCount c.method (c.qualified qs').method } := by
  have h' : ∀ q ∈ qs', q.method ∈ Qualifier.methods := fun q hq => h q (hperm.mem_iff.2 hq)
  have hlimits : ∀ method ∈ Qualifier.methods, method ∉ unsupportedCounts := by decide
  rw [toStub_eq (anchor_qualified hanchor h), toStub_eq (anchor_qualified hanchor h'),
    find_qualified fun q hq => hlimits _ (h q hq), find_qualified fun q hq => hlimits _ (h' q hq)]
  cases c.arguments with
  | nil => rfl
  | cons message rest =>
      cases c.find? unsupportedCounts with
      | some link => rfl
      | none =>
          simp only [stubAt, Except.map, stubsAnyInstance_qualified h,
            stubsAnyInstance_qualified h', argumentsOf_qualified_perm hnodup hperm]

theorem count_toStub_qualified (hanchor : c.method ∈ mochaAnchors)
    (h : ∀ q ∈ qs, q.method ∈ Qualifier.methods) {s : Stub}
    (hs : (c.qualified qs).toStub = .ok s) :
    s.count = outermostCount c.method (c.qualified qs).method := by
  rw [toStub_eq (anchor_qualified hanchor h)] at hs
  split at hs
  · cases hs
  · split at hs
    · cases hs
    · cases hs
      rfl

/-- The order of the qualifiers matters to the count at most: the count is what the outermost
link states, and orders in which that is the same give the same stub and the same statement. -/
theorem qualifier_order_irrelevant (hanchor : c.method ∈ mochaAnchors)
    (h : ∀ q ∈ qs, q.method ∈ Qualifier.methods) (hnodup : (qs.map (·.method)).Nodup)
    (hperm : qs.Perm qs') :
    ((c.qualified qs').toStub = (c.qualified qs).toStub.map fun s =>
      { s with count := outermostCount c.method (c.qualified qs').method }) ∧
    (outermostCount c.method (c.qualified qs').method =
        outermostCount c.method (c.qualified qs).method →
      (c.qualified qs').toStub = (c.qualified qs).toStub ∧
      (c.qualified qs').toStub >>= Stub.toRspec = (c.qualified qs).toStub >>= Stub.toRspec) := by
  have hreordered := toStub_qualified_perm hanchor h hnodup hperm
  refine ⟨hreordered, ?_⟩
  intro hcount
  have hsame : (c.qualified qs').toStub = (c.qualified qs).toStub := by
    rw [hreordered, hcount]
    cases hs : (c.qualified qs).toStub with
    | error e => rfl
    | ok s => rw [← count_toStub_qualified hanchor h hs]; rfl
  exact ⟨hsame, congrArg (· >>= Stub.toRspec) hsame⟩

/-- `Foo.expects(:bar)` -/
def fooExpectsBar : MethodCall :=
  ⟨some (.const "Foo"), "expects", [.symbol "bar"]⟩

theorem qualifier_order_irrelevant_before_once :
    (fooExpectsBar.qualified [⟨"returns", [.nil]⟩, ⟨"with", [.str "a"]⟩, ⟨"once", []⟩]).toStub =
      (fooExpectsBar.qualified
        [⟨"with", [.str "a"]⟩, ⟨"returns", [.nil]⟩, ⟨"once", []⟩]).toStub := by
  have hperm : [⟨"with", [.str "a"]⟩, ⟨"returns", [.nil]⟩, ⟨"once", []⟩].Perm
      [⟨"returns", [.nil]⟩, ⟨"with", [.str "a"]⟩, (⟨"once", []⟩ : Qualifier)] :=
    List.Perm.swap _ _ _
  have hanchor : fooExpectsBar.method ∈ mochaAnchors := by decide
  exact ((qualifier_order_irrelevant hanchor (by decide) (by decide) hperm).2 rfl).1

/-- One call is expected if `once` comes last, and any number if `returns` does. -/
theorem qualifier_order_changes_count :
    [⟨"returns", [.nil]⟩, ⟨"once", []⟩].Perm [⟨"once", []⟩, (⟨"returns", [.nil]⟩ : Qualifier)] ∧
      (fooExpectsBar.qualified [⟨"returns", [.nil]⟩, ⟨"once", []⟩]).toStub ≠
        (fooExpectsBar.qualified [⟨"once", []⟩, ⟨"returns", [.nil]⟩]).toStub ∧
      (fooExpectsBar.qualified [⟨"returns", [.nil]⟩, ⟨"once", []⟩]).toStub >>= Stub.toRspec ≠
        (fooExpectsBar.qualified [⟨"once", []⟩, ⟨"returns", [.nil]⟩]).toStub >>= Stub.toRspec := by
  refine ⟨List.Perm.swap _ _ _, ?_, ?_⟩
  · intro h
    cases h
  · intro h
    cases h

end MethodCall
end Minispec
