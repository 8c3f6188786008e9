import Minispec.Proofs.QualifierOrder
import Minispec.Proofs.StatementPieces

/-!
The calls on the stubbed object. A chain is searched to its end, past the anchor, so what the chain
down to the anchor leaves open is filled in from the calls that make up the object. Two chains that
differ in the object alone are compared here: whether they are read alike is decided by the roles
and limits that no link of the common part has. That the object and the mark for all instances
differ goes without saying.
-/

namespace Minispec.MethodCall

/-! ### Nearest calls -/

/-- The call without what it is called on. -/
def qualifier (c : MethodCall) : Qualifier :=
  ⟨c.method, c.arguments⟩

/-- The nearest link with one of the names. -/
def nearest? (c : MethodCall) (names : List String) : Option Qualifier :=
  (c.find? names).map qualifier

/-- The nearest call with one of the names among those that make up an object. -/
def nearestOn? (object : Option Tree) (names : List String) : Option Qualifier :=
  ((object.elim [] Tree.calls).find? (·.isNamed names)).map qualifier

/-- The last of the qualifiers with one of the names. -/
def lastNamed? (qs : List Qualifier) (names : List String) : Option Qualifier :=
  qs.reverse.find? (·.method ∈ names)

/-- The chain of an anchor and the qualifiers that follow it, on the given object. -/
def chainOn (anchor : MethodCall) (qs : List Qualifier) (object : Option Tree) : MethodCall :=
  { anchor with receiver := object }.qualified qs

variable {c anchor : MethodCall} {qs : List Qualifier} {names : List String}
  {object object' : Option Tree}

theorem links_on (c : MethodCall) (object : Option Tree) :
    links { c with receiver := object } =
      { c with receiver := object } :: object.elim [] Tree.calls := by
  cases object with
  | none => rfl
  | some t =>
      cases t with
      | call receiver method args => exact links_call receiver method args c.method c.arguments
      | _ => rfl

theorem nearest_on (h : c.method ∉ names) :
    nearest? { c with receiver := object } names = nearestOn? object names := by
  have hnamed : isNamed { c with receiver := object } names = false := by
    rw [← Bool.not_eq_true, isNamed, List.contains_iff_mem]
    exact h
  simp only [nearest?, find?, links_on, List.find?_cons, hnamed, nearestOn?]

theorem nearest_followedBy {q : Qualifier} :
    (c.followedBy q).nearest? names = if q.method ∈ names then some q else c.nearest? names := by
  by_cases h : q.method ∈ names
  · have hnamed : (c.followedBy q).isNamed names = true := List.contains_iff_mem.2 h
    rw [if_pos h, nearest?, find?, links_followedBy, List.find?_cons, hnamed]
    rfl
  · rw [if_neg h, nearest?, find_followedBy h, nearest?]

theorem nearest_qualified :
    (c.qualified qs).nearest? names = (lastNamed? qs names).or (c.nearest? names) := by
  induction qs generalizing c with
  | nil => rfl
  | cons q qs ih =>
      have hnext : c.qualified (q :: qs) = (c.followedBy q).qualified qs := rfl
      rw [hnext, ih, nearest_followedBy]
      by_cases h : q.method ∈ names
      · simp [lastNamed?, List.find?_append, h]
      · simp [lastNamed?, List.find?_append, h]

/-- A search finds a link of the chain first, and then a call on the object. -/
theorem nearest_chainOn (h : anchor.method ∉ names) :
    (anchor.chainOn qs object).nearest? names =
      (lastNamed? qs names).or (nearestOn? object names) := by
  rw [chainOn, nearest_qualified, nearest_on h]

theorem lastNamed_eq_none_iff :
    lastNamed? qs names = none ↔ ¬ ∃ q ∈ qs, q.method ∈ names := by
  simp [lastNamed?]

/-- Searches on two objects agree where the chain has a link of its own, or where both objects
have the same to offer. -/
theorem map_nearest_chainOn_iff {α : Type} (f : Qualifier → α) (h : anchor.method ∉ names) :
    ((anchor.chainOn qs object).nearest? names).map f =
        ((anchor.chainOn qs object').nearest? names).map f ↔
      (∃ q ∈ qs, q.method ∈ names) ∨
        (nearestOn? object names).map f = (nearestOn? object' names).map f := by
  rw [nearest_chainOn h, nearest_chainOn h]
  by_cases hown : ∃ q ∈ qs, q.method ∈ names
  · cases hlast : lastNamed? qs names with
    | some q => simp only [Option.some_or, hown, true_or]
    | none => exact absurd hown (lastNamed_eq_none_iff.1 hlast)
  · rw [lastNamed_eq_none_iff.2 hown]
    simp only [Option.none_or, hown, false_or]

/-! ### Parts of a stub -/

theorem argumentsOf_eq (c : MethodCall) (role : String) :
    c.argumentsOf? role = (c.nearest? [role]).map (·.arguments) := by
  rw [argumentsOf?, nearest?, Option.map_map]
  rfl

theorem stubCount_eq (c : MethodCall) :
    c.stubCount = ((c.nearest? unsupportedCounts).map (·.method)).elim c.statedCount
      fun limit => .error (.unsupportedCallCount limit) := by
  rw [stubCount, nearest?]
  cases c.find? unsupportedCounts <;> rfl

/-- Where the same count is stated, the counts agree exactly if the same limit is refused. -/
theorem stubCount_eq_iff {c c' : MethodCall} {count : Option Int64}
    (h : c.statedCount = .ok count) (h' : c'.statedCount = .ok count) :
    c.stubCount = c'.stubCount ↔
      (c.nearest? unsupportedCounts).map (·.method) =
        (c'.nearest? unsupportedCounts).map (·.method) := by
  rw [stubCount_eq, stubCount_eq, h, h']
  generalize (c.nearest? unsupportedCounts).map (·.method) = limit
  generalize (c'.nearest? unsupportedCounts).map (·.method) = limit'
  cases limit <;> cases limit' <;> simp

theorem anchor_chainOn (hanchor : anchor.method ∈ mochaAnchors)
    (hqs : ∀ q ∈ qs, q.method ∉ mochaAnchors) (object : Option Tree) :
    (anchor.chainOn qs object).anchor? = some { anchor with receiver := object } := by
  have hnamed : isNamed { anchor with receiver := object } mochaAnchors = true :=
    List.contains_iff_mem.2 hanchor
  rw [anchor?, chainOn, find_qualified hqs, find?, links]
  exact List.find?_cons_of_pos hnamed

theorem method_chainOn (anchor : MethodCall) (qs : List Qualifier) (object object' : Option Tree) :
    (anchor.chainOn qs object).method = (anchor.chainOn qs object').method := by
  obtain rfl | ⟨qs, q, rfl⟩ := List.eq_nil_or_concat qs
  · rfl
  · simp only [chainOn, qualified, List.concat_eq_append, List.foldl_append, List.foldl_cons,
      List.foldl_nil, followedBy]

theorem stubMessage_chainOn (hanchor : anchor.method ∈ mochaAnchors)
    (hqs : ∀ q ∈ qs, q.method ∉ mochaAnchors) (object object' : Option Tree) :
    (anchor.chainOn qs object).stubMessage = (anchor.chainOn qs object').stubMessage := by
  rw [stubMessage, stubMessage, anchor_chainOn hanchor hqs, anchor_chainOn hanchor hqs]

/-- The stated count does not depend on the object. -/
theorem statedCount_chainOn (hanchor : anchor.method ∈ mochaAnchors)
    (hqs : ∀ q ∈ qs, q.method ∉ mochaAnchors) (object object' : Option Tree) :
    (anchor.chainOn qs object').statedCount =
      .ok (outermostCount anchor.method (anchor.chainOn qs object).method) := by
  rw [statedCount_eq (anchor_chainOn hanchor hqs object'), method_chainOn anchor qs object object']

/-! ### Chains that are read alike -/

/-- The parts of a stub that are read from qualifiers of the same name. -/
def roles : List String :=
  ["with", "returns", "raises"]

/-- Message, count and qualifiers of two chains are the same, and so is the stub or the failure,
but for the object and for whether all instances are meant. -/
structure ReadAlike (c c' : MethodCall) : Prop where
  message : c.stubMessage = c'.stubMessage
  count : c.stubCount = c'.stubCount
  arguments : ∀ role ∈ roles, c.argumentsOf? role = c'.argumentsOf? role
  stub : ∃ receiver anyInstance,
    c'.toStub = c.toStub.map fun s => { s with receiver, anyInstance }

theorem toStub_of_parts {c' anchor' : MethodCall} (hanchor : c.anchor? = some anchor)
    (hanchor' : c'.anchor? = some anchor') (hmessage : c.stubMessage = c'.stubMessage)
    (hcount : c.stubCount = c'.stubCount)
    (harguments : ∀ role ∈ roles, c.argumentsOf? role = c'.argumentsOf? role) :
    c'.toStub = c.toStub.map fun s =>
      { s with receiver := anchor'.stubbedObject, anyInstance := c'.stubsAnyInstance } := by
  have hwith := harguments "with" (by decide)
  have hreturns := harguments "returns" (by decide)
  have hraises := harguments "raises" (by decide)
  simp only [toStub, stubReceiver, hanchor, hanchor', hmessage, hcount, hwith, hreturns, hraises]
  cases c'.stubMessage with
  | error e => rfl
  | ok message => cases c'.stubCount <;> rfl

/-- Chains that differ in the object alone name the same message. They are read alike exactly if
the objects offer the same wherever the chain has no link of its own: the same arguments for each
role, and the same limit that is refused. -/
theorem readAlike_iff (hanchor : anchor.method ∈ mochaAnchors)
    (hqs : ∀ q ∈ qs, q.method ∉ mochaAnchors) (object object' : Option Tree) :
    (anchor.chainOn qs object).stubMessage = (anchor.chainOn qs object').stubMessage ∧
    (ReadAlike (anchor.chainOn qs object) (anchor.chainOn qs object') ↔
      (∀ role ∈ roles, (∃ q ∈ qs, q.method = role) ∨
        (nearestOn? object [role]).map (·.arguments) =
          (nearestOn? object' [role]).map (·.arguments)) ∧
      ((∃ q ∈ qs, q.method ∈ unsupportedCounts) ∨
        (nearestOn? object unsupportedCounts).map (·.method) =
          (nearestOn? object' unsupportedCounts).map (·.method))) := by
  have hroles : ∀ anchor ∈ mochaAnchors, ∀ role ∈ roles, anchor ∉ [role] := by decide
  have hlimits : ∀ anchor ∈ mochaAnchors, anchor ∉ unsupportedCounts := by decide
  have hmessage := stubMessage_chainOn hanchor hqs object object'
  have harguments : ∀ role ∈ roles,
      ((anchor.chainOn qs object).argumentsOf? role =
          (anchor.chainOn qs object').argumentsOf? role ↔
        (∃ q ∈ qs, q.method = role) ∨ (nearestOn? object [role]).map (·.arguments) =
          (nearestOn? object' [role]).map (·.arguments)) := by
    intro role hrole
    rw [argumentsOf_eq, argumentsOf_eq,
      map_nearest_chainOn_iff _ (hroles _ hanchor role hrole)]
    simp only [List.mem_singleton]
  have hcount := (stubCount_eq_iff (statedCount_chainOn hanchor hqs object object)
    (statedCount_chainOn hanchor hqs object object')).trans
      (map_nearest_chainOn_iff _ (hlimits _ hanchor))
  refine ⟨hmessage, ?_⟩
  constructor
  · intro h
    exact ⟨fun role hrole => (harguments role hrole).1 (h.arguments role hrole),
      hcount.1 h.count⟩
  · intro h
    have hsame := fun role hrole => (harguments role hrole).2 (h.1 role hrole)
    exact ⟨hmessage, hcount.2 h.2, hsame, _, _,
      toStub_of_parts (anchor_chainOn hanchor hqs object) (anchor_chainOn hanchor hqs object')
        hmessage (hcount.2 h.2) hsame⟩

/-- `Foo.with("a")`, a call on an object that has nothing to do with stubs. -/
def fooWithA : Tree :=
  .call (some (.const "Foo")) "with" [.str "a"]

/-- `Foo.exactly("a")` -/
def fooExactlyA : Tree :=
  .call (some (.const "Foo")) "exactly" [.str "a"]

theorem readAlike_with_of_its_own :
    ReadAlike (fooExpectsBar.chainOn [⟨"with", [.str "b"]⟩] (some fooWithA))
      (fooExpectsBar.chainOn [⟨"with", [.str "b"]⟩] (some (.const "Foo"))) := by
  have hanchor : fooExpectsBar.method ∈ mochaAnchors := by decide
  have hqs : ∀ q ∈ [(⟨"with", [.str "b"]⟩ : Qualifier)], q.method ∉ mochaAnchors := by decide
  apply (readAlike_iff hanchor hqs (some fooWithA) (some (.const "Foo"))).2.2
  refine ⟨?_, .inr rfl⟩
  rw [roles, List.forall_mem_cons, List.forall_mem_cons, List.forall_mem_singleton]
  exact ⟨.inl ⟨_, List.mem_cons_self, rfl⟩, .inr rfl, .inr rfl⟩

/-- A call named `with` on the object is taken for a qualifier, and one named `exactly` for a limit
that is refused. -/
theorem object_calls_taken_for_qualifiers :
    (∀ c ∈ fooWithA.methodCall?, c.method ≠ "any_instance") ∧
    (∀ c ∈ fooExactlyA.methodCall?, c.method ≠ "any_instance") ∧
    ¬ ReadAlike (fooExpectsBar.chainOn [] (some fooWithA))
      (fooExpectsBar.chainOn [] (some (.const "Foo"))) ∧
    (fooExpectsBar.chainOn [] (some fooExactlyA)).toStub =
      .error (.unsupportedCallCount "exactly") ∧
    ∃ s, (fooExpectsBar.chainOn [] (some (.const "Foo"))).toStub = .ok s := by
  refine ⟨?_, ?_, ?_, rfl, _, rfl⟩
  · intro c hc
    cases hc
    decide
  · intro c hc
    cases hc
    decide
  · intro h
    cases h.arguments "with" (by decide)

end Minispec.MethodCall
