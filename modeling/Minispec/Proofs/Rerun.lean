import Minispec.Proofs.FixedPoints

/-!
What is left to convert after a conversion. A stub takes over its object, its message and its
arguments without converting them, so these are all that a second conversion can change: the
describe blocks, the joined bodies and the rspec chains that a first one writes are settled.
-/

namespace Minispec

/-! ### Chains without an anchor -/

namespace Tree

/-- No call along the receivers starts a stub. -/
def Unanchored (t : Tree) : Prop :=
  ∀ c ∈ t.methodCall?, c.anchor? = none

theorem unanchored_of_not_call {t : Tree} (h : t.methodCall? = none) : t.Unanchored := by
  intro c hc
  rw [h] at hc
  cases hc

theorem unanchored_call_iff {receiver : Option Tree} {method : String} {args : List Tree} :
    (call receiver method args).Unanchored ↔
      method ∉ MethodCall.mochaAnchors ∧ ∀ r ∈ receiver, r.Unanchored := by
  have hroot : (call receiver method args).Unanchored ↔
      ∀ link ∈ MethodCall.links ⟨receiver, method, args⟩,
        link.method ∉ MethodCall.mochaAnchors := by
    simp only [Unanchored, methodCall?, Option.mem_some_iff, forall_eq', MethodCall.anchor?,
      MethodCall.find?, List.find?_eq_none, MethodCall.isNamed, List.contains_iff_mem]
  rw [hroot]
  cases receiver with
  | none => simp [MethodCall.links_none]
  | some r =>
      simp only [Option.mem_some_iff, forall_eq']
      cases hr : r.methodCall? with
      | none => simp [MethodCall.links_of_not_call hr, unanchored_of_not_call hr]
      | some c =>
          cases r with
          | call receiver' method' args' =>
              simp only [MethodCall.links_call, List.forall_mem_cons, Unanchored, methodCall?,
                Option.mem_some_iff, forall_eq', MethodCall.anchor?, MethodCall.find?,
                List.find?_eq_none, MethodCall.isNamed, List.contains_iff_mem]
          | _ => cases hr

theorem unanchored_start {method : String} (hmethod : method ∉ MethodCall.mochaAnchors)
    (args : List Tree) : (call none method args).Unanchored :=
  unanchored_call_iff.2 ⟨hmethod, nofun⟩

theorem Unanchored.call {chain : Tree} (h : chain.Unanchored) {method : String}
    (hmethod : method ∉ MethodCall.mochaAnchors) (args : List Tree) :
    (Tree.call (some chain) method args).Unanchored := by
  refine unanchored_call_iff.2 ⟨hmethod, ?_⟩
  intro r hr
  cases hr
  exact h

variable {mocha : Bool} {t : Tree}

theorem stubCall_of_unanchored (h : t.Unanchored) : t.stubCall mocha = false := by
  cases t.dispatch mocha with
  | stub hstub hc hmocha =>
      obtain ⟨anchor, hanchor⟩ := MethodCall.exists_anchor hmocha
      rw [h _ hc] at hanchor
      cases hanchor
  | classDecl name parent body => exact stubCall_classDecl mocha name parent body
  | other hclass hstub => exact hstub

theorem stubCall_iff {c : MethodCall} (hc : t.methodCall? = some c) :
    t.stubCall mocha = true ↔
      mocha = true ∧ c.method ∈ MethodCall.mochaMethods ∧ ¬ t.Unanchored := by
  simp only [stubCall, hc, Option.any_some, MethodCall.isMochaStub, MethodCall.isNamed,
    Bool.and_eq_true, List.contains_iff_mem, Unanchored, Option.mem_some_iff, forall_eq',
    MethodCall.anchor?, ← ne_eq, Option.isSome_iff_ne_none]

/-! ### Settled calls -/

theorem settled_call_iff {receiver : Option Tree} {method : String} {args : List Tree}
    (h : (call receiver method args).stubCall mocha = false) :
    (call receiver method args).Settled mocha ↔
      (∀ r ∈ receiver, r.Settled mocha) ∧ ∀ a ∈ args, a.Settled mocha := by
  have hhere : (call receiver method args).SettledHere mocha := h
  rw [settled_iff]
  simp only [hhere, true_and, visited, children, List.forall_mem_append, Option.mem_toList,
    Option.mem_def]

theorem settled_of_leaf (hhere : t.SettledHere mocha) (hleaf : t.visited = []) :
    t.Settled mocha := by
  rw [settled_iff, hleaf]
  exact ⟨hhere, nofun⟩

end Tree

/-! ### Statements for stubs -/

namespace Stub
variable {mocha : Bool} {chain : Tree} {ps : List Tree}

/-- The trees that a stub takes over as they are. -/
def pieces (s : Stub) : List Tree :=
  s.receiver :: s.message :: (s.withArgs.getD [] ++ s.returns.getD [] ++ s.raises.getD [])

/-- A chain without an anchor that is settled as soon as the given trees are. -/
def Carries (mocha : Bool) (ps : List Tree) (chain : Tree) : Prop :=
  chain.Unanchored ∧ (chain.Settled mocha ↔ ∀ p ∈ ps, p.Settled mocha)

theorem Carries.call {method : String} (hmethod : method ∉ MethodCall.mochaAnchors)
    (args : List Tree) (h : Carries mocha ps chain) :
    Carries mocha (ps ++ args) (.call (some chain) method args) := by
  have hunanchored := h.1.call hmethod args
  refine ⟨hunanchored, ?_⟩
  rw [Tree.settled_call_iff (Tree.stubCall_of_unanchored hunanchored), List.forall_mem_append,
    ← h.2]
  simp only [Option.mem_some_iff, forall_eq']

theorem Carries.link {method : String} (hmethod : method ∉ MethodCall.mochaAnchors)
    (arguments : Option (List Tree)) (h : Carries mocha ps chain) :
    Carries mocha (ps ++ arguments.getD []) (link method arguments chain) := by
  cases arguments with
  | none => rwa [Option.getD_none, List.append_nil]
  | some args => exact h.call hmethod args

theorem Carries.bareLink {count : Option String}
    (hcount : ∀ method ∈ count, method ∉ MethodCall.mochaAnchors)
    (h : Carries mocha ps chain) : Carries mocha ps (bareLink count chain) := by
  cases count with
  | none => exact h
  | some method =>
      rw [← List.append_nil ps]
      exact h.call (hcount method rfl) []

theorem carries_start {method : String} (hmethod : method ∉ MethodCall.mochaAnchors)
    (args : List Tree) : Carries mocha args (.call none method args) := by
  have hunanchored := Tree.unanchored_start hmethod args
  refine ⟨hunanchored, ?_⟩
  rw [Tree.settled_call_iff (Tree.stubCall_of_unanchored hunanchored)]
  exact ⟨And.right, fun h => ⟨nofun, h⟩⟩

theorem matcher_not_anchor (s : Stub) : s.matcher ∉ MethodCall.mochaAnchors := by
  unfold matcher
  split <;> decide

theorem verb_not_anchor (s : Stub) : s.verb ∉ MethodCall.mochaAnchors := by
  unfold verb
  split <;> decide

theorem countLink_not_anchor {s : Stub} {count : Option String}
    (hcount : s.countLink? = .ok count) : ∀ method ∈ count, method ∉ MethodCall.mochaAnchors := by
  have hwords : ∀ method ∈ ["never", "once", "twice"], method ∉ MethodCall.mochaAnchors := by
    decide
  intro method hmethod
  exact hwords method (countLink_mem hcount method hmethod)

/-- The count may stand before or after the outcome; either way the same trees are taken over. -/
theorem carries_expectation {s : Stub} {count : Option String}
    (hcount : s.countLink? = .ok count) :
    Carries mocha (s.message :: (s.withArgs.getD [] ++ s.returns.getD [] ++ s.raises.getD []))
      (s.expectation count) := by
  have hbare := countLink_not_anchor hcount
  have hreceived : Carries mocha ([s.message] ++ s.withArgs.getD [])
      (link "with" s.withArgs (.call none s.matcher [s.message])) :=
    (carries_start s.matcher_not_anchor [s.message]).link (by decide) s.withArgs
  have houtcome : ∀ {ps chain}, Carries mocha ps chain →
      Carries mocha (ps ++ s.returns.getD [] ++ s.raises.getD [])
        (link "and_raise" s.raises (link "and_return" s.returns chain)) := fun h =>
    (h.link (by decide) s.returns).link (by decide) s.raises
  have hpieces : s.message :: (s.withArgs.getD [] ++ s.returns.getD [] ++ s.raises.getD []) =
      [s.message] ++ s.withArgs.getD [] ++ s.returns.getD [] ++ s.raises.getD [] := by simp
  rw [hpieces, expectation]
  split
  · exact houtcome (hreceived.bareLink hbare)
  · exact (houtcome hreceived).bareLink hbare

theorem settled_statement_iff {s : Stub} {count : Option String}
    (hcount : s.countLink? = .ok count) :
    (s.statement count).Settled mocha ↔ ∀ p ∈ s.pieces, p.Settled mocha := by
  have hobject : Carries mocha [s.receiver] (.call none s.verb [s.receiver]) :=
    carries_start s.verb_not_anchor [s.receiver]
  have hto := hobject.call (by decide : "to" ∉ MethodCall.mochaAnchors) [s.expectation count]
  rw [statement, hto.2, pieces, List.forall_mem_cons (a := s.receiver),
    ← (carries_expectation hcount).2]
  simp

end Stub

/-! ### Describe blocks -/

namespace TestClass
variable {mocha : Bool}

theorem settled_subject (described : String) (tag : Option String) :
    (subject described tag).Settled mocha := by
  unfold subject
  split
  · exact Tree.settled_of_leaf (by cases mocha <;> rfl) rfl
  · exact Tree.settled_of_leaf (by cases mocha <;> rfl) rfl

theorem settled_metadata (tag : String) : (metadata tag).Settled mocha := by
  have hsymbol : ∀ name, (Tree.symbol name).Settled mocha := fun name =>
    Tree.settled_of_leaf (by cases mocha <;> rfl) rfl
  have hhere : (metadata tag).SettledHere mocha := by cases mocha <;> rfl
  refine Tree.settled_iff.2 ⟨hhere, ?_⟩
  exact List.forall_mem_cons.2 ⟨hsymbol "type", List.forall_mem_singleton.2 (hsymbol tag)⟩

theorem settled_describeCall (options : Options) (described : String) (tag : Option String) :
    (describeCall options described tag).Settled mocha := by
  have hstub : (describeCall options described tag).stubCall mocha = false := by
    cases mocha <;> rfl
  refine (Tree.settled_call_iff hstub).2 ⟨?_, ?_⟩
  · intro r hr
    cases hr
    exact Tree.settled_of_leaf (by cases mocha <;> rfl) rfl
  · refine List.forall_mem_cons.2 ⟨settled_subject described tag, ?_⟩
    intro a ha
    split at ha
    · obtain ⟨kind, _, rfl⟩ := List.mem_map.1 ha
      exact settled_metadata kind
    · cases ha

theorem settled_joinBody_iff (ts : List Tree) :
    (∀ b ∈ (joinBody ts).toList, b.Settled mocha) ↔ ∀ t ∈ ts, t.Settled mocha := by
  unfold joinBody
  split
  · exact Iff.rfl
  · exact Iff.rfl
  · have hhere : (Tree.block ts).SettledHere mocha := by cases mocha <;> rfl
    rw [Option.toList_some, List.forall_mem_singleton, Tree.settled_iff]
    exact ⟨And.right, fun h => ⟨hhere, h⟩⟩

theorem settled_close_iff {options : Options} {name : Tree} {parent : Option Tree}
    {body : List Tree} (hparent : AcceptedParent parent) (n : String) (results : List Tree) :
    ((outline options ⟨name, parent, body⟩ n).1.close results).Settled mocha ↔
      ∀ r ∈ results, r.Settled mocha := by
  rw [← settled_joinBody_iff, Tree.settled_iff]
  cases htest : (ClassDeclaration.mk name parent body).isTestCase with
  | true =>
      have hcall : ∀ described tag, (describeCall options described tag).Settled mocha :=
        settled_describeCall options
      have hparams : (Tree.int 0).Settled mocha :=
        Tree.settled_of_leaf (by cases mocha <;> rfl) rfl
      have hhere : ∀ head, (Tree.iter head (.int 0) (joinBody results)).SettledHere mocha := by
        intro head
        cases mocha <;> rfl
      rw [outline_testCase htest]
      simp only [Heading.close, hhere, true_and, Tree.blockCall, Tree.visited, Tree.children,
        List.forall_mem_cons, hcall, hparams]
  | false =>
      rw [outline_plain htest]
      have hhere : (Tree.classDecl (.sym n) parent (joinBody results).toList).SettledHere mocha :=
        ⟨⟨n, rfl⟩, hparent, htest, length_joinBody_le results⟩
      exact ⟨And.right, fun h => ⟨hhere, h⟩⟩

end TestClass

/-! ### After one conversion -/

namespace Tree

theorem claims_withVisited (t : Tree) (us : List Tree) :
    TestClass.claims (t.withVisited us) = TestClass.claims t := by
  unfold withVisited
  split <;> rfl

theorem method_withVisited (t : Tree) (us : List Tree) :
    (t.withVisited us).methodCall?.map (·.method) = t.methodCall?.map (·.method) := by
  unfold withVisited
  split <;> rfl

/-- Whatever the stubs in a tree take over is settled. -/
def PiecesSettled (mocha : Bool) (t : Tree) : Prop :=
  if t.stubCall mocha = true then
    ∀ c ∈ t.methodCall?, ∀ s, c.toStub = .ok s → ∀ p ∈ s.pieces, p.Settled mocha
  else ∀ c ∈ t.visited, c.PiecesSettled mocha
termination_by t.nesting
decreasing_by exact nesting_lt_of_mem_visited ‹_›

theorem piecesSettled_other_iff {mocha : Bool} {t : Tree} (h : t.stubCall mocha = false) :
    t.PiecesSettled mocha ↔ ∀ c ∈ t.visited, c.PiecesSettled mocha := by
  rw [PiecesSettled, if_neg (Bool.not_eq_true _ ▸ h)]

theorem piecesSettled_stub_iff {mocha : Bool} {t : Tree} {c : MethodCall} {s : Stub}
    (h : t.stubCall mocha = true) (hc : t.methodCall? = some c) (hs : c.toStub = .ok s) :
    t.PiecesSettled mocha ↔ ∀ p ∈ s.pieces, p.Settled mocha := by
  rw [PiecesSettled, if_pos h, hc]
  simp only [Option.mem_some_iff, forall_eq', hs, Except.ok.injEq]

theorem piecesSettled_include (mocha : Bool) (described : String) :
    (call none "include" [.const described]).PiecesSettled mocha := by
  have hcall : (call none "include" [.const described]).stubCall mocha = false := by
    cases mocha <;> rfl
  have hconst : (const described).stubCall mocha = false := by cases mocha <;> rfl
  refine (piecesSettled_other_iff hcall).2 (List.forall_mem_singleton.2 ?_)
  exact (piecesSettled_other_iff hconst).2 nofun

end Tree

section AfterConversion
variable {options : Options} {levels : Nat} {t u : Tree}

theorem unanchored_of_converted (h : converted options levels t = .ok u) (ht : t.Unanchored) :
    u.Unanchored := by
  induction levels generalizing t u with
  | zero => cases h
  | succ levels ih =>
      cases t.dispatch options.mocha with
      | stub hstub _ _ =>
          rw [Tree.stubCall_of_unanchored ht] at hstub
          cases hstub
      | classDecl name parent body =>
          obtain ⟨heading, statements, results, _, _, rfl⟩ := converted_class_ok_iff.1 h
          cases heading <;> exact Tree.unanchored_of_not_call rfl
      | other hclass hstub =>
          rw [converted_other hclass hstub] at h
          obtain ⟨hvisited, hu⟩ := Tree.mapChildren_ok h
          have hmethod := t.method_withVisited u.visited
          rw [← hu] at hmethod
          cases t with
          | call receiver method args =>
              obtain ⟨hanchor, hreceiver⟩ := Tree.unanchored_call_iff.1 ht
              cases receiver with
              | none =>
                  rw [hu]
                  exact Tree.unanchored_call_iff.2 ⟨hanchor, nofun⟩
              | some r =>
                  obtain ⟨r', us, hr', _, hus⟩ := List.forall₂_cons_left_iff.1 hvisited
                  rw [hus] at hu
                  rw [hu]
                  refine Tree.unanchored_call_iff.2 ⟨hanchor, ?_⟩
                  intro q hq
                  cases hq
                  exact ih hr' (hreceiver r rfl)
          | _ => exact Tree.unanchored_of_not_call (Option.map_eq_none_iff.1 hmethod)

/-- A node that is neither a class nor a stub does not turn into one: its chain would have to
gain an anchor. -/
theorem settledHere_of_converted (hclass : TestClass.claims t = false)
    (hstub : t.stubCall options.mocha = false)
    (h : converted options (levels + 1) t = .ok u) : u.SettledHere options.mocha := by
  have hchildren := h
  rw [converted_other hclass hstub] at hchildren
  obtain ⟨_, hu⟩ := Tree.mapChildren_ok hchildren
  have huclass : TestClass.claims u = false := by rw [hu, Tree.claims_withVisited, hclass]
  have hmethod : u.methodCall?.map (·.method) = t.methodCall?.map (·.method) := by
    rw [← t.method_withVisited u.visited, ← hu]
  rw [Tree.settledHere_iff huclass]
  cases u.dispatch options.mocha with
  | stub hustub hc _ =>
      rw [hc, Option.map_some] at hmethod
      obtain ⟨c, htc, hsame⟩ := Option.map_eq_some_iff.1 hmethod.symm
      obtain ⟨hmocha, hname, hanchored⟩ := (Tree.stubCall_iff hc).1 hustub
      have hunanchored : t.Unanchored := by
        by_contra hnot
        rw [(Tree.stubCall_iff htc).2 ⟨hmocha, hsame ▸ hname, hnot⟩] at hstub
        cases hstub
      exact absurd (unanchored_of_converted h hunanchored) hanchored
  | classDecl name parent body => cases huclass
  | other _ hustub => exact hustub

theorem forall_of_forall₂ {α β : Type} {R : α → β → Prop} {p : α → Prop} {q : β → Prop}
    {as : List α} {bs : List β} (h : List.Forall₂ R as bs) (hpq : ∀ a b, R a b → p a → q b)
    (hp : ∀ a ∈ as, p a) : ∀ b ∈ bs, q b := by
  induction h with
  | nil => exact nofun
  | cons hab _ ih =>
      obtain ⟨ha, has⟩ := List.forall_mem_cons.1 hp
      exact List.forall_mem_cons.2 ⟨hpq _ _ hab ha, ih has⟩

theorem forall_iff_of_forall₂ {α β : Type} {R : α → β → Prop} {p : α → Prop} {q : β → Prop}
    {as : List α} {bs : List β} (h : List.Forall₂ R as bs) (hpq : ∀ a b, R a b → (q b ↔ p a)) :
    (∀ b ∈ bs, q b) ↔ ∀ a ∈ as, p a := by
  constructor
  · exact forall_of_forall₂ h.flip fun b a hab => (hpq a b hab).1
  · exact forall_of_forall₂ h fun a b hab => (hpq a b hab).2

theorem settled_class_iff_of_converted {name : Tree} {parent : Option Tree} {body : List Tree}
    (below : ∀ c d, converted options levels c = .ok d →
      (d.Settled options.mocha ↔ c.PiecesSettled options.mocha))
    (h : converted options (levels + 1) (.classDecl name parent body) = .ok u) :
    u.Settled options.mocha ↔ ∀ s ∈ body, s.PiecesSettled options.mocha := by
  obtain ⟨n, results, hparent, hn, hresults, rfl⟩ := TestClass.outline_of_converted h
  rw [TestClass.settled_close_iff hparent, forall_iff_of_forall₂ hresults below]
  constructor
  · intro hall s hs
    exact hall s ((TestClass.mem_outline_iff hn).2 (.inr hs))
  · intro hbody s hs
    cases (TestClass.mem_outline_iff hn).1 hs with
    | inl hinclude =>
        rw [hinclude.2]
        exact Tree.piecesSettled_include _ _
    | inr hs => exact hbody s hs

/-- What is left to convert is what the stubs took over. -/
theorem settled_iff_of_converted (h : converted options levels t = .ok u) :
    u.Settled options.mocha ↔ t.PiecesSettled options.mocha := by
  induction levels generalizing t u with
  | zero => cases h
  | succ levels ih =>
      have below : ∀ c d, converted options levels c = .ok d →
          (d.Settled options.mocha ↔ c.PiecesSettled options.mocha) := fun _ _ => ih
      cases t.dispatch options.mocha with
      | stub hstub hc hmocha =>
          rw [converted_stub hstub] at h
          obtain ⟨s, count, hs, hcount, rfl⟩ := MochaStub.convert_ok hc h
          rw [Stub.settled_statement_iff hcount, Tree.piecesSettled_stub_iff hstub hc hs]
      | classDecl name parent body =>
          rw [Tree.piecesSettled_other_iff (Tree.stubCall_classDecl _ name parent body)]
          exact settled_class_iff_of_converted below h
      | other hclass hstub =>
          have hhere := settledHere_of_converted hclass hstub h
          rw [converted_other hclass hstub] at h
          rw [Tree.settled_iff, Tree.piecesSettled_other_iff hstub,
            ← forall_iff_of_forall₂ (Tree.mapChildren_ok h).1 below]
          exact ⟨And.right, fun hvisited => ⟨hhere, hvisited⟩⟩

/-- With stubs in force, converting a result once more changes nothing exactly if nothing is left
to convert in the trees that stubs took over. -/
theorem process_again_iff (hmocha : options.mocha = true) (h : process options t = .ok u)
    {maxDepth : Nat} (hdepth : u.nesting < maxDepth) :
    process { options with maxDepth } u = .ok u ↔ t.PiecesSettled true := by
  rw [process_eq_converted] at h
  rw [process_eq_converted, converted_self_iff, ← hmocha, ← settled_iff_of_converted h]
  exact ⟨And.right, fun hsettled => ⟨Tree.within_of_nesting_lt hdepth, hsettled⟩⟩

end AfterConversion

/-- A test of a helper module, with a stub that takes over nothing but names. -/
def helperTest : Tree :=
  .classDecl (.sym "FooHelperTest") (some (.colon2 (.const "ActiveSupport") "TestCase"))
    [.call (some (.const "Bar")) "stubs" [.symbol "y"], .nil]

theorem process_again_helperTest :
    ∃ u, process { mocha := true } helperTest = .ok u ∧
      process { mocha := true, maxDepth := 8 } u = .ok u ∧ helperTest.PiecesSettled true := by
  have hrun : ∃ u, process { mocha := true } helperTest = .ok u ∧ u.nesting < 8 ∧
      process { mocha := true, maxDepth := 8 } u = .ok u := ⟨_, rfl, by decide, rfl⟩
  obtain ⟨u, hfirst, hdepth, hagain⟩ := hrun
  have hmocha : ({ mocha := true } : Options).mocha = true := rfl
  exact ⟨u, hfirst, hagain, (process_again_iff hmocha hfirst hdepth).1 hagain⟩

/-- A stub among the values that a stub returns is only converted by the second conversion. -/
theorem process_again_changes_nested_stub :
    ∃ u, process { mocha := true } (.call (some (.call none "stubs" [.symbol "x"])) "returns"
        [.call (some (.const "Bar")) "stubs" [.symbol "y"]]) = .ok u ∧
      u.nesting < 256 ∧ process { mocha := true, maxDepth := 256 } u ≠ .ok u := by
  refine ⟨_, rfl, by decide, ?_⟩
  intro h
  cases h

/-! ### Without stubs -/

namespace Tree

/-- The places of a tree that a conversion comes to, however deep. -/
def Visits (t d : Tree) : Prop :=
  ∃ depth, t.VisitsAt depth d

theorem Settled.here_of_visits {mocha : Bool} {t d : Tree} (h : t.Settled mocha)
    (hd : t.Visits d) : d.SettledHere mocha := by
  obtain ⟨depth, hd⟩ := hd
  exact settled_iff_visitsAt.1 h depth d hd

theorem piecesSettled_without_stubs (t : Tree) : t.PiecesSettled false := by
  induction t using induction_below with
  | step t ih =>
      have hstub : t.stubCall false = false := rfl
      refine (piecesSettled_other_iff hstub).2 ?_
      intro c hc
      exact ih c (mem_children_of_mem_visited hc)

end Tree

/-- A settled class is outlined as it stands: no statement is put before its body, and the body
is not joined again. -/
theorem TestClass.prepare_settled {mocha : Bool} {name : Tree} {parent : Option Tree}
    {body : List Tree} (h : (Tree.classDecl name parent body).SettledHere mocha)
    (options : Options) :
    ∃ n, prepare options (.classDecl name parent body) = .ok (.plain n parent, body) ∧
      (Heading.plain n parent).close body = .classDecl name parent body := by
  obtain ⟨⟨n, rfl⟩, hparent, htest, hone⟩ := h
  refine ⟨n, prepare_ok_iff.2 ⟨hparent, trivial, n, rfl, ?_⟩, ?_⟩
  · rw [outline_plain htest]
  · rw [Heading.close, joinBody_of_length_le hone]

/-- Without stubs a conversion leaves nothing to convert: a second one changes nothing, no test
case is left at any place that it comes to, and it takes every class as it stands. -/
theorem process_again_without_stubs {options : Options} {t u : Tree}
    (hmocha : options.mocha = false) (h : process options t = .ok u) :
    (∀ maxDepth, u.nesting < maxDepth → process { options with maxDepth } u = .ok u) ∧
      ∀ name parent body, u.Visits (.classDecl name parent body) →
        (ClassDeclaration.mk name parent body).isTestCase = false ∧
        ∃ n, TestClass.prepare options (.classDecl name parent body) =
            .ok (.plain n parent, body) ∧
          (TestClass.Heading.plain n parent).close body = .classDecl name parent body := by
  rw [process_eq_converted] at h
  have hsettled : u.Settled options.mocha :=
    (settled_iff_of_converted h).2 (hmocha ▸ t.piecesSettled_without_stubs)
  constructor
  · intro maxDepth hdepth
    rw [process_eq_converted, converted_self_iff]
    exact ⟨Tree.within_of_nesting_lt hdepth, hsettled⟩
  · intro name parent body hvisits
    have hhere := hsettled.here_of_visits hvisits
    exact ⟨hhere.2.2.1, TestClass.prepare_settled hhere options⟩

/-- A test of a helper module around a class in module shorthand with two statements. -/
def nestedClassTest : Tree :=
  .classDecl (.sym "FooHelperTest") (some (.colon2 (.const "ActiveSupport") "TestCase"))
    [.classDecl (.colon2 (.const "Foo") "Bar") none [.nil, .selfRef]]

/-- The class inside, with its name flattened and its statements joined. -/
def joinedClass : Tree :=
  .classDecl (.sym "Foo::Bar") none [.block [.nil, .selfRef]]

theorem process_again_nestedClassTest :
    ∃ u, process {} nestedClassTest = .ok u ∧ process { maxDepth := 8 } u = .ok u ∧
      u.Visits joinedClass ∧
      ∃ n, TestClass.prepare {} joinedClass = .ok (.plain n none, [.block [.nil, .selfRef]]) := by
  have hrun : ∃ head, head.nesting = 2 ∧ process {} nestedClassTest = .ok (.blockCall head
      (some (.block [.call none "include" [.const "FooHelper"], joinedClass]))) :=
    ⟨_, rfl, rfl⟩
  obtain ⟨head, hhead, hfirst⟩ := hrun
  have hvisits : (Tree.blockCall head
      (some (.block [.call none "include" [.const "FooHelper"], joinedClass]))).Visits
        joinedClass :=
    ⟨2, .deeper (.tail _ (.tail _ (.head _))) (.deeper (.tail _ (.head _)) (.root _))⟩
  have hmocha : ({} : Options).mocha = false := rfl
  obtain ⟨hagain, hclasses⟩ := process_again_without_stubs hmocha hfirst
  obtain ⟨_, n, hprepare, _⟩ := hclasses _ _ _ hvisits
  refine ⟨_, hfirst, hagain 8 ?_, hvisits, n, hprepare⟩
  simp [joinedClass, Tree.blockCall, Tree.nesting, Tree.optionNesting, Tree.listNesting, hhead]

end Minispec
