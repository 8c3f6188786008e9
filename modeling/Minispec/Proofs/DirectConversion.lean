import Mathlib.Data.List.Forall2
import Minispec.Converter
import Minispec.Proofs.Subtrees

/-!
What the converter returns, without the ledger that it keeps: a recursion on the levels left
that gives a class to one rule, a stub to the other, and every other node to its children. The
counts in the ledger are not described here; no result depends on them.
-/

namespace Minispec

/-! ### Results and lists of results -/

section Results
variable {α β ε : Type} {x : Except ε α} {f : α → Except ε β} {g : α → β}

theorem bind_ok_iff {b : β} : x >>= f = .ok b ↔ ∃ a, x = .ok a ∧ f a = .ok b := by
  cases x with
  | error e => exact ⟨nofun, nofun⟩
  | ok a =>
      constructor
      · exact fun h => ⟨a, rfl, h⟩
      · intro h
        obtain ⟨_, ⟨⟩, h⟩ := h
        exact h

theorem map_ok_iff {b : β} : x.map g = .ok b ↔ ∃ a, x = .ok a ∧ b = g a := by
  cases x with
  | error e => exact ⟨nofun, nofun⟩
  | ok a =>
      constructor
      · exact fun h => ⟨a, rfl, (Except.ok.inj h).symm⟩
      · intro h
        obtain ⟨_, ⟨⟩, rfl⟩ := h
        rfl

theorem bind_error {e : ε} (h : x >>= f = .error e) :
    x = .error e ∨ ∃ a, x = .ok a ∧ f a = .error e := by
  cases x with
  | error e' => exact .inl (congrArg Except.error (Except.error.inj h))
  | ok a => exact .inr ⟨a, rfl, h⟩

theorem exists_bind_pure_ok_iff :
    (∃ b, x >>= (fun a => pure (g a)) = .ok b) ↔ ∃ a, x = .ok a := by
  cases x with
  | error e => exact ⟨nofun, nofun⟩
  | ok a => exact ⟨fun _ => ⟨a, rfl⟩, fun _ => ⟨g a, rfl⟩⟩

theorem bind_pure_error {e : ε} (h : x >>= (fun a => pure (g a)) = .error e) :
    x = .error e := by
  cases x with
  | error e' => exact congrArg Except.error (Except.error.inj h)
  | ok a => cases h

theorem mapM_ok_iff {as : List α} {bs : List β} :
    as.mapM f = .ok bs ↔ List.Forall₂ (fun a b => f a = .ok b) as bs := by
  induction as generalizing bs with
  | nil =>
      rw [List.mapM_nil, List.forall₂_nil_left_iff]
      exact ⟨fun h => (Except.ok.inj h).symm, fun h => h ▸ rfl⟩
  | cons a as ih =>
      rw [List.mapM_cons, List.forall₂_cons_left_iff]
      simp only [bind_ok_iff, ih]
      constructor
      · intro h
        obtain ⟨b, hb, bs', hbs', ⟨⟩⟩ := h
        exact ⟨b, bs', hb, hbs', rfl⟩
      · intro h
        obtain ⟨b, bs', hb, hbs', rfl⟩ := h
        exact ⟨b, hb, bs', hbs', rfl⟩

theorem mapM_error {as : List α} {e : ε} (h : as.mapM f = .error e) :
    ∃ a ∈ as, f a = .error e := by
  induction as with
  | nil => cases h
  | cons a as ih =>
      rw [List.mapM_cons] at h
      cases bind_error h with
      | inl ha => exact ⟨a, List.mem_cons_self, ha⟩
      | inr hrest =>
          obtain ⟨b, _, hrest⟩ := hrest
          obtain ⟨c, hc, hfc⟩ := ih (bind_pure_error hrest)
          exact ⟨c, List.mem_cons_of_mem a hc, hfc⟩

theorem exists_mapM_ok_iff {as : List α} :
    (∃ bs, as.mapM f = .ok bs) ↔ ∀ a ∈ as, ∃ b, f a = .ok b := by
  constructor
  · intro h
    obtain ⟨bs, h⟩ := h
    replace h := mapM_ok_iff.1 h
    induction h with
    | nil => exact nofun
    | cons hab _ ih => exact List.forall_mem_cons.2 ⟨⟨_, hab⟩, ih⟩
  · intro h
    cases hm : as.mapM f with
    | ok bs => exact ⟨bs, rfl⟩
    | error e =>
        obtain ⟨a, ha, hfa⟩ := mapM_error hm
        obtain ⟨b, hb⟩ := h a ha
        rw [hfa] at hb
        cases hb

end Results

/-! ### Children -/

namespace Tree
variable {ε : Type} {f : Tree → Except ε Tree} {t u : Tree}

theorem mapChildren_ok (h : t.mapChildren f = .ok u) :
    List.Forall₂ (fun c d => f c = .ok d) t.visited u.visited ∧ u = t.withVisited u.visited := by
  rw [mapChildren_eq] at h
  obtain ⟨us, hus, ⟨⟩⟩ := bind_ok_iff.1 h
  replace hus := mapM_ok_iff.1 hus
  rw [visited_withVisited hus.length_eq.symm]
  exact ⟨hus, rfl⟩

theorem mapChildren_error {e : ε} (h : t.mapChildren f = .error e) :
    ∃ c ∈ t.visited, f c = .error e := by
  rw [mapChildren_eq] at h
  exact mapM_error (bind_pure_error h)

theorem exists_mapChildren_ok_iff :
    (∃ u, t.mapChildren f = .ok u) ↔ ∀ c ∈ t.visited, ∃ d, f c = .ok d := by
  rw [← exists_mapM_ok_iff]
  simp only [mapChildren_eq]
  exact exists_bind_pure_ok_iff

theorem mapChildren_self_iff : t.mapChildren f = .ok t ↔ ∀ c ∈ t.visited, f c = .ok c := by
  constructor
  · intro h
    exact List.forall₂_same.1 (mapChildren_ok h).1
  · intro h
    rw [mapChildren_eq, mapM_ok_iff.2 (List.forall₂_same.2 h)]
    exact congrArg Except.ok t.withVisited_visited

end Tree

/-! ### Results without the ledger -/

/-- The conversion with the given number of levels left. -/
def converted (options : Options) : Nat → Tree → Except Error Tree
  | 0, _ => .error (.nestingTooDeep options.maxDepth)
  | levels + 1, t =>
    if TestClass.claims t then do
      let (heading, statements) ← TestClass.prepare options t
      let results ← statements.mapM (converted options levels)
      return heading.close results
    else if MochaStub.claims { options } t then MochaStub.convert t
    else t.mapChildren (converted options levels)

/-- A call that is converted as a stub, if stubs are converted at all. -/
def Tree.stubCall (mocha : Bool) (t : Tree) : Bool :=
  mocha && t.methodCall?.any (·.isMochaStub)

/-- What a conversion does with a node: a class and a stub are for a rule each, and any other
node is put together again. -/
inductive Tree.Dispatch (mocha : Bool) : Tree → Prop
  | stub {t : Tree} {c : MethodCall} (hstub : t.stubCall mocha = true)
      (hc : t.methodCall? = some c) (hmocha : c.isMochaStub = true) : Dispatch mocha t
  | classDecl (name : Tree) (parent : Option Tree) (body : List Tree) :
      Dispatch mocha (.classDecl name parent body)
  | other {t : Tree} (hclass : TestClass.claims t = false) (hstub : t.stubCall mocha = false) :
      Dispatch mocha t

theorem Tree.stubCall_classDecl (mocha : Bool) (name : Tree) (parent : Option Tree)
    (body : List Tree) : (Tree.classDecl name parent body).stubCall mocha = false := by
  cases mocha <;> rfl

theorem Tree.claims_of_stubCall {mocha : Bool} {t : Tree} (h : t.stubCall mocha = true) :
    TestClass.claims t = false := by
  cases t with
  | classDecl name parent body =>
      rw [stubCall_classDecl] at h
      cases h
  | _ => rfl

theorem Tree.stubCall_of_claims {mocha : Bool} {t : Tree} (h : TestClass.claims t = true) :
    t.stubCall mocha = false := by
  cases t with
  | classDecl name parent body => exact stubCall_classDecl mocha name parent body
  | _ => cases h

theorem Tree.dispatch (mocha : Bool) (t : Tree) : t.Dispatch mocha := by
  cases hstub : t.stubCall mocha with
  | true =>
      have hcall := hstub
      simp only [stubCall, Bool.and_eq_true, Option.any_eq_true] at hcall
      obtain ⟨_, c, hc, hmocha⟩ := hcall
      exact .stub hstub hc hmocha
  | false =>
      cases t with
      | classDecl name parent body => exact .classDecl name parent body
      | _ => exact .other rfl hstub

section Equations
variable {options : Options} {levels : Nat} {t : Tree}

theorem converted_stub (h : t.stubCall options.mocha = true) :
    converted options (levels + 1) t = MochaStub.convert t := by
  have hclaims : MochaStub.claims { options } t = true := h
  simp only [converted, Tree.claims_of_stubCall h, hclaims, Bool.false_eq_true, if_false, if_true]

theorem converted_other (hclass : TestClass.claims t = false)
    (hstub : t.stubCall options.mocha = false) :
    converted options (levels + 1) t = t.mapChildren (converted options levels) := by
  have hclaims : MochaStub.claims { options } t = false := hstub
  simp only [converted, hclass, hclaims, Bool.false_eq_true, if_false]

theorem converted_class_refused {name : Tree} {parent : Option Tree} {body : List Tree}
    {e : Error} (h : TestClass.prepare options (.classDecl name parent body) = .error e) :
    converted options (levels + 1) (.classDecl name parent body) = .error e := by
  simp only [converted, TestClass.claims, if_true, h]
  rfl

theorem converted_class_outlined {name : Tree} {parent : Option Tree} {body : List Tree}
    {p : TestClass.Heading × List Tree}
    (h : TestClass.prepare options (.classDecl name parent body) = .ok p) :
    converted options (levels + 1) (.classDecl name parent body) =
      p.2.mapM (converted options levels) >>= fun results => pure (p.1.close results) := by
  simp only [converted, TestClass.claims, if_true, h]
  rfl

/-- A class is converted if it can be outlined and all statements of the outline are. -/
theorem converted_class_ok_iff {name : Tree} {parent : Option Tree} {body : List Tree}
    {u : Tree} :
    converted options (levels + 1) (.classDecl name parent body) = .ok u ↔
      ∃ heading statements results,
        TestClass.prepare options (.classDecl name parent body) = .ok (heading, statements) ∧
        List.Forall₂ (fun s r => converted options levels s = .ok r) statements results ∧
        u = heading.close results := by
  simp only [converted, TestClass.claims, if_true, bind_ok_iff, ← mapM_ok_iff]
  constructor
  · intro h
    obtain ⟨⟨heading, statements⟩, hprepare, results, hresults, ⟨⟩⟩ := h
    exact ⟨heading, statements, results, hprepare, hresults, rfl⟩
  · intro h
    obtain ⟨heading, statements, results, hprepare, hresults, rfl⟩ := h
    exact ⟨⟨heading, statements⟩, hprepare, results, hresults, rfl⟩

theorem converted_class_error {name : Tree} {parent : Option Tree} {body : List Tree} {e : Error}
    (h : converted options (levels + 1) (.classDecl name parent body) = .error e) :
    TestClass.prepare options (.classDecl name parent body) = .error e ∨
      ∃ p, TestClass.prepare options (.classDecl name parent body) = .ok p ∧
        ∃ s ∈ p.2, converted options levels s = .error e := by
  simp only [converted, TestClass.claims, if_true] at h
  cases bind_error h with
  | inl h => exact .inl h
  | inr h =>
      obtain ⟨p, hprepare, h⟩ := h
      exact .inr ⟨p, hprepare, mapM_error (bind_pure_error h)⟩

end Equations

/-- Whatever the ledger says, the computation returns the given result. -/
def Returns {α : Type} (x : StateM Ledger (Except Error α)) (y : Except Error α) : Prop :=
  ∀ ledger, (x ledger).1 = y

theorem Returns.recorded {x : StateM Ledger (Except Error Tree)} {y : Except Error Tree}
    (h : Returns x y) (name : String) :
    Returns (do let result ← x; modify (·.record name result); return result) y :=
  h

theorem Returns.bind {α β : Type} {x : ExceptT Error (StateM Ledger) α} {y : Except Error α}
    {f : α → ExceptT Error (StateM Ledger) β} {g : α → Except Error β}
    (hx : Returns x.run y) (hf : ∀ a, Returns (f a).run (g a)) :
    Returns (x >>= f).run (y >>= g) := by
  intro ledger
  change (ExceptT.bindCont f (x.run ledger).1 (x.run ledger).2).1 = _
  rw [hx ledger]
  cases y with
  | error e => rfl
  | ok a => exact hf a (x.run ledger).2

theorem returns_mapM {f : Tree → StateM Ledger (Except Error Tree)} {g : Tree → Except Error Tree}
    (h : ∀ t, Returns (f t) (g t)) (ts : List Tree) :
    Returns (ts.mapM fun t => ExceptT.mk (f t)).run (ts.mapM g) := by
  induction ts with
  | nil => exact fun _ => rfl
  | cons t ts ih =>
      rw [List.mapM_cons, List.mapM_cons]
      exact Returns.bind (h t) fun u => Returns.bind ih fun us => fun _ => rfl

theorem returns_mapChildren {f : Tree → StateM Ledger (Except Error Tree)}
    {g : Tree → Except Error Tree} (h : ∀ t, Returns (f t) (g t)) (t : Tree) :
    Returns (t.mapChildren fun c => ExceptT.mk (f c)).run (t.mapChildren g) := by
  rw [Tree.mapChildren_eq, Tree.mapChildren_eq]
  exact Returns.bind (returns_mapM h t.visited) fun us => fun _ => rfl

theorem returns_descend {f : Tree → StateM Ledger (Except Error Tree)}
    {g : Tree → Except Error Tree} (h : ∀ t, Returns (f t) (g t)) (t : Tree)
    {next : Except Error Tree → Plan} {y : Except Error Tree}
    (hnext : Returns ((next (g t)).run f) y) : Returns ((Plan.descend t next).run f) y := by
  intro ledger
  change ((next (f t ledger).1).run f (f t ledger).2).1 = y
  rw [h t ledger]
  exact hnext (f t ledger).2

theorem returns_descendAll {f : Tree → StateM Ledger (Except Error Tree)}
    {g : Tree → Except Error Tree} (h : ∀ t, Returns (f t) (g t)) (ts : List Tree)
    {next : List Tree → Plan} {k : List Tree → Except Error Tree}
    (hnext : ∀ us, Returns ((next us).run f) (k us)) :
    Returns ((Plan.descendAll ts next).run f) (ts.mapM g >>= k) := by
  induction ts generalizing next k with
  | nil => exact hnext []
  | cons t ts ih =>
      refine returns_descend h t ?_
      rw [List.mapM_cons]
      cases g t with
      | error e => exact fun _ => rfl
      | ok u =>
          have hsplit : ((do let us ← ts.mapM g; pure (u :: us)) >>= k) =
              ts.mapM g >>= fun us => k (u :: us) := by
            rw [bind_assoc]
            rfl
          change Returns _ ((do let us ← ts.mapM g; pure (u :: us)) >>= k)
          rw [hsplit]
          exact ih fun us => hnext (u :: us)

/-- A class goes to one rule, a stub to the other, and nothing else to a rule. -/
theorem find_rule (context : Context) (t : Tree) :
    Engine.spec.rules.find? (·.claims context t) =
      if TestClass.claims t then some TestClass.rule
      else if MochaStub.claims context t then some MochaStub.rule
      else none := by
  have hrules : Engine.spec.rules = [TestClass.rule, MochaStub.rule] := rfl
  have hclass : TestClass.rule.claims context t = TestClass.claims t := rfl
  have hstub : MochaStub.rule.claims context t = MochaStub.claims context t := rfl
  simp only [hrules, List.find?_cons, List.find?_nil, hclass, hstub]
  cases TestClass.claims t <;> cases MochaStub.claims context t <;> rfl

theorem returns_plan {f : Tree → StateM Ledger (Except Error Tree)}
    {g : Tree → Except Error Tree} (h : ∀ t, Returns (f t) (g t)) (context : Context)
    (t : Tree) :
    Returns ((TestClass.plan context t).run f) (do
      let (heading, statements) ← TestClass.prepare context.options t
      let results ← statements.mapM g
      return heading.close results) := by
  rw [TestClass.plan]
  cases TestClass.prepare context.options t with
  | error e => exact fun _ => rfl
  | ok outline => exact returns_descendAll h outline.2 fun us _ => rfl

theorem returns_convertTree (levels : Nat) (context : Context) (t : Tree) :
    Returns (convertTree Engine.spec.rules levels context t)
      (converted context.options levels t) := by
  induction levels generalizing context t with
  | zero => exact fun _ => rfl
  | succ levels ih =>
      have below : ∀ c, Returns (convertTree Engine.spec.rules levels context.descend c)
          (converted context.options levels c) := ih context.descend
      have hoptions : MochaStub.claims { options := context.options } t =
          MochaStub.claims context t := rfl
      simp only [convertTree, find_rule, converted, hoptions]
      by_cases hclass : TestClass.claims t = true
      · simp only [hclass, if_true]
        exact (returns_plan below context t).recorded TestClass.rule.name
      · simp only [hclass, Bool.false_eq_true, if_false]
        by_cases hstub : MochaStub.claims context t = true
        · simp only [hstub, if_true]
          exact fun _ => rfl
        · simp only [hstub, Bool.false_eq_true, if_false]
          exact returns_mapChildren below t

theorem process_eq_converted (options : Options) (t : Tree) :
    process options t = converted options options.maxDepth t :=
  returns_convertTree options.maxDepth { options } t Engine.spec.ledger

end Minispec
