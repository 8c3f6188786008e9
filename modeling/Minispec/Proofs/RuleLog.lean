import Minispec.Proofs.DirectConversion

/-!
What a conversion leaves in the ledger, as a list: one item for each time a rule was applied, in
the order in which the applications end. A rule that converts statements further down comes after
the rules that were applied there, and nothing comes after a failure but the rules around it.
-/

namespace Minispec

/-- A rule, by its name, and how its application ended. -/
structure Application where
  rule : String
  outcome : Except Error Unit

/-- Counts applications one after the other. -/
def Ledger.recordAll (l : Ledger) (log : List Application) : Ledger :=
  log.foldl (fun l a => l.record a.rule a.outcome) l

theorem Ledger.recordAll_append (l : Ledger) (log more : List Application) :
    l.recordAll (log ++ more) = (l.recordAll log).recordAll more :=
  List.foldl_append

/-- The ledger counts what became of an application, not what it gave. -/
theorem Ledger.record_map {α β : Type} (l : Ledger) (name : String) (result : Except Error α)
    (f : α → β) : l.record name (result.map f) = l.record name result := by
  cases result <;> rfl

/-! ### Applications in a run -/

/-- The applications on trees that are converted one after the other, up to the first failure. -/
def logAll (convert : Tree → Except Error Tree) (log : Tree → List Application) :
    List Tree → List Application
  | [] => []
  | t :: ts =>
    log t ++
      match convert t with
      | .ok _ => logAll convert log ts
      | .error _ => []

/-- The applications of rules with the given number of levels left. -/
def applications (options : Options) : Nat → Tree → List Application
  | 0, _ => []
  | levels + 1, t =>
    let below := logAll (converted options levels) (applications options levels)
    if TestClass.claims t then
      (match TestClass.prepare options t with
        | .ok (_, statements) => below statements
        | .error _ => []) ++
        [⟨TestClass.rule.name, (converted options (levels + 1) t).map fun _ => ()⟩]
    else if MochaStub.claims { options } t then
      [⟨MochaStub.rule.name, (MochaStub.convert t).map fun _ => ()⟩]
    else below t.visited

section Equations
variable {options : Options} {levels : Nat} {t : Tree}

theorem logAll_cons_ok {convert : Tree → Except Error Tree} {log : Tree → List Application}
    {u : Tree} (h : convert t = .ok u) (ts : List Tree) :
    logAll convert log (t :: ts) = log t ++ logAll convert log ts := by
  rw [logAll, h]

theorem logAll_cons_error {convert : Tree → Except Error Tree} {log : Tree → List Application}
    {e : Error} (h : convert t = .error e) (ts : List Tree) :
    logAll convert log (t :: ts) = log t := by
  rw [logAll, h, List.append_nil]

theorem applications_stub (h : t.stubCall options.mocha = true) :
    applications options (levels + 1) t =
      [⟨MochaStub.rule.name, (MochaStub.convert t).map fun _ => ()⟩] := by
  have hclaims : MochaStub.claims { options } t = true := h
  simp only [applications, Tree.claims_of_stubCall h, hclaims, Bool.false_eq_true, if_false,
    if_true]

theorem applications_class_refused {name : Tree} {parent : Option Tree} {body : List Tree}
    {e : Error} (h : TestClass.prepare options (.classDecl name parent body) = .error e) :
    applications options (levels + 1) (.classDecl name parent body) =
      [⟨TestClass.rule.name, .error e⟩] := by
  simp only [applications, TestClass.claims, if_true, converted_class_refused h, h]
  rfl

theorem applications_class_outlined {name : Tree} {parent : Option Tree} {body : List Tree}
    {p : TestClass.Heading × List Tree}
    (h : TestClass.prepare options (.classDecl name parent body) = .ok p) :
    applications options (levels + 1) (.classDecl name parent body) =
      logAll (converted options levels) (applications options levels) p.2 ++
        [⟨TestClass.rule.name,
          (converted options (levels + 1) (.classDecl name parent body)).map fun _ => ()⟩] := by
  simp only [applications, TestClass.claims, if_true, h]

theorem applications_other (hclass : TestClass.claims t = false)
    (hstub : t.stubCall options.mocha = false) :
    applications options (levels + 1) t =
      logAll (converted options levels) (applications options levels) t.visited := by
  have hclaims : MochaStub.claims { options } t = false := hstub
  simp only [applications, hclass, hclaims, Bool.false_eq_true, if_false]

end Equations

/-! ### The ledger after a run -/

/-- Whatever the ledger says, the computation records the given applications. -/
def Logs {α : Type} (x : StateM Ledger α) (log : List Application) : Prop :=
  ∀ ledger, (x ledger).2 = ledger.recordAll log

section Combinators
variable {f : Tree → StateM Ledger (Except Error Tree)} {g : Tree → Except Error Tree}
  {log : Tree → List Application}

theorem Logs.recorded {x : StateM Ledger (Except Error Tree)} {y : Except Error Tree}
    {before : List Application} (hx : Returns x y) (h : Logs x before) (name : String) :
    Logs (do let result ← x; modify (·.record name result); return result)
      (before ++ [⟨name, y.map fun _ => ()⟩]) := by
  intro ledger
  change (x ledger).2.record name (x ledger).1 = _
  rw [hx ledger, h ledger, Ledger.recordAll_append]
  exact (Ledger.record_map _ name y _).symm

theorem Logs.bind_ok {α β : Type} {x : ExceptT Error (StateM Ledger) α} {a : α}
    {k : α → ExceptT Error (StateM Ledger) β} {before after : List Application}
    (hx : Returns x.run (.ok a)) (h : Logs x.run before) (hk : Logs (k a).run after) :
    Logs (x >>= k).run (before ++ after) := by
  intro ledger
  change (ExceptT.bindCont k (x.run ledger).1 (x.run ledger).2).2 = _
  rw [hx ledger, Ledger.recordAll_append, ← h ledger]
  exact hk (x.run ledger).2

theorem Logs.bind_error {α β : Type} {x : ExceptT Error (StateM Ledger) α} {e : Error}
    {k : α → ExceptT Error (StateM Ledger) β} {before : List Application}
    (hx : Returns x.run (.error e)) (h : Logs x.run before) : Logs (x >>= k).run before := by
  intro ledger
  change (ExceptT.bindCont k (x.run ledger).1 (x.run ledger).2).2 = _
  rw [hx ledger, ← h ledger]
  rfl

theorem Logs.bind_pure {α β : Type} {x : ExceptT Error (StateM Ledger) α} {y : Except Error α}
    {g : α → β} {before : List Application} (hx : Returns x.run y) (h : Logs x.run before) :
    Logs (x >>= fun a => pure (g a)).run before := by
  cases y with
  | error e => exact h.bind_error hx
  | ok a =>
      have hpure : Logs (pure (g a) : ExceptT Error (StateM Ledger) β).run [] := fun _ => rfl
      rw [← List.append_nil before]
      exact h.bind_ok hx hpure

theorem logs_mapM (h : ∀ t, Returns (f t) (g t)) (hlog : ∀ t, Logs (f t) (log t))
    (ts : List Tree) : Logs (ts.mapM fun t => ExceptT.mk (f t)).run (logAll g log ts) := by
  induction ts with
  | nil => exact fun _ => rfl
  | cons t ts ih =>
      rw [List.mapM_cons]
      cases hg : g t with
      | error e =>
          rw [logAll_cons_error hg]
          exact (hlog t).bind_error (hg ▸ h t)
      | ok u =>
          rw [logAll_cons_ok hg]
          exact (hlog t).bind_ok (hg ▸ h t) (ih.bind_pure (returns_mapM h ts))

theorem logs_mapChildren (h : ∀ t, Returns (f t) (g t)) (hlog : ∀ t, Logs (f t) (log t))
    (t : Tree) :
    Logs (t.mapChildren fun c => ExceptT.mk (f c)).run (logAll g log t.visited) := by
  rw [Tree.mapChildren_eq]
  exact (logs_mapM h hlog t.visited).bind_pure (returns_mapM h t.visited)

theorem logs_descend (h : ∀ t, Returns (f t) (g t)) (hlog : ∀ t, Logs (f t) (log t)) (t : Tree)
    {next : Except Error Tree → Plan} {after : List Application}
    (hnext : Logs ((next (g t)).run f) after) :
    Logs ((Plan.descend t next).run f) (log t ++ after) := by
  intro ledger
  change ((next (f t ledger).1).run f (f t ledger).2).2 = _
  rw [h t ledger, Ledger.recordAll_append, ← hlog t ledger]
  exact hnext (f t ledger).2

theorem logs_descendAll (h : ∀ t, Returns (f t) (g t)) (hlog : ∀ t, Logs (f t) (log t))
    (ts : List Tree) {next : List Tree → Plan} (hnext : ∀ us, Logs ((next us).run f) []) :
    Logs ((Plan.descendAll ts next).run f) (logAll g log ts) := by
  induction ts generalizing next with
  | nil => exact hnext []
  | cons t ts ih =>
      refine logs_descend h hlog t ?_
      cases g t with
      -- The plan ends here, and leaves out the trees that follow.
      | error e => exact fun _ => rfl
      | ok u => exact ih fun us => hnext (u :: us)

theorem logs_plan (h : ∀ t, Returns (f t) (g t)) (hlog : ∀ t, Logs (f t) (log t))
    (context : Context) (t : Tree) :
    Logs ((TestClass.plan context t).run f)
      (match TestClass.prepare context.options t with
        | .ok (_, statements) => logAll g log statements
        | .error _ => []) := by
  rw [TestClass.plan]
  cases TestClass.prepare context.options t with
  | error e => exact fun _ => rfl
  | ok outline => exact logs_descendAll h hlog outline.2 fun us _ => rfl

end Combinators

theorem logs_convertTree (levels : Nat) (context : Context) (t : Tree) :
    Logs (convertTree Engine.spec.rules levels context t)
      (applications context.options levels t) := by
  induction levels generalizing context t with
  | zero => exact fun _ => rfl
  | succ levels ih =>
      have below : ∀ c, Logs (convertTree Engine.spec.rules levels context.descend c)
          (applications context.options levels c) := ih context.descend
      have result : ∀ c, Returns (convertTree Engine.spec.rules levels context.descend c)
          (converted context.options levels c) := returns_convertTree levels context.descend
      have hoptions : MochaStub.claims { options := context.options } t =
          MochaStub.claims context t := rfl
      simp only [convertTree, find_rule, applications, hoptions]
      by_cases hclass : TestClass.claims t = true
      · simp only [hclass, if_true, converted]
        exact (logs_plan result below context t).recorded (returns_plan result context t)
          TestClass.rule.name
      · simp only [hclass, Bool.false_eq_true, if_false]
        by_cases hstub : MochaStub.claims context t = true
        · simp only [hstub, if_true]
          have hresult : Returns (pure (MochaStub.convert t)) (MochaStub.convert t) :=
            fun _ => rfl
          have hnothing : Logs (pure (MochaStub.convert t)) [] := fun _ => rfl
          exact hnothing.recorded hresult MochaStub.rule.name
        · simp only [hstub, Bool.false_eq_true, if_false]
          exact logs_mapChildren result below t

/-- A conversion gives the converted tree, and leaves its applications in the ledger. -/
theorem convertTree_eq (levels : Nat) (context : Context) (t : Tree) (ledger : Ledger) :
    convertTree Engine.spec.rules levels context t ledger =
      (converted context.options levels t,
        ledger.recordAll (applications context.options levels t)) :=
  Prod.ext (returns_convertTree levels context t ledger) (logs_convertTree levels context t ledger)

theorem Engine.transform_eq {e : Engine} (h : e.rules = Engine.spec.rules) (context : Context)
    (t : Tree) :
    e.transform context t =
      (converted context.options context.levels t,
        { e with
          ledger := e.ledger.recordAll (applications context.options context.levels t) }) := by
  rw [transform, h, convertTree_eq]

theorem Engine.transformTree_eq {e : Engine} (h : e.rules = Engine.spec.rules) (options : Options)
    (t : Tree) :
    e.transformTree options t =
      (process options t,
        { e with ledger := e.ledger.recordAll (applications options options.maxDepth t) }) := by
  rw [process_eq_converted]
  exact transform_eq h { options } t

end Minispec
