import Minispec.Proofs.Statistics

/-!
The recursion through rules, without a count of the levels that are left: a rule may have any tree
converted one level further down, also the one that it was given or a larger one. Every conversion
ends all the same, because the depth grows up to the bound. The contexts on the way differ in the
depth only, and no depth goes beyond the bound, so that a counter as wide as the bound is wide
enough. How many conversions a run calls for is not bounded here.
-/

namespace Minispec

/-! ### Runs -/

/-- How a run ends, and the contexts in which it called for conversions. -/
structure Outcome (α : Type) where
  result : Except Error α
  ledger : Ledger
  contexts : List Context

mutual

/-- The conversion of a tree ends with the given outcome. -/
inductive Ends (rules : List Rule) : Context → Tree → Ledger → Outcome Tree → Prop
  | tooDeep {context : Context} (hdeep : context.atMaxDepth = true) (t : Tree) (ledger : Ledger) :
      Ends rules context t ledger
        ⟨.error (.nestingTooDeep context.options.maxDepth), ledger, [context]⟩
  | rule {context : Context} {t : Tree} {ledger : Ledger} {rule : Rule} {o : Outcome Tree}
      (hdeep : context.atMaxDepth = false)
      (hfind : rules.find? (·.claims context t) = some rule)
      (hplan : PlanEnds rules context.descend (rule.plan context t) ledger o) :
      Ends rules context t ledger
        ⟨o.result, o.ledger.record rule.name o.result, context :: o.contexts⟩
  | children {context : Context} {t : Tree} {ledger : Ledger} {o : Outcome (List Tree)}
      (hdeep : context.atMaxDepth = false)
      (hfind : rules.find? (·.claims context t) = none)
      (hall : AllEnd rules context.descend t.visited ledger o) :
      Ends rules context t ledger
        ⟨o.result.map t.withVisited, o.ledger, context :: o.contexts⟩

/-- The plan of a rule ends, its trees being converted in the given context. -/
inductive PlanEnds (rules : List Rule) : Context → Plan → Ledger → Outcome Tree → Prop
  | finish (below : Context) (result : Except Error Tree) (ledger : Ledger) :
      PlanEnds rules below (.finish result) ledger ⟨result, ledger, []⟩
  | descend {below : Context} {t : Tree} {next : Except Error Tree → Plan} {ledger : Ledger}
      {first rest : Outcome Tree} (hfirst : Ends rules below t ledger first)
      (hnext : PlanEnds rules below (next first.result) first.ledger rest) :
      PlanEnds rules below (.descend t next) ledger
        ⟨rest.result, rest.ledger, first.contexts ++ rest.contexts⟩

/-- Trees are converted from left to right up to the first failure. -/
inductive AllEnd (rules : List Rule) : Context → List Tree → Ledger → Outcome (List Tree) → Prop
  | nil (below : Context) (ledger : Ledger) : AllEnd rules below [] ledger ⟨.ok [], ledger, []⟩
  | more {below : Context} {t u : Tree} {ts : List Tree} {ledger after : Ledger}
      {contexts : List Context} {o : Outcome (List Tree)}
      (hfirst : Ends rules below t ledger ⟨.ok u, after, contexts⟩)
      (hrest : AllEnd rules below ts after o) :
      AllEnd rules below (t :: ts) ledger
        ⟨o.result.map (u :: ·), o.ledger, contexts ++ o.contexts⟩
  | stop {below : Context} {t : Tree} {ledger after : Ledger} {e : Error}
      {contexts : List Context} (hfirst : Ends rules below t ledger ⟨.error e, after, contexts⟩)
      (ts : List Tree) : AllEnd rules below (t :: ts) ledger ⟨.error e, after, contexts⟩

end

/-! ### Contexts -/

/-- A context that differs in the depth only, and is not deeper than the bound unless the other one
is. -/
structure Context.Under (c context : Context) : Prop where
  options_eq : c.options = context.options
  sourceName_eq : c.sourceName = context.sourceName
  depth_le : context.depth ≤ context.options.maxDepth → c.depth ≤ context.options.maxDepth

namespace Context
variable {c context : Context} {levels : Nat}

theorem under_self (context : Context) : context.Under context :=
  ⟨rfl, rfl, id⟩

theorem depth_lt_of_not_deep (h : context.atMaxDepth = false) :
    context.depth < context.options.maxDepth :=
  Nat.lt_of_not_le (of_decide_eq_false h)

theorem Under.of_descend (hdeep : context.atMaxDepth = false) (h : c.Under context.descend) :
    c.Under context where
  options_eq := h.options_eq
  sourceName_eq := h.sourceName_eq
  depth_le _ := h.depth_le (depth_lt_of_not_deep hdeep)

theorem atMaxDepth_of_levels_zero (h : context.levels = 0) : context.atMaxDepth = true :=
  decide_eq_true (Nat.sub_eq_zero_iff_le.1 h)

/-- While a level is left, going down takes exactly one. -/
theorem levels_descend (h : context.levels = levels + 1) :
    context.atMaxDepth = false ∧ context.descend.levels = levels := by
  rw [Context.levels] at h
  refine ⟨decide_eq_false (by omega), ?_⟩
  change context.options.maxDepth - (context.depth + 1) = levels
  omega

end Context

/-! ### At most one outcome -/

section Unique
variable {rules : List Rule} {below : Context}

theorem planEnds_unique
    (h : ∀ t ledger o o', Ends rules below t ledger o → Ends rules below t ledger o' → o = o')
    {plan : Plan} {ledger : Ledger} {o o' : Outcome Tree}
    (ho : PlanEnds rules below plan ledger o) (ho' : PlanEnds rules below plan ledger o') :
    o = o' := by
  induction plan generalizing ledger o o' with
  | finish result =>
      cases ho
      cases ho'
      rfl
  | descend t next ih =>
      cases ho with
      | descend hfirst hnext =>
          cases ho' with
          | descend hfirst' hnext' =>
              cases h _ _ _ _ hfirst hfirst'
              cases ih _ hnext hnext'
              rfl

theorem allEnd_unique
    (h : ∀ t ledger o o', Ends rules below t ledger o → Ends rules below t ledger o' → o = o')
    {ts : List Tree} {ledger : Ledger} {o o' : Outcome (List Tree)}
    (ho : AllEnd rules below ts ledger o) (ho' : AllEnd rules below ts ledger o') : o = o' := by
  induction ts generalizing ledger o o' with
  | nil =>
      cases ho
      cases ho'
      rfl
  | cons t ts ih =>
      cases ho with
      | more hfirst hrest =>
          cases ho' with
          | more hfirst' hrest' =>
              cases h _ _ _ _ hfirst hfirst'
              cases ih hrest hrest'
              rfl
          | stop hfirst' => cases h _ _ _ _ hfirst hfirst'
      | stop hfirst =>
          cases ho' with
          | more hfirst' hrest' => cases h _ _ _ _ hfirst hfirst'
          | stop hfirst' =>
              cases h _ _ _ _ hfirst hfirst'
              rfl

theorem ends_unique {context : Context} {t : Tree} {ledger : Ledger} {o o' : Outcome Tree}
    (ho : Ends rules context t ledger o) (ho' : Ends rules context t ledger o') : o = o' := by
  generalize hlevels : context.levels = levels
  -- The levels that are left go down by one, whatever the trees do.
  induction levels generalizing context t ledger o o' with
  | zero =>
      have hdeep := Context.atMaxDepth_of_levels_zero hlevels
      cases ho with
      | tooDeep =>
          cases ho' with
          | tooDeep => rfl
          | rule h => cases hdeep.symm.trans h
          | children h => cases hdeep.symm.trans h
      | rule h => cases hdeep.symm.trans h
      | children h => cases hdeep.symm.trans h
  | succ levels ih =>
      obtain ⟨hdeep, hbelow⟩ := Context.levels_descend hlevels
      have hsame : ∀ t ledger o o', Ends rules context.descend t ledger o →
          Ends rules context.descend t ledger o' → o = o' := fun _ _ _ _ h h' => ih h h' hbelow
      cases ho with
      | tooDeep h => cases h.symm.trans hdeep
      | rule _ hfind hplan =>
          cases ho' with
          | tooDeep h => cases h.symm.trans hdeep
          | rule _ hfind' hplan' =>
              cases hfind.symm.trans hfind'
              cases planEnds_unique hsame hplan hplan'
              rfl
          | children _ hfind' => cases hfind.symm.trans hfind'
      | children _ hfind hall =>
          cases ho' with
          | tooDeep h => cases h.symm.trans hdeep
          | rule _ hfind' => cases hfind.symm.trans hfind'
          | children _ _ hall' =>
              cases allEnd_unique hsame hall hall'
              rfl

end Unique

/-! ### Every conversion ends -/

section Exists
variable {rules : List Rule} {below : Context}
  {convert : Tree → StateM Ledger (Except Error Tree)}

/-- A run ends with what a computation gives, in contexts under the given one. -/
def Reaches {α : Type} (ends : Ledger → Outcome α → Prop) (context : Context)
    (x : StateM Ledger (Except Error α)) : Prop :=
  ∀ ledger, ∃ contexts, ends ledger ⟨(x ledger).1, (x ledger).2, contexts⟩ ∧
    ∀ c ∈ contexts, c.Under context

theorem reaches_plan (h : ∀ t, Reaches (Ends rules below t) below (convert t)) (plan : Plan) :
    Reaches (PlanEnds rules below plan) below (plan.run convert) := by
  induction plan with
  | finish result => exact fun ledger => ⟨[], .finish below result ledger, nofun⟩
  | descend t next ih =>
      intro ledger
      obtain ⟨contexts, hfirst, hunder⟩ := h t ledger
      obtain ⟨contexts', hnext, hunder'⟩ := ih (convert t ledger).1 (convert t ledger).2
      exact ⟨contexts ++ contexts', .descend hfirst hnext,
        List.forall_mem_append.2 ⟨hunder, hunder'⟩⟩

theorem run_bind_eq {α β : Type} (x : ExceptT Error (StateM Ledger) α)
    (k : α → ExceptT Error (StateM Ledger) β) (ledger : Ledger) :
    (x >>= k).run ledger =
      match x.run ledger with
      | (.error e, after) => (.error e, after)
      | (.ok a, after) => (k a).run after := by
  change ExceptT.bindCont k (x.run ledger).1 (x.run ledger).2 = _
  obtain ⟨result, after⟩ := x.run ledger
  cases result <;> rfl

theorem run_map_eq {α β : Type} (x : ExceptT Error (StateM Ledger) α) (g : α → β)
    (ledger : Ledger) :
    (x >>= fun a => pure (g a)).run ledger = ((x.run ledger).1.map g, (x.run ledger).2) := by
  rw [run_bind_eq]
  obtain ⟨result, after⟩ := x.run ledger
  cases result <;> rfl

theorem reaches_all (h : ∀ t, Reaches (Ends rules below t) below (convert t)) (ts : List Tree) :
    Reaches (AllEnd rules below ts) below (ts.mapM fun t => ExceptT.mk (convert t)).run := by
  induction ts with
  | nil => exact fun ledger => ⟨[], .nil below ledger, nofun⟩
  | cons t ts ih =>
      intro ledger
      obtain ⟨contexts, hfirst, hunder⟩ := h t ledger
      rw [List.mapM_cons, run_bind_eq, ExceptT.run_mk]
      generalize convert t ledger = first at hfirst
      obtain ⟨result, after⟩ := first
      cases result with
      | error e => exact ⟨contexts, .stop hfirst ts, hunder⟩
      | ok u =>
          obtain ⟨contexts', hrest, hunder'⟩ := ih after
          dsimp only
          rw [run_map_eq]
          exact ⟨contexts ++ contexts', .more hfirst hrest,
            List.forall_mem_append.2 ⟨hunder, hunder'⟩⟩

theorem reaches_convertTree (rules : List Rule) (levels : Nat) (context : Context)
    (hlevels : context.levels = levels) (t : Tree) :
    Reaches (Ends rules context t) context (convertTree rules levels context t) := by
  induction levels generalizing context t with
  | zero =>
      have hdeep := Context.atMaxDepth_of_levels_zero hlevels
      exact fun ledger => ⟨[context], .tooDeep hdeep t ledger,
        List.forall_mem_singleton.2 context.under_self⟩
  | succ levels ih =>
      obtain ⟨hdeep, hlevels⟩ := Context.levels_descend hlevels
      have below := ih context.descend hlevels
      have hcontexts {contexts : List Context} (h : ∀ c ∈ contexts, c.Under context.descend) :
          ∀ c ∈ context :: contexts, c.Under context :=
        List.forall_mem_cons.2 ⟨context.under_self, fun c hc => (h c hc).of_descend hdeep⟩
      intro ledger
      rw [convertTree]
      cases hfind : rules.find? (·.claims context t) with
      | none =>
          obtain ⟨contexts, hall, hunder⟩ := reaches_all below t.visited ledger
          dsimp only
          rw [Tree.mapChildren_eq, run_map_eq]
          exact ⟨context :: contexts, .children hdeep hfind hall, hcontexts hunder⟩
      | some rule =>
          obtain ⟨contexts, hplan, hunder⟩ := reaches_plan below (rule.plan context t) ledger
          exact ⟨context :: contexts, .rule hdeep hfind hplan, hcontexts hunder⟩

end Exists

/-! ### A rule that always comes back -/

/-- The rule claims every node and has it converted once more. -/
structure Rule.ComesBack (rule : Rule) : Prop where
  claims_eq : ∀ context t, rule.claims context t = true
  plan_eq : ∀ context t, rule.plan context t = .descend t .finish

theorem Rule.insertByPriority_of_lt {rule : Rule} {rules : List Rule}
    (h : ∀ other ∈ rules, other.priority < rule.priority) :
    rule.insertByPriority rules = rule :: rules := by
  cases rules with
  | nil => rfl
  | cons first rest => rw [insertByPriority, if_pos (h first List.mem_cons_self)]

theorem Rule.insertByPriority_cons_of_le {rule first : Rule} (h : rule.priority ≤ first.priority)
    (rest : List Rule) :
    rule.insertByPriority (first :: rest) = first :: rule.insertByPriority rest := by
  rw [insertByPriority, if_neg (Nat.not_lt.2 h)]

theorem mem_rules_addRules {e : Engine} {rules : List Rule} {other : Rule}
    (h : other ∈ (rules.foldl Engine.addRule e).rules) : other ∈ e.rules ∨ other ∈ rules := by
  induction rules generalizing e with
  | nil => exact .inl h
  | cons rule rules ih =>
      cases ih h with
      | inl hadded =>
          cases rule.mem_insertByPriority hadded with
          | inl hsame => exact .inr (hsame ▸ List.mem_cons_self)
          | inr hother => exact .inl hother
      | inr hother => exact .inr (List.mem_cons_of_mem rule hother)

theorem head_rules_addRules {e : Engine} {first : Rule} {rules : List Rule}
    (hfirst : e.rules.head? = some first) (h : ∀ other ∈ rules, other.priority ≤ first.priority) :
    (rules.foldl Engine.addRule e).rules.head? = some first := by
  induction rules generalizing e with
  | nil => exact hfirst
  | cons rule rules ih =>
      obtain ⟨hrule, hrules⟩ := List.forall_mem_cons.1 h
      refine ih ?_ hrules
      obtain ⟨rest, hrest⟩ := List.head?_eq_some_iff.1 hfirst
      change (rule.insertByPriority e.rules).head? = some first
      rw [hrest, Rule.insertByPriority_cons_of_le hrule]
      rfl

/-- Of the rules with the highest priority, the one that was installed first comes first. -/
theorem head_rules_ofRules {before after : List Rule} {rule : Rule}
    (hbefore : ∀ other ∈ before, other.priority < rule.priority)
    (hafter : ∀ other ∈ after, other.priority ≤ rule.priority) :
    (Engine.ofRules (before ++ rule :: after)).rules.head? = some rule := by
  rw [Engine.ofRules, List.foldl_append, List.foldl_cons]
  refine head_rules_addRules ?_ hafter
  change (rule.insertByPriority (before.foldl Engine.addRule {}).rules).head? = some rule
  rw [Rule.insertByPriority_of_lt]
  · rfl
  · intro other hother
    cases mem_rules_addRules hother with
    | inl hnone => cases hnone
    | inr hother => exact hbefore other hother

theorem returns_comesBack {rules : List Rule} {rule : Rule} (hfirst : rules.head? = some rule)
    (h : rule.ComesBack) (levels : Nat) (context : Context) (t : Tree) :
    Returns (convertTree rules levels context t)
      (.error (.nestingTooDeep context.options.maxDepth)) := by
  induction levels generalizing context t with
  | zero => exact fun _ => rfl
  | succ levels ih =>
      have hfind : rules.find? (·.claims context t) = some rule := by
        obtain ⟨rest, rfl⟩ := List.head?_eq_some_iff.1 hfirst
        rw [List.find?_cons, h.claims_eq]
      simp only [convertTree, hfind, h.plan_eq]
      exact (returns_descend (fun _ => ih _ _) t fun _ => rfl).recorded rule.name

/-! ### Whole runs -/

theorem toNat_add_one {w n : Nat} (h : n + 1 < 2 ^ w) :
    (BitVec.ofNat w n + 1#w).toNat = n + 1 := by
  rw [← BitVec.ofNat_add, BitVec.toNat_ofNat, Nat.mod_eq_of_lt h]

/-- Every conversion ends, with one outcome, which is that of the engine. All contexts on the way
have the options and the name of the first; none is deeper than the bound unless the first is, so
that the next depth fits wherever the bound fits. A rule that comes before all others and always
comes back to the same node ends at the bound. -/
theorem Engine.transform_ends (e : Engine) (context : Context) (t : Tree) :
    (∃ o, Ends e.rules context t e.ledger o ∧ (∀ o', Ends e.rules context t e.ledger o' → o' = o) ∧
      e.transform context t = (o.result, { e with ledger := o.ledger }) ∧
      ∀ c ∈ o.contexts, c.options = context.options ∧ c.sourceName = context.sourceName ∧
        (context.depth ≤ context.options.maxDepth →
          c.depth ≤ context.options.maxDepth ∧
          (c.atMaxDepth = false → c.descend.depth ≤ context.options.maxDepth ∧
            ∀ w, context.options.maxDepth < 2 ^ w →
              (BitVec.ofNat w c.depth + 1#w).toNat = c.descend.depth))) ∧
    ∀ before rule after, e.rules = (ofRules (before ++ rule :: after)).rules → rule.ComesBack →
      (∀ other ∈ before, other.priority < rule.priority) →
      (∀ other ∈ after, other.priority ≤ rule.priority) →
      (e.transform context t).1 = .error (.nestingTooDeep context.options.maxDepth) := by
  constructor
  · obtain ⟨contexts, hends, hunder⟩ :=
      reaches_convertTree e.rules context.levels context rfl t e.ledger
    refine ⟨_, hends, fun o' ho' => ends_unique ho' hends, rfl, fun c hc => ?_⟩
    obtain ⟨hoptions, hname, hdepth⟩ := hunder c hc
    refine ⟨hoptions, hname, fun hstart => ⟨hdepth hstart, fun hdeep => ?_⟩⟩
    have hlt := Context.depth_lt_of_not_deep hdeep
    rw [hoptions] at hlt
    exact ⟨hlt, fun w hw => toNat_add_one (Nat.lt_of_le_of_lt hlt hw)⟩
  · intro before rule after hrules hback hbefore hafter
    have hfirst := head_rules_ofRules hbefore hafter
    rw [← hrules] at hfirst
    exact returns_comesBack hfirst hback context.levels context t e.ledger

/-- Has every node converted once more. -/
def echo : Rule where
  name := "Echo"
  description := "Converts every node once more"
  priority := 300
  claims _ _ := true
  plan _ t := .descend t .finish

theorem Engine.transform_ends_echo :
    ((ofRules [TestClass.rule, echo, MochaStub.rule]).transform { options := {} } .nil).1 =
      .error (.nestingTooDeep 256) :=
  (transform_ends (ofRules [TestClass.rule, echo, MochaStub.rule]) { options := {} } .nil).2
    [TestClass.rule] echo [MochaStub.rule] rfl ⟨fun _ _ => rfl, fun _ _ => rfl⟩ (by decide)
    (by decide)

end Minispec
