import Mathlib.Data.List.Nodup
import Minispec.Proofs.Batches
import Minispec.Proofs.ClassStatements

/-!
The order of the rules of an engine. Whatever has been done with an engine, its rules are those
that were added, the highest priority first and rules of one priority in the order in which they
were added. So a node goes to the first rule of the highest priority that claims it; and if no two
rules have the same priority, the order in which they are added makes no difference.
-/

namespace Minispec

/-! ### Lists of rules in order -/

namespace Rule

/-- No rule comes after one of a lower priority. -/
def Descending (rules : List Rule) : Prop :=
  rules.Pairwise fun rule later => later.priority ≤ rule.priority

/-- The added rules by priority, the highest first; rules of one priority keep their order. -/
structure Ordered (added rules : List Rule) : Prop where
  perm : rules.Perm added
  descending : Descending rules
  stable : ∀ n, rules.filter (·.priority = n) = added.filter (·.priority = n)

variable {rule : Rule} {rules added : List Rule}

theorem insertByPriority_perm (rule : Rule) (rules : List Rule) :
    (rule.insertByPriority rules).Perm (rule :: rules) := by
  induction rules with
  | nil => exact .refl _
  | cons first rest ih =>
      rw [insertByPriority]
      split_ifs
      · exact .refl _
      · exact (ih.cons first).trans (.swap rule first rest)

theorem descending_insertByPriority (h : Descending rules) :
    Descending (rule.insertByPriority rules) := by
  induction rules with
  | nil => exact List.pairwise_singleton _ _
  | cons first rest ih =>
      obtain ⟨hfirst, hrest⟩ := List.pairwise_cons.1 h
      rw [insertByPriority]
      split_ifs with hlower
      · refine List.pairwise_cons.2 ⟨List.forall_mem_cons.2 ⟨hlower.le, ?_⟩, h⟩
        exact fun later hlater => (hfirst later hlater).trans hlower.le
      · refine List.pairwise_cons.2 ⟨fun later hlater => ?_, ih hrest⟩
        cases rule.mem_insertByPriority hlater with
        | inl hsame => exact hsame ▸ Nat.not_lt.1 hlower
        | inr hlater => exact hfirst later hlater

/-- Among the rules of one priority, a new rule comes last. -/
theorem filter_insertByPriority (h : Descending rules) (n : Nat) :
    (rule.insertByPriority rules).filter (·.priority = n) =
      (rules ++ [rule]).filter (·.priority = n) := by
  induction rules with
  | nil => rfl
  | cons first rest ih =>
      obtain ⟨hfirst, hrest⟩ := List.pairwise_cons.1 h
      rw [insertByPriority]
      split_ifs with hlower
      · by_cases hn : rule.priority = n
        · -- All rules from here on have a lower priority than the new one.
          have hnone : (first :: rest).filter (·.priority = n) = [] := by
            refine List.filter_eq_nil_iff.2 (List.forall_mem_cons.2 ⟨?_, fun later hlater => ?_⟩)
            · simpa using (hn ▸ hlower).ne
            · simpa using (hn ▸ (hfirst later hlater).trans_lt hlower).ne
          rw [List.filter_append, hnone, List.filter_cons, hnone]
          simp [hn]
        · rw [List.filter_append, List.filter_cons]
          simp [hn]
      · rw [List.cons_append, List.filter_cons, List.filter_cons, ih hrest]

theorem ordered_nil : Ordered [] [] :=
  ⟨.refl _, .nil, fun _ => rfl⟩

theorem Ordered.insert (h : Ordered added rules) (rule : Rule) :
    Ordered (added ++ [rule]) (rule.insertByPriority rules) where
  perm :=
    calc rule.insertByPriority rules
      List.Perm _ (rule :: rules) := insertByPriority_perm rule rules
      List.Perm _ (rule :: added) := h.perm.cons rule
      List.Perm _ (added ++ [rule]) := (List.perm_append_singleton rule added).symm
  descending := descending_insertByPriority h.descending
  stable n := by
    rw [filter_insertByPriority h.descending, List.filter_append, List.filter_append, h.stable]

theorem mem_of_filter_eq {rules others : List Rule} {rule : Rule}
    (h : rules.filter (·.priority = rule.priority) = others.filter (·.priority = rule.priority))
    (hrule : rule ∈ rules) : rule ∈ others := by
  have hmem : rule ∈ rules.filter (·.priority = rule.priority) :=
    List.mem_filter.2 ⟨hrule, decide_eq_true rfl⟩
  exact List.mem_of_mem_filter (h ▸ hmem)

/-- The order of priorities and the order within each priority leave one list only. -/
theorem eq_of_descending {rules others : List Rule} (h : Descending rules)
    (h' : Descending others)
    (hsame : ∀ n, rules.filter (·.priority = n) = others.filter (·.priority = n)) :
    rules = others := by
  induction rules generalizing others with
  | nil =>
      cases others with
      | nil => rfl
      | cons first rest => cases mem_of_filter_eq (hsame first.priority).symm List.mem_cons_self
  | cons first rest ih =>
      cases others with
      | nil => cases mem_of_filter_eq (hsame first.priority) List.mem_cons_self
      | cons first' rest' =>
          obtain ⟨hfirst, hrest⟩ := List.pairwise_cons.1 h
          obtain ⟨hfirst', hrest'⟩ := List.pairwise_cons.1 h'
          have hbound : ∀ r ∈ first :: rest, r.priority ≤ first.priority :=
            List.forall_mem_cons.2 ⟨le_rfl, hfirst⟩
          have hbound' : ∀ r ∈ first' :: rest', r.priority ≤ first'.priority :=
            List.forall_mem_cons.2 ⟨le_rfl, hfirst'⟩
          -- Each of the two first rules occurs in the other list.
          have hle := hbound first'
            (mem_of_filter_eq (hsame first'.priority).symm List.mem_cons_self)
          have hge := hbound' first (mem_of_filter_eq (hsame first.priority) List.mem_cons_self)
          have heads := hsame first.priority
          simp only [List.filter_cons, hle.antisymm hge, decide_true, if_true] at heads
          obtain ⟨rfl, -⟩ := List.cons.inj heads
          refine congrArg (first :: ·) (ih hrest hrest' fun n => ?_)
          have htails := hsame n
          simp only [List.filter_cons] at htails
          split_ifs at htails
          · exact (List.cons.inj htails).2
          · exact htails

/-- The rule has no lower priority than the other. -/
def atLeast (rule other : Rule) : Bool :=
  other.priority ≤ rule.priority

theorem ordered_mergeSort (added : List Rule) : Ordered added (added.mergeSort atLeast) := by
  have htrans : ∀ a b c, atLeast a b = true → atLeast b c = true → atLeast a c = true := by
    intro a b c hab hbc
    simp only [atLeast, decide_eq_true_eq] at *
    omega
  have htotal : ∀ a b, (atLeast a b || atLeast b a) = true := by
    intro a b
    simp only [atLeast, Bool.or_eq_true, decide_eq_true_eq]
    omega
  have hperm := List.mergeSort_perm added atLeast
  refine ⟨hperm, ?_, fun n => ?_⟩
  · exact (List.pairwise_mergeSort htrans htotal added).imp of_decide_eq_true
  · -- The rules of one priority are in order, so that sorting keeps them in order.
    have hinOrder : (added.filter (·.priority = n)).Pairwise (atLeast · ·) := by
      refine List.pairwise_filter.2 (List.pairwise_of_forall fun a b ha hb => ?_)
      simp only [atLeast, decide_eq_true_eq] at *
      omega
    have hsub := (List.sublist_mergeSort htrans htotal hinOrder List.filter_sublist).filter
      (fun rule : Rule => decide (rule.priority = n))
    rw [List.filter_filter] at hsub
    simp only [Bool.and_self] at hsub
    exact (hsub.eq_of_length (hperm.filter _).length_eq.symm).symm

theorem Ordered.eq_mergeSort (h : Ordered added rules) : rules = added.mergeSort atLeast := by
  have hsort := ordered_mergeSort added
  exact eq_of_descending h.descending hsort.descending fun n =>
    (h.stable n).trans (hsort.stable n).symm

/-- Without two rules of one priority, the order of addition makes no difference. -/
theorem Ordered.eq_of_perm {added' rules' : List Rule} (h : Ordered added rules)
    (h' : Ordered added' rules') (hperm : added'.Perm added)
    (hdistinct : (added.map priority).Nodup) : rules' = rules := by
  refine List.Perm.eq_of_pairwise ?_ h'.descending h.descending
    ((h'.perm.trans hperm).trans h.perm.symm)
  intro a b ha hb hba hab
  have ha' : a ∈ added := hperm.mem_iff.1 (h'.perm.mem_iff.1 ha)
  exact List.inj_on_of_nodup_map hdistinct ha' (h.perm.mem_iff.1 hb) (hab.antisymm hba)

/-- A rule is installed as if it were put last and all rules were sorted again. -/
theorem Ordered.insertByPriority_eq (h : Ordered added rules) (rule : Rule) :
    rule.insertByPriority rules = (rules ++ [rule]).mergeSort atLeast := by
  have hself : Ordered rules rules := ⟨.refl _, h.descending, fun _ => rfl⟩
  exact (hself.insert rule).eq_mergeSort

/-! ### The rule that gets a node -/

/-- Of the rules that claim something, the rule has the highest priority, and it was the first of
these to be added. -/
def Foremost (claims : Rule → Bool) (added : List Rule) (rule : Rule) : Prop :=
  ∃ before after, added = before ++ rule :: after ∧ claims rule = true ∧
    (∀ other ∈ before, claims other = true → other.priority < rule.priority) ∧
    ∀ other ∈ after, claims other = true → other.priority ≤ rule.priority

theorem Ordered.foremost_of_find {claims : Rule → Bool} (h : Ordered added rules)
    (hfind : rules.find? claims = some rule) : Foremost claims added rule := by
  obtain ⟨hclaims, earlier, later, rfl, hearlier⟩ := List.find?_eq_some_iff_append.1 hfind
  have hnone : ∀ other ∈ earlier, ¬ claims other = true := by simpa using hearlier
  have hle : ∀ other ∈ added, claims other = true → other.priority ≤ rule.priority := by
    intro other hother hclaimed
    obtain hother | rfl | hother := by simpa using h.perm.mem_iff.2 hother
    · exact absurd hclaimed (hnone other hother)
    · exact le_rfl
    · exact (List.pairwise_cons.1 (List.pairwise_append.1 h.descending).2.1).1 other hother
  -- The rules of this priority stand in the order of addition, so the same ones precede it.
  have hstable := h.stable rule.priority
  rw [List.filter_append, List.filter_cons, if_pos (decide_eq_true rfl)] at hstable
  obtain ⟨before, _, rfl, hbefore, hrest⟩ := List.filter_eq_append_iff.1 hstable.symm
  obtain ⟨between, after, rfl, hbetween, -, -⟩ := List.filter_eq_cons_iff.1 hrest
  rw [← List.append_assoc] at hle ⊢
  refine ⟨_, after, rfl, hclaims, fun other hother hclaimed => ?_, fun other hother => ?_⟩
  · refine lt_of_le_of_ne (hle other (List.mem_append_left _ hother) hclaimed) fun hsame => ?_
    cases List.mem_append.1 hother with
    | inl hother =>
        have hmem : other ∈ before.filter (·.priority = rule.priority) :=
          List.mem_filter.2 ⟨hother, decide_eq_true hsame⟩
        rw [hbefore] at hmem
        exact hnone other (List.mem_of_mem_filter hmem) hclaimed
    | inr hother => exact hbetween other hother (decide_eq_true hsame)
  · exact hle other (List.mem_append_right _ (List.mem_cons_of_mem rule hother))

end Rule

/-! ### Results do not depend on the ledger -/

theorem exists_returns_plan {f : Tree → StateM Ledger (Except Error Tree)}
    {g : Tree → Except Error Tree} (h : ∀ t, Returns (f t) (g t)) (plan : Plan) :
    ∃ y, Returns (plan.run f) y := by
  induction plan with
  | finish result => exact ⟨result, fun _ => rfl⟩
  | descend t next ih =>
      obtain ⟨y, hy⟩ := ih (g t)
      exact ⟨y, returns_descend h t hy⟩

theorem exists_returns_convertTree (rules : List Rule) (levels : Nat) (context : Context)
    (t : Tree) : ∃ y, Returns (convertTree rules levels context t) y := by
  induction levels generalizing context t with
  | zero => exact ⟨_, fun _ => rfl⟩
  | succ levels ih =>
      choose g hg using ih context.descend
      rw [convertTree]
      cases rules.find? (·.claims context t) with
      | none => exact ⟨_, returns_mapChildren hg t⟩
      | some rule =>
          obtain ⟨y, hy⟩ := exists_returns_plan hg (rule.plan context t)
          exact ⟨y, hy.recorded rule.name⟩

namespace Engine
variable {e : Engine} {rule : Rule} {context : Context} {t : Tree}

theorem transform_result_eq {e' : Engine} (h : e'.rules = e.rules) (context : Context)
    (t : Tree) : (e'.transform context t).1 = (e.transform context t).1 := by
  obtain ⟨y, hy⟩ := exists_returns_convertTree e.rules context.levels context t
  rw [transform, transform, h]
  exact (hy e'.ledger).trans (hy e.ledger).symm

/-! ### Histories -/

/-- Hands a node to a rule and counts the outcome. -/
def handTo (e : Engine) (rule : Rule) (context : Context) (t : Tree) :
    Except Error Tree × Engine :=
  let (result, e) := e.applyRule rule context t
  (result, { e with ledger := e.ledger.record rule.name result })

/-- Puts a node together again from its children, each converted one level further down. -/
def rebuild (e : Engine) (context : Context) (t : Tree) : Except Error Tree × Engine :=
  let below := handle e.rules context.descend
  let (result, ledger) := (t.mapChildren fun child => ExceptT.mk (below child)).run e.ledger
  (result, { e with ledger })

theorem transform_claimed (hdeep : context.atMaxDepth = false)
    (hfind : e.rules.find? (·.claims context t) = some rule) :
    e.transform context t = e.handTo rule context t := by
  rw [transform, convertTree_of_claimed hdeep hfind]
  rfl

theorem transform_not_claimed (hdeep : context.atMaxDepth = false)
    (hfind : e.rules.find? (·.claims context t) = none) :
    e.transform context t = e.rebuild context t := by
  obtain ⟨levels, hlevels⟩ : ∃ levels, context.levels = levels + 1 :=
    Nat.exists_eq_add_one.2 (Nat.sub_pos_of_lt (Context.depth_lt_of_not_deep hdeep))
  have hrun : convertTree e.rules context.levels context t e.ledger =
      (t.mapChildren fun child =>
        ExceptT.mk (handle e.rules context.descend child)).run e.ledger := by
    rw [handle, (Context.levels_descend hlevels).2, hlevels, convertTree]
    simp only [hfind]
  exact congrArg (fun p : Except Error Tree × Ledger => (p.1, { e with ledger := p.2 })) hrun

/-- The rule that an operation adds, if it adds one. -/
def Operation.added? : Operation → Option Rule
  | .addRule rule => some rule
  | _ => none

/-- The rules that are added in the course of some operations, in order. -/
def addedBy (operations : List Operation) : List Rule :=
  operations.filterMap Operation.added?

theorem ordered_perform {added : List Rule} (h : Rule.Ordered added e.rules)
    (operation : Operation) :
    Rule.Ordered (added ++ operation.added?.toList) (e.perform operation).rules := by
  cases operation with
  | addRule rule => exact h.insert rule
  | transform _ _ | transformTree _ _ | clearStats => exact (List.append_nil added).symm ▸ h
  | transformBatch options inputs =>
      have hrules : (e.perform (.transformBatch options inputs)).rules = e.rules :=
        rules_transformEach e options inputs
      rw [hrules]
      exact (List.append_nil added).symm ▸ h

theorem ordered_performAll {added : List Rule} (h : Rule.Ordered added e.rules)
    (operations : List Operation) :
    Rule.Ordered (added ++ addedBy operations) (e.performAll operations).rules := by
  induction operations generalizing e added with
  | nil =>
      rw [addedBy, List.filterMap_nil, List.append_nil]
      exact h
  | cons operation operations ih =>
      have hsplit : addedBy (operation :: operations) =
          operation.added?.toList ++ addedBy operations := by
        rw [addedBy, List.filterMap_cons]
        cases operation.added? <;> rfl
      rw [hsplit, ← List.append_assoc]
      exact ih (ordered_perform h operation)

/-- Whatever has been done with an engine, its rules are the added ones, sorted stably by
priority. A node goes to the claiming rule of the highest priority that was added first. Rules
with different priorities can be added in any order. -/
theorem rules_after_history (operations : List Operation) :
    let e := performAll {} operations
    let added := addedBy operations
    (Rule.Ordered added e.rules ∧ e.rules = added.mergeSort Rule.atLeast ∧
      ∀ rule, (e.addRule rule).rules = (e.rules ++ [rule]).mergeSort Rule.atLeast) ∧
    (∀ context t, context.atMaxDepth = false →
      (∃ rule, Rule.Foremost (·.claims context t) added rule ∧
        e.transform context t = e.handTo rule context t) ∨
      (∀ rule ∈ added, rule.claims context t = false) ∧
        e.transform context t = e.rebuild context t) ∧
    ∀ operations', (addedBy operations').Perm added → (added.map Rule.priority).Nodup →
      (performAll {} operations').rules = e.rules ∧
      ∀ context t, ((performAll {} operations').transform context t).1 =
        (e.transform context t).1 := by
  intro e added
  have hordered (operations : List Operation) :
      Rule.Ordered ([] ++ addedBy operations) (performAll {} operations).rules :=
    ordered_performAll Rule.ordered_nil operations
  have he : Rule.Ordered added e.rules := hordered operations
  refine ⟨⟨he, he.eq_mergeSort, he.insertByPriority_eq⟩, ?_, ?_⟩
  · intro context t hdeep
    cases hfind : e.rules.find? (·.claims context t) with
    | some rule => exact .inl ⟨rule, he.foremost_of_find hfind, transform_claimed hdeep hfind⟩
    | none =>
        refine .inr ⟨fun rule hrule => ?_, transform_not_claimed hdeep hfind⟩
        exact Bool.eq_false_of_not_eq_true
          (List.find?_eq_none.1 hfind rule (he.perm.mem_iff.2 hrule))
  · intro operations' hperm hdistinct
    have hrules := he.eq_of_perm (hordered operations') hperm hdistinct
    exact ⟨hrules, transform_result_eq hrules⟩

/-- The rules of the conversion, a conversion, and one more rule. -/
def echoLast : List Operation :=
  [.addRule TestClass.rule, .addRule MochaStub.rule, .transformTree {} .nil, .addRule echo]

/-- The same rules in another order. -/
def echoFirst : List Operation :=
  [.addRule echo, .clearStats, .addRule MochaStub.rule, .addRule TestClass.rule]

theorem rules_after_history_echoFirst :
    (performAll {} echoLast).ruleNames = ["Echo", "ClassDeclarationRule", "MochaStubRule"] ∧
      (performAll {} echoLast).transform { options := {} } .nil =
        (performAll {} echoLast).handTo echo { options := {} } .nil ∧
      (performAll {} echoFirst).rules = (performAll {} echoLast).rules ∧
      ∀ t, ((performAll {} echoFirst).transformTree {} t).1 =
        ((performAll {} echoLast).transformTree {} t).1 := by
  have hperm : (addedBy echoFirst).Perm (addedBy echoLast) :=
    List.reverse_perm [TestClass.rule, MochaStub.rule, echo]
  have hdistinct : ((addedBy echoLast).map Rule.priority).Nodup := by decide
  obtain ⟨-, hnode, hother⟩ := rules_after_history echoLast
  obtain ⟨hrules, hresults⟩ := hother echoFirst hperm hdistinct
  refine ⟨rfl, ?_, hrules, fun t => hresults { options := {} } t⟩
  obtain ⟨rule, ⟨_, _, hadded, hclaims, -⟩, hhanded⟩ | ⟨hnone, -⟩ :=
    hnode { options := {} } .nil rfl
  · have hmem : rule ∈ addedBy echoLast := hadded ▸ List.mem_append_cons_self
    change rule ∈ [TestClass.rule, MochaStub.rule, echo] at hmem
    simp only [List.mem_cons, List.not_mem_nil, or_false] at hmem
    obtain rfl | rfl | rfl := hmem
    · cases hclaims
    · cases hclaims
    · exact hhanded
  · cases hnone echo (hperm.mem_iff.1 List.mem_cons_self)

end Engine
end Minispec
