import Mathlib.Data.List.Nodup
import Minispec.Proofs.FixedPoints
import Minispec.Proofs.Statistics

/-!
An engine with a single rule that replaces nodes, whatever nodes it claims and whatever it puts in
their places. Every place is reached, except in the name and the parent of a class: the outermost
nodes that are claimed are replaced, each is counted once, and everything else is as it was. An
engine whose rule claims nothing gives the tree back, or says that it is too deep. Rules that fail
or that convert trees further down are left out.
-/

namespace Minispec

/-! ### Places by their addresses -/

namespace Tree

/-- The tree that is reached from the root by the given steps, each of which is the number of a
visited tree. -/
def at? (t : Tree) : List Nat → Option Tree
  | [] => some t
  | i :: path => t.visited[i]?.bind fun c => c.at? path

theorem at_cons_eq_some_iff {t d : Tree} {i : Nat} {path : List Nat} :
    t.at? (i :: path) = some d ↔ ∃ c, t.visited[i]? = some c ∧ c.at? path = some d :=
  Option.bind_eq_some_iff

theorem visitsAt_iff {t d : Tree} {depth : Nat} :
    t.VisitsAt depth d ↔ ∃ path, t.at? path = some d ∧ path.length = depth := by
  constructor
  · intro h
    induction h with
    | root t => exact ⟨[], rfl, rfl⟩
    | deeper hc _ ih =>
        obtain ⟨i, hi⟩ := List.mem_iff_getElem?.1 hc
        obtain ⟨path, hpath, hlength⟩ := ih
        exact ⟨i :: path, at_cons_eq_some_iff.2 ⟨_, hi, hpath⟩, congrArg (· + 1) hlength⟩
  · intro h
    obtain ⟨path, hpath, rfl⟩ := h
    induction path generalizing t with
    | nil =>
        cases hpath
        exact .root _
    | cons i path ih =>
        obtain ⟨c, hc, hd⟩ := at_cons_eq_some_iff.1 hpath
        exact .deeper (List.mem_of_getElem? hc) (ih hd)

variable {p : Tree → Bool} {f : Tree → Tree}

/-- No node on the way to the place is claimed. -/
def ClearAbove (p : Tree → Bool) (t : Tree) (path : List Nat) : Prop :=
  ∀ k < path.length, ∀ d, t.at? (path.take k) = some d → p d = false

theorem clearAbove_nil (t : Tree) : t.ClearAbove p [] :=
  nofun

theorem clearAbove_cons_iff {t : Tree} {i : Nat} {path : List Nat} :
    t.ClearAbove p (i :: path) ↔
      p t = false ∧ ∀ c, t.visited[i]? = some c → c.ClearAbove p path := by
  constructor
  · intro h
    refine ⟨h 0 (Nat.zero_lt_succ _) t rfl, fun c hc k hk d hd => ?_⟩
    exact h (k + 1) (Nat.succ_lt_succ hk) d (at_cons_eq_some_iff.2 ⟨c, hc, hd⟩)
  · intro h k hk d hd
    cases k with
    | zero =>
        cases hd
        exact h.1
    | succ k =>
        obtain ⟨c, hc, hd⟩ := at_cons_eq_some_iff.1 hd
        exact h.2 c hc k (Nat.lt_of_succ_lt_succ hk) d hd

/-- The place of a node that is claimed, while none above it is. -/
def Hit (p : Tree → Bool) (t : Tree) (path : List Nat) : Prop :=
  t.ClearAbove p path ∧ ∃ d, t.at? path = some d ∧ p d = true

/-- The same node, with as many trees to visit, which may be others. -/
def SameNode (t u : Tree) : Prop :=
  u.visited.length = t.visited.length ∧ u = t.withVisited u.visited

/-- The second tree is the first with the outermost nodes that are claimed replaced. -/
structure Replaced (p : Tree → Bool) (f : Tree → Tree) (t u : Tree) : Prop where
  hit : ∀ path d, t.ClearAbove p path → t.at? path = some d → p d = true →
    u.at? path = some (f d)
  kept : ∀ path d, t.ClearAbove p path → t.at? path = some d → p d = false →
    ∃ d', u.at? path = some d' ∧ d.SameNode d'

/-- The places that are replaced, from left to right. -/
def hits (p : Tree → Bool) (t : Tree) : List (List Nat) :=
  if p t then [[]]
  else (List.finRange t.visited.length).flatMap fun i =>
    ((t.visited.get i).hits p).map (i.val :: ·)
termination_by t.nesting
decreasing_by exact nesting_lt_of_mem_visited (List.get_mem _ _)

theorem hits_of_claimed {t : Tree} (h : p t = true) : t.hits p = [[]] := by
  rw [hits, if_pos h]

theorem hits_of_not_claimed {t : Tree} (h : p t = false) :
    t.hits p = (List.finRange t.visited.length).flatMap fun i =>
      ((t.visited.get i).hits p).map (i.val :: ·) := by
  rw [hits, if_neg (Bool.not_eq_true _ ▸ h)]

theorem cons_mem_hits_iff {t : Tree} (h : p t = false) {i : Nat} {path : List Nat} :
    i :: path ∈ t.hits p ↔ ∃ c, t.visited[i]? = some c ∧ path ∈ c.hits p := by
  rw [hits_of_not_claimed h, List.mem_flatMap]
  constructor
  · intro hmem
    obtain ⟨j, _, hj⟩ := hmem
    obtain ⟨path', hpath', heq⟩ := List.mem_map.1 hj
    cases heq
    exact ⟨t.visited.get j, List.getElem?_eq_getElem j.isLt, hpath'⟩
  · intro hmem
    obtain ⟨c, hc, hpath⟩ := hmem
    obtain ⟨hi, rfl⟩ := List.getElem?_eq_some_iff.1 hc
    exact ⟨⟨i, hi⟩, List.mem_finRange _, List.mem_map.2 ⟨path, hpath, rfl⟩⟩

theorem hit_cons_iff {t : Tree} (h : p t = false) {i : Nat} {path : List Nat} :
    t.Hit p (i :: path) ↔ ∃ c, t.visited[i]? = some c ∧ c.Hit p path := by
  simp only [Hit, clearAbove_cons_iff, at_cons_eq_some_iff, h, true_and]
  constructor
  · intro hhit
    obtain ⟨hclear, d, ⟨c, hc, hd⟩, hp⟩ := hhit
    exact ⟨c, hc, hclear c hc, d, hd, hp⟩
  · intro hhit
    obtain ⟨c, hc, hclear, d, hd, hp⟩ := hhit
    refine ⟨fun c' hc' => ?_, d, ⟨c, hc, hd⟩, hp⟩
    cases hc.symm.trans hc'
    exact hclear

theorem mem_hits_iff {t : Tree} {path : List Nat} : path ∈ t.hits p ↔ t.Hit p path := by
  induction path generalizing t with
  | nil =>
      cases hp : p t with
      | true => simp [hits_of_claimed hp, Hit, clearAbove_nil, at?, hp]
      | false => simp [hits_of_not_claimed hp, Hit, at?, hp]
  | cons i path ih =>
      cases hp : p t with
      | true => simp [hits_of_claimed hp, Hit, clearAbove_cons_iff, hp]
      | false => simp only [cons_mem_hits_iff hp, hit_cons_iff hp, ih]

theorem nodup_hits (t : Tree) (p : Tree → Bool) : (t.hits p).Nodup := by
  induction t using induction_below with
  | step t ih =>
      cases hp : p t with
      | true =>
          rw [hits_of_claimed hp]
          exact List.nodup_singleton []
      | false =>
          rw [hits_of_not_claimed hp, List.nodup_flatMap]
          constructor
          · intro i _
            have hi := ih _ (mem_children_of_mem_visited (t.visited.get_mem i))
            exact hi.map fun _ _ h => (List.cons.inj h).2
          · refine (List.nodup_finRange _).imp fun {i j} hne path hi hj => hne ?_
            -- The first step tells which child a place is in.
            obtain ⟨_, _, rfl⟩ := List.mem_map.1 hi
            obtain ⟨_, _, heq⟩ := List.mem_map.1 hj
            exact Fin.ext (List.cons.inj heq).1.symm

/-- The hits below a node are those of the visited trees. -/
theorem map_hits_of_not_claimed {α : Type} {t : Tree} (h : p t = false) (a : α) :
    (t.hits p).map (fun _ => a) = t.visited.flatMap fun c => (c.hits p).map fun _ => a := by
  rw [hits_of_not_claimed h, List.map_flatMap]
  simp only [List.map_map, Function.comp_def]
  conv_rhs => rw [← List.map_getElem_finRange t.visited, List.flatMap_map]
  rfl

end Tree

/-! ### The run of one rule -/

/-- The rule claims nodes by what they are, and puts others in their places. -/
structure Rule.Replaces (rule : Rule) (p : Tree → Bool) (f : Tree → Tree) : Prop where
  claims_eq : ∀ context t, rule.claims context t = p t
  plan_eq : ∀ context t, p t = true → rule.plan context t = .finish (.ok (f t))

/-- What such a rule gives with the given number of levels left. -/
def replaced (maxDepth : Nat) (p : Tree → Bool) (f : Tree → Tree) : Nat → Tree → Except Error Tree
  | 0, _ => .error (.nestingTooDeep maxDepth)
  | levels + 1, t =>
    if p t then .ok (f t) else t.mapChildren (replaced maxDepth p f levels)

/-- The applications of such a rule. -/
def replacements (maxDepth : Nat) (p : Tree → Bool) (f : Tree → Tree) (name : String) :
    Nat → Tree → List Application
  | 0, _ => []
  | levels + 1, t =>
    if p t then [⟨name, .ok ()⟩]
    else logAll (replaced maxDepth p f levels) (replacements maxDepth p f name levels) t.visited

/-- A node that is claimed goes to the given rule, which replaces it. -/
structure Replacing (rules : List Rule) (rule : Rule) (p : Tree → Bool) (f : Tree → Tree) :
    Prop where
  find_eq : ∀ context t, rules.find? (·.claims context t) = if p t then some rule else none
  plan_eq : ∀ context t, p t = true → rule.plan context t = .finish (.ok (f t))

section Run
variable {p : Tree → Bool} {f : Tree → Tree} {rules : List Rule} {rule : Rule}

theorem Rule.Replaces.replacing (h : rule.Replaces p f) : Replacing [rule] rule p f where
  find_eq context t := by
    rw [List.find?_singleton, h.claims_eq]
  plan_eq := h.plan_eq

theorem replacing_nil (rule : Rule) (f : Tree → Tree) :
    Replacing [] rule (fun _ => false) f where
  find_eq _ _ := rfl
  plan_eq _ _ := nofun

theorem returns_replaced (h : Replacing rules rule p f) (levels : Nat) (context : Context)
    (t : Tree) :
    Returns (convertTree rules levels context t)
      (replaced context.options.maxDepth p f levels t) := by
  induction levels generalizing context t with
  | zero => exact fun _ => rfl
  | succ levels ih =>
      rw [convertTree, replaced, h.find_eq]
      cases hp : p t with
      | true =>
          simp only [if_true, h.plan_eq context t hp]
          exact fun _ => rfl
      | false =>
          simp only [Bool.false_eq_true, if_false]
          exact returns_mapChildren (ih context.descend) t

theorem logs_replacements (h : Replacing rules rule p f) (levels : Nat) (context : Context)
    (t : Tree) :
    Logs (convertTree rules levels context t)
      (replacements context.options.maxDepth p f rule.name levels t) := by
  induction levels generalizing context t with
  | zero => exact fun _ => rfl
  | succ levels ih =>
      rw [convertTree, replacements, h.find_eq]
      cases hp : p t with
      | true =>
          simp only [if_true, h.plan_eq context t hp]
          exact fun _ => rfl
      | false =>
          simp only [Bool.false_eq_true, if_false]
          exact logs_mapChildren (returns_replaced h levels context.descend)
            (ih context.descend) t

theorem transform_replacing (h : Replacing rules rule p f) (ledger : Ledger) (context : Context)
    (t : Tree) :
    Engine.transform ⟨rules, ledger⟩ context t =
      (replaced context.options.maxDepth p f context.levels t,
        ⟨rules, ledger.recordAll
          (replacements context.options.maxDepth p f rule.name context.levels t)⟩) := by
  have hresult := returns_replaced h context.levels context t ledger
  have hledger := logs_replacements h context.levels context t ledger
  rw [← hresult, ← hledger]
  rfl

end Run

/-! ### Replaced nodes -/

section Replaced
variable {maxDepth : Nat} {p : Tree → Bool} {f : Tree → Tree} {name : String} {levels : Nat}
  {t u : Tree}

theorem replaced_of_claimed (h : p t = true) :
    replaced maxDepth p f (levels + 1) t = .ok (f t) := by
  rw [replaced, if_pos h]

theorem replaced_of_not_claimed (h : p t = false) :
    replaced maxDepth p f (levels + 1) t = t.mapChildren (replaced maxDepth p f levels) := by
  rw [replaced, if_neg (Bool.not_eq_true _ ▸ h)]

theorem exists_replaced (maxDepth : Nat) (p : Tree → Bool) (f : Tree → Tree)
    (h : t.nesting < levels) : ∃ u, replaced maxDepth p f levels t = .ok u := by
  induction levels generalizing t with
  | zero => omega
  | succ levels ih =>
      cases hp : p t with
      | true => exact ⟨f t, replaced_of_claimed hp⟩
      | false =>
          rw [replaced_of_not_claimed hp, Tree.exists_mapChildren_ok_iff]
          intro c hc
          have := Tree.nesting_lt_of_mem_visited hc
          exact ih (by omega)

theorem exists_getElem_of_forall₂ {α β : Type} {R : α → β → Prop} {as : List α} {bs : List β}
    (h : List.Forall₂ R as bs) {i : Nat} {a : α} (ha : as[i]? = some a) :
    ∃ b, bs[i]? = some b ∧ R a b := by
  induction h generalizing i with
  | nil => cases ha
  | cons hab _ ih =>
      cases i with
      | zero =>
          cases ha
          exact ⟨_, rfl, hab⟩
      | succ i => exact ih ha

theorem isReplaced_of_claimed (hp : p t = true) : t.Replaced p f (f t) := by
  have hroot : ∀ {path}, t.ClearAbove p path → path = [] := by
    intro path hclear
    cases path with
    | nil => rfl
    | cons i path =>
        rw [Tree.clearAbove_cons_iff, hp] at hclear
        cases hclear.1
  constructor
  · intro path d hclear hd _
    cases hroot hclear
    cases hd
    rfl
  · intro path d hclear hd hpd
    cases hroot hclear
    cases hd
    cases hp.symm.trans hpd

/-- A node that is not claimed stays the same node, and its visited trees are told apart by the
first step. -/
theorem isReplaced_of_not_claimed (hp : p t = false)
    (hvisited : List.Forall₂ (Tree.Replaced p f) t.visited u.visited)
    (hu : u = t.withVisited u.visited) : t.Replaced p f u := by
  have hbelow : ∀ {i path d}, t.ClearAbove p (i :: path) → t.at? (i :: path) = some d →
      ∃ c c' : Tree, u.visited[i]? = some c' ∧ c.Replaced p f c' ∧ c.ClearAbove p path ∧
        c.at? path = some d := by
    intro i path d hclear hd
    obtain ⟨c, hc, hd⟩ := Tree.at_cons_eq_some_iff.1 hd
    obtain ⟨c', hc', hreplaced⟩ := exists_getElem_of_forall₂ hvisited hc
    exact ⟨c, c', hc', hreplaced, (Tree.clearAbove_cons_iff.1 hclear).2 c hc, hd⟩
  constructor
  · intro path d hclear hd hpd
    cases path with
    | nil =>
        cases hd
        cases hp.symm.trans hpd
    | cons i path =>
        obtain ⟨c, c', hc', hreplaced, hclear, hd⟩ := hbelow hclear hd
        exact Tree.at_cons_eq_some_iff.2 ⟨c', hc', hreplaced.hit path d hclear hd hpd⟩
  · intro path d hclear hd hpd
    cases path with
    | nil =>
        cases hd
        exact ⟨u, rfl, hvisited.length_eq.symm, hu⟩
    | cons i path =>
        obtain ⟨c, c', hc', hreplaced, hclear, hd⟩ := hbelow hclear hd
        obtain ⟨d', hd', hsame⟩ := hreplaced.kept path d hclear hd hpd
        exact ⟨d', Tree.at_cons_eq_some_iff.2 ⟨c', hc', hd'⟩, hsame⟩

theorem isReplaced_of_replaced (h : replaced maxDepth p f levels t = .ok u) :
    t.Replaced p f u := by
  induction levels generalizing t u with
  | zero => cases h
  | succ levels ih =>
      cases hp : p t with
      | true =>
          cases (replaced_of_claimed hp).symm.trans h
          exact isReplaced_of_claimed hp
      | false =>
          rw [replaced_of_not_claimed hp] at h
          obtain ⟨hvisited, hu⟩ := Tree.mapChildren_ok h
          exact isReplaced_of_not_claimed hp (hvisited.imp fun c d => ih) hu

theorem logAll_of_forall₂ {convert : Tree → Except Error Tree} {log : Tree → List Application}
    {ts us : List Tree} (h : List.Forall₂ (fun t u => convert t = .ok u) ts us) :
    logAll convert log ts = ts.flatMap log := by
  induction h with
  | nil => rfl
  | cons ht _ ih => rw [logAll_cons_ok ht, List.flatMap_cons, ih]

/-- Each node that is replaced is counted once. -/
theorem replacements_of_replaced (h : replaced maxDepth p f levels t = .ok u) :
    replacements maxDepth p f name levels t = (t.hits p).map fun _ => ⟨name, .ok ()⟩ := by
  induction levels generalizing t u with
  | zero => cases h
  | succ levels ih =>
      rw [replacements]
      cases hp : p t with
      | true =>
          rw [Tree.hits_of_claimed hp]
          rfl
      | false =>
          rw [replaced_of_not_claimed hp] at h
          obtain ⟨hvisited, _⟩ := Tree.mapChildren_ok h
          simp only [Bool.false_eq_true, if_false]
          rw [logAll_of_forall₂ hvisited, Tree.map_hits_of_not_claimed hp]
          refine List.flatMap_congr fun c hc => ?_
          obtain ⟨i, hi⟩ := List.mem_iff_getElem?.1 hc
          obtain ⟨d, _, hd⟩ := exists_getElem_of_forall₂ hvisited hi
          exact ih hd

end Replaced

/-! ### Nothing to replace -/

section Unclaimed
variable {maxDepth : Nat} {p : Tree → Bool} {f : Tree → Tree} {name : String} {levels : Nat}
  {t : Tree}

theorem replaced_of_unclaimed (h : ∀ depth d, t.VisitsAt depth d → p d = false)
    (hwithin : t.Within levels) : replaced maxDepth p f levels t = .ok t := by
  induction levels generalizing t with
  | zero => cases hwithin
  | succ levels ih =>
      obtain ⟨hp, hbelow⟩ := Tree.forall_visitsAt_iff.1 h
      rw [replaced_of_not_claimed hp, Tree.mapChildren_self_iff]
      intro c hc
      exact ih (hbelow c hc) (hwithin c hc)

theorem replaced_error {e : Error} (h : replaced maxDepth p f levels t = .error e) :
    e = .nestingTooDeep maxDepth := by
  induction levels generalizing t with
  | zero => exact (Except.error.inj h).symm
  | succ levels ih =>
      cases hp : p t with
      | true => cases (replaced_of_claimed hp).symm.trans h
      | false =>
          rw [replaced_of_not_claimed hp] at h
          obtain ⟨c, _, hc⟩ := Tree.mapChildren_error h
          exact ih hc

theorem within_of_replaced (h : ∀ depth d, t.VisitsAt depth d → p d = false) {u : Tree}
    (hresult : replaced maxDepth p f levels t = .ok u) : t.Within levels := by
  induction levels generalizing t u with
  | zero => cases hresult
  | succ levels ih =>
      obtain ⟨hp, hbelow⟩ := Tree.forall_visitsAt_iff.1 h
      rw [replaced_of_not_claimed hp] at hresult
      intro c hc
      obtain ⟨d, hd⟩ := Tree.exists_mapChildren_ok_iff.1 ⟨u, hresult⟩ c hc
      exact ih (hbelow c hc) hd

theorem replaced_too_deep (h : ∀ depth d, t.VisitsAt depth d → p d = false)
    (hwithin : ¬ t.Within levels) :
    replaced maxDepth p f levels t = .error (.nestingTooDeep maxDepth) := by
  cases hresult : replaced maxDepth p f levels t with
  | error e => rw [replaced_error hresult]
  | ok u => exact absurd (within_of_replaced h hresult) hwithin

theorem logAll_eq_nil {convert : Tree → Except Error Tree} {log : Tree → List Application}
    {ts : List Tree} (h : ∀ t ∈ ts, log t = []) : logAll convert log ts = [] := by
  induction ts with
  | nil => rfl
  | cons t ts ih =>
      obtain ⟨ht, hts⟩ := List.forall_mem_cons.1 h
      rw [logAll, ht, List.nil_append, ih hts]
      cases convert t <;> rfl

theorem replacements_of_unclaimed (h : ∀ depth d, t.VisitsAt depth d → p d = false) :
    replacements maxDepth p f name levels t = [] := by
  induction levels generalizing t with
  | zero => rfl
  | succ levels ih =>
      obtain ⟨hp, hbelow⟩ := Tree.forall_visitsAt_iff.1 h
      rw [replacements, if_neg (Bool.not_eq_true _ ▸ hp)]
      exact logAll_eq_nil fun c hc => ih (hbelow c hc)

end Unclaimed

/-! ### Whole runs -/

theorem within_levels_iff {context : Context} {t : Tree} :
    t.Within context.levels ↔ ∀ path d, t.at? path = some d →
      context.depth + path.length < context.options.maxDepth := by
  rw [Tree.within_iff]
  simp only [Tree.visitsAt_iff, Context.levels]
  constructor
  · intro h path d hd
    have := h path.length d ⟨path, hd, rfl⟩
    omega
  · intro h depth d hd
    obtain ⟨path, hd, rfl⟩ := hd
    have := h path d hd
    omega

theorem transform_unclaimed {rules : List Rule} {rule : Rule} {p : Tree → Bool} {f : Tree → Tree}
    (h : Replacing rules rule p f) (ledger : Ledger) (context : Context) {t : Tree}
    (hunclaimed : ∀ path d, t.at? path = some d → p d = false) :
    ((∃ path d, t.at? path = some d ∧ context.options.maxDepth ≤ context.depth + path.length) →
      Engine.transform ⟨rules, ledger⟩ context t =
        (.error (.nestingTooDeep context.options.maxDepth), ⟨rules, ledger⟩)) ∧
    ((∀ path d, t.at? path = some d → context.depth + path.length < context.options.maxDepth) →
      Engine.transform ⟨rules, ledger⟩ context t = (.ok t, ⟨rules, ledger⟩)) := by
  have hvisits : ∀ depth d, t.VisitsAt depth d → p d = false := by
    intro depth d hd
    obtain ⟨path, hd, _⟩ := Tree.visitsAt_iff.1 hd
    exact hunclaimed path d hd
  rw [transform_replacing h, replacements_of_unclaimed hvisits]
  constructor
  · intro hdeep
    obtain ⟨path, d, hd, hle⟩ := hdeep
    have hnot : ¬ t.Within context.levels := fun hwithin =>
      Nat.not_lt.2 hle (within_levels_iff.1 hwithin path d hd)
    rw [replaced_too_deep hvisits hnot]
    rfl
  · intro hshallow
    rw [replaced_of_unclaimed hvisits (within_levels_iff.2 hshallow)]
    rfl

theorem statsFor_recordAll_successes {α : Type} (ledger : Ledger) (rule name : String)
    (hits : List α) :
    (ledger.recordAll (hits.map fun _ => ⟨rule, .ok ()⟩)).statsFor name =
      if name = rule then (ledger.statsFor name).plus hits.length 0 else ledger.statsFor name := by
  rw [Ledger.statsFor_recordAll, counted, counted, List.countP_map, List.countP_map]
  split
  · next h => simp [Function.comp_def, h, Except.isOk, Except.toBool]
  · next h =>
      have hname : (rule == name) = false := beq_false_of_ne (Ne.symm h)
      simp only [Function.comp_def, hname, Bool.false_and, List.countP_false]
      rfl

/-- A rule that replaces nodes reaches every place, except in the name and the parent of a class,
and each of them once. If there is nothing to replace, the tree is given back as it is, unless a
place lies too deep; nothing is counted in either case. -/
theorem Engine.transform_replaces {rule : Rule} {p : Tree → Bool} {f : Tree → Tree}
    (hrule : rule.Replaces p f) (ledger : Ledger) (context : Context) (t : Tree) :
    (context.depth + t.nesting < context.options.maxDepth →
      ∃ (u : Tree) (hits : List (List Nat)),
        (Engine.transform ⟨[rule], ledger⟩ context t).1 = .ok u ∧ t.Replaced p f u ∧
        hits.Nodup ∧ (∀ path, path ∈ hits ↔ t.Hit p path) ∧
        ∀ name, (Engine.transform ⟨[rule], ledger⟩ context t).2.ledger.statsFor name =
          if name = rule.name then (ledger.statsFor name).plus hits.length 0
          else ledger.statsFor name) ∧
    ∀ rules, (rules = [] ∨ rules = [rule] ∧ ∀ path d, t.at? path = some d → p d = false) →
      ((∃ path d, t.at? path = some d ∧ context.options.maxDepth ≤ context.depth + path.length) →
        Engine.transform ⟨rules, ledger⟩ context t =
          (.error (.nestingTooDeep context.options.maxDepth), ⟨rules, ledger⟩)) ∧
      ((∀ path d, t.at? path = some d → context.depth + path.length < context.options.maxDepth) →
        Engine.transform ⟨rules, ledger⟩ context t = (.ok t, ⟨rules, ledger⟩)) := by
  constructor
  · intro hdepth
    have hlevels : t.nesting < context.levels := by
      rw [Context.levels]
      omega
    obtain ⟨u, hu⟩ := exists_replaced context.options.maxDepth p f hlevels
    rw [transform_replacing hrule.replacing, replacements_of_replaced hu, hu]
    exact ⟨u, t.hits p, rfl, isReplaced_of_replaced hu, t.nodup_hits p,
      fun _ => Tree.mem_hits_iff,
      fun name => statsFor_recordAll_successes ledger rule.name name (t.hits p)⟩
  · intro rules hrules
    obtain rfl | ⟨rfl, hunclaimed⟩ := hrules
    · exact transform_unclaimed (replacing_nil rule f) ledger context fun _ _ _ => rfl
    · exact transform_unclaimed hrule.replacing ledger context hunclaimed

/-- Puts `nil` in the place of every constant. -/
def forgetConstants : Rule where
  name := "ForgetConstants"
  description := "Replaces constants"
  claims _ t := t.kind == "const"
  plan _ _ := .finish (.ok .nil)

theorem forgetConstants_replaces :
    forgetConstants.Replaces (fun t => t.kind == "const") fun _ => .nil where
  claims_eq _ _ := rfl
  plan_eq _ _ _ := rfl

/-- Constants as the parent of a class, as a receiver and as an argument. -/
def scatteredConstants : Tree :=
  .classDecl (.sym "Foo") (some (.const "Bar"))
    [.call (some (.const "Baz")) "each" [.array [.const "Qux", .selfRef]]]

theorem Engine.transform_replaces_scatteredConstants :
    (∃ u, (transform ⟨[forgetConstants], {}⟩ { options := {} } scatteredConstants).1 = .ok u ∧
      u.at? [0, 0] = some .nil) ∧
      transform ⟨[], {}⟩ { options := { maxDepth := 3 } } scatteredConstants =
        (.error (.nestingTooDeep 3), ⟨[], {}⟩) := by
  have hclear : scatteredConstants.ClearAbove (fun t => t.kind == "const") [0, 0] := by
    refine Tree.clearAbove_cons_iff.2 ⟨rfl, fun c hc => ?_⟩
    cases hc
    exact Tree.clearAbove_cons_iff.2 ⟨rfl, fun c _ => c.clearAbove_nil⟩
  constructor
  · have hrun := transform_replaces forgetConstants_replaces {} { options := {} } scatteredConstants
    obtain ⟨u, _, hu, hreplaced, _⟩ := hrun.1 (by decide)
    exact ⟨u, hu, hreplaced.hit [0, 0] (.const "Baz") hclear rfl rfl⟩
  · have hrun := transform_replaces forgetConstants_replaces {} { options := { maxDepth := 3 } }
      scatteredConstants
    exact (hrun.2 [] (.inl rfl)).1 ⟨[0, 1, 0], .const "Qux", rfl, by decide⟩

end Minispec
