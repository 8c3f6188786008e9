import Minispec.Proofs.DispatchOrder

/-!
What the statistics of an engine say. Whatever rules it has and whatever is done with it, every
entry stands under its own name and balances, and no rule is without an entry. With the rules of
the conversion the counts say how far a run came: the number of classes and stubs if it succeeds,
and otherwise those around the place where it failed. Times are not modelled.
-/

namespace Minispec

/-! ### Entries -/

namespace RuleStats

def Balanced (s : RuleStats) : Prop :=
  s.applications = s.transformations + s.errors

/-- The counts after a number of applications that succeeded and a number that failed. -/
def plus (s : RuleStats) (succeeded failed : Nat) : RuleStats :=
  { s with
    applications := s.applications + (succeeded + failed)
    transformations := s.transformations + succeeded
    errors := s.errors + failed }

theorem plus_count_ok {α : Type} (s : RuleStats) (a : α) (succeeded failed : Nat) :
    (s.count (.ok a : Except Error α)).plus succeeded failed = s.plus (succeeded + 1) failed := by
  simp only [plus, count, RuleStats.mk.injEq, true_and, and_true]
  omega

theorem plus_count_error {α : Type} (s : RuleStats) (e : Error) (succeeded failed : Nat) :
    (s.count (.error e : Except Error α)).plus succeeded failed =
      s.plus succeeded (failed + 1) := by
  simp only [plus, count, RuleStats.mk.injEq, true_and, and_true]
  omega

theorem Balanced.count {α : Type} {s : RuleStats} (h : s.Balanced) (result : Except Error α) :
    (s.count result).Balanced := by
  unfold Balanced at *
  cases result with
  | ok _ =>
      change s.applications + 1 = s.transformations + 1 + s.errors
      omega
  | error _ =>
      change s.applications + 1 = s.transformations + (s.errors + 1)
      omega

theorem ruleName_count {α : Type} (s : RuleStats) (result : Except Error α) :
    (s.count result).ruleName = s.ruleName := by
  cases result <;> rfl

end RuleStats

theorem Rule.mem_insertByPriority (rule : Rule) {rules : List Rule} {other : Rule}
    (h : other ∈ rule.insertByPriority rules) : other = rule ∨ other ∈ rules := by
  induction rules with
  | nil => exact .inl (List.mem_singleton.1 h)
  | cons first rest ih =>
      rw [insertByPriority] at h
      split_ifs at h
      · exact List.mem_cons.1 h
      · cases List.mem_cons.1 h with
        | inl h => exact .inr (h ▸ List.mem_cons_self)
        | inr h => exact (ih h).imp_right (List.mem_cons_of_mem first)

namespace Ledger

/-- The counts of a rule; none if the rule has no entry. -/
def statsFor (l : Ledger) (name : String) : RuleStats :=
  (l.get? name).getD { ruleName := name }

theorem lookup_putEntry (name other : String) (s : RuleStats)
    (entries : List (String × RuleStats)) :
    (putEntry name s entries).lookup other =
      if other = name then some s else entries.lookup other := by
  induction entries with
  | nil =>
      by_cases h : other = name
      · simp [putEntry, h]
      · simp [putEntry, List.lookup_cons, beq_false_of_ne h, h]
  | cons entry rest ih =>
      obtain ⟨first, s'⟩ := entry
      by_cases hfirst : first = name
      · by_cases h : other = name
        · simp [putEntry, hfirst, h]
        · simp [putEntry, List.lookup_cons, hfirst, beq_false_of_ne h, h]
      · rw [putEntry, if_neg hfirst, List.lookup_cons, List.lookup_cons, ih]
        by_cases h : other = name
        · rw [h, beq_false_of_ne (Ne.symm hfirst)]
        · rw [if_neg h, if_neg h]

theorem statsFor_record {α : Type} (l : Ledger) (rule name : String) (result : Except Error α) :
    (l.record rule result).statsFor name =
      if name = rule then (l.statsFor name).count result else l.statsFor name := by
  simp only [statsFor, record, get?, put, lookup_putEntry]
  by_cases h : name = rule <;> simp [h]

/-- Recording a log adds what the log counts. -/
theorem statsFor_recordAll (l : Ledger) (log : List Application) (name : String) :
    (l.recordAll log).statsFor name =
      (l.statsFor name).plus (counted name true log) (counted name false log) := by
  induction log generalizing l with
  | nil => rfl
  | cons a log ih =>
      obtain ⟨rule, outcome⟩ := a
      change ((l.record rule outcome).recordAll log).statsFor name = _
      rw [ih, statsFor_record]
      by_cases h : name = rule
      · rw [if_pos h, h]
        cases outcome with
        | ok _ =>
            rw [RuleStats.plus_count_ok]
            simp [counted, Except.isOk, Except.toBool]
        | error e =>
            rw [RuleStats.plus_count_error]
            simp [counted, Except.isOk, Except.toBool]
      · rw [if_neg h]
        simp [counted, Ne.symm h]

/-! ### Ledgers that any engine can have -/

/-- The entries have different names, each is filed under the name it carries and balances, and
every rule has one. -/
structure Consistent (rules : List Rule) (l : Ledger) : Prop where
  distinct : (l.entries.map Prod.fst).Nodup
  ownName : ∀ entry ∈ l.entries, entry.2.ruleName = entry.1
  balanced : ∀ entry ∈ l.entries, entry.2.Balanced
  installed : ∀ rule ∈ rules, ∃ s, (rule.name, s) ∈ l.entries

theorem mem_putEntry {name : String} {s : RuleStats} {entries : List (String × RuleStats)}
    {entry : String × RuleStats} (h : entry ∈ putEntry name s entries) :
    entry = (name, s) ∨ entry ∈ entries := by
  induction entries with
  | nil => exact .inl (List.mem_singleton.1 h)
  | cons first rest ih =>
      rw [putEntry] at h
      split_ifs at h
      · exact (List.mem_cons.1 h).imp_right (List.mem_cons_of_mem first)
      · cases List.mem_cons.1 h with
        | inl h => exact .inr (h ▸ List.mem_cons_self)
        | inr h => exact (ih h).imp_right (List.mem_cons_of_mem first)

theorem mem_keys_putEntry {name key : String} {s : RuleStats}
    {entries : List (String × RuleStats)} :
    key ∈ (putEntry name s entries).map Prod.fst ↔ key = name ∨ key ∈ entries.map Prod.fst := by
  induction entries with
  | nil => simp [putEntry]
  | cons first rest ih =>
      rw [putEntry]
      split_ifs with hfirst
      · simp [hfirst]
      · rw [List.map_cons, List.map_cons, List.mem_cons, List.mem_cons, ih]
        exact or_left_comm

theorem nodup_putEntry {name : String} {s : RuleStats} {entries : List (String × RuleStats)}
    (h : (entries.map Prod.fst).Nodup) : ((putEntry name s entries).map Prod.fst).Nodup := by
  induction entries with
  | nil => exact List.nodup_cons.2 ⟨nofun, List.nodup_nil⟩
  | cons first rest ih =>
      obtain ⟨hnew, hrest⟩ := List.nodup_cons.1 h
      rw [putEntry]
      split_ifs with hfirst
      · exact List.nodup_cons.2 ⟨hfirst ▸ hnew, hrest⟩
      · refine List.nodup_cons.2 ⟨fun hmem => ?_, ih hrest⟩
        cases mem_keys_putEntry.1 hmem with
        | inl hsame => exact hfirst hsame
        | inr hmem => exact hnew hmem

namespace Consistent
variable {rules : List Rule} {l : Ledger}

theorem put (h : l.Consistent rules) {name : String} {s : RuleStats} (hname : s.ruleName = name)
    (hbalanced : s.Balanced) {others : List Rule}
    (hothers : ∀ rule ∈ others, rule.name = name ∨ rule ∈ rules) :
    (l.put name s).Consistent others where
  distinct := nodup_putEntry h.distinct
  ownName entry hentry := by
    obtain rfl | hentry := mem_putEntry hentry
    · exact hname
    · exact h.ownName entry hentry
  balanced entry hentry := by
    obtain rfl | hentry := mem_putEntry hentry
    · exact hbalanced
    · exact h.balanced entry hentry
  installed rule hrule := by
    have hkey : rule.name ∈ (putEntry name s l.entries).map Prod.fst := by
      refine mem_keys_putEntry.2 ((hothers rule hrule).imp_right fun hrule => ?_)
      obtain ⟨s', hentry⟩ := h.installed rule hrule
      exact List.mem_map_of_mem hentry
    obtain ⟨entry, hentry, hname⟩ := List.mem_map.1 hkey
    exact ⟨entry.2, hname ▸ hentry⟩

theorem enter (h : l.Consistent rules) (rule : Rule) :
    (l.enter rule.name).Consistent (rule.insertByPriority rules) := by
  have hbalanced : RuleStats.Balanced { ruleName := rule.name } := rfl
  refine h.put rfl hbalanced fun other hother => ?_
  exact (rule.mem_insertByPriority hother).imp_left (congrArg Rule.name)

theorem record (h : l.Consistent rules) {α : Type} (name : String) (result : Except Error α) :
    (l.record name result).Consistent rules := by
  have hentry : ((l.get? name).getD { ruleName := name }).ruleName = name ∧
      ((l.get? name).getD { ruleName := name }).Balanced := by
    cases hget : l.get? name with
    | none => exact ⟨rfl, rfl⟩
    | some s =>
        obtain ⟨first, rest, hentries, _⟩ := List.lookup_eq_some_iff.1 hget
        have hmem : (name, s) ∈ l.entries := hentries ▸ List.mem_append_cons_self
        exact ⟨h.ownName _ hmem, h.balanced _ hmem⟩
  refine h.put ?_ (hentry.2.count result) fun rule hrule => .inr hrule
  rw [RuleStats.ruleName_count, hentry.1]

theorem clear (h : l.Consistent rules) : l.clear.Consistent rules where
  distinct := by
    have hkeys : l.clear.entries.map Prod.fst = l.entries.map Prod.fst := by
      simp [Ledger.clear]
    exact hkeys ▸ h.distinct
  ownName entry hentry := by
    obtain ⟨old, hold, rfl⟩ := List.mem_map.1 hentry
    exact h.ownName old hold
  balanced entry hentry := by
    obtain ⟨old, _, rfl⟩ := List.mem_map.1 hentry
    exact rfl
  installed rule hrule := by
    obtain ⟨s, hentry⟩ := h.installed rule hrule
    exact ⟨_, List.mem_map_of_mem hentry⟩

end Consistent
end Ledger

/-! ### Whatever is done with an engine -/

/-- The computation keeps what holds of a ledger. -/
def Keeps {α : Type} (holds : Ledger → Prop) (x : StateM Ledger α) : Prop :=
  ∀ ledger, holds ledger → holds (x ledger).2

section Keeps
variable {holds : Ledger → Prop} {convert : Tree → StateM Ledger (Except Error Tree)}

theorem Keeps.bind {α β : Type} {x : ExceptT Error (StateM Ledger) α}
    {k : α → ExceptT Error (StateM Ledger) β} (hx : Keeps holds x.run)
    (hk : ∀ a, Keeps holds (k a).run) : Keeps holds (x >>= k).run := by
  intro ledger h
  have hfirst := hx ledger h
  change holds (ExceptT.bindCont k (x.run ledger).1 (x.run ledger).2).2
  cases (x.run ledger).1 with
  | error e => exact hfirst
  | ok a => exact hk a _ hfirst

theorem keeps_mapM (h : ∀ t, Keeps holds (convert t)) (ts : List Tree) :
    Keeps holds (ts.mapM fun t => ExceptT.mk (convert t)).run := by
  induction ts with
  | nil => exact fun _ hledger => hledger
  | cons t ts ih =>
      rw [List.mapM_cons]
      exact Keeps.bind (h t) fun u => ih.bind fun us _ hledger => hledger

theorem keeps_mapChildren (h : ∀ t, Keeps holds (convert t)) (t : Tree) :
    Keeps holds (t.mapChildren fun c => ExceptT.mk (convert c)).run := by
  rw [Tree.mapChildren_eq]
  exact (keeps_mapM h t.visited).bind fun us _ hledger => hledger

theorem keeps_plan (h : ∀ t, Keeps holds (convert t)) (plan : Plan) :
    Keeps holds (plan.run convert) := by
  induction plan with
  | finish result => exact fun _ hledger => hledger
  | descend t next ih => exact fun ledger hledger => ih _ _ (h t ledger hledger)

/-- What recording an application keeps, a conversion keeps, whatever the rules do. -/
theorem keeps_convertTree
    (hrecord : ∀ l name (result : Except Error Tree), holds l → holds (l.record name result))
    (rules : List Rule) (levels : Nat) (context : Context) (t : Tree) :
    Keeps holds (convertTree rules levels context t) := by
  induction levels generalizing context t with
  | zero => exact fun _ hledger => hledger
  | succ levels ih =>
      rw [convertTree]
      cases rules.find? (·.claims context t) with
      | none => exact keeps_mapChildren (ih context.descend) t
      | some rule =>
          -- The plan comes back to the conversion as often as it likes before it is recorded.
          intro ledger hledger
          exact hrecord _ _ _ (keeps_plan (ih context.descend) (rule.plan context t) ledger hledger)

end Keeps

namespace Engine

def Consistent (e : Engine) : Prop :=
  e.ledger.Consistent e.rules

/-- What can be done with an engine. -/
inductive Operation
  | addRule (rule : Rule)
  | transform (context : Context) (t : Tree)
  | transformTree (options : Options) (t : Tree)
  | transformBatch (options : Options) (inputs : List (String × Tree))
  | clearStats

def perform (e : Engine) : Operation → Engine
  | .addRule rule => e.addRule rule
  | .transform context t => (e.transform context t).2
  | .transformTree options t => (e.transformTree options t).2
  | .transformBatch options inputs => (e.transformBatch options inputs).2
  | .clearStats => e.clearStats

def performAll (e : Engine) (operations : List Operation) : Engine :=
  operations.foldl perform e

variable {e : Engine}

theorem Consistent.transform (h : e.Consistent) (context : Context) (t : Tree) :
    (e.transform context t).2.Consistent :=
  keeps_convertTree (fun _ name result hl => hl.record name result) e.rules context.levels context t
    e.ledger h

theorem Consistent.transformEach (h : e.Consistent) (options : Options)
    (inputs : List (String × Tree)) : (e.transformEach options inputs).2.Consistent := by
  induction inputs generalizing e with
  | nil => exact h
  | cons input inputs ih => exact ih (h.transform _ input.2)

theorem Consistent.perform (h : e.Consistent) (operation : Operation) :
    (e.perform operation).Consistent := by
  cases operation with
  | addRule rule => exact h.enter rule
  | transform context t => exact h.transform context t
  | transformTree options t => exact h.transform { options } t
  | transformBatch options inputs => exact h.transformEach options inputs
  | clearStats => exact h.clear

theorem Consistent.performAll (h : e.Consistent) (operations : List Operation) :
    (e.performAll operations).Consistent := by
  induction operations generalizing e with
  | nil => exact h
  | cons operation operations ih => exact ih (h.perform operation)

theorem consistent_empty : ({} : Engine).Consistent where
  distinct := List.nodup_nil
  ownName := nofun
  balanced := nofun
  installed := nofun

end Engine

/-! ### What a conversion counts -/

/-- The counts of the two rules of the conversion have grown by the given numbers. -/
structure Ledger.GrowsBy (l after : Ledger) (classes classErrors stubs stubErrors : Nat) :
    Prop where
  classes : after.statsFor TestClass.rule.name =
    (l.statsFor TestClass.rule.name).plus classes classErrors
  stubs : after.statsFor MochaStub.rule.name =
    (l.statsFor MochaStub.rule.name).plus stubs stubErrors

theorem Ledger.growsBy_recordAll (l : Ledger) (log : List Application) :
    l.GrowsBy (l.recordAll log) (counted TestClass.rule.name true log)
      (counted TestClass.rule.name false log) (counted MochaStub.rule.name true log)
      (counted MochaStub.rule.name false log) :=
  ⟨l.statsFor_recordAll log _, l.statsFor_recordAll log _⟩

/-- A conversion that succeeds counts all classes and stubs that it comes to. -/
theorem growsBy_of_process_ok {options : Options} {t u : Tree} (h : process options t = .ok u)
    (l : Ledger) :
    l.GrowsBy (l.recordAll (applications options options.maxDepth t))
      (classCount (t.places options.mocha [])) 0
      (stubCount options.mocha (t.places options.mocha [])) 0 := by
  have haccounts := accounts_process options t
  rw [h] at haccounts
  have hgrows := l.growsBy_recordAll (applications options options.maxDepth t)
  generalize t.places options.mocha [] = places at haccounts
  cases haccounts with
  | ok _ _ hclasses hclassErrors hstubs hstubErrors =>
      rwa [hclasses, hclassErrors, hstubs, hstubErrors] at hgrows

/-- A conversion that fails counts a failure for each class around the place that fails, and for
the rule that refuses the place, if one does. Of the classes before that place the others are
done, and so are all stubs. -/
theorem growsBy_of_process_error {options : Options} {t : Tree} {e : Error}
    (h : process options t = .error e) (l : Ledger) :
    ∃ before failing rest done,
      t.places options.mocha [] = before ++ failing :: rest ∧
      (∀ p ∈ before, p.error? options = none) ∧ failing.error? options = some e ∧
      done + failing.classesAround = classCount before ∧
      l.GrowsBy (l.recordAll (applications options options.maxDepth t)) done
        (failing.classesAround + failing.appliesHere options TestClass.claims)
        (stubCount options.mocha before)
        (failing.appliesHere options (Tree.stubCall options.mocha)) := by
  have haccounts := accounts_process options t
  rw [h] at haccounts
  have hgrows := l.growsBy_recordAll (applications options options.maxDepth t)
  generalize t.places options.mocha [] = places at haccounts
  cases haccounts with
  | error hbefore hfailing hclasses hclassErrors hstubs hstubErrors =>
      rw [Nat.add_zero] at hclassErrors
      rw [hclassErrors, hstubs, hstubErrors] at hgrows
      exact ⟨_, _, _, _, rfl, hbefore, hfailing, hclasses, hgrows⟩

/-- Whatever is done with an engine, its statistics are consistent. With the rules of the
conversion, a run that succeeds counts every class and every stub that it comes to, and one that
fails counts what it has done, the classes around the first place that fails by itself, and that
place if a rule was applied to it. -/
theorem statistics_count_applications :
    (∀ operations, (Engine.performAll {} operations).Consistent) ∧
      ∀ (e : Engine) (options : Options) (t : Tree), e.rules = Engine.spec.rules →
        (∀ u, (e.transformTree options t).1 = .ok u →
          e.ledger.GrowsBy (e.transformTree options t).2.ledger
            (classCount (t.places options.mocha [])) 0
            (stubCount options.mocha (t.places options.mocha [])) 0) ∧
        ∀ error, (e.transformTree options t).1 = .error error →
          ∃ before failing rest done,
            t.places options.mocha [] = before ++ failing :: rest ∧
            (∀ p ∈ before, p.error? options = none) ∧ failing.error? options = some error ∧
            done + failing.classesAround = classCount before ∧
            e.ledger.GrowsBy (e.transformTree options t).2.ledger done
              (failing.classesAround + failing.appliesHere options TestClass.claims)
              (stubCount options.mocha before)
              (failing.appliesHere options (Tree.stubCall options.mocha)) := by
  refine ⟨Engine.consistent_empty.performAll, ?_⟩
  intro e options t hrules
  rw [Engine.transformTree_eq hrules]
  refine ⟨?_, ?_⟩
  · intro u hu
    exact growsBy_of_process_ok hu e.ledger
  · intro error herror
    exact growsBy_of_process_error herror e.ledger

/-- A test with a class and a stub that can be converted, and a stub that names no message. -/
def brokenStubTest : Tree :=
  .classDecl (.sym "FooHelperTest") (some (.colon2 (.const "ActiveSupport") "TestCase"))
    [.classDecl (.sym "Bar") none [], .call (some (.const "Foo")) "stubs" [.symbol "x"],
      .call (some (.const "Foo")) "expects" [], .classDecl (.sym "Baz") none []]

theorem statistics_count_applications_brokenStubTest :
    (Engine.spec.transformTree { mocha := true } brokenStubTest).1 =
        .error (.unknownStubShape (.noMessage "expects")) ∧
      (∃ before failing rest,
        brokenStubTest.places true [] = before ++ failing :: rest ∧
        failing.error? { mocha := true } =
          some (.unknownStubShape (.noMessage "expects")) ∧
        1 + failing.classesAround = classCount before ∧ stubCount true before = 1) ∧
      Engine.spec.ledger.GrowsBy
        (Engine.spec.transformTree { mocha := true } brokenStubTest).2.ledger 1 1 1 1 := by
  have herror : (Engine.spec.transformTree { mocha := true } brokenStubTest).1 =
      .error (.unknownStubShape (.noMessage "expects")) := rfl
  obtain ⟨before, failing, rest, done, hplaces, _, hfailing, hdone, hgrows⟩ :=
    (statistics_count_applications.2 Engine.spec { mocha := true } brokenStubTest rfl).2 _ herror
  have hstats : Engine.spec.ledger.GrowsBy
      (Engine.spec.transformTree { mocha := true } brokenStubTest).2.ledger 1 1 1 1 := ⟨rfl, rfl⟩
  have hclasses : done = 1 := by
    have := congrArg RuleStats.transformations (hgrows.classes.symm.trans hstats.classes)
    exact Nat.add_left_cancel this
  have hstubs : stubCount true before = 1 := by
    have := congrArg RuleStats.transformations (hgrows.stubs.symm.trans hstats.stubs)
    exact Nat.add_left_cancel this
  exact ⟨herror, ⟨before, failing, rest, hplaces, hfailing, hclasses ▸ hdone, hstubs⟩, hstats⟩

end Minispec
