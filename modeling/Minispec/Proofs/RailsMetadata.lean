import Minispec.Proofs.DispatchOrder
import Minispec.Proofs.TestLineages

/-!
The option for Rails. Two conversions that differ in it alone end in the same error, or give trees
that differ in the metadata of describe blocks: each block that stands for a test class of the
input has it in one tree and not in the other, except for integration tests. A describe block of
the input is like any other call. The rules are applied in the same way in both conversions.
-/

namespace Minispec

/-! ### Two results of one kind -/

/-- Both fail with the same error, or both succeed with related values. -/
inductive Alike {α β : Type} (related : α → β → Prop) : Except Error α → Except Error β → Prop
  | ok {a : α} {b : β} (h : related a b) : Alike related (.ok a) (.ok b)
  | error (e : Error) : Alike related (.error e) (.error e)

section Alike
variable {α β γ δ : Type} {related : α → β → Prop} {x : Except Error α} {y : Except Error β}

theorem Alike.map {result : γ → δ → Prop} {f : α → γ} {g : β → δ} (h : Alike related x y)
    (hfg : ∀ a b, related a b → result (f a) (g b)) :
    Alike result (x >>= fun a => pure (f a)) (y >>= fun b => pure (g b)) := by
  cases h with
  | ok hab => exact .ok (hfg _ _ hab)
  | error e => exact .error e

theorem Alike.outcome_eq (h : Alike related x y) :
    (x.map fun _ => ()) = y.map fun _ => () := by
  cases h <;> rfl

/-- Pairs of results, one for each tree. -/
def PairedWith (related : Tree → Tree → Tree → Prop) (ts us vs : List Tree) : Prop :=
  ∃ pairs : List (Tree × Tree), List.Forall₂ (fun t p => related t p.1 p.2) ts pairs ∧
    us = pairs.map Prod.fst ∧ vs = pairs.map Prod.snd

theorem Alike.mapM {related : Tree → Tree → Tree → Prop} {f g : Tree → Except Error Tree}
    (h : ∀ t, Alike (related t) (f t) (g t)) (ts : List Tree) :
    Alike (PairedWith related ts) (ts.mapM f) (ts.mapM g) := by
  induction ts with
  | nil => exact .ok ⟨[], .nil, rfl, rfl⟩
  | cons t ts ih =>
      rw [List.mapM_cons, List.mapM_cons]
      have ht := h t
      generalize f t = x at ht
      generalize g t = y at ht
      cases ht with
      | error e => exact .error e
      | ok huv =>
          refine ih.map fun us vs hrest => ?_
          obtain ⟨pairs, hpairs, rfl, rfl⟩ := hrest
          exact ⟨(_, _) :: pairs, .cons huv hpairs, rfl, rfl⟩

theorem logAll_eq {related : Tree → Tree → Tree → Prop} {f g : Tree → Except Error Tree}
    {log other : Tree → List Application} (h : ∀ t, Alike (related t) (f t) (g t))
    (hlog : ∀ t, log t = other t) (ts : List Tree) : logAll f log ts = logAll g other ts := by
  induction ts with
  | nil => rfl
  | cons t ts ih =>
      have ht := h t
      rw [logAll, logAll, hlog, ih]
      generalize f t = x at ht
      generalize g t = y at ht
      cases ht <;> rfl

end Alike

/-! ### Metadata -/

/-- The `type:` of the tests of a base; integration tests have none. -/
def TestBase.tag? : TestBase → Option String
  | .actionController => some "controller"
  | .actionMailer => some "mailer"
  | .actionView => some "view"
  | .activeJob => some "job"
  | .draper => some "decorator"
  | .activeSupport | .testUnit => some "model"
  | .integration => none

/-- The tag of a class is that of its base. -/
theorem TestClass.metadataTag_eq {c : ClassDeclaration} {base : TestBase}
    (h : c.inherits base = true) : metadataTag c.inherits = base.tag? := by
  have hchain : c.ancestorChain? = some base.lineage := eq_of_beq h
  have hinherits : c.inherits = fun other => decide (other = base) := by
    funext other
    rw [ClassDeclaration.inherits, hchain, TestBase.lineage_beq]
  rw [hinherits]
  cases base <;> rfl

/-- Controllers are described as constants, and so is one other class; all others by name. -/
theorem TestClass.describeCall_eq (options : Options) (described : String) (base : TestBase) :
    describeCall options described base.tag? =
      .call (some (.const "RSpec")) "describe"
        ((if base = .actionController ∨ described = "Graphql::PublishedFormCacheable" then
            .const described
          else .str described) ::
          if options.rails then
            base.tag?.toList.map fun tag => .hash [.lit (.symbol "type"), .lit (.symbol tag)]
          else []) := by
  have htag : base.tag? = some "controller" ↔ base = .actionController := by
    cases base <;> decide
  simp only [describeCall, subject, constantSubjects, htag, List.mem_singleton]
  rfl

/-- The second tree is the first with metadata for the describe blocks that were made from the
test classes in the given input, the metadata as one more argument of the call to `describe`. -/
inductive MetadataAdded (mocha : Bool) : Tree → Tree → Tree → Prop
  | stub {t : Tree} (hstub : t.stubCall mocha = true) (u : Tree) : MetadataAdded mocha t u u
  | describe {name p : Tree} {body : List Tree} {base : TestBase} {pairs : List (Tree × Tree)}
      {off on : Option Tree} (subject : Tree) (hbase : p.Spells base.lineage)
      (hbelow : List.Forall₂ (fun s r => MetadataAdded mocha s r.1 r.2)
        ((Tree.classDecl name (some p) body).dispatchedBelow mocha) pairs)
      (hoff : TestClass.Attached (pairs.map Prod.fst) off)
      (hon : TestClass.Attached (pairs.map Prod.snd) on) :
      MetadataAdded mocha (.classDecl name (some p) body)
        (.iter (.call (some (.const "RSpec")) "describe" [subject]) (.int 0) off)
        (.iter (.call (some (.const "RSpec")) "describe"
            (subject :: base.tag?.toList.map fun tag =>
              .hash [.lit (.symbol "type"), .lit (.symbol tag)])) (.int 0) on)
  | plain {name : Tree} {parent : Option Tree} {body : List Tree} {pairs : List (Tree × Tree)}
      {off on : Option Tree} (n : String)
      (htest : ∀ base : TestBase, ∀ p ∈ parent, ¬ p.Spells base.lineage)
      (hbelow : List.Forall₂ (fun s r => MetadataAdded mocha s r.1 r.2)
        ((Tree.classDecl name parent body).dispatchedBelow mocha) pairs)
      (hoff : TestClass.Attached (pairs.map Prod.fst) off)
      (hon : TestClass.Attached (pairs.map Prod.snd) on) :
      MetadataAdded mocha (.classDecl name parent body)
        (.classDecl (.sym n) parent off.toList) (.classDecl (.sym n) parent on.toList)
  | other {t : Tree} {pairs : List (Tree × Tree)}
      (hclass : ∀ name parent body, t ≠ .classDecl name parent body)
      (hstub : t.stubCall mocha = false)
      (hbelow : List.Forall₂ (fun s r => MetadataAdded mocha s r.1 r.2) t.visited pairs) :
      MetadataAdded mocha t (t.withVisited (pairs.map Prod.fst))
        (t.withVisited (pairs.map Prod.snd))

/-! ### Two conversions -/

/-- The second options are the first with the conventions of Rails. -/
structure Options.RailsAdded (options rails : Options) : Prop where
  off : options.rails = false
  on : rails.rails = true
  mocha : rails.mocha = options.mocha
  strictNames : rails.strictNames = options.strictNames
  maxDepth : rails.maxDepth = options.maxDepth

/-- The checks that come before a class is outlined, and its flattened name. -/
def ClassDeclaration.checkedName (strict : Bool) (c : ClassDeclaration) :
    Except Error String := do
  let _ ← parentNames c.parent
  if strict then c.requirePlainName
  c.name

theorem TestClass.prepare_eq (options : Options) (name : Tree) (parent : Option Tree)
    (body : List Tree) :
    prepare options (.classDecl name parent body) =
      ((ClassDeclaration.mk name parent body).checkedName options.strictNames).map
        (outline options ⟨name, parent, body⟩) := by
  have hmap (x : Except Error String) :
      (x >>= fun n => pure (outline options ⟨name, parent, body⟩ n)) =
        x.map (outline options ⟨name, parent, body⟩) := by
    cases x <;> rfl
  rw [prepare, ClassDeclaration.ofTree, ClassDeclaration.checkedName, ← hmap]
  cases ClassDeclaration.parentNames parent with
  | error e => rfl
  | ok names =>
      cases options.strictNames with
      | false => rfl
      | true =>
          exact (bind_assoc (ClassDeclaration.mk name parent body).requirePlainName
            (fun _ => (ClassDeclaration.mk name parent body).name) _).symm

theorem TestClass.outline_rails {options rails : Options} (h : options.RailsAdded rails)
    {c : ClassDeclaration} {base : TestBase} (hbase : c.inherits base = true) (n : String) :
    ∃ subject statements,
      outline options c n =
        (.describe (.call (some (.const "RSpec")) "describe" [subject]), statements) ∧
      outline rails c n =
        (.describe (.call (some (.const "RSpec")) "describe"
          (subject :: base.tag?.toList.map fun tag =>
            .hash [.lit (.symbol "type"), .lit (.symbol tag)])), statements) := by
  have htest : c.isTestCase = true :=
    Option.isSome_iff_exists.2 ⟨base, ClassDeclaration.testBase_eq_some_iff.2 hbase⟩
  rw [outline_testCase htest, outline_testCase htest, metadataTag_eq hbase, describeCall_eq,
    describeCall_eq, h.off, h.on]
  exact ⟨_, _, rfl, rfl⟩

namespace Options.RailsAdded
variable {options rails : Options} {levels : Nat} {t : Tree}

theorem alike_class (h : options.RailsAdded rails) {name : Tree} {parent : Option Tree}
    {body : List Tree}
    (below : ∀ s, Alike (MetadataAdded options.mocha s) (converted options levels s)
      (converted rails levels s)) :
    Alike (MetadataAdded options.mocha (.classDecl name parent body))
      (converted options (levels + 1) (.classDecl name parent body))
      (converted rails (levels + 1) (.classDecl name parent body)) := by
  have hoff := TestClass.prepare_eq options name parent body
  have hon := TestClass.prepare_eq rails name parent body
  rw [h.strictNames] at hon
  cases hname : (ClassDeclaration.mk name parent body).checkedName options.strictNames with
  | error e =>
      rw [hname] at hoff hon
      rw [converted_class_refused hoff, converted_class_refused hon]
      exact .error e
  | ok n =>
      rw [hname] at hoff hon
      have hstatements := TestClass.statements_of_prepare hoff
      rw [converted_class_outlined hoff, converted_class_outlined hon]
      by_cases htest : ∃ base : TestBase, ∃ p ∈ parent, p.Spells base.lineage
      · obtain ⟨base, p, rfl, hspells⟩ := htest
        have hbase : (ClassDeclaration.mk name (some p) body).inherits base = true :=
          ClassDeclaration.inherits_iff.2 ⟨p, rfl, hspells⟩
        obtain ⟨subject, statements, houtline, hrails⟩ := TestClass.outline_rails h hbase n
        rw [houtline] at hstatements ⊢
        rw [hrails]
        refine (Alike.mapM below statements).map fun us vs hpaired => ?_
        obtain ⟨pairs, hpairs, rfl, rfl⟩ := hpaired
        exact .describe subject hspells (hstatements ▸ hpairs) (TestClass.attached_joinBody _)
          (TestClass.attached_joinBody _)
      · have hplain : (ClassDeclaration.mk name parent body).isTestCase = false := by
          rw [← Bool.not_eq_true, ClassDeclaration.isTestCase_iff_spells]
          exact htest
        rw [TestClass.outline_plain hplain] at hstatements ⊢
        rw [TestClass.outline_plain hplain]
        refine (Alike.mapM below body).map fun us vs hpaired => ?_
        obtain ⟨pairs, hpairs, rfl, rfl⟩ := hpaired
        exact .plain n (fun base p hp hspells => htest ⟨base, p, hp, hspells⟩)
          (hstatements ▸ hpairs) (TestClass.attached_joinBody _) (TestClass.attached_joinBody _)

theorem alike_converted (h : options.RailsAdded rails) (levels : Nat) (t : Tree) :
    Alike (MetadataAdded options.mocha t) (converted options levels t)
      (converted rails levels t) := by
  induction levels generalizing t with
  | zero =>
      rw [converted, converted, h.maxDepth]
      exact .error _
  | succ levels ih =>
      cases t.dispatch options.mocha with
      | stub hstub _ _ =>
          rw [converted_stub hstub, converted_stub (h.mocha ▸ hstub)]
          cases MochaStub.convert t with
          | error e => exact .error e
          | ok u => exact .ok (.stub hstub u)
      | classDecl name parent body => exact h.alike_class ih
      | other hclass hstub =>
          rw [converted_other hclass hstub, converted_other hclass (h.mocha ▸ hstub),
            Tree.mapChildren_eq, Tree.mapChildren_eq]
          refine (Alike.mapM ih t.visited).map fun us vs hpaired => ?_
          obtain ⟨pairs, hpairs, rfl, rfl⟩ := hpaired
          refine .other (fun name parent body ht => ?_) hstub hpairs
          subst ht
          cases hclass

/-- Both conversions apply the same rules, with the same outcome, in the same order. -/
theorem applications_eq (h : options.RailsAdded rails) (levels : Nat) (t : Tree) :
    applications options levels t = applications rails levels t := by
  induction levels generalizing t with
  | zero => rfl
  | succ levels ih =>
      -- Logs stop at the first failure, and both conversions fail at the same tree.
      have hbelow := logAll_eq (h.alike_converted levels) ih
      cases t.dispatch options.mocha with
      | stub hstub _ _ => rw [applications_stub hstub, applications_stub (h.mocha ▸ hstub)]
      | classDecl name parent body =>
          have hoff := TestClass.prepare_eq options name parent body
          have hon := TestClass.prepare_eq rails name parent body
          rw [h.strictNames] at hon
          cases hname : (ClassDeclaration.mk name parent body).checkedName options.strictNames with
          | error e =>
              rw [hname] at hoff hon
              rw [applications_class_refused hoff, applications_class_refused hon]
          | ok n =>
              rw [hname] at hoff hon
              rw [applications_class_outlined hoff, applications_class_outlined hon, hbelow,
                (h.alike_converted (levels + 1) (.classDecl name parent body)).outcome_eq,
                TestClass.statements_of_prepare hoff, TestClass.statements_of_prepare hon, h.mocha]
      | other hclass hstub =>
          rw [applications_other hclass hstub, applications_other hclass (h.mocha ▸ hstub), hbelow]

end Options.RailsAdded

/-- The option for Rails only adds metadata: without it and with it a conversion fails with the
same error, or gives trees that differ in the metadata of the describe blocks that it made from
test classes; and the ledger is the same after both. -/
theorem process_rails_adds_metadata (options : Options) (t : Tree) :
    ((∃ e, process { options with rails := false } t = .error e ∧
          process { options with rails := true } t = .error e) ∨
        ∃ u v, process { options with rails := false } t = .ok u ∧
          process { options with rails := true } t = .ok v ∧
          MetadataAdded options.mocha t u v) ∧
      ∀ ledger,
        ((Engine.mk Engine.spec.rules ledger).transformTree { options with rails := false } t).2 =
          ((Engine.mk Engine.spec.rules ledger).transformTree
            { options with rails := true } t).2 := by
  have hadded : Options.RailsAdded { options with rails := false } { options with rails := true } :=
    ⟨rfl, rfl, rfl, rfl, rfl⟩
  constructor
  · have halike := hadded.alike_converted options.maxDepth t
    rw [process_eq_converted, process_eq_converted]
    generalize converted { options with rails := false } options.maxDepth t = x at halike
    generalize converted { options with rails := true } options.maxDepth t = y at halike
    cases halike with
    | error e => exact .inl ⟨e, rfl, rfl⟩
    | ok h => exact .inr ⟨_, _, rfl, rfl, h⟩
  · intro ledger
    have hrules : (Engine.mk Engine.spec.rules ledger).rules = Engine.spec.rules := rfl
    rw [Engine.transformTree_eq hrules, Engine.transformTree_eq hrules,
      hadded.applications_eq options.maxDepth t]

/-- A class around a test of a controller, an integration test and a describe block. -/
def mixedSuite : Tree :=
  .classDecl (.sym "Suite") none
    [.classDecl (.sym "CartTest") (some (.colon2 (.const "ActionController") "TestCase")) [],
      .classDecl (.sym "LoginTest") (some (.colon2 (.const "ActionDispatch") "IntegrationTest"))
        [.selfRef],
      .iter (.call (some (.const "RSpec")) "describe" [.str "Cart"]) (.int 0) none]

def convertedSuite (arguments : List Tree) : Tree :=
  .classDecl (.sym "Suite") none
    [.block
      [.iter (.call (some (.const "RSpec")) "describe" (.const "Cart" :: arguments)) (.int 0) none,
        .iter (.call (some (.const "RSpec")) "describe" [.str "Login"]) (.int 0) (some .selfRef),
        .iter (.call (some (.const "RSpec")) "describe" [.str "Cart"]) (.int 0) none]]

/-- Of three describe blocks, the one for the controller is given metadata. -/
theorem process_rails_adds_metadata_suite :
    process { rails := false } mixedSuite = .ok (convertedSuite []) ∧
      process { rails := true } mixedSuite =
        .ok (convertedSuite [.hash [.lit (.symbol "type"), .lit (.symbol "controller")]]) ∧
      MetadataAdded false mixedSuite (convertedSuite [])
        (convertedSuite [.hash [.lit (.symbol "type"), .lit (.symbol "controller")]]) := by
  have hoff : process { rails := false } mixedSuite = .ok (convertedSuite []) := rfl
  have hon : process { rails := true } mixedSuite =
      .ok (convertedSuite [.hash [.lit (.symbol "type"), .lit (.symbol "controller")]]) := rfl
  refine ⟨hoff, hon, ?_⟩
  cases (process_rails_adds_metadata {} mixedSuite).1 with
  | inl hfailed =>
      obtain ⟨e, herror, -⟩ := hfailed
      cases hoff.symm.trans herror
  | inr hadded =>
      obtain ⟨u, v, hu, hv, hadded⟩ := hadded
      cases hoff.symm.trans hu
      cases hon.symm.trans hv
      exact hadded

end Minispec
