import Minispec.Proofs.NestedDispatch
import Minispec.Proofs.RailsMetadata

/-!
What becomes of the statements of a class, whoever converts them. The rule for classes hands its
statements to a handle, one level further down; the handle may fail, and may answer differently
each time. Each statement is handed over once and in order, and the class is put together from the
answers; the first failure ends the work. The engine is one such handle, but nothing here depends
on what it does.
-/

namespace Minispec

/-! ### Handles -/

/-- How a rule gets trees converted: at a given place, with a state of the handle's own. -/
def Handle (σ : Type) : Type :=
  Context → Tree → StateM σ (Except Error Tree)

/-- Carries out what a rule plans for a node, handing trees on one level further down. -/
def Rule.carryOut {σ : Type} (rule : Rule) (handle : Handle σ) (context : Context) (t : Tree) :
    StateM σ (Except Error Tree) :=
  (rule.plan context t).run (handle context.descend)

/-- The handle of an engine converts with all of its rules. -/
def Engine.handle (rules : List Rule) : Handle Ledger :=
  fun context => convertTree rules context.levels context

/-- A node that is claimed within the depth bound is converted by carrying out the plan of the
rule, with the engine as handle. -/
theorem convertTree_of_claimed {rules : List Rule} {rule : Rule} {context : Context} {t : Tree}
    (hdeep : context.atMaxDepth = false) (hfind : rules.find? (·.claims context t) = some rule) :
    convertTree rules context.levels context t = do
      let result ← rule.carryOut (Engine.handle rules) context t
      modify (·.record rule.name result)
      return result := by
  have hlevel : context.levels = context.levels - 1 + 1 := by
    have hlt := Context.depth_lt_of_not_deep hdeep
    rw [Context.levels]
    omega
  rw [hlevel, convertTree, hfind, Rule.carryOut, Engine.handle, (Context.levels_descend hlevel).2]

/-- A tree that was handed over, with the place and the answer. -/
structure Request where
  context : Context
  tree : Tree
  answer : Except Error Tree

/-- The handle that also notes every request. -/
def Handle.recorded {σ : Type} (handle : Handle σ) : Handle (σ × List Request) :=
  fun context t (state, requests) =>
    let (answer, state) := handle context t state
    (answer, state, requests ++ [⟨context, t, answer⟩])

variable {σ : Type}

theorem run_descend_eq (convert : Tree → StateM σ (Except Error Tree)) (t : Tree)
    (next : Except Error Tree → Plan) (state : σ) :
    (Plan.descend t next).run convert state =
      (next (convert t state).1).run convert (convert t state).2 := rfl

/-- Taking notes changes neither the result nor the state. -/
theorem run_recorded (handle : Handle σ) (below : Context) (plan : Plan) (state : σ)
    (requests : List Request) :
    ∃ later, plan.run (handle.recorded below) (state, requests) =
      ((plan.run (handle below) state).1, (plan.run (handle below) state).2, later) := by
  induction plan generalizing state requests with
  | finish result => exact ⟨requests, rfl⟩
  | descend t next ih => exact ih _ _ _

/-! ### Trees handed over in order -/

/-- The requests for some trees in order, up to the first failure, and all answers together. -/
inductive AskedFor (below : Context) :
    List Tree → List Request → Except Error (List Tree) → Prop
  | nil : AskedFor below [] [] (.ok [])
  | more (t u : Tree) {ts : List Tree} {requests : List Request}
      {result : Except Error (List Tree)} (h : AskedFor below ts requests result) :
      AskedFor below (t :: ts) (⟨below, t, .ok u⟩ :: requests) (result.map (u :: ·))
  | stop (t : Tree) (e : Error) (ts : List Tree) :
      AskedFor below (t :: ts) [⟨below, t, .error e⟩] (.error e)

theorem askedFor_descendAll (handle : Handle σ) (below : Context) (ts : List Tree)
    (close : List Tree → Tree) (state : σ) (before : List Request) :
    ∃ requests result later, AskedFor below ts requests result ∧
      (Plan.descendAll ts fun us => .finish (.ok (close us))).run (handle.recorded below)
        (state, before) = (result.map close, later, before ++ requests) := by
  induction ts generalizing close state before with
  | nil =>
      refine ⟨[], .ok [], state, .nil, ?_⟩
      rw [List.append_nil]
      rfl
  | cons t ts ih =>
      rcases hanswer : handle below t state with ⟨answer, next⟩
      have hnoted : handle.recorded below t (state, before) =
          (answer, next, before ++ [⟨below, t, answer⟩]) := by
        simp only [Handle.recorded, hanswer]
      rw [Plan.descendAll, run_descend_eq, hnoted]
      cases answer with
      | error e => exact ⟨_, _, next, .stop t e ts, rfl⟩
      | ok u =>
          obtain ⟨requests, result, later, hasked, hrun⟩ :=
            ih (fun us => close (u :: us)) next (before ++ [⟨below, t, .ok u⟩])
          refine ⟨_, _, later, .more t u hasked, hrun.trans ?_⟩
          rw [List.append_assoc]
          cases result <;> rfl

namespace AskedFor
variable {below : Context} {ts us : List Tree} {requests : List Request}
  {result : Except Error (List Tree)} {e : Error}

theorem context_eq (h : AskedFor below ts requests result) :
    ∀ request ∈ requests, request.context = below := by
  induction h with
  | nil => exact List.forall_mem_nil _
  | more _ _ _ ih => exact List.forall_mem_cons.2 ⟨rfl, ih⟩
  | stop t e ts => exact List.forall_mem_singleton.2 rfl

theorem trees_prefix (h : AskedFor below ts requests result) :
    requests.map (·.tree) <+: ts := by
  induction h with
  | nil => exact List.prefix_rfl
  | more _ _ _ ih => exact List.cons_prefix_cons.2 ⟨rfl, ih⟩
  | stop t e ts => exact List.cons_prefix_cons.2 ⟨rfl, List.nil_prefix⟩

theorem of_ok (h : AskedFor below ts requests result) (hresult : result = .ok us) :
    requests.map (·.tree) = ts ∧ requests.map (·.answer) = us.map .ok := by
  induction h generalizing us with
  | nil =>
      cases hresult
      exact ⟨rfl, rfl⟩
  | @more t u ts requests result _ ih =>
      obtain ⟨us', hus', rfl⟩ := map_ok_iff.1 hresult
      obtain ⟨htrees, hanswers⟩ := ih hus'
      rw [List.map_cons, List.map_cons, List.map_cons, htrees, hanswers]
      exact ⟨rfl, rfl⟩
  | stop t e ts => cases hresult

theorem of_error (h : AskedFor below ts requests result) (hresult : result = .error e) :
    ∃ request ∈ requests, request.answer = .error e := by
  induction h with
  | nil => cases hresult
  | @more t u ts requests result _ ih =>
      cases result with
      | ok us => cases hresult
      | error e' =>
          cases hresult
          obtain ⟨request, hrequest, hanswer⟩ := ih rfl
          exact ⟨request, List.mem_cons_of_mem _ hrequest, hanswer⟩
  | stop t e ts =>
      cases hresult
      exact ⟨_, List.mem_cons_self, rfl⟩

/-- A failure is the last request, the first failure, and the failure of the whole. -/
theorem of_failure (h : AskedFor below ts requests result) {request : Request}
    (hrequest : request ∈ requests) (hanswer : request.answer = .error e) :
    result = .error e ∧ ∃ earlier, requests = earlier ++ [request] ∧
      ∀ other ∈ earlier, ∃ u, other.answer = .ok u := by
  induction h with
  | nil => cases hrequest
  | @more t u ts requests result _ ih =>
      cases List.mem_cons.1 hrequest with
      | inl hfirst =>
          rw [hfirst] at hanswer
          cases hanswer
      | inr hlater =>
          obtain ⟨hresult, earlier, hearlier, hok⟩ := ih hlater
          rw [hresult, hearlier]
          refine ⟨rfl, ⟨below, t, .ok u⟩ :: earlier, rfl, ?_⟩
          exact List.forall_mem_cons.2 ⟨⟨u, rfl⟩, hok⟩
  | stop t e' ts =>
      cases List.mem_singleton.1 hrequest
      cases hanswer
      exact ⟨rfl, [], rfl, List.forall_mem_nil _⟩

end AskedFor

/-! ### Classes -/

def ClassDeclaration.tree (c : ClassDeclaration) : Tree :=
  .classDecl c.nameTree c.parent c.statements

namespace TestClass

/-- The class with the given name around a body: a describe block without parameters for a test
case, and otherwise a class of that name with the same parent. -/
inductive Rebuilt (options : Options) (c : ClassDeclaration) (n : String) (body : Option Tree) :
    Tree → Prop
  | describe {base : TestBase} {described : String}
      (hbase : ∃ p ∈ c.parent, p.Spells base.lineage) (habout : About n described) :
      Rebuilt options c n body
        (.iter
          (.call (some (.const "RSpec")) "describe"
            ((if base = .actionController ∨ described = "Graphql::PublishedFormCacheable" then
                .const described
              else .str described) ::
              if options.rails then
                base.tag?.toList.map fun tag => .hash [.lit (.symbol "type"), .lit (.symbol tag)]
              else []))
          (.int 0) body)
  | plain (htest : ∀ base : TestBase, ∀ p ∈ c.parent, ¬ p.Spells base.lineage) :
      Rebuilt options c n body (.classDecl (.sym n) c.parent body.toList)

theorem rebuilt_close (options : Options) (c : ClassDeclaration) (n : String)
    (results : List Tree) :
    Rebuilt options c n (joinBody results) ((outline options c n).1.close results) := by
  cases htest : c.isTestCase with
  | true =>
      obtain ⟨base, hbase⟩ := ClassDeclaration.isTestCase_iff_spells.1 htest
      rw [outline_testCase htest, metadataTag_eq (ClassDeclaration.inherits_iff.2 hbase),
        describeCall_eq]
      exact .describe hbase (about_describedName n)
  | false =>
      rw [outline_plain htest]
      refine .plain fun base p hp hspells => ?_
      have htrue := ClassDeclaration.isTestCase_iff_spells.2 ⟨base, p, hp, hspells⟩
      cases htest.symm.trans htrue

/-- What was handed over for a class, and what came of it. -/
structure KeepsStatements (context : Context) (c : ClassDeclaration) (requests : List Request)
    (result : Except Error Tree) : Prop where
  /-- All trees are handed over one level further down. -/
  context_eq : ∀ request ∈ requests,
    request.context = { context with depth := context.depth + 1 }
  /-- They are the included module and the statements, in this order, perhaps not all. -/
  in_order : requests.map (·.tree) <+: c.tree.included ++ c.statements
  /-- If the class is converted, they are all, and their results make up the body. -/
  of_ok : ∀ u, result = .ok u → ∃ names results body,
    c.nameTree.Spells names ∧ c.name = .ok (String.intercalate "::" names) ∧
    requests.map (·.tree) = c.tree.included ++ c.statements ∧
    requests.map (·.answer) = results.map .ok ∧ Attached results body ∧
    Rebuilt context.options c (String.intercalate "::" names) body u
  /-- The first failure is the failure of the whole, and nothing is handed over after it. -/
  of_failure : ∀ request ∈ requests, ∀ e, request.answer = .error e → result = .error e ∧
    ∃ earlier, requests = earlier ++ [request] ∧ ∀ other ∈ earlier, ∃ u, other.answer = .ok u
  /-- There is no other failure, unless the class is refused before anything is handed over. -/
  of_error : ∀ e, result = .error e →
    requests = [] ∧ prepare context.options c.tree = .error e ∧
        ¬ (AcceptedParent c.parent ∧ AcceptedName context.options.strictNames c.nameTree) ∨
      ∃ request ∈ requests, request.answer = .error e

variable {context : Context} {c : ClassDeclaration}

theorem keepsStatements_refused {e : Error} (h : prepare context.options c.tree = .error e) :
    KeepsStatements context c [] (.error e) where
  context_eq := List.forall_mem_nil _
  in_order := List.nil_prefix
  of_ok := nofun
  of_failure := List.forall_mem_nil _
  of_error e' he' := by
    cases he'
    refine .inl ⟨rfl, h, fun haccepted => ?_⟩
    obtain ⟨n, hn⟩ := ((ClassDeclaration.acceptedName_iff _ c).1 haccepted.2).2
    have houtlined := prepare_ok_iff.2 ⟨haccepted.1, haccepted.2, n, hn, rfl⟩
    cases h.symm.trans houtlined

theorem keepsStatements_outlined {p : Heading × List Tree} {requests : List Request}
    {result : Except Error (List Tree)} (h : prepare context.options c.tree = .ok p)
    (hasked : AskedFor context.descend p.2 requests result) :
    KeepsStatements context c requests (result.map p.1.close) := by
  have hstatements : p.2 = c.tree.included ++ c.statements := by
    rw [statements_of_prepare h, Tree.dispatchedBelow, Tree.stubCall_classDecl]
    rfl
  obtain ⟨_, _, n, hn, hp⟩ := prepare_ok_iff.1 h
  refine ⟨hasked.context_eq, hstatements ▸ hasked.trees_prefix, ?_, ?_, ?_⟩
  · intro u hu
    obtain ⟨results, hresults, rfl⟩ := map_ok_iff.1 hu
    obtain ⟨htrees, hanswers⟩ := hasked.of_ok hresults
    obtain ⟨names, hspells, rfl⟩ := ClassDeclaration.spells_of_name hn
    refine ⟨names, results, _, hspells, hn, htrees.trans hstatements, hanswers,
      attached_joinBody results, ?_⟩
    rw [hp]
    exact rebuilt_close _ _ _ results
  · intro request hrequest e hanswer
    obtain ⟨hresult, hearlier⟩ := hasked.of_failure hrequest hanswer
    refine ⟨?_, hearlier⟩
    rw [hresult]
    rfl
  · intro e he
    cases result with
    | ok results => cases he
    | error e' =>
        cases he
        exact .inr (hasked.of_error rfl)

theorem keepsStatements_recorded (handle : Handle σ) (context : Context) (c : ClassDeclaration)
    (state : σ) :
    ∃ requests result later,
      rule.carryOut handle.recorded context c.tree (state, []) = (result, later, requests) ∧
      KeepsStatements context c requests result := by
  have hcarry : rule.carryOut handle.recorded context c.tree =
      (plan context c.tree).run (handle.recorded context.descend) := rfl
  rw [hcarry, plan]
  cases hprepare : prepare context.options c.tree with
  | error e => exact ⟨[], .error e, state, rfl, keepsStatements_refused hprepare⟩
  | ok p =>
      obtain ⟨requests, result, later, hasked, hrun⟩ :=
        askedFor_descendAll handle context.descend p.2 p.1.close state []
      exact ⟨requests, _, later, hrun, keepsStatements_outlined hprepare hasked⟩

/-- Whatever the handle does, the rule for classes hands over the included module and then the
statements of the class, and keeps what comes back. -/
theorem carryOut_keeps_statements (handle : Handle σ) (context : Context) (c : ClassDeclaration)
    (state : σ) :
    ∃ result later requests,
      rule.carryOut handle context c.tree state = (result, later) ∧
      rule.carryOut handle.recorded context c.tree (state, []) = (result, later, requests) ∧
      KeepsStatements context c requests result := by
  obtain ⟨requests, result, later, hrun, hkeeps⟩ :=
    keepsStatements_recorded handle context c state
  obtain ⟨noted, hsame⟩ := run_recorded handle context.descend (plan context c.tree) state []
  refine ⟨result, later, requests, ?_, hrun, hkeeps⟩
  have hboth := hsame.symm.trans hrun
  rw [Prod.mk.injEq, Prod.mk.injEq] at hboth
  exact Prod.ext hboth.1 hboth.2.1

/-- The handle that answers a number of requests with the tree itself, and then refuses. -/
def patient : Handle Nat
  | _, _, 0 => (.error .invalidOptions, 0)
  | _, t, n + 1 => (.ok t, n)

def threeStatementTest : ClassDeclaration where
  nameTree := .sym "FooHelperTest"
  parent := some (.colon2 (.const "ActiveSupport") "TestCase")
  statements := [.nil, .selfRef, .int 1]

def threeStatementSpecs : Tree :=
  .iter (.call (some (.const "RSpec")) "describe" [.str "FooHelper"]) (.int 0)
    (some (.block [.call none "include" [.const "FooHelper"], .nil, .selfRef, .int 1]))

/-- What is asked for and answered one level below the top. -/
def answered (t : Tree) : Request :=
  ⟨{ options := {}, depth := 1 }, t, .ok t⟩

def allRequests : List Request :=
  [.call none "include" [.const "FooHelper"], .nil, .selfRef, .int 1].map answered

def refusedRequests : List Request :=
  [.call none "include" [.const "FooHelper"], .nil].map answered ++
    [⟨{ options := {}, depth := 1 }, .selfRef, .error .invalidOptions⟩]

/-- With four answers the class is converted. With two the third tree handed over is refused, and
the last statement is not tried. -/
theorem carryOut_keeps_statements_patient :
    (rule.carryOut patient.recorded { options := {} } threeStatementTest.tree (4, []) =
        (.ok threeStatementSpecs, 0, allRequests) ∧
      KeepsStatements { options := {} } threeStatementTest allRequests
        (.ok threeStatementSpecs)) ∧
    rule.carryOut patient.recorded { options := {} } threeStatementTest.tree (2, []) =
        (.error .invalidOptions, 0, refusedRequests) ∧
      KeepsStatements { options := {} } threeStatementTest refusedRequests
        (.error .invalidOptions) := by
  constructor
  · have hall : rule.carryOut patient.recorded { options := {} } threeStatementTest.tree (4, []) =
        (.ok threeStatementSpecs, 0, allRequests) := rfl
    obtain ⟨_, _, _, -, hrun, hkeeps⟩ :=
      carryOut_keeps_statements patient { options := {} } threeStatementTest 4
    cases hall.symm.trans hrun
    exact ⟨hall, hkeeps⟩
  · have hrefused : rule.carryOut patient.recorded { options := {} } threeStatementTest.tree
        (2, []) = (.error .invalidOptions, 0, refusedRequests) := rfl
    obtain ⟨_, _, _, -, hrun, hkeeps⟩ :=
      carryOut_keeps_statements patient { options := {} } threeStatementTest 2
    cases hrefused.symm.trans hrun
    exact ⟨hrefused, hkeeps⟩

end TestClass
end Minispec
