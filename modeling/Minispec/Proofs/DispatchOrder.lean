import Minispec.Proofs.DepthBound
import Minispec.Proofs.RuleLog

/-!
The places that a conversion comes to, in its order: a node before what is below it, and siblings
from left to right. A conversion fails at the first place that fails by itself, with the error of
that place, and its log can be read off the places before it. Which trees the conversion gives is
not said here.
-/

namespace Minispec

/-! ### Places -/

/-- A node that a conversion comes to, and the nodes around it, the nearest first. -/
structure Place where
  node : Tree
  above : List Tree

namespace Tree

/-- The statement that a class rule puts before the body: the test of a helper module includes
the module. -/
def included : Tree → List Tree
  | .classDecl name parent body =>
    match (ClassDeclaration.mk name parent body).name with
    | .ok n =>
      if (ClassDeclaration.mk name parent body).isTestCase then
        (TestClass.helperModule? n).toList.map fun described =>
          .call none "include" [.const described]
      else []
    | .error _ => []
  | _ => []

/-- The trees that are converted one level below a node; none for a stub. -/
def dispatchedBelow (mocha : Bool) (t : Tree) : List Tree :=
  if t.stubCall mocha then [] else t.included ++ t.visited

theorem included_of_mem {s t : Tree} (h : s ∈ t.included) :
    (∃ described, s = .call none "include" [.const described]) ∧ t.includedLevels = 2 := by
  cases t with
  | classDecl name parent body =>
      rw [included] at h
      split at h
      · next n hn =>
          split_ifs at h with htest
          · obtain ⟨described, hdescribed, rfl⟩ := List.mem_map.1 h
            have hhelper : TestClass.IncludesHelper ⟨name, parent, body⟩ :=
              ⟨htest, n, hn, Option.isSome_of_mem (Option.mem_toList.1 hdescribed)⟩
            exact ⟨⟨described, rfl⟩, if_pos hhelper⟩
          · cases h
      · cases h
  | _ => cases h

theorem reach_lt_of_mem_dispatchedBelow {mocha : Bool} {s t : Tree}
    (h : s ∈ t.dispatchedBelow mocha) : s.reach false < t.reach false := by
  have hstub : t.stubCall false = false := rfl
  have hpos : 0 < t.reach false := t.reach_pos
  obtain ⟨levels, hlevels⟩ := Nat.exists_eq_add_of_lt hpos
  have hreach : t.reach false ≤ levels + 1 := by omega
  have henough := (reach_le_succ_other_iff hstub).1 hreach
  rw [dispatchedBelow] at h
  split_ifs at h with hmocha
  · cases h
  · cases List.mem_append.1 h with
    | inl hincluded =>
        obtain ⟨⟨described, rfl⟩, htwo⟩ := included_of_mem hincluded
        rw [reach_include]
        omega
    | inr hvisited =>
        have := henough.2 s hvisited
        omega

/-- The places of a tree that a conversion comes to, in its order, if it is not ended before. -/
def places (mocha : Bool) (above : List Tree) (t : Tree) : List Place :=
  ⟨t, above⟩ ::
    (t.dispatchedBelow mocha).attach.flatMap fun ⟨s, _⟩ => s.places mocha (t :: above)
-- The statement that is put before a body is no part of the tree, so that its size does not do.
termination_by t.reach false
decreasing_by exact reach_lt_of_mem_dispatchedBelow ‹_›

theorem places_eq (mocha : Bool) (above : List Tree) (t : Tree) :
    t.places mocha above =
      ⟨t, above⟩ :: (t.dispatchedBelow mocha).flatMap fun s => s.places mocha (t :: above) := by
  rw [places, List.flatMap_subtype fun _ _ => rfl, List.unattach_attach]

theorem places_of_dispatchedBelow_nil {mocha : Bool} {t : Tree} (h : t.dispatchedBelow mocha = [])
    (above : List Tree) : t.places mocha above = [⟨t, above⟩] := by
  rw [places_eq, h, List.flatMap_nil]

theorem dispatchedBelow_other {mocha : Bool} {t : Tree} (hclass : TestClass.claims t = false)
    (hstub : t.stubCall mocha = false) : t.dispatchedBelow mocha = t.visited := by
  rw [dispatchedBelow, hstub]
  cases t with
  | classDecl _ _ _ => cases hclass
  | _ => rfl

end Tree

/-- The statements of an outline are those that are converted below the class. -/
theorem TestClass.statements_of_prepare {options : Options} {name : Tree} {parent : Option Tree}
    {body : List Tree} {p : Heading × List Tree}
    (h : prepare options (.classDecl name parent body) = .ok p) :
    p.2 = (Tree.classDecl name parent body).dispatchedBelow options.mocha := by
  obtain ⟨_, _, n, hn, rfl⟩ := prepare_ok_iff.1 h
  rw [Tree.dispatchedBelow, Tree.stubCall_classDecl, Tree.included, hn]
  cases htest : (ClassDeclaration.mk name parent body).isTestCase with
  | false => simp [outline_plain htest, Tree.visited]
  | true =>
      cases hhelper : isHelper (describedName n) <;>
        simp [outline_testCase htest, helperModule_eq, hhelper, Tree.visited]

/-! ### Places that fail by themselves -/

def errorOf? {α : Type} : Except Error α → Option Error
  | .ok _ => none
  | .error e => some e

namespace Place

def depth (p : Place) : Nat :=
  p.above.length

/-- How many classes there are around the place. -/
def classesAround (p : Place) : Nat :=
  p.above.countP TestClass.claims

/-- The error with which the place fails whatever is below it: it is too deep, or it is a class
with a parent or a name that is refused, or a stub that is refused. -/
def error? (options : Options) (p : Place) : Option Error :=
  if options.maxDepth ≤ p.depth then some (.nestingTooDeep options.maxDepth)
  else if TestClass.claims p.node then errorOf? (TestClass.prepare options p.node)
  else if p.node.stubCall options.mocha then errorOf? (MochaStub.convert p.node)
  else none

variable {options : Options} {p : Place}

theorem error_of_tooDeep (h : options.maxDepth ≤ p.depth) :
    p.error? options = some (.nestingTooDeep options.maxDepth) :=
  if_pos h

theorem error_of_class (h : p.depth < options.maxDepth) (hclass : TestClass.claims p.node = true) :
    p.error? options = errorOf? (TestClass.prepare options p.node) := by
  simp only [error?, Nat.not_le.2 h, hclass, if_false, if_true]

theorem error_of_stub (h : p.depth < options.maxDepth)
    (hstub : p.node.stubCall options.mocha = true) :
    p.error? options = errorOf? (MochaStub.convert p.node) := by
  simp only [error?, Nat.not_le.2 h, Tree.claims_of_stubCall hstub, hstub, Bool.false_eq_true,
    if_false, if_true]

theorem error_of_other (h : p.depth < options.maxDepth) (hclass : TestClass.claims p.node = false)
    (hstub : p.node.stubCall options.mocha = false) : p.error? options = none := by
  simp only [error?, Nat.not_le.2 h, hclass, hstub, Bool.false_eq_true, if_false]

end Place

/-! ### Accounts of a run -/

/-- How often the log says that a rule was applied, and ended as given. -/
def counted (rule : String) (succeeded : Bool) (log : List Application) : Nat :=
  log.countP fun a => a.rule == rule && a.outcome.isOk == succeeded

def classCount (places : List Place) : Nat :=
  places.countP fun p => TestClass.claims p.node

def stubCount (mocha : Bool) (places : List Place) : Nat :=
  places.countP fun p => p.node.stubCall mocha

theorem counted_append (rule : String) (succeeded : Bool) (log more : List Application) :
    counted rule succeeded (log ++ more) =
      counted rule succeeded log + counted rule succeeded more :=
  List.countP_append

theorem classCount_append (places more : List Place) :
    classCount (places ++ more) = classCount places + classCount more :=
  List.countP_append

theorem stubCount_append (mocha : Bool) (places more : List Place) :
    stubCount mocha (places ++ more) = stubCount mocha places + stubCount mocha more :=
  List.countP_append

theorem classCount_cons (p : Place) (places : List Place) :
    classCount (p :: places) = classCount places + if TestClass.claims p.node then 1 else 0 :=
  List.countP_cons

theorem stubCount_cons (mocha : Bool) (p : Place) (places : List Place) :
    stubCount mocha (p :: places) =
      stubCount mocha places + if p.node.stubCall mocha then 1 else 0 :=
  List.countP_cons

/-- One if the place is within the bound and the rule claims it, so that the rule is applied. -/
def Place.appliesHere (options : Options) (claims : Tree → Bool) (p : Place) : Nat :=
  if p.depth < options.maxDepth ∧ claims p.node = true then 1 else 0

/-- The log and the result of a run over places with the given number of classes around them. A
run that fails has come to all places up to the first that fails by itself; the classes around
that place have failed with it, and all other classes before it are done. -/
inductive Accounts {α : Type} (options : Options) (around : Nat) :
    List Place → List Application → Except Error α → Prop
  | ok {places : List Place} {log : List Application} (a : α)
      (hplaces : ∀ p ∈ places, p.error? options = none)
      (hclasses : counted TestClass.rule.name true log = classCount places)
      (hclassErrors : counted TestClass.rule.name false log = 0)
      (hstubs : counted MochaStub.rule.name true log = stubCount options.mocha places)
      (hstubErrors : counted MochaStub.rule.name false log = 0) :
      Accounts options around places log (.ok a)
  | error {before after : List Place} {failing : Place} {log : List Application} {e : Error}
      (hbefore : ∀ p ∈ before, p.error? options = none)
      (hfailing : failing.error? options = some e)
      (hclasses : counted TestClass.rule.name true log + failing.classesAround =
        classCount before + around)
      (hclassErrors : counted TestClass.rule.name false log + around =
        failing.classesAround + failing.appliesHere options TestClass.claims)
      (hstubs : counted MochaStub.rule.name true log = stubCount options.mocha before)
      (hstubErrors : counted MochaStub.rule.name false log =
        failing.appliesHere options (Tree.stubCall options.mocha)) :
      Accounts options around (before ++ failing :: after) log (.error e)

namespace Accounts
variable {α β : Type} {options : Options} {around : Nat} {places more : List Place}
  {log rest : List Application}

theorem nil (a : α) : Accounts options around [] [] (.ok a) :=
  .ok a nofun rfl rfl rfl rfl

theorem append {a : α} {result : Except Error β} (h : Accounts options around places log (.ok a))
    (hmore : Accounts options around more rest result) :
    Accounts options around (places ++ more) (log ++ rest) result := by
  cases h with
  | ok _ hplaces hclasses hclassErrors hstubs hstubErrors =>
      cases hmore with
      | ok b hplaces' hclasses' hclassErrors' hstubs' hstubErrors' =>
          refine .ok b (List.forall_mem_append.2 ⟨hplaces, hplaces'⟩) ?_ ?_ ?_ ?_
          · rw [counted_append, classCount_append, hclasses, hclasses']
          · rw [counted_append, hclassErrors, hclassErrors']
          · rw [counted_append, stubCount_append, hstubs, hstubs']
          · rw [counted_append, hstubErrors, hstubErrors']
      | error hbefore hfailing hclasses' hclassErrors' hstubs' hstubErrors' =>
          -- The first part is done, and counts with what comes before the failing place.
          rw [← List.append_assoc]
          refine .error (List.forall_mem_append.2 ⟨hplaces, hbefore⟩) hfailing ?_ ?_ ?_ ?_
          · rw [counted_append, classCount_append]
            omega
          · rw [counted_append, hclassErrors]
            omega
          · rw [counted_append, stubCount_append, hstubs, hstubs']
          · rw [counted_append, hstubErrors, hstubErrors', Nat.zero_add]

/-- What would come after a failure plays no part. -/
theorem cut {e : Error} (h : Accounts options around places log (.error e : Except Error α))
    (more : List Place) :
    Accounts options around (places ++ more) log (.error e : Except Error β) := by
  cases h with
  | error hbefore hfailing hclasses hclassErrors hstubs hstubErrors =>
      rw [List.append_assoc, List.cons_append]
      exact .error hbefore hfailing hclasses hclassErrors hstubs hstubErrors

theorem map {result : Except Error α} (h : Accounts options around places log result)
    (g : α → β) : Accounts options around places log (result >>= fun a => pure (g a)) := by
  cases h with
  | ok a hplaces hclasses hclassErrors hstubs hstubErrors =>
      exact .ok (g a) hplaces hclasses hclassErrors hstubs hstubErrors
  | error hbefore hfailing hclasses hclassErrors hstubs hstubErrors =>
      exact .error hbefore hfailing hclasses hclassErrors hstubs hstubErrors

theorem mapM {convert : Tree → Except Error Tree} {logOf : Tree → List Application}
    {placesOf : Tree → List Place}
    (h : ∀ t, Accounts options around (placesOf t) (logOf t) (convert t)) (ts : List Tree) :
    Accounts options around (ts.flatMap placesOf) (logAll convert logOf ts)
      (ts.mapM convert) := by
  induction ts with
  | nil => exact nil []
  | cons t ts ih =>
      have ht := h t
      rw [List.flatMap_cons, List.mapM_cons]
      cases hconvert : convert t with
      | error e =>
          rw [hconvert] at ht
          rw [logAll_cons_error hconvert]
          exact ht.cut _
      | ok u =>
          rw [hconvert] at ht
          rw [logAll_cons_ok hconvert]
          exact ht.append (ih.map fun us => u :: us)

/-- A node that no rule claims leaves the accounts of what is below it as they are. -/
theorem under {result : Except Error α} {p : Place} (hp : p.error? options = none)
    (hclass : TestClass.claims p.node = false) (hstub : p.node.stubCall options.mocha = false)
    (h : Accounts options around places log result) :
    Accounts options around (p :: places) log result := by
  have hroot : Accounts options around [p] [] (.ok ()) := by
    refine .ok () (List.forall_mem_singleton.2 hp) ?_ rfl ?_ rfl
    · rw [classCount_cons, hclass]
      rfl
    · rw [stubCount_cons, hstub]
      rfl
  exact hroot.append h

/-- A class fails with what is below it, and is done if all of that is done. -/
theorem inClass {result : Except Error α} {p : Place} (hp : p.error? options = none)
    (hclass : TestClass.claims p.node = true)
    (h : Accounts options (around + 1) places log result) :
    Accounts options around (p :: places)
      (log ++ [⟨TestClass.rule.name, result.map fun _ => ()⟩]) result := by
  have hstub : p.node.stubCall options.mocha = false := Tree.stubCall_of_claims hclass
  have hone (ps : List Place) : classCount (p :: ps) = classCount ps + 1 := by
    rw [classCount_cons, hclass, if_pos rfl]
  have hsame (ps : List Place) :
      stubCount options.mocha (p :: ps) = stubCount options.mocha ps := by
    rw [stubCount_cons, hstub]
    rfl
  cases h with
  | ok a hplaces hclasses hclassErrors hstubs hstubErrors =>
      refine .ok a (List.forall_mem_cons.2 ⟨hp, hplaces⟩) ?_ ?_ ?_ ?_
      · rw [counted_append, hone, hclasses]
        rfl
      · rw [counted_append]
        exact hclassErrors
      · rw [counted_append, hsame]
        exact hstubs
      · rw [counted_append]
        exact hstubErrors
  | error hbefore hfailing hclasses hclassErrors hstubs hstubErrors =>
      rw [← List.cons_append]
      refine .error (List.forall_mem_cons.2 ⟨hp, hbefore⟩) hfailing ?_ ?_ ?_ ?_
      · rw [counted_append, hone]
        change counted TestClass.rule.name true log + _ = _
        omega
      · rw [counted_append]
        change counted TestClass.rule.name false log + 1 + around = _
        omega
      · rw [counted_append, hsame]
        exact hstubs
      · rw [counted_append]
        exact hstubErrors

/-- A run fails at its first place. -/
theorem fails {p : Place} {e : Error} (hp : p.error? options = some e)
    (hclasses : counted TestClass.rule.name true log = 0)
    (hclassErrors : counted TestClass.rule.name false log =
      p.appliesHere options TestClass.claims)
    (hstubs : counted MochaStub.rule.name true log = 0)
    (hstubErrors : counted MochaStub.rule.name false log =
      p.appliesHere options (Tree.stubCall options.mocha)) (places : List Place) :
    Accounts options p.classesAround (p :: places) log (.error e : Except Error α) := by
  rw [← List.nil_append (p :: places)]
  refine .error nofun hp ?_ ?_ hstubs hstubErrors
  · rw [hclasses]
    rfl
  · rw [hclassErrors, Nat.add_comm]

end Accounts

/-! ### Accounts of a conversion -/

section Conversion
variable {options : Options} {levels : Nat} {above : List Tree} {t : Tree}

theorem accounts_stub (hdepth : above.length < options.maxDepth)
    (hstub : t.stubCall options.mocha = true) :
    Accounts options (above.countP TestClass.claims) (t.places options.mocha above)
      (applications options (levels + 1) t) (converted options (levels + 1) t) := by
  have herror := Place.error_of_stub (p := ⟨t, above⟩) hdepth hstub
  rw [converted_stub hstub, applications_stub hstub,
    Tree.places_of_dispatchedBelow_nil (if_pos hstub)]
  cases hconvert : MochaStub.convert t with
  | ok u =>
      rw [hconvert] at herror
      refine .ok u (List.forall_mem_singleton.2 herror) ?_ rfl ?_ rfl
      · rw [classCount_cons, Tree.claims_of_stubCall hstub]
        rfl
      · rw [stubCount_cons, hstub]
        rfl
  | error e =>
      rw [hconvert] at herror
      refine Accounts.fails (p := ⟨t, above⟩) herror rfl ?_ rfl ?_ []
      · exact (if_neg fun h => absurd (h.2.symm.trans (Tree.claims_of_stubCall hstub)) nofun).symm
      · exact (if_pos ⟨hdepth, hstub⟩).symm

theorem accounts_class {name : Tree} {parent : Option Tree} {body : List Tree}
    (hdepth : above.length < options.maxDepth)
    (below : ∀ s, Accounts options
      ((Tree.classDecl name parent body :: above).countP TestClass.claims)
      (s.places options.mocha (.classDecl name parent body :: above))
      (applications options levels s) (converted options levels s)) :
    Accounts options (above.countP TestClass.claims)
      ((Tree.classDecl name parent body).places options.mocha above)
      (applications options (levels + 1) (.classDecl name parent body))
      (converted options (levels + 1) (.classDecl name parent body)) := by
  have herror := Place.error_of_class (p := ⟨.classDecl name parent body, above⟩) hdepth rfl
  rw [Tree.places_eq]
  cases hprepare : TestClass.prepare options (.classDecl name parent body) with
  | error e =>
      rw [hprepare] at herror
      rw [applications_class_refused hprepare, converted_class_refused hprepare]
      refine Accounts.fails herror rfl ?_ rfl ?_ _
      · exact (if_pos ⟨hdepth, rfl⟩).symm
      · refine (if_neg fun h => ?_).symm
        cases h.2.symm.trans (Tree.stubCall_classDecl options.mocha name parent body)
  | ok p =>
      rw [hprepare] at herror
      rw [List.countP_cons_of_pos rfl] at below
      rw [applications_class_outlined hprepare, converted_class_outlined hprepare,
        ← TestClass.statements_of_prepare hprepare]
      exact Accounts.inClass herror rfl ((Accounts.mapM below p.2).map p.1.close)

/-- The log and the result of a conversion, read off the places that it comes to. -/
theorem accounts_converted (h : above.length + levels = options.maxDepth) :
    Accounts options (above.countP TestClass.claims) (t.places options.mocha above)
      (applications options levels t) (converted options levels t) := by
  -- One level down there is one level less to go and one node more above.
  induction levels generalizing above t with
  | zero =>
      have hdeep : options.maxDepth ≤ above.length := by omega
      have hlow : ∀ claims, Place.appliesHere options claims ⟨t, above⟩ = 0 := fun claims =>
        if_neg fun happlies => Nat.not_le_of_lt happlies.1 hdeep
      have herror := Place.error_of_tooDeep (p := ⟨t, above⟩) hdeep
      rw [Tree.places_eq, applications, converted]
      refine Accounts.fails herror rfl ?_ rfl ?_ _
      · exact (hlow TestClass.claims).symm
      · exact (hlow (Tree.stubCall options.mocha)).symm
  | succ levels ih =>
      have hdepth : above.length < options.maxDepth := by omega
      have hbelow : (t :: above).length + levels = options.maxDepth := by
        rw [List.length_cons]
        omega
      cases t.dispatch options.mocha with
      | stub hstub _ _ => exact accounts_stub hdepth hstub
      | classDecl name parent body => exact accounts_class hdepth fun s => ih hbelow
      | other hclass hstub =>
          have below (s : Tree) := ih (t := s) hbelow
          rw [List.countP_cons_of_neg (Bool.not_eq_true _ ▸ hclass)] at below
          rw [applications_other hclass hstub, converted_other hclass hstub,
            Tree.mapChildren_eq, Tree.places_eq, Tree.dispatchedBelow_other hclass hstub]
          exact ((Accounts.mapM below t.visited).map t.withVisited).under
            (Place.error_of_other hdepth hclass hstub) hclass hstub

theorem accounts_process (options : Options) (t : Tree) :
    Accounts options 0 (t.places options.mocha []) (applications options options.maxDepth t)
      (process options t) := by
  have hroot : ([] : List Tree).length + options.maxDepth = options.maxDepth := Nat.zero_add _
  rw [process_eq_converted]
  exact accounts_converted hroot

/-- A conversion fails exactly if a place fails by itself, and then with the error of the first
such place. -/
theorem errorOf_process (options : Options) (t : Tree) :
    errorOf? (process options t) =
      (t.places options.mocha []).findSome? (Place.error? options) := by
  have haccounts := accounts_process options t
  generalize process options t = result at haccounts
  generalize t.places options.mocha [] = places at haccounts
  cases haccounts with
  | ok u hplaces _ _ _ _ => exact (List.findSome?_eq_none_iff.2 hplaces).symm
  | error hbefore hfailing _ _ _ _ =>
      exact (List.findSome?_eq_some_iff.2 ⟨_, _, _, rfl, hfailing, hbefore⟩).symm

end Conversion
end Minispec
