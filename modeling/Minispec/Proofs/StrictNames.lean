import Minispec.Proofs.DispatchOrder

/-!
Strict names. They are checked before anything below a class is converted, so that the first class
in the order of the conversion whose name is not bare decides. Where no name is refused the
result is the same as without strict names.
-/

namespace Minispec

/-- The name of a class, if it is not bare. -/
def Tree.shorthand? : Tree → Option Tree
  | .classDecl (.sym _) _ _ => none
  | .classDecl name _ _ => some name
  | _ => none

/-! ### One class -/

namespace TestClass
variable {options : Options} {name : Tree} {parent : Option Tree} {body : List Tree}

theorem acceptedName_of_strict (h : AcceptedName true name) : AcceptedName false name := by
  cases name with
  | sym _ => trivial
  | colon3 _ => rfl
  | colon2 scope _ => exact ⟨rfl, h.2⟩
  | _ => exact h

theorem prepare_of_strict {p : Heading × List Tree}
    (h : prepare { options with strictNames := true } (.classDecl name parent body) = .ok p) :
    prepare { options with strictNames := false } (.classDecl name parent body) = .ok p := by
  obtain ⟨hparent, hname, n, hn, rfl⟩ := prepare_ok_iff.1 h
  exact prepare_ok_iff.2 ⟨hparent, acceptedName_of_strict hname, n, hn, rfl⟩

theorem prepare_strict_bare (options : Options) (n : String) :
    prepare { options with strictNames := true } (.classDecl (.sym n) parent body) =
      prepare { options with strictNames := false } (.classDecl (.sym n) parent body) := by
  rw [prepare, prepare, ClassDeclaration.ofTree]
  cases ClassDeclaration.parentNames parent <;> rfl

/-- The check of the name comes after that of the parent. -/
theorem prepare_strict_shorthand {p : Heading × List Tree} {shorthand : Tree}
    (hlax : prepare { options with strictNames := false } (.classDecl name parent body) = .ok p)
    (h : (Tree.classDecl name parent body).shorthand? = some shorthand) :
    prepare { options with strictNames := true } (.classDecl name parent body) =
      .error (.unsupportedNameForm shorthand) := by
  obtain ⟨hparent, _⟩ := prepare_ok_iff.1 hlax
  obtain ⟨names, hnames⟩ := (ClassDeclaration.exists_parentNames_iff parent).2 hparent
  rw [prepare, ClassDeclaration.ofTree, hnames]
  cases name with
  | sym n => cases h
  | _ =>
      cases h
      rfl

end TestClass

/-! ### One place -/

namespace Place
variable {options : Options} {p : Place}

theorem error_strict_bare (h : p.node.shorthand? = none) :
    p.error? { options with strictNames := true } =
      p.error? { options with strictNames := false } := by
  obtain ⟨node, above⟩ := p
  cases node with
  | classDecl name parent body =>
      cases name with
      | sym n =>
          simp only [error?, TestClass.prepare_strict_bare]
      | _ => cases h
  | _ => rfl

theorem depth_lt_of_no_error (h : p.error? options = none) : p.depth < options.maxDepth := by
  by_contra hdeep
  rw [error_of_tooDeep (Nat.le_of_not_lt hdeep)] at h
  cases h

theorem error_strict_of_lax (h : p.error? { options with strictNames := false } = none) :
    p.error? { options with strictNames := true } =
      p.node.shorthand?.map .unsupportedNameForm := by
  cases hshorthand : p.node.shorthand? with
  | none => exact (error_strict_bare hshorthand).trans h
  | some shorthand =>
      have hdepth := depth_lt_of_no_error h
      obtain ⟨node, above⟩ := p
      cases node with
      | classDecl name parent body =>
          have hstrict : (Place.mk (.classDecl name parent body) above).error?
              { options with strictNames := true } = errorOf? (TestClass.prepare
                { options with strictNames := true } (.classDecl name parent body)) :=
            error_of_class hdepth rfl
          rw [error_of_class hdepth rfl] at h
          cases hlax : TestClass.prepare { options with strictNames := false }
              (.classDecl name parent body) with
          | error e =>
              rw [hlax] at h
              cases h
          -- The parent is fine, so that the strict check of the name is come to.
          | ok outlined =>
              rw [hstrict, TestClass.prepare_strict_shorthand hlax hshorthand]
              rfl
      | _ => cases hshorthand

end Place

/-! ### A whole conversion -/

/-- Options under which classes are outlined in the same way give the same tree. -/
theorem converted_of_prepare {options other : Options} {levels : Nat} {t u : Tree}
    (h : converted options levels t = .ok u) (hmocha : other.mocha = options.mocha)
    (hprepare : ∀ name parent body p,
      TestClass.prepare options (.classDecl name parent body) = .ok p →
        TestClass.prepare other (.classDecl name parent body) = .ok p) :
    converted other levels t = .ok u := by
  induction levels generalizing t u with
  | zero => cases h
  | succ levels ih =>
      cases t.dispatch options.mocha with
      | stub hstub _ _ =>
          rw [converted_stub hstub] at h
          rw [converted_stub (hmocha ▸ hstub), h]
      | classDecl name parent body =>
          obtain ⟨heading, statements, results, houtline, hresults, rfl⟩ :=
            converted_class_ok_iff.1 h
          exact converted_class_ok_iff.2 ⟨heading, statements, results,
            hprepare name parent body _ houtline, hresults.imp fun _ _ => ih, rfl⟩
      | other hclass hstub =>
          rw [converted_other hclass hstub, Tree.mapChildren_eq, bind_ok_iff] at h
          rw [converted_other hclass (hmocha ▸ hstub), Tree.mapChildren_eq, bind_ok_iff]
          obtain ⟨us, hus, hu⟩ := h
          exact ⟨us, mapM_ok_iff.2 ((mapM_ok_iff.1 hus).imp fun _ _ => ih), hu⟩

section Conversion
variable {options : Options} {t u : Tree}

theorem process_of_strict (h : process { options with strictNames := true } t = .ok u) :
    process { options with strictNames := false } t = .ok u := by
  rw [process_eq_converted] at h ⊢
  exact converted_of_prepare h rfl fun _ _ _ _ => TestClass.prepare_of_strict

/-- The conversion comes to the place: none of the places before it fails by itself. -/
def Tree.Reaches (options : Options) (t : Tree) (p : Place) : Prop :=
  ∃ before after, t.places options.mocha [] = before ++ p :: after ∧
    ∀ q ∈ before, q.error? options = none

theorem findSome_congr {α β : Type} {f g : α → Option β} {as : List α}
    (h : ∀ before a after, as = before ++ a :: after → (∀ b ∈ before, f b = none) → f a = g a) :
    as.findSome? f = as.findSome? g := by
  induction as with
  | nil => rfl
  | cons a as ih =>
      have ha : f a = g a := h [] a as rfl nofun
      rw [List.findSome?_cons, List.findSome?_cons, ← ha]
      cases hfa : f a with
      | some b => rfl
      | none =>
          refine ih fun before b after has hbefore => ?_
          refine h (a :: before) b after (congrArg (a :: ·) has) ?_
          exact List.forall_mem_cons.2 ⟨hfa, hbefore⟩

/-- Where the conversion comes to no other class than one with a bare name, strict names make no
difference. -/
theorem process_strict_bare
    (h : ∀ p, t.Reaches { options with strictNames := true } p → p.node.shorthand? = none) :
    process { options with strictNames := true } t =
      process { options with strictNames := false } t := by
  have herror : errorOf? (process { options with strictNames := true } t) =
      errorOf? (process { options with strictNames := false } t) := by
    rw [errorOf_process, errorOf_process]
    refine findSome_congr fun before p after hplaces hbefore => ?_
    exact Place.error_strict_bare (h p ⟨before, after, hplaces, hbefore⟩)
  cases hstrict : process { options with strictNames := true } t with
  | ok u => exact (process_of_strict hstrict).symm
  | error e =>
      cases hlax : process { options with strictNames := false } t with
      | ok u =>
          rw [hstrict, hlax] at herror
          cases herror
      | error e' =>
          rw [hstrict, hlax] at herror
          cases herror
          rfl

/-- The refusal of strict names is for the first class whose name is not bare. -/
theorem error_of_strict {e : Error}
    (hlax : process { options with strictNames := false } t = .ok u)
    (hstrict : process { options with strictNames := true } t = .error e) :
    ∃ name, (t.places options.mocha []).findSome? (·.node.shorthand?) = some name ∧
      e = .unsupportedNameForm name := by
  have hnone := errorOf_process { options with strictNames := false } t
  have hsome := errorOf_process { options with strictNames := true } t
  rw [hlax] at hnone
  rw [hstrict] at hsome
  have hplaces : ∀ p ∈ t.places options.mocha [],
      p.error? { options with strictNames := false } = none :=
    List.findSome?_eq_none_iff.1 hnone.symm
  have hshorthand : some e =
      ((t.places options.mocha []).findSome? (·.node.shorthand?)).map .unsupportedNameForm := by
    rw [List.map_findSome?]
    refine hsome.trans (findSome_congr fun before p after hsplit _ => ?_)
    exact Place.error_strict_of_lax (hplaces p (hsplit ▸ List.mem_append_cons_self))
  obtain ⟨name, hname, herror⟩ := Option.map_eq_some_iff.1 hshorthand.symm
  exact ⟨name, hname, herror.symm⟩

/-- Strict names only refuse. What they let through is converted as it is without them; where
the conversion comes to bare names only, they change nothing; and where they refuse a tree that
could be converted, the error names the first class, in the order of the conversion, whose name is
not bare. -/
theorem process_strict_names (options : Options) (t : Tree) :
    (∀ u, process { options with strictNames := true } t = .ok u →
        process { options with strictNames := false } t = .ok u) ∧
      ((∀ p, t.Reaches { options with strictNames := true } p → p.node.shorthand? = none) →
        process { options with strictNames := true } t =
          process { options with strictNames := false } t) ∧
      ∀ u e, process { options with strictNames := false } t = .ok u →
        process { options with strictNames := true } t = .error e →
        ∃ name, (t.places options.mocha []).findSome? (·.node.shorthand?) = some name ∧
          e = .unsupportedNameForm name ∧
          e.message = "Unsupported class name form: " ++ name.written := by
  refine ⟨fun u => process_of_strict, process_strict_bare, ?_⟩
  intro u e hlax hstrict
  obtain ⟨name, hname, rfl⟩ := error_of_strict hlax hstrict
  exact ⟨name, hname, rfl, rfl⟩

end Conversion

/-- Classes with a name in module shorthand, the first below a class with a bare name. -/
def shorthandClasses : Tree :=
  .block [.classDecl (.sym "Foo") none [.classDecl (.colon3 "Bar") none []],
    .classDecl (.colon2 (.const "Fruit") "Banana") none []]

def refusedParent : Tree :=
  .classDecl (.sym "Foo") (some (.colon2 .nil "Base")) []

/-- The class in module shorthand is never come to. -/
def refusedParentFirst : Tree :=
  .block [refusedParent, .classDecl (.colon3 "Bar") none []]

theorem reaches_refusedParentFirst {p : Place}
    (h : refusedParentFirst.Reaches { strictNames := true } p) :
    p = ⟨refusedParentFirst, []⟩ ∨ p = ⟨refusedParent, [refusedParentFirst]⟩ := by
  obtain ⟨before, after, hplaces, hbefore⟩ := h
  have hall : refusedParentFirst.places false [] =
      [⟨refusedParentFirst, []⟩, ⟨refusedParent, [refusedParentFirst]⟩,
        ⟨.classDecl (.colon3 "Bar") none [], [refusedParentFirst]⟩] := by
    rw [Tree.places_eq]
    change _ :: ([refusedParent, .classDecl (.colon3 "Bar") none []].flatMap _) = _
    rw [List.flatMap_cons, List.flatMap_singleton, Tree.places_of_dispatchedBelow_nil rfl,
      Tree.places_of_dispatchedBelow_nil rfl]
    rfl
  rw [hall] at hplaces
  cases before with
  | nil => exact .inl (List.cons.inj hplaces).1.symm
  | cons first before =>
      replace hplaces := (List.cons.inj hplaces).2
      cases before with
      | nil => exact .inr (List.cons.inj hplaces).1.symm
      | cons second before =>
          -- The second place fails by itself, so that nothing after it is come to.
          have hsecond := hbefore second (.tail _ (.head _))
          rw [← (List.cons.inj hplaces).1] at hsecond
          cases hsecond

theorem process_strict_names_shorthandClasses :
    process { strictNames := false } (.classDecl (.sym "Foo") none []) =
        .ok (.classDecl (.sym "Foo") none []) ∧
      (∃ u, process { strictNames := false } shorthandClasses = .ok u) ∧
      process { strictNames := true } shorthandClasses =
        .error (.unsupportedNameForm (.colon3 "Bar")) ∧
      (shorthandClasses.places false []).findSome? (·.node.shorthand?) = some (.colon3 "Bar") ∧
      process { strictNames := true } refusedParentFirst =
        process { strictNames := false } refusedParentFirst := by
  have hlax : ∃ u, process { strictNames := false } shorthandClasses = .ok u := ⟨_, rfl⟩
  have hstrict : process { strictNames := true } shorthandClasses =
      .error (.unsupportedNameForm (.colon3 "Bar")) := rfl
  obtain ⟨u, hu⟩ := hlax
  obtain ⟨name, hname, herror, _⟩ := (process_strict_names {} shorthandClasses).2.2 u _ hu hstrict
  cases herror
  refine ⟨(process_strict_names {} _).1 _ rfl, ⟨u, hu⟩, hstrict, hname, ?_⟩
  refine (process_strict_names {} refusedParentFirst).2.1 fun p hreaches => ?_
  obtain rfl | rfl := reaches_refusedParentFirst hreaches <;> rfl

end Minispec
