import Mathlib.Data.List.Infix
import Minispec.Proofs.DirectConversion

/-!
When a class declaration can be outlined, and what the outline holds. The conditions are on the
parent and on the name alone; the statements of the class play no part. What a test class is about
and how a body is put together is also said in words of their own, by the endings of names and the
number of results.
-/

namespace Minispec

/-! ### Names along a constant -/

/-- The tree is a constant qualified by constants only. -/
def Tree.Flattens : Tree → Prop
  | .sym _ | .const _ | .colon3 _ => True
  | .colon2 scope _ => scope.Flattens
  | _ => False

theorem exists_ancestorNames_iff (t : Tree) :
    (∃ names, ancestorNames t = .ok names) ↔ t.Flattens := by
  fun_induction ancestorNames t with
  | case1 name | case2 name | case3 name => exact ⟨fun _ => trivial, fun _ => ⟨_, rfl⟩⟩
  | case4 scope name ih =>
      rw [Tree.Flattens, ← ih]
      exact exists_bind_pure_ok_iff
  | case5 other hsym hconst hcolon3 hcolon2 =>
      constructor
      · exact nofun
      · intro h
        cases other with
        | sym name => exact absurd rfl (hsym name)
        | const name => exact absurd rfl (hconst name)
        | colon3 name => exact absurd rfl (hcolon3 name)
        | colon2 scope name => exact absurd rfl (hcolon2 scope name)
        | _ => exact h.elim

theorem ancestorNames_error {t : Tree} {e : Error} (h : ancestorNames t = .error e) :
    ∃ expected found, e = .structuralMismatch expected found := by
  fun_induction ancestorNames t with
  | case1 _ | case2 _ | case3 _ => cases h
  | case4 scope name ih =>
      exact ih (bind_pure_error h)
  | case5 other _ _ _ _ =>
      cases h
      exact ⟨_, _, rfl⟩

/-! ### Parents and names -/

/-- A parent that is qualified by a scope is qualified by constants only. -/
def AcceptedParent : Option Tree → Prop
  | some (.colon2 scope _) => scope.Flattens
  | _ => True

/-- A bare name; without strict names also one qualified by constants or by the top level. -/
def AcceptedName (strict : Bool) : Tree → Prop
  | .sym _ => True
  | .colon3 _ => strict = false
  | .colon2 scope _ => strict = false ∧ scope.Flattens
  | _ => False

namespace ClassDeclaration

theorem exists_parentNames_iff (parent : Option Tree) :
    (∃ names, parentNames parent = .ok names) ↔ AcceptedParent parent := by
  unfold parentNames
  split
  · next scope name =>
      have hflattens : AcceptedParent (some (.colon2 scope name)) ↔
          (Tree.colon2 scope name).Flattens := Iff.rfl
      rw [hflattens, ← exists_ancestorNames_iff]
      exact exists_bind_pure_ok_iff
  · next hqualified =>
      refine ⟨fun _ => ?_, fun _ => ⟨none, rfl⟩⟩
      unfold AcceptedParent
      split
      · next scope name => exact absurd rfl (hqualified scope name)
      · trivial

theorem parentNames_error {parent : Option Tree} {e : Error}
    (h : parentNames parent = .error e) :
    ∃ expected found, e = .structuralMismatch expected found := by
  unfold parentNames at h
  split at h
  · exact ancestorNames_error (bind_pure_error h)
  · cases h

theorem exists_name_iff (c : ClassDeclaration) :
    (∃ n, c.name = .ok n) ↔ AcceptedName false c.nameTree := by
  obtain ⟨nameTree, parent, statements⟩ := c
  cases nameTree with
  | sym n => exact ⟨fun _ => trivial, fun _ => ⟨n, rfl⟩⟩
  | colon3 n => exact ⟨fun _ => rfl, fun _ => ⟨n, rfl⟩⟩
  | colon2 scope n =>
      have hflattens : AcceptedName false (.colon2 scope n) ↔ (Tree.colon2 scope n).Flattens :=
        ⟨And.right, fun h => ⟨rfl, h⟩⟩
      rw [hflattens, ← exists_ancestorNames_iff]
      exact exists_bind_pure_ok_iff
  | _ => exact ⟨nofun, nofun⟩

theorem name_error {c : ClassDeclaration} {e : Error} (h : c.name = .error e) :
    (∃ expected found, e = .structuralMismatch expected found) ∨
      ∃ t, e = .unsupportedNameForm t := by
  unfold name at h
  split at h
  · cases h
  · exact .inl (ancestorNames_error (bind_pure_error h))
  · cases h
  · cases h
    exact .inr ⟨_, rfl⟩

/-- Strict names leave only bare ones. -/
theorem acceptedName_iff (strict : Bool) (c : ClassDeclaration) :
    AcceptedName strict c.nameTree ↔
      (strict = true → c.requirePlainName = .ok ()) ∧ ∃ n, c.name = .ok n := by
  rw [exists_name_iff]
  obtain ⟨nameTree, parent, statements⟩ := c
  cases strict with
  | false => exact ⟨fun h => ⟨nofun, h⟩, fun h => h.2⟩
  | true => cases nameTree <;> simp [AcceptedName, requirePlainName]

/-- Only a parent in a scope makes a class a test case. -/
theorem exists_scope_of_isTestCase {c : ClassDeclaration}
    (h : c.isTestCase = true) : ∃ scope name, c.parent = some (.colon2 scope name) := by
  obtain ⟨base, _, hinherits⟩ := List.find?_isSome.1 h
  have hchain : c.ancestorChain? = some base.lineage := eq_of_beq hinherits
  obtain ⟨nameTree, parent, statements⟩ := c
  cases parent with
  | none => cases hchain
  | some p =>
      cases p with
      | colon2 scope name => exact ⟨scope, name, rfl⟩
      | _ => cases hchain

end ClassDeclaration

/-! ### What a test class is about -/

namespace TestClass

/-- The name of a test class, and the name of what it is about: `Test` at the end does not
count. -/
inductive About : String → String → Prop
  | test (described : String) : About (described ++ "Test") described
  | other {name : String} (h : ¬ "Test".toList <:+ name.toList) : About name name

/-- The helper module that a test class of the given name is about. -/
def helperModule? (name : String) : Option String :=
  if "HelperTest".toList <:+ name.toList then
    some (String.ofList (name.toList.take (name.toList.length - 4)))
  else if "Helper".toList <:+ name.toList then some name
  else none

theorem take_test (described : String) :
    String.ofList ((described ++ "Test").toList.take ((described ++ "Test").toList.length - 4)) =
      described := by
  simp

theorem describedName_test (described : String) :
    describedName (described ++ "Test") = described := by
  have hends : "Test".toList.isSuffixOf (described ++ "Test").toList = true := by
    rw [List.isSuffixOf_iff_suffix, String.toList_append]
    exact List.suffix_append _ _
  rw [describedName, if_pos hends]
  exact take_test described

theorem describedName_other {name : String} (h : ¬ "Test".toList <:+ name.toList) :
    describedName name = name := by
  rw [describedName, if_neg]
  rwa [List.isSuffixOf_iff_suffix]

theorem about_describedName (name : String) : About name (describedName name) := by
  by_cases h : "Test".toList <:+ name.toList
  · obtain ⟨front, hfront⟩ := h
    have hname : name = String.ofList front ++ "Test" := by
      apply String.ext
      rw [String.toList_append, String.toList_ofList (l := front), hfront]
    rw [hname, describedName_test]
    exact .test _
  · rw [describedName_other h]
    exact .other h

theorem isHelper_iff {described : String} :
    isHelper described = true ↔ "Helper".toList <:+ described.toList :=
  List.isSuffixOf_iff_suffix

theorem helperModule_eq (name : String) :
    helperModule? name =
      if isHelper (describedName name) then some (describedName name) else none := by
  have hending : "HelperTest".toList = "Helper".toList ++ "Test".toList := rfl
  have habout := about_describedName name
  generalize describedName name = described at habout
  simp only [isHelper_iff]
  cases habout with
  | test =>
      -- A name that ends in `Test` does not end in `Helper`.
      have hnot : ¬ "Helper".toList <:+ described.toList ++ "Test".toList := by
        intro h
        have hboth := List.suffix_or_suffix_of_suffix h (List.suffix_append _ _)
        revert hboth
        decide
      rw [helperModule?, take_test, String.toList_append, if_neg hnot]
      simp only [hending, List.suffix_append_self_iff]
  | other h =>
      have hlong : ¬ "HelperTest".toList <:+ name.toList := by
        intro hsuffix
        exact h ((List.suffix_append _ _).trans (hending ▸ hsuffix))
      rw [helperModule?, if_neg hlong]

/-- How results make up a body: none leave it out, one stands for itself, several are a block. -/
inductive Attached : List Tree → Option Tree → Prop
  | absent : Attached [] none
  | single (r : Tree) : Attached [r] (some r)
  | block {results : List Tree} (h : 2 ≤ results.length) :
      Attached results (some (.block results))

theorem attached_joinBody (results : List Tree) : Attached results (joinBody results) := by
  cases results with
  | nil => exact .absent
  | cons r rs =>
      cases rs with
      | nil => exact .single r
      | cons r' rs =>
          apply Attached.block
          simp

end TestClass

/-! ### Outlines -/

namespace TestClass
variable {options : Options} {name : Tree} {parent : Option Tree} {body : List Tree}

/-- A class is outlined under its flattened name, if its parent and its name are accepted. -/
theorem prepare_ok_iff {p : Heading × List Tree} :
    prepare options (.classDecl name parent body) = .ok p ↔
      AcceptedParent parent ∧ AcceptedName options.strictNames name ∧
        ∃ n, (ClassDeclaration.mk name parent body).name = .ok n ∧
          p = outline options ⟨name, parent, body⟩ n := by
  have hparent := ClassDeclaration.exists_parentNames_iff parent
  have hname := ClassDeclaration.acceptedName_iff options.strictNames ⟨name, parent, body⟩
  rw [← hparent, hname]
  simp only [prepare, ClassDeclaration.ofTree, bind_ok_iff]
  constructor
  · intro h
    obtain ⟨_, ⟨names, hnames, ⟨⟩⟩, h⟩ := h
    split at h
    · obtain ⟨_, hplain, h⟩ := bind_ok_iff.1 h
      obtain ⟨n, hn, ⟨⟩⟩ := bind_ok_iff.1 h
      exact ⟨⟨names, hnames⟩, ⟨fun _ => hplain, n, hn⟩, n, hn, rfl⟩
    · next hstrict =>
        obtain ⟨n, hn, ⟨⟩⟩ := bind_ok_iff.1 h
        exact ⟨⟨names, hnames⟩, ⟨fun h => absurd h hstrict, n, hn⟩, n, hn, rfl⟩
  · intro h
    obtain ⟨⟨names, hnames⟩, ⟨hplain, _⟩, n, hn, rfl⟩ := h
    refine ⟨_, ⟨names, hnames, rfl⟩, ?_⟩
    split
    · next hstrict => exact bind_ok_iff.2 ⟨(), hplain hstrict, bind_ok_iff.2 ⟨n, hn, rfl⟩⟩
    · exact bind_ok_iff.2 ⟨n, hn, rfl⟩

theorem prepare_error {e : Error}
    (h : prepare options (.classDecl name parent body) = .error e) :
    (∃ expected found, e = .structuralMismatch expected found) ∨
      ∃ t, e = .unsupportedNameForm t := by
  cases bind_error h with
  | inl hview => exact .inl (ClassDeclaration.parentNames_error (bind_pure_error hview))
  | inr hnamed =>
      obtain ⟨c, _, hnamed⟩ := hnamed
      split at hnamed
      · cases bind_error hnamed with
        | inl hplain =>
            unfold ClassDeclaration.requirePlainName at hplain
            split at hplain
            · cases hplain
            · cases hplain
              exact .inr ⟨_, rfl⟩
        | inr hname =>
            obtain ⟨_, _, hname⟩ := hname
            exact ClassDeclaration.name_error (bind_pure_error hname)
      · exact ClassDeclaration.name_error (bind_pure_error hnamed)

theorem outline_testCase {c : ClassDeclaration} (h : c.isTestCase = true) (n : String) :
    outline options c n =
      (.describe (describeCall options (describedName n) (metadataTag c.inherits)),
        (if isHelper (describedName n) then [.call none "include" [.const (describedName n)]]
          else []) ++ c.statements) := by
  simp only [outline, h, if_true]

theorem outline_plain {c : ClassDeclaration} (h : c.isTestCase = false) (n : String) :
    outline options c n = (.plain n c.parent, c.statements) := by
  simp only [outline, h, Bool.false_eq_true, if_false]

/-- The describe block for the class includes the module that it is about. -/
def IncludesHelper (c : ClassDeclaration) : Prop :=
  c.isTestCase = true ∧ ∃ n, c.name = .ok n ∧ (helperModule? n).isSome = true

theorem includesHelper_iff {c : ClassDeclaration} {n : String} (hn : c.name = .ok n) :
    IncludesHelper c ↔ c.isTestCase = true ∧ isHelper (describedName n) = true := by
  simp only [IncludesHelper, hn, Except.ok.injEq, exists_eq_left', helperModule_eq]
  cases isHelper (describedName n) <;> simp

instance decidableIncludesHelper (c : ClassDeclaration) : Decidable (IncludesHelper c) :=
  match hn : c.name with
  | .ok _ => decidable_of_iff _ (includesHelper_iff hn).symm
  | .error _ => .isFalse fun h => by
      obtain ⟨_, _, hname, _⟩ := h
      cases hn.symm.trans hname

theorem mem_outline_iff {c : ClassDeclaration} {n : String} (hn : c.name = .ok n) {s : Tree} :
    s ∈ (outline options c n).2 ↔
      IncludesHelper c ∧ s = .call none "include" [.const (describedName n)] ∨
        s ∈ c.statements := by
  rw [includesHelper_iff hn]
  cases htest : c.isTestCase with
  | false => simp [outline_plain htest]
  | true => cases hdescribed : isHelper (describedName n) <;> simp [outline_testCase htest, hdescribed]

/-- A converted class is its outline around the converted statements of the outline. -/
theorem outline_of_converted {levels : Nat} {u : Tree}
    (h : converted options (levels + 1) (.classDecl name parent body) = .ok u) :
    ∃ n results, AcceptedParent parent ∧ (ClassDeclaration.mk name parent body).name = .ok n ∧
      List.Forall₂ (fun s r => converted options levels s = .ok r)
        (outline options ⟨name, parent, body⟩ n).2 results ∧
      u = (outline options ⟨name, parent, body⟩ n).1.close results := by
  obtain ⟨heading, statements, results, hprepare, hresults, rfl⟩ := converted_class_ok_iff.1 h
  obtain ⟨hparent, _, n, hn, hp⟩ := prepare_ok_iff.1 hprepare
  refine ⟨n, results, hparent, hn, ?_⟩
  rw [← hp]
  exact ⟨hresults, rfl⟩

/-- A class is refused for its parent or its name, or for one of its statements, or for the
statement that includes a helper. -/
theorem error_of_converted {levels : Nat} {e : Error}
    (h : converted options (levels + 1) (.classDecl name parent body) = .error e) :
    prepare options (.classDecl name parent body) = .error e ∨
      (IncludesHelper ⟨name, parent, body⟩ ∧
        ∃ described, converted options levels (.call none "include" [.const described]) =
          .error e) ∨
      ∃ s ∈ body, converted options levels s = .error e := by
  cases converted_class_error h with
  | inl hprepare => exact .inl hprepare
  | inr hbelow =>
      obtain ⟨_, hprepare, s, hs, herror⟩ := hbelow
      obtain ⟨_, _, n, hn, rfl⟩ := prepare_ok_iff.1 hprepare
      cases (mem_outline_iff hn).1 hs with
      | inl hinclude =>
          rw [hinclude.2] at herror
          exact .inr (.inl ⟨hinclude.1, _, herror⟩)
      | inr hs => exact .inr (.inr ⟨s, hs, herror⟩)

end TestClass
end Minispec
