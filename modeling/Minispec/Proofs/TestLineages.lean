import Mathlib.Data.List.Find
import Minispec.Proofs.ClassOutline

/-!
Which classes are test cases, and of which kind. A parent counts by the names that it is written
with, so every constant is taken apart into them; what stands in the innermost scope is either a
name or the reason why this is impossible. No two test bases have the same names, so that neither
the base nor the metadata of a class depends on the order in which the tables are searched.
-/

namespace Minispec

/-! ### Constants and the names that they are written with -/

namespace Tree

/-- A constant without a scope: a bare name, a constant, or one at the top level. -/
inductive Unscoped : Tree → String → Prop
  | sym (name : String) : Unscoped (.sym name) name
  | const (name : String) : Unscoped (.const name) name
  | colon3 (name : String) : Unscoped (.colon3 name) name

/-- The names one after the other, each in the scope of all that stands before it. -/
def qualified (root : Tree) (names : List String) : Tree :=
  names.foldl .colon2 root

/-- The tree is a constant that is written with these names, from the innermost scope on. -/
def Spells (t : Tree) (names : List String) : Prop :=
  ∃ root first rest, Unscoped root first ∧ t = root.qualified rest ∧ names = first :: rest

/-- What is left of a constant when scopes are followed as far as they go. -/
def innermostScope : Tree → Tree
  | .colon2 scope _ => scope.innermostScope
  | t => t

variable {t scope : Tree} {name : String} {names : List String}

theorem qualified_concat (root : Tree) (names : List String) (name : String) :
    root.qualified (names.concat name) = .colon2 (root.qualified names) name := by
  rw [qualified, List.concat_eq_append, List.foldl_append]
  rfl

theorem spells_colon2_iff :
    (Tree.colon2 scope name).Spells names ↔
      ∃ outer, scope.Spells outer ∧ names = outer ++ [name] := by
  constructor
  · intro h
    obtain ⟨root, first, rest, hroot, ht, rfl⟩ := h
    obtain rfl | ⟨outer, last, rfl⟩ := rest.eq_nil_or_concat
    · subst ht
      cases hroot
    · rw [qualified_concat] at ht
      cases ht
      exact ⟨first :: outer, ⟨root, first, outer, hroot, rfl, rfl⟩, by simp⟩
  · intro h
    obtain ⟨_, ⟨root, first, rest, hroot, rfl, rfl⟩, rfl⟩ := h
    refine ⟨root, first, rest.concat name, hroot, (qualified_concat root rest name).symm, ?_⟩
    simp

theorem spells_iff_of_not_colon2 (h : ∀ scope name, t ≠ .colon2 scope name) :
    t.Spells names ↔ ∃ name, t.Unscoped name ∧ names = [name] := by
  constructor
  · intro hspells
    obtain ⟨root, first, rest, hroot, rfl, rfl⟩ := hspells
    obtain rfl | ⟨outer, last, rfl⟩ := rest.eq_nil_or_concat
    · exact ⟨first, hroot, rfl⟩
    · exact absurd (qualified_concat root outer last) (h _ _)
  · intro hname
    obtain ⟨name, hname, rfl⟩ := hname
    exact ⟨t, name, [], hname, rfl, rfl⟩

theorem Unscoped.spells_iff (h : t.Unscoped name) : t.Spells names ↔ names = [name] := by
  have hscope : ∀ scope last, t ≠ .colon2 scope last := by
    intro scope last ht
    subst ht
    cases h
  rw [spells_iff_of_not_colon2 hscope]
  constructor
  · intro hother
    obtain ⟨other, hother, rfl⟩ := hother
    cases h <;> cases hother <;> rfl
  · exact fun hnames => ⟨name, h, hnames⟩

end Tree

theorem ancestorNames_ok_iff {t : Tree} {names : List String} :
    ancestorNames t = .ok names ↔ t.Spells names := by
  fun_induction ancestorNames t generalizing names with
  | case1 name => rw [(Tree.Unscoped.sym name).spells_iff, Except.ok.injEq, eq_comm]
  | case2 name => rw [(Tree.Unscoped.const name).spells_iff, Except.ok.injEq, eq_comm]
  | case3 name => rw [(Tree.Unscoped.colon3 name).spells_iff, Except.ok.injEq, eq_comm]
  | case4 scope name ih =>
      rw [Tree.spells_colon2_iff, bind_ok_iff]
      refine exists_congr fun outer => and_congr ih ?_
      exact ⟨fun h => (Except.ok.inj h).symm, fun h => h ▸ rfl⟩
  | case5 other hsym hconst hcolon3 hcolon2 =>
      rw [Tree.spells_iff_of_not_colon2 hcolon2]
      constructor
      · intro h
        cases h
      · intro h
        obtain ⟨name, hname, -⟩ := h
        cases hname with
        | sym => exact absurd rfl (hsym name)
        | const => exact absurd rfl (hconst name)
        | colon3 => exact absurd rfl (hcolon3 name)

theorem innermostScope_of_ancestorNames_error {t : Tree} {e : Error}
    (h : ancestorNames t = .error e) : e = .mismatch "const or colon2" t.innermostScope := by
  fun_induction ancestorNames t with
  | case1 _ | case2 _ | case3 _ => cases h
  | case4 scope name ih => exact ih (bind_pure_error h)
  | case5 other _ _ _ hcolon2 =>
      cases h
      cases other with
      | colon2 scope name => exact absurd rfl (hcolon2 scope name)
      | _ => rfl

theorem ancestorNames_error_iff {t : Tree} {e : Error} :
    ancestorNames t = .error e ↔
      (∀ names, ¬ t.Spells names) ∧ e = .mismatch "const or colon2" t.innermostScope := by
  constructor
  · intro h
    refine ⟨fun names hspells => ?_, innermostScope_of_ancestorNames_error h⟩
    cases h.symm.trans (ancestorNames_ok_iff.2 hspells)
  · intro h
    obtain ⟨hnone, rfl⟩ := h
    cases hnames : ancestorNames t with
    | ok names => exact absurd (ancestorNames_ok_iff.1 hnames) (hnone names)
    | error e => rw [innermostScope_of_ancestorNames_error hnames]

/-! ### Searching a table of which one entry at most applies -/

theorem find_eq_some_iff_of_unique {α : Type} {p : α → Bool} {l : List α}
    (h : ∀ a ∈ l, ∀ b ∈ l, p a = true → p b = true → a = b) {a : α} :
    l.find? p = some a ↔ a ∈ l ∧ p a = true := by
  constructor
  · exact fun ha => ⟨List.mem_of_find?_eq_some ha, List.find?_some ha⟩
  · intro ha
    obtain ⟨b, hb⟩ := Option.isSome_iff_exists.1 (List.find?_isSome.2 ⟨a, ha⟩)
    rw [hb, h b (List.mem_of_find?_eq_some hb) a ha.1 (List.find?_some hb) ha.2]

/-! ### Bases -/

theorem TestBase.mem_all (base : TestBase) : base ∈ all := by
  cases base <;> decide

theorem TestBase.lineage_beq (base other : TestBase) :
    (some base.lineage == some other.lineage) = decide (other = base) := by
  cases base <;> cases other <;> rfl

theorem TestBase.lineage_injective {base other : TestBase} (h : base.lineage = other.lineage) :
    base = other := by
  have hbeq := lineage_beq other base
  rw [h, beq_self_eq_true] at hbeq
  exact of_decide_eq_true hbeq.symm

/-- All known lineages go through a scope. -/
theorem TestBase.lineage_ne_singleton (base : TestBase) (name : String) :
    base.lineage ≠ [name] := by
  cases base <;> simp [lineage]

namespace ClassDeclaration
variable {c : ClassDeclaration} {name : Tree} {parent : Option Tree} {body : List Tree}

theorem ofTree_error_iff {e : Error} :
    ofTree (.classDecl name parent body) = .error e ↔
      ∃ scope last, parent = some (.colon2 scope last) ∧ (∀ names, ¬ scope.Spells names) ∧
        e = .mismatch "const or colon2" scope.innermostScope := by
  constructor
  · intro h
    have hparent := bind_pure_error h
    unfold parentNames at hparent
    split at hparent
    · next scope last =>
        have hscope := ancestorNames_error_iff.1 (bind_pure_error (bind_pure_error hparent))
        exact ⟨scope, last, rfl, hscope⟩
    · cases hparent
  · intro h
    obtain ⟨scope, last, rfl, hscope⟩ := h
    rw [ofTree, parentNames, ancestorNames, ancestorNames_error_iff.2 hscope]
    rfl

theorem eq_of_ofTree_ok (h : ofTree (.classDecl name parent body) = .ok c) :
    c = ⟨name, parent, body⟩ := by
  obtain ⟨_, _, ⟨⟩⟩ := bind_ok_iff.1 h
  rfl

theorem ancestorChain_eq_some_iff {names : List String} :
    c.ancestorChain? = some names ↔
      ∃ scope last, c.parent = some (.colon2 scope last) ∧
        (Tree.colon2 scope last).Spells names := by
  unfold ancestorChain? parentNames
  constructor
  · intro h
    split at h
    · next chain hchain =>
        subst h
        split at hchain
        · next scope last hparent =>
            obtain ⟨_, hnames, ⟨⟩⟩ := bind_ok_iff.1 hchain
            exact ⟨scope, last, hparent, ancestorNames_ok_iff.1 hnames⟩
        · cases hchain
    · cases h
  · intro h
    obtain ⟨scope, last, hparent, hspells⟩ := h
    rw [hparent]
    simp only [ancestorNames_ok_iff.2 hspells]
    rfl

/-- The base is the parent, in any of the ways to write its names. -/
theorem inherits_iff {base : TestBase} :
    c.inherits base = true ↔ ∃ p ∈ c.parent, p.Spells base.lineage := by
  rw [inherits, beq_iff_eq, ancestorChain_eq_some_iff]
  constructor
  · intro h
    obtain ⟨scope, last, hparent, hspells⟩ := h
    exact ⟨_, hparent, hspells⟩
  · intro h
    obtain ⟨p, hparent, hspells⟩ := h
    by_cases hscope : ∃ scope last, p = .colon2 scope last
    · obtain ⟨scope, last, rfl⟩ := hscope
      exact ⟨scope, last, hparent, hspells⟩
    · have hplain : ∀ scope last, p ≠ .colon2 scope last :=
        fun scope last hp => hscope ⟨scope, last, hp⟩
      obtain ⟨n, -, hlineage⟩ := (Tree.spells_iff_of_not_colon2 hplain).1 hspells
      exact absurd hlineage (base.lineage_ne_singleton n)

theorem inherits_unique {base other : TestBase} (h : c.inherits base = true)
    (h' : c.inherits other = true) : base = other := by
  rw [inherits, beq_iff_eq] at h h'
  exact TestBase.lineage_injective (Option.some.inj (h.symm.trans h'))

theorem testBase_eq_some_iff {base : TestBase} :
    c.testBase? = some base ↔ c.inherits base = true := by
  rw [testBase?, find_eq_some_iff_of_unique fun _ _ _ _ h h' => inherits_unique h h']
  exact and_iff_right base.mem_all

theorem isTestCase_iff_spells :
    c.isTestCase = true ↔ ∃ base : TestBase, ∃ p ∈ c.parent, p.Spells base.lineage := by
  rw [isTestCase, Option.isSome_iff_exists]
  exact exists_congr fun base => testBase_eq_some_iff.trans inherits_iff

/-- The name of a class is made up of the names that it is written with. -/
theorem spells_of_name {n : String} (h : c.name = .ok n) :
    ∃ names, c.nameTree.Spells names ∧ n = String.intercalate "::" names := by
  unfold ClassDeclaration.name at h
  split at h
  · next n' hname =>
      cases h
      exact ⟨[n], hname ▸ (Tree.Unscoped.sym n).spells_iff.2 rfl, rfl⟩
  · next scope last hname =>
      obtain ⟨names, hnames, ⟨⟩⟩ := bind_ok_iff.1 h
      exact ⟨names, hname ▸ ancestorNames_ok_iff.1 hnames, rfl⟩
  · next n' hname =>
      cases h
      exact ⟨[n], hname ▸ (Tree.Unscoped.colon3 n).spells_iff.2 rfl, rfl⟩
  · cases h

end ClassDeclaration

/-! ### Metadata -/

namespace TestClass
variable {c : ClassDeclaration}

/-- The metadata by another table than the one in force. -/
def tagFrom (tags : List (TestBase × Option String)) (inherits : TestBase → Bool) :
    Option String :=
  match tags.find? (fun entry => inherits entry.1) with
  | some (_, tag) => tag
  | none => some defaultTag

theorem metadataTag_eq_tagFrom (inherits : TestBase → Bool) :
    metadataTag inherits = tagFrom metadataTags inherits := rfl

/-- Of the listed bases, a class inherits from one at most, and each is listed once. -/
theorem metadataTags_unique :
    ∀ entry ∈ metadataTags, ∀ other ∈ metadataTags, c.inherits entry.1 = true →
      c.inherits other.1 = true → entry = other := by
  have hkeys : ∀ entry ∈ metadataTags, ∀ other ∈ metadataTags, entry.1 = other.1 →
      entry = other := by decide
  exact fun entry hentry other hother h h' =>
    hkeys entry hentry other hother (ClassDeclaration.inherits_unique h h')

theorem metadataTag_listed {base : TestBase} {tag : Option String}
    (hbase : c.inherits base = true) (hlisted : (base, tag) ∈ metadataTags) :
    metadataTag c.inherits = tag := by
  have hfind := (find_eq_some_iff_of_unique metadataTags_unique).2 ⟨hlisted, hbase⟩
  rw [metadataTag_eq_tagFrom, tagFrom, hfind]

theorem metadataTag_unlisted
    (h : ∀ base tag, c.inherits base = true → (base, tag) ∉ metadataTags) :
    metadataTag c.inherits = some defaultTag := by
  have hfind : metadataTags.find? (fun entry => c.inherits entry.1) = none :=
    List.find?_eq_none.2 fun entry hentry hbase => h entry.1 entry.2 hbase hentry
  rw [metadataTag_eq_tagFrom, tagFrom, hfind]

theorem tagFrom_perm {tags : List (TestBase × Option String)} (h : tags.Perm metadataTags) :
    tagFrom tags c.inherits = metadataTag c.inherits := by
  have hfind := List.find?_eq_find?_of_perm (p := fun entry => c.inherits entry.1) h.symm
    fun entry hentry other hother =>
      metadataTags_unique entry hentry.1 other hother.1 hentry.2 hother.2
  rw [metadataTag_eq_tagFrom, tagFrom, tagFrom, hfind]

end TestClass

/-! ### Classes -/

namespace ClassDeclaration

/-- What a class is, by the names of its parent alone. -/
structure KnownByParent (c : ClassDeclaration) : Prop where
  isTestCase_iff : c.isTestCase = true ↔
    ∃ base : TestBase, ∃ p ∈ c.parent, p.Spells base.lineage
  inherits_iff : ∀ base : TestBase, c.inherits base = true ↔
    ∃ p ∈ c.parent, p.Spells base.lineage
  /-- There is at most one base, and it is the one found. -/
  unique : ∀ base other, c.inherits base = true → c.inherits other = true → base = other
  testBase_iff : ∀ base, c.testBase? = some base ↔ c.inherits base = true
  tag_listed : ∀ base tag, c.inherits base = true → (base, tag) ∈ TestClass.metadataTags →
    TestClass.metadataTag c.inherits = tag
  tag_unlisted : (∀ base tag, c.inherits base = true → (base, tag) ∉ TestClass.metadataTags) →
    TestClass.metadataTag c.inherits = some "model"
  /-- Both tables may be searched in any order. -/
  bases_perm : ∀ bases : List TestBase, bases.Perm TestBase.all →
    bases.find? c.inherits = c.testBase?
  tags_perm : ∀ tags : List (TestBase × Option String), tags.Perm TestClass.metadataTags →
    TestClass.tagFrom tags c.inherits = TestClass.metadataTag c.inherits

theorem knownByParent (c : ClassDeclaration) : c.KnownByParent where
  isTestCase_iff := isTestCase_iff_spells
  inherits_iff _ := inherits_iff
  unique _ _ := inherits_unique
  testBase_iff _ := testBase_eq_some_iff
  tag_listed _ _ hbase hlisted := TestClass.metadataTag_listed hbase hlisted
  tag_unlisted h := TestClass.metadataTag_unlisted h
  bases_perm _ hperm := by
    refine (List.find?_eq_find?_of_perm hperm.symm ?_).symm
    exact fun base hbase other hother => inherits_unique hbase.2 hother.2
  tags_perm _ hperm := TestClass.tagFrom_perm hperm

/-- The names along a constant are those that it is written with, and without such names the
innermost scope is to blame. So a class is refused exactly if its parent stands in a scope that is
not written with names, and is a test case exactly if the names are those of a known base. -/
theorem classified_by_parent :
    (∀ t : Tree,
      (∀ names, ancestorNames t = .ok names ↔ t.Spells names) ∧
      ∀ e, ancestorNames t = .error e ↔ (∀ names, ¬ t.Spells names) ∧
        e = .structuralMismatch "const or colon2" t.innermostScope.kind) ∧
    ∀ name parent body,
      (∀ e, ofTree (.classDecl name parent body) = .error e ↔
        ∃ scope last, parent = some (.colon2 scope last) ∧ (∀ names, ¬ scope.Spells names) ∧
          e = .structuralMismatch "const or colon2" scope.innermostScope.kind) ∧
      ∀ c, ofTree (.classDecl name parent body) = .ok c →
        c = ⟨name, parent, body⟩ ∧ c.KnownByParent := by
  refine ⟨fun t => ⟨fun _ => ancestorNames_ok_iff, fun _ => ancestorNames_error_iff⟩, ?_⟩
  intro name parent body
  exact ⟨fun _ => ofTree_error_iff, fun c hc => ⟨eq_of_ofTree_ok hc, c.knownByParent⟩⟩

/-- The base at the top level, which has no entry of its own in the table of metadata. -/
def unitTest : ClassDeclaration where
  nameTree := .sym "FooTest"
  parent := some (.colon2 (.colon2 (.colon3 "Test") "Unit") "TestCase")
  statements := []

theorem classified_by_parent_unitTest :
    ofTree (.classDecl unitTest.nameTree unitTest.parent unitTest.statements) = .ok unitTest ∧
      unitTest.isTestCase = true ∧
      TestBase.all.reverse.find? unitTest.inherits = some .testUnit ∧
      TestClass.tagFrom TestClass.metadataTags.reverse unitTest.inherits = some "model" := by
  have hview : ofTree (.classDecl unitTest.nameTree unitTest.parent unitTest.statements) =
      .ok unitTest := rfl
  obtain ⟨-, hknown⟩ := (classified_by_parent.2 _ _ _).2 _ hview
  have hparent : ∃ p ∈ unitTest.parent, p.Spells TestBase.testUnit.lineage :=
    ⟨_, rfl, .colon3 "Test", "Test", ["Unit", "TestCase"], .colon3 "Test", rfl, rfl⟩
  have hbase := (hknown.inherits_iff .testUnit).2 hparent
  refine ⟨hview, hknown.isTestCase_iff.2 ⟨.testUnit, hparent⟩, ?_, ?_⟩
  · rw [hknown.bases_perm _ (List.reverse_perm _)]
    exact (hknown.testBase_iff .testUnit).2 hbase
  · rw [hknown.tags_perm _ (List.reverse_perm _)]
    refine hknown.tag_unlisted fun base tag hother hlisted => ?_
    cases hknown.unique _ _ hother hbase
    simp [TestClass.metadataTags] at hlisted

end ClassDeclaration
end Minispec
