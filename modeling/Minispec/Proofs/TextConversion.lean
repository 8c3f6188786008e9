import Minispec.Proofs.ReadBack
import Minispec.Proofs.Rerun

/-!
Conversion from text to text. A conversion keeps trees within what the notation can express: the
rules build such nodes only, a node that is put together again gets no `nil` in a place where
there was none, and all other trees are taken over. So the text that comes out is read as the
tree that was converted.
-/

namespace Minispec

/-! ### Calls and their parts -/

theorem Tree.wellFormed_call_iff {receiver : Option Tree} {method : String} {args : List Tree} :
    (Tree.call receiver method args).WellFormed ↔
      receiver ≠ some .empty ∧ (∀ r ∈ receiver, r.WellFormed) ∧ ∀ a ∈ args, a.WellFormed := by
  rw [wellFormed_iff]
  simp only [ExpressibleHere, children, List.forall_mem_append, Option.mem_toList,
    Option.mem_def]

theorem Tree.wellFormed_receivers {t : Tree} (h : t.WellFormed) :
    ∀ r ∈ t.receivers, r.WellFormed := by
  fun_induction receivers t with
  | case1 receiver method args ih =>
      obtain ⟨_, hreceiver, _⟩ := wellFormed_call_iff.1 h
      have hfirst : receiver.WellFormed := hreceiver receiver rfl
      exact List.forall_mem_cons.2 ⟨hfirst, ih hfirst⟩
  | case2 => exact nofun

namespace MethodCall
variable {c link : MethodCall}

/-- The call as a tree. -/
def tree (c : MethodCall) : Tree :=
  .call c.receiver c.method c.arguments

theorem tree_of_methodCall {t : Tree} (h : t.methodCall? = some c) : t = c.tree := by
  cases t with
  | call receiver method args =>
      cases h
      rfl
  | _ => cases h

theorem receiverChain_eq (c : MethodCall) : c.receiverChain = c.tree.receivers := by
  obtain ⟨receiver, method, args⟩ := c
  cases receiver <;> rfl

theorem wellFormed_of_mem_links (h : c.tree.WellFormed) (hlink : link ∈ c.links) :
    link.tree.WellFormed := by
  cases List.mem_cons.1 hlink with
  | inl hsame => rwa [hsame]
  | inr hbehind =>
      obtain ⟨r, hr, hcall⟩ := List.mem_filterMap.1 hbehind
      rw [receiverChain_eq] at hr
      rw [← tree_of_methodCall hcall]
      exact Tree.wellFormed_receivers h r hr

theorem wellFormed_of_find {methods : List String} (h : c.tree.WellFormed)
    (hfind : c.find? methods = some link) : link.tree.WellFormed :=
  wellFormed_of_mem_links h (List.mem_of_find?_eq_some hfind)

theorem wellFormed_argumentsOf (h : c.tree.WellFormed) (method : String) :
    ∀ a ∈ (c.argumentsOf? method).getD [], a.WellFormed := by
  unfold argumentsOf?
  cases hfind : c.find? [method] with
  | none => exact nofun
  | some link => exact (Tree.wellFormed_call_iff.1 (wellFormed_of_find h hfind)).2.2

theorem wellFormed_stubbedObject (h : c.tree.WellFormed) : c.stubbedObject.WellFormed := by
  have hdefault : ∀ {o : Option Tree}, (∀ r ∈ o, r.WellFormed) → (o.getD .selfRef).WellFormed := by
    intro o ho
    cases o with
    | none => exact Tree.wellFormed_of_leaf trivial rfl
    | some r => exact ho r rfl
  obtain ⟨_, hreceiver, _⟩ := Tree.wellFormed_call_iff.1 h
  unfold stubbedObject
  split
  · next inner args hinner => exact hdefault (Tree.wellFormed_call_iff.1 (hreceiver _ hinner)).2.1
  · exact hdefault hreceiver

/-- A stub takes over nothing but parts of its chain. -/
theorem wellFormed_pieces {s : Stub} (h : c.tree.WellFormed) (hmocha : c.isMochaStub = true)
    (hs : c.toStub = .ok s) : ∀ p ∈ s.pieces, p.WellFormed := by
  obtain ⟨anchor, hanchor⟩ := exists_anchor hmocha
  have hformed : anchor.tree.WellFormed := wellFormed_of_find h hanchor
  rw [toStub_eq hanchor] at hs
  split at hs
  · cases hs
  · next message rest harguments =>
      have hmessage : message.WellFormed := by
        apply (Tree.wellFormed_call_iff.1 hformed).2.2
        rw [harguments]
        exact List.mem_cons_self
      split at hs
      · cases hs
      · cases hs
        refine List.forall_mem_cons.2 ⟨wellFormed_stubbedObject hformed, ?_⟩
        refine List.forall_mem_cons.2 ⟨hmessage, ?_⟩
        refine List.forall_mem_append.2 ⟨List.forall_mem_append.2 ⟨?_, ?_⟩, ?_⟩
        · exact wellFormed_argumentsOf h "with"
        · exact wellFormed_argumentsOf h "returns"
        · exact wellFormed_argumentsOf h "raises"

end MethodCall

/-! ### Statements for stubs -/

/-- The tree may stand before the dot of a call. -/
def Tree.FitsReceiver (t : Tree) : Prop :=
  t ≠ .empty ∧ t.WellFormed

theorem Tree.fitsReceiver_call_none (method : String) {args : List Tree}
    (h : ∀ a ∈ args, a.WellFormed) : (Tree.call none method args).FitsReceiver :=
  ⟨nofun, wellFormed_call_iff.2 ⟨nofun, nofun, h⟩⟩

theorem Tree.FitsReceiver.call {chain : Tree} (hchain : chain.FitsReceiver) (method : String)
    {args : List Tree} (h : ∀ a ∈ args, a.WellFormed) :
    (Tree.call (some chain) method args).FitsReceiver := by
  refine ⟨nofun, wellFormed_call_iff.2 ⟨?_, ?_, h⟩⟩
  · intro hempty
    exact hchain.1 (Option.some.inj hempty)
  · intro r hr
    cases hr
    exact hchain.2

namespace Stub
variable {chain : Tree}

theorem fitsReceiver_link (hchain : chain.FitsReceiver) (method : String)
    {arguments : Option (List Tree)} (h : ∀ a ∈ arguments.getD [], a.WellFormed) :
    (link method arguments chain).FitsReceiver := by
  cases arguments with
  | none => exact hchain
  | some args => exact hchain.call method h

theorem fitsReceiver_bareLink (hchain : chain.FitsReceiver) (count : Option String) :
    (bareLink count chain).FitsReceiver := by
  cases count with
  | none => exact hchain
  | some method => exact hchain.call method nofun

theorem wellFormed_statement {s : Stub} (h : ∀ p ∈ s.pieces, p.WellFormed)
    (count : Option String) : (s.statement count).WellFormed := by
  simp only [pieces, List.forall_mem_cons, List.forall_mem_append] at h
  obtain ⟨hobject, hmessage, ⟨hwith, hreturns⟩, hraises⟩ := h
  have hmatcher : (Tree.call none s.matcher [s.message]).FitsReceiver :=
    Tree.fitsReceiver_call_none s.matcher (List.forall_mem_singleton.2 hmessage)
  have hreceived : (link "with" s.withArgs (.call none s.matcher [s.message])).FitsReceiver :=
    fitsReceiver_link hmatcher "with" hwith
  have houtcome : ∀ {chain : Tree}, chain.FitsReceiver →
      (link "and_raise" s.raises (link "and_return" s.returns chain)).FitsReceiver :=
    fun hchain => fitsReceiver_link (fitsReceiver_link hchain "and_return" hreturns) "and_raise"
      hraises
  have hexpectation : (s.expectation count).WellFormed := by
    rw [expectation]
    split
    · exact (houtcome (fitsReceiver_bareLink hreceived count)).2
    · exact (fitsReceiver_bareLink (houtcome hreceived) count).2
  have hverb : (Tree.call none s.verb [s.receiver]).FitsReceiver :=
    Tree.fitsReceiver_call_none s.verb (List.forall_mem_singleton.2 hobject)
  exact (hverb.call "to" (List.forall_mem_singleton.2 hexpectation)).2

end Stub

/-! ### Classes and describe blocks -/

namespace TestClass

theorem wellFormed_describeCall (options : Options) (described : String) (tag : Option String) :
    (describeCall options described tag).WellFormed := by
  have hsubject : (subject described tag).WellFormed := by
    unfold subject
    split
    · exact Tree.wellFormed_of_leaf trivial rfl
    · exact Tree.wellFormed_of_leaf trivial rfl
  have hsymbol : ∀ name, (Tree.symbol name).WellFormed := fun name =>
    Tree.wellFormed_of_leaf trivial rfl
  have hmetadata : ∀ kind, (metadata kind).WellFormed := by
    intro kind
    refine (Tree.wellFormed_iff _).2 ⟨trivial, List.forall_mem_cons.2 ⟨hsymbol "type", ?_⟩⟩
    exact List.forall_mem_singleton.2 (hsymbol kind)
  have hbase : (Tree.const "RSpec").FitsReceiver :=
    ⟨nofun, Tree.wellFormed_of_leaf trivial rfl⟩
  refine (hbase.call "describe" (List.forall_mem_cons.2 ⟨hsubject, ?_⟩)).2
  intro a ha
  split at ha
  · obtain ⟨kind, _, rfl⟩ := List.mem_map.1 ha
    exact hmetadata kind
  · cases ha

theorem wellFormed_joinBody {ts : List Tree} (h : ∀ t ∈ ts, t.WellFormed) :
    ∀ b ∈ (joinBody ts).toList, b.WellFormed := by
  unfold joinBody
  split
  · exact h
  · exact h
  · exact List.forall_mem_singleton.2 ((Tree.wellFormed_iff _).2 ⟨trivial, h⟩)

theorem wellFormed_close {options : Options} {name : Tree} {parent : Option Tree}
    {body results : List Tree} (h : (Tree.classDecl name parent body).WellFormed) (n : String)
    (hresults : ∀ r ∈ results, r.WellFormed) :
    ((outline options ⟨name, parent, body⟩ n).1.close results).WellFormed := by
  obtain ⟨hparent, hchildren⟩ := (Tree.wellFormed_iff _).1 h
  obtain ⟨_, hinside⟩ := List.forall_mem_cons.1 hchildren
  have hbody := wellFormed_joinBody hresults
  cases htest : (ClassDeclaration.mk name parent body).isTestCase with
  | true =>
      rw [outline_testCase htest]
      refine (Tree.wellFormed_iff _).2 ⟨trivial, List.forall_mem_cons.2 ⟨?_, ?_⟩⟩
      · exact wellFormed_describeCall options _ _
      · exact List.forall_mem_cons.2 ⟨Tree.wellFormed_of_leaf trivial rfl, hbody⟩
  | false =>
      rw [outline_plain htest]
      refine (Tree.wellFormed_iff _).2 ⟨hparent, List.forall_mem_cons.2 ⟨?_, ?_⟩⟩
      · exact Tree.wellFormed_of_leaf trivial rfl
      · exact List.forall_mem_append.2 ⟨(List.forall_mem_append.1 hinside).1, hbody⟩

end TestClass

/-! ### Conversion -/

section Conversion
variable {options : Options} {levels : Nat} {t u : Tree}

theorem Tree.children_eq_visited (h : TestClass.claims t = false) : t.children = t.visited := by
  cases t with
  | classDecl _ _ _ => cases h
  | _ => rfl

/-- A node stays expressible if no child becomes the atom `nil`. -/
theorem Tree.expressibleHere_withVisited {us : List Tree} (h : t.ExpressibleHere)
    (hus : List.Forall₂ (fun c d => d = .empty → c = .empty) t.visited us) :
    (t.withVisited us).ExpressibleHere := by
  cases t with
  | call receiver method args =>
      cases receiver with
      | none => exact nofun
      | some r =>
          obtain ⟨r', args', hr', _, rfl⟩ := List.forall₂_cons_left_iff.1 hus
          intro hempty
          exact h (congrArg some (hr' (Option.some.inj hempty)))
  | lit _ | classDecl _ _ _ | node _ _ => exact h
  | _ =>
      unfold withVisited
      split <;> trivial

/-- Only the atom `nil` is converted to the atom `nil`. -/
theorem eq_empty_of_converted (h : converted options levels t = .ok .empty) : t = .empty := by
  cases levels with
  | zero => cases h
  | succ levels =>
      cases t.dispatch options.mocha with
      | stub hstub hc _ =>
          rw [converted_stub hstub] at h
          obtain ⟨_, _, _, _, hstatement⟩ := MochaStub.convert_ok hc h
          cases hstatement
      | classDecl name parent body =>
          obtain ⟨heading, _, _, _, _, hclose⟩ := converted_class_ok_iff.1 h
          cases heading <;> cases hclose
      | other hclass hstub =>
          rw [converted_other hclass hstub] at h
          obtain ⟨_, hsame⟩ := Tree.mapChildren_ok h
          cases t with
          | empty => rfl
          | call receiver _ _ => cases receiver <;> cases hsame
          | iter _ _ body => cases body <;> cases hsame
          | _ => cases hsame

theorem wellFormed_class_of_converted {name : Tree} {parent : Option Tree} {body : List Tree}
    (below : ∀ c d, converted options levels c = .ok d → c.WellFormed → d.WellFormed)
    (h : converted options (levels + 1) (.classDecl name parent body) = .ok u)
    (ht : (Tree.classDecl name parent body).WellFormed) : u.WellFormed := by
  obtain ⟨n, results, _, hn, hresults, rfl⟩ := TestClass.outline_of_converted h
  refine TestClass.wellFormed_close ht n (forall_of_forall₂ hresults below ?_)
  intro s hs
  cases (TestClass.mem_outline_iff hn).1 hs with
  | inl hinclude =>
      have hmodule : ∀ described, (Tree.const described).WellFormed := fun _ =>
        Tree.wellFormed_of_leaf trivial rfl
      rw [hinclude.2]
      exact (Tree.fitsReceiver_call_none "include" (List.forall_mem_singleton.2 (hmodule _))).2
  | inr hs =>
      refine ((Tree.wellFormed_iff _).1 ht).2 s ?_
      exact Tree.mem_children_of_mem_visited hs

/-- What a conversion makes of a tree that the notation can express can be expressed, too. -/
theorem wellFormed_of_converted (h : converted options levels t = .ok u) (ht : t.WellFormed) :
    u.WellFormed := by
  induction levels generalizing t u with
  | zero => cases h
  | succ levels ih =>
      cases t.dispatch options.mocha with
      | stub hstub hc hmocha =>
          rw [converted_stub hstub] at h
          obtain ⟨s, count, hs, _, rfl⟩ := MochaStub.convert_ok hc h
          rw [MethodCall.tree_of_methodCall hc] at ht
          exact Stub.wellFormed_statement (MethodCall.wellFormed_pieces ht hmocha hs) count
      | classDecl name parent body => exact wellFormed_class_of_converted (fun _ _ => ih) h ht
      | other hclass hstub =>
          rw [converted_other hclass hstub] at h
          obtain ⟨hvisited, hu⟩ := Tree.mapChildren_ok h
          obtain ⟨hhere, hchildren⟩ := t.wellFormed_iff.1 ht
          have huclass : TestClass.claims u = false := by rw [hu, Tree.claims_withVisited, hclass]
          rw [Tree.children_eq_visited hclass] at hchildren
          rw [u.wellFormed_iff, Tree.children_eq_visited huclass]
          constructor
          · -- A converted receiver must not read as an absent one.
            rw [hu]
            refine Tree.expressibleHere_withVisited hhere (hvisited.imp ?_)
            intro c d hcd hempty
            rw [hempty] at hcd
            exact eq_empty_of_converted hcd
          · exact forall_of_forall₂ hvisited (fun _ _ => ih) hchildren

end Conversion

/-! ### Text to text -/

/-- A text is read, converted and written, and nothing else happens to it. -/
theorem convert_ok_iff {options : Options} {source out : String} :
    ((Converter.new options).convert source).1 = .ok out ↔
      ∃ t u, Notation.read options.maxDepth source = .ok t ∧ process options t = .ok u ∧
        out = u.written := by
  have hsteps : ((Converter.new options).convert source).1 =
      Notation.read options.maxDepth source >>= fun t =>
        (process options t).map Tree.written := by
    simp only [Converter.convert, Converter.new]
    cases Notation.read options.maxDepth source <;> rfl
  rw [hsteps, bind_ok_iff]
  simp only [map_ok_iff, exists_and_left]

/-- Converting a text in which no numeral is too large is reading it, converting the tree and
writing the result, from which every reader with room for it gets the converted tree. -/
theorem convert_reads_back {options : Options} {source out : String}
    (hfinite : Notation.FiniteLiterals source.toList) :
    ((Converter.new options).convert source).1 = .ok out ↔
      ∃ t u, Notation.read options.maxDepth source = .ok t ∧ process options t = .ok u ∧
        out = u.written ∧
        ∀ maxDepth, u.nesting ≤ maxDepth → Notation.read maxDepth out = .ok u := by
  rw [convert_ok_iff]
  constructor
  · intro h
    obtain ⟨t, u, hread, hprocess, rfl⟩ := h
    refine ⟨t, u, hread, hprocess, rfl, ?_⟩
    have ht : t.WellFormed := (Notation.wellFormed_iff_of_read hread).2 hfinite
    have hu : u.WellFormed := by
      rw [process_eq_converted] at hprocess
      exact wellFormed_of_converted hprocess ht
    intro maxDepth hdepth
    exact Notation.read_of_reads (Notation.reads_write hu hdepth)
  · intro h
    obtain ⟨t, u, hread, hprocess, hout, _⟩ := h
    exact ⟨t, u, hread, hprocess, hout⟩

/-- A test of a helper module, with a stub that returns a floating point number. -/
def numberStubTest : Tree :=
  .classDecl (.sym "FooHelperTest") (some (.colon2 (.const "ActiveSupport") "TestCase"))
    [.call (some (.call (some (.const "Bar")) "stubs" [.symbol "y"])) "returns"
      [.lit (.float (.ofNat 100))]]

theorem wellFormed_numberStubTest : numberStubTest.WellFormed := by
  have hfinite : (Binary64.ofNat 100).isFinite = true := by decide +kernel
  have hnumber : (Tree.lit (.float (.ofNat 100))).WellFormed := Tree.wellFormed_of_leaf hfinite rfl
  have hmessage : (Tree.symbol "y").WellFormed := Tree.wellFormed_of_leaf trivial rfl
  have hconst : ∀ name, (Tree.const name).WellFormed := fun _ =>
    Tree.wellFormed_of_leaf trivial rfl
  have hobject : (Tree.const "Bar").FitsReceiver := ⟨nofun, hconst "Bar"⟩
  have hstub := (hobject.call "stubs" (List.forall_mem_singleton.2 hmessage)).call "returns"
    (List.forall_mem_singleton.2 hnumber)
  have hparent : (Tree.colon2 (.const "ActiveSupport") "TestCase").WellFormed :=
    (Tree.wellFormed_iff _).2 ⟨trivial, List.forall_mem_singleton.2 (hconst "ActiveSupport")⟩
  refine (Tree.wellFormed_iff _).2 ⟨nofun, List.forall_mem_cons.2 ⟨?_, ?_⟩⟩
  · exact Tree.wellFormed_of_leaf trivial rfl
  · exact List.forall_mem_cons.2 ⟨hparent, List.forall_mem_singleton.2 hstub.2⟩

theorem convert_reads_back_numberStubTest :
    ∃ out u, Notation.FiniteLiterals numberStubTest.written.toList ∧
      ((Converter.new { mocha := true }).convert numberStubTest.written).1 = .ok out ∧
      process { mocha := true } numberStubTest = .ok u ∧ Notation.read 8 out = .ok u := by
  have hrun : ∃ u, process { mocha := true } numberStubTest = .ok u ∧ u.nesting ≤ 8 :=
    ⟨_, rfl, by decide⟩
  obtain ⟨u, hprocess, hdepth⟩ := hrun
  have hread : Notation.read 256 numberStubTest.written = .ok numberStubTest :=
    Notation.read_of_reads (Notation.reads_write wellFormed_numberStubTest (by decide))
  have hfinite := Notation.finiteLiterals_written numberStubTest
  have hconvert : ((Converter.new { mocha := true }).convert numberStubTest.written).1 =
      .ok u.written := convert_ok_iff.2 ⟨_, u, hread, hprocess, rfl⟩
  obtain ⟨t, v, ht, hv, hout, hagain⟩ := (convert_reads_back hfinite).1 hconvert
  cases hread.symm.trans ht
  cases hprocess.symm.trans hv
  exact ⟨_, u, hfinite, hconvert, hprocess, hagain 8 hdepth⟩

end Minispec
