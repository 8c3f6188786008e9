import Minispec.Proofs.DepthBound
import Minispec.Proofs.Rerun

/-!
Converting the statement that a stub was written as. The calls that make up the statement are left
alone, whatever stands in them, so the result is the statement of the stub with its pieces
converted, and the first piece that fails is the failure of the whole. A piece can be any tree; a
hash stays a hash and nothing else becomes one, so the way in which the message is passed does not
change.
-/

namespace Minispec

/-! ### Results -/

theorem mapM_congr {α β ε : Type} {f g : α → Except ε β} {as : List α}
    (h : ∀ a ∈ as, f a = g a) : as.mapM f = as.mapM g := by
  induction as with
  | nil => rfl
  | cons a as ih =>
      obtain ⟨ha, has⟩ := List.forall_mem_cons.1 h
      rw [List.mapM_cons, List.mapM_cons, ha, ih has]

theorem bind_congr_of_ok {α β ε : Type} {x : Except ε α} {f g : α → Except ε β}
    (h : ∀ a, x = .ok a → f a = g a) : x >>= f = x >>= g := by
  cases x with
  | error e => rfl
  | ok a => exact h a rfl

theorem exists_bind_ok_iff {α β ε : Type} {x : Except ε α} {f : α → Except ε β} {p : Prop}
    (h : ∀ a, (∃ b, f a = .ok b) ↔ p) :
    (∃ b, x >>= f = .ok b) ↔ (∃ a, x = .ok a) ∧ p := by
  cases x with
  | error e => exact ⟨nofun, nofun⟩
  | ok a =>
      constructor
      · intro hb
        exact ⟨⟨a, rfl⟩, (h a).1 hb⟩
      · intro hp
        exact (h a).2 hp.2

/-! ### Levels that are enough -/

section Levels
variable {options : Options} {levels more : Nat} {t : Tree}

theorem converted_eq_of_le (hreach : t.reach options.mocha ≤ levels) (h : levels ≤ more) :
    converted options levels t = converted options more t := by
  obtain hdeep | hsame := converted_cut options options.maxDepth h t
  · exact absurd (lt_reach_of_too_deep hdeep) (Nat.not_lt.2 hreach)
  · exact hsame

/-- All numbers of levels above the nesting of a tree give the same result. -/
theorem converted_eq_process (hlevels : t.nesting < levels)
    (hdepth : t.nesting < options.maxDepth) :
    converted options levels t = process options t := by
  have hreach := t.reach_le_nesting options.mocha
  have hleast : ∀ n, t.nesting < n →
      converted options n t = converted options (t.nesting + 1) t := fun n hn =>
    (converted_eq_of_le hreach hn).symm
  rw [process_eq_converted, hleast levels hlevels, hleast options.maxDepth hdepth]

/-- A node that no rule is for is put together again from what its children are converted to. -/
theorem process_other (hclass : TestClass.claims t = false)
    (hstub : t.stubCall options.mocha = false) (hdepth : t.nesting < options.maxDepth) :
    process options t = t.mapChildren (process options) := by
  obtain ⟨levels, hlevels⟩ : ∃ levels, options.maxDepth = levels + 1 :=
    ⟨options.maxDepth - 1, by omega⟩
  have hbelow : ∀ c ∈ t.visited, converted options levels c = process options c := by
    intro c hc
    have := Tree.nesting_lt_of_mem_visited hc
    exact converted_eq_process (by omega) (by omega)
  rw [process_eq_converted, hlevels, converted_other hclass hstub, Tree.mapChildren_eq,
    Tree.mapChildren_eq, mapM_congr hbelow]

end Levels

/-! ### Hashes -/

namespace Tree

def isHash : Tree → Bool
  | .hash _ => true
  | _ => false

theorem isHash_withVisited (t : Tree) (us : List Tree) : (t.withVisited us).isHash = t.isHash := by
  unfold withVisited
  split <;> rfl

theorem isHash_of_process {options : Options} {t u : Tree} (h : process options t = .ok u) :
    u.isHash = t.isHash := by
  rw [process_eq_converted] at h
  cases hlevels : options.maxDepth with
  | zero =>
      rw [hlevels] at h
      cases h
  | succ levels =>
      rw [hlevels] at h
      cases t.dispatch options.mocha with
      | stub hstub hc _ =>
          rw [converted_stub hstub] at h
          obtain ⟨s, count, _, _, rfl⟩ := MochaStub.convert_ok hc h
          cases t with
          | call receiver method args => rfl
          | _ => cases hc
      | classDecl name parent body =>
          obtain ⟨heading, statements, results, _, _, rfl⟩ := converted_class_ok_iff.1 h
          cases heading <;> rfl
      | other hclass hstub =>
          rw [converted_other hclass hstub] at h
          rw [(mapChildren_ok h).2, isHash_withVisited]

end Tree

/-! ### Pieces of a stub -/

namespace Stub
variable {options : Options} {s : Stub}

/-- The stub with an operation applied to each of its pieces, in the order in which the statement
names them. -/
def mapPieces (f : Tree → Except Error Tree) (s : Stub) : Except Error Stub := do
  let receiver ← f s.receiver
  let message ← f s.message
  let withArgs ← s.withArgs.mapM (·.mapM f)
  let returns ← s.returns.mapM (·.mapM f)
  let raises ← s.raises.mapM (·.mapM f)
  return { s with receiver, message, withArgs, returns, raises }

theorem exists_option_mapM_ok_iff {f : Tree → Except Error Tree} {o : Option (List Tree)} :
    (∃ r, o.mapM (·.mapM f) = .ok r) ↔ ∀ t ∈ o.getD [], ∃ u, f t = .ok u := by
  cases o with
  | none => exact ⟨nofun, fun _ => ⟨none, rfl⟩⟩
  | some ts =>
      rw [Option.getD_some, ← exists_mapM_ok_iff]
      exact exists_bind_pure_ok_iff

theorem exists_mapPieces_ok_iff {f : Tree → Except Error Tree} :
    (∃ s', s.mapPieces f = .ok s') ↔ ∀ x ∈ s.pieces, ∃ y, f x = .ok y := by
  simp only [pieces, List.forall_mem_cons, List.forall_mem_append, ← exists_option_mapM_ok_iff,
    and_assoc]
  exact exists_bind_ok_iff fun receiver => exists_bind_ok_iff fun message =>
    exists_bind_ok_iff fun withArgs => exists_bind_ok_iff fun returns => exists_bind_pure_ok_iff

theorem count_of_mapPieces {f : Tree → Except Error Tree} {s' : Stub}
    (h : s.mapPieces f = .ok s') : s'.count = s.count := by
  simp only [mapPieces, bind_ok_iff] at h
  obtain ⟨_, _, _, _, _, _, _, _, _, _, ⟨⟩⟩ := h
  rfl

theorem mapPieces_toRspec {f : Tree → Except Error Tree} {count : Option String}
    (hcount : s.countLink? = .ok count) :
    s.mapPieces f >>= toRspec = s.mapPieces f >>= fun s' => pure (s'.statement count) := by
  refine bind_congr_of_ok fun s' hs' => toRspec_ok_iff.2 ⟨count, ?_, rfl⟩
  rw [← hcount, countLink?, countLink?, count_of_mapPieces hs']

theorem matcher_eq (s : Stub) :
    s.matcher = if s.message.isHash then "receive_messages" else "receive" := by
  rw [matcher]
  cases s.message <;> rfl

/-! ### Chains that are left alone -/

/-- A chain without an anchor, and what it is converted to if it is not nested too deep. -/
structure Rebuilds (options : Options) (chain : Tree) (result : Except Error Tree) : Prop where
  unanchored : chain.Unanchored
  process_eq : chain.nesting < options.maxDepth → process options chain = result

variable {chain : Tree} {result : Except Error Tree}

theorem Rebuilds.congr {result' : Except Error Tree} (h : Rebuilds options chain result)
    (hresult : result = result') : Rebuilds options chain result' :=
  hresult ▸ h

theorem rebuilds_start (options : Options) {method : String}
    (hmethod : method ∉ MethodCall.mochaAnchors) (arg : Tree) :
    Rebuilds options (.call none method [arg])
      (do return .call none method [← process options arg]) := by
  have hunanchored := Tree.unanchored_start hmethod [arg]
  refine ⟨hunanchored, fun hdepth => ?_⟩
  rw [process_other rfl (Tree.stubCall_of_unanchored hunanchored) hdepth]
  simp [Tree.mapChildren]

theorem Rebuilds.call {method : String} (hmethod : method ∉ MethodCall.mochaAnchors)
    (args : List Tree) (h : Rebuilds options chain result) :
    Rebuilds options (.call (some chain) method args) (do
      let chain ← result
      return .call (some chain) method (← args.mapM (process options))) := by
  have hunanchored := h.unanchored.call hmethod args
  refine ⟨hunanchored, fun hdepth => ?_⟩
  have hchain : chain.nesting < options.maxDepth := by
    have := Tree.nesting_lt_of_mem_visited (t := .call (some chain) method args)
      List.mem_cons_self
    omega
  rw [process_other rfl (Tree.stubCall_of_unanchored hunanchored) hdepth]
  simp [Tree.mapChildren, h.process_eq hchain]

theorem Rebuilds.link {method : String} (hmethod : method ∉ MethodCall.mochaAnchors)
    (arguments : Option (List Tree)) (h : Rebuilds options chain result) :
    Rebuilds options (link method arguments chain) (do
      let chain ← result
      let arguments ← arguments.mapM (·.mapM (process options))
      return Stub.link method arguments chain) := by
  cases arguments with
  | none => simpa [Stub.link] using h
  | some args => simpa [Stub.link] using h.call hmethod args

theorem Rebuilds.bareLink {count : Option String}
    (hcount : ∀ method ∈ count, method ∉ MethodCall.mochaAnchors)
    (h : Rebuilds options chain result) :
    Rebuilds options (bareLink count chain) (do
      let chain ← result
      return Stub.bareLink count chain) := by
  cases count with
  | none => simpa [Stub.bareLink] using h
  | some method => simpa [Stub.bareLink] using h.call (hcount method rfl) []

/-- A conversion does not change the way in which a message is passed. -/
theorem matcher_of_process {message : Tree} (h : process options s.message = .ok message) :
    { s with message }.matcher = s.matcher := by
  rw [matcher_eq, matcher_eq, Tree.isHash_of_process h]

theorem rebuilds_expectation (options : Options) {count : Option String}
    (hcount : s.countLink? = .ok count) :
    Rebuilds options (s.expectation count) (do
      let message ← process options s.message
      let withArgs ← s.withArgs.mapM (·.mapM (process options))
      let returns ← s.returns.mapM (·.mapM (process options))
      let raises ← s.raises.mapM (·.mapM (process options))
      return { s with message, withArgs, returns, raises }.expectation count) := by
  have hbare := countLink_not_anchor hcount
  have hreceived := (rebuilds_start options s.matcher_not_anchor s.message).link
    (by decide : "with" ∉ MethodCall.mochaAnchors) s.withArgs
  have houtcome {chain : Tree} {result : Except Error Tree} (h : Rebuilds options chain result) :=
    (h.link (by decide : "and_return" ∉ MethodCall.mochaAnchors) s.returns).link
      (by decide : "and_raise" ∉ MethodCall.mochaAnchors) s.raises
  cases hplace : s.count.isSome && s.anyInstance with
  | true =>
      simp only [expectation, hplace, if_true]
      refine (houtcome (hreceived.bareLink hbare)).congr ?_
      simp only [bind_assoc, pure_bind]
      refine bind_congr_of_ok fun message hmessage => ?_
      simp only [← matcher_of_process hmessage]
      rfl
  | false =>
      simp only [expectation, hplace, Bool.false_eq_true, if_false]
      refine ((houtcome hreceived).bareLink hbare).congr ?_
      simp only [bind_assoc, pure_bind]
      refine bind_congr_of_ok fun message hmessage => ?_
      simp only [← matcher_of_process hmessage]
      rfl

theorem unanchored_statement {count : Option String} (hcount : s.countLink? = .ok count) :
    (s.statement count).Unanchored ∧ (s.expectation count).Unanchored := by
  have hobject := rebuilds_start {} s.verb_not_anchor s.receiver
  have hto := hobject.call (by decide : "to" ∉ MethodCall.mochaAnchors) [s.expectation count]
  exact ⟨hto.unanchored, (rebuilds_expectation {} hcount).unanchored⟩

/-- The statement is converted to the statement of the stub with its pieces converted. -/
theorem process_statement_eq {count : Option String} (hcount : s.countLink? = .ok count)
    (hdepth : (s.statement count).nesting < options.maxDepth) :
    process options (s.statement count) = s.mapPieces (process options) >>= toRspec := by
  have hobject := rebuilds_start options s.verb_not_anchor s.receiver
  have hto := hobject.call (by decide : "to" ∉ MethodCall.mochaAnchors) [s.expectation count]
  have hinner : (s.expectation count).nesting < options.maxDepth := by
    have := Tree.nesting_lt_of_mem_visited (t := s.statement count)
      (.tail _ (.head _) : s.expectation count ∈ (s.statement count).visited)
    omega
  rw [mapPieces_toRspec hcount, statement, hto.process_eq hdepth]
  simp only [List.mapM_cons, List.mapM_nil, (rebuilds_expectation options hcount).process_eq hinner,
    mapPieces, bind_assoc, pure_bind]
  rfl

end Stub

/-! ### The whole statement -/

/-- The calls along the receivers of a tree, the outermost first. -/
def Tree.calls (t : Tree) : List MethodCall :=
  t.methodCall?.elim [] (·.links)

theorem MethodCall.not_mocha_of_no_anchor {c : MethodCall} (h : c.anchor? = none) :
    c.isMochaStub = false := by
  rw [anchor?] at h
  rw [isMochaStub, h, Option.isSome_none, Bool.and_false]

theorem MethodCall.toStub_of_no_anchor {c : MethodCall} (h : c.anchor? = none) :
    c.toStub = .error (.unknownStubShape (.noAnchor c.method)) := by
  simp only [toStub, stubMessage, h]
  rfl

/-- Where no call starts a stub, none ends one. -/
theorem Tree.not_mocha_of_unanchored {t : Tree} (h : t.Unanchored) :
    ∀ call ∈ t.calls, call.isMochaStub = false := by
  induction t using induction_below with
  | step t ih =>
      cases t with
      | call receiver method args =>
          have hroot := MethodCall.not_mocha_of_no_anchor (h _ rfl)
          change ∀ call ∈ MethodCall.links ⟨receiver, method, args⟩, _
          cases receiver with
          | none => exact List.forall_mem_singleton.2 hroot
          | some r =>
              have hr := ih r (by simp [children]) ((unanchored_call_iff.1 h).2 r rfl)
              cases r with
              | call receiver' method' args' =>
                  rw [MethodCall.links_call]
                  exact List.forall_mem_cons.2 ⟨hroot, hr⟩
              | _ => exact List.forall_mem_singleton.2 hroot
      | _ =>
          intro call hcall
          cases hcall

/-- A statement that was written for a stub is not a stub, and no call in it is one. A conversion
only converts its pieces: it succeeds exactly if all of them are converted, and gives the
statement of the stub with the converted pieces. -/
theorem Stub.process_statement {s : Stub}
    (hcount : s.count ∈ [none, some (-1), some 0, some 1, some 2]) :
    ∃ count, s.toRspec = .ok (s.statement count) ∧
      (∃ call, MethodCall.ofTree (s.statement count) = .ok call ∧
        call.toStub = .error (.unknownStubShape (.noAnchor "to"))) ∧
      (∀ call ∈ (s.statement count).calls ++ (s.expectation count).calls,
        call.isMochaStub = false) ∧
      ∀ options : Options, (s.statement count).nesting < options.maxDepth →
        ((∃ u, process options (s.statement count) = .ok u) ↔
          ∀ x ∈ s.pieces, ∃ y, process options x = .ok y) ∧
        process options (s.statement count) = s.mapPieces (process options) >>= toRspec := by
  obtain ⟨count, hlink⟩ := exists_countLink hcount
  obtain ⟨hstatement, hexpectation⟩ := unanchored_statement hlink
  refine ⟨count, toRspec_ok_iff.2 ⟨count, hlink, rfl⟩,
    ⟨_, rfl, MethodCall.toStub_of_no_anchor (hstatement _ rfl)⟩, ?_, fun options hdepth => ?_⟩
  · exact List.forall_mem_append.2 ⟨Tree.not_mocha_of_unanchored hstatement,
      Tree.not_mocha_of_unanchored hexpectation⟩
  · have heq := process_statement_eq hlink hdepth
    refine ⟨?_, heq⟩
    rw [heq, mapPieces_toRspec hlink, ← exists_mapPieces_ok_iff]
    exact exists_bind_pure_ok_iff

/-- A stub in the values of a hash, and a test class among the values to return. -/
def nestedStub : Stub where
  receiver := .const "Foo"
  anyInstance := true
  message := .hash [.symbol "bar", .call (some (.const "Bar")) "stubs" [.symbol "y"]]
  returns := some [.classDecl (.sym "FooTest")
    (some (.colon2 (.const "ActiveSupport") "TestCase")) []]
  count := some 2

theorem Stub.process_statement_nestedStub :
    ∃ e u, nestedStub.toRspec = .ok e ∧ process { mocha := true } e = .ok u ∧
      process { mocha := true } e ≠ .ok e ∧
      nestedStub.mapPieces (process { mocha := true }) >>= toRspec = .ok u := by
  obtain ⟨count, hwritten, _, _, hprocess⟩ :=
    process_statement (by decide : nestedStub.count ∈ [none, some (-1), some 0, some 1, some 2])
  have htwice : nestedStub.statement count = nestedStub.statement (some "twice") :=
    Except.ok.inj (hwritten.symm.trans rfl)
  rw [htwice] at hprocess
  obtain ⟨_, heq⟩ := hprocess { mocha := true } (by decide)
  refine ⟨_, _, rfl, rfl, ?_, heq.symm.trans rfl⟩
  intro h
  cases h

end Minispec
