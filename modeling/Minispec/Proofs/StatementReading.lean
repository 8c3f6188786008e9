import Minispec.Proofs.StatementPieces

/-!
Reading a statement for rspec-mocks back as a stub. The links of a statement are taken off from
the outside; their names tell them apart, and what stands in them can be any tree. A statement is
read back exactly if it was written, and as the stub that it was written for, so that no two stubs
have one statement. The only stubs without a statement are those with a count that has no link.
-/

namespace Minispec

/-- The text of a number is its decimal form. -/
theorem Described.int_eq (n : Int64) : Described.int n = toString n.toInt := by
  rw [Described.int]
  cases n.toInt with
  | ofNat m => simp [Decimal.Numeral.ofInt, Decimal.Numeral.ofNat, Decimal.Numeral.render]; rfl
  | negSucc m => simp [Decimal.Numeral.ofInt, Decimal.Numeral.ofNat, Decimal.Numeral.render]; rfl

namespace Stub

/-! ### Taking links off -/

/-- Takes the outermost link off a chain, if it has the name. -/
def unlink (method : String) : Tree → Option (List Tree) × Tree
  | .call (some chain) name args =>
    if name = method then (some args, chain) else (none, .call (some chain) name args)
  | chain => (none, chain)

/-- The links that state a count. -/
def countLinks : List String :=
  ["never", "once", "twice"]

/-- Takes the outermost link off a chain, if it states a count. -/
def unlinkCount : Tree → Option String × Tree
  | .call (some chain) name [] =>
    if name ∈ countLinks then (some name, chain) else (none, .call (some chain) name [])
  | chain => (none, chain)

/-- Takes off what follows the arguments: the count, and what is returned and raised. -/
def unlinkEnding (countFirst : Bool) (chain : Tree) :
    Option String × Option (List Tree) × Option (List Tree) × Tree :=
  if countFirst then
    let (raises, chain) := unlink "and_raise" chain
    let (returns, chain) := unlink "and_return" chain
    let (count, chain) := unlinkCount chain
    (count, returns, raises, chain)
  else
    let (count, chain) := unlinkCount chain
    let (raises, chain) := unlink "and_raise" chain
    let (returns, chain) := unlink "and_return" chain
    (count, returns, raises, chain)

def readMessage? : Tree → Option Tree
  | .call none method [message] =>
    if method = (if message.isHash then "receive_messages" else "receive") then some message
    else none
  | _ => none

/-- Whether calls are expected, and whether all instances are meant. -/
def readVerb? : String → Option (Bool × Bool)
  | "allow" => some (false, false)
  | "expect" => some (true, false)
  | "allow_any_instance_of" => some (false, true)
  | "expect_any_instance_of" => some (true, true)
  | _ => none

/-- The count that a link states. -/
def countOf : Option String → Int64
  | some "never" => 0
  | some "once" => 1
  | some "twice" => 2
  | _ => expectedByDefault

/-- Only where calls are expected can their number be stated. -/
def readCount? : Bool → Option String → Option (Option Int64)
  | true, count => some (some (countOf count))
  | false, none => some none
  | false, some _ => none

/-- The stub that a statement was written for. -/
def ofRspec? : Tree → Option Stub
  | .call (some (.call none verb [receiver])) "to" [chain] => do
    let (expected, anyInstance) ← readVerb? verb
    let (count, returns, raises, chain) := unlinkEnding (expected && anyInstance) chain
    let (withArgs, chain) := unlink "with" chain
    let message ← readMessage? chain
    let count ← readCount? expected count
    return { receiver, anyInstance, message, withArgs, returns, raises, count }
  | _ => none

variable {s : Stub} {method : String} {arguments : Option (List Tree)} {count : Option String}
  {chain t : Tree}

theorem link_of_unlink (h : unlink method t = (arguments, chain)) :
    t = link method arguments chain := by
  unfold unlink at h
  split at h
  · next inner name args =>
      split at h
      · next hname =>
          cases h
          rw [hname]
          rfl
      · cases h
        rfl
  · cases h
    rfl

theorem bareLink_of_unlinkCount (h : unlinkCount t = (count, chain)) :
    t = bareLink count chain ∧ ∀ name ∈ count, name ∈ countLinks := by
  unfold unlinkCount at h
  split at h
  · next inner name =>
      split at h
      · next hname =>
          cases h
          refine ⟨rfl, ?_⟩
          intro other hother
          cases hother
          exact hname
      · cases h
        exact ⟨rfl, nofun⟩
  · cases h
    exact ⟨rfl, nofun⟩

/-- The name of the outermost link. -/
def outermost? : Tree → Option String
  | .call (some _) name _ => some name
  | _ => none

theorem unlink_link (h : outermost? chain ≠ some method) :
    unlink method (link method arguments chain) = (arguments, chain) := by
  cases arguments with
  | some args => simp [link, unlink]
  | none =>
      rw [link]
      unfold unlink
      split
      · next inner name args =>
          have hname : name ≠ method := fun hname => h (congrArg some hname)
          rw [if_neg hname]
      · rfl

theorem unlinkCount_bareLink (hcount : ∀ name ∈ count, name ∈ countLinks)
    (h : ∀ name ∈ countLinks, outermost? chain ≠ some name) :
    unlinkCount (bareLink count chain) = (count, chain) := by
  cases count with
  | some name => simp [bareLink, unlinkCount, hcount name rfl]
  | none =>
      rw [bareLink]
      unfold unlinkCount
      split
      · next inner name =>
          have hname : name ∉ countLinks := fun hname => h name hname rfl
          rw [if_neg hname]
      · rfl

theorem outermost_link {names : List (Option String)} (h : outermost? chain ∈ names) :
    outermost? (link method arguments chain) ∈ some method :: names := by
  cases arguments with
  | some args => exact List.mem_cons_self
  | none => exact List.mem_cons_of_mem _ h

theorem outermost_bareLink {names : List (Option String)} (h : outermost? chain ∈ names)
    (hcount : ∀ name ∈ count, name ∈ countLinks) :
    outermost? (bareLink count chain) ∈ countLinks.map some ++ names := by
  cases count with
  | some name => exact List.mem_append_left _ (List.mem_map_of_mem (hcount name rfl))
  | none => exact List.mem_append_right _ h

/-- A chain with what follows the arguments. -/
def ending (countFirst : Bool) (count : Option String) (returns raises : Option (List Tree))
    (chain : Tree) : Tree :=
  if countFirst then link "and_raise" raises (link "and_return" returns (bareLink count chain))
  else bareLink count (link "and_raise" raises (link "and_return" returns chain))

variable {countFirst : Bool} {returns raises : Option (List Tree)}

theorem ending_of_unlinkEnding
    (h : unlinkEnding countFirst t = (count, returns, raises, chain)) :
    t = ending countFirst count returns raises chain ∧ ∀ name ∈ count, name ∈ countLinks := by
  cases countFirst with
  | true =>
      rcases hraises : unlink "and_raise" t with ⟨raises', inner⟩
      rcases hreturns : unlink "and_return" inner with ⟨returns', counted⟩
      rcases hcount : unlinkCount counted with ⟨count', received⟩
      simp only [unlinkEnding, if_true, hraises, hreturns, hcount] at h
      cases h
      obtain ⟨hbare, hnames⟩ := bareLink_of_unlinkCount hcount
      refine ⟨?_, hnames⟩
      rw [link_of_unlink hraises, link_of_unlink hreturns, hbare]
      rfl
  | false =>
      rcases hcount : unlinkCount t with ⟨count', outer⟩
      rcases hraises : unlink "and_raise" outer with ⟨raises', inner⟩
      rcases hreturns : unlink "and_return" inner with ⟨returns', received⟩
      simp only [unlinkEnding, Bool.false_eq_true, if_false, hraises, hreturns, hcount] at h
      cases h
      obtain ⟨hbare, hnames⟩ := bareLink_of_unlinkCount hcount
      refine ⟨?_, hnames⟩
      rw [hbare, link_of_unlink hraises, link_of_unlink hreturns]
      rfl

theorem unlinkEnding_ending (hcount : ∀ name ∈ count, name ∈ countLinks)
    (h : outermost? chain ∈ [some "with", none]) :
    unlinkEnding countFirst (ending countFirst count returns raises chain) =
      (count, returns, raises, chain) := by
  have hchain : ∀ name ∈ countLinks, outermost? chain ≠ some name := by
    intro name hname
    apply ne_of_mem_of_not_mem h
    revert name
    decide
  cases countFirst with
  | true =>
      have hbare := outermost_bareLink h hcount
      have hreturn : outermost? (bareLink count chain) ≠ some "and_return" :=
        ne_of_mem_of_not_mem hbare (by decide)
      have hraise : outermost? (link "and_return" returns (bareLink count chain)) ≠
          some "and_raise" := ne_of_mem_of_not_mem (outermost_link hbare) (by decide)
      simp only [unlinkEnding, ending, if_true, unlink_link hraise, unlink_link hreturn,
        unlinkCount_bareLink hcount hchain]
  | false =>
      have hreturn : outermost? chain ≠ some "and_return" := ne_of_mem_of_not_mem h (by decide)
      have hraise : outermost? (link "and_return" returns chain) ≠ some "and_raise" :=
        ne_of_mem_of_not_mem (outermost_link h) (by decide)
      have hbare : ∀ name ∈ countLinks,
          outermost? (link "and_raise" raises (link "and_return" returns chain)) ≠ some name := by
        intro name hname
        apply ne_of_mem_of_not_mem (outermost_link (outermost_link h))
        revert name
        decide
      simp only [unlinkEnding, ending, Bool.false_eq_true, if_false,
        unlinkCount_bareLink hcount hbare, unlink_link hraise, unlink_link hreturn]

/-! ### Counts, verbs and messages -/

theorem countOf_countLink {n : Int64} (hn : s.count = some n) (h : s.countLink? = .ok count) :
    countOf count = n := by
  simp only [countLink?, hn] at h
  split_ifs at h with hdefault hnever honce htwice
  all_goals
    cases h
    symm
    assumption

theorem countLink_of_count_none (h : s.count = none) : s.countLink? = .ok none := by
  rw [countLink?, h]

theorem countLink_countOf (hcount : ∀ name ∈ count, name ∈ countLinks)
    (h : s.count = some (countOf count)) : s.countLink? = .ok count := by
  rw [countLink?, h]
  cases count with
  | none => rfl
  | some name =>
      have hname := hcount name rfl
      simp only [countLinks, List.mem_cons, List.not_mem_nil, or_false] at hname
      obtain rfl | rfl | rfl := hname <;> rfl

theorem readVerb_verb (s : Stub) : readVerb? s.verb = some (s.count.isSome, s.anyInstance) := by
  rw [verb]
  cases s.count.isSome <;> cases s.anyInstance <;> rfl

theorem verb_of_readVerb {verb : String}
    (h : readVerb? verb = some (s.count.isSome, s.anyInstance)) :
    verb = s.verb := by
  rw [Stub.verb]
  unfold readVerb? at h
  split at h
  case h_5 => cases h
  all_goals
    simp only [Option.some.injEq, Prod.mk.injEq] at h
    rw [← h.1, ← h.2]

theorem readMessage_matcher (s : Stub) :
    readMessage? (.call none s.matcher [s.message]) = some s.message := by
  rw [readMessage?, matcher_eq, if_pos rfl]

theorem matcher_of_readMessage (h : readMessage? t = some s.message) :
    t = .call none s.matcher [s.message] := by
  unfold readMessage? at h
  split at h
  · next method message =>
      obtain ⟨hmethod, hmessage⟩ := Option.ite_none_right_eq_some.1 h
      cases hmessage
      rw [matcher_eq, hmethod]
  · cases h

theorem readCount_isSome (h : s.countLink? = .ok count) :
    readCount? s.count.isSome count = some s.count := by
  cases hs : s.count with
  | none =>
      rw [countLink_of_count_none hs] at h
      cases h
      rfl
  | some n => rw [Option.isSome_some, readCount?, countOf_countLink hs h]

theorem countLink_of_readCount {expected : Bool} (hcount : ∀ name ∈ count, name ∈ countLinks)
    (h : readCount? expected count = some s.count) :
    s.countLink? = .ok count ∧ s.count.isSome = expected := by
  unfold readCount? at h
  split at h
  · have hs := (Option.some.inj h).symm
    refine ⟨countLink_countOf hcount hs, ?_⟩
    rw [hs]
    rfl
  · have hs := (Option.some.inj h).symm
    refine ⟨countLink_of_count_none hs, ?_⟩
    rw [hs]
    rfl
  · cases h

/-! ### Whole statements -/

theorem expectation_eq (s : Stub) (count : Option String) :
    s.expectation count = ending (s.count.isSome && s.anyInstance) count s.returns s.raises
      (link "with" s.withArgs (.call none s.matcher [s.message])) := rfl

theorem ofRspec_statement (h : s.countLink? = .ok count) :
    ofRspec? (s.statement count) = some s := by
  have hstart : outermost? (.call none s.matcher [s.message]) ≠ some "with" := nofun
  have hreceived : outermost? (link "with" s.withArgs (.call none s.matcher [s.message])) ∈
      [some "with", none] := outermost_link (List.mem_singleton.2 rfl)
  simp only [statement, ofRspec?, readVerb_verb, expectation_eq, Option.bind_eq_bind,
    Option.bind_some, unlinkEnding_ending (countLink_mem h) hreceived, unlink_link hstart,
    readMessage_matcher, readCount_isSome h]
  rfl

/-- A statement whose parts are those of a stub is the statement of that stub. -/
theorem statement_of_parts {verb : String} {expected : Bool} {received start : Tree}
    (hverb : readVerb? verb = some (expected, s.anyInstance))
    (hending : unlinkEnding (expected && s.anyInstance) chain =
      (count, s.returns, s.raises, received))
    (hwith : unlink "with" received = (s.withArgs, start))
    (hmessage : readMessage? start = some s.message)
    (hcount : readCount? expected count = some s.count) :
    s.countLink? = .ok count ∧
      .call (some (.call none verb [s.receiver])) "to" [chain] = s.statement count := by
  obtain ⟨hchain, hnames⟩ := ending_of_unlinkEnding hending
  obtain ⟨hlink, rfl⟩ := countLink_of_readCount hnames hcount
  refine ⟨hlink, ?_⟩
  rw [statement, ← verb_of_readVerb hverb, expectation_eq, ← matcher_of_readMessage hmessage,
    ← link_of_unlink hwith, ← hchain]

theorem ofRspec_eq_some_iff {u : Tree} : ofRspec? u = some s ↔ s.toRspec = .ok u := by
  rw [toRspec_ok_iff]
  constructor
  · intro h
    unfold ofRspec? at h
    split at h
    · next verb receiver chain =>
        obtain ⟨⟨expected, anyInstance⟩, hverb, h⟩ := Option.bind_eq_some_iff.1 h
        rcases hending : unlinkEnding (expected && anyInstance) chain with
          ⟨count, returns, raises, received⟩
        rcases hwith : unlink "with" received with ⟨withArgs, start⟩
        simp only [hending, hwith] at h
        obtain ⟨message, hmessage, h⟩ := Option.bind_eq_some_iff.1 h
        obtain ⟨number, hnumber, ⟨⟩⟩ := Option.bind_eq_some_iff.1 h
        exact ⟨count, statement_of_parts hverb hending hwith hmessage hnumber⟩
    · cases h
  · intro h
    obtain ⟨count, hlink, rfl⟩ := h
    exact ofRspec_statement hlink

theorem countLink_error_iff {e : Error} :
    s.countLink? = .error e ↔ ∃ n, s.count = some n ∧ n ∉ [expectedByDefault, 0, 1, 2] ∧
      e = .unsupportedCallCount (toString n.toInt) := by
  cases hs : s.count with
  | none =>
      rw [countLink_of_count_none hs]
      exact ⟨nofun, nofun⟩
  | some n =>
      simp only [countLink?, hs, Option.some.injEq, exists_eq_left', List.mem_cons,
        List.not_mem_nil, or_false, not_or, ← Described.int_eq]
      split_ifs with hdefault hnever honce htwice
      case neg => simp only [hdefault, hnever, honce, htwice, not_false_eq_true, true_and,
        Except.error.injEq, eq_comm]
      all_goals simp_all

theorem toRspec_error_iff {e : Error} : s.toRspec = .error e ↔ s.countLink? = .error e := by
  rw [toRspec]
  constructor
  · intro h
    exact bind_pure_error h
  · intro h
    rw [h]
    rfl

/-- Writing a stub fails exactly for a count that has no link, and the failure names that count.
Otherwise nothing is lost: a tree is read back as a stub exactly if it is the statement of that
stub, and different stubs have different statements. -/
theorem toRspec_loses_nothing :
    (∀ (s : Stub) (e : Error), s.toRspec = .error e ↔
      ∃ n, s.count = some n ∧ n ∉ [-1, 0, 1, 2] ∧
        e = .unsupportedCallCount (toString n.toInt)) ∧
    (∀ (s : Stub) (u : Tree), s.toRspec = .ok u ↔ ofRspec? u = some s) ∧
    Set.InjOn toRspec {s | s.count ∈ [none, some (-1), some 0, some 1, some 2]} := by
  refine ⟨fun s e => toRspec_error_iff.trans countLink_error_iff,
    fun s u => ofRspec_eq_some_iff.symm, ?_⟩
  intro s hs s' hs' h
  obtain ⟨count, hlink⟩ := exists_countLink hs
  have hwritten : s.toRspec = .ok (s.statement count) := toRspec_ok_iff.2 ⟨count, hlink, rfl⟩
  have hread := ofRspec_eq_some_iff.2 hwritten
  have hread' := ofRspec_eq_some_iff.2 (h.symm.trans hwritten)
  exact Option.some.inj (hread.symm.trans hread')

end Stub
end Minispec
