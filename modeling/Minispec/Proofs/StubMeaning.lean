import Mathlib.Data.List.Infix
import Minispec.Proofs.StatementPieces
import Minispec.Proofs.TextConversion

/-!
What a chain of calls means as a stub, told by the links of the chain and their places. A chain is
written out by following receivers, in one way only. The nearest `expects` or `stubs` is the
anchor: it gives the message and the object. Every other part comes from the first link that has
the name of the part, wherever that link stands, and the count from the outermost link. The links
behind the anchor take part in this, so a call on the stubbed object may be read as a qualifier.
-/

namespace Minispec

theorem occursIn_iff (part text : List Char) : occursIn part text = true ↔ part <:+: text := by
  induction text with
  | nil => simp only [occursIn, List.isEmpty_iff, List.infix_nil]
  | cons c cs ih =>
      rw [occursIn, Bool.or_eq_true, List.isPrefixOf_iff_prefix, ih, List.infix_cons_iff]

namespace MethodCall

/-! ### Links and their places -/

/-- The links of a call, outermost first: each is called on the next one, and the last one on
nothing or on something that is no call. -/
inductive WrittenAs : MethodCall → List MethodCall → Prop
  | last {c : MethodCall} (hreceiver : ∀ t ∈ c.receiver, t.methodCall? = none) : WrittenAs c [c]
  | link {c next : MethodCall} {links : List MethodCall} (hreceiver : c.receiver = some next.tree)
      (h : WrittenAs next links) : WrittenAs c (c :: links)

theorem links_of_writtenAs {c : MethodCall} {links : List MethodCall} (h : c.WrittenAs links) :
    links = c.links := by
  induction h with
  | @last c hreceiver =>
      obtain ⟨receiver, method, args⟩ := c
      cases receiver with
      | none => rfl
      | some t => exact (links_of_not_call (hreceiver t rfl) method args).symm
  | @link c next links hreceiver _ ih =>
      obtain ⟨receiver, method, args⟩ := c
      cases hreceiver
      rw [ih, tree, links_call]

theorem writtenAs_links (c : MethodCall) : c.WrittenAs c.links := by
  obtain ⟨receiver, method, args⟩ := c
  cases receiver with
  | none =>
      apply WrittenAs.last
      exact nofun
  | some t =>
      -- The chain goes on exactly as long as receivers are calls.
      induction t using Tree.induction_below generalizing method args with
      | step t ih =>
          cases t with
          | call receiver inner innerArgs =>
              have hnext : WrittenAs ⟨receiver, inner, innerArgs⟩
                  (links ⟨receiver, inner, innerArgs⟩) := by
                cases receiver with
                | none =>
                    apply WrittenAs.last
                    exact nofun
                | some r =>
                    apply ih
                    simp [Tree.children]
              rw [links_call]
              exact .link rfl hnext
          | _ =>
              apply WrittenAs.last
              intro t ht
              cases ht
              rfl

/-- The link at the index has one of the names, and no link before it has one. -/
structure FirstAt (links : List MethodCall) (names : List String) (i : Nat) (link : MethodCall) :
    Prop where
  at_index : links[i]? = some link
  named : link.method ∈ names
  before : ∀ j < i, ∀ other, links[j]? = some other → other.method ∉ names

def NoneNamed (links : List MethodCall) (names : List String) : Prop :=
  ∀ link ∈ links, link.method ∉ names

variable {c link : MethodCall} {names : List String}

theorem find_eq_some_iff : c.find? names = some link ↔ ∃ i, FirstAt c.links names i link := by
  simp only [find?, List.find?_eq_some_iff_getElem, isNamed, List.contains_iff_mem,
    Bool.not_eq_true', ← Bool.not_eq_true]
  constructor
  · intro h
    obtain ⟨hnamed, i, hi, hlink, hbefore⟩ := h
    refine ⟨i, List.getElem?_eq_some_iff.2 ⟨hi, hlink⟩, hnamed, ?_⟩
    intro j hj other hother
    obtain ⟨_, rfl⟩ := List.getElem?_eq_some_iff.1 hother
    exact hbefore j hj
  · intro h
    obtain ⟨i, hindex, hnamed, hbefore⟩ := h
    obtain ⟨hi, hlink⟩ := List.getElem?_eq_some_iff.1 hindex
    refine ⟨hnamed, i, hi, hlink, ?_⟩
    intro j hj
    apply hbefore j hj
    exact List.getElem?_eq_getElem (Nat.lt_trans hj hi)

theorem find_eq_none_iff : c.find? names = none ↔ NoneNamed c.links names := by
  simp only [find?, List.find?_eq_none, isNamed, List.contains_iff_mem, NoneNamed]

/-- The arguments of the first link with the name; absent if there is none. -/
inductive Arguments (links : List MethodCall) (name : String) : Option (List Tree) → Prop
  | found {i : Nat} {link : MethodCall} (h : FirstAt links [name] i link) :
      Arguments links name (some link.arguments)
  | absent (h : NoneNamed links [name]) : Arguments links name none

theorem argumentsOf_eq_iff {name : String} {arguments : Option (List Tree)} :
    c.argumentsOf? name = arguments ↔ Arguments c.links name arguments := by
  constructor
  · intro h
    rw [← h, argumentsOf?]
    cases hfind : c.find? [name] with
    | none => exact .absent (find_eq_none_iff.1 hfind)
    | some link =>
        obtain ⟨i, hfirst⟩ := find_eq_some_iff.1 hfind
        exact .found hfirst
  · intro h
    cases h with
    | found hfirst => rw [argumentsOf?, find_eq_some_iff.2 ⟨_, hfirst⟩, Option.map_some]
    | absent hnone => rw [argumentsOf?, find_eq_none_iff.2 hnone, Option.map_none]

/-! ### The object of a stub -/

/-- What stands behind the link at the index. -/
def behind? (links : List MethodCall) (i : Nat) : Option Tree :=
  links[i]?.bind (·.receiver)

/-- What stands behind the link at the index, or behind the next one if that is a mark for all
instances; the object itself if nothing stands there. -/
def objectAt (links : List MethodCall) (i : Nat) : Tree :=
  if links[i + 1]?.any (·.method = "any_instance") then (behind? links (i + 1)).getD .selfRef
  else (behind? links i).getD .selfRef

/-- The link after the one at an index is its receiver, if that is a call. -/
theorem getElem_succ_of_writtenAs {links : List MethodCall} (h : c.WrittenAs links) {i : Nat}
    (hlink : links[i]? = some link) : links[i + 1]? = link.receiver.bind Tree.methodCall? := by
  induction h generalizing i with
  | @last c hreceiver =>
      cases i with
      | zero =>
          cases hlink
          symm
          exact Option.bind_eq_none_iff.2 hreceiver
      | succ i => cases hlink
  | @link c next links hreceiver hnext ih =>
      cases i with
      | zero =>
          cases hlink
          rw [hreceiver, links_of_writtenAs hnext]
          rfl
      | succ i => exact ih hlink

theorem stubbedObject_eq {i : Nat} (hlink : c.links[i]? = some link) :
    link.stubbedObject = objectAt c.links i := by
  have hnext := getElem_succ_of_writtenAs (writtenAs_links c) hlink
  have hbehind : behind? c.links i = link.receiver := by
    rw [behind?, hlink, Option.bind_some]
  rw [objectAt, hbehind, behind?, hnext]
  unfold stubbedObject
  split
  · next receiver args hreceiver => simp [hreceiver, Tree.methodCall?]
  · next hmark =>
      cases hreceiver : link.receiver with
      | none => rfl
      | some t =>
          cases t with
          | call receiver method args =>
              have hmethod : method ≠ "any_instance" := by
                intro hmethod
                exact hmark receiver args (hmethod ▸ hreceiver)
              simp [Tree.methodCall?, hmethod]
          | _ => rfl

theorem stubsAnyInstance_iff :
    c.stubsAnyInstance = true ↔
      ∃ link ∈ c.links, "any_instance".toList <:+: link.method.toList := by
  simp only [stubsAnyInstance, List.any_eq_true, occursIn_iff]

/-! ### Meaning -/

/-- The methods of which the nearest one is the anchor. -/
def anchorNames : List String :=
  ["expects", "stubs"]

/-- The methods that set a limit on the number of calls for which there is no counterpart. -/
def limitNames : List String :=
  ["at_least", "at_least_once", "at_most", "at_most_once", "exactly"]

/-- What the parts of a stub say about a chain with the given outermost link and the anchor at the
given index. -/
structure Means (links : List MethodCall) (outermost : MethodCall) (i : Nat) (anchor : MethodCall)
    (s : Stub) : Prop where
  message : anchor.arguments.head? = some s.message
  receiver : s.receiver = objectAt links i
  anyInstance : s.anyInstance = true ↔
    ∃ link ∈ links, "any_instance".toList <:+: link.method.toList
  withArgs : Arguments links "with" s.withArgs
  returns : Arguments links "returns" s.returns
  raises : Arguments links "raises" s.raises
  count : s.count = outermostCount anchor.method outermost.method

/-- The stub that a chain means, or why it means none. -/
inductive Reads (links : List MethodCall) : Except Error Stub → Prop
  | unanchored {outermost : MethodCall} (houtermost : links[0]? = some outermost)
      (hanchor : NoneNamed links anchorNames) :
      Reads links (.error (.unknownStubShape (.noAnchor outermost.method)))
  | unnamed {i : Nat} {anchor : MethodCall} (hanchor : FirstAt links anchorNames i anchor)
      (hmessage : anchor.arguments = []) :
      Reads links (.error (.unknownStubShape (.noMessage anchor.method)))
  | limited {i j : Nat} {anchor limit : MethodCall}
      (hanchor : FirstAt links anchorNames i anchor) (hmessage : anchor.arguments ≠ [])
      (hlimit : FirstAt links limitNames j limit) :
      Reads links (.error (.unsupportedCallCount limit.method))
  | stub {i : Nat} {outermost anchor : MethodCall} {s : Stub}
      (houtermost : links[0]? = some outermost) (hanchor : FirstAt links anchorNames i anchor)
      (hlimit : NoneNamed links limitNames) (hparts : Means links outermost i anchor s) :
      Reads links (.ok s)

theorem means_stubAt {i : Nat} {anchor : MethodCall} {message : Tree} {rest : List Tree}
    (hanchor : FirstAt c.links anchorNames i anchor)
    (hmessage : anchor.arguments = message :: rest) :
    Means c.links c i anchor (c.stubAt anchor message) where
  message := by rw [hmessage]; rfl
  receiver := stubbedObject_eq hanchor.at_index
  anyInstance := stubsAnyInstance_iff
  withArgs := argumentsOf_eq_iff.1 rfl
  returns := argumentsOf_eq_iff.1 rfl
  raises := argumentsOf_eq_iff.1 rfl
  count := rfl

theorem stubAt_of_means {i : Nat} {anchor : MethodCall} {s : Stub}
    (hanchor : FirstAt c.links anchorNames i anchor) (h : Means c.links c i anchor s) :
    s = c.stubAt anchor s.message := by
  have hobject := stubbedObject_eq hanchor.at_index
  have hany : s.anyInstance = c.stubsAnyInstance := by
    rw [Bool.eq_iff_iff, stubsAnyInstance_iff, h.anyInstance]
  obtain ⟨receiver, anyInstance, message, withArgs, returns, raises, count⟩ := s
  simp only [stubAt, hobject, ← hany, argumentsOf_eq_iff.2 h.withArgs,
    argumentsOf_eq_iff.2 h.returns, argumentsOf_eq_iff.2 h.raises, Stub.mk.injEq, true_and]
  exact ⟨h.receiver, h.count⟩

theorem reads_toStub (c : MethodCall) : Reads c.links c.toStub := by
  cases hanchor : c.anchor? with
  | none =>
      rw [toStub_of_no_anchor hanchor]
      exact .unanchored rfl (find_eq_none_iff.1 hanchor)
  | some anchor =>
      obtain ⟨i, hfirst⟩ := find_eq_some_iff.1 hanchor
      rw [toStub_eq hanchor]
      cases hmessage : anchor.arguments with
      | nil => exact .unnamed hfirst hmessage
      | cons message rest =>
          dsimp only
          cases hlimit : c.find? unsupportedCounts with
          | some limit =>
              obtain ⟨j, hlimited⟩ := find_eq_some_iff.1 hlimit
              apply Reads.limited hfirst _ hlimited
              rw [hmessage]
              exact List.cons_ne_nil message rest
          | none =>
              exact .stub rfl hfirst (find_eq_none_iff.1 hlimit) (means_stubAt hfirst hmessage)

theorem toStub_of_reads {result : Except Error Stub} (h : Reads c.links result) :
    c.toStub = result := by
  cases h with
  | unanchored houtermost hanchor =>
      cases houtermost
      exact toStub_of_no_anchor (find_eq_none_iff.2 hanchor)
  | unnamed hanchor hmessage =>
      rw [toStub_eq (find_eq_some_iff.2 ⟨_, hanchor⟩), hmessage]
  | @limited i j anchor limit hanchor hmessage hlimit =>
      have hfound : c.find? unsupportedCounts = some limit := find_eq_some_iff.2 ⟨j, hlimit⟩
      obtain ⟨message, rest, hmessage⟩ := List.exists_cons_of_ne_nil hmessage
      rw [toStub_eq (find_eq_some_iff.2 ⟨i, hanchor⟩), hmessage, hfound]
  | @stub i outermost anchor s houtermost hanchor hlimit hparts =>
      cases houtermost
      have hunlimited : c.find? unsupportedCounts = none := find_eq_none_iff.2 hlimit
      obtain ⟨rest, hmessage⟩ := List.head?_eq_some_iff.1 hparts.message
      rw [toStub_eq (find_eq_some_iff.2 ⟨i, hanchor⟩), hmessage, hunlimited,
        stubAt_of_means hanchor hparts]
      rfl

/-- A call is written as links in exactly one way, and is read as the stub that these links mean,
or refused for the reason that they give. That the object cannot be found is never the reason. -/
theorem toStub_iff_reads (c : MethodCall) :
    ∃ links, c.WrittenAs links ∧ (∀ other, c.WrittenAs other → other = links) ∧
      (∀ result, c.toStub = result ↔ Reads links result) ∧
      ∀ method, c.toStub ≠ .error (.receiverNotFound method) := by
  refine ⟨c.links, writtenAs_links c, fun other h => links_of_writtenAs h, ?_, ?_⟩
  · intro result
    constructor
    · intro h
      rw [← h]
      exact reads_toStub c
    · intro h
      exact toStub_of_reads h
  · intro method h
    have hreads := reads_toStub c
    rw [h] at hreads
    cases hreads

end MethodCall
end Minispec
