import Minispec.Proofs.DirectConversion

/-!
What a chain of calls says as a stub, in one equation: once an anchor is found, only a missing
message and an unsupported limit can go wrong, and every part of the stub is named by the link
it comes from. Writing such a stub for rspec-mocks never fails.
-/

namespace Minispec

namespace MethodCall

/-! ### Chains -/

theorem links_none (method : String) (args : List Tree) :
    links ⟨none, method, args⟩ = [⟨none, method, args⟩] := rfl

theorem links_call (receiver : Option Tree) (inner : String) (innerArgs : List Tree)
    (method : String) (args : List Tree) :
    links ⟨some (.call receiver inner innerArgs), method, args⟩ =
      ⟨some (.call receiver inner innerArgs), method, args⟩ ::
        links ⟨receiver, inner, innerArgs⟩ := by
  cases receiver <;> rfl

theorem links_of_not_call {receiver : Tree} (h : receiver.methodCall? = none) (method : String)
    (args : List Tree) :
    links ⟨some receiver, method, args⟩ = [⟨some receiver, method, args⟩] := by
  cases receiver with
  | call _ _ _ => cases h
  | _ => rfl

/-! ### Reading a stub -/

/-- What the outermost method of a chain says about the number of calls. -/
def outermostCount (anchor method : String) : Option Int64 :=
  match method with
  | "expects" => some (-1)
  | "once" => some 1
  | "never" => some 0
  | "twice" => some 2
  | "returns" => if anchor = "expects" then some (-1) else none
  | _ => none

/-- The stub that a chain with the given anchor and message stands for. -/
def stubAt (c anchor : MethodCall) (message : Tree) : Stub where
  receiver := anchor.stubbedObject
  anyInstance := c.stubsAnyInstance
  message
  withArgs := c.argumentsOf? "with"
  returns := c.argumentsOf? "returns"
  raises := c.argumentsOf? "raises"
  count := outermostCount anchor.method c.method

variable {c anchor : MethodCall}

theorem statedCount_eq (h : c.anchor? = some anchor) :
    c.statedCount = .ok (outermostCount anchor.method c.method) := by
  simp only [statedCount, outermostCount, Stub.expectedByDefault, h]
  generalize c.method = method
  split <;> simp_all

theorem toStub_eq (h : c.anchor? = some anchor) :
    c.toStub =
      match anchor.arguments with
      | [] => .error (.unknownStubShape (.noMessage anchor.method))
      | message :: _ =>
        match c.find? unsupportedCounts with
        | some link => .error (.unsupportedCallCount link.method)
        | none => .ok (c.stubAt anchor message) := by
  simp only [toStub, stubMessage, stubReceiver, stubCount, h, statedCount_eq h]
  cases anchor.arguments with
  | nil => rfl
  | cons message rest => cases c.find? unsupportedCounts <;> rfl

theorem exists_anchor (h : c.isMochaStub = true) : ∃ anchor, c.anchor? = some anchor := by
  simp only [isMochaStub, Bool.and_eq_true] at h
  exact Option.isSome_iff_exists.1 h.2

/-- No link of the chain sets a limit that cannot be expressed. -/
theorem find_unsupported_eq_none_iff :
    c.find? unsupportedCounts = none ↔ ∀ link ∈ c.links, link.method ∉ unsupportedCounts := by
  simp only [find?, List.find?_eq_none, isNamed, List.contains_iff_mem]

end MethodCall

/-! ### Writing a stub -/

namespace Stub

/-- The statement for rspec-mocks, given the link that states the count. -/
def statement (s : Stub) (count : Option String) : Tree :=
  .call (some (.call none s.verb [s.receiver])) "to" [s.expectation count]

theorem toRspec_ok_iff {s : Stub} {u : Tree} :
    s.toRspec = .ok u ↔ ∃ count, s.countLink? = .ok count ∧ u = s.statement count := by
  rw [toRspec, bind_ok_iff]
  constructor
  · intro h
    obtain ⟨count, hcount, ⟨⟩⟩ := h
    exact ⟨count, hcount, rfl⟩
  · intro h
    obtain ⟨count, hcount, rfl⟩ := h
    exact ⟨count, hcount, rfl⟩

theorem exists_countLink {s : Stub}
    (h : s.count ∈ [none, some (-1), some 0, some 1, some 2]) :
    ∃ count, s.countLink? = .ok count := by
  simp only [List.mem_cons, List.not_mem_nil, or_false] at h
  obtain h | h | h | h | h := h <;> rw [countLink?, h] <;> exact ⟨_, rfl⟩

/-- The counts that a chain can state are those that can be written. -/
theorem countLink_of_outermostCount {s : Stub} {anchor method : String}
    (h : s.count = MethodCall.outermostCount anchor method) :
    ∃ count, s.countLink? = .ok count := by
  refine exists_countLink ?_
  rw [h]
  unfold MethodCall.outermostCount
  split
  case h_5 => split <;> decide
  all_goals decide

theorem exists_toRspec_stubAt (c anchor : MethodCall) (message : Tree) :
    ∃ u, (c.stubAt anchor message).toRspec = .ok u := by
  have hcount : (c.stubAt anchor message).count =
      MethodCall.outermostCount anchor.method c.method := rfl
  obtain ⟨count, hlink⟩ := countLink_of_outermostCount hcount
  exact ⟨_, toRspec_ok_iff.2 ⟨count, hlink, rfl⟩⟩

theorem countLink_mem {s : Stub} {count : Option String} (h : s.countLink? = .ok count) :
    ∀ link ∈ count, link ∈ ["never", "once", "twice"] := by
  unfold countLink? at h
  split at h
  · cases h
    decide
  · split_ifs at h <;> cases h <;> decide

end Stub

/-! ### The rule for stubs -/

namespace MochaStub

theorem convert_eq {t : Tree} {c : MethodCall} (h : t.methodCall? = some c) :
    convert t = c.toStub >>= Stub.toRspec := by
  simp only [convert, MethodCall.ofTree, h]
  rfl

/-- A converted stub is the statement of what the chain says. -/
theorem convert_ok {t u : Tree} {c : MethodCall} (hc : t.methodCall? = some c)
    (h : convert t = .ok u) :
    ∃ s count, c.toStub = .ok s ∧ s.countLink? = .ok count ∧ u = s.statement count := by
  rw [convert_eq hc] at h
  obtain ⟨s, hs, hu⟩ := bind_ok_iff.1 h
  obtain ⟨count, hcount, rfl⟩ := Stub.toRspec_ok_iff.1 hu
  exact ⟨s, count, hs, hcount, rfl⟩

end MochaStub
end Minispec
