import Minispec.Proofs.RuleLog

/-!
Batches. All inputs of a batch go through one engine, whose ledger grows from input to input and
from batch to batch; no result depends on it. So two batches one after the other give what the
joined batch gives, and each input gives what it would give to a converter of its own.
-/

namespace Minispec

/-! ### Summaries -/

/-- The line in a summary about an output that failed. -/
def errorText? : String × Except Error Tree → Option String
  | (_, .ok _) => none
  | (name, .error e) => some ("Error converting " ++ name ++ ": " ++ e.message)

theorem errorText_eq_none_iff {output : String × Except Error Tree} :
    errorText? output = none ↔ ∃ u, output.2 = .ok u := by
  obtain ⟨name, result⟩ := output
  cases result with
  | ok u => exact ⟨fun _ => ⟨u, rfl⟩, fun _ => rfl⟩
  | error e => exact ⟨nofun, nofun⟩

theorem isSome_errorText (output : String × Except Error Tree) :
    (errorText? output).isSome = !output.2.isOk := by
  obtain ⟨name, result⟩ := output
  cases result <;> rfl

namespace Batch

theorem foldl_add (outputs : List (String × Except Error Tree)) (s : Summary) :
    outputs.foldl (fun s (name, result) => s.add name result) s =
      { converted := s.converted + outputs.countP (·.2.isOk)
        errors := s.errors ++ outputs.filterMap errorText? } := by
  induction outputs generalizing s with
  | nil => rw [List.filterMap_nil, List.append_nil, List.countP_nil, Nat.add_zero]; rfl
  | cons output outputs ih =>
      obtain ⟨name, result⟩ := output
      rw [List.foldl_cons, ih]
      cases result with
      | ok u =>
          rw [List.countP_cons_of_pos rfl, List.filterMap_cons_none rfl]
          refine congrArg (Summary.mk · _) ?_
          change s.converted + 1 + _ = _
          omega
      | error e =>
          have htext : errorText? (name, .error e) =
              some ("Error converting " ++ name ++ ": " ++ e.message) := rfl
          rw [List.countP_cons_of_neg Bool.false_ne_true, List.filterMap_cons_some htext]
          exact congrArg (Summary.mk _) (List.append_assoc _ _ _)

theorem summary_ofOutputs (outputs : List (String × Except Error Tree)) :
    (ofOutputs outputs).summary =
      { converted := outputs.countP (·.2.isOk), errors := outputs.filterMap errorText? } := by
  rw [ofOutputs, foldl_add, Nat.zero_add, List.nil_append]

theorem summary_append (outputs more : List (String × Except Error Tree)) :
    (ofOutputs (outputs ++ more)).summary =
      (ofOutputs outputs).summary.merge (ofOutputs more).summary := by
  rw [summary_ofOutputs, summary_ofOutputs, summary_ofOutputs, List.countP_append,
    List.filterMap_append]
  rfl

theorem converted_add_errors (outputs : List (String × Except Error Tree)) :
    (ofOutputs outputs).summary.converted + (ofOutputs outputs).summary.errors.length =
      outputs.length := by
  have hfailed : outputs.countP (fun output => (errorText? output).isSome) =
      outputs.countP (fun output => ¬ output.2.isOk) := by
    refine List.countP_congr fun output _ => ?_
    rw [isSome_errorText, Bool.not_eq_true', decide_eq_true_iff, Bool.not_eq_true]
  rw [summary_ofOutputs, List.length_filterMap_eq_countP, hfailed]
  exact (List.length_eq_countP_add_countP _).symm

theorem success_iff (outputs : List (String × Except Error Tree)) :
    (ofOutputs outputs).summary.success = true ↔ ∀ output ∈ outputs, ∃ u, output.2 = .ok u := by
  rw [summary_ofOutputs, Summary.success, List.isEmpty_iff, List.filterMap_eq_nil_iff]
  simp only [errorText_eq_none_iff]

end Batch

/-! ### One batch after another -/

namespace Engine
variable {e : Engine}

theorem rules_transformEach (e : Engine) (options : Options) (inputs : List (String × Tree)) :
    (e.transformEach options inputs).2.rules = e.rules := by
  induction inputs generalizing e with
  | nil => rfl
  | cons input inputs ih => exact ih _

theorem transformEach_cons (e : Engine) (options : Options) (input : String × Tree)
    (inputs : List (String × Tree)) :
    e.transformEach options (input :: inputs) =
      let run := e.transform { options, sourceName := some input.1 } input.2
      ((input.1, run.1) :: (run.2.transformEach options inputs).1,
        (run.2.transformEach options inputs).2) := rfl

theorem transformEach_append (e : Engine) (options : Options) (xs ys : List (String × Tree)) :
    e.transformEach options (xs ++ ys) =
      ((e.transformEach options xs).1 ++
          ((e.transformEach options xs).2.transformEach options ys).1,
        ((e.transformEach options xs).2.transformEach options ys).2) := by
  induction xs generalizing e with
  | nil => rfl
  | cons input xs ih =>
      have hrest := ih (e.transform { options, sourceName := some input.1 } input.2).2
      simp only [List.cons_append, transformEach_cons, hrest]

/-- Every input gives what it gives alone, whatever is in the ledger. -/
theorem transformEach_outputs (h : e.rules = Engine.spec.rules) (options : Options)
    (inputs : List (String × Tree)) :
    (e.transformEach options inputs).1 =
      inputs.map fun input => (input.1, process options input.2) := by
  induction inputs generalizing e with
  | nil => rfl
  | cons input inputs ih =>
      have hresult : (e.transform { options, sourceName := some input.1 } input.2).1 =
          process options input.2 := by
        rw [transform_eq h, process_eq_converted]
        rfl
      have hrest := ih (e := (e.transform { options, sourceName := some input.1 } input.2).2) h
      simp only [transformEach_cons, hresult, hrest, List.map_cons]

end Engine

/-! ### Converters -/

namespace Converter

/-- What can be done with a converter. -/
inductive Step
  | convert (source : String)
  | convertJson (source : String)
  | process (t : Tree)
  | processBatch (inputs : List (String × Tree))

def perform (c : Converter) : Step → Converter
  | .convert source => (c.convert source).2
  | .convertJson source => (c.convertJson source).2
  | .process t => (c.process t).2
  | .processBatch inputs => (c.processBatch inputs).2

/-- A converter after all that was done with it. -/
def after (options : Options) (history : List Step) : Converter :=
  history.foldl perform (new options)

/-- The options and the rules are those that the converter was made with. -/
def Intact (options : Options) (c : Converter) : Prop :=
  c.options = options ∧ c.engine.rules = Engine.spec.rules

theorem Intact.perform {options : Options} {c : Converter} (h : c.Intact options) (step : Step) :
    (c.perform step).Intact options := by
  cases step with
  | convert source =>
      rw [Converter.perform, Converter.convert]
      split
      · exact h
      · exact h
  | convertJson source =>
      rw [Converter.perform, Converter.convertJson]
      split
      · exact h
      · exact h
  | process t => exact h
  | processBatch inputs =>
      refine ⟨h.1, ?_⟩
      exact (Engine.rules_transformEach c.engine c.options inputs).trans h.2

theorem intact_after (options : Options) (history : List Step) :
    (after options history).Intact options := by
  have hrun (c : Converter) (h : c.Intact options) : (history.foldl perform c).Intact options := by
    induction history generalizing c with
    | nil => exact h
    | cons step history ih => exact ih _ (h.perform step)
  exact hrun (new options) ⟨rfl, rfl⟩

end Converter

/-- Whatever a converter has converted before, a batch treats each input by itself. Joining two
batches gives the outputs of both, one after the other, and leaves the converter as the two
batches do; each input keeps its name and its place and gets the result that it gets alone; and
the summary says how many were converted and why the others were not. -/
theorem processBatch_isolates (options : Options) (history : List Converter.Step)
    (xs ys : List (String × Tree)) :
    let c := Converter.after options history
    let first := c.processBatch xs
    let second := first.2.processBatch ys
    let joined := c.processBatch (xs ++ ys)
    joined.1.outputs = first.1.outputs ++ second.1.outputs ∧
      joined.1.summary = first.1.summary.merge second.1.summary ∧
      joined.2 = second.2 ∧
      first.1.outputs = xs.map (fun input => (input.1, process options input.2)) ∧
      first.1.summary.converted + first.1.summary.errors.length = xs.length ∧
      first.1.summary.errors =
        xs.filterMap (fun input => errorText? (input.1, process options input.2)) ∧
      (first.1.summary.success = true ↔ ∀ input ∈ xs, ∃ u, process options input.2 = .ok u) := by
  intro c first second joined
  obtain ⟨hoptions, hrules⟩ : c.Intact options := Converter.intact_after options history
  have hjoined := c.engine.transformEach_append c.options xs ys
  have houtputs : first.1.outputs = xs.map fun input => (input.1, process options input.2) := by
    rw [← hoptions]
    exact Engine.transformEach_outputs hrules c.options xs
  have hfirst : first.1 = .ofOutputs first.1.outputs := rfl
  have htogether : joined.1.outputs = first.1.outputs ++ second.1.outputs :=
    congrArg Prod.fst hjoined
  refine ⟨htogether, ?_, ?_, houtputs, ?_, ?_, ?_⟩
  · calc joined.1.summary
        = (Batch.ofOutputs joined.1.outputs).summary := rfl
      _ = (Batch.ofOutputs (first.1.outputs ++ second.1.outputs)).summary := by rw [htogether]
      _ = first.1.summary.merge second.1.summary := Batch.summary_append _ _
  · exact congrArg (fun run => { c with engine := run.2 }) hjoined
  · rw [hfirst, Batch.converted_add_errors, houtputs, List.length_map]
  · rw [hfirst, Batch.summary_ofOutputs, houtputs]
    exact List.filterMap_map ..
  · rw [hfirst, Batch.success_iff, houtputs]
    exact List.forall_mem_map

end Minispec
