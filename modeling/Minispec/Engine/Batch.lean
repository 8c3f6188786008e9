import Minispec.Engine

/-!
Batches: several named trees converted one after the other. A failure concerns its own tree
only, and is reported in the summary.
-/

namespace Minispec

structure Summary where
  converted : Nat := 0
  errors : List String := []
deriving DecidableEq

namespace Summary

def success (s : Summary) : Bool :=
  s.errors.isEmpty

/-- Joins the summaries of two batches, one after the other. -/
def merge (s t : Summary) : Summary :=
  { converted := s.converted + t.converted, errors := s.errors ++ t.errors }

/-- Adds the outcome for one input. -/
def add (s : Summary) (name : String) : Except Error Tree → Summary
  | .ok _ => { s with converted := s.converted + 1 }
  | .error e =>
    { s with errors := s.errors ++ ["Error converting " ++ name ++ ": " ++ e.message] }

end Summary

structure Batch where
  outputs : List (String × Except Error Tree)
  summary : Summary

namespace Batch

def ofOutputs (outputs : List (String × Except Error Tree)) : Batch :=
  { outputs, summary := outputs.foldl (fun s (name, result) => s.add name result) {} }

end Batch

/-- The results for all inputs, in their order. -/
def Engine.transformEach (e : Engine) (options : Options) :
    List (String × Tree) → List (String × Except Error Tree) × Engine
  | [] => ([], e)
  | (name, t) :: inputs =>
    let (result, e) := e.transform { options, sourceName := some name } t
    let (results, e) := e.transformEach options inputs
    ((name, result) :: results, e)

def Engine.transformBatch (e : Engine) (options : Options) (inputs : List (String × Tree)) :
    Batch × Engine :=
  let (outputs, e) := e.transformEach options inputs
  (.ofOutputs outputs, e)

end Minispec
