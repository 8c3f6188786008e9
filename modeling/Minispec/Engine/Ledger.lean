import Minispec.Decimal.Shortest
import Minispec.Error

/-!
The ledger of an engine: for each rule, by name, how often it was applied and with what outcome,
in the order in which the rules were first entered.
-/

namespace Minispec

structure RuleStats where
  ruleName : String
  applications : Nat := 0
  transformations : Nat := 0
  errors : Nat := 0
  totalTimeMs : Nat := 0
deriving DecidableEq

namespace RuleStats

/-- A quotient per application; zero if there was none. -/
def perApplication (s : RuleStats) (n : Nat) : Binary64 :=
  if s.applications = 0 then .zero false else (Binary64.ofNat n).div (.ofNat s.applications)

def successRate (s : RuleStats) : Binary64 :=
  s.perApplication s.transformations

def averageTimeMs (s : RuleStats) : Binary64 :=
  s.perApplication s.totalTimeMs

/-- Counts one application with its outcome. -/
def count {α : Type} (s : RuleStats) (result : Except Error α) : RuleStats :=
  match result with
  | .ok _ =>
    { s with applications := s.applications + 1, transformations := s.transformations + 1 }
  | .error _ => { s with applications := s.applications + 1, errors := s.errors + 1 }

end RuleStats

structure Ledger where
  entries : List (String × RuleStats) := []
deriving DecidableEq

namespace Ledger

def get? (l : Ledger) (name : String) : Option RuleStats :=
  l.entries.lookup name

/-- Replaces an entry where it stands, or adds one at the end. -/
def putEntry (name : String) (s : RuleStats) :
    List (String × RuleStats) → List (String × RuleStats)
  | [] => [(name, s)]
  | (other, t) :: rest =>
    if other = name then (name, s) :: rest else (other, t) :: putEntry name s rest

def put (l : Ledger) (name : String) (s : RuleStats) : Ledger :=
  ⟨putEntry name s l.entries⟩

/-- Enters a rule, or sets its counts back. -/
def enter (l : Ledger) (name : String) : Ledger :=
  l.put name { ruleName := name }

/-- Counts one application of a rule. -/
def record {α : Type} (l : Ledger) (name : String) (result : Except Error α) : Ledger :=
  l.put name (((l.get? name).getD { ruleName := name }).count result)

/-- Sets all counts back. -/
def clear (l : Ledger) : Ledger :=
  ⟨l.entries.map fun (name, s) => (name, { ruleName := s.ruleName })⟩

def stats (l : Ledger) : List RuleStats :=
  l.entries.map (·.2)

end Ledger
end Minispec
