import Minispec.Engine.Context

/-!
Rules: which nodes they claim and what they make of them.

What a rule makes of a node is a plan. A plan either gives the result, or names a tree to be
converted one level further down and goes on with its conversion. Every plan ends, and whoever
carries it out decides how the trees in between are converted.
-/

namespace Minispec

inductive Plan
  | finish (result : Except Error Tree)
  | descend (t : Tree) (next : Except Error Tree → Plan)

namespace Plan

/-- Carries out a plan, given how trees further down are converted. -/
def run {m : Type → Type} [Monad m] (convert : Tree → m (Except Error Tree)) :
    Plan → m (Except Error Tree)
  | .finish result => pure result
  | .descend t next => do (next (← convert t)).run convert

/-- Converts all trees in order; the first failure ends the plan. -/
def descendAll : List Tree → (List Tree → Plan) → Plan
  | [], next => next []
  | t :: ts, next =>
    .descend t fun
      | .ok u => descendAll ts fun us => next (u :: us)
      | .error e => .finish (.error e)

end Plan

structure Rule where
  name : String
  description : String
  /-- Of the rules that claim a node, the one with the highest priority gets it. -/
  priority : Nat := 100
  claims : Context → Tree → Bool
  plan : Context → Tree → Plan

/-- Installs a rule behind those of the same or a higher priority. -/
def Rule.insertByPriority (rule : Rule) : List Rule → List Rule
  | [] => [rule]
  | other :: rest =>
    if other.priority < rule.priority then rule :: other :: rest
    else other :: rule.insertByPriority rest

end Minispec
