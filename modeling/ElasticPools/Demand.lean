import ElasticPools.Identifier
import ElasticPools.Quantity
/-!
Demand: the load of a kind over time, in fully busy workers, as phases that each last until the next
one starts.
-/
namespace ElasticPools

structure Phase (α : Type) where
  start : Nat
  load : α
deriving DecidableEq

/-- A kind that is known from the beginning, with its demand. -/
structure KindPlan (α : Type) where
  kind : Kind
  initialWorkers : Nat
  phases : List (Phase α)
deriving DecidableEq

namespace KindPlan

variable {α : Type} [Quantity α]

/-- The load at a tick, zero before the first phase. Phases stand in the order of their starts. -/
def loadAt (plan : KindPlan α) (tick : Nat) : α :=
  match (plan.phases.takeWhile (·.start ≤ tick)).getLast? with
  | none => 0.0
  | some phase => phase.load

end KindPlan

end ElasticPools
