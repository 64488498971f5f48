import ElasticPools.Quantity
import ElasticPools.Worker
/-!
Utilization of workers and of pools, as fractions between zero and one.
-/
namespace ElasticPools.Utilization

variable {α : Type} [Quantity α]

/-- Brings a reading into the unit interval. What is not a number counts as idle. -/
def sanitize (reading : α) : α :=
  if Quantity.isFinite reading then
    if reading < (0.0 : α) then 0.0
    else if (1.0 : α) < reading then 1.0
    else reading
  else 0.0

/-- The mean over every worker of a pool, busy or idle. -/
def mean? (reading : Worker → α) (pool : List Worker) : Option α :=
  Quantity.mean? (pool.map fun w => sanitize (reading w))

theorem mean?_eq_none_iff {reading : Worker → α} {pool : List Worker} :
    mean? reading pool = none ↔ pool = [] := by
  simp [mean?, Quantity.mean?_eq_none_iff]

end ElasticPools.Utilization
