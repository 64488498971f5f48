import ElasticPools.Report
/-!
Metrics: counters and gauges with one series per label, fed from reports. Counters wrap at 64 bits;
gauges hold signed 64-bit numbers.
-/
namespace ElasticPools

/-- The two sorts of calls that can be refused. -/
inductive Operation where
  | request
  | destroy
deriving DecidableEq, Repr

def Refusal.operation : Refusal → Operation
  | .request .. => .request
  | .destruction .. => .destroy

structure Metrics where
  requested : Std.ExtTreeMap Kind Nat
  destroyed : Std.ExtTreeMap Kind Nat
  poolSize : Std.ExtTreeMap Kind Int
  poolTarget : Std.ExtTreeMap Kind Int
  refusedRequests : Option Nat
  refusedDestructions : Option Nat

namespace Metrics

variable {α : Type}

def empty : Metrics := ⟨∅, ∅, ∅, ∅, none, none⟩

/-- One past the greatest value of a counter. -/
def counterRange : Nat := 0x10000000000000000

def count (n : Nat) (increment : Nat) : Nat := (n + increment) % counterRange

/-- A size as a signed number of 64 bits. -/
def gauge (size : Nat) : Int := (size : Int).bmod counterRange

/-- Adds to the counter of a kind. Adding nothing still starts the series. -/
def bump (series : Std.ExtTreeMap Kind Nat) (kind : Kind) (increment : Nat) :
    Std.ExtTreeMap Kind Nat :=
  series.insert kind (count (series.getD kind 0) increment)

def recordPool (m : Metrics) (r : PoolReport α) : Metrics :=
  { m with
    requested := bump m.requested r.kind r.requested
    destroyed := bump m.destroyed r.kind r.destroyed
    poolSize := m.poolSize.insert r.kind (gauge r.size)
    poolTarget := match r.target with
      | none => m.poolTarget
      | some target => m.poolTarget.insert r.kind (gauge target) }

/-- Drops the gauges of a forgotten kind, unless it is registered again. -/
def dropGauges (registered : Kind → Bool) (m : Metrics) (kind : Kind) : Metrics :=
  if registered kind then m
  else { m with poolSize := m.poolSize.erase kind, poolTarget := m.poolTarget.erase kind }

def recordRefusal (m : Metrics) (operation : Operation) : Metrics :=
  match operation with
  | .request => { m with refusedRequests := count (m.refusedRequests.getD 0) 1 }
  | .destroy => { m with refusedDestructions := count (m.refusedDestructions.getD 0) 1 }

/-- Folds a report into the metrics; `registered` says which kinds the registry knows after the
tick. -/
def record (m : Metrics) (r : Report α) (registered : Kind → Bool) : Metrics :=
  let m := r.pools.foldl recordPool m
  let m := r.forgotten.foldl (dropGauges registered) m
  (r.failures.map Refusal.operation).foldl recordRefusal m

end Metrics

end ElasticPools
