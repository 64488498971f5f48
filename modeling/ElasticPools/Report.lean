import ElasticPools.PoolState
import ElasticPools.Provider
/-!
Reports: what one tick found and did, for each pool and altogether, and totals over many ticks.
-/
namespace ElasticPools

structure PoolReport (α : Type) where
  kind : Kind
  state : PoolState
  /-- Workers in the snapshot. -/
  size : Nat
  /-- The target after the tick, where targets are kept. -/
  target : Option Nat
  /-- The mean that the growth check used. -/
  utilization : Option α
  growth : Growth
  destroyed : Nat
  requested : Nat
deriving DecidableEq

structure Report (α : Type) where
  tick : Nat
  pools : List (PoolReport α)
  /-- One kind for each request that was accepted. -/
  requested : List Kind
  destroyed : List WorkerId
  forgotten : List Kind
  failures : List Refusal
deriving DecidableEq

namespace Report

variable {α : Type}

/-- A quiet tick made no call. -/
def isQuiet (r : Report α) : Bool :=
  r.requested.isEmpty && r.destroyed.isEmpty && r.failures.isEmpty

theorem isQuiet_iff {r : Report α} :
    r.isQuiet = true ↔ r.requested.length + r.destroyed.length + r.failures.length = 0 := by
  simp only [isQuiet, Bool.and_eq_true, List.isEmpty_iff, Nat.add_eq_zero_iff,
    List.length_eq_zero_iff]

/-- Accepted requests for one kind. -/
def requestedFor (r : Report α) (kind : Kind) : Nat := r.requested.count kind

def pool? (r : Report α) (kind : Kind) : Option (PoolReport α) := r.pools.find? (·.kind = kind)

end Report

/-- Sums over all ticks that were evaluated. -/
structure Totals where
  ticks : Nat
  requested : Nat
  destroyed : Nat
  failures : Nat
deriving DecidableEq, Repr

namespace Totals

def zero : Totals := ⟨0, 0, 0, 0⟩

def add {α : Type} (t : Totals) (r : Report α) : Totals where
  ticks := t.ticks + 1
  requested := t.requested + r.requested.length
  destroyed := t.destroyed + r.destroyed.length
  failures := t.failures + r.failures.length

end Totals

end ElasticPools
