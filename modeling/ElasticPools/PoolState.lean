/-!
The state of a pool within one tick. No mode outlives a tick: the state is read off the size of the
pool and its target, and selects the rule by which the pool may shrink.
-/
namespace ElasticPools

inductive PoolState where
  /-- First sighting: the target is set and a burst of workers requested. -/
  | seeding
  | empty
  /-- One worker, under the protection of the longest grace. -/
  | singleton
  /-- As many workers as the target says. -/
  | atTarget
  | general
deriving DecidableEq, Repr

/-- What the growth check of a pool came to. -/
inductive Growth where
  /-- Above the high threshold: one more worker, and a higher target. -/
  | durable
  /-- Above the low threshold: one more worker, the target stays. -/
  | transient
  | hold
  /-- The check did not run. -/
  | skipped
deriving DecidableEq, Repr

namespace PoolState

def name : PoolState → String
  | seeding => "Seeding"
  | empty => "Empty"
  | singleton => "Singleton"
  | atTarget => "AtTarget"
  | general => "General"

/-- The state of a pool of `size` workers. Without a target no pool is at its target. -/
def classify (size : Nat) (target : Option Nat) : PoolState :=
  match size with
  | 0 => empty
  | 1 => singleton
  | n => if target = some n then atTarget else general

theorem classify_none_ne_atTarget (size : Nat) : classify size none ≠ atTarget := by
  match size with
  | 0 | 1 => exact nofun
  | _ + 2 => exact nofun

/-- A pool grows only when it has workers whose load can be read. -/
def evaluatesGrowth : PoolState → Bool
  | seeding | empty => false
  | singleton | atTarget | general => true

def all : List PoolState := [seeding, empty, singleton, atTarget, general]

def ofName? (text : String) : Option PoolState := all.find? (·.name == text)

theorem ofName?_name (s : PoolState) : ofName? s.name = some s := by
  cases s <;> rfl

end PoolState

namespace Growth

def name : Growth → String
  | durable => "Durable"
  | transient => "Transient"
  | hold => "Hold"
  | skipped => "Skipped"

def all : List Growth := [durable, transient, hold, skipped]

def ofName? (text : String) : Option Growth := all.find? (·.name == text)

theorem ofName?_name (g : Growth) : ofName? g.name = some g := by
  cases g <;> rfl

end Growth

end ElasticPools
