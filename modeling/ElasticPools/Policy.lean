import ElasticPools.PoolState
import ElasticPools.Utilization
import ElasticPools.Violation
/-!
Policies: the constants that decide when pools shrink and grow, the two built-in profiles, and the
rules that a policy must keep.
-/
namespace ElasticPools

inductive Profile where
  /-- One worker per new kind, no targets, and no growth on a tick that destroyed a worker. -/
  | simple
  /-- New kinds start with a burst, and a target follows the load of each kind. -/
  | poolTracking
deriving DecidableEq, Repr

namespace Profile

def name : Profile → String
  | simple => "simple"
  | poolTracking => "pool_tracking"

def ofName? (text : String) : Option Profile := [simple, poolTracking].find? (·.name == text)

theorem ofName?_name (p : Profile) : ofName? p.name = some p := by
  cases p <;> rfl

end Profile

structure Policy (α : Type) where
  profile : Profile
  /-- Whether pools have targets. -/
  tracking : Bool
  /-- The first target of a kind, and the size of its first burst. -/
  seedSize : Nat
  /-- Idle workers below this utilization qualify for destruction. -/
  minimum : α
  /-- A pool above this mean gets one more worker. -/
  low : α
  /-- A pool above this mean gets one more worker and a higher target. -/
  high : α
  singletonGrace : Nat
  atTargetGrace : Nat
  generalGrace : Nat
  /-- No growth for a kind on a tick that destroyed one of its workers. -/
  skipGrowthAfterLoss : Bool

namespace Policy

variable {α : Type} [Quantity α]

def ofProfile : Profile → Policy α
  | .simple => ⟨.simple, false, 1, 0.1, 0.7, 0.8, 30, 10, 2, true⟩
  | .poolTracking => ⟨.poolTracking, true, 3, 0.1, 0.65, 0.8, 30, 10, 2, false⟩

def greatestSeedSize : Nat := 1000

def inUnitInterval (x : α) : Bool := (0.0 : α) ≤ x && x ≤ (1.0 : α)

/-- The first rule that a policy breaks. -/
def violation? (p : Policy α) : Option (Violation α) :=
  if !inUnitInterval p.minimum then some (.threshold .minimum p.minimum)
  else if !inUnitInterval p.low then some (.threshold .low p.low)
  else if !inUnitInterval p.high then some (.threshold .high p.high)
  else if p.low ≤ p.minimum then some (.minimumNotBelowLow p.minimum p.low)
  else if p.high < p.low then some (.lowAboveHigh p.low p.high)
  else if p.singletonGrace = 0 then some (.zeroGrace .singleton)
  else if p.atTargetGrace = 0 then some (.zeroGrace .atTarget)
  else if p.generalGrace = 0 then some (.zeroGrace .general)
  else if p.seedSize = 0 ∨ greatestSeedSize < p.seedSize then some (.seedSize p.seedSize)
  else none

/-- A policy that breaks no rule. -/
def Sound (p : Policy α) : Prop := p.violation? = none

/-- A check that passed, and those after it. -/
theorem of_ite_eq_none {β : Type} {broken : Prop} [Decidable broken] {violation : β}
    {others : Option β} (passed : (if broken then some violation else others) = none) :
    ¬ broken ∧ others = none := by
  split at passed
  · cases passed
  · next kept => exact ⟨kept, passed⟩

/-- The thresholds of a sound policy are fractions, in ascending order. -/
theorem Sound.thresholds {p : Policy α} (sound : p.Sound) :
    inUnitInterval p.minimum = true ∧ inUnitInterval p.low = true ∧ inUnitInterval p.high = true ∧
      ¬ p.low ≤ p.minimum ∧ ¬ p.high < p.low := by
  unfold Sound violation? at sound
  obtain ⟨minimum, sound⟩ := of_ite_eq_none sound
  obtain ⟨low, sound⟩ := of_ite_eq_none sound
  obtain ⟨high, sound⟩ := of_ite_eq_none sound
  obtain ⟨apart, sound⟩ := of_ite_eq_none sound
  obtain ⟨ordered, _⟩ := of_ite_eq_none sound
  simp only [Bool.not_eq_true', Bool.not_eq_false] at minimum low high
  exact ⟨minimum, low, high, apart, ordered⟩

/-- In a sound policy every wait takes at least one tick, and every burst has a worker. -/
theorem Sound.constants_pos {p : Policy α} (sound : p.Sound) :
    0 < p.singletonGrace ∧ 0 < p.atTargetGrace ∧ 0 < p.generalGrace ∧ 0 < p.seedSize := by
  unfold Sound violation? at sound
  obtain ⟨_, sound⟩ := of_ite_eq_none sound
  obtain ⟨_, sound⟩ := of_ite_eq_none sound
  obtain ⟨_, sound⟩ := of_ite_eq_none sound
  obtain ⟨_, sound⟩ := of_ite_eq_none sound
  obtain ⟨_, sound⟩ := of_ite_eq_none sound
  obtain ⟨singleton, sound⟩ := of_ite_eq_none sound
  obtain ⟨atTarget, sound⟩ := of_ite_eq_none sound
  obtain ⟨general, sound⟩ := of_ite_eq_none sound
  obtain ⟨seed, _⟩ := of_ite_eq_none sound
  exact ⟨Nat.pos_of_ne_zero singleton, Nat.pos_of_ne_zero atTarget, Nat.pos_of_ne_zero general,
    Nat.pos_of_ne_zero fun none => seed (Or.inl none)⟩

/-- Whether a worker counts towards its destruction on a tick that finds its pool in `state`. The
last worker of a kind qualifies by being idle, the others must be little used as well. -/
def qualifies (p : Policy α) (reading : Worker → α) (state : PoolState) (w : Worker) : Bool :=
  match state with
  | .seeding | .empty => false
  | .singleton => !w.busy
  | .atTarget | .general => !w.busy && Utilization.sanitize (reading w) < p.minimum

/-- For how many ticks in a row a worker must qualify before it is destroyed. -/
def grace (p : Policy α) : PoolState → Nat
  | .singleton => p.singletonGrace
  | .atTarget => p.atTargetGrace
  | .seeding | .empty | .general => p.generalGrace

/-- What a mean utilization calls for. -/
def growth (p : Policy α) (mean : α) : Growth :=
  if p.tracking && p.high < mean then .durable
  else if p.low < mean then .transient
  else .hold

end Policy

end ElasticPools
