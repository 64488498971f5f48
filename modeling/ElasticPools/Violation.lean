import ElasticPools.Identifier
import ElasticPools.Decimal.Text
/-!
The rules that a policy or a configuration can break. Every violation keeps what broke the rule;
its wording is derived.
-/
namespace ElasticPools

/-- The three utilizations that decisions compare with. -/
inductive Threshold where
  | minimum
  | low
  | high
deriving DecidableEq, Repr

def Threshold.field : Threshold → String
  | minimum => "min_utilization"
  | low => "low_threshold"
  | high => "high_threshold"

/-- The three waiting times before a destruction. -/
inductive Grace where
  | singleton
  | atTarget
  | general
deriving DecidableEq, Repr

def Grace.field : Grace → String
  | singleton => "singleton_grace"
  | atTarget => "at_target_grace"
  | general => "generic_grace"

inductive Violation (α : Type) where
  | identifier (rejection : Identifier.Rejection)
  | threshold (which : Threshold) (value : α)
  | minimumNotBelowLow (minimum low : α)
  | lowAboveHigh (low high : α)
  | zeroGrace (which : Grace)
  | seedSize (size : Nat)
  | zeroTickPeriod
  /-- A load of the kind at a position in the list of kinds. -/
  | load (position : Nat) (value : α)
  /-- A phase of demand that starts no later than the one before it. -/
  | phaseOrder (position : Nat) (start : Nat)
  | duplicateKind (kind : Kind)
deriving DecidableEq

namespace Identifier

def Role.field : Role → String
  | kind => "kind"
  | worker => "worker_id"

end Identifier

namespace Violation

def fieldMessage (field value reason : String) : String :=
  s!"Invalid field value: {field} = {value} - {reason}"

def ofRejection (r : Identifier.Rejection) : String :=
  fieldMessage r.role.field r.text r.fault.reason

def number (x : Float) : String := Decimal.Style.sentence.write x

def message : Violation Float → String
  | identifier r => ofRejection r
  | threshold which x =>
    s!"Threshold out of range: {which.field} = {number x} (must be within 0.0..=1.0)"
  | minimumNotBelowLow x low =>
    fieldMessage Threshold.minimum.field (number x)
      s!"Must be below low_threshold ({number low}) or pools would grow and shrink on the same reading"
  | lowAboveHigh x high =>
    fieldMessage Threshold.low.field (number x) s!"Must not exceed high_threshold ({number high})"
  | zeroGrace which => fieldMessage which.field "0" "Grace period must be at least one tick"
  | seedSize n => fieldMessage "seed_pool_size" (toString n) "Must be between 1 and 1000"
  | zeroTickPeriod =>
    fieldMessage "tick_period_secs" "0" "Tick period must be at least one second"
  | load position x =>
    fieldMessage "demand.load" (number x)
      s!"Load must be a non-negative number in kind at index {position}"
  | phaseOrder position tick =>
    fieldMessage "demand.from_tick" (toString tick)
      s!"Demand phases must be strictly ordered in kind at index {position}"
  | duplicateKind k => s!"Duplicate kind: {k.text}"

end Violation

end ElasticPools
