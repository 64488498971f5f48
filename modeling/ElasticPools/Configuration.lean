import ElasticPools.Demand
import ElasticPools.Policy
/-!
Configurations: a policy, the time between ticks and the kinds known from the beginning. A
configuration is checked from a draft, which holds what was written, with the gaps left open.
-/
namespace ElasticPools

structure Configuration (α : Type) where
  policy : Policy α
  /-- Seconds between ticks. -/
  tickPeriod : Nat
  kinds : List (KindPlan α)

/-- The section about the controller; what is not given falls back to the profile. -/
structure PolicyDraft (α : Type) where
  profile : Option Profile
  tickPeriod : Nat
  seedSize : Option Nat
  minimum : Option α
  low : Option α
  high : Option α
  singletonGrace : Option Nat
  atTargetGrace : Option Nat
  generalGrace : Option Nat
  skipGrowthAfterLoss : Option Bool

structure KindDraft (α : Type) where
  name : String
  initialWorkers : Nat
  phases : List (Phase α)

structure Draft (α : Type) where
  policy : PolicyDraft α
  kinds : List (KindDraft α)

variable {α : Type} [Quantity α]

namespace PolicyDraft

/-- Two minutes, so that thirty ticks make an hour. -/
def defaultTickPeriod : Nat := 120

def blank : PolicyDraft α :=
  ⟨none, defaultTickPeriod, none, none, none, none, none, none, none, none⟩

/-- The policy that a draft describes, not yet checked. -/
def resolve (d : PolicyDraft α) : Policy α :=
  let base := Policy.ofProfile (d.profile.getD .poolTracking)
  { base with
    seedSize := d.seedSize.getD base.seedSize
    minimum := d.minimum.getD base.minimum
    low := d.low.getD base.low
    high := d.high.getD base.high
    singletonGrace := d.singletonGrace.getD base.singletonGrace
    atTargetGrace := d.atTargetGrace.getD base.atTargetGrace
    generalGrace := d.generalGrace.getD base.generalGrace
    skipGrowthAfterLoss := d.skipGrowthAfterLoss.getD base.skipGrowthAfterLoss }

/-- The policy comes first, then the period between ticks. -/
def violation? (d : PolicyDraft α) : Option (Violation α) :=
  match d.resolve.violation? with
  | some v => some v
  | none => if d.tickPeriod = 0 then some .zeroTickPeriod else none

end PolicyDraft

namespace KindDraft

/-- The first phase whose load is no load or which starts no later than the one before it. -/
def phaseViolation? (position : Nat) : Option Nat → List (Phase α) → Option (Violation α)
  | _, [] => none
  | last, phase :: rest =>
    if !Quantity.isFinite phase.load || phase.load < (0.0 : α) then
      some (.load position phase.load)
    else if last.any (phase.start ≤ ·) then some (.phaseOrder position phase.start)
    else phaseViolation? position (some phase.start) rest

/-- Checks the kind at a position in the list of kinds, its name first. -/
def check (position : Nat) (d : KindDraft α) : Except (Violation α) (KindPlan α) :=
  match Identifier.parse .kind d.name with
  | .error rejection => .error (.identifier rejection)
  | .ok kind =>
    match phaseViolation? position none d.phases with
    | some v => .error v
    | none => .ok ⟨kind, d.initialWorkers, d.phases⟩

/-- Checks kinds in order. A kind that is named again is refused once it is sound by itself. -/
def checkAll (seen : List Kind) (position : Nat) :
    List (KindDraft α) → Except (Violation α) (List (KindPlan α))
  | [] => .ok []
  | d :: rest =>
    match d.check position with
    | .error v => .error v
    | .ok plan =>
      if plan.kind ∈ seen then .error (.duplicateKind plan.kind)
      else
        match checkAll (plan.kind :: seen) (position + 1) rest with
        | .error v => .error v
        | .ok plans => .ok (plan :: plans)

end KindDraft

/-- Checks a draft: its policy first, then its kinds. -/
def Draft.check (d : Draft α) : Except (Violation α) (Configuration α) :=
  match d.policy.violation? with
  | some v => .error v
  | none =>
    match KindDraft.checkAll [] 0 d.kinds with
    | .error v => .error v
    | .ok kinds => .ok ⟨d.policy.resolve, d.policy.tickPeriod, kinds⟩

end ElasticPools
