import ElasticPools.Controller.Evaluation
/-!
The controller. It is called once per tick with a provider, looks at every kind of the registry in
ascending order, and keeps nothing between ticks but idle streaks, targets, totals and the number of
the last tick.
-/
namespace ElasticPools

structure Controller (α : Type) where
  policy : Policy α
  streaks : IdleStreaks
  targets : Targets
  lastTick : Option Nat
  totals : Totals

/-- A tick whose number is not above all earlier ones. -/
structure RepeatedTick where
  last : Nat
  received : Nat
deriving DecidableEq, Repr

def RepeatedTick.message (r : RepeatedTick) : String :=
  s!"Tick {r.received} already evaluated (last tick: {r.last})"

/-- A tick that was refused, with the controller and the provider's state as it leaves them. -/
structure RefusedTick (σ α : Type) extends RepeatedTick where
  controller : Controller α
  world : σ

namespace Controller

variable {σ α : Type} [Quantity α]

/-- A controller that has seen no tick. Its policy must be sound. -/
def new (policy : Policy α) : Except (Violation α) (Controller α) :=
  match policy.violation? with
  | none => .ok ⟨policy, .empty, .empty, none, .zero⟩
  | some v => .error v

/-- Evaluates every kind once. Streaks of workers and targets of kinds that left the registry are
dropped first, so that a kind which comes back starts afresh. All readings are those before the
first call: as long as calls leave them alone, reading each worker when it is looked at gives the
same (`evaluateTickLive_eq`). -/
def evaluateTick (c : Controller α) (provider : Provider σ α) (tick : Nat) (world : σ) :
    Report α × Controller α × σ :=
  let registry := provider.registry world
  let turn : Turn σ :=
    ⟨c.streaks.retain registry.workerIds, c.targets.retain registry.contains, world⟩
  let (evaluations, turn) :=
    evaluateAll c.policy provider (provider.reading world) registry.toList turn
  let report := reportOf tick evaluations
  (report, ⟨c.policy, turn.streaks, turn.targets, some tick, c.totals.add report⟩, turn.world)

/-- Evaluates a tick whose number exceeds all earlier ones; any other number is refused before
anything happens. Refusals of the provider do not stop a tick, they stand in its report. -/
def tick (c : Controller α) (provider : Provider σ α) (tick : Nat) (world : σ) :
    Except (RefusedTick σ α) (Report α × Controller α × σ) :=
  match c.lastTick with
  | none => .ok (c.evaluateTick provider tick world)
  | some last =>
    if tick ≤ last then .error ⟨⟨last, tick⟩, c, world⟩
    else .ok (c.evaluateTick provider tick world)

end Controller

end ElasticPools
