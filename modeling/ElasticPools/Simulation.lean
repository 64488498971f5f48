import ElasticPools.Cloud
import ElasticPools.Configuration
import ElasticPools.Controller
/-!
Simulations: a controller over a cloud in memory. Each tick first lets the cloud carry out what the
tick before queued, then the controller runs.
-/
namespace ElasticPools

structure Simulation (α : Type) where
  controller : Controller α
  cloud : Cloud α

namespace Simulation

variable {α : Type} [Quantity α]

inductive Failure (α : Type) where
  | policy (violation : Violation α)
  | repeatedTick (repeated : RepeatedTick)

/-- What one tick leaves behind. -/
structure Frame (α : Type) where
  report : Report α
  state : Simulation α

/-- A simulation before its first tick. -/
def start (config : Configuration α) (capacity : Option Nat) (names : Nat → WorkerId) :
    Except (Failure α) (Simulation α) :=
  match Controller.new config.policy with
  | .error v => .error (.policy v)
  | .ok controller =>
    .ok ⟨controller, (Cloud.new config.kinds config.tickPeriod capacity names).bootstrap⟩

def step (s : Simulation α) (tick : Nat) : Except (Failure α) (Frame α) :=
  match s.controller.tick Cloud.provider tick (s.cloud.advance tick) with
  | .error refused => .error (.repeatedTick refused.toRepeatedTick)
  | .ok (report, controller, cloud) => .ok ⟨report, ⟨controller, cloud⟩⟩

/-- `count` ticks, the first of them with the number after `last`. -/
def steps (s : Simulation α) (last : Nat) : Nat → Except (Failure α) (List (Frame α))
  | 0 => .ok []
  | count + 1 =>
    match s.step (last + 1) with
    | .error e => .error e
    | .ok frame =>
      match steps frame.state (last + 1) count with
      | .error e => .error e
      | .ok frames => .ok (frame :: frames)

/-- The ticks from 1 to `ticks`. -/
def run (config : Configuration α) (capacity : Option Nat) (names : Nat → WorkerId)
    (ticks : Nat) : Except (Failure α) (List (Frame α)) :=
  match start config capacity names with
  | .error e => .error e
  | .ok s => s.steps 0 ticks

end Simulation

end ElasticPools
