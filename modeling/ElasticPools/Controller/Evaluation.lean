import ElasticPools.IdleStreaks
import ElasticPools.Policy
import ElasticPools.Report
import ElasticPools.Targets
/-!
The evaluation of one pool on one tick.

* A kind without a target, where targets are kept: the target is set, a burst requested, and no more.
* An empty pool: one worker is requested. Where targets are kept, the burst is still on its way.
* Otherwise workers that have qualified for the grace of the pool's state are destroyed. A kind
  that loses its only worker is forgotten; any other pool may grow by one.
-/
namespace ElasticPools.Controller

variable {σ α : Type} [Quantity α]

/-- The tables and the provider's state on their way through a tick. -/
structure Turn (σ : Type) where
  streaks : IdleStreaks
  targets : Targets
  world : σ

/-- What the evaluation of one pool came to; lists are in the order of the calls. -/
structure Evaluation (α : Type) where
  report : PoolReport α
  requested : List Kind
  destroyed : List WorkerId
  failures : List Refusal
  forgotten : Bool

/-- Progress through the workers of one pool. -/
structure Shrink (σ : Type) where
  streaks : IdleStreaks
  world : σ
  destroyed : List WorkerId
  failures : List Refusal

/-- Counts the tick for a worker that qualifies, and clears the streak of any other. -/
def shrinkBy (provider : Provider σ α) (qualifies : Worker → Bool) (grace : Nat) (s : Shrink σ)
    (w : Worker) : Shrink σ :=
  if qualifies w then
    match s.streaks.qualify w.id grace (provider.destroy w) s.world with
    | (.ok false, streaks, world) => { s with streaks, world }
    | (.ok true, streaks, world) => { s with streaks, world, destroyed := s.destroyed ++ [w.id] }
    | (.error e, streaks, world) => { s with streaks, world, failures := s.failures ++ [e] }
  else { s with streaks := s.streaks.clear w.id }

/-- Takes every worker of a pool in turn. -/
def shrink (provider : Provider σ α) (qualifies : Worker → Bool) (grace : Nat)
    (workers : List Worker) (streaks : IdleStreaks) (world : σ) : Shrink σ :=
  workers.foldl (shrinkBy provider qualifies grace) ⟨streaks, world, [], []⟩

/-- The workers that a tick leaves in its pool. -/
def remaining (workers : List Worker) (destroyed : List WorkerId) : List Worker :=
  workers.filter fun w => !destroyed.contains w.id

/-- What the growth check of one pool came to. -/
structure GrowthCheck (σ α : Type) where
  utilization : Option α
  growth : Growth
  burst : Burst σ
  targets : Targets

/-- Requests one more worker if the mean utilization calls for it. A durable request raises the
target once it is accepted. -/
def checkGrowth (policy : Policy α) (provider : Provider σ α) (reading : Worker → α) (kind : Kind)
    (pool : List Worker) (targets : Targets) (world : σ) : GrowthCheck σ α :=
  match Utilization.mean? reading pool with
  | none => ⟨none, .skipped, ⟨[], 0, [], world⟩, targets⟩
  | some mean =>
    match policy.growth mean with
    | .durable =>
      let burst := provider.requestMany kind 1 world
      ⟨mean, .durable, burst, if burst.accepted = 0 then targets else targets.raise kind⟩
    | .transient => ⟨mean, .transient, provider.requestMany kind 1 world, targets⟩
    | growth => ⟨mean, growth, ⟨[], 0, [], world⟩, targets⟩

/-- The target that a report shows. -/
def shownTarget (policy : Policy α) (targets : Targets) (kind : Kind) : Option Nat :=
  if policy.tracking then targets.target? kind else none

/-- The first sighting of a kind. -/
def seed (policy : Policy α) (provider : Provider σ α) (kind : Kind) (workers : List Worker)
    (turn : Turn σ) : Evaluation α × Turn σ :=
  let targets := turn.targets.seed kind policy.seedSize
  let burst := provider.requestMany kind policy.seedSize turn.world
  (⟨⟨kind, .seeding, workers.length, targets.target? kind, none, .skipped, 0, burst.accepted⟩,
      burst.requested, [], burst.failures, false⟩,
    ⟨turn.streaks, targets, burst.world⟩)

/-- A pool without workers. -/
def fill (policy : Policy α) (provider : Provider σ α) (kind : Kind) (turn : Turn σ) :
    Evaluation α × Turn σ :=
  let burst := provider.requestMany kind (if policy.tracking then 0 else 1) turn.world
  (⟨⟨kind, .empty, 0, shownTarget policy turn.targets kind, none, .skipped, 0, burst.accepted⟩,
      burst.requested, [], burst.failures, false⟩,
    ⟨turn.streaks, turn.targets, burst.world⟩)

/-- Forgets a kind whose only worker was destroyed. -/
def dropKind (provider : Provider σ α) (kind : Kind) (workers : List Worker) (s : Shrink σ)
    (targets : Targets) : Evaluation α × Turn σ :=
  (⟨⟨kind, .singleton, workers.length, none, none, .skipped, s.destroyed.length, 0⟩,
      [], s.destroyed, s.failures, true⟩,
    ⟨s.streaks, targets.forget kind, provider.forget kind s.world⟩)

/-- Lets a pool grow after its workers have been looked at. -/
def settle (policy : Policy α) (provider : Provider σ α) (reading : Worker → α) (kind : Kind)
    (state : PoolState) (workers : List Worker) (s : Shrink σ) (targets : Targets) :
    Evaluation α × Turn σ :=
  let targets := if state = .atTarget then targets.lowerBy kind s.destroyed.length else targets
  let check :=
    if policy.skipGrowthAfterLoss && !s.destroyed.isEmpty then
      ⟨none, .skipped, ⟨[], 0, [], s.world⟩, targets⟩
    else
      checkGrowth policy provider reading kind (remaining workers s.destroyed) targets s.world
  (⟨⟨kind, state, workers.length, shownTarget policy check.targets kind, check.utilization,
        check.growth, s.destroyed.length, check.burst.accepted⟩,
      check.burst.requested, s.destroyed, s.failures ++ check.burst.failures, false⟩,
    ⟨s.streaks, check.targets, check.burst.world⟩)

/-- Evaluates one pool. -/
def evaluate (policy : Policy α) (provider : Provider σ α) (reading : Worker → α) (kind : Kind)
    (workers : List Worker) (turn : Turn σ) : Evaluation α × Turn σ :=
  if policy.tracking && !turn.targets.contains kind then
    seed policy provider kind workers turn
  else
    let state := PoolState.classify workers.length (shownTarget policy turn.targets kind)
    if state.evaluatesGrowth then
      let s := shrink provider (policy.qualifies reading state) (policy.grace state) workers
        turn.streaks turn.world
      if state = .singleton && !s.destroyed.isEmpty then
        dropKind provider kind workers s turn.targets
      else settle policy provider reading kind state workers s turn.targets
    else fill policy provider kind turn

/-- Evaluates pools one after the other. -/
def evaluateAll (policy : Policy α) (provider : Provider σ α) (reading : Worker → α) :
    List (Kind × List Worker) → Turn σ → List (Evaluation α) × Turn σ
  | [], turn => ([], turn)
  | (kind, workers) :: pools, turn =>
    let (evaluation, turn) := evaluate policy provider reading kind workers turn
    let (evaluations, turn) := evaluateAll policy provider reading pools turn
    (evaluation :: evaluations, turn)

/-- Puts the evaluations of all pools together. -/
def reportOf (tick : Nat) (evaluations : List (Evaluation α)) : Report α where
  tick
  pools := evaluations.map (·.report)
  requested := evaluations.flatMap (·.requested)
  destroyed := evaluations.flatMap (·.destroyed)
  forgotten := (evaluations.filter (·.forgotten)).map (·.report.kind)
  failures := evaluations.flatMap (·.failures)

end ElasticPools.Controller
