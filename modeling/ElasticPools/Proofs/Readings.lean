import ElasticPools.Proofs.Run
import ElasticPools.Quantity.Extended
import ElasticPools.Simulation

/-!
Readings within a tick. A tick takes the readings of all workers before its first call. A source
that is asked anew for every worker and for every mean gives the same, as long as the calls of the
tick leave all readings alone. Those to a cloud do: what it is asked for takes effect when the next
tick is entered.
-/

set_option autoImplicit false

namespace ElasticPools

variable {σ α : Type} {p : Provider σ α}

/-- No call moves a reading. -/
structure Provider.LeavesReadings (p : Provider σ α) : Prop where
  request : ∀ kind s, p.reading (p.request kind s).2 = p.reading s
  destroy : ∀ w s, p.reading (p.destroy w s).2 = p.reading s
  forget : ∀ kind s, p.reading (p.forget kind s) = p.reading s

namespace Provider.LeavesReadings

variable (leaves : p.LeavesReadings)

include leaves

theorem recorded : p.recorded.LeavesReadings :=
  ⟨fun kind s => leaves.request kind s.1, fun w s => leaves.destroy w s.1,
    fun kind s => leaves.forget kind s.1⟩

theorem keeps (reading : Worker → α) : p.Keeps fun s => p.reading s = reading :=
  ⟨fun kind s same => (leaves.request kind s).trans same,
    fun w s same => (leaves.destroy w s).trans same,
    fun kind s same => (leaves.forget kind s).trans same⟩

end Provider.LeavesReadings

namespace Controller

section Live

variable [Quantity α]

/-- Takes every worker of a pool in turn, and reads each of them then. -/
def shrinkLive (policy : Policy α) (provider : Provider σ α) (state : PoolState)
    (workers : List Worker) (streaks : IdleStreaks) (world : σ) : Shrink σ :=
  workers.foldl
    (fun s => shrinkBy provider (policy.qualifies (provider.reading s.world) state)
      (policy.grace state) s)
    ⟨streaks, world, [], []⟩

/-- Evaluates one pool. The mean is taken over what the workers read once some of them are gone. -/
def evaluateLive (policy : Policy α) (provider : Provider σ α) (kind : Kind)
    (workers : List Worker) (turn : Turn σ) : Evaluation α × Turn σ :=
  if policy.tracking && !turn.targets.contains kind then
    seed policy provider kind workers turn
  else
    let state := PoolState.classify workers.length (shownTarget policy turn.targets kind)
    if state.evaluatesGrowth then
      let s := shrinkLive policy provider state workers turn.streaks turn.world
      if state = .singleton && !s.destroyed.isEmpty then
        dropKind provider kind workers s turn.targets
      else settle policy provider (provider.reading s.world) kind state workers s turn.targets
    else fill policy provider kind turn

def evaluateAllLive (policy : Policy α) (provider : Provider σ α) :
    List (Kind × List Worker) → Turn σ → List (Evaluation α) × Turn σ
  | [], turn => ([], turn)
  | (kind, workers) :: pools, turn =>
    let (evaluation, turn) := evaluateLive policy provider kind workers turn
    let (evaluations, turn) := evaluateAllLive policy provider pools turn
    (evaluation :: evaluations, turn)

/-- Evaluates every kind once, with each reading taken when it is needed. -/
def evaluateTickLive (c : Controller α) (provider : Provider σ α) (tick : Nat) (world : σ) :
    Report α × Controller α × σ :=
  let registry := provider.registry world
  let turn : Turn σ :=
    ⟨c.streaks.retain registry.workerIds, c.targets.retain registry.contains, world⟩
  let (evaluations, turn) := evaluateAllLive c.policy provider registry.toList turn
  let report := reportOf tick evaluations
  (report, ⟨c.policy, turn.streaks, turn.targets, some tick, c.totals.add report⟩, turn.world)

end Live

section Leaving

variable (leaves : p.LeavesReadings)

include leaves

theorem reading_shrinkBy (qualifies : Worker → Bool) (grace : Nat) (s : Shrink σ) (w : Worker) :
    p.reading (shrinkBy p qualifies grace s w).world = p.reading s.world :=
  shrinkBy_keeps (leaves.keeps _) qualifies grace w rfl

/-- Induction over the workers. -/
theorem reading_foldl (qualifies : Worker → Bool) (grace : Nat) (workers : List Worker)
    (s : Shrink σ) :
    p.reading (workers.foldl (shrinkBy p qualifies grace) s).world = p.reading s.world := by
  induction workers generalizing s with
  | nil => rfl
  | cons w rest ih => rw [List.foldl_cons, ih, reading_shrinkBy leaves]

theorem reading_shrink (qualifies : Worker → Bool) (grace : Nat) (workers : List Worker)
    (streaks : IdleStreaks) (world : σ) :
    p.reading (shrink p qualifies grace workers streaks world).world = p.reading world :=
  reading_foldl leaves qualifies grace workers ⟨streaks, world, [], []⟩

variable [Quantity α]

theorem reading_evaluate (policy : Policy α) (reading : Worker → α) (kind : Kind)
    (workers : List Worker) (turn : Turn σ) :
    p.reading (evaluate policy p reading kind workers turn).2.world = p.reading turn.world :=
  evaluate_keeps (leaves.keeps _) policy reading kind workers rfl

/-- Induction over the workers: each is read as it was before the first of them. -/
theorem shrinkLive_eq (policy : Policy α) (state : PoolState) (workers : List Worker)
    (streaks : IdleStreaks) (world : σ) :
    shrinkLive policy p state workers streaks world =
      shrink p (policy.qualifies (p.reading world) state) (policy.grace state) workers streaks
        world := by
  have folded : ∀ s : Shrink σ, p.reading s.world = p.reading world →
      workers.foldl (fun s => shrinkBy p (policy.qualifies (p.reading s.world) state)
        (policy.grace state) s) s =
      workers.foldl (shrinkBy p (policy.qualifies (p.reading world) state) (policy.grace state))
        s := by
    induction workers with
    | nil => exact fun _ _ => rfl
    | cons w rest ih =>
      intro s same
      rw [List.foldl_cons, List.foldl_cons, same]
      exact ih _ ((reading_shrinkBy leaves ..).trans same)
  exact folded ⟨streaks, world, [], []⟩ rfl

theorem evaluateLive_eq (policy : Policy α) (kind : Kind) (workers : List Worker)
    (turn : Turn σ) : evaluateLive policy p kind workers turn =
      evaluate policy p (p.reading turn.world) kind workers turn := by
  simp only [evaluateLive, evaluate, shrinkLive_eq leaves, reading_shrink leaves]

/-- Induction over the pools: each is read as it was before the first of them. -/
theorem evaluateAllLive_eq (policy : Policy α) (pools : List (Kind × List Worker))
    (turn : Turn σ) : evaluateAllLive policy p pools turn =
      evaluateAll policy p (p.reading turn.world) pools turn := by
  induction pools generalizing turn with
  | nil => rfl
  | cons pool pools ih =>
    simp only [evaluateAllLive, evaluateAll, evaluateLive_eq leaves, ih, reading_evaluate leaves]

/-- Where no call moves a reading, it makes no difference when the readings are taken. -/
theorem evaluateTickLive_eq (c : Controller α) (tick : Nat) (world : σ) :
    c.evaluateTickLive p tick world = c.evaluateTick p tick world := by
  simp only [evaluateTickLive, evaluateTick, evaluateAllLive_eq leaves]

/-- What is said of accepted ticks is said of ticks that read as they go. -/
theorem evaluateTickLive_of_accepted {c later : Controller α} {number : Nat} {world after : σ}
    {report : Report α} {calls : List Call}
    (accepted : c.tick p.recorded number (world, []) = .ok (report, later, after, calls)) :
    c.evaluateTickLive p.recorded number (world, []) = (report, later, after, calls) :=
  (evaluateTickLive_eq leaves.recorded c number (world, [])).trans (tick_eq_ok accepted)

end Leaving

/-- Where a destruction moves the readings of others, it does make a difference: the second of two
idle workers is spared once it reads high, and lost if it was read before. -/
example :
    let policy : Policy Extended := { Policy.ofProfile .simple with generalGrace := 1 }
    let p : Provider Bool Extended := {
      registry := fun _ => .empty
      reading := fun loaded _ => if loaded then .finite 1 else .finite 0
      request := fun _ loaded => (.ok (), loaded)
      destroy := fun _ _ => (.ok (), true)
      forget := fun _ loaded => loaded }
    let first : Worker := ⟨⟨"vm-1", by decide⟩, false⟩
    let second : Worker := ⟨⟨"vm-2", by decide⟩, false⟩
    (shrinkLive policy p .general [first, second] .empty false).destroyed = [first.id] ∧
      (shrink p (policy.qualifies (p.reading false) .general) (policy.grace .general)
        [first, second] .empty false).destroyed = [first.id, second.id] := by
  decide +kernel

end Controller

variable [Quantity α]

namespace Cloud

theorem utilization_of_usage {c d : Cloud α} (same : d.usage = c.usage) :
    (provider (α := α)).reading d = (provider (α := α)).reading c := by
  funext w
  show d.utilization w.id = c.utilization w.id
  rw [utilization, same, utilization]

/-- A cloud queues what it is asked for, and measures nothing until it is advanced. -/
theorem provider_leavesReadings : (provider (α := α)).LeavesReadings where
  request kind c := by
    refine utilization_of_usage ?_
    show (Cloud.request kind c).2.usage = c.usage
    unfold request
    split
    · rfl
    · split <;> rfl
  destroy w c := by
    refine utilization_of_usage ?_
    show (Cloud.destroy w.id c).2.usage = c.usage
    unfold destroy
    split <;> rfl
  forget _ _ := rfl

end Cloud

/-- In a simulation every tick goes as if it read as it went. -/
theorem Simulation.evaluateTickLive_of_step {s : Simulation α} {tick : Nat} {frame : Frame α}
    (stepped : s.step tick = .ok frame) :
    s.controller.evaluateTickLive Cloud.provider tick (s.cloud.advance tick) =
      (frame.report, frame.state.controller, frame.state.cloud) := by
  unfold step at stepped
  split at stepped
  · cases stepped
  · next accepted =>
    rw [Controller.evaluateTickLive_eq Cloud.provider_leavesReadings,
      Controller.tick_eq_ok accepted, ← Except.ok.inj stepped]

end ElasticPools
