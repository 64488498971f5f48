import ElasticPools.Proofs.Accounting
import ElasticPools.Proofs.Likeness

/-!
Targets as accounts. A tick takes from a target what a pool at its target has lost, adds one for a
durable request that was accepted, and moves no target otherwise. A target is never taken below zero,
and but for the seeding of a kind none comes into being.
-/

set_option autoImplicit false

namespace ElasticPools

variable {σ α : Type}

namespace PoolReport

/-- By how much a tick lowers the target of a pool. -/
def lowered (r : PoolReport α) : Nat := if r.state = .atTarget then r.destroyed else 0

/-- By how much a tick raises the target of a pool: by one for a durable request that was accepted. -/
def raised (r : PoolReport α) : Nat := if r.growth = .durable ∧ 0 < r.requested then 1 else 0

end PoolReport

/-- What a tick does to the target of a kind that it neither seeds nor forgets. -/
structure TargetMoved (c later : Controller α) (r : PoolReport α) (l : PoolLog) (target : Nat) :
    Prop where
  before : c.targets.target? r.kind = some target
  lowered_le : r.lowered ≤ target
  after : later.targets.target? r.kind = some (target - r.lowered + r.raised)
  /-- Calls that are refused do not move a target. -/
  refused : Call.requested l.calls = [] → Call.destroyed l.calls = [] →
    later.targets.target? r.kind = some target
  /-- A pool at its target keeps as many workers as the lowered target says. -/
  kept : (l.workers.map (·.id)).Nodup → r.state = .atTarget →
    (Controller.remaining l.workers (Call.destroyed l.calls)).length = target - r.destroyed

/-- A pool loses workers in their order, and none of them twice. -/
def LosesInOrder (_ : PoolReport α) (l : PoolLog) : Prop :=
  (Call.destroyed l.calls).Sublist (l.workers.map (·.id))

namespace Controller

theorem of_stateOf_atTarget {policy : Policy α} {kind : Kind} {workers : List Worker}
    {targets : Targets} (atTarget : stateOf policy kind workers targets = .atTarget) :
    shownTarget policy targets kind = some workers.length := by
  unfold stateOf PoolState.classify at atTarget
  split at atTarget
  · cases atTarget
  · split at atTarget
    · cases atTarget
    · cases atTarget
    · split at atTarget
      · next reached => exact reached
      · cases atTarget

/-- A pool that is not seeded has a target, and if it is at its target, it is of that size. -/
theorem target_of_stateOf {policy : Policy α} {kind : Kind} {workers : List Worker}
    {targets : Targets} (tracking : policy.tracking = true)
    (unseeded : stateOf policy kind workers targets ≠ .seeding) :
    ∃ target, targets.target? kind = some target ∧
      (stateOf policy kind workers targets = .atTarget → target = workers.length) := by
  have seen : targets.contains kind = true := by
    rw [← Bool.not_eq_false]
    exact fun unseen => unseeded (stateOf_eq_seeding_iff.mpr ⟨tracking, unseen⟩)
  rw [Targets.contains_eq, Option.isSome_iff_exists] at seen
  obtain ⟨target, found⟩ := seen
  refine ⟨target, found, fun atTarget => ?_⟩
  have shown := of_stateOf_atTarget atTarget
  rw [shownTarget, if_pos tracking, found] at shown
  exact Option.some.inj shown

/-- Without repetitions, a pool is left with all workers but as many as it has lost. -/
theorem length_remaining {workers : List Worker} {destroyed : List WorkerId}
    (within : destroyed.Sublist (workers.map (·.id))) (distinct : (workers.map (·.id)).Nodup) :
    (remaining workers destroyed).length = workers.length - destroyed.length := by
  have lost : workers.countP (fun v => destroyed.contains v.id) = destroyed.length := by
    rw [length_eq_countP_of_sublist within distinct, List.countP_map]
    rfl
  have parts := List.length_eq_countP_add_countP (fun v : Worker => destroyed.contains v.id)
    (l := workers)
  have left : (remaining workers destroyed).length =
      workers.countP fun v => decide ¬ destroyed.contains v.id = true := by
    rw [remaining, ← List.countP_eq_length_filter]
    simp
  omega

/-- A target that there is falls by what its pool has lost, and rises with an accepted request. -/
theorem nextTarget_of_kept {policy : Policy α} {r : PoolReport α} (unseeded : r.state ≠ .seeding)
    (target : Nat) : nextTarget policy r false (some target) =
      some (target - r.lowered + r.raised) := by
  have lowered : (if r.state = .atTarget ∧ 0 < r.destroyed then
      some ((some target).getD 0 - r.destroyed) else some target) = some (target - r.lowered) := by
    unfold PoolReport.lowered
    by_cases atTarget : r.state = .atTarget
    · rcases Nat.eq_zero_or_pos r.destroyed with none | lost
      · simp [none]
      · simp [atTarget, lost]
    · simp [atTarget]
  simp only [nextTarget, unseeded, if_false, Bool.false_eq_true, lowered, PoolReport.raised]
  split <;> rfl

variable [Quantity α]

theorem Evaluated.losesInOrder {policy : Policy α} {reading : Worker → α} {kind : Kind}
    {workers : List Worker} {first last : Turn (σ × List Call)} {e : Evaluation α}
    {calls : PoolCalls} (own : Evaluated policy reading kind workers first last e calls)
    (blank : first.world.2 = []) : LosesInOrder e.report ⟨kind, workers, last.world.2⟩ := by
  rw [LosesInOrder, own.log, blank, List.nil_append, PoolCalls.destroyed_toList]
  exact (PoolCalls.destroyed_sublist calls.attempts).trans own.within

/-- The evaluation of a pool moves no target but that of its own kind, and unless it seeds the kind,
it finds that target in the table. -/
theorem evaluate_targets (policy : Policy α) (p : Provider σ α) (reading : Worker → α) (kind : Kind)
    (workers : List Worker) (turn : Turn σ) :
    (∀ other, kind ≠ other →
        (evaluate policy p reading kind workers turn).2.targets.target? other =
          turn.targets.target? other) ∧
      (policy.tracking = true →
        (evaluate policy p reading kind workers turn).1.report.state ≠ .seeding →
          turn.targets.contains kind = true) := by
  obtain ⟨calls, own⟩ := evaluate_recorded policy p reading kind workers
    ⟨turn.streaks, turn.targets, turn.world, []⟩
  have same := evaluate_shows p.recorded_shows policy reading kind workers
    ⟨turn.streaks, turn.targets, turn.world, []⟩
  have view : Turn.map Prod.fst ⟨turn.streaks, turn.targets, turn.world, ([] : List Call)⟩ = turn :=
    rfl
  rw [view] at same
  rw [same]
  refine ⟨own.otherTargets, fun tracking unseeded => ?_⟩
  rw [own.state] at unseeded
  obtain ⟨target, found, _⟩ := target_of_stateOf tracking unseeded
  rw [Targets.contains_eq, show turn.targets.target? kind = some target from found]
  rfl

theorem PoolTick.targetMoved {c later : Controller α} {e : Event α} {kind : Kind}
    {workers : List Worker} {r : PoolReport α} (dealt : PoolTick c e later kind workers r)
    (tracking : c.policy.tracking = true) (unseeded : r.state ≠ .seeding)
    (unforgotten : kind ∉ e.report.forgotten) {calls : List Call}
    (account : PoolAccount r ⟨kind, workers, calls⟩)
    (within : LosesInOrder r ⟨kind, workers, calls⟩) :
    ∃ target, TargetMoved c later r ⟨kind, workers, calls⟩ target := by
  obtain rfl := dealt.named
  obtain ⟨target, found, full⟩ := target_of_stateOf tracking (dealt.state ▸ unseeded)
  rw [← dealt.state] at full
  have after : later.targets.target? r.kind = some (target - r.lowered + r.raised) := by
    rw [dealt.grown.target, found, decide_eq_false unforgotten, nextTarget_of_kept unseeded]
  refine ⟨target, ?_⟩
  constructor
  case before => exact found
  case after => exact after
  case lowered_le =>
    unfold PoolReport.lowered
    split
    · next atTarget =>
      have few := within.length_le
      rwa [← account.destroyed, List.length_map, ← full atTarget] at few
    · exact Nat.zero_le target
  case refused =>
    intro unrequested spared
    have none : r.destroyed = 0 := by rw [account.destroyed, spared, List.length_nil]
    have refused : r.requested = 0 := by
      have length := congrArg List.length account.requested
      rwa [unrequested, List.length_replicate, List.length_nil, eq_comm] at length
    rw [after, PoolReport.lowered, PoolReport.raised, none, refused]
    simp
  case kept =>
    intro distinct atTarget
    rw [length_remaining within distinct, ← account.destroyed, ← full atTarget]

/-- After a tick there are targets of kinds that had one before and of those that it seeded. -/
theorem Ticked.contains_of_contains {c later : Controller α} {e : Event α}
    (ticked : c.Ticked e later) (tracking : c.policy.tracking = true) {kind : Kind}
    (present : later.targets.contains kind = true) : c.targets.contains kind = true ∨
      ∃ r ∈ e.report.pools, r.kind = kind ∧ r.state = .seeding := by
  cases seen : c.targets.contains kind with
  | true => exact Or.inl rfl
  | false =>
    have listed := ((ticked.contains_iff tracking kind).mp present).1
    rw [Registry.contains_eq, Option.isSome_iff_exists] at listed
    obtain ⟨workers, found⟩ := listed
    obtain ⟨r, reported, dealt⟩ := ticked.pool kind workers found
    exact Or.inr ⟨r, reported, dealt.named,
      dealt.state.trans (stateOf_eq_seeding_iff.mpr ⟨tracking, seen⟩)⟩

end Controller

section Main

variable [Quantity α] {p : Provider σ α} {c later : Controller α} {number : Nat} {world after : σ}
  {report : Report α} {calls : List Call}

/-- What becomes of targets on an accepted tick, whatever the answers. A kind that is neither seeded
nor forgotten keeps its target, less what the pool has lost at that target and more for a durable
request. Only seeding makes a target, and no evaluation moves that of another kind. -/
theorem targets_accounted (tracking : c.policy.tracking = true)
    (accepted : c.tick p.recorded number (world, []) = .ok (report, later, after, calls)) :
    Accounts (p.registry world) (c.logs p world) calls report ∧
      List.Forall₂ (fun r l => r.state ≠ .seeding → r.kind ∉ report.forgotten →
        ∃ target, TargetMoved c later r l target) report.pools (c.logs p world) ∧
      (∀ kind, later.targets.contains kind = true → c.targets.contains kind = true ∨
        ∃ r ∈ report.pools, r.kind = kind ∧ r.state = .seeding) ∧
      ∀ (reading : Worker → α) (kind : Kind) (workers : List Worker) (turn : Controller.Turn σ),
        (∀ other, kind ≠ other →
          (Controller.evaluate c.policy p reading kind workers turn).2.targets.target? other =
            turn.targets.target? other) ∧
        ((Controller.evaluate c.policy p reading kind workers turn).1.report.state ≠ .seeding →
          turn.targets.contains kind = true) := by
  have ticked := c.evaluateTick_ticked p number world
  have accounts := c.evaluateTick_accounts p number world
  obtain ⟨_, pools⟩ := Controller.evaluateTick_logs (fun r l => PoolAccount r l ∧ LosesInOrder r l)
    (fun own blank => ⟨own.account blank, own.losesInOrder blank⟩) c p number world
  rw [Controller.tick_eq_ok accepted] at ticked accounts pools
  refine ⟨accounts, ?_, fun kind => ticked.contains_of_contains tracking, ?_⟩
  · apply forall₂_of_mem pools
    rintro r reported ⟨kind, workers, calls⟩ logged ⟨account, within⟩ unseeded unforgotten
    have listed : (kind, workers) ∈ (p.registry world).toList := by
      rw [← accounts.logged]
      exact List.mem_map.mpr ⟨_, logged, rfl⟩
    have named : r.kind = kind := account.kind
    subst named
    have dealt := ticked.poolTick reported (Registry.mem_toList.mp listed)
    exact dealt.targetMoved tracking unseeded unforgotten account within
  · intro reading kind workers turn
    obtain ⟨others, own⟩ := Controller.evaluate_targets c.policy p reading kind workers turn
    exact ⟨others, own tracking⟩

namespace Lingering

/-- Targets of two, and one tick of grace for a pool that is at its target. -/
def hasty : Policy Float := { Policy.ofProfile .poolTracking with seedSize := 2, atTargetGrace := 1 }

def hastyController : Controller Float := ⟨hasty, .empty, .empty, none, .zero⟩

theorem hastyController_new : Controller.new hasty = .ok hastyController := by rfl

/-- A pool of an idle worker and a busy one, and a busy worker that is alone. -/
def loaded : Registry × (Worker → Float) :=
  (joined.1.add render ⟨third, true⟩, fun v => if v.busy then 0.9 else 0.0)

/-- On its second tick a controller destroys the idle worker of the one pool, which is at its target,
and asks for another. For the second pool it asks in vain. Both targets are then what they were. -/
theorem targets_accounted_loaded :
    ∃ (past : List (Event Float)) (c later : Controller Float) (report : Report Float)
      (after : Registry × (Worker → Float)) (calls : List Call),
      Run hasty choosy past c ∧
      c.tick choosy.recorded 2 (loaded, []) = .ok (report, later, after, calls) ∧
      (report.destroyed = [first] ∧ report.requested = [queue] ∧
        report.failures = [.request render "no room"]) ∧
      (report.pools.map fun r => (r.kind, r.state, r.lowered, r.raised)) =
        [(queue, .atTarget, 1, 1), (render, .singleton, 0, 0)] ∧
      List.Forall₂ (fun r l => TargetMoved c later r l 2) report.pools (c.logs choosy loaded) := by
  obtain ⟨run, numbered⟩ := Controller.run_history hastyController_new choosy [loaded]
  have fresh : ∀ last ∈ (hastyController.history choosy [loaded]).2.lastTick, last < 2 :=
    fun last shown => Nat.lt_succ_of_le (numbered last shown)
  obtain ⟨past, c, later, report, after, calls, run, accepted, tracking, listed, made, found, before⟩ :
      ∃ (past : List (Event Float)) (c later : Controller Float) (report : Report Float)
        (after : Registry × (Worker → Float)) (calls : List Call), Run hasty choosy past c ∧
        c.tick choosy.recorded 2 (loaded, []) = .ok (report, later, after, calls) ∧
        c.policy.tracking = true ∧
        (∀ r ∈ report.pools, r.state ≠ .seeding ∧ r.kind ∉ report.forgotten) ∧
        (report.destroyed = [first] ∧ report.requested = [queue] ∧
          report.failures = [.request render "no room"]) ∧
        (report.pools.map fun r => (r.kind, r.state, r.lowered, r.raised)) =
          [(queue, .atTarget, 1, 1), (render, .singleton, 0, 0)] ∧
        ∀ r ∈ report.pools, c.targets.target? r.kind = some 2 := by
    refine ⟨_, _, _, _, _, _, run, Controller.tick_of_fresh fresh choosy.recorded (loaded, []), rfl,
      ?_, ?_, ?_, ?_⟩
    all_goals decide +kernel
  obtain ⟨_, moved, _⟩ := targets_accounted tracking accepted
  refine ⟨past, c, later, report, after, calls, run, accepted, made, found, ?_⟩
  apply forall₂_of_mem moved
  intro r reported l _ kept
  obtain ⟨unseeded, unforgotten⟩ := listed r reported
  obtain ⟨target, moved⟩ := kept unseeded unforgotten
  rwa [Option.some.inj ((before r reported).symm.trans moved.before)]

end Lingering

end Main

end ElasticPools
