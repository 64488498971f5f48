import ElasticPools.Proofs.Accounting
import ElasticPools.Proofs.Candidacy
import ElasticPools.Proofs.Likeness
import ElasticPools.Quantity.Ordered
import Mathlib.Data.Finset.Max

/-!
Growth follows the readings of the workers that stay. The utilization of a pool is the mean over those
that its tick leaves, each brought into the unit interval, so it lies between their extremes. Nothing
is requested for a pool whose workers all read low, and a pool whose target is to rise has a worker
above the highest threshold.
-/

set_option autoImplicit false

namespace ElasticPools

variable {σ α : Type}

/-- The workers of a pool that its tick leaves. -/
def PoolLog.left (l : PoolLog) : List Worker :=
  Controller.remaining l.workers (Call.destroyed l.calls)

/-- A utilization is the mean over the workers that are left. -/
def MeanOfLeft [Quantity α] (reading : Worker → α) (r : PoolReport α) (l : PoolLog) : Prop :=
  ∀ u, r.utilization = some u → Utilization.mean? reading l.left = some u

theorem Controller.Evaluated.meanOfLeft [Quantity α] {policy : Policy α} {reading : Worker → α}
    {kind : Kind} {workers : List Worker} {first last : Turn (σ × List Call)} {e : Evaluation α}
    {calls : PoolCalls} (own : Evaluated policy reading kind workers first last e calls)
    (blank : first.world.2 = []) : MeanOfLeft reading e.report ⟨kind, workers, last.world.2⟩ := by
  intro u shown
  have destroyed : Call.destroyed last.world.2 = e.destroyed := by
    rw [own.log, blank, List.nil_append, PoolCalls.destroyed_toList, own.records.destroyed]
  rw [own.utilization] at shown
  split at shown
  · cases shown
  · rwa [PoolLog.left, destroyed]

namespace Accounts

variable {registry : Registry} {logs : List PoolLog} {calls : List Call} {report : Report α}
  (accounts : Accounts registry logs calls report)

include accounts

/-- Only the workers of a pool are attacked in its log. -/
theorem within {l : PoolLog} (logged : l ∈ logs) {w : WorkerId} {answer : Answer}
    (called : .destruction w answer ∈ l.calls) : w ∈ l.workers.map (·.id) := by
  obtain ⟨r, _, account⟩ := exists_of_forall₂ accounts.pools logged
  exact account.within w answer called

theorem found {l : PoolLog} (logged : l ∈ logs) : registry.pool? l.kind = some l.workers := by
  apply Registry.mem_toList.mp
  rw [← accounts.logged]
  exact List.mem_map.mpr ⟨l, logged, rfl⟩

theorem kinds_nodup : (logs.map (·.kind)).Nodup := by
  have kinds := congrArg (List.map Prod.fst) accounts.logged
  rw [List.map_map] at kinds
  exact kinds ▸ registry.nodup_toList

/-- Where no name is used twice, a worker that is destroyed is destroyed in its own pool. -/
theorem mem_destroyed_iff (unique : registry.Unique) {l : PoolLog} (logged : l ∈ logs) {v : Worker}
    (inside : v ∈ l.workers) : v.id ∈ Call.destroyed l.calls ↔ v.id ∈ report.destroyed := by
  rw [accounts.destroyed, accounts.parts]
  simp only [Call.mem_destroyed, Call.mem_attemptsOn, List.mem_flatMap]
  constructor
  · exact fun called => ⟨l, logged, called⟩
  · rintro ⟨other, logged', called⟩
    -- the pool of that log has the worker too, so it is the same pool
    have same := unique.kind_eq (accounts.found logged) (accounts.found logged')
      (List.mem_map_of_mem inside) (accounts.within logged' called)
    rwa [List.inj_on_of_nodup_map accounts.kinds_nodup logged logged' same]

/-- Where no name is used twice, what a pool is left with is told by the report of the tick. -/
theorem left_eq (unique : registry.Unique) {l : PoolLog} (logged : l ∈ logs) :
    l.left = Controller.remaining l.workers report.destroyed := by
  apply List.filter_congr
  intro v inside
  simp [accounts.mem_destroyed_iff unique logged inside]

end Accounts

open Extended in
/-- The thresholds of a sound policy are numbers, in ascending order. -/
theorem Policy.Sound.exists_thresholds {p : Policy Extended} (sound : p.Sound) :
    ∃ minimum low high : ℚ, p.minimum = finite minimum ∧ p.low = finite low ∧
      p.high = finite high ∧ minimum < low ∧ low ≤ high := by
  have finite_of_unit : ∀ x : Extended, inUnitInterval x = true → ∃ y, x = finite y := by
    intro x inside
    rw [inUnitInterval, Bool.and_eq_true, decide_eq_true_eq, decide_eq_true_eq, zero_eq, one_eq]
      at inside
    exact exists_finite inside.1 inside.2
  obtain ⟨minimum, low, high, apart, ordered⟩ := sound.thresholds
  obtain ⟨m, minimum⟩ := finite_of_unit _ minimum
  obtain ⟨l, low⟩ := finite_of_unit _ low
  obtain ⟨h, high⟩ := finite_of_unit _ high
  rw [minimum, low, finite_le, not_le] at apart
  rw [low, high, finite_lt, not_lt] at ordered
  exact ⟨m, l, h, minimum, low, high, apart, ordered⟩

/-- A pool whose target is to rise is above the highest threshold. -/
theorem Policy.high_lt_of_durable [Quantity α] {p : Policy α} {mean : α}
    (durable : p.growth mean = .durable) : p.high < mean := by
  unfold Policy.growth at durable
  split at durable
  · next above =>
    rw [Bool.and_eq_true, decide_eq_true_eq] at above
    exact above.2
  · split at durable <;> cases durable

namespace Extended

variable {reading : Worker → Extended} {pool : List Worker} {u : Extended}

/-- A mean of readings is a number, the mean of the numbers that the readings count as. -/
theorem of_mean? (found : Utilization.mean? reading pool = some u) :
    pool ≠ [] ∧ u = finite (mean (pool.map fun v => (reading v).clamped)) := by
  have sanitized : (pool.map fun v => Utilization.sanitize (reading v)) =
      (pool.map fun v => (reading v).clamped).map finite := by
    simp [sanitize_eq]
  have populated : pool ≠ [] := by
    rintro rfl
    cases found
  rw [Utilization.mean?, sanitized, mean?_finite (by simpa using populated)] at found
  exact ⟨populated, (Option.some.inj found).symm⟩

theorem le_of_mean? {bound : ℚ} (found : Utilization.mean? reading pool = some u)
    (above : ∀ v ∈ pool, finite bound ≤ Utilization.sanitize (reading v)) : finite bound ≤ u := by
  obtain ⟨populated, rfl⟩ := of_mean? found
  rw [finite_le]
  apply le_mean (by simpa using populated)
  simpa [sanitize_eq] using above

theorem of_mean?_le {bound : ℚ} (found : Utilization.mean? reading pool = some u)
    (below : ∀ v ∈ pool, Utilization.sanitize (reading v) ≤ finite bound) : u ≤ finite bound := by
  obtain ⟨populated, rfl⟩ := of_mean? found
  rw [finite_le]
  apply mean_le (by simpa using populated)
  simpa [sanitize_eq] using below

/-- Some worker reads no more than any other, and no more than the mean. -/
theorem exists_least (found : Utilization.mean? reading pool = some u) : ∃ v ∈ pool,
    (∀ w ∈ pool, Utilization.sanitize (reading v) ≤ Utilization.sanitize (reading w)) ∧
      Utilization.sanitize (reading v) ≤ u := by
  have populated : (pool : Multiset Worker) ≠ 0 := by simpa using (of_mean? found).1
  obtain ⟨v, inside, least⟩ := Multiset.exists_min_image (fun v => (reading v).clamped) populated
  simp only [Multiset.mem_coe, sanitize_eq, finite_le] at inside least ⊢
  refine ⟨v, inside, least, ?_⟩
  apply le_of_mean? found
  simpa [sanitize_eq] using least

/-- Some worker reads no less than any other, and no less than the mean. -/
theorem exists_greatest (found : Utilization.mean? reading pool = some u) : ∃ v ∈ pool,
    (∀ w ∈ pool, Utilization.sanitize (reading w) ≤ Utilization.sanitize (reading v)) ∧
      u ≤ Utilization.sanitize (reading v) := by
  have populated : (pool : Multiset Worker) ≠ 0 := by simpa using (of_mean? found).1
  obtain ⟨v, inside, greatest⟩ := Multiset.exists_max_image (fun v => (reading v).clamped) populated
  simp only [Multiset.mem_coe, sanitize_eq, finite_le] at inside greatest ⊢
  refine ⟨v, inside, greatest, ?_⟩
  apply of_mean?_le found
  simpa [sanitize_eq] using greatest

/-- A pool that is left with low readings holds its size. -/
theorem growth_of_low {policy : Policy Extended} (sound : policy.Sound)
    (found : Utilization.mean? reading pool = some u)
    (below : ∀ v ∈ pool, Utilization.sanitize (reading v) ≤ policy.low) :
    policy.growth u = .hold := by
  obtain ⟨_, low, _, _, lowest, _⟩ := sound.exists_thresholds
  have small : u ≤ policy.low := by
    rw [lowest] at below ⊢
    exact of_mean?_le found below
  exact sound.growth_eq_hold (Quantity.Ordered.not_lt_of_le small)

/-- Not all workers of a pool whose target is to rise are at or below the highest threshold. -/
theorem exists_above_high {policy : Policy Extended} (sound : policy.Sound)
    (found : Utilization.mean? reading pool = some u) (durable : policy.growth u = .durable) :
    ∃ v ∈ pool, policy.high < Utilization.sanitize (reading v) := by
  obtain ⟨_, _, high, _, _, highest, _, _⟩ := sound.exists_thresholds
  have above := Policy.high_lt_of_durable durable
  rw [highest] at above ⊢
  by_contra none
  have below : ∀ v ∈ pool, Utilization.sanitize (reading v) ≤ finite high := by
    simpa [sanitize_eq] using none
  have small := of_mean?_le found below
  obtain ⟨_, rfl⟩ := of_mean? found
  exact absurd (finite_lt.mp above) (not_lt.mpr (finite_le.mp small))

end Extended

/-- The growth check of a pool asks for nothing. -/
structure Unasked (e : Event α) (r : PoolReport α) : Prop where
  growth : r.growth = .hold ∨ r.growth = .skipped
  calls : r.state.evaluatesGrowth = true → Call.answersFor r.kind e.calls = []

/-- How a report and the calls of its tick follow the readings of the workers that the tick leaves in
the pool. -/
structure FollowsReadings (policy : Policy Extended) (e : Event Extended) (r : PoolReport Extended)
    (l : PoolLog) : Prop where
  unit : ∀ v ∈ l.left, (0.0 : Extended) ≤ Utilization.sanitize (e.reading v) ∧
    Utilization.sanitize (e.reading v) ≤ (1.0 : Extended)
  least : ∀ u, r.utilization = some u → ∃ v ∈ l.left,
    (∀ w ∈ l.left, Utilization.sanitize (e.reading v) ≤ Utilization.sanitize (e.reading w)) ∧
      Utilization.sanitize (e.reading v) ≤ u
  greatest : ∀ u, r.utilization = some u → ∃ v ∈ l.left,
    (∀ w ∈ l.left, Utilization.sanitize (e.reading w) ≤ Utilization.sanitize (e.reading v)) ∧
      u ≤ Utilization.sanitize (e.reading v)
  low : (∀ v ∈ l.left, Utilization.sanitize (e.reading v) ≤ policy.low) → Unasked e r
  little : (∀ v ∈ l.left, Utilization.sanitize (e.reading v) < policy.minimum) → Unasked e r
  durable : r.growth = .durable →
    ∃ v ∈ l.left, policy.high < Utilization.sanitize (e.reading v)

theorem Unasked.of_asked {policy : Policy α} {e : Event α} {r : PoolReport α}
    (asked : (Call.answersFor r.kind e.calls).length = policy.requests r.state r.growth)
    (still : r.growth = .hold ∨ r.growth = .skipped) : Unasked e r := by
  refine ⟨still, fun growing => ?_⟩
  rw [policy.requests_of_growing growing] at asked
  apply List.length_eq_zero_iff.mp
  rcases still with growth | growth <;> simp [asked, growth, Growth.requests]

theorem MeanOfLeft.followsReadings {policy : Policy Extended} {e : Event Extended}
    {r : PoolReport Extended} {l : PoolLog} (mean : MeanOfLeft e.reading r l) (sound : policy.Sound)
    (growth : r.growth = r.utilization.elim .skipped policy.growth)
    (asked : (Call.answersFor r.kind e.calls).length = policy.requests r.state r.growth) :
    FollowsReadings policy e r l := by
  have low : (∀ v ∈ l.left, Utilization.sanitize (e.reading v) ≤ policy.low) → Unasked e r := by
    intro below
    apply Unasked.of_asked asked
    rw [growth]
    cases shown : r.utilization with
    | none => exact Or.inr rfl
    | some u => exact Or.inl (Extended.growth_of_low sound (mean u shown) below)
  constructor
  case unit =>
    intro v _
    simp [Extended.sanitize_eq, Extended.zero_eq, Extended.one_eq, Extended.clamped_nonneg,
      Extended.clamped_le_one]
  case least => exact fun u shown => Extended.exists_least (mean u shown)
  case greatest => exact fun u shown => Extended.exists_greatest (mean u shown)
  case low => exact low
  case little =>
    intro below
    apply low
    obtain ⟨_, _, _, least, lowest, _, ascending, _⟩ := sound.exists_thresholds
    intro v left
    have small := below v left
    rw [Extended.sanitize_eq, least, Extended.finite_lt] at small
    rw [Extended.sanitize_eq, lowest, Extended.finite_le]
    exact (small.trans ascending).le
  case durable =>
    intro durable
    cases shown : r.utilization with
    | none =>
      rw [growth, shown] at durable
      cases durable
    | some u =>
      rw [growth, shown] at durable
      exact Extended.exists_above_high sound (mean u shown) durable

section Main

variable {policy : Policy Extended} {p : Provider σ Extended} {past : List (Event Extended)}
  {c later : Controller Extended}

/-- On an accepted tick the utilization of a pool lies between the extremes of what its remaining
workers read, and so pools whose workers read low do not grow, whatever the readings are. -/
theorem growth_follows_readings {number : Nat} {world after : σ} {report : Report Extended}
    {calls : List Call} (run : Run policy p past c)
    (accepted : c.tick p.recorded number (world, []) = .ok (report, later, after, calls)) :
    Accounts (p.registry world) (c.logs p world) calls report ∧
      List.Forall₂ (FollowsReadings policy ⟨p.registry world, p.reading world, report, calls⟩)
        report.pools (c.logs p world) ∧
      ((p.registry world).Unique → ∀ l ∈ c.logs p world,
        l.left = Controller.remaining l.workers report.destroyed) := by
  have ticked := Controller.ticked_of_accepted accepted
  have accounts := c.evaluateTick_accounts p number world
  obtain ⟨_, means⟩ := c.evaluateTick_poolLogs (MeanOfLeft (p.reading world)) p number world
    fun own blank => own.meanOfLeft blank
  rw [Controller.tick_eq_ok accepted] at accounts means
  refine ⟨accounts, ?_, fun unique l logged => accounts.left_eq unique logged⟩
  apply forall₂_of_mem means
  intro r reported l _ mean
  obtain ⟨_, _, dealt⟩ := ticked.registered reported
  rw [← run.policy_eq]
  exact mean.followsReadings (run.policy_eq ▸ run.sound) dealt.grown.growth dealt.asked

namespace Lingering

/-- A provider like the others, with readings that need not be numbers. -/
def gauged : Provider (Registry × (Worker → Extended)) Extended where
  registry := Prod.fst
  reading := Prod.snd
  request _ world := (.ok (), world)
  destroy _ world := (.ok (), world)
  forget kind world := (world.1.forget kind, world.2)

def exactTracker : Controller Extended :=
  ⟨Policy.ofProfile .poolTracking, .empty, .empty, none, .zero⟩

theorem exactTracker_new : Controller.new (Policy.ofProfile .poolTracking) = .ok exactTracker := by
  have sound : (Policy.ofProfile .poolTracking : Policy Extended).violation? = none := by
    decide +kernel
  rw [Controller.new, sound]
  rfl

/-- An idle worker without a reading beside a busy one that reads too much, and a worker that is alone
and reads no number. -/
def unread : Registry × (Worker → Extended) :=
  (joined.1.add render ⟨third, true⟩, fun v =>
    if v.id = first then .undefined else if v.id = third then .infinite false else .finite 3)

/-- On its third tick a controller destroys the worker without a reading. The other one is then above
every threshold, and the worker that is alone counts as unused. -/
theorem growth_follows_readings_unread :
    ∃ (past : List (Event Extended)) (c later : Controller Extended) (report : Report Extended)
      (after : Registry × (Worker → Extended)) (calls : List Call),
      Run (Policy.ofProfile .poolTracking) gauged past c ∧
      c.tick gauged.recorded 3 (unread, []) = .ok (report, later, after, calls) ∧
      report.destroyed = [first] ∧
      (report.pools.map fun r => (r.kind, r.utilization, r.growth)) =
        [(queue, some (.finite 1), .durable), (render, some (.finite 0), .hold)] ∧
      List.Forall₂ (FollowsReadings (Policy.ofProfile .poolTracking)
        ⟨unread.1, unread.2, report, calls⟩) report.pools (c.logs gauged unread) ∧
      ∀ l ∈ c.logs gauged unread,
        l.left = Controller.remaining l.workers report.destroyed := by
  have run := (Controller.run_history exactTracker_new gauged [unread, unread]).1
  have accepted := Controller.tick_history exactTracker_new gauged [unread, unread] unread
  obtain ⟨_, follows, left⟩ := growth_follows_readings run accepted
  refine ⟨_, _, _, _, _, _, run, accepted, ?_, ?_, follows, left ?_⟩
  all_goals decide +kernel

end Lingering

end Main

end ElasticPools
