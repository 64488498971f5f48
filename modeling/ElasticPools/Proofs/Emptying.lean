import ElasticPools.Proofs.Seeding

/-!
Pools that lose all their workers at once. Each worker of a pool is judged by itself, so nothing keeps
all of them from coming to the end of their grace periods together. A pool of several workers is
emptied on a tick just if every one of its workers falls due on it and no destruction is refused. Its
kind stays, and the growth check, which then has nobody to take the mean of, asks for nothing.
-/

set_option autoImplicit false

namespace ElasticPools

variable {σ α : Type}

namespace Controller

theorem classify_several {size : Nat} {target : Option Nat}
    (several : PoolState.classify size target = .atTarget ∨ PoolState.classify size target = .general) :
    2 ≤ size := by
  match size with
  | 0 => rcases several with found | found <;> cases found
  | 1 => rcases several with found | found <;> cases found
  | n + 2 => exact Nat.le_add_left 2 n

theorem evaluatesGrowth_of_several {state : PoolState}
    (several : state = .atTarget ∨ state = .general) : state.evaluatesGrowth = true := by
  rcases several with rfl | rfl <;> rfl

/-- Only a pool of several workers is at its target or beside it. -/
theorem two_le_of_stateOf {policy : Policy α} {kind : Kind} {workers : List Worker}
    {targets : Targets} (several : stateOf policy kind workers targets = .atTarget ∨
      stateOf policy kind workers targets = .general) : 2 ≤ workers.length := by
  unfold stateOf at several
  split at several
  · rcases several with found | found <;> cases found
  · exact classify_several several

/-- A worker is destroyed if it is due and its destruction is not refused. -/
theorem Treatment.destroyed_iff {next grace : Nat} {qualifies : Bool} {answers : List Answer}
    {kept : Option Nat} (treated : Treatment next grace qualifies answers kept) :
    Except.ok () ∈ answers ↔
      (qualifies = true ∧ grace ≤ next) ∧ ∀ reason, Except.error reason ∉ answers := by
  cases treated with
  | cleared => simp
  | counted below => simp [Nat.not_le.mpr below]
  | destroyed reached => simp [reached]
  | refused reached reason => simp

theorem remaining_eq_nil_iff {workers : List Worker} {destroyed : List WorkerId} :
    remaining workers destroyed = [] ↔ ∀ v ∈ workers, v.id ∈ destroyed := by
  simp [remaining, List.filter_eq_nil_iff]

variable [Quantity α]

/-- The worker of a pool of several qualifies, and with this tick it has done so for as long as the
state of its pool asks for. -/
def Due (c : Controller α) (reading : Worker → α) (state : PoolState) (v : Worker) : Prop :=
  (v.busy = false ∧ Utilization.sanitize (reading v) < c.policy.minimum) ∧
    c.policy.grace state ≤ c.streaks.next v.id

/-- What a tick may take from a pool of several workers. -/
structure Losses (c : Controller α) (e : Event α) (workers : List Worker) (r : PoolReport α) :
    Prop where
  size : r.size = workers.length
  several : 2 ≤ r.size
  bounded : r.destroyed ≤ r.size
  all_iff : r.destroyed = r.size ↔
    ∀ v ∈ workers, c.Due e.reading r.state v ∧ ∀ reason, .destruction v.id (.error reason) ∉ e.calls
  /-- While there are workers left, the growth check takes their mean, if it is not skipped. -/
  left : r.destroyed < r.size → remaining workers e.report.destroyed ≠ [] ∧
    (c.policy.skipGrowthAfterLoss = true ∧ 0 < r.destroyed ∨
      ∃ mean, Utilization.mean? e.reading (remaining workers e.report.destroyed) = some mean ∧
        r.utilization = some mean)
  /-- Where none is left the check comes to nothing. -/
  emptied : r.destroyed = r.size → remaining workers e.report.destroyed = [] ∧
    r.utilization = none ∧ r.growth = .skipped ∧ Call.answersFor r.kind e.calls = []
  kept : r.kind ∉ e.report.forgotten

namespace PoolTick

variable {c later : Controller α} {e : Event α} {kind : Kind} {workers : List Worker}
  {r : PoolReport α} (dealt : PoolTick c e later kind workers r) (ticked : c.Ticked e later)
  (unique : e.registry.Unique)

include dealt unique

/-- The lost workers of a pool are those whose destruction is reported. -/
theorem destroyed_le : r.destroyed ≤ r.size := by
  rw [dealt.lost unique, dealt.size, ← List.length_map (·.id)]
  exact List.countP_le_length

theorem destroyed_eq_size_iff :
    r.destroyed = r.size ↔ remaining workers e.report.destroyed = [] := by
  rw [dealt.lost unique, dealt.size, ← List.length_map (·.id), List.countP_eq_length,
    remaining_eq_nil_iff]
  simp

include ticked in
theorem mem_destroyed_iff_due (several : r.state = .atTarget ∨ r.state = .general) {v : Worker}
    (inside : v ∈ workers) : v.id ∈ e.report.destroyed ↔
      c.Due e.reading r.state v ∧ ∀ reason, .destruction v.id (.error reason) ∉ e.calls := by
  have growing := evaluatesGrowth_of_several several
  have qualifies : c.policy.qualifies e.reading r.state v = true ↔
      v.busy = false ∧ Utilization.sanitize (e.reading v) < c.policy.minimum := by
    rcases several with state | state <;> simp [state, Policy.qualifies]
  rw [← ticked.destroyed, Call.mem_destroyed, (dealt.treated unique growing v inside).destroyed_iff,
    qualifies]
  simp only [Due, Call.mem_attemptsOn]

include ticked in
theorem losses (several : r.state = .atTarget ∨ r.state = .general) : Losses c e workers r := by
  obtain rfl := dealt.named
  have kept : r.kind ∉ e.report.forgotten := by
    intro forgotten
    have lone := (dealt.dropped forgotten).1
    rcases several with state | state <;> rw [state] at lone <;> cases lone
  have growing := evaluatesGrowth_of_several several
  have utilization := dealt.utilization unique
  simp only [skipsGrowth, growing, decide_eq_false kept, Bool.not_true, Bool.false_or] at utilization
  have all := dealt.destroyed_eq_size_iff unique
  constructor
  case size => exact dealt.size
  case several =>
    rw [dealt.state] at several
    rw [dealt.size]
    exact two_le_of_stateOf several
  case bounded => exact dealt.destroyed_le unique
  case all_iff =>
    rw [all, remaining_eq_nil_iff]
    exact forall₂_congr fun v inside => dealt.mem_destroyed_iff_due ticked unique several inside
  case left =>
    -- only an empty pool has no mean
    intro fewer
    have populated : remaining workers e.report.destroyed ≠ [] := fun none =>
      Nat.ne_of_lt fewer (all.mpr none)
    refine ⟨populated, ?_⟩
    by_cases skipped : c.policy.skipGrowthAfterLoss = true ∧ 0 < r.destroyed
    · exact Or.inl skipped
    · have counted : Utilization.mean? e.reading (remaining workers e.report.destroyed) ≠ none :=
        mt Utilization.mean?_eq_none_iff.mp populated
      obtain ⟨mean, found⟩ := Option.ne_none_iff_exists'.mp counted
      refine Or.inr ⟨mean, found, ?_⟩
      rw [utilization, if_neg, found]
      simpa using skipped
  case emptied =>
    intro whole
    have none := all.mp whole
    have unread : r.utilization = .none := by
      rw [utilization, none]
      split <;> rfl
    have skipped : r.growth = .skipped := by
      rw [dealt.grown.growth, unread]
      rfl
    refine ⟨none, unread, skipped, List.length_eq_zero_iff.mp ?_⟩
    rw [dealt.asked, c.policy.requests_of_growing growing, skipped]
    rfl
  case kept => exact kept

end PoolTick

end Controller

section Main

variable [Quantity α] {p : Provider σ α} {c later : Controller α} {number : Nat} {world after : σ}
  {report : Report α} {calls : List Call}

/-- A pool of several workers loses some of them and keeps others, unless all of them fall due on the
same tick and no destruction is refused. -/
theorem losses_of_several
    (accepted : c.tick p.recorded number (world, []) = .ok (report, later, after, calls))
    (unique : (p.registry world).Unique) {r : PoolReport α} (reported : r ∈ report.pools)
    (several : r.state = .atTarget ∨ r.state = .general) :
    ∃ workers, (p.registry world).pool? r.kind = some workers ∧
      c.Losses ⟨p.registry world, p.reading world, report, calls⟩ workers r := by
  have ticked := Controller.ticked_of_accepted accepted
  obtain ⟨workers, found, dealt⟩ := ticked.registered reported
  exact ⟨workers, found, dealt.losses ticked unique several⟩

namespace Lingering

/-- Two idle workers that come together go together. The growth check is not skipped, and finds an
empty pool. -/
theorem tick_pair :
    ∃ (past : List (Event Float)) (c later : Controller Float) (report : Report Float)
      (after : Registry × (Worker → Float)) (calls : List Call) (r : PoolReport Float),
      Run (Policy.ofProfile .poolTracking) provider past c ∧
      c.tick provider.recorded 3 (pair, []) = .ok (report, later, after, calls) ∧
      pair.1.Unique ∧ r ∈ report.pools ∧ r.kind = queue ∧ r.state = .general ∧ r.destroyed = r.size := by
  have run := (Controller.run_history tracker_new provider [pair, pair]).1
  have accepted := Controller.tick_history tracker_new provider [pair, pair] pair
  obtain ⟨r, reported, named, general, whole⟩ :
      ∃ r ∈ ((tracker.history provider [pair, pair]).2.evaluateTick provider.recorded 3
        (pair, [])).1.pools, r.kind = queue ∧ r.state = .general ∧ r.destroyed = r.size := by
    decide +kernel
  exact ⟨_, _, _, _, _, _, r, run, accepted, by decide +kernel, reported, named, general, whole⟩

theorem losses_of_several_pair :
    ∃ (past : List (Event Float)) (c later : Controller Float) (report : Report Float)
      (after : Registry × (Worker → Float)) (calls : List Call) (r : PoolReport Float),
      Run (Policy.ofProfile .poolTracking) provider past c ∧
      c.tick provider.recorded 3 (pair, []) = .ok (report, later, after, calls) ∧
      r ∈ report.pools ∧ r.destroyed = r.size ∧ r.utilization = none ∧ r.growth = .skipped ∧
      (∀ v ∈ [⟨first, false⟩, ⟨second, false⟩], c.Due pair.2 r.state v) ∧
      c.Losses ⟨pair.1, pair.2, report, calls⟩ [⟨first, false⟩, ⟨second, false⟩] r := by
  obtain ⟨past, c, later, report, after, calls, r, run, accepted, unique, reported, named, general,
    whole⟩ := tick_pair
  obtain ⟨workers, found, losses⟩ := losses_of_several accepted unique reported (Or.inr general)
  have shown : pair.1.pool? queue = some [⟨first, false⟩, ⟨second, false⟩] := by decide +kernel
  rw [named] at found
  obtain rfl := Option.some.inj (found.symm.trans shown)
  obtain ⟨_, unread, skipped, _⟩ := losses.emptied whole
  refine ⟨past, c, later, report, after, calls, r, run, accepted, reported, whole, unread, skipped,
    fun v inside => (losses.all_iff.mp whole v inside).1, losses⟩

/-- A pool of several workers may lose all of them on one tick. -/
theorem not_loses_fewer :
    ¬ ∀ (policy : Policy Float) (past : List (Event Float)) (c later : Controller Float)
      (number : Nat) (world after : Registry × (Worker → Float)) (report : Report Float)
      (calls : List Call) (r : PoolReport Float),
      Run policy provider past c →
      c.tick provider.recorded number (world, []) = .ok (report, later, after, calls) →
      world.1.Unique → r ∈ report.pools → r.state = .atTarget ∨ r.state = .general →
      r.destroyed < r.size := by
  intro fewer
  obtain ⟨past, c, later, report, after, calls, r, run, accepted, unique, reported, _, general,
    whole⟩ := tick_pair
  exact Nat.ne_of_lt
    (fewer _ past c later 3 pair after report calls r run accepted unique reported (Or.inr general))
    whole

end Lingering

end Main

end ElasticPools
