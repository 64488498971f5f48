import ElasticPools.Proofs.StreakLength

/-!
What is left of a streak after a setback. A destruction that is refused leaves the streak one short of
the grace that had elapsed, and the next tick on which the worker qualifies compares it with the grace
of the state in which it finds the pool. So it tries again just if that grace is no longer than the
first. Work ends a streak, wherever the worker is, unless the tick seeds the worker's kind: a tick that
seeds a kind does not look at its workers, and one that comes from another kind keeps what it brings.
-/

set_option autoImplicit false

namespace ElasticPools

variable {σ α : Type}

namespace Controller

/-- After a refusal one more tick makes up the grace. -/
theorem Treatment.of_refused {next grace : Nat} {qualifies : Bool} {answers : List Answer}
    {kept : Option Nat} (treated : Treatment next grace qualifies answers kept) {reason : Refusal}
    (refused : Except.error reason ∈ answers) : kept = some (grace - 1) := by
  cases treated with
  | cleared | counted => cases refused
  | destroyed => cases List.mem_singleton.mp refused
  | refused => rfl

/-- A worker that qualifies is attacked once its streak is long enough, and before that it is counted. -/
theorem Treatment.attacked_iff {next grace : Nat} {answers : List Answer} {kept : Option Nat}
    (treated : Treatment next grace true answers kept) :
    ((∃ answer, answer ∈ answers) ↔ grace ≤ next) ∧ (next < grace → kept = some next) := by
  cases treated with
  | counted below => simp [below]
  | destroyed reached => simp [reached]
  | refused reached => exact ⟨by simp [reached], fun below => absurd reached (Nat.not_le.mpr below)⟩

/-- A worker that does not qualify loses its streak. -/
theorem Treatment.of_unqualified {next grace : Nat} {answers : List Answer} {kept : Option Nat}
    (treated : Treatment next grace false answers kept) : kept = none := by
  cases treated with
  | cleared => rfl

variable [Quantity α]

namespace Ticked

variable {c later : Controller α} {e : Event α} (ticked : c.Ticked e later)
  (unique : e.registry.Unique) {r : PoolReport α} (reported : r ∈ e.report.pools)
  {workers : List Worker} (found : e.registry.pool? r.kind = some workers) {v : Worker}
  (inside : v ∈ workers)

include ticked unique reported found inside

theorem count?_of_refused {reason : Refusal} (refused : .destruction v.id (.error reason) ∈ e.calls) :
    later.streaks.count? v.id = some (c.policy.grace r.state - 1) := by
  have dealt := ticked.poolTick reported found
  have attempted := Call.mem_attemptsOn.mpr refused
  cases growing : r.state.evaluatesGrowth with
  | true => exact (dealt.treated unique growing v inside).of_refused attempted
  | false =>
    rw [(dealt.waiting unique growing v inside).1] at attempted
    cases attempted

theorem attacked_iff_of_qualified (qualified : e.Qualified c.policy v.id) :
    ((∃ answer, .destruction v.id answer ∈ e.calls) ↔
        c.policy.grace r.state ≤ c.streaks.next v.id) ∧
      (c.streaks.next v.id < c.policy.grace r.state →
        later.streaks.count? v.id = some (c.streaks.next v.id)) := by
  have qualifies : c.policy.qualifies e.reading r.state v = true :=
    (ticked.shows_iff unique reported found inside).mp (Event.qualified_iff_counted.mp qualified)
  have treated := (ticked.poolTick reported found).treated unique
    (Policy.of_qualifies qualifies).1 v inside
  rw [qualifies] at treated
  simp only [← Call.mem_attemptsOn]
  exact treated.attacked_iff

/-- Work ends a streak in every pool that is looked at. In a pool that is seeded the streak stays. -/
theorem count?_of_busy (busy : v.busy = true) : later.streaks.count? v.id =
    if r.state = .seeding then c.streaks.count? v.id else none := by
  have dealt := ticked.poolTick reported found
  have unqualified : c.policy.qualifies e.reading r.state v = false := by
    cases r.state <;> simp [Policy.qualifies, busy]
  cases state : r.state with
  | seeding => exact (dealt.waiting unique (by rw [state]; rfl) v inside).2
  | empty =>
    rw [of_stateOf_empty (dealt.state.symm.trans state)] at inside
    cases inside
  | singleton | atTarget | general =>
    have treated := dealt.treated unique (by rw [state]; rfl) v inside
    rw [unqualified] at treated
    exact treated.of_unqualified

end Ticked

end Controller

namespace Run

variable [Quantity α] {policy : Policy α} {p : Provider σ α} {past : List (Event α)}
  {c : Controller α}

/-- A worker that brings a streak into a kind that is to be seeded was in another kind before: a kind
that the latest tick saw is not seeded unless it was forgotten, and then its worker was destroyed. -/
theorem moved_of_seeding (run : Run policy p past c) (unique : ∀ f ∈ past.head?, f.registry.Unique)
    {kind : Kind} {workers : List Worker}
    (seeding : Controller.stateOf c.policy kind workers c.targets = .seeding) {w : WorkerId}
    (streak : (c.streaks.count? w).isSome = true) :
    ∃ f ∈ past.head?, ∃ other, other ≠ kind ∧ f.Lists other w := by
  obtain ⟨n, count⟩ := Option.isSome_iff_exists.mp streak
  match past with
  | [] =>
    rw [run.new_eq.2, IdleStreaks.count?_empty] at count
    cases count
  | f :: older =>
    obtain ⟨before, _, ticked⟩ := run.last
    by_cases live : w ∈ f.registry.workerIds
    case neg =>
      rw [(ticked.absentWorker w live).1] at count
      cases count
    obtain ⟨other, others, found, listed⟩ := Registry.mem_workerIds.mp live
    obtain ⟨v, inside, rfl⟩ := List.mem_map.mp listed
    refine ⟨f, rfl, other, ?_, others, found, v, inside, rfl⟩
    rintro rfl
    obtain ⟨tracking, unseen⟩ := Controller.stateOf_eq_seeding_iff.mp seeding
    rw [run.policy_eq] at tracking
    -- had it been in this kind, the kind would be new or forgotten, and neither leaves it a streak
    rcases (run.not_contains_iff tracking other).mp unseen with absent | forgotten
    · rw [Registry.contains_eq, found] at absent
      cases absent
    · obtain ⟨r, _, dealt⟩ := ticked.pool other others found
      have registry := unique f rfl
      have destroyed := dealt.destroyed_of_forgotten ticked registry forgotten inside
      have growing : r.state.evaluatesGrowth = true := by
        rw [(dealt.dropped forgotten).1]
        rfl
      have treated := dealt.treated registry growing v inside
      rw [count] at treated
      exact treated.of_kept.2.2 destroyed

end Run

section Main

variable [Quantity α] {policy : Policy α} {p : Provider σ α}

/-- A destruction that was refused is tried again on the next tick, if the worker qualifies on it, just
if the grace of its pool's state has not become longer. If it has, the worker goes on waiting. -/
theorem retried_iff {e f : Event α} {past : List (Event α)} {c : Controller α} {w : WorkerId}
    {reason : Refusal} {r q : PoolReport α} (run : Run policy p (e :: f :: past) c)
    (unique : e.registry.Unique) (unique' : f.registry.Unique)
    (refused : .destruction w (.error reason) ∈ f.calls) (reported : r ∈ f.report.pools)
    (listed : f.Lists r.kind w) (reported' : q ∈ e.report.pools) (listed' : e.Lists q.kind w)
    (qualified : e.Qualified policy w) :
    ((∃ answer, .destruction w answer ∈ e.calls) ↔ policy.grace q.state ≤ policy.grace r.state) ∧
      (policy.grace r.state < policy.grace q.state →
        c.streaks.count? w = some (policy.grace r.state)) := by
  obtain ⟨between, earlier, ticked⟩ := run.last
  obtain ⟨before, first, ticked'⟩ := earlier.last
  obtain ⟨workers, found, v, inside, rfl⟩ := listed
  obtain ⟨workers', found', v', inside', named⟩ := listed'
  -- the refusal left the streak one short of its grace, and this tick counts the missing one
  have count := ticked'.count?_of_refused unique' reported found inside refused
  rw [first.policy_eq] at count
  have next : between.streaks.next v.id = policy.grace r.state := by
    rw [IdleStreaks.next_eq, count, Option.getD_some]
    exact Nat.sub_add_cancel (run.sound.grace_pos r.state)
  rw [← named] at qualified next ⊢
  rw [← earlier.policy_eq] at qualified
  have decided := ticked.attacked_iff_of_qualified unique reported' found' inside' qualified
  rwa [next, earlier.policy_eq] at decided

namespace Lingering

/-- One worker cannot be destroyed. -/
def stubborn : Provider (Registry × (Worker → Float)) Float :=
  { provider with
    destroy := fun v world =>
      if v.id = first then (.error (.destruction v.id "worker picked up a task"), world)
      else (.ok (), world) }

theorem retried_iff_again :
    ∃ (e f : Event Float) (past : List (Event Float)) (c : Controller Float) (reason : Refusal),
      Run (Policy.ofProfile .simple) stubborn (e :: f :: past) c ∧
      .destruction first (.error reason) ∈ f.calls ∧
      (∀ r ∈ f.report.pools, r.state = .general) ∧ (∀ q ∈ e.report.pools, q.state = .general) ∧
      ∃ answer, .destruction first answer ∈ e.calls := by
  have run := (Controller.run_history controller_new stubborn [pair, pair, pair]).1
  obtain ⟨e, f, past, c, run, unique, unique', refused, ⟨r, reported, listed⟩, ⟨q, reported', listed'⟩,
      qualified, general, general'⟩ :
      ∃ (e f : Event Float) (past : List (Event Float)) (c : Controller Float),
        Run (Policy.ofProfile .simple) stubborn (e :: f :: past) c ∧
        e.registry.Unique ∧ f.registry.Unique ∧
        Call.attemptsOn first f.calls = [.error (.destruction first "worker picked up a task")] ∧
        (∃ r ∈ f.report.pools, f.Lists r.kind first) ∧ (∃ q ∈ e.report.pools, e.Lists q.kind first) ∧
        e.Qualified (Policy.ofProfile .simple) first ∧
        (∀ r ∈ f.report.pools, r.state = .general) ∧ ∀ q ∈ e.report.pools, q.state = .general := by
    refine ⟨_, _, _, _, run, ?_, ?_, ?_, ?_, ?_, ?_, ?_, ?_⟩
    all_goals decide +kernel
  have called := Call.mem_attemptsOn.mp (refused ▸ List.mem_cons_self)
  have retried := retried_iff run unique unique' called reported listed reported' listed' qualified
  rw [general r reported, general' q reported'] at retried
  exact ⟨e, f, past, c, _, run, called, general, general', retried.1.mpr (Nat.le_refl _)⟩

/-- When the other worker of its pool has gone, a worker that was not destroyed is its last, and waits
for the longest grace. -/
theorem not_retried :
    ¬ ∀ (policy : Policy Float) (e f : Event Float) (past : List (Event Float)) (c : Controller Float)
      (kind : Kind) (w : WorkerId) (reason : Refusal),
      Run policy stubborn (e :: f :: past) c → (∀ g ∈ e :: f :: past, g.registry.Unique) →
      .destruction w (.error reason) ∈ f.calls → f.Lists kind w → e.Lists kind w →
      e.Qualified policy w → ∃ answer, .destruction w answer ∈ e.calls := by
  intro retried
  have run := (Controller.run_history controller_new stubborn [alone, pair, pair]).1
  obtain ⟨e, f, past, c, run, unique, refused, listed, listed', qualified, uncalled⟩ :
      ∃ (e f : Event Float) (past : List (Event Float)) (c : Controller Float),
        Run (Policy.ofProfile .simple) stubborn (e :: f :: past) c ∧
        (∀ g ∈ e :: f :: past, g.registry.Unique) ∧
        Call.attemptsOn first f.calls = [.error (.destruction first "worker picked up a task")] ∧
        f.Lists queue first ∧ e.Lists queue first ∧
        e.Qualified (Policy.ofProfile .simple) first ∧ Call.attemptsOn first e.calls = [] := by
    refine ⟨_, _, _, _, run, ?_, ?_, ?_, ?_, ?_, ?_⟩
    all_goals decide +kernel
  obtain ⟨answer, called⟩ := retried _ e f past c queue first _ run unique
    (Call.mem_attemptsOn.mp (refused ▸ List.mem_cons_self)) listed listed' qualified
  rw [← Call.mem_attemptsOn, uncalled] at called
  exact List.not_mem_nil called

end Lingering

/-- A worker that has work keeps a streak just if the tick seeds its kind and it brought one along. It
was then moved to that kind since the tick before. -/
theorem busy_keeps_streak_iff {past : List (Event α)} {c later : Controller α} {number : Nat}
    {world after : σ} {report : Report α} {calls : List Call} {r : PoolReport α}
    {workers : List Worker} {v : Worker} (run : Run policy p past c)
    (accepted : c.tick p.recorded number (world, []) = .ok (report, later, after, calls))
    (unique : (p.registry world).Unique) (unique' : ∀ f ∈ past.head?, f.registry.Unique)
    (reported : r ∈ report.pools) (found : (p.registry world).pool? r.kind = some workers)
    (inside : v ∈ workers) (busy : v.busy = true) :
    ((later.streaks.count? v.id).isSome = true ↔
        r.state = .seeding ∧ (c.streaks.count? v.id).isSome = true) ∧
      ((later.streaks.count? v.id).isSome = true →
        ∃ f ∈ past.head?, ∃ other, other ≠ r.kind ∧ f.Lists other v.id) := by
  have ticked := Controller.ticked_of_accepted accepted
  have kept : (later.streaks.count? v.id).isSome = true ↔
      r.state = .seeding ∧ (c.streaks.count? v.id).isSome = true := by
    rw [ticked.count?_of_busy unique reported found inside busy]
    by_cases seeding : r.state = .seeding
    · simp [seeding]
    · simp [seeding]
  refine ⟨kept, fun streak => ?_⟩
  obtain ⟨seeding, brought⟩ := kept.mp streak
  have state := (ticked.poolTick reported found).state
  exact run.moved_of_seeding unique' (state.symm.trans seeding) brought

namespace Lingering

/-- The worker that was no longer used has been moved to a new kind, and has work there. -/
def moved : Registry × (Worker → Float) :=
  ((Registry.empty.add queue ⟨second, true⟩).add render ⟨first, true⟩, fun _ => 0.5)

theorem run_moved :
    ∃ (past : List (Event Float)) (c later : Controller Float) (report : Report Float)
      (after : Registry × (Worker → Float)) (calls : List Call),
      Run (Policy.ofProfile .poolTracking) provider past c ∧
      c.tick provider.recorded 3 (moved, []) = .ok (report, later, after, calls) ∧
      (∀ f ∈ past, f.registry.Unique) ∧ moved.1.Unique ∧ (∃ r ∈ report.pools, r.kind = render) ∧
      moved.1.pool? render = some [⟨first, true⟩] ∧ later.streaks.count? first = some 1 := by
  have run := (Controller.run_history tracker_new provider [joined, joined]).1
  have accepted := Controller.tick_history tracker_new provider [joined, joined] moved
  refine ⟨_, _, _, _, _, _, run, accepted, ?_, ?_, ?_, ?_, ?_⟩
  all_goals decide +kernel

theorem busy_keeps_streak_iff_moved :
    ∃ (past : List (Event Float)) (c later : Controller Float) (report : Report Float)
      (after : Registry × (Worker → Float)) (calls : List Call),
      Run (Policy.ofProfile .poolTracking) provider past c ∧
      c.tick provider.recorded 3 (moved, []) = .ok (report, later, after, calls) ∧
      later.streaks.count? first = some 1 ∧
      (∃ r ∈ report.pools, r.kind = render ∧ r.state = .seeding) ∧
      ∃ f ∈ past.head?, ∃ other, other ≠ render ∧ f.Lists other first := by
  obtain ⟨past, c, later, report, after, calls, run, accepted, unique, registry,
    ⟨r, reported, named⟩, found, count⟩ := run_moved
  rw [← named] at found
  obtain ⟨kept, moves⟩ := busy_keeps_streak_iff run accepted registry
    (fun f latest => unique f (List.mem_of_mem_head? latest)) reported found List.mem_cons_self rfl
  have streak : (later.streaks.count? first).isSome = true := by rw [count]; rfl
  refine ⟨past, c, later, report, after, calls, run, accepted, count,
    ⟨r, reported, named, (kept.mp streak).1⟩, ?_⟩
  rw [← named]
  exact moves streak

/-- Work does not end the streak of every worker. -/
theorem not_cleared_of_busy :
    ¬ ∀ (policy : Policy Float) (e : Event Float) (past : List (Event Float)) (c : Controller Float)
      (kind : Kind) (workers : List Worker) (v : Worker),
      Run policy provider (e :: past) c → (∀ f ∈ e :: past, f.registry.Unique) →
      e.registry.pool? kind = some workers → v ∈ workers → v.busy = true →
      c.streaks.count? v.id = none := by
  intro cleared
  obtain ⟨past, c, later, report, after, calls, run, accepted, unique, registry, _, found, count⟩ :=
    run_moved
  have none := cleared _ _ past later render _ ⟨first, true⟩ (run.tick accepted)
    (List.forall_mem_cons.mpr ⟨registry, unique⟩) found List.mem_cons_self rfl
  rw [none] at count
  cases count

end Lingering

end Main

end ElasticPools
