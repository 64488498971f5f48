import ElasticPools.Proofs.Run

/-!
Idle streaks over whole runs. A worker's streak is never longer than the row of latest ticks that
counted it, on none of which it was destroyed. Every destruction is therefore preceded by a full
grace period. How little a worker was used is another matter: the last worker of a kind is counted
whatever its utilization, and takes its streak along when the pool grows.
-/

set_option autoImplicit false

namespace ElasticPools

variable {σ α : Type}

namespace Event

/-- The snapshot shows the worker in the pool of a kind. -/
def Lists (e : Event α) (kind : Kind) (w : WorkerId) : Prop :=
  ∃ workers, e.registry.pool? kind = some workers ∧ ∃ v ∈ workers, v.id = w

instance (e : Event α) (kind : Kind) (w : WorkerId) : Decidable (e.Lists kind w) :=
  decidable_of_iff (∃ v ∈ e.registry.pool kind, v.id = w) <| by
    constructor
    · rintro ⟨v, inside, named⟩
      obtain ⟨workers, found, inside⟩ := Registry.mem_pool.mp inside
      exact ⟨workers, found, v, inside, named⟩
    · rintro ⟨workers, found, v, inside, named⟩
      exact ⟨v, Registry.mem_pool.mpr ⟨workers, found, inside⟩, named⟩

/-- No worker that both snapshots show has changed its kind. -/
def SameKinds (later earlier : Event α) : Prop :=
  ∀ w here there, later.Lists here w → earlier.Lists there w → here = there

instance (later earlier : Event α) : Decidable (later.SameKinds earlier) :=
  decidable_of_iff (∀ q ∈ later.registry.toList, ∀ u ∈ q.2, ∀ q' ∈ earlier.registry.toList,
      ∀ v ∈ q'.2, u.id = v.id → q.1 = q'.1) <| by
    constructor
    · rintro same w here there ⟨ws, found, u, inside, rfl⟩ ⟨ws', found', v, inside', named⟩
      exact same (here, ws) (Registry.mem_toList.mpr found) u inside (there, ws')
        (Registry.mem_toList.mpr found') v inside' named.symm
    · rintro same ⟨here, ws⟩ member u inside ⟨there, ws'⟩ member' v inside' named
      exact same u.id here there ⟨ws, Registry.mem_toList.mp member, u, inside, rfl⟩
        ⟨ws', Registry.mem_toList.mp member', v, inside', named.symm⟩

/-- The tick reports a pool that shows the worker, and the two are related. -/
def Shows (e : Event α) (w : WorkerId) (related : PoolReport α → Worker → Prop) : Prop :=
  ∃ r ∈ e.report.pools, ∃ workers, e.registry.pool? r.kind = some workers ∧
    ∃ v ∈ workers, v.id = w ∧ related r v

instance (e : Event α) (w : WorkerId) (related : PoolReport α → Worker → Prop)
    [∀ r v, Decidable (related r v)] : Decidable (e.Shows w related) :=
  decidable_of_iff (∃ r ∈ e.report.pools, ∃ v ∈ e.registry.pool r.kind, v.id = w ∧ related r v) <| by
    constructor
    · rintro ⟨r, reported, v, inside, shown⟩
      obtain ⟨workers, found, inside⟩ := Registry.mem_pool.mp inside
      exact ⟨r, reported, workers, found, v, inside, shown⟩
    · rintro ⟨r, reported, workers, found, v, inside, shown⟩
      exact ⟨r, reported, v, Registry.mem_pool.mpr ⟨workers, found, inside⟩, shown⟩

/-- The worker was idle in a pool that the tick evaluated. -/
def Idle (e : Event α) (w : WorkerId) : Prop :=
  e.Shows w fun r v => r.state ≠ .seeding ∧ v.busy = false

/-- The worker was the only one of its kind. -/
def Alone (e : Event α) (w : WorkerId) : Prop := e.Shows w fun r _ => r.state = .singleton

variable [Quantity α]

/-- The worker's utilization was below the minimum. -/
def LittleUsed (policy : Policy α) (e : Event α) (w : WorkerId) : Prop :=
  e.Shows w fun _ v => Utilization.sanitize (e.reading v) < policy.minimum

/-- The tick counted the worker towards its destruction. -/
def Counted (policy : Policy α) (e : Event α) (w : WorkerId) : Prop :=
  e.Shows w fun r v => policy.qualifies e.reading r.state v = true

theorem Counted.idle {policy : Policy α} {e : Event α} {w : WorkerId}
    (counted : e.Counted policy w) : e.Idle w := by
  obtain ⟨r, reported, workers, found, v, inside, named, qualifies⟩ := counted
  obtain ⟨growing, idle, _⟩ := Policy.of_qualifies qualifies
  refine ⟨r, reported, workers, found, v, inside, named, ?_, idle⟩
  intro seeding
  rw [seeding] at growing
  cases growing

/-- Only the last worker of a kind is counted in spite of its utilization. -/
theorem Counted.alone_or_littleUsed {policy : Policy α} {e : Event α} {w : WorkerId}
    (counted : e.Counted policy w) : e.Alone w ∨ e.LittleUsed policy w := by
  obtain ⟨r, reported, workers, found, v, inside, named, qualifies⟩ := counted
  rcases (Policy.of_qualifies qualifies).2.2 with singleton | below
  · exact Or.inl ⟨r, reported, workers, found, v, inside, named, singleton⟩
  · exact Or.inr ⟨r, reported, workers, found, v, inside, named, below⟩

end Event

variable [Quantity α]

/-- Each of the latest `n` ticks counted the worker, and none destroyed it. -/
structure Streak (policy : Policy α) (events : List (Event α)) (w : WorkerId) (n : Nat) : Prop where
  enough : n ≤ events.length
  counted : ∀ e ∈ events.take n, e.Counted policy w ∧ Except.ok () ∉ Call.attemptsOn w e.calls

namespace Streak

variable {policy : Policy α} {events : List (Event α)} {w : WorkerId} {n m : Nat}

theorem mono (streak : Streak policy events w n) (fewer : m ≤ n) : Streak policy events w m := by
  refine ⟨Nat.le_trans fewer streak.enough, fun e member => streak.counted e ?_⟩
  exact (List.take_prefix_take_left fewer).subset member

theorem cons {e : Event α} (streak : Streak policy events w n) (counted : e.Counted policy w)
    (alive : Except.ok () ∉ Call.attemptsOn w e.calls) : Streak policy (e :: events) w (n + 1) := by
  refine ⟨Nat.succ_le_succ streak.enough, fun f member => ?_⟩
  rw [List.take_succ_cons] at member
  rcases List.mem_cons.mp member with rfl | member
  · exact ⟨counted, alive⟩
  · exact streak.counted f member

/-- A missing streak is one of length zero. -/
theorem of_count? {s : IdleStreaks}
    (kept : ∀ n, s.count? w = some n → Streak policy events w (max n 1)) :
    Streak policy events w ((s.count? w).getD 0) := by
  cases count : s.count? w with
  | none => exact ⟨Nat.zero_le _, nofun⟩
  | some n => exact (kept n count).mono (Nat.le_max_left n 1)

end Streak

namespace Controller

/-- What a tick that leaves a streak behind has done to the worker. -/
theorem Treatment.of_kept {next grace n : Nat} {qualifies : Bool} {answers : List Answer}
    (treated : Treatment next grace qualifies answers (some n)) :
    qualifies = true ∧ n ≤ next ∧ Except.ok () ∉ answers := by
  cases treated with
  | counted below => exact ⟨rfl, Nat.le_refl _, List.not_mem_nil⟩
  | refused reached reason =>
    refine ⟨rfl, ?_, ?_⟩
    · omega
    · rw [List.mem_singleton]
      exact nofun

/-- A kind is forgotten only together with its one worker. -/
theorem PoolTick.destroyed_of_forgotten {c later : Controller α} {e : Event α} {kind : Kind}
    {workers : List Worker} {r : PoolReport α} (dealt : PoolTick c e later kind workers r)
    (ticked : c.Ticked e later) (unique : e.registry.Unique)
    (forgotten : kind ∈ e.report.forgotten) {v : Worker} (inside : v ∈ workers) :
    Except.ok () ∈ Call.attemptsOn v.id e.calls := by
  obtain ⟨singleton, positive, _⟩ := dealt.dropped forgotten
  obtain ⟨u, rfl⟩ := of_stateOf_singleton (dealt.state.symm.trans singleton)
  rw [dealt.lost unique, List.countP_pos_iff] at positive
  obtain ⟨w, listed, destroyed⟩ := positive
  rw [List.map_singleton, List.mem_singleton] at listed
  rw [List.mem_singleton.mp inside, ← listed, ← Call.mem_destroyed, ticked.destroyed]
  exact of_decide_eq_true destroyed

/-- A worker is attacked in a pool in which it qualifies, and when its streak has reached the grace
of that pool's state. -/
theorem PoolTick.of_called {c later : Controller α} {e : Event α} {kind : Kind}
    {workers : List Worker} {r : PoolReport α} (dealt : PoolTick c e later kind workers r)
    (unique : e.registry.Unique) {v : Worker} (inside : v ∈ workers) {answer : Answer}
    (called : .destruction v.id answer ∈ e.calls) :
    c.policy.qualifies e.reading r.state v = true ∧
      c.policy.grace r.state ≤ c.streaks.next v.id := by
  have attempted := Call.mem_attemptsOn.mpr called
  cases growing : r.state.evaluatesGrowth with
  | true => exact (dealt.treated unique growing v inside).of_mem attempted
  | false =>
    rw [(dealt.waiting unique growing v inside).1] at attempted
    cases attempted

end Controller

namespace Run

variable {policy : Policy α} {p : Provider σ α} {e : Event α} {past events : List (Event α)}
  {c : Controller α}

/-- A worker that the latest tick counted and left alive is not in a pool that is empty or seeded
on the next tick: its kind kept its target. -/
theorem evaluates_after_counted {before : Controller α} (run : Run policy p past before)
    (unique : ∀ f ∈ past, f.registry.Unique) (settled : (e :: past).IsChain Event.SameKinds)
    {w : WorkerId} (streak : Streak policy past w 1) {r : PoolReport α} {workers : List Worker}
    (state : r.state = Controller.stateOf before.policy r.kind workers before.targets)
    (found : e.registry.pool? r.kind = some workers) {v : Worker} (inside : v ∈ workers)
    (named : v.id = w) : r.state.evaluatesGrowth = true := by
  match past, streak.enough with
  | f :: older, _ =>
    obtain ⟨counted, alive⟩ := streak.counted f List.mem_cons_self
    obtain ⟨q, reported, pool, there, u, member, same, _⟩ := counted
    have kinds : r.kind = q.kind :=
      (List.isChain_cons_cons.mp settled).1 w r.kind q.kind
        ⟨workers, found, v, inside, named⟩ ⟨pool, there, u, member, same⟩
    obtain ⟨first, _, ticked⟩ := run.last
    have dealt := ticked.poolTick reported there
    cases found : r.state with
    | singleton | atTarget | general => rfl
    | empty =>
      rw [Controller.of_stateOf_empty (state.symm.trans found)] at inside
      cases inside
    | seeding =>
      obtain ⟨tracking, unseen⟩ := Controller.of_stateOf_seeding (state.symm.trans found)
      rw [ticked.policy] at tracking
      rw [kinds, ← Bool.not_eq_true, dealt.target tracking, Classical.not_not] at unseen
      have destroyed := dealt.destroyed_of_forgotten ticked (unique f List.mem_cons_self) unseen member
      rw [same] at destroyed
      exact absurd destroyed alive

/-- Induction over the run. A worker that leaves the snapshot loses its streak, and an evaluated
worker keeps one only by being counted. Where a pool is not evaluated the streak of its workers
stays, but then there is none. -/
theorem streak (run : Run policy p events c) (unique : ∀ e ∈ events, e.registry.Unique)
    (settled : events.IsChain Event.SameKinds) {w : WorkerId} {n : Nat}
    (count : c.streaks.count? w = some n) : Streak policy events w (max n 1) := by
  induction events generalizing c n with
  | nil =>
    cases run with
    | start created =>
      unfold Controller.new at created
      split at created
      · rw [← Except.ok.inj created] at count
        simp at count
      · cases created
  | cons e past ih =>
    obtain ⟨before, run, ticked⟩ := run.last
    have distinct : ∀ f ∈ past, f.registry.Unique :=
      fun f member => unique f (List.mem_cons_of_mem e member)
    have earlier : ∀ {m : Nat}, before.streaks.count? w = some m → Streak policy past w (max m 1) :=
      ih run distinct settled.of_cons
    by_cases live : w ∈ e.registry.workerIds
    case neg =>
      rw [(ticked.absentWorker w live).1] at count
      cases count
    obtain ⟨kind, workers, found, listed⟩ := Registry.mem_workerIds.mp live
    obtain ⟨v, inside, named⟩ := List.mem_map.mp listed
    obtain ⟨r, reported, dealt⟩ := ticked.pool kind workers found
    rw [← dealt.named] at found dealt
    have registry := unique e List.mem_cons_self
    by_cases growing : r.state.evaluatesGrowth = true
    · have treated := dealt.treated registry growing v inside
      rw [named, count] at treated
      obtain ⟨qualifies, bounded, alive⟩ := treated.of_kept
      rw [run.policy_eq] at qualifies
      have counted : e.Counted policy w :=
        ⟨r, reported, workers, found, v, inside, named, qualifies⟩
      have behind : Streak policy past w ((before.streaks.count? w).getD 0) :=
        Streak.of_count? fun _ => earlier
      rw [IdleStreaks.next_eq] at bounded
      exact (behind.cons counted alive).mono (by omega)
    · have waiting := dealt.waiting registry (Bool.eq_false_iff.mpr growing) v inside
      rw [named, count] at waiting
      have kept := earlier waiting.2.symm
      exact absurd (run.evaluates_after_counted distinct settled
        (kept.mono (Nat.le_max_right n 1)) dealt.state found inside named) growing

section Destruction

variable {w : WorkerId} {answer : Answer} (run : Run policy p (e :: past) c)
  (unique : ∀ f ∈ e :: past, f.registry.Unique) (settled : (e :: past).IsChain Event.SameKinds)
  (called : .destruction w answer ∈ e.calls)

include run called in
theorem lists_of_called : ∃ r ∈ e.report.pools, e.Lists r.kind w := by
  obtain ⟨before, _, ticked⟩ := run.last
  by_cases live : w ∈ e.registry.workerIds
  case neg =>
    have member := Call.mem_attemptsOn.mpr called
    rw [(ticked.absentWorker w live).2] at member
    cases member
  obtain ⟨kind, workers, found, listed⟩ := Registry.mem_workerIds.mp live
  obtain ⟨v, inside, named⟩ := List.mem_map.mp listed
  obtain ⟨r, reported, dealt⟩ := ticked.pool kind workers found
  rw [← dealt.named] at found
  exact ⟨r, reported, workers, found, v, inside, named⟩

include run unique called in
/-- What an attack on a worker tells of its pool and of its streak. -/
theorem qualified_of_called {r : PoolReport α} (reported : r ∈ e.report.pools)
    (listed : e.Lists r.kind w) :
    (e.Shows w fun q v => q = r ∧ policy.qualifies e.reading r.state v = true) ∧
      ∃ before, Run policy p past before ∧ policy.grace r.state ≤ before.streaks.next w := by
  obtain ⟨before, earlier, ticked⟩ := run.last
  obtain ⟨workers, found, v, inside, rfl⟩ := listed
  obtain ⟨qualifies, reached⟩ :=
    (ticked.poolTick reported found).of_called (unique e List.mem_cons_self) inside called
  rw [earlier.policy_eq] at qualifies reached
  exact ⟨⟨r, reported, workers, found, v, inside, rfl, rfl, qualifies⟩, before, earlier, reached⟩

include run unique settled called in
/-- A destruction is the last tick of a full grace period. -/
theorem grace_of_called {r : PoolReport α} (reported : r ∈ e.report.pools)
    (listed : e.Lists r.kind w) :
    policy.grace r.state ≤ (e :: past).length ∧
      (∀ f ∈ (e :: past).take (policy.grace r.state), f.Counted policy w) ∧
      ∀ f ∈ past.take (policy.grace r.state - 1), .destruction w (.ok ()) ∉ f.calls := by
  obtain ⟨⟨q, member, workers, found, v, inside, named, rfl, qualifies⟩, before, earlier, reached⟩ :=
    run.qualified_of_called unique called reported listed
  have behind : Streak policy past w ((before.streaks.count? w).getD 0) :=
    Streak.of_count? fun _ => earlier.streak
      (fun f member => unique f (List.mem_cons_of_mem e member)) settled.of_cons
  rw [IdleStreaks.next_eq] at reached
  have window := behind.mono (Nat.sub_le_of_le_add reached)
  refine ⟨?_, ?_, ?_⟩
  · have enough := window.enough
    rw [List.length_cons]
    omega
  · intro f member
    have wider : policy.grace q.state ≤ policy.grace q.state - 1 + 1 := by omega
    replace member := (List.take_prefix_take_left wider).subset member
    rw [List.take_succ_cons] at member
    rcases List.mem_cons.mp member with rfl | member
    · exact ⟨q, reported, workers, found, v, inside, named, qualifies⟩
    · exact (window.counted f member).1
  · intro f member destroyed
    exact (window.counted f member).2 (Call.mem_attemptsOn.mpr destroyed)

end Destruction

end Run

/-- The worker was idle on each of the latest `grace` ticks, and only the latest may have destroyed
it. -/
structure FullGrace (events : List (Event α)) (w : WorkerId) (grace : Nat) : Prop where
  enough : grace ≤ events.length
  idle : ∀ e ∈ events.take grace, e.Idle w
  alive : ∀ e ∈ events.tail.take (grace - 1), .destruction w (.ok ()) ∉ e.calls

/-- The rule for pools of several workers, as it is written down: the worker was idle and little
used on each of the latest `grace` ticks. -/
def ShrunkByRule (policy : Policy α) (events : List (Event α)) (w : WorkerId) (grace : Nat) : Prop :=
  ∀ e ∈ events.take grace, e.Idle w ∧ e.LittleUsed policy w

instance (policy : Policy α) (events : List (Event α)) (w : WorkerId) (grace : Nat) :
    Decidable (ShrunkByRule policy events w grace) :=
  inferInstanceAs (Decidable (∀ e ∈ events.take grace,
    (e.Shows w fun r v => r.state ≠ .seeding ∧ v.busy = false) ∧
      e.Shows w fun _ v => Utilization.sanitize (e.reading v) < policy.minimum))

namespace Lingering

/-- A state shows a registry and the utilization of every worker. All calls are accepted, but no
worker leaves its pool. -/
def provider : Provider (Registry × (Worker → Float)) Float where
  registry := Prod.fst
  reading := Prod.snd
  request _ world := (.ok (), world)
  destroy _ world := (.ok (), world)
  forget kind world := (world.1.forget kind, world.2)

def queue : Kind := ⟨"queue", by decide⟩

def first : WorkerId := ⟨"vm-1", by decide⟩

def second : WorkerId := ⟨"vm-2", by decide⟩

/-- Two idle workers. -/
def pair : Registry × (Worker → Float) :=
  ((Registry.empty.add queue ⟨first, false⟩).add queue ⟨second, false⟩, fun _ => 0.0)

/-- An idle worker that has been used. -/
def alone : Registry × (Worker → Float) := (Registry.empty.add queue ⟨first, false⟩, fun _ => 0.9)

/-- The same worker, no longer used, and a busy one. -/
def joined : Registry × (Worker → Float) :=
  ((Registry.empty.add queue ⟨first, false⟩).add queue ⟨second, true⟩,
    fun v => if v.busy then 0.5 else 0.05)

def controller : Controller Float := ⟨Policy.ofProfile .simple, .empty, .empty, none, .zero⟩

theorem controller_new : Controller.new (Policy.ofProfile .simple) = .ok controller := by rfl

end Lingering

section Main

variable {policy : Policy α} {p : Provider σ α} {e : Event α} {past : List (Event α)}
  {c : Controller α} {w : WorkerId} {answer : Answer}

/-- A destruction, whatever its answer, comes at the end of a full grace period for the state in
which the worker's pool was found. -/
theorem fullGrace_of_destruction (run : Run policy p (e :: past) c)
    (unique : ∀ f ∈ e :: past, f.registry.Unique) (settled : (e :: past).IsChain Event.SameKinds)
    (called : .destruction w answer ∈ e.calls) :
    (∃ r ∈ e.report.pools, e.Lists r.kind w) ∧
      ∀ r ∈ e.report.pools, e.Lists r.kind w →
        r.state.evaluatesGrowth = true ∧ FullGrace (e :: past) w (policy.grace r.state) := by
  refine ⟨run.lists_of_called called, fun r reported listed => ?_⟩
  obtain ⟨⟨_, _, _, _, _, _, _, rfl, qualifies⟩, _⟩ :=
    run.qualified_of_called unique called reported listed
  obtain ⟨enough, counted, alive⟩ := run.grace_of_called unique settled called reported listed
  exact ⟨(Policy.of_qualifies qualifies).1, enough, fun f member => (counted f member).idle, alive⟩

/-- A worker that lingers after its destruction is destroyed again two ticks later. -/
theorem Lingering.fullGrace_of_destruction_again :
    ∃ (e : Event Float) (past : List (Event Float)) (c : Controller Float),
      Run (Policy.ofProfile .simple) provider (e :: past) c ∧ past.length = 3 ∧
      .destruction first (.ok ()) ∈ e.calls ∧ (∃ r ∈ e.report.pools, e.Lists r.kind first) ∧
      ∀ r ∈ e.report.pools, e.Lists r.kind first → r.state.evaluatesGrowth = true ∧
        FullGrace (e :: past) first ((Policy.ofProfile .simple : Policy Float).grace r.state) := by
  have run := (Controller.run_history controller_new provider [pair, pair, pair, pair]).1
  obtain ⟨e, past, c, run, length, destroyed, unique, settled⟩ :
      ∃ (e : Event Float) (past : List (Event Float)) (c : Controller Float),
        Run (Policy.ofProfile .simple) provider (e :: past) c ∧ past.length = 3 ∧
        first ∈ Call.destroyed e.calls ∧ (∀ f ∈ e :: past, f.registry.Unique) ∧
        (e :: past).IsChain Event.SameKinds :=
    ⟨_, _, _, run, rfl, by decide +kernel, by decide +kernel, by decide +kernel⟩
  have called := Call.mem_attemptsOn.mp (Call.mem_destroyed.mp destroyed)
  exact ⟨e, past, c, run, length, called, fullGrace_of_destruction run unique settled called⟩

/-- How far the rule for pools of several workers is kept. A worker that is destroyed was idle
throughout the grace period, and little used on all of its ticks but those on which it was the only
one of its kind; so the rule is kept just where it was little used on those as well. -/
theorem shrunkByRule_iff (run : Run policy p (e :: past) c)
    (unique : ∀ f ∈ e :: past, f.registry.Unique) (settled : (e :: past).IsChain Event.SameKinds)
    (called : .destruction w answer ∈ e.calls) {r : PoolReport α} (reported : r ∈ e.report.pools)
    (listed : e.Lists r.kind w) (several : r.state = .atTarget ∨ r.state = .general) :
    policy.grace r.state ≤ (e :: past).length ∧ e.LittleUsed policy w ∧
      (∀ f ∈ (e :: past).take (policy.grace r.state),
        f.Idle w ∧ (f.Alone w ∨ f.LittleUsed policy w)) ∧
      (ShrunkByRule policy (e :: past) w (policy.grace r.state) ↔
        ∀ f ∈ (e :: past).take (policy.grace r.state), f.Alone w → f.LittleUsed policy w) := by
  obtain ⟨⟨q, _, workers, found, v, inside, named, rfl, qualifies⟩, _⟩ :=
    run.qualified_of_called unique called reported listed
  obtain ⟨enough, counted, _⟩ := run.grace_of_called unique settled called reported listed
  refine ⟨enough, ?_, ?_, ?_, ?_⟩
  · rcases (Policy.of_qualifies qualifies).2.2 with singleton | below
    · rcases several with state | state <;> rw [singleton] at state <;> cases state
    · exact ⟨q, reported, workers, found, v, inside, named, below⟩
  · exact fun f member => ⟨(counted f member).idle, (counted f member).alone_or_littleUsed⟩
  · exact fun kept f member _ => (kept f member).2
  · intro little f member
    refine ⟨(counted f member).idle, ?_⟩
    rcases (counted f member).alone_or_littleUsed with alone | below
    · exact little f member alone
    · exact below

namespace Lingering

/-- A worker that has been used grows a streak while it is alone. When the pool grows, its first
little used tick is its last. -/
theorem run_joined :
    ∃ (e : Event Float) (past : List (Event Float)) (c : Controller Float),
      Run (Policy.ofProfile .simple) provider (e :: past) c ∧
      (∀ f ∈ e :: past, f.registry.Unique) ∧ (e :: past).IsChain Event.SameKinds ∧
      .destruction first (.ok ()) ∈ e.calls ∧
      (∃ r ∈ e.report.pools, e.Lists r.kind first ∧ r.state = .general) ∧
      ¬ ShrunkByRule (Policy.ofProfile .simple) (e :: past) first 2 := by
  have run := (Controller.run_history controller_new provider [joined, alone]).1
  refine ⟨_, _, _, run, ?_, ?_, Call.mem_attemptsOn.mp (Call.mem_destroyed.mp ?_), ?_, ?_⟩
  all_goals decide +kernel

theorem shrunkByRule_iff_joined :
    ∃ (e : Event Float) (past : List (Event Float)) (c : Controller Float),
      Run (Policy.ofProfile .simple) provider (e :: past) c ∧
      .destruction first (.ok ()) ∈ e.calls ∧ 2 ≤ (e :: past).length ∧
      e.LittleUsed (Policy.ofProfile .simple) first ∧
      (∀ f ∈ (e :: past).take 2,
        f.Idle first ∧ (f.Alone first ∨ f.LittleUsed (Policy.ofProfile .simple) first)) ∧
      (ShrunkByRule (Policy.ofProfile .simple) (e :: past) first 2 ↔
        ∀ f ∈ (e :: past).take 2,
          f.Alone first → f.LittleUsed (Policy.ofProfile .simple) first) := by
  obtain ⟨e, past, c, run, unique, settled, called, ⟨r, reported, listed, general⟩, _⟩ := run_joined
  have kept := shrunkByRule_iff run unique settled called reported listed (Or.inr general)
  rw [general] at kept
  exact ⟨e, past, c, run, called, kept⟩

/-- The rule for pools of several workers does not hold of every destruction. -/
theorem not_shrunkByRule :
    ¬ ∀ (policy : Policy Float) (e : Event Float) (past : List (Event Float))
      (c : Controller Float) (w : WorkerId) (answer : Answer) (r : PoolReport Float),
      Run policy provider (e :: past) c → (∀ f ∈ e :: past, f.registry.Unique) →
      (e :: past).IsChain Event.SameKinds → .destruction w answer ∈ e.calls →
      r ∈ e.report.pools → e.Lists r.kind w → r.state = .atTarget ∨ r.state = .general →
      ShrunkByRule policy (e :: past) w (policy.grace r.state) := by
  intro rule
  obtain ⟨e, past, c, run, unique, settled, called, ⟨r, reported, listed, general⟩, broken⟩ :=
    run_joined
  have kept := rule _ e past c first (.ok ()) r run unique settled called reported listed
    (Or.inr general)
  rw [general] at kept
  exact broken kept

end Lingering

end Main

end ElasticPools
