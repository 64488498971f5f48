import ElasticPools.Proofs.Growth
import ElasticPools.Proofs.Likeness

/-!
The order of the workers of a pool. A tick takes them one after the other, but what it does to one
follows from that one alone, and an exact mean is the same in every order. So two snapshots that
differ in order alone lead to the same reports and leave the same behind, unless a call is refused.
-/

set_option autoImplicit false

namespace ElasticPools

variable {σ : Type}

/-- The same kinds, each with the same workers in whatever order. -/
def Registry.Reordered (r r' : Registry) : Prop :=
  ∀ kind, Option.Rel List.Perm (r.pool? kind) (r'.pool? kind)

theorem Controller.idsOf_perm {pools pools' : List (Kind × List Worker)}
    (related : List.Forall₂ (fun q q' => q.1 = q'.1 ∧ q.2.Perm q'.2) pools pools') :
    (idsOf pools).Perm (idsOf pools') := by
  induction related with
  | nil => exact .nil
  | cons same _ ih => exact (same.2.map (·.id)).append ih

namespace Registry.Reordered

variable {r r' : Registry} (reordered : r.Reordered r')

include reordered

theorem exists_pool {kind : Kind} {workers : List Worker} (found : r.pool? kind = some workers) :
    ∃ workers', r'.pool? kind = some workers' ∧ workers.Perm workers' := by
  have related := reordered kind
  rw [found] at related
  generalize r'.pool? kind = pool at related ⊢
  cases related with
  | some perm => exact ⟨_, rfl, perm⟩

theorem pool?_eq_none {kind : Kind} (absent : r.pool? kind = none) : r'.pool? kind = none := by
  have related := reordered kind
  rw [absent] at related
  generalize r'.pool? kind = pool at related ⊢
  cases related
  rfl

theorem isSome_eq (kind : Kind) : (r.pool? kind).isSome = (r'.pool? kind).isSome := by
  cases found : r.pool? kind with
  | none => rw [reordered.pool?_eq_none found]
  | some workers =>
    obtain ⟨_, found', _⟩ := reordered.exists_pool found
    rw [found']
    rfl

/-- Kinds are listed in ascending order, and so there is but one list of them. -/
theorem kinds_eq : r.kinds = r'.kinds := by
  have same : r.kinds.Perm r'.kinds := by
    refine (List.perm_ext_iff_of_nodup Std.ExtTreeMap.nodup_keys Std.ExtTreeMap.nodup_keys).mpr ?_
    intro kind
    rw [Std.ExtTreeMap.mem_keys, Std.ExtTreeMap.mem_keys, Std.ExtTreeMap.mem_iff_isSome_getElem?,
      Std.ExtTreeMap.mem_iff_isSome_getElem?]
    exact Bool.eq_iff_iff.mp (reordered.isSome_eq kind)
  refine same.eq_of_pairwise ?_ Std.ExtTreeMap.ordered_keys Std.ExtTreeMap.ordered_keys
  intro a b _ _ below above
  rw [Std.OrientedCmp.gt_of_lt below] at above
  cases above

theorem toList : List.Forall₂ (fun q q' => q.1 = q'.1 ∧ q.2.Perm q'.2) r.toList r'.toList := by
  have kinds : r.toList.map (·.1) = r'.toList.map (·.1) := by
    rw [r.map_fst_toList, r'.map_fst_toList]
    exact reordered.kinds_eq
  rw [← List.forall₂_eq_eq_eq, List.forall₂_map_left_iff, List.forall₂_map_right_iff] at kinds
  apply forall₂_of_mem kinds
  rintro ⟨kind, workers⟩ listed ⟨_, others⟩ listed' rfl
  obtain ⟨workers', found', perm⟩ := reordered.exists_pool (mem_toList.mp listed)
  rw [mem_toList.mp listed', Option.some.injEq] at found'
  exact ⟨rfl, found' ▸ perm⟩

theorem unique (unique : r.Unique) : r'.Unique :=
  (Controller.idsOf_perm reordered.toList).nodup_iff.mp unique

theorem symm : r'.Reordered r := by
  intro kind
  cases found : r.pool? kind with
  | none =>
    rw [reordered.pool?_eq_none found]
    exact .none
  | some workers =>
    obtain ⟨workers', found', perm⟩ := reordered.exists_pool found
    rw [found']
    exact .some perm.symm

theorem mem_workerIds {w : WorkerId} (listed : w ∈ r.workerIds) : w ∈ r'.workerIds := by
  obtain ⟨kind, workers, found, inside⟩ := Registry.mem_workerIds.mp listed
  obtain ⟨workers', found', perm⟩ := reordered.exists_pool found
  exact Registry.mem_workerIds.mpr ⟨kind, workers', found', (perm.map (·.id)).mem_iff.mp inside⟩

end Registry.Reordered

/-- An exact mean is the same in every order. -/
theorem Extended.mean?_perm {pool pool' : List Worker} (perm : pool.Perm pool')
    (reading : Worker → Extended) :
    Utilization.mean? reading pool = Utilization.mean? reading pool' := by
  cases found : Utilization.mean? reading pool with
  | none =>
    obtain rfl := Utilization.mean?_eq_none_iff.mp found
    obtain rfl := perm.nil_eq
    exact found.symm
  | some u =>
    cases found' : Utilization.mean? reading pool' with
    | none =>
      obtain rfl := Utilization.mean?_eq_none_iff.mp found'
      exact absurd perm.eq_nil (of_mean? found).1
    | some u' =>
      have numbers := perm.map fun v => (reading v).clamped
      rw [(of_mean? found).2, (of_mean? found').2, mean, mean, numbers.sum_eq, numbers.length_eq]

namespace Controller

variable {c c' later later' : Controller Extended} {e e' : Event Extended}

/-- What a tick did to a pool is told in the same words when the pool is listed in another order. -/
theorem PoolTick.reorder {kind : Kind} {workers workers' : List Worker} {r : PoolReport Extended}
    (dealt : PoolTick c e later kind workers r) (perm : workers.Perm workers') :
    PoolTick c e later kind workers' r :=
  { dealt with
    size := dealt.size.trans perm.length_eq
    state := by rw [dealt.state, stateOf, stateOf, perm.length_eq]
    utilization := by
      intro unique
      have left : (remaining workers e.report.destroyed).Perm
        (remaining workers' e.report.destroyed) := perm.filter _
      rw [dealt.utilization unique, Extended.mean?_perm left]
    lost := fun unique => (dealt.lost unique).trans ((perm.map (·.id)).countP_eq _)
    waiting := fun unique still v inside => dealt.waiting unique still v (perm.mem_iff.mpr inside)
    treated := fun unique growing v inside =>
      dealt.treated unique growing v (perm.mem_iff.mpr inside) }

/-- Two ticks that find the same workers in whatever orders, and are refused no call. -/
structure Rearranged (e e' : Event Extended) : Prop where
  registry : e.registry.Reordered e'.registry
  reading : ∀ kind workers, e.registry.pool? kind = some workers →
    ∀ v ∈ workers, e.reading v = e'.reading v
  unique : e.registry.Unique
  accepted : e.report.failures = []
  accepted' : e'.report.failures = []

namespace Rearranged

variable (rearranged : Rearranged e e') (ticked : c.Ticked e later) (ticked' : c.Ticked e' later')

include rearranged

theorem matched {kind : Kind} {workers : List Worker}
    (found : e.registry.pool? kind = some workers) : Matched c c e e' kind workers workers where
  policy := rfl
  target := rfl
  workers := List.forall₂_same.mpr fun v inside =>
    ⟨rfl, rearranged.reading kind workers found v inside, rfl⟩
  unique := rearranged.unique
  unique' := rearranged.registry.unique rearranged.unique
  accepted := rearranged.accepted
  accepted' := rearranged.accepted'

include ticked ticked'

/-- Both ticks report the same of a kind and leave it the same. -/
theorem paired {kind : Kind} {workers : List Worker}
    (found : e.registry.pool? kind = some workers) :
    (∃ r ∈ e.report.pools, r ∈ e'.report.pools ∧ r.kind = kind) ∧
      later.targets.target? kind = later'.targets.target? kind ∧
      ∀ v ∈ workers, LeftAlike e e' later later' v v := by
  obtain ⟨workers', found', perm⟩ := rearranged.registry.exists_pool found
  obtain ⟨r, reported, dealt⟩ := ticked.pool kind workers found
  obtain ⟨r', reported', other⟩ := ticked'.pool kind workers' found'
  have dealt' := other.reorder perm.symm
  have matched : Matched c c e e' kind workers workers := rearranged.matched found
  refine ⟨⟨r, reported, ?_, dealt.named⟩, matched.target_eq ticked ticked' dealt dealt',
    List.forall₂_same.mp (matched.left ticked ticked' dealt dealt')⟩
  rw [matched.report_eq ticked ticked' dealt dealt']
  exact reported'

theorem pools_eq : e.report.pools = e'.report.pools := by
  have kinds : e.report.pools.map (·.kind) = e'.report.pools.map (·.kind) := by
    rw [ticked.kinds_eq, ticked'.kinds_eq, rearranged.registry.kinds_eq]
  rw [← List.forall₂_eq_eq_eq, List.forall₂_map_left_iff, List.forall₂_map_right_iff] at kinds
  rw [← List.forall₂_eq_eq_eq]
  apply forall₂_of_mem kinds
  intro r reported r' reported' named
  obtain ⟨workers, found, _⟩ := ticked.registered reported
  obtain ⟨⟨q, member, member', same⟩, _⟩ := rearranged.paired ticked ticked' found
  rw [← List.inj_on_of_nodup_map ticked.kinds_nodup member reported same]
  exact List.inj_on_of_nodup_map ticked'.kinds_nodup member' reported' (same.trans named)

theorem targets_eq : later.targets = later'.targets := by
  apply Targets.ext_target
  intro kind
  cases found : e.registry.pool? kind with
  | none =>
    have absent := rearranged.registry.pool?_eq_none found
    rw [(ticked.absentKind kind found).1, (ticked'.absentKind kind absent).1]
  | some workers => exact (rearranged.paired ticked ticked' found).2.1

/-- No worker is attacked on one tick alone, or keeps its streak on one alone. -/
theorem worker_eq (w : WorkerId) : Call.attemptsOn w e.calls = Call.attemptsOn w e'.calls ∧
    later.streaks.count? w = later'.streaks.count? w := by
  by_cases listed : w ∈ e.registry.workerIds
  · obtain ⟨kind, workers, found, inside⟩ := Registry.mem_workerIds.mp listed
    obtain ⟨v, member, rfl⟩ := List.mem_map.mp inside
    have left := (rearranged.paired ticked ticked' found).2.2 v member
    exact ⟨left.attempts, left.streak⟩
  · have absent : w ∉ e'.registry.workerIds := mt rearranged.registry.symm.mem_workerIds listed
    obtain ⟨none, spared⟩ := ticked.absentWorker w listed
    obtain ⟨none', spared'⟩ := ticked'.absentWorker w absent
    exact ⟨spared.trans spared'.symm, none.trans none'.symm⟩

theorem streaks_eq : later.streaks = later'.streaks :=
  IdleStreaks.ext_count fun w => (rearranged.worker_eq ticked ticked' w).2

theorem destroyed_perm : e.report.destroyed.Perm e'.report.destroyed := by
  rw [← ticked.destroyed, ← ticked'.destroyed, List.perm_iff_count]
  intro w
  rw [Call.count_destroyed, Call.count_destroyed, (rearranged.worker_eq ticked ticked' w).1]

end Rearranged

end Controller

/-- A provider that refuses no call. -/
structure Provider.Accepts {α : Type} (p : Provider σ α) : Prop where
  request : ∀ kind s, (p.request kind s).1 = .ok ()
  destroy : ∀ w s, (p.destroy w s).1 = .ok ()

section Accepted

variable {α : Type} [Quantity α] {p : Provider σ α} {c later : Controller α} {number : Nat}
  {world after : σ} {report : Report α} {calls : List Call}
  (accepted : c.tick p.recorded number (world, []) = .ok (report, later, after, calls))

include accepted

namespace Controller

theorem failures_of_accepts (accepts : p.Accepts) : report.failures = [] := by
  have keeps : p.recorded.Keeps fun s => Call.refusals s.2 = [] := by
    constructor
    case request =>
      intro kind s before
      show Call.refusals (s.2 ++ [.request kind (p.request kind s.1).1]) = []
      rw [Call.refusals_append, before, accepts.request]
      rfl
    case destroy =>
      intro w s before
      show Call.refusals (s.2 ++ [.destruction w.id (p.destroy w s.1).1]) = []
      rw [Call.refusals_append, before, accepts.destroy]
      rfl
    case forget =>
      intro kind s before
      show Call.refusals (s.2 ++ [.forget kind]) = []
      rw [Call.refusals_append, before]
      rfl
  have none : Call.refusals (c.evaluateTick p.recorded number (world, [])).2.2.2 = [] :=
    evaluateTick_keeps keeps c number rfl
  rw [tick_eq_ok accepted] at none
  exact (ticked_of_accepted accepted).refusals.symm.trans none

/-- Whether a tick is accepted depends on its number alone. -/
theorem tick_of_accepted (world' : σ) : c.tick p.recorded number (world', []) =
    .ok (c.evaluateTick p.recorded number (world', [])) := by
  rcases c.tick_cases p.recorded number (world, []) with ⟨_, _, _, refused⟩ | ⟨fresh, _⟩
  · cases refused.symm.trans accepted
  · exact tick_of_fresh fresh ..

/-- Between ticks a controller keeps no more than its tables, its totals and a number. -/
theorem later_eq : later =
    ⟨c.policy, later.streaks, later.targets, some number, c.totals.add report⟩ := by
  have ran := tick_eq_ok accepted
  have left : (c.evaluateTick p.recorded number (world, [])).2.1 =
      ⟨c.policy, (c.evaluateTick p.recorded number (world, [])).2.1.streaks,
        (c.evaluateTick p.recorded number (world, [])).2.1.targets, some number,
        c.totals.add (c.evaluateTick p.recorded number (world, [])).1⟩ := rfl
  rwa [ran] at left

end Controller

end Accepted

namespace Lingering

theorem gauged_accepts : gauged.Accepts := ⟨fun _ _ => rfl, fun _ _ => rfl⟩

def fourth : WorkerId := ⟨"vm-4", by decide⟩

def usage (v : Worker) : Extended :=
  if v.id = third then .finite 3 else if v.id = fourth then .finite (3 / 4) else .undefined

/-- Two idle workers without a reading before two busy ones. -/
def crowd : Registry × (Worker → Extended) :=
  ((((Registry.empty.add queue ⟨first, false⟩).add queue ⟨second, false⟩).add queue
    ⟨third, true⟩).add queue ⟨fourth, true⟩, usage)

/-- The same workers, the last one first. -/
def turned : Registry × (Worker → Extended) :=
  ((((Registry.empty.add queue ⟨fourth, true⟩).add queue ⟨third, true⟩).add queue
    ⟨second, false⟩).add queue ⟨first, false⟩, usage)

theorem crowd_reordered : crowd.1.Reordered turned.1 := by
  intro kind
  by_cases same : queue = kind
  · have found : crowd.1.pool? kind = some
        [⟨first, false⟩, ⟨second, false⟩, ⟨third, true⟩, ⟨fourth, true⟩] := by
      simp [crowd, Registry.pool?_add, Registry.pool, same]
    have found' : turned.1.pool? kind = some
        [⟨fourth, true⟩, ⟨third, true⟩, ⟨second, false⟩, ⟨first, false⟩] := by
      simp [turned, Registry.pool?_add, Registry.pool, same]
    rw [found, found']
    exact .some (List.reverse_perm _).symm
  · have absent : crowd.1.pool? kind = none := by simp [crowd, Registry.pool?_add, same]
    have absent' : turned.1.pool? kind = none := by simp [turned, Registry.pool?_add, same]
    rw [absent, absent']
    exact .none

end Lingering

section Main

variable {p : Provider σ Extended} {c later : Controller Extended} {number : Nat}
  {world world' after : σ} {report : Report Extended} {calls : List Call}

/-- A snapshot with the same workers in another order leads to the same reports, the same worker
losses and the same controller, as long as all calls are accepted and sums are exact. -/
theorem reordering_invisible (accepts : p.Accepts)
    (reordered : (p.registry world).Reordered (p.registry world'))
    (readings : ∀ kind workers, (p.registry world).pool? kind = some workers →
      ∀ v ∈ workers, p.reading world v = p.reading world' v)
    (unique : (p.registry world).Unique)
    (accepted : c.tick p.recorded number (world, []) = .ok (report, later, after, calls)) :
    ∃ (report' : Report Extended) (after' : σ) (calls' : List Call),
      c.tick p.recorded number (world', []) = .ok (report', later, after', calls') ∧
      report'.pools = report.pools ∧ report'.requested = report.requested ∧
      report'.forgotten = report.forgotten ∧ report'.destroyed.Perm report.destroyed := by
  have accepted' := Controller.tick_of_accepted accepted world'
  generalize c.evaluateTick p.recorded number (world', []) = result at accepted'
  obtain ⟨report', later', after', calls'⟩ := result
  have failures := Controller.failures_of_accepts accepted accepts
  have failures' := Controller.failures_of_accepts accepted' accepts
  have rearranged : Controller.Rearranged ⟨p.registry world, p.reading world, report, calls⟩
      ⟨p.registry world', p.reading world', report', calls'⟩ :=
    ⟨reordered, readings, unique, failures, failures'⟩
  have ticked := Controller.ticked_of_accepted accepted
  have ticked' := Controller.ticked_of_accepted accepted'
  have pools : report.pools = report'.pools := rearranged.pools_eq ticked ticked'
  have requested : report'.requested = report.requested := by
    rw [ticked'.listed, ticked.listed, pools]
  have destroyed : report'.destroyed.Perm report.destroyed :=
    (rearranged.destroyed_perm ticked ticked').symm
  have forgotten : report'.forgotten = report.forgotten := by
    have accounts := c.evaluateTick_accounts p number world
    have accounts' := c.evaluateTick_accounts p number world'
    rw [Controller.tick_eq_ok accepted] at accounts
    rw [Controller.tick_eq_ok accepted'] at accounts'
    rw [accounts.forgotten, accounts'.forgotten, pools]
  have totals : c.totals.add report' = c.totals.add report := by
    simp only [Totals.add, requested, destroyed.length_eq, failures, failures']
  have same : later' = later := by
    rw [Controller.later_eq accepted', totals, ← rearranged.streaks_eq ticked ticked',
      ← rearranged.targets_eq ticked ticked']
    exact (Controller.later_eq accepted).symm
  exact ⟨report', after', calls', same ▸ accepted', pools.symm, requested, forgotten, destroyed⟩

/-- On its third tick a controller destroys the two idle workers, in the order in which it finds them,
and asks for one more, as the other two are under load. -/
theorem Lingering.reordering_invisible_turned :
    ∃ (c later : Controller Extended) (report report' : Report Extended)
      (after after' : Registry × (Worker → Extended)) (calls calls' : List Call),
      c.tick gauged.recorded 3 (crowd, []) = .ok (report, later, after, calls) ∧
      c.tick gauged.recorded 3 (turned, []) = .ok (report', later, after', calls') ∧
      (report.pools.map fun r => (r.utilization, r.growth)) =
        [(some (.finite (7 / 8)), .durable)] ∧
      report.destroyed = [first, second] ∧ report'.destroyed.Perm [first, second] ∧
      report'.pools = report.pools := by
  obtain ⟨c, later, report, after, calls, accepted, grown, lost⟩ :
      ∃ (c later : Controller Extended) (report : Report Extended)
        (after : Registry × (Worker → Extended)) (calls : List Call),
        c.tick gauged.recorded 3 (crowd, []) = .ok (report, later, after, calls) ∧
        (report.pools.map fun r => (r.utilization, r.growth)) =
          [(some (.finite (7 / 8)), .durable)] ∧
        report.destroyed = [first, second] := by
    refine ⟨_, _, _, _, _,
      Controller.tick_history exactTracker_new gauged [crowd, crowd] crowd, ?_, ?_⟩
    all_goals decide +kernel
  have reordered : (gauged.registry crowd).Reordered (gauged.registry turned) := crowd_reordered
  have unique : crowd.1.Unique := by decide +kernel
  obtain ⟨report', after', calls', accepted', pools, _, _, destroyed⟩ :=
    reordering_invisible gauged_accepts reordered (fun _ _ _ _ _ => rfl) unique accepted
  exact ⟨c, later, report, report', after, after', calls, calls', accepted, accepted', grown, lost,
    lost ▸ destroyed, pools⟩

end Main

end ElasticPools
