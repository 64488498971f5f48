import ElasticPools.Proofs.Tick
import Mathlib.Data.List.Nodup
import Mathlib.Data.List.Pairwise

/-!
Runs of a controller. Between two ticks the provider may come to any state: pools may appear,
vanish and change their workers, and a provider may answer each call as it likes.
-/

set_option autoImplicit false

namespace ElasticPools

variable {σ α : Type}

/-- No name stands for two workers. -/
def Registry.Unique (r : Registry) : Prop := (Controller.idsOf r.toList).Nodup

instance (r : Registry) : Decidable r.Unique := inferInstanceAs (Decidable (List.Nodup _))

theorem Registry.mem_workerIds {r : Registry} {w : WorkerId} :
    w ∈ r.workerIds ↔ ∃ kind workers, r.pool? kind = some workers ∧ w ∈ workers.map (·.id) := by
  have listed : w ∈ r.workerIds ↔ w ∈ Controller.idsOf r.toList := by
    rw [Registry.workerIds, Std.ExtTreeSet.mem_ofList, List.contains_iff_mem]
    rfl
  rw [listed, Controller.mem_idsOf]
  constructor
  · rintro ⟨⟨kind, workers⟩, member, inside⟩
    exact ⟨kind, workers, Registry.mem_toList.mp member, inside⟩
  · rintro ⟨kind, workers, found, inside⟩
    exact ⟨(kind, workers), Registry.mem_toList.mpr found, inside⟩

theorem Registry.map_fst_toList (r : Registry) : r.toList.map (·.1) = r.kinds :=
  Std.ExtTreeMap.map_fst_toList_eq_keys

theorem Registry.nodup_toList (r : Registry) : (r.toList.map (·.1)).Nodup := by
  rw [r.map_fst_toList]
  exact Std.ExtTreeMap.nodup_keys

theorem Registry.not_mem_toList {r : Registry} {kind : Kind} (absent : r.pool? kind = none) :
    kind ∉ r.toList.map (·.1) := by
  intro listed
  obtain ⟨⟨_, workers⟩, member, rfl⟩ := List.mem_map.mp listed
  rw [Registry.mem_toList.mp member] at absent
  cases absent

theorem Registry.mem_pool {r : Registry} {kind : Kind} {v : Worker} :
    v ∈ r.pool kind ↔ ∃ workers, r.pool? kind = some workers ∧ v ∈ workers := by
  rw [Registry.pool]
  cases r.pool? kind with
  | none => simp
  | some workers => simp

/-- Where no name stands for two workers, a worker is in the pool of one kind. -/
theorem Registry.Unique.kind_eq {r : Registry} (unique : r.Unique) {here there : Kind}
    {workers others : List Worker} (found : r.pool? here = some workers)
    (found' : r.pool? there = some others) {w : WorkerId} (inside : w ∈ workers.map (·.id))
    (inside' : w ∈ others.map (·.id)) : here = there := by
  by_contra apart
  have symmetric : Std.Symm
      (Function.onFun List.Disjoint fun q : Kind × List Worker => q.2.map (·.id)) :=
    ⟨fun _ _ disjoint _ inside listed => disjoint listed inside⟩
  refine (List.nodup_flatMap.mp unique).2.forall (Registry.mem_toList.mpr found)
    (Registry.mem_toList.mpr found') ?_ inside inside'
  exact fun same => apart (Prod.mk.inj same).1

theorem Registry.Unique.nodup {r : Registry} (unique : r.Unique) {kind : Kind}
    {workers : List Worker} (found : r.pool? kind = some workers) : (workers.map (·.id)).Nodup :=
  (List.nodup_flatMap.mp unique).1 (kind, workers) (Registry.mem_toList.mpr found)

theorem Registry.Unique.once {r : Registry} (unique : r.Unique) {kind : Kind}
    {workers : List Worker} (found : r.pool? kind = some workers) :
    ∀ v ∈ workers, (Controller.idsOf r.toList).count v.id = 1 := by
  intro v member
  refine List.count_eq_one_of_mem unique (Controller.mem_idsOf.mpr ?_)
  exact ⟨(kind, workers), Registry.mem_toList.mpr found, List.mem_map.mpr ⟨v, member, rfl⟩⟩

/-- What one tick saw and did. -/
structure Event (α : Type) where
  registry : Registry
  reading : Worker → α
  report : Report α
  calls : List Call

namespace Controller

/-- How a tick dealt with one pool. -/
structure PoolTick (c : Controller α) (e : Event α) (later : Controller α) (kind : Kind)
    (workers : List Worker) (r : PoolReport α) [Quantity α] : Prop where
  named : r.kind = kind
  size : r.size = workers.length
  state : r.state = stateOf c.policy kind workers c.targets
  asked : (Call.answersFor kind e.calls).length = c.policy.requests r.state r.growth
  requested : r.requested = (Call.answersFor kind e.calls).countP (·.isOk)
  dropped : kind ∈ e.report.forgotten →
    r.state = .singleton ∧ 0 < r.destroyed ∧ Call.answersFor kind e.calls = []
  bereft : r.state = .singleton → 0 < r.destroyed → kind ∈ e.report.forgotten
  target : c.policy.tracking = true →
    (later.targets.contains kind = true ↔ kind ∉ e.report.forgotten)
  grown : Grown c.policy kind c.targets later.targets r (decide (kind ∈ e.report.forgotten))
  utilization : e.registry.Unique → r.utilization =
    if skipsGrowth c.policy r (decide (kind ∈ e.report.forgotten)) then none
    else Utilization.mean? e.reading (remaining workers e.report.destroyed)
  /-- A growth check that is left out takes no mean. -/
  unread : skipsGrowth c.policy r (decide (kind ∈ e.report.forgotten)) = true → r.utilization = none
  spared : r.state.evaluatesGrowth = false → r.destroyed = 0
  lost : e.registry.Unique →
    r.destroyed = (workers.map (·.id)).countP fun w => decide (w ∈ e.report.destroyed)
  waiting : e.registry.Unique → r.state.evaluatesGrowth = false → ∀ v ∈ workers,
    Call.attemptsOn v.id e.calls = [] ∧ later.streaks.count? v.id = c.streaks.count? v.id
  treated : e.registry.Unique → r.state.evaluatesGrowth = true → ∀ v ∈ workers,
    Treatment (c.streaks.next v.id) (c.policy.grace r.state)
      (c.policy.qualifies e.reading r.state v) (Call.attemptsOn v.id e.calls)
      (later.streaks.count? v.id)

/-- The turn with which a tick begins: what left the registry has left the tables. -/
def firstTurn (c : Controller α) (registry : Registry) (world : σ) : Turn σ :=
  ⟨c.streaks.retain registry.workerIds, c.targets.retain registry.contains, world⟩

theorem target?_firstTurn (c : Controller α) {registry : Registry} {kind : Kind}
    {workers : List Worker} (found : registry.pool? kind = some workers) (world : σ) :
    (c.firstTurn registry world).targets.target? kind = c.targets.target? kind := by
  have present : registry.contains kind = true := by
    rw [Registry.contains_eq, found]
    rfl
  rw [firstTurn, Targets.target?_retain, if_pos present]

theorem stateOf_firstTurn (c : Controller α) {registry : Registry} {kind : Kind}
    {workers : List Worker} (found : registry.pool? kind = some workers) (world : σ) :
    stateOf c.policy kind workers (c.firstTurn registry world).targets =
      stateOf c.policy kind workers c.targets := by
  simp only [stateOf, shownTarget, Targets.contains_eq, c.target?_firstTurn found]

theorem count?_firstTurn (c : Controller α) {registry : Registry} {kind : Kind}
    {workers : List Worker} (found : registry.pool? kind = some workers) (world : σ) {v : Worker}
    (inside : v ∈ workers) :
    (c.firstTurn registry world).streaks.count? v.id = c.streaks.count? v.id := by
  have live : v.id ∈ registry.workerIds :=
    Registry.mem_workerIds.mpr ⟨kind, workers, found, List.mem_map.mpr ⟨v, inside, rfl⟩⟩
  rw [firstTurn, IdleStreaks.count?_retain, if_pos live]

variable [Quantity α]

/-- All that one tick does. -/
structure Ticked (c : Controller α) (e : Event α) (later : Controller α) : Prop where
  policy : later.policy = c.policy
  requested : Call.requested e.calls = e.report.requested
  /-- What the report lists, its pools count. -/
  listed : e.report.requested = e.report.pools.flatMap fun r => List.replicate r.requested r.kind
  destroyed : Call.destroyed e.calls = e.report.destroyed
  refusals : Call.refusals e.calls = e.report.failures
  forgotten : Call.forgotten e.calls = e.report.forgotten
  reports : e.report.pools.map (fun r => (r.kind, r.size)) =
    e.registry.toList.map fun q => (q.1, q.2.length)
  pool : ∀ kind workers, e.registry.pool? kind = some workers →
    ∃ r ∈ e.report.pools, PoolTick c e later kind workers r
  absentWorker : ∀ w, w ∉ e.registry.workerIds →
    later.streaks.count? w = none ∧ Call.attemptsOn w e.calls = []
  /-- Workers are attacked only in pools that are looked at. -/
  attacked : ∀ w answer, .destruction w answer ∈ e.calls →
    ∃ r ∈ e.report.pools, r.state.evaluatesGrowth = true ∧
      ∃ workers, e.registry.pool? r.kind = some workers ∧ w ∈ workers.map (·.id)
  absentKind : ∀ kind, e.registry.pool? kind = none →
    later.targets.target? kind = none ∧ Call.answersFor kind e.calls = []
  /-- Only kinds that are registered are forgotten. -/
  forgets : ∀ kind ∈ e.report.forgotten, e.registry.pool? kind ≠ none

namespace Ticked

variable {c later : Controller α} {e : Event α} (ticked : c.Ticked e later)

include ticked

theorem kinds_eq : e.report.pools.map (·.kind) = e.registry.kinds := by
  have firsts := congrArg (List.map Prod.fst) ticked.reports
  rw [List.map_map, List.map_map] at firsts
  exact firsts.trans e.registry.map_fst_toList

theorem kinds_nodup : (e.report.pools.map (·.kind)).Nodup := by
  rw [ticked.kinds_eq, ← e.registry.map_fst_toList]
  exact e.registry.nodup_toList

/-- The report of a registered kind tells how its pool was dealt with. -/
theorem poolTick {r : PoolReport α} (reported : r ∈ e.report.pools) {workers : List Worker}
    (found : e.registry.pool? r.kind = some workers) : PoolTick c e later r.kind workers r := by
  obtain ⟨other, member, dealt⟩ := ticked.pool r.kind workers found
  rwa [List.inj_on_of_nodup_map ticked.kinds_nodup member reported dealt.named] at dealt

theorem registered {r : PoolReport α} (reported : r ∈ e.report.pools) :
    ∃ workers, e.registry.pool? r.kind = some workers ∧ PoolTick c e later r.kind workers r := by
  have listed : (r.kind, r.size) ∈ e.report.pools.map fun r => (r.kind, r.size) :=
    List.mem_map.mpr ⟨r, reported, rfl⟩
  rw [ticked.reports] at listed
  obtain ⟨⟨kind, workers⟩, member, same⟩ := List.mem_map.mp listed
  have found : e.registry.pool? r.kind = some workers := by
    rw [← (Prod.mk.inj same).1]
    exact Registry.mem_toList.mp member
  exact ⟨workers, found, ticked.poolTick reported found⟩

/-- The one report of a kind is found. -/
theorem pool?_of_registered {kind : Kind} {workers : List Worker} {r : PoolReport α}
    (reported : r ∈ e.report.pools) (dealt : PoolTick c e later kind workers r) :
    e.report.pool? kind = some r := by
  unfold Report.pool?
  cases found : e.report.pools.find? (·.kind = kind) with
  | none => exact absurd (decide_eq_true dealt.named) (List.find?_eq_none.mp found r reported)
  | some q =>
    have named := List.find?_some found
    rw [decide_eq_true_eq] at named
    rw [List.inj_on_of_nodup_map ticked.kinds_nodup (List.mem_of_find?_eq_some found) reported
      (named.trans dealt.named.symm)]

theorem pool?_of_absent {kind : Kind} (absent : e.registry.pool? kind = none) :
    e.report.pool? kind = none := by
  apply List.find?_eq_none.mpr
  intro r reported named
  obtain ⟨workers, found, _⟩ := ticked.registered reported
  rw [of_decide_eq_true named, absent] at found
  cases found

end Ticked

section

variable (c : Controller α) (p : Provider σ α) (tick : Nat) (world : σ)

theorem evaluateTick_all :
    AllEvaluated (p.registry world).toList (c.firstTurn (p.registry world) (world, []))
      (evaluateAll c.policy p.recorded (p.reading world) (p.registry world).toList
        (c.firstTurn (p.registry world) (world, []))).2
      (evaluateAll c.policy p.recorded (p.reading world) (p.registry world).toList
        (c.firstTurn (p.registry world) (world, []))).1 :=
  evaluateAll_recorded c.policy p (p.reading world) (p.registry world).toList _

/-- The outcome for one pool, told by the tables before and after the tick. -/
theorem evaluateTick_poolTick {kind : Kind} {workers : List Worker}
    (found : (p.registry world).pool? kind = some workers) :
    ∃ r ∈ (c.evaluateTick p.recorded tick (world, [])).1.pools,
      PoolTick c
        ⟨p.registry world, p.reading world, (c.evaluateTick p.recorded tick (world, [])).1,
          (c.evaluateTick p.recorded tick (world, [])).2.2.2⟩
        (c.evaluateTick p.recorded tick (world, [])).2.1 kind workers r := by
  have all := c.evaluateTick_all p world
  have kinds := (p.registry world).nodup_toList
  obtain ⟨e, member, outcome⟩ := evaluateAll_at c.policy p (p.reading world)
    (c.firstTurn (p.registry world) (world, [])) kinds rfl (Registry.mem_toList.mpr found)
  have forgotten : e.forgotten = true ↔
      kind ∈ (c.evaluateTick p.recorded tick (world, [])).1.forgotten := by
    rw [outcome.forgotten, all.forgotten]
    rfl
  have decided : e.forgotten =
      decide (kind ∈ (c.evaluateTick p.recorded tick (world, [])).1.forgotten) := by
    rw [Bool.eq_iff_iff, decide_eq_true_eq]
    exact forgotten
  refine ⟨e.report, List.mem_map.mpr ⟨e, member, rfl⟩, ?_⟩
  constructor
  case named => exact outcome.named
  case size => exact outcome.size
  case state => exact outcome.state.trans (c.stateOf_firstTurn found _)
  case asked => exact outcome.asked
  case requested => exact outcome.requested
  case dropped => exact fun gone => outcome.dropped (forgotten.mpr gone)
  case bereft => exact fun lone lost => forgotten.mp (outcome.bereft lone lost)
  case target =>
    intro tracking
    rw [← forgotten, Bool.not_eq_true]
    exact outcome.target tracking
  case grown =>
    obtain ⟨growth, target, shown⟩ := outcome.grown
    rw [c.target?_firstTurn found, decided] at target
    exact ⟨growth, target, shown⟩
  case utilization =>
    intro unique
    have mean := outcome.utilization unique
    rw [all.destroyed, decided] at mean
    exact mean
  case unread =>
    intro skipped
    rw [← decided] at skipped
    exact outcome.unread skipped
  case spared => exact outcome.spared
  case lost =>
    intro unique
    have counted := outcome.lost unique
    rw [all.destroyed] at counted
    exact counted
  case waiting =>
    intro unique still v inside
    obtain ⟨none, kept⟩ := outcome.waiting unique still v inside
    exact ⟨none, kept.trans (c.count?_firstTurn found _ inside)⟩
  case treated =>
    intro unique growing v inside
    have treated := outcome.treated unique growing v inside
    rw [next_congr (c.count?_firstTurn found _ inside)] at treated
    exact treated

/-- A tick does what `Ticked` says, whatever the provider shows and answers. -/
theorem evaluateTick_ticked :
    c.Ticked
      ⟨p.registry world, p.reading world, (c.evaluateTick p.recorded tick (world, [])).1,
        (c.evaluateTick p.recorded tick (world, [])).2.2.2⟩
      (c.evaluateTick p.recorded tick (world, [])).2.1 := by
  have all := c.evaluateTick_all p world
  constructor
  case policy => rfl
  case requested => exact all.requested
  case listed =>
    refine Eq.trans ?_ (List.flatMap_map ..).symm
    exact List.flatMap_congr all.listed
  case destroyed => exact all.destroyed
  case refusals => exact all.refusals
  case forgotten => exact all.forgotten
  case reports => exact (List.map_map ..).trans all.reports
  case pool => exact fun kind workers found => c.evaluateTick_poolTick p tick world found
  case absentWorker =>
    intro w absent
    have unlisted : w ∉ idsOf (p.registry world).toList := by
      rw [Registry.mem_workerIds] at absent
      intro listed
      obtain ⟨⟨kind, workers⟩, member, inside⟩ := mem_idsOf.mp listed
      exact absent ⟨kind, workers, Registry.mem_toList.mp member, inside⟩
    refine ⟨(all.otherStreaks w unlisted).trans ?_, all.otherAttempts w unlisted⟩
    rw [firstTurn, IdleStreaks.count?_retain, if_neg absent]
  case attacked =>
    intro w answer called
    have member := Call.mem_attemptsOn.mpr called
    obtain ⟨e, evaluated, growing, workers, listed, inside⟩ :=
      all.attacked w (List.ne_nil_of_mem member)
    exact ⟨e.report, List.mem_map.mpr ⟨e, evaluated, rfl⟩, growing, workers,
      Registry.mem_toList.mp listed, inside⟩
  case absentKind =>
    intro kind absent
    have unlisted := Registry.not_mem_toList absent
    refine ⟨(all.otherTargets kind unlisted).trans ?_, all.otherAnswers kind unlisted⟩
    rw [firstTurn, Targets.target?_retain, Registry.contains_eq, absent]
    rfl
  case forgets =>
    exact fun kind forgotten absent => all.not_forgotten (Registry.not_mem_toList absent) forgotten

end

/-- All that a call can come to. -/
theorem tick_cases (c : Controller α) (p : Provider σ α) (number : Nat) (world : σ) :
    (∃ last, c.lastTick = some last ∧ number ≤ last ∧
      c.tick p number world = .error ⟨⟨last, number⟩, c, world⟩) ∨
    ((∀ last ∈ c.lastTick, last < number) ∧
      c.tick p number world = .ok (c.evaluateTick p number world)) := by
  unfold Controller.tick
  cases c.lastTick with
  | none => exact .inr ⟨nofun, rfl⟩
  | some last =>
    by_cases stale : number ≤ last
    · exact .inl ⟨last, rfl, stale, if_pos stale⟩
    · refine .inr ⟨fun last' same => ?_, if_neg stale⟩
      rw [← Option.some.inj same]
      exact Nat.lt_of_not_le stale

theorem tick_eq_ok {c : Controller α} {p : Provider σ α} {tick : Nat} {world : σ}
    {result : Report α × Controller α × σ} (accepted : c.tick p tick world = .ok result) :
    c.evaluateTick p tick world = result := by
  rcases c.tick_cases p tick world with ⟨_, _, _, refused⟩ | ⟨_, ran⟩
  · cases refused.symm.trans accepted
  · exact Except.ok.inj (ran.symm.trans accepted)

theorem ticked_of_accepted {c later : Controller α} {p : Provider σ α} {number : Nat}
    {world after : σ} {report : Report α} {calls : List Call}
    (accepted : c.tick p.recorded number (world, []) = .ok (report, later, after, calls)) :
    c.Ticked ⟨p.registry world, p.reading world, report, calls⟩ later := by
  have ticked := c.evaluateTick_ticked p number world
  rwa [tick_eq_ok accepted] at ticked

/-- A refused tick leaves all as it was. -/
theorem tick_eq_error {c : Controller α} {p : Provider σ α} {tick : Nat} {world : σ}
    {refused : RefusedTick σ α} (repeated : c.tick p tick world = .error refused) :
    refused.controller = c ∧ refused.world = world := by
  rcases c.tick_cases p tick world with ⟨_, _, _, stale⟩ | ⟨_, ran⟩
  · rw [← Except.error.inj (stale.symm.trans repeated)]
    exact ⟨rfl, rfl⟩
  · cases ran.symm.trans repeated

/-- A number above all earlier ones is accepted. -/
theorem tick_of_fresh {c : Controller α} {number : Nat}
    (fresh : ∀ last ∈ c.lastTick, last < number) (p : Provider σ α) (world : σ) :
    c.tick p number world = .ok (c.evaluateTick p number world) := by
  rcases c.tick_cases p number world with ⟨last, shown, stale, _⟩ | ⟨_, ran⟩
  · exact absurd (fresh last shown) (Nat.not_lt.mpr stale)
  · exact ran

/-- Any other number is refused. -/
theorem tick_of_stale {c : Controller α} {number last : Nat} (shown : c.lastTick = some last)
    (stale : number ≤ last) (p : Provider σ α) (world : σ) :
    c.tick p number world = .error ⟨⟨last, number⟩, c, world⟩ := by
  rcases c.tick_cases p number world with ⟨_, same, _, refused⟩ | ⟨fresh, _⟩
  · rwa [Option.some.inj (shown.symm.trans same)]
  · exact absurd (fresh last shown) (Nat.not_lt.mpr stale)

/-- Recording a tick changes neither its outcome nor what it leaves behind. -/
theorem tick_recorded (c : Controller α) (p : Provider σ α) (tick : Nat) (world : σ) :
    c.tick p tick world = ((c.tick p.recorded tick (world, [])).map
      fun (report, later, after, _) => (report, later, after)).mapError
      fun refused => ⟨refused.toRepeatedTick, refused.controller, refused.world.1⟩ := by
  rcases c.tick_cases p tick world with ⟨last, shown, stale, refused⟩ | ⟨fresh, ran⟩
  · rw [refused, tick_of_stale shown stale]
    rfl
  · rw [ran, tick_of_fresh fresh]
    exact congrArg Except.ok (evaluateTick_shows p.recorded_shows c tick (world, []))

end Controller

/-- Accepted ticks of one controller, the latest first, and the controller that they leave. -/
inductive Run [Quantity α] (policy : Policy α) (p : Provider σ α) :
    List (Event α) → Controller α → Prop where
  | start {c : Controller α} (created : Controller.new policy = .ok c) : Run policy p [] c
  | tick {past : List (Event α)} {c later : Controller α} {number : Nat} {world after : σ}
      {report : Report α} {calls : List Call} (run : Run policy p past c)
      (accepted : c.tick p.recorded number (world, []) = .ok (report, later, after, calls)) :
      Run policy p (⟨p.registry world, p.reading world, report, calls⟩ :: past) later

namespace Run

variable [Quantity α] {policy : Policy α} {p : Provider σ α} {e : Event α}
  {past events : List (Event α)} {c : Controller α}

theorem last (run : Run policy p (e :: past) c) :
    ∃ before, Run policy p past before ∧ before.Ticked e c := by
  cases run with
  | @tick _ before _ _ _ _ _ _ run accepted =>
    exact ⟨before, run, Controller.ticked_of_accepted accepted⟩

theorem policy_eq (run : Run policy p events c) : c.policy = policy := by
  induction run with
  | start created =>
    unfold Controller.new at created
    split at created
    · rw [← Except.ok.inj created]
    · cases created
  | tick _ accepted ih => exact (Controller.ticked_of_accepted accepted).policy.trans ih

end Run

namespace Controller

variable [Quantity α]

/-- Ticks numbered from one, each over the world given for it, the latest world first. -/
def history (c : Controller α) (p : Provider σ α) : List σ → List (Event α) × Controller α
  | [] => ([], c)
  | world :: worlds =>
    let (past, before) := c.history p worlds
    let (report, later, _, calls) := before.evaluateTick p.recorded (worlds.length + 1) (world, [])
    (⟨p.registry world, p.reading world, report, calls⟩ :: past, later)

/-- Worlds that follow one upon another, however they change, make a run. -/
theorem run_history {policy : Policy α} {c : Controller α} (created : new policy = .ok c)
    (p : Provider σ α) (worlds : List σ) :
    Run policy p (c.history p worlds).1 (c.history p worlds).2 ∧
      ∀ last ∈ (c.history p worlds).2.lastTick, last ≤ worlds.length := by
  induction worlds with
  | nil =>
    refine ⟨.start created, ?_⟩
    unfold new at created
    split at created
    · rw [← Except.ok.inj created]
      exact nofun
    · cases created
  | cons world worlds ih =>
    obtain ⟨run, numbered⟩ := ih
    refine ⟨run.tick (tick_of_fresh ?_ p.recorded (world, [])), ?_⟩
    · exact fun last shown => Nat.lt_succ_of_le (numbered last shown)
    · intro last shown
      exact Nat.le_of_eq (Option.some.inj shown).symm

/-- The next tick of such a run is accepted. -/
theorem tick_history {policy : Policy α} {c : Controller α} (created : new policy = .ok c)
    (p : Provider σ α) (worlds : List σ) (world : σ) :
    (c.history p worlds).2.tick p.recorded (worlds.length + 1) (world, []) =
      .ok ((c.history p worlds).2.evaluateTick p.recorded (worlds.length + 1) (world, [])) := by
  obtain ⟨_, numbered⟩ := run_history created p worlds
  exact tick_of_fresh (fun last shown => Nat.lt_succ_of_le (numbered last shown)) _ _

end Controller

end ElasticPools
