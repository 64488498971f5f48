import ElasticPools.Proofs.Seeding
import Mathlib.Algebra.GroupWithZero.Nat

/-!
Reports as accounts. The log of a tick is made of the logs of its pools, one after the other. The
report of a pool counts the calls of that pool's log, the report of the tick lists all accepted and
all refused calls, and totals add up what the reports of all ticks list.
-/

set_option autoImplicit false

namespace ElasticPools

variable {σ α : Type}

/-- The calls that were made for one pool, with what the snapshot shows of it. -/
structure PoolLog where
  kind : Kind
  workers : List Worker
  calls : List Call

/-- A pool's report, beside the log of that pool. -/
structure PoolAccount (r : PoolReport α) (l : PoolLog) : Prop where
  kind : r.kind = l.kind
  size : r.size = l.workers.length
  requested : Call.requested l.calls = List.replicate r.requested r.kind
  destroyed : r.destroyed = (Call.destroyed l.calls).length
  /-- Only workers of the pool are attacked. -/
  within : ∀ w answer, .destruction w answer ∈ l.calls → w ∈ l.workers.map (·.id)
  forgotten : Call.forgotten l.calls =
    if r.state = .singleton ∧ r.destroyed = 1 then [r.kind] else []

/-- The report of a tick, beside the registry that it found, the logs of its pools and its own. -/
structure Accounts (registry : Registry) (logs : List PoolLog) (calls : List Call)
    (report : Report α) : Prop where
  requested : report.requested = Call.requested calls
  destroyed : report.destroyed = Call.destroyed calls
  failures : report.failures = Call.refusals calls
  /-- No order is told of twice, or not at all. -/
  once : (Call.orders calls).length =
    report.requested.length + report.destroyed.length + report.failures.length
  kinds : report.pools.map (·.kind) = registry.kinds
  ascending : (report.pools.map (·.kind)).Pairwise (compare · · = .lt)
  parts : calls = logs.flatMap (·.calls)
  logged : logs.map (fun l => (l.kind, l.workers)) = registry.toList
  pools : List.Forall₂ PoolAccount report.pools logs
  requestedFor : ∀ r ∈ report.pools, r.requested = report.requestedFor r.kind
  forgotten : report.forgotten =
    (report.pools.filter fun r => r.state = .singleton ∧ r.destroyed = 1).map (·.kind)
  quiet : report.isQuiet = true ↔ Call.orders calls = []

/-- The sums over some ticks. -/
def Totals.over (events : List (Event α)) : Totals where
  ticks := events.length
  requested := (events.map (·.report.requested.length)).sum
  destroyed := (events.map (·.report.destroyed.length)).sum
  failures := (events.map (·.report.failures.length)).sum

/-- The kinds that a tick forgets are told by the reports of its pools. -/
theorem forgotten_of_accounts {reports : List (PoolReport α)} {logs : List PoolLog}
    (accounts : List.Forall₂ PoolAccount reports logs) :
    Call.forgotten (logs.flatMap (·.calls)) =
      (reports.filter fun r => r.state = .singleton ∧ r.destroyed = 1).map (·.kind) := by
  induction accounts with
  | nil => rfl
  | @cons r l reports logs own _ ih =>
    rw [List.flatMap_cons, Call.forgotten_append, own.forgotten, ih, List.filter_cons]
    by_cases gone : r.state = .singleton ∧ r.destroyed = 1
    · simp [gone]
    · simp [gone]

namespace Controller

variable [Quantity α]

/-- The logs of pools that are evaluated one after the other, each beginning with nothing. -/
def poolLogs (policy : Policy α) (p : Provider σ α) (reading : Worker → α) :
    List (Kind × List Worker) → Turn σ → List PoolLog
  | [], _ => []
  | (kind, workers) :: pools, turn =>
    let (_, next) := evaluate policy p.recorded reading kind workers
      ⟨turn.streaks, turn.targets, turn.world, []⟩
    ⟨kind, workers, next.world.2⟩ :: poolLogs policy p reading pools (next.map Prod.fst)

/-- The logs of the pools of a tick. -/
def logs (c : Controller α) (p : Provider σ α) (world : σ) : List PoolLog :=
  poolLogs c.policy p (p.reading world) (p.registry world).toList
    (c.firstTurn (p.registry world) world)

theorem map_poolLogs (policy : Policy α) (p : Provider σ α) (reading : Worker → α)
    (pools : List (Kind × List Worker)) (turn : Turn σ) :
    (poolLogs policy p reading pools turn).map (fun l => (l.kind, l.workers)) = pools := by
  induction pools generalizing turn with
  | nil => rfl
  | cons pool pools ih =>
    simp only [poolLogs, List.map_cons, ih]

/-- Behind an older log a tick writes what it writes behind none. -/
theorem evaluate_behind (policy : Policy α) (p : Provider σ α) (reading : Worker → α) (kind : Kind)
    (workers : List Worker) (turn : Turn σ) (log : List Call) :
    evaluate policy p.recorded reading kind workers
        ⟨turn.streaks, turn.targets, turn.world, log⟩ =
      ((evaluate policy p.recorded reading kind workers
          ⟨turn.streaks, turn.targets, turn.world, []⟩).1,
        (evaluate policy p.recorded reading kind workers
          ⟨turn.streaks, turn.targets, turn.world, []⟩).2.map fun s => (s.1, log ++ s.2)) := by
  have shows : p.recorded.Shows (fun s => (s.1, log ++ s.2)) p.recorded := by
    constructor
    case registry => exact fun _ => rfl
    case reading => exact fun _ => rfl
    case request | destroy | forget => simp [Provider.recorded]
  have same := evaluate_shows shows policy reading kind workers
    ⟨turn.streaks, turn.targets, turn.world, []⟩
  rwa [Turn.map, List.append_nil] at same

/-- A pool of one worker loses one worker at most. -/
theorem Evaluated.destroyed_le_one {policy : Policy α} {reading : Worker → α} {kind : Kind}
    {workers : List Worker} {first last : Turn (σ × List Call)} {e : Evaluation α}
    {calls : PoolCalls} (own : Evaluated policy reading kind workers first last e calls)
    (lone : e.report.state = .singleton) : e.report.destroyed ≤ 1 := by
  obtain ⟨v, rfl⟩ := of_stateOf_singleton (own.state.symm.trans lone)
  have within : e.destroyed.Sublist [v.id] := by
    rw [own.records.destroyed]
    exact (PoolCalls.destroyed_sublist _).trans own.within
  rw [own.records.lost]
  exact within.length_le

theorem Evaluated.account {policy : Policy α} {reading : Worker → α} {kind : Kind}
    {workers : List Worker} {first last : Turn (σ × List Call)} {e : Evaluation α}
    {calls : PoolCalls} (own : Evaluated policy reading kind workers first last e calls)
    (blank : first.world.2 = []) : PoolAccount e.report ⟨kind, workers, last.world.2⟩ := by
  have log : last.world.2 = calls.toList := by rw [own.log, blank, List.nil_append]
  constructor
  case kind => exact own.named
  case size => exact own.size
  case requested => rw [log, PoolCalls.requested_toList, own.records.requested, own.records.named]
  case destroyed =>
    rw [log, PoolCalls.destroyed_toList, own.records.lost, own.records.destroyed]
  case within =>
    intro w answer called
    rw [log, ← Call.mem_attemptsOn, PoolCalls.attemptsOn_toList] at called
    refine own.within.subset (Decidable.byContradiction fun absent => ?_)
    rw [PoolCalls.answersOn_eq_nil absent] at called
    cases called
  case forgotten =>
    rw [log, PoolCalls.forgotten_toList, ← own.records.forgotten, ← own.records.named]
    refine if_congr ⟨fun gone => ?_, fun ⟨lone, lost⟩ => ?_⟩ rfl rfl
    · obtain ⟨lone, lost, _⟩ := own.records.dropped gone
      exact ⟨lone, Nat.le_antisymm (own.destroyed_le_one lone) lost⟩
    · exact own.records.bereft lone (lost ▸ Nat.one_pos)

/-- The evaluation of a pool, whichever it is, relates its report so to the log of its calls. -/
def Accounted (relation : PoolReport α → PoolLog → Prop) : Prop :=
  ∀ {σ : Type} {policy : Policy α} {reading : Worker → α} {kind : Kind} {workers : List Worker}
    {first last : Turn (σ × List Call)} {e : Evaluation α} {calls : PoolCalls},
    Evaluated policy reading kind workers first last e calls → first.world.2 = [] →
      relation e.report ⟨kind, workers, last.world.2⟩

/-- The evaluation of a pool under these readings relates its report so to the log of its calls. -/
def AccountedUnder (reading : Worker → α) (relation : PoolReport α → PoolLog → Prop) : Prop :=
  ∀ {σ : Type} {policy : Policy α} {kind : Kind} {workers : List Worker}
    {first last : Turn (σ × List Call)} {e : Evaluation α} {calls : PoolCalls},
    Evaluated policy reading kind workers first last e calls → first.world.2 = [] →
      relation e.report ⟨kind, workers, last.world.2⟩

/-- Induction over the pools. Each pool is evaluated behind the logs of those before it, and as if
it were evaluated behind none. -/
theorem evaluateAll_poolLogs (relation : PoolReport α → PoolLog → Prop) {reading : Worker → α}
    (each : AccountedUnder reading relation) (policy : Policy α) (p : Provider σ α)
    (pools : List (Kind × List Worker)) (turn : Turn σ) (log : List Call) :
    (evaluateAll policy p.recorded reading pools
        ⟨turn.streaks, turn.targets, turn.world, log⟩).2.world.2 =
      log ++ (poolLogs policy p reading pools turn).flatMap (·.calls) ∧
    List.Forall₂ (fun e l => relation e.report l)
      (evaluateAll policy p.recorded reading pools
        ⟨turn.streaks, turn.targets, turn.world, log⟩).1
      (poolLogs policy p reading pools turn) := by
  induction pools generalizing turn log with
  | nil => exact ⟨(List.append_nil log).symm, .nil⟩
  | cons pool pools ih =>
    obtain ⟨kind, workers⟩ := pool
    obtain ⟨calls, own⟩ := evaluate_recorded policy p reading kind workers
      ⟨turn.streaks, turn.targets, turn.world, []⟩
    simp only [evaluateAll, poolLogs, evaluate_behind policy p reading kind workers turn log]
    generalize evaluate policy p.recorded reading kind workers
      ⟨turn.streaks, turn.targets, turn.world, []⟩ = result at own ⊢
    obtain ⟨e, next⟩ := result
    obtain ⟨whole, rest⟩ := ih (next.map Prod.fst) (log ++ next.world.2)
    refine ⟨?_, .cons (each own rfl) rest⟩
    rw [List.flatMap_cons, ← List.append_assoc]
    exact whole

/-- The calls of a tick are those of its pools. -/
theorem evaluateTick_poolLogs (relation : PoolReport α → PoolLog → Prop) (c : Controller α)
    (p : Provider σ α) (number : Nat) (world : σ)
    (each : AccountedUnder (p.reading world) relation) :
    (c.evaluateTick p.recorded number (world, [])).2.2.2 = (c.logs p world).flatMap (·.calls) ∧
      List.Forall₂ relation (c.evaluateTick p.recorded number (world, [])).1.pools
        (c.logs p world) := by
  obtain ⟨whole, each⟩ := evaluateAll_poolLogs relation each c.policy p
    (p.registry world).toList (c.firstTurn (p.registry world) world) []
  exact ⟨whole, List.forall₂_map_left_iff.mpr each⟩

/-- What holds under all readings holds under those of the tick. -/
theorem evaluateTick_logs (relation : PoolReport α → PoolLog → Prop) (each : Accounted relation)
    (c : Controller α) (p : Provider σ α) (number : Nat) (world : σ) :
    (c.evaluateTick p.recorded number (world, [])).2.2.2 = (c.logs p world).flatMap (·.calls) ∧
      List.Forall₂ relation (c.evaluateTick p.recorded number (world, [])).1.pools
        (c.logs p world) :=
  c.evaluateTick_poolLogs relation p number world each

theorem Ticked.requestedFor {c later : Controller α} {e : Event α} (ticked : c.Ticked e later)
    {r : PoolReport α} (reported : r ∈ e.report.pools) :
    r.requested = e.report.requestedFor r.kind := by
  obtain ⟨workers, _, dealt⟩ := ticked.registered reported
  rw [Report.requestedFor, ← ticked.requested, Call.count_requested, dealt.requested]

theorem evaluateTick_accounts (c : Controller α) (p : Provider σ α) (number : Nat) (world : σ) :
    Accounts (p.registry world) (c.logs p world)
      (c.evaluateTick p.recorded number (world, [])).2.2.2
      (c.evaluateTick p.recorded number (world, [])).1 := by
  have ticked := c.evaluateTick_ticked p number world
  obtain ⟨parts, pools⟩ := evaluateTick_logs PoolAccount Evaluated.account c p number world
  have once := Call.length_orders (c.evaluateTick p.recorded number (world, [])).2.2.2
  rw [ticked.requested, ticked.destroyed, ticked.refusals] at once
  constructor
  case requested => exact ticked.requested.symm
  case destroyed => exact ticked.destroyed.symm
  case failures => exact ticked.refusals.symm
  case once => exact once
  case kinds => exact ticked.kinds_eq
  case ascending =>
    rw [ticked.kinds_eq]
    exact Std.ExtTreeMap.ordered_keys
  case parts => exact parts
  case logged => exact map_poolLogs ..
  case pools => exact pools
  case requestedFor => exact fun r reported => ticked.requestedFor reported
  case forgotten =>
    rw [← ticked.forgotten, ← forgotten_of_accounts pools]
    exact congrArg Call.forgotten parts
  case quiet => rw [Report.isQuiet_iff, ← once, List.length_eq_zero_iff]

end Controller

namespace Run

variable [Quantity α] {policy : Policy α} {p : Provider σ α} {events : List (Event α)}
  {c : Controller α}

/-- Induction over the run: each tick adds its report. -/
theorem totals_eq (run : Run policy p events c) : c.totals = .over events := by
  induction run with
  | start created => rw [(Run.start (p := p) created).new_eq.2]; rfl
  | @tick past before later number world after report calls _ accepted ih =>
    have totals : later.totals = before.totals.add report := by
      have added : (before.evaluateTick p.recorded number (world, [])).2.1.totals =
          before.totals.add (before.evaluateTick p.recorded number (world, [])).1 := rfl
      rwa [Controller.tick_eq_ok accepted] at added
    rw [totals, ih]
    simp only [Totals.add, Totals.over, List.length_cons, List.map_cons, List.sum_cons,
      Nat.add_comm]

end Run

namespace Lingering

def index : Kind := ⟨"index", by decide⟩

def third : WorkerId := ⟨"vm-3", by decide⟩

/-- A pool with a worker that is no longer used, one whose only worker is busy, and one without
workers. -/
def three : Registry × (Worker → Float) :=
  ((joined.1.add render ⟨third, true⟩).register index,
    fun v => if v.id = third then 0.9 else joined.2 v)

/-- Requests for one kind are refused. -/
def choosy : Provider (Registry × (Worker → Float)) Float :=
  { provider with
    request := fun kind world =>
      if kind = render then (.error (.request kind "no room"), world) else (.ok (), world) }

end Lingering

section Main

variable [Quantity α] {policy : Policy α} {p : Provider σ α} {past : List (Event α)}
  {c later : Controller α}

/-- The report of an accepted tick accounts for each call of the tick, for its pool and altogether,
and totals are the sums over all accepted ticks. -/
theorem report_accounts {number : Nat} {world after : σ} {report : Report α} {calls : List Call}
    (run : Run policy p past c)
    (accepted : c.tick p.recorded number (world, []) = .ok (report, later, after, calls)) :
    Accounts (p.registry world) (c.logs p world) calls report ∧
      later.totals = .over (⟨p.registry world, p.reading world, report, calls⟩ :: past) := by
  refine ⟨?_, (run.tick accepted).totals_eq⟩
  have accounts := c.evaluateTick_accounts p number world
  rwa [Controller.tick_eq_ok accepted] at accounts

/-- On its second tick a controller destroys a worker of one kind, asks in vain for one of another,
and with success for one of a third. -/
theorem Lingering.report_accounts_three :
    ∃ (past : List (Event Float)) (c later : Controller Float) (report : Report Float)
      (after : Registry × (Worker → Float)) (calls : List Call),
      Run (Policy.ofProfile .simple) choosy past c ∧ past.length = 1 ∧
      c.tick choosy.recorded 2 (three, []) = .ok (report, later, after, calls) ∧
      report.requested = [index] ∧ report.destroyed = [first] ∧
      report.failures = [.request render "no room"] ∧
      Accounts three.1 (c.logs choosy three) calls report ∧
      later.totals = .over (⟨three.1, three.2, report, calls⟩ :: past) ∧
      later.totals = ⟨2, 2, 1, 2⟩ := by
  obtain ⟨run, numbered⟩ := Controller.run_history controller_new choosy [three]
  have fresh : ∀ last ∈ (controller.history choosy [three]).2.lastTick, last < 2 :=
    fun last shown => Nat.lt_succ_of_le (numbered last shown)
  have accepted := Controller.tick_of_fresh fresh choosy.recorded (three, [])
  obtain ⟨accounts, totals⟩ := report_accounts run accepted
  refine ⟨_, _, _, _, _, _, run, rfl, accepted, ?_, ?_, ?_, accounts, totals, ?_⟩
  all_goals decide +kernel

end Main

end ElasticPools
