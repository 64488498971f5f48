import ElasticPools.Proofs.Accounting
import ElasticPools.Proofs.Candidacy
import ElasticPools.Quantity.Ordered

/-!
Pools that give no cause to act. A tick that finds only such pools makes no call, moves no target and
ends every streak, whatever ticks before it left behind. So the pools give no cause on the next tick
either, and no call is made for as long as nothing else disturbs them.
-/

set_option autoImplicit false

namespace ElasticPools

variable {σ α : Type}

/-- The streaks that are left when none of the workers qualifies. -/
def IdleStreaks.clearAll (s : IdleStreaks) (workers : List Worker) : IdleStreaks :=
  workers.foldl (fun t v => t.clear v.id) s

namespace IdleStreaks

theorem clearAll_append (s : IdleStreaks) (front back : List Worker) :
    s.clearAll (front ++ back) = (s.clearAll front).clearAll back := List.foldl_append

theorem count?_clearAll (s : IdleStreaks) (workers : List Worker) (w : WorkerId) :
    (s.clearAll workers).count? w = if w ∈ workers.map (·.id) then none else s.count? w := by
  induction workers generalizing s with
  | nil => rfl
  | cons v workers ih =>
    have cleared : s.clearAll (v :: workers) = (s.clear v.id).clearAll workers := rfl
    rw [cleared, ih, count?_clear, List.map_cons]
    by_cases same : v.id = w
    · simp [same]
    · simp [same, Ne.symm same]

/-- No streak is left when every worker that may have one is cleared. -/
theorem clearAll_retain (s : IdleStreaks) (registry : Registry) :
    (s.retain registry.workerIds).clearAll (registry.toList.flatMap (·.2)) = .empty := by
  apply ext_count
  intro w
  rw [count?_clearAll, count?_retain, count?_empty]
  split
  · rfl
  · next uncleared =>
    apply if_neg
    intro listed
    obtain ⟨kind, workers, found, inside⟩ := Registry.mem_workerIds.mp listed
    obtain ⟨v, member, rfl⟩ := List.mem_map.mp inside
    apply uncleared
    exact List.mem_map_of_mem (List.mem_flatMap.mpr ⟨_, Registry.mem_toList.mpr found, member⟩)

end IdleStreaks

variable [Quantity α]

/-- A pool that gives no cause to act. -/
structure Calm (policy : Policy α) (targets : Targets) (reading : Worker → α) (kind : Kind)
    (workers : List Worker) : Prop where
  known : policy.tracking = true → targets.contains kind = true
  populated : policy.tracking = false → workers ≠ []
  alone : workers.length = 1 → ∀ v ∈ workers, v.busy = true
  used : 1 < workers.length → ∀ v ∈ workers,
    v.busy = true ∨ policy.minimum ≤ Utilization.sanitize (reading v)
  unloaded : ∀ mean ∈ Utilization.mean? reading workers, ¬ policy.low < mean

instance (policy : Policy α) (targets : Targets) (reading : Worker → α) (kind : Kind)
    (workers : List Worker) : Decidable (Calm policy targets reading kind workers) :=
  decidable_of_iff
    ((policy.tracking = true → targets.contains kind = true) ∧
      (policy.tracking = false → workers ≠ []) ∧
      (workers.length = 1 → ∀ v ∈ workers, v.busy = true) ∧
      (1 < workers.length → ∀ v ∈ workers,
        v.busy = true ∨ policy.minimum ≤ Utilization.sanitize (reading v)) ∧
      ∀ mean ∈ Utilization.mean? reading workers, ¬ policy.low < mean)
    ⟨fun ⟨known, populated, alone, used, unloaded⟩ => ⟨known, populated, alone, used, unloaded⟩,
      fun ⟨known, populated, alone, used, unloaded⟩ => ⟨known, populated, alone, used, unloaded⟩⟩

namespace Calm

variable {policy : Policy α} {targets targets' : Targets} {reading : Worker → α} {kind : Kind}
  {workers : List Worker}

theorem congr (same : targets'.target? kind = targets.target? kind)
    (calm : Calm policy targets reading kind workers) :
    Calm policy targets' reading kind workers := by
  obtain ⟨known, populated, alone, used, unloaded⟩ := calm
  rw [Targets.contains_eq, ← same, ← Targets.contains_eq] at known
  exact ⟨known, populated, alone, used, unloaded⟩

variable (calm : Calm policy targets reading kind workers)

include calm

/-- Nobody counts towards a destruction. -/
theorem qualifies_eq_false [Quantity.Ordered α] (target : Option Nat) {v : Worker}
    (member : v ∈ workers) :
    policy.qualifies reading (PoolState.classify workers.length target) v = false := by
  match workers, member with
  | [_], member => simp [PoolState.classify, Policy.qualifies, calm.alone rfl v member]
  | _ :: _ :: _, member =>
    have spared : (!v.busy && decide (Utilization.sanitize (reading v) < policy.minimum)) = false := by
      rcases calm.used (by simp) v member with busy | used
      · simp [busy]
      · simp [Quantity.Ordered.not_lt_of_le used]
    simp only [PoolState.classify, List.length_cons]
    split <;> exact spared

end Calm

namespace Controller

omit [Quantity α] in
theorem shrink_of_none (p : Provider σ α) {qualifies : Worker → Bool} (grace : Nat)
    {workers : List Worker} (none : ∀ v ∈ workers, qualifies v = false) (streaks : IdleStreaks)
    (world : σ) :
    shrink p qualifies grace workers streaks world =
      ⟨streaks.clearAll workers, world, [], []⟩ := by
  unfold shrink
  induction workers generalizing streaks with
  | nil => rfl
  | cons v workers ih =>
    have cleared : shrinkBy p qualifies grace ⟨streaks, world, [], []⟩ v =
        ⟨streaks.clear v.id, world, [], []⟩ := by
      rw [shrinkBy, none v List.mem_cons_self]
      rfl
    rw [List.foldl_cons, cleared, ih fun w member => none w (List.mem_cons_of_mem v member)]
    rfl

/-- An evaluation without calls. -/
structure Evaluation.Inert (e : Evaluation α) : Prop where
  requested : e.requested = []
  destroyed : e.destroyed = []
  failures : e.failures = []
  forgotten : e.forgotten = false

omit [Quantity α] in
theorem reportOf_of_inert {es : List (Evaluation α)} (inert : ∀ e ∈ es, e.Inert) (tick : Nat) :
    (reportOf tick es).isQuiet = true ∧ (reportOf tick es).forgotten = [] := by
  have requested : (reportOf tick es).requested = [] :=
    List.flatMap_eq_nil_iff.mpr fun e member => (inert e member).requested
  have destroyed : (reportOf tick es).destroyed = [] :=
    List.flatMap_eq_nil_iff.mpr fun e member => (inert e member).destroyed
  have failures : (reportOf tick es).failures = [] :=
    List.flatMap_eq_nil_iff.mpr fun e member => (inert e member).failures
  constructor
  · rw [Report.isQuiet, requested, destroyed, failures]
    rfl
  · refine List.map_eq_nil_iff.mpr (List.filter_eq_nil_iff.mpr fun e member => ?_)
    rw [(inert e member).forgotten]
    exact Bool.false_ne_true

section

variable [Quantity.Ordered α] {policy : Policy α} (sound : policy.Sound) (p : Provider σ α)
  {reading : Worker → α}

include sound

theorem checkGrowth_of_unloaded {pool : List Worker}
    (unloaded : ∀ mean ∈ Utilization.mean? reading pool, ¬ policy.low < mean) (kind : Kind)
    (targets : Targets) (world : σ) :
    (checkGrowth policy p reading kind pool targets world).burst = ⟨[], 0, [], world⟩ ∧
      (checkGrowth policy p reading kind pool targets world).targets = targets := by
  unfold checkGrowth
  cases found : Utilization.mean? reading pool with
  | none => exact ⟨rfl, rfl⟩
  | some mean =>
    simp only [sound.growth_eq_hold (unloaded mean found), and_self]

variable {kind : Kind} {workers : List Worker}

/-- Where nobody was destroyed and the load is low, a pool stays as it is. -/
theorem settle_of_unloaded
    (unloaded : ∀ mean ∈ Utilization.mean? reading workers, ¬ policy.low < mean) (state : PoolState)
    (streaks : IdleStreaks) (targets : Targets) (world : σ) :
    (settle policy p reading kind state workers ⟨streaks, world, [], []⟩ targets).1.Inert ∧
      (settle policy p reading kind state workers ⟨streaks, world, [], []⟩ targets).2 =
        ⟨streaks, targets, world⟩ := by
  have all : remaining workers [] = workers := List.filter_eq_self.mpr fun _ _ => rfl
  have unlowered : (if state = .atTarget then targets.lowerBy kind 0 else targets) = targets :=
    ite_self targets
  obtain ⟨burst, kept⟩ := checkGrowth_of_unloaded sound p unloaded kind targets world
  simp only [settle, List.length_nil, unlowered, List.isEmpty_nil, Bool.not_true, Bool.and_false,
    Bool.false_eq_true, if_false, all, burst, kept, and_true]
  exact ⟨rfl, rfl, rfl, rfl⟩

/-- By cases of the pool's state. -/
theorem evaluate_of_calm (turn : Turn σ) (calm : Calm policy turn.targets reading kind workers) :
    (evaluate policy p reading kind workers turn).1.Inert ∧
      (evaluate policy p reading kind workers turn).2 =
        { turn with streaks := turn.streaks.clearAll workers } := by
  have seen : (policy.tracking && !turn.targets.contains kind) = false := by
    cases tracking : policy.tracking with
    | false => rfl
    | true => rw [calm.known tracking]; rfl
  rw [evaluate, seen, if_neg Bool.false_ne_true]
  generalize shown : shownTarget policy turn.targets kind = target
  cases growing : (PoolState.classify workers.length target).evaluatesGrowth with
  | true =>
    have idle := shrink_of_none p (policy.grace (PoolState.classify workers.length target))
      (fun v member => calm.qualifies_eq_false target member) turn.streaks turn.world
    simp only [growing, if_true, idle, List.isEmpty_nil, Bool.not_true, Bool.and_false,
      Bool.false_eq_true, if_false]
    exact settle_of_unloaded sound p calm.unloaded ..
  | false =>
    have empty : stateOf policy kind workers turn.targets = .empty := by
      rw [stateOf, seen, if_neg Bool.false_ne_true, shown]
      exact classify_of_not_growing growing
    obtain rfl := of_stateOf_empty empty
    have tracking : policy.tracking = true :=
      (Bool.not_eq_false _).mp fun untracked => calm.populated untracked rfl
    simp only [growing, Bool.false_eq_true, if_false, fill, tracking, if_true]
    exact ⟨⟨rfl, rfl, rfl, rfl⟩, rfl⟩

theorem evaluateAll_of_calm (pools : List (Kind × List Worker)) (turn : Turn σ)
    (calm : ∀ q ∈ pools, Calm policy turn.targets reading q.1 q.2) :
    (∀ e ∈ (evaluateAll policy p reading pools turn).1, e.Inert) ∧
      (evaluateAll policy p reading pools turn).2 =
        { turn with streaks := turn.streaks.clearAll (pools.flatMap (·.2)) } := by
  induction pools generalizing turn with
  | nil => exact ⟨nofun, rfl⟩
  | cons pool pools ih =>
    obtain ⟨kind, workers⟩ := pool
    obtain ⟨inert, next⟩ := evaluate_of_calm sound p turn (calm _ List.mem_cons_self)
    obtain ⟨others, last⟩ := ih { turn with streaks := turn.streaks.clearAll workers }
      fun q member => calm q (List.mem_cons_of_mem _ member)
    simp only [evaluateAll, next, last, List.forall_mem_cons, List.flatMap_cons,
      IdleStreaks.clearAll_append, and_true]
    exact ⟨inert, others⟩

end

end Controller

/-- What a tick leaves that found no cause to act. -/
structure Undisturbed (c : Controller α) (e : Event α) (later : Controller α) : Prop where
  calls : e.calls = []
  quiet : e.report.isQuiet = true
  forgotten : e.report.forgotten = []
  streaks : later.streaks = .empty
  targets : later.targets = c.targets.retain e.registry.contains

/-- All pools are looked at, and streaks of workers that are in none have been dropped before. -/
theorem Controller.undisturbed_of_calm [Quantity.Ordered α] {c later : Controller α}
    (sound : c.policy.Sound) {p : Provider σ α} {number : Nat} {world after : σ}
    {report : Report α} {calls : List Call}
    (accepted : c.tick p.recorded number (world, []) = .ok (report, later, after, calls))
    (calm : ∀ kind workers, (p.registry world).pool? kind = some workers →
      Calm c.policy c.targets (p.reading world) kind workers) :
    Undisturbed c ⟨p.registry world, p.reading world, report, calls⟩ later := by
  let first := c.firstTurn (p.registry world) (world, ([] : List Call))
  have calmFirst : ∀ q ∈ (p.registry world).toList,
      Calm c.policy first.targets (p.reading world) q.1 q.2 := by
    rintro ⟨kind, workers⟩ listed
    have found := Registry.mem_toList.mp listed
    exact (calm kind workers found).congr (c.target?_firstTurn found _)
  obtain ⟨inert, last⟩ := evaluateAll_of_calm sound p.recorded _ first calmFirst
  obtain ⟨quiet, forgotten⟩ := reportOf_of_inert inert number
  have ran := (tick_eq_ok accepted).symm
  have shown : report = reportOf number
      (evaluateAll c.policy p.recorded (p.reading world) (p.registry world).toList first).1 :=
    congrArg (·.1) ran
  constructor
  case calls => exact (congrArg (·.2.2.2) ran).trans (congrArg (·.world.2) last)
  case quiet => rwa [← shown] at quiet
  case forgotten => rwa [← shown] at forgotten
  case streaks =>
    calc later.streaks
      _ = first.streaks.clearAll ((p.registry world).toList.flatMap (·.2)) :=
        (congrArg (·.2.1.streaks) ran).trans (congrArg (·.streaks) last)
      _ = .empty := c.streaks.clearAll_retain (p.registry world)
  case targets => exact (congrArg (·.2.1.targets) ran).trans (congrArg (·.targets) last)

/-- Accepted ticks that follow upon a controller, the latest first, and the controller that they
leave. -/
inductive Onward (p : Provider σ α) (c : Controller α) : List (Event α) → Controller α → Prop where
  | rest : Onward p c [] c
  | tick {events : List (Event α)} {before later : Controller α} {number : Nat} {world after : σ}
      {report : Report α} {calls : List Call} (onward : Onward p c events before)
      (accepted : before.tick p.recorded number (world, []) = .ok (report, later, after, calls)) :
      Onward p c (⟨p.registry world, p.reading world, report, calls⟩ :: events) later

theorem Run.onward {policy : Policy α} {p : Provider σ α} {past events : List (Event α)}
    {c later : Controller α} (run : Run policy p past c) (onward : Onward p c events later) :
    Run policy p (events ++ past) later := by
  induction onward with
  | rest => exact run
  | tick _ accepted ih => exact ih.tick accepted

namespace Lingering

/-- Three pools, one of them empty, and all workers in moderate use. -/
def settled : Registry × (Worker → Float) := (three.1, fun _ => 0.5)

end Lingering

section Main

variable [Quantity.Ordered α] {policy : Policy α} {p : Provider σ α}
  {past events : List (Event α)} {c later : Controller α} {registry : Registry}

/-- For as long as its pools stay the same and give no cause to act, a controller makes no call,
forgets no kind, moves no target and counts no streak, whatever it has seen before. -/
theorem steady_stays_quiet (run : Run policy p past c) (onward : Onward p c events later)
    (fixed : ∀ e ∈ events, e.registry = registry)
    (calm : ∀ e ∈ events, ∀ kind workers, registry.pool? kind = some workers →
      Calm policy c.targets e.reading kind workers) :
    (∀ e ∈ events, e.calls = [] ∧ e.report.isQuiet = true ∧ e.report.forgotten = []) ∧
      (∀ kind, registry.contains kind = true →
        later.targets.target? kind = c.targets.target? kind) ∧
      (events ≠ [] → later.streaks = .empty) := by
  induction onward with
  | rest => exact ⟨nofun, fun _ _ => rfl, fun none => absurd rfl none⟩
  | @tick events before later number world after report calls onward accepted ih =>
    obtain ⟨quiet, targets, _⟩ := ih (fun e member => fixed e (List.mem_cons_of_mem _ member))
      fun e member => calm e (List.mem_cons_of_mem _ member)
    have same : p.registry world = registry := fixed _ List.mem_cons_self
    have policies : before.policy = policy := (run.onward onward).policy_eq
    have undisturbed := Controller.undisturbed_of_calm (policies ▸ run.sound) accepted (by
      intro kind workers found
      rw [same] at found
      rw [policies]
      refine (calm _ List.mem_cons_self kind workers found).congr (targets kind ?_)
      rw [Registry.contains_eq, found]
      rfl)
    refine ⟨List.forall_mem_cons.mpr ⟨⟨undisturbed.calls, undisturbed.quiet,
      undisturbed.forgotten⟩, quiet⟩, ?_, fun _ => undisturbed.streaks⟩
    intro kind present
    rw [undisturbed.targets, Targets.target?_retain, same, if_pos present, targets kind present]

/-- A controller that has counted a tick for one worker, and has raised the target of another one's
pool above its size, goes quiet when the two are in moderate use. -/
theorem Lingering.steady_stays_quiet_settled :
    ∃ (past events : List (Event Float)) (c later : Controller Float),
      Run (Policy.ofProfile .poolTracking) provider past c ∧ Onward provider c events later ∧
      events.length = 2 ∧ (∀ e ∈ events, e.registry = settled.1) ∧
      (c.streaks.count? first = some 1 ∧ c.targets.target? render = some 4) ∧
      (∀ e ∈ events, e.calls = [] ∧ e.report.isQuiet = true ∧ e.report.forgotten = []) ∧
      later.targets.target? render = some 4 ∧ later.streaks = .empty := by
  let c : Controller Float := (tracker.history provider [three, three]).2
  have run : Run (Policy.ofProfile .poolTracking) provider _ c :=
    (Controller.run_history tracker_new provider [three, three]).1
  have one := Controller.tick_history tracker_new provider [three, three] settled
  have two := Controller.tick_history tracker_new provider [settled, three, three] settled
  obtain ⟨events, later, onward, length, same⟩ : ∃ (events : List (Event Float))
      (later : Controller Float), Onward provider c events later ∧ events.length = 2 ∧
      ∀ e ∈ events, e.registry = settled.1 ∧ e.reading = settled.2 :=
    ⟨_, _, (Onward.rest.tick one).tick two, rfl,
      List.forall_mem_cons.mpr ⟨⟨rfl, rfl⟩, List.forall_mem_cons.mpr ⟨⟨rfl, rfl⟩, nofun⟩⟩⟩
  have calm : ∀ q ∈ settled.1.toList,
      Calm (Policy.ofProfile .poolTracking) c.targets settled.2 q.1 q.2 := by decide +kernel
  have target : c.targets.target? render = some 4 := by decide +kernel
  have fixed : ∀ e ∈ events, e.registry = settled.1 := fun e member => (same e member).1
  obtain ⟨quiet, targets, streaks⟩ := steady_stays_quiet run onward fixed (by
    intro e member kind workers found
    rw [(same e member).2]
    exact calm _ (Registry.mem_toList.mpr found))
  refine ⟨_, events, c, later, run, onward, length, fixed, ⟨by decide +kernel, target⟩, quiet, ?_, ?_⟩
  · exact (targets render (by decide +kernel)).trans target
  · exact streaks (List.ne_nil_of_length_pos (length ▸ Nat.zero_lt_two))

end Main

end ElasticPools
