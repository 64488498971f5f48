import ElasticPools.Proofs.Shrinking

/-!
The evaluation of one pool. One structure says all that an evaluation does: the calls that it makes
and in which order, how its report counts them, and what becomes of streaks and targets.
-/

set_option autoImplicit false

namespace ElasticPools

/-- The requests that follow from the outcome of a growth check. -/
def Growth.requests : Growth → Nat
  | .durable | .transient => 1
  | .hold | .skipped => 0

namespace Policy

variable {α : Type}

/-- The requests that a tick makes for a pool, accepted or not. -/
def requests (p : Policy α) : PoolState → Growth → Nat
  | .seeding, _ => p.seedSize
  | .empty, _ => if p.tracking then 0 else 1
  | .singleton, growth | .atTarget, growth | .general, growth => growth.requests

theorem requests_of_growing (p : Policy α) {state : PoolState}
    (growing : state.evaluatesGrowth = true) (growth : Growth) :
    p.requests state growth = growth.requests := by
  cases state with
  | seeding | empty => cases growing
  | singleton | atTarget | general => rfl

/-- A worker that qualifies is idle, and little used unless it is the last of its kind. -/
theorem of_qualifies [Quantity α] {p : Policy α} {reading : Worker → α} {state : PoolState}
    {v : Worker} (qualifies : p.qualifies reading state v = true) :
    state.evaluatesGrowth = true ∧ v.busy = false ∧
      (state = .singleton ∨ Utilization.sanitize (reading v) < p.minimum) := by
  cases state with
  | seeding | empty => cases qualifies
  | singleton => exact ⟨rfl, (Bool.not_eq_true' _).mp qualifies, Or.inl rfl⟩
  | atTarget | general =>
    rw [Policy.qualifies, Bool.and_eq_true, Bool.not_eq_true', decide_eq_true_eq] at qualifies
    exact ⟨rfl, qualifies.1, Or.inr qualifies.2⟩

end Policy

namespace Controller

variable {σ α : Type}

/-- The state in which a tick finds a pool. -/
def stateOf (policy : Policy α) (kind : Kind) (workers : List Worker) (targets : Targets) :
    PoolState :=
  if policy.tracking && !targets.contains kind then .seeding
  else PoolState.classify workers.length (shownTarget policy targets kind)

theorem of_stateOf_seeding {policy : Policy α} {kind : Kind} {workers : List Worker}
    {targets : Targets} (seeding : stateOf policy kind workers targets = .seeding) :
    policy.tracking = true ∧ targets.contains kind = false := by
  unfold stateOf PoolState.classify at seeding
  split at seeding
  · next unseen => rwa [Bool.and_eq_true, Bool.not_eq_true'] at unseen
  · split at seeding
    · cases seeding
    · cases seeding
    · split at seeding <;> cases seeding

theorem of_stateOf_empty {policy : Policy α} {kind : Kind} {workers : List Worker}
    {targets : Targets} (empty : stateOf policy kind workers targets = .empty) : workers = [] := by
  unfold stateOf PoolState.classify at empty
  split at empty
  · cases empty
  · split at empty
    · next none => exact List.length_eq_zero_iff.mp none
    · cases empty
    · split at empty <;> cases empty

theorem of_stateOf_singleton {policy : Policy α} {kind : Kind} {workers : List Worker}
    {targets : Targets} (singleton : stateOf policy kind workers targets = .singleton) :
    ∃ v, workers = [v] := by
  unfold stateOf PoolState.classify at singleton
  split at singleton
  · cases singleton
  · split at singleton
    · cases singleton
    · next one => exact List.length_eq_one_iff.mp one
    · split at singleton <;> cases singleton

/-- A burst and the calls that it came from. -/
structure Asked (kind : Kind) (log : List Call) (burst : Burst (σ × List Call))
    (answers : List Answer) : Prop where
  log : burst.world.2 = log ++ answers.map (.request kind)
  listed : burst.requested = List.replicate burst.accepted kind
  accepted : burst.accepted = answers.countP (·.isOk)
  failures : burst.failures = PoolCalls.refusals answers

theorem Asked.nothing (kind : Kind) (world : σ × List Call) :
    Asked kind world.2 ⟨[], 0, [], world⟩ [] :=
  ⟨(List.append_nil _).symm, rfl, rfl, rfl⟩

theorem Asked.cons {p : Provider σ α} {kind : Kind} {count : Nat} {world : σ × List Call}
    {answers : List Answer}
    (asked : Asked kind (p.recorded.request kind world).2.2
      (p.recorded.requestMany kind count (p.recorded.request kind world).2) answers) :
    Asked kind world.2 (p.recorded.requestMany kind (count + 1) world)
      ((p.recorded.request kind world).1 :: answers) := by
  have longer : world.2 ++ ((p.recorded.request kind world).1 :: answers).map (.request kind) =
      (p.recorded.request kind world).2.2 ++ answers.map (.request kind) :=
    List.append_cons ..
  have listed := p.recorded.requested_requestMany kind (count + 1) world
  obtain ⟨log, _, accepted, failures⟩ := asked
  rw [← longer] at log
  unfold Provider.requestMany at listed ⊢
  generalize p.recorded.request kind world = called at log listed accepted failures ⊢
  rcases called with ⟨reason | _, later⟩
  · refine ⟨log, listed, ?_, congrArg (reason :: ·) failures⟩
    rw [List.countP_cons_of_neg Bool.false_ne_true]
    exact accepted
  · refine ⟨log, listed, ?_, failures⟩
    rw [List.countP_cons_of_pos rfl]
    exact congrArg (· + 1) accepted

theorem requestMany_recorded (p : Provider σ α) (kind : Kind) (count : Nat)
    (world : σ × List Call) :
    ∃ answers, answers.length = count ∧
      Asked kind world.2 (p.recorded.requestMany kind count world) answers := by
  induction count generalizing world with
  | zero => exact ⟨[], rfl, Asked.nothing kind world⟩
  | succ count ih =>
    obtain ⟨answers, length, asked⟩ := ih (p.recorded.request kind world).2
    exact ⟨_ :: answers, congrArg (· + 1) length, asked.cons⟩

/-- Targets of other kinds stay, and the kind keeps having a target if it has one. -/
structure Steady (kind : Kind) (first last : Targets) : Prop where
  others : ∀ k, kind ≠ k → last.target? k = first.target? k
  contains : first.contains kind = true → last.contains kind = true

theorem Steady.refl (kind : Kind) (targets : Targets) : Steady kind targets targets :=
  ⟨fun _ _ => rfl, id⟩

theorem Steady.trans {kind : Kind} {a b c : Targets} (one : Steady kind a b)
    (two : Steady kind b c) : Steady kind a c :=
  ⟨fun k other => (two.others k other).trans (one.others k other),
    fun present => two.contains (one.contains present)⟩

theorem steady_raise (kind : Kind) (targets : Targets) :
    Steady kind targets (targets.raise kind) := by
  refine ⟨fun k other => ?_, fun _ => ?_⟩
  · rw [Targets.target?_raise, if_neg other]
  · rw [Targets.contains_eq, Targets.target?_raise, if_pos rfl]
    rfl

theorem steady_lowerBy (kind : Kind) (targets : Targets) (n : Nat) :
    Steady kind targets (targets.lowerBy kind n) := by
  refine ⟨fun k other => ?_, fun present => ?_⟩
  · rw [Targets.target?_lowerBy, if_neg fun h => other h.1]
  · rw [Targets.contains_eq, Targets.target?_lowerBy]
    split
    · rfl
    · rwa [← Targets.contains_eq]

variable [Quantity α]

theorem checkGrowth_recorded (policy : Policy α) (p : Provider σ α) (reading : Worker → α)
    (kind : Kind) (pool : List Worker) (targets : Targets) (world : σ × List Call) :
    ∃ answers,
      answers.length =
        (checkGrowth policy p.recorded reading kind pool targets world).growth.requests ∧
      Asked kind world.2 (checkGrowth policy p.recorded reading kind pool targets world).burst
        answers ∧
      Steady kind targets
        (checkGrowth policy p.recorded reading kind pool targets world).targets := by
  unfold checkGrowth
  split
  · exact ⟨[], rfl, Asked.nothing kind world, Steady.refl kind targets⟩
  · next mean _ =>
    obtain ⟨answers, length, asked⟩ := requestMany_recorded p kind 1 world
    cases grown : policy.growth mean with
    | durable =>
      refine ⟨answers, length, asked, ?_⟩
      dsimp only
      split
      · exact Steady.refl kind targets
      · exact steady_raise kind targets
    | transient => exact ⟨answers, length, asked, Steady.refl kind targets⟩
    | hold => exact ⟨[], rfl, Asked.nothing kind world, Steady.refl kind targets⟩
    | skipped => exact ⟨[], rfl, Asked.nothing kind world, Steady.refl kind targets⟩

/-- The target that a pool has after its evaluation. Seeding sets it, and it goes with its kind. A
pool at its target lowers it by what it lost, and a durable request that is accepted raises it. -/
def nextTarget (policy : Policy α) (r : PoolReport α) (forgotten : Bool) (target : Option Nat) :
    Option Nat :=
  if r.state = .seeding then some policy.seedSize
  else if forgotten then none
  else
    let lowered :=
      if r.state = .atTarget ∧ 0 < r.destroyed then some (target.getD 0 - r.destroyed) else target
    if r.growth = .durable ∧ 0 < r.requested then some (lowered.getD 0 + 1) else lowered

/-- Whether an evaluation leaves out the growth check. -/
def skipsGrowth (policy : Policy α) (r : PoolReport α) (forgotten : Bool) : Bool :=
  !r.state.evaluatesGrowth || forgotten || policy.skipGrowthAfterLoss && decide (0 < r.destroyed)

/-- What a report says of growth, and what becomes of the target. -/
structure Grown (policy : Policy α) (kind : Kind) (first last : Targets) (r : PoolReport α)
    (forgotten : Bool) : Prop where
  growth : r.growth = r.utilization.elim .skipped policy.growth
  target : last.target? kind = nextTarget policy r forgotten (first.target? kind)
  shown : r.target = shownTarget policy last kind

/-- The growth check takes the mean over its pool, and a durable request that is accepted raises the
target. -/
theorem checkGrowth_grown {policy : Policy α} {p : Provider σ α} {reading : Worker → α}
    {kind : Kind} {pool : List Worker} {targets : Targets} {world : σ} {check : GrowthCheck σ α}
    (checked : checkGrowth policy p reading kind pool targets world = check) :
    check.utilization = Utilization.mean? reading pool ∧
      check.growth = check.utilization.elim .skipped policy.growth ∧
      check.targets.target? kind =
        if check.growth = .durable ∧ 0 < check.burst.accepted then
          some ((targets.target? kind).getD 0 + 1)
        else targets.target? kind := by
  unfold checkGrowth at checked
  cases found : Utilization.mean? reading pool with
  | none =>
    rw [found] at checked
    subst checked
    exact ⟨rfl, rfl, rfl⟩
  | some mean =>
    rw [found] at checked
    dsimp only at checked
    cases grown : policy.growth mean with
    | durable =>
      rw [grown] at checked
      subst checked
      refine ⟨rfl, grown.symm, ?_⟩
      by_cases refused : (p.requestMany kind 1 world).accepted = 0
      · simp [refused]
      · simp [refused, Nat.pos_of_ne_zero refused, Targets.target?_raise, Targets.current]
    | transient | hold | skipped =>
      rw [grown] at checked
      subst checked
      exact ⟨rfl, grown.symm, rfl⟩

/-- How an evaluation accounts for the calls that it made. -/
structure Records (policy : Policy α) (e : Evaluation α) (calls : PoolCalls) : Prop where
  named : e.report.kind = calls.kind
  asked : calls.answers.length = policy.requests e.report.state e.report.growth
  requested : e.report.requested = calls.answers.countP (·.isOk)
  /-- The list that goes into the report of the tick, and the count for the pool. -/
  listed : e.requested = List.replicate e.report.requested e.report.kind
  lost : e.report.destroyed = e.destroyed.length
  destroyed : e.destroyed = PoolCalls.destroyed calls.attempts
  failures : e.failures =
    PoolCalls.refusals (calls.attempts.map (·.2)) ++ PoolCalls.refusals calls.answers
  forgotten : e.forgotten = calls.forgets
  /-- Only a kind that has lost its last worker is forgotten, and nothing is requested for it. -/
  dropped : e.forgotten = true →
    e.report.state = .singleton ∧ 0 < e.report.destroyed ∧ calls.answers = []
  bereft : e.report.state = .singleton → 0 < e.report.destroyed → e.forgotten = true

/-- All that the evaluation of one pool does. -/
structure Evaluated (policy : Policy α) (reading : Worker → α) (kind : Kind)
    (workers : List Worker) (first last : Turn (σ × List Call)) (e : Evaluation α)
    (calls : PoolCalls) : Prop where
  records : Records policy e calls
  named : e.report.kind = kind
  size : e.report.size = workers.length
  state : e.report.state = stateOf policy kind workers first.targets
  log : last.world.2 = first.world.2 ++ calls.toList
  within : (calls.attempts.map (·.1)).Sublist (workers.map (·.id))
  otherStreaks : ∀ w, w ∉ workers.map (·.id) →
    last.streaks.count? w = first.streaks.count? w
  /-- A pool that is seeded or empty touches no streak. -/
  waiting : e.report.state.evaluatesGrowth = false →
    calls.attempts = [] ∧ last.streaks = first.streaks
  treated : (workers.map (·.id)).Nodup → e.report.state.evaluatesGrowth = true →
    ∀ v ∈ workers, Treatment (first.streaks.next v.id) (policy.grace e.report.state)
      (policy.qualifies reading e.report.state v) (PoolCalls.answersOn v.id calls.attempts)
      (last.streaks.count? v.id)
  otherTargets : ∀ k, kind ≠ k → last.targets.target? k = first.targets.target? k
  target : policy.tracking = true → (last.targets.contains kind = true ↔ e.forgotten = false)
  grown : Grown policy kind first.targets last.targets e.report e.forgotten
  utilization : e.report.utilization =
    if skipsGrowth policy e.report e.forgotten then none
    else Utilization.mean? reading (remaining workers e.destroyed)

section Branches

variable (policy : Policy α) (p : Provider σ α) (reading : Worker → α) (kind : Kind)
  (workers : List Worker) (turn : Turn (σ × List Call))

variable {policy reading kind workers turn} in
/-- The evaluation of a pool whose workers are not looked at. -/
theorem Asked.evaluated {state : PoolState} {size : Nat} {shown : Option Nat} {targets : Targets}
    {burst : Burst (σ × List Call)} {answers : List Answer}
    (asked : Asked kind turn.world.2 burst answers)
    (length : answers.length = policy.requests state .skipped)
    (found : stateOf policy kind workers turn.targets = state)
    (still : state.evaluatesGrowth = false) (counted : size = workers.length)
    (others : ∀ k, kind ≠ k → targets.target? k = turn.targets.target? k)
    (present : policy.tracking = true → targets.contains kind = true)
    (target : targets.target? kind =
      if state = .seeding then some policy.seedSize else turn.targets.target? kind)
    (seen : shown = shownTarget policy targets kind) :
    Evaluated policy reading kind workers turn ⟨turn.streaks, targets, burst.world⟩
      ⟨⟨kind, state, size, shown, none, .skipped, 0, burst.accepted⟩, burst.requested, [],
        burst.failures, false⟩
      ⟨kind, [], answers, false⟩ := by
  constructor
  case records =>
    exact ⟨rfl, length, asked.accepted, asked.listed, rfl, rfl, asked.failures, rfl,
      fun gone => absurd gone Bool.false_ne_true, fun _ lost => absurd lost (Nat.lt_irrefl 0)⟩
  case named => rfl
  case size => exact counted
  case state => exact found.symm
  case log => exact asked.log.trans (by rw [PoolCalls.toList_requests])
  case within => exact List.nil_sublist _
  case otherStreaks => exact fun _ _ => rfl
  case waiting => exact fun _ => ⟨rfl, rfl⟩
  case treated =>
    intro _ growing
    rw [still] at growing
    cases growing
  case otherTargets => exact others
  case target => exact fun tracking => ⟨fun _ => rfl, fun _ => present tracking⟩
  case grown => exact ⟨rfl, by simp [nextTarget, target], seen⟩
  case utilization => simp [skipsGrowth, still]

theorem seed_recorded (tracking : policy.tracking = true)
    (unseen : turn.targets.contains kind = false) :
    ∃ calls, Evaluated policy reading kind workers turn (seed policy p.recorded kind workers turn).2
      (seed policy p.recorded kind workers turn).1 calls := by
  obtain ⟨answers, length, asked⟩ := requestMany_recorded p kind policy.seedSize turn.world
  have seeded : stateOf policy kind workers turn.targets = .seeding := by
    simp only [stateOf, tracking, unseen, Bool.not_false, Bool.and_self, if_true]
  have absent : turn.targets.target? kind = none := by
    rw [← Option.isNone_iff_eq_none, ← Option.not_isSome, ← Targets.contains_eq, unseen]
    rfl
  have target : (turn.targets.seed kind policy.seedSize).target? kind = some policy.seedSize := by
    rw [Targets.target?_seed, if_pos ⟨rfl, absent⟩]
  refine ⟨⟨kind, [], answers, false⟩, asked.evaluated length seeded rfl rfl ?_ ?_ ?_ ?_⟩
  · intro k other
    exact (Targets.target?_seed _ _ _ _).trans (if_neg fun h => other h.1)
  · intro _
    rw [Targets.contains_eq, target]
    rfl
  · exact target
  · rw [shownTarget, if_pos tracking]

theorem fill_recorded (seen : (policy.tracking && !turn.targets.contains kind) = false)
    (empty : PoolState.classify workers.length (shownTarget policy turn.targets kind) = .empty) :
    ∃ calls, Evaluated policy reading kind workers turn (fill policy p.recorded kind turn).2
      (fill policy p.recorded kind turn).1 calls := by
  obtain ⟨answers, length, asked⟩ :=
    requestMany_recorded p kind (if policy.tracking then 0 else 1) turn.world
  have found : stateOf policy kind workers turn.targets = .empty := by
    simp only [stateOf, seen, Bool.false_eq_true, if_false, empty]
  have none : 0 = workers.length := by
    rw [of_stateOf_empty found]
    rfl
  refine ⟨⟨kind, [], answers, false⟩,
    asked.evaluated length found rfl none (fun _ _ => rfl) ?_ rfl rfl⟩
  intro tracking
  rwa [tracking, Bool.true_and, Bool.not_eq_false'] at seen

variable {attempts : List (WorkerId × Answer)} {s : Shrink (σ × List Call)}

/-- The growth check of a pool, or its omission after a loss. -/
theorem settle_check (targets : Targets) (world : σ × List Call) (pool : List Worker) (skip : Bool) :
    ∃ check : GrowthCheck (σ × List Call) α, ∃ answers,
      (if skip then ⟨none, .skipped, ⟨[], 0, [], world⟩, targets⟩
        else checkGrowth policy p.recorded reading kind pool targets world) = check ∧
      (answers.length = check.growth.requests ∧ Asked kind world.2 check.burst answers ∧
        Steady kind targets check.targets) ∧
      check.utilization = (if skip then none else Utilization.mean? reading pool) ∧
      check.growth = check.utilization.elim .skipped policy.growth ∧
      check.targets.target? kind =
        if check.growth = .durable ∧ 0 < check.burst.accepted then
          some ((targets.target? kind).getD 0 + 1)
        else targets.target? kind := by
  cases skip with
  | true =>
    exact ⟨_, [], rfl, ⟨rfl, Asked.nothing kind world, Steady.refl kind targets⟩, rfl, rfl, rfl⟩
  | false =>
    obtain ⟨answers, facts⟩ :=
      checkGrowth_recorded policy p reading kind pool targets world
    exact ⟨_, answers, rfl, facts, checkGrowth_grown rfl⟩

variable {policy reading kind workers turn} in
/-- The evaluation of a pool whose workers are looked at. -/
theorem Shrinking.evaluated {state : PoolState} {e : Evaluation α} {calls : PoolCalls}
    {targets : Targets} {world : σ × List Call}
    (shrunk : Shrinking (policy.qualifies reading state) (policy.grace state) workers
      ⟨turn.streaks, turn.world, [], []⟩ s calls.attempts)
    (found : stateOf policy kind workers turn.targets = state)
    (growing : state.evaluatesGrowth = true) (records : Records policy e calls)
    (named : e.report.kind = kind) (size : e.report.size = workers.length)
    (shown : e.report.state = state)
    (log : world.2 = s.world.2 ++ calls.answers.map (.request calls.kind) ++
      if calls.forgets then [.forget calls.kind] else [])
    (others : ∀ k, kind ≠ k → targets.target? k = turn.targets.target? k)
    (target : policy.tracking = true → (targets.contains kind = true ↔ e.forgotten = false))
    (grown : Grown policy kind turn.targets targets e.report e.forgotten)
    (utilization : e.report.utilization =
      if skipsGrowth policy e.report e.forgotten then none
      else Utilization.mean? reading (remaining workers e.destroyed)) :
    Evaluated policy reading kind workers turn ⟨s.streaks, targets, world⟩ e calls := by
  constructor
  case records => exact records
  case named => exact named
  case size => exact size
  case state => exact shown.trans found.symm
  case log =>
    rw [log, shrunk.progress.log, List.append_assoc, List.append_assoc, PoolCalls.toList,
      List.append_assoc]
  case within => exact shrunk.within
  case otherStreaks => exact shrunk.others
  case waiting =>
    intro still
    rw [shown, growing] at still
    cases still
  case treated =>
    intro distinct _
    rw [shown]
    exact shrunk.treated distinct
  case otherTargets => exact others
  case target => exact target
  case grown => exact grown
  case utilization => exact utilization

theorem settle_recorded {state : PoolState}
    (found : stateOf policy kind workers turn.targets = state)
    (growing : state.evaluatesGrowth = true)
    (seen : (policy.tracking && !turn.targets.contains kind) = false)
    (spared : (decide (state = .singleton) && !s.destroyed.isEmpty) = false)
    (shrunk : Shrinking (policy.qualifies reading state) (policy.grace state) workers
      ⟨turn.streaks, turn.world, [], []⟩ s attempts) :
    ∃ calls, Evaluated policy reading kind workers turn
      (settle policy p.recorded reading kind state workers s turn.targets).2
      (settle policy p.recorded reading kind state workers s turn.targets).1 calls := by
  have lowered : Steady kind turn.targets
      (if state = .atTarget then turn.targets.lowerBy kind s.destroyed.length
        else turn.targets) := by
    split
    · exact steady_lowerBy kind _ _
    · exact Steady.refl kind _
  have lower : (if state = .atTarget then turn.targets.lowerBy kind s.destroyed.length
      else turn.targets).target? kind =
      if state = .atTarget ∧ 0 < s.destroyed.length then
        some ((turn.targets.target? kind).getD 0 - s.destroyed.length)
      else turn.targets.target? kind := by
    by_cases atTarget : state = .atTarget
    · simp [atTarget, Targets.target?_lowerBy, Targets.current]
    · simp [atTarget]
  obtain ⟨check, answers, checked, ⟨length, asked, steady⟩, mean, growth, raised⟩ :=
    settle_check policy p reading kind
      (if state = .atTarget then turn.targets.lowerBy kind s.destroyed.length else turn.targets)
      s.world (remaining workers s.destroyed) (policy.skipGrowthAfterLoss && !s.destroyed.isEmpty)
  have targets := lowered.trans steady
  simp only [settle, checked]
  refine ⟨⟨kind, attempts, answers, false⟩, ?_⟩
  apply shrunk.evaluated found growing
  case records =>
    refine ⟨rfl, ?_, asked.accepted, asked.listed, rfl, shrunk.progress.destroyed, ?_, rfl, ?_, ?_⟩
    · exact length.trans (policy.requests_of_growing growing _).symm
    · show s.failures ++ check.burst.failures = _
      rw [shrunk.progress.failures, asked.failures, List.nil_append]
    · exact fun gone => by cases gone
    · intro (lone : state = .singleton) lost
      rw [lone, decide_eq_true rfl, Bool.true_and, Bool.not_eq_false'] at spared
      exact absurd (List.isEmpty_iff.mp spared) (List.length_pos_iff.mp lost)
  case named => rfl
  case size => rfl
  case shown => rfl
  case log => exact asked.log.trans (List.append_nil _).symm
  case others => exact targets.others
  case target =>
    intro tracking
    rw [tracking, Bool.true_and, Bool.not_eq_false'] at seen
    exact ⟨fun _ => rfl, fun _ => targets.contains seen⟩
  case grown =>
    have unseeded : state ≠ .seeding := by
      rintro rfl
      cases growing
    refine ⟨growth, ?_, rfl⟩
    simp only [nextTarget, unseeded, if_false, Bool.false_eq_true]
    rw [raised, lower]
  case utilization =>
    have skips : skipsGrowth policy
        ⟨kind, state, workers.length, shownTarget policy check.targets kind, check.utilization,
          check.growth, s.destroyed.length, check.burst.accepted⟩ false =
        (policy.skipGrowthAfterLoss && !s.destroyed.isEmpty) := by
      simp only [skipsGrowth, growing, Bool.not_true, Bool.false_or]
      cases s.destroyed <;> rfl
    rw [skips]
    exact mean

theorem dropKind_recorded (lost : s.destroyed.isEmpty = false)
    (found : stateOf policy kind workers turn.targets = .singleton)
    (shrunk : Shrinking (policy.qualifies reading .singleton) (policy.grace .singleton) workers
      ⟨turn.streaks, turn.world, [], []⟩ s attempts) :
    ∃ calls, Evaluated policy reading kind workers turn
      (dropKind (α := α) p.recorded kind workers s turn.targets).2
      (dropKind (α := α) p.recorded kind workers s turn.targets).1 calls := by
  refine ⟨⟨kind, attempts, [], true⟩, ?_⟩
  apply shrunk.evaluated found rfl
  case records =>
    refine ⟨rfl, rfl, rfl, rfl, rfl, shrunk.progress.destroyed, ?_, rfl, fun _ => ⟨rfl, ?_, rfl⟩,
      fun _ _ => rfl⟩
    · exact shrunk.progress.failures.trans (List.append_nil _).symm
    · exact List.length_pos_iff.mpr (List.isEmpty_eq_false_iff.mp lost)
  case named => rfl
  case size => rfl
  case shown => rfl
  case log => exact congrArg (· ++ [Call.forget kind]) (List.append_nil _).symm
  case others =>
    intro k other
    exact (Targets.target?_forget _ _ _).trans (if_neg other)
  case target =>
    intro _
    rw [Targets.contains_eq]
    simp only [dropKind, Targets.target?_forget, if_true, Option.isSome_none, Bool.false_eq_true,
      Bool.true_eq_false]
  case grown =>
    refine ⟨rfl, ?_, ?_⟩
    · simp [dropKind, nextTarget]
    · simp [dropKind, shownTarget]
  case utilization => rfl

theorem classify_of_not_growing {size : Nat} {target : Option Nat}
    (still : (PoolState.classify size target).evaluatesGrowth = false) :
    PoolState.classify size target = .empty := by
  match size with
  | 0 => rfl
  | 1 => cases still
  | n + 2 =>
    by_cases reached : target = some (n + 2)
    · simp [PoolState.classify, reached, PoolState.evaluatesGrowth] at still
    · simp [PoolState.classify, reached, PoolState.evaluatesGrowth] at still

/-- Every evaluation is accounted for by calls. -/
theorem evaluate_recorded :
    ∃ calls, Evaluated policy reading kind workers turn
      (evaluate policy p.recorded reading kind workers turn).2
      (evaluate policy p.recorded reading kind workers turn).1 calls := by
  unfold evaluate
  cases unseen : policy.tracking && !turn.targets.contains kind with
  | true =>
    rw [Bool.and_eq_true, Bool.not_eq_true'] at unseen
    exact seed_recorded policy p reading kind workers turn unseen.1 unseen.2
  | false =>
    have found : stateOf policy kind workers turn.targets =
        PoolState.classify workers.length (shownTarget policy turn.targets kind) := by
      simp only [stateOf, unseen, Bool.false_eq_true, if_false]
    simp only [Bool.false_eq_true, if_false]
    split
    · next growing =>
      obtain ⟨attempts, shrunk⟩ := shrink_recorded p
        (policy.qualifies reading
          (PoolState.classify workers.length (shownTarget policy turn.targets kind)))
        (policy.grace (PoolState.classify workers.length (shownTarget policy turn.targets kind)))
        workers turn.streaks turn.world
      split
      · next lone =>
        rw [Bool.and_eq_true, decide_eq_true_eq, Bool.not_eq_true'] at lone
        have lost := lone.2
        rw [lone.1] at found shrunk lost ⊢
        exact dropKind_recorded policy p reading kind workers turn lost found shrunk
      · next several =>
        exact settle_recorded policy p reading kind workers turn found growing unseen
          (Bool.not_eq_true _ ▸ several) shrunk
    · next still =>
      rw [Bool.not_eq_true] at still
      exact fill_recorded policy p reading kind workers turn unseen (classify_of_not_growing still)

end Branches

end Controller

end ElasticPools
