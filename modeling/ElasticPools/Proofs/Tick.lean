import ElasticPools.Proofs.Evaluation
import ElasticPools.Proofs.Recording

/-!
One tick over all pools. Evaluations of different pools do not meet: a pool's evaluation reads and
moves the target of its own kind and the streaks of its own workers, and its calls are the only ones
for them. So each pool fares as if the tick had begun and ended with it.
-/

set_option autoImplicit false

namespace ElasticPools.Controller

variable {σ α : Type}

/-- The names of all workers of some pools. -/
def idsOf (pools : List (Kind × List Worker)) : List WorkerId :=
  pools.flatMap fun q => q.2.map (·.id)

theorem mem_idsOf {pools : List (Kind × List Worker)} {w : WorkerId} :
    w ∈ idsOf pools ↔ ∃ q ∈ pools, w ∈ q.2.map (·.id) := List.mem_flatMap

/-- What the evaluations of some pools add up to, and what they leave alone. -/
structure AllEvaluated (pools : List (Kind × List Worker)) (first last : Turn (σ × List Call))
    (es : List (Evaluation α)) : Prop where
  reports : es.map (fun e => (e.report.kind, e.report.size)) = pools.map fun q => (q.1, q.2.length)
  requested : Call.requested last.world.2 = Call.requested first.world.2 ++ es.flatMap (·.requested)
  listed : ∀ e ∈ es, e.requested = List.replicate e.report.requested e.report.kind
  destroyed : Call.destroyed last.world.2 = Call.destroyed first.world.2 ++ es.flatMap (·.destroyed)
  refusals : Call.refusals last.world.2 = Call.refusals first.world.2 ++ es.flatMap (·.failures)
  forgotten : Call.forgotten last.world.2 = Call.forgotten first.world.2 ++
    (es.filter (·.forgotten)).map (·.report.kind)
  otherStreaks : ∀ w, w ∉ idsOf pools → last.streaks.count? w = first.streaks.count? w
  otherAttempts : ∀ w, w ∉ idsOf pools →
    Call.attemptsOn w last.world.2 = Call.attemptsOn w first.world.2
  /-- Workers are attacked only in pools that are looked at. -/
  attacked : ∀ w, Call.attemptsOn w last.world.2 ≠ Call.attemptsOn w first.world.2 →
    ∃ e ∈ es, e.report.state.evaluatesGrowth = true ∧
      ∃ workers, (e.report.kind, workers) ∈ pools ∧ w ∈ workers.map (·.id)
  otherTargets : ∀ k, k ∉ pools.map (·.1) → last.targets.target? k = first.targets.target? k
  otherAnswers : ∀ k, k ∉ pools.map (·.1) →
    Call.answersFor k last.world.2 = Call.answersFor k first.world.2

theorem AllEvaluated.not_forgotten {pools : List (Kind × List Worker)}
    {first last : Turn (σ × List Call)} {es : List (Evaluation α)}
    (all : AllEvaluated pools first last es) {kind : Kind} (absent : kind ∉ pools.map (·.1)) :
    kind ∉ (es.filter (·.forgotten)).map (·.report.kind) := by
  have kinds : es.map (·.report.kind) = pools.map (·.1) := by
    have firsts := congrArg (List.map Prod.fst) all.reports
    simpa only [List.map_map, Function.comp_def] using firsts
  intro member
  obtain ⟨e, inside, named⟩ := List.mem_map.mp member
  apply absent
  rw [← kinds]
  exact List.mem_map.mpr ⟨e, (List.mem_filter.mp inside).1, named⟩

/-- A pool's kind is that of no other. -/
theorem kind_apart {kind : Kind} {workers : List Worker} {front back : List (Kind × List Worker)}
    (kinds : ((front ++ (kind, workers) :: back).map (·.1)).Nodup) :
    kind ∉ front.map (·.1) ∧ kind ∉ back.map (·.1) := by
  rw [List.map_append, List.map_cons, List.nodup_append, List.nodup_cons] at kinds
  refine ⟨fun member => ?_, kinds.2.1.1⟩
  exact kinds.2.2 kind member kind List.mem_cons_self rfl

/-- A worker's name is that of no worker in another pool, nor of another one in its own. -/
theorem workers_apart {kind : Kind} {workers : List Worker}
    {front back : List (Kind × List Worker)}
    (unique : (idsOf (front ++ (kind, workers) :: back)).Nodup) :
    (workers.map (·.id)).Nodup ∧ ∀ v ∈ workers, v.id ∉ idsOf front ∧ v.id ∉ idsOf back := by
  rw [idsOf, List.flatMap_append, List.flatMap_cons, List.nodup_append, List.nodup_append]
    at unique
  refine ⟨unique.2.1.1, fun v member => ?_⟩
  have named : v.id ∈ workers.map (·.id) := List.mem_map.mpr ⟨v, member, rfl⟩
  refine ⟨fun seen => ?_, fun seen => ?_⟩
  · exact unique.2.2 v.id seen v.id (List.mem_append_left _ named) rfl
  · exact unique.2.1.2.2 v.id named v.id seen rfl

/-- Other pools do not move the streak of a worker. -/
theorem count?_between {kind : Kind} {workers : List Worker} {front back : List (Kind × List Worker)}
    {t₀ t₁ t₂ t₃ : Turn (σ × List Call)} {before after : List (Evaluation α)}
    (first : AllEvaluated front t₀ t₁ before) (last : AllEvaluated back t₂ t₃ after)
    (unique : (idsOf (front ++ (kind, workers) :: back)).Nodup) {v : Worker}
    (member : v ∈ workers) :
    t₁.streaks.count? v.id = t₀.streaks.count? v.id ∧
      t₃.streaks.count? v.id = t₂.streaks.count? v.id := by
  obtain ⟨_, others⟩ := workers_apart unique
  exact ⟨first.otherStreaks _ (others v member).1, last.otherStreaks _ (others v member).2⟩

variable [Quantity α]

theorem evaluateAll_append (policy : Policy α) (p : Provider σ α) (reading : Worker → α)
    (front back : List (Kind × List Worker)) (turn : Turn σ) :
    evaluateAll policy p reading (front ++ back) turn =
      ((evaluateAll policy p reading front turn).1 ++
          (evaluateAll policy p reading back (evaluateAll policy p reading front turn).2).1,
        (evaluateAll policy p reading back (evaluateAll policy p reading front turn).2).2) := by
  induction front generalizing turn with
  | nil => rfl
  | cons pool front ih => simp only [List.cons_append, evaluateAll, ih]

theorem evaluateAll_recorded (policy : Policy α) (p : Provider σ α) (reading : Worker → α)
    (pools : List (Kind × List Worker)) (turn : Turn (σ × List Call)) :
    AllEvaluated pools turn (evaluateAll policy p.recorded reading pools turn).2
      (evaluateAll policy p.recorded reading pools turn).1 := by
  induction pools generalizing turn with
  | nil => constructor <;> simp [evaluateAll]
  | cons pool pools ih =>
    obtain ⟨kind, workers⟩ := pool
    obtain ⟨calls, one⟩ := evaluate_recorded policy p reading kind workers turn
    have rest := ih (evaluate policy p.recorded reading kind workers turn).2
    have own : calls.kind = kind := one.records.named.symm.trans one.named
    simp only [evaluateAll]
    constructor
    case reports =>
      rw [List.map_cons, List.map_cons, rest.reports, one.named, one.size]
    case requested =>
      rw [rest.requested, one.log, Call.requested_append, PoolCalls.requested_toList,
        List.flatMap_cons, one.records.listed, one.records.requested, one.records.named,
        List.append_assoc]
    case listed => exact List.forall_mem_cons.mpr ⟨one.records.listed, rest.listed⟩
    case destroyed =>
      rw [rest.destroyed, one.log, Call.destroyed_append, PoolCalls.destroyed_toList,
        List.flatMap_cons, one.records.destroyed, List.append_assoc]
    case refusals =>
      rw [rest.refusals, one.log, Call.refusals_append, PoolCalls.refusals_toList,
        List.flatMap_cons, one.records.failures, List.append_assoc]
    case forgotten =>
      rw [rest.forgotten, one.log, Call.forgotten_append, PoolCalls.forgotten_toList,
        List.filter_cons, ← one.records.forgotten, ← one.records.named, List.append_assoc]
      split <;> rfl
    case otherStreaks =>
      intro w absent
      rw [idsOf, List.flatMap_cons, List.mem_append, not_or] at absent
      rw [rest.otherStreaks w absent.2, one.otherStreaks w absent.1]
    case otherAttempts =>
      intro w absent
      rw [idsOf, List.flatMap_cons, List.mem_append, not_or] at absent
      have unseen : w ∉ calls.attempts.map (·.1) := fun seen => absent.1 (one.within.subset seen)
      rw [rest.otherAttempts w absent.2, one.log, Call.attemptsOn_append,
        PoolCalls.attemptsOn_toList, PoolCalls.answersOn_eq_nil unseen, List.append_nil]
    case attacked =>
      intro w moved
      by_cases own : PoolCalls.answersOn w calls.attempts = []
      · obtain ⟨e, member, growing, others, listed, inside⟩ := rest.attacked w fun same => moved (by
          rw [same, one.log, Call.attemptsOn_append, PoolCalls.attemptsOn_toList, own,
            List.append_nil])
        exact ⟨e, List.mem_cons_of_mem _ member, growing, others, List.mem_cons_of_mem _ listed,
          inside⟩
      · refine ⟨_, List.mem_cons_self, ?_, workers, ?_, ?_⟩
        · refine Bool.not_eq_false _ |>.mp fun still => own ?_
          rw [(one.waiting still).1]
          rfl
        · rw [one.named]
          exact List.mem_cons_self
        · refine Decidable.byContradiction fun absent => own ?_
          exact PoolCalls.answersOn_eq_nil fun seen => absent (one.within.subset seen)
    case otherTargets =>
      intro k absent
      rw [List.map_cons, List.mem_cons, not_or] at absent
      rw [rest.otherTargets k absent.2, one.otherTargets k (Ne.symm absent.1)]
    case otherAnswers =>
      intro k absent
      rw [List.map_cons, List.mem_cons, not_or] at absent
      rw [rest.otherAnswers k absent.2, one.log, Call.answersFor_append,
        PoolCalls.answersFor_toList, own, if_neg (Ne.symm absent.1), List.append_nil]

/-- A sublist of a list without repetitions is as long as its members are many. -/
theorem length_eq_countP_of_sublist {l ids : List WorkerId} (within : l.Sublist ids)
    (distinct : ids.Nodup) : l.length = ids.countP l.contains := by
  induction within with
  | slnil => rfl
  | @cons l ids w within ih =>
    rw [List.nodup_cons] at distinct
    have absent : l.contains w = false := by
      rw [Bool.eq_false_iff, ne_eq, List.contains_iff_mem]
      exact fun member => distinct.1 (within.subset member)
    rw [ih distinct.2, List.countP_cons, absent]
    rfl
  | @cons_cons l ids w within ih =>
    rw [List.nodup_cons] at distinct
    have others : ids.countP (w :: l).contains = ids.countP l.contains := by
      apply List.countP_congr
      intro v member
      have other : v ≠ w := by
        rintro rfl
        exact distinct.1 member
      simp [other]
    rw [List.length_cons, ih distinct.2, List.countP_cons, others]
    simp

/-- How one pool fares in a tick that evaluates it among others. -/
structure Outcome (policy : Policy α) (reading : Worker → α) (kind : Kind)
    (workers : List Worker) (first last : Turn (σ × List Call)) (unique : Prop)
    (e : Evaluation α) : Prop where
  named : e.report.kind = kind
  size : e.report.size = workers.length
  state : e.report.state = stateOf policy kind workers first.targets
  asked : (Call.answersFor kind last.world.2).length =
    policy.requests e.report.state e.report.growth
  requested : e.report.requested = (Call.answersFor kind last.world.2).countP (·.isOk)
  forgotten : e.forgotten = true ↔ kind ∈ Call.forgotten last.world.2
  dropped : e.forgotten = true → e.report.state = .singleton ∧ 0 < e.report.destroyed ∧
    Call.answersFor kind last.world.2 = []
  bereft : e.report.state = .singleton → 0 < e.report.destroyed → e.forgotten = true
  target : policy.tracking = true → (last.targets.contains kind = true ↔ e.forgotten = false)
  grown : Grown policy kind first.targets last.targets e.report e.forgotten
  utilization : unique → e.report.utilization =
    if skipsGrowth policy e.report e.forgotten then none
    else Utilization.mean? reading (remaining workers (Call.destroyed last.world.2))
  /-- A growth check that is left out takes no mean. -/
  unread : skipsGrowth policy e.report e.forgotten = true → e.report.utilization = none
  spared : e.report.state.evaluatesGrowth = false → e.report.destroyed = 0
  lost : unique → e.report.destroyed =
    (workers.map (·.id)).countP fun w => decide (w ∈ Call.destroyed last.world.2)
  waiting : unique → e.report.state.evaluatesGrowth = false → ∀ v ∈ workers,
    Call.attemptsOn v.id last.world.2 = [] ∧
      last.streaks.count? v.id = first.streaks.count? v.id
  treated : unique → e.report.state.evaluatesGrowth = true → ∀ v ∈ workers,
    Treatment (first.streaks.next v.id) (policy.grace e.report.state)
      (policy.qualifies reading e.report.state v) (Call.attemptsOn v.id last.world.2)
      (last.streaks.count? v.id)

section Between

variable {policy : Policy α} {reading : Worker → α} {kind : Kind} {workers : List Worker}
  {front back : List (Kind × List Worker)} {t₀ t₁ t₂ t₃ : Turn (σ × List Call)}
  {before after : List (Evaluation α)} {e : Evaluation α} {calls : PoolCalls}
  (first : AllEvaluated front t₀ t₁ before)
  (own : Evaluated policy reading kind workers t₁ t₂ e calls)
  (last : AllEvaluated back t₂ t₃ after)
  (kinds : ((front ++ (kind, workers) :: back).map (·.1)).Nodup) (blank : t₀.world.2 = [])

include own

theorem kind_of_calls : calls.kind = kind := own.records.named.symm.trans own.named

include first last blank

section Kinds

include kinds

/-- All answers for the kind of a pool come from its own evaluation. -/
theorem answersFor_between : Call.answersFor kind t₃.world.2 = calls.answers := by
  obtain ⟨notFront, notBack⟩ := kind_apart kinds
  rw [last.otherAnswers kind notBack, own.log, Call.answersFor_append,
    first.otherAnswers kind notFront, blank, PoolCalls.answersFor_toList,
    if_pos (kind_of_calls own)]
  rfl

/-- Only its own evaluation can forget the kind of a pool. -/
theorem forgotten_between : e.forgotten = true ↔ kind ∈ Call.forgotten t₃.world.2 := by
  obtain ⟨notFront, notBack⟩ := kind_apart kinds
  have none₁ := first.not_forgotten notFront
  have none₂ := last.not_forgotten notBack
  have none : kind ∉ Call.forgotten [] := List.not_mem_nil
  rw [last.forgotten, own.log, Call.forgotten_append, first.forgotten, blank,
    PoolCalls.forgotten_toList, kind_of_calls own, own.records.forgotten]
  simp only [List.mem_append, none₁, none₂, none, false_or, or_false]
  cases calls.forgets with
  | true => exact iff_of_true rfl List.mem_cons_self
  | false => exact iff_of_false Bool.false_ne_true List.not_mem_nil

end Kinds

/-- All attempts on a worker come from the evaluation of its own pool. -/
theorem attemptsOn_between (unique : (idsOf (front ++ (kind, workers) :: back)).Nodup) {v : Worker}
    (member : v ∈ workers) :
    Call.attemptsOn v.id t₃.world.2 = PoolCalls.answersOn v.id calls.attempts := by
  obtain ⟨_, others⟩ := workers_apart unique
  rw [last.otherAttempts _ (others v member).2, own.log, Call.attemptsOn_append,
    first.otherAttempts _ (others v member).1, blank, PoolCalls.attemptsOn_toList]
  rfl

/-- A worker's destruction is that of its own pool. -/
theorem mem_destroyed_between (unique : (idsOf (front ++ (kind, workers) :: back)).Nodup) {v : Worker}
    (member : v ∈ workers) : v.id ∈ e.destroyed ↔ v.id ∈ Call.destroyed t₃.world.2 := by
  rw [Call.mem_destroyed, attemptsOn_between first own last blank unique member,
    own.records.destroyed, PoolCalls.mem_destroyed_iff]

include kinds

/-- A pool between two groups of others, none of which shares its kind. -/
theorem outcome_between :
    Outcome policy reading kind workers t₀ t₃ (idsOf (front ++ (kind, workers) :: back)).Nodup
      e := by
  obtain ⟨notFront, notBack⟩ := kind_apart kinds
  have answers := answersFor_between first own last kinds blank
  constructor
  case named => exact own.named
  case size => exact own.size
  case state =>
    rw [own.state]
    simp only [stateOf, shownTarget, Targets.contains_eq, first.otherTargets kind notFront]
  case asked => rw [answers, own.records.asked]
  case requested => rw [answers, own.records.requested]
  case forgotten => exact forgotten_between first own last kinds blank
  case dropped =>
    rw [answers]
    exact own.records.dropped
  case bereft => exact own.records.bereft
  case target =>
    intro tracking
    rw [Targets.contains_eq, last.otherTargets kind notBack, ← Targets.contains_eq,
      own.target tracking]
  case grown =>
    obtain ⟨growth, target, shown⟩ := own.grown
    have early : t₁.targets.target? kind = t₀.targets.target? kind := first.otherTargets kind notFront
    have late : t₃.targets.target? kind = t₂.targets.target? kind := last.otherTargets kind notBack
    refine ⟨growth, ?_, ?_⟩
    · rw [late, target, early]
    · rw [shown, shownTarget, shownTarget, late]
  case utilization =>
    intro unique
    have same : remaining workers e.destroyed = remaining workers (Call.destroyed t₃.world.2) := by
      apply List.filter_congr
      intro v member
      rw [Bool.eq_iff_iff, Bool.not_eq_true', Bool.not_eq_true', Bool.eq_false_iff,
        Bool.eq_false_iff, ne_eq, ne_eq, List.contains_iff_mem, List.contains_iff_mem,
        mem_destroyed_between first own last blank unique member]
    rw [← same]
    exact own.utilization
  case unread => exact fun skipped => own.utilization.trans (if_pos skipped)
  case spared =>
    intro still
    rw [own.records.lost, own.records.destroyed, (own.waiting still).1]
    rfl
  case lost =>
    intro unique
    have within : e.destroyed.Sublist (workers.map (·.id)) := by
      rw [own.records.destroyed]
      exact (PoolCalls.destroyed_sublist _).trans own.within
    rw [own.records.lost, length_eq_countP_of_sublist within (workers_apart unique).1]
    apply List.countP_congr
    intro w listed
    obtain ⟨v, member, rfl⟩ := List.mem_map.mp listed
    rw [List.contains_iff_mem, decide_eq_true_eq,
      mem_destroyed_between first own last blank unique member]
  case waiting =>
    intro unique still v member
    obtain ⟨none, kept⟩ := own.waiting still
    obtain ⟨early, late⟩ := count?_between first last unique member
    refine ⟨?_, ?_⟩
    · rw [attemptsOn_between first own last blank unique member, none]
      rfl
    · rw [late, kept, early]
  case treated =>
    intro unique growing v member
    obtain ⟨early, late⟩ := count?_between first last unique member
    rw [attemptsOn_between first own last blank unique member, late, ← next_congr early]
    exact own.treated (workers_apart unique).1 growing v member

end Between

theorem evaluateAll_at (policy : Policy α) (p : Provider σ α) (reading : Worker → α)
    {pools : List (Kind × List Worker)} (turn : Turn (σ × List Call))
    (kinds : (pools.map (·.1)).Nodup) (blank : turn.world.2 = []) {kind : Kind}
    {workers : List Worker} (member : (kind, workers) ∈ pools) :
    ∃ e ∈ (evaluateAll policy p.recorded reading pools turn).1,
      Outcome policy reading kind workers turn (evaluateAll policy p.recorded reading pools turn).2
        (idsOf pools).Nodup e := by
  obtain ⟨front, back, rfl⟩ := List.append_of_mem member
  have first := evaluateAll_recorded policy p reading front turn
  obtain ⟨calls, own⟩ := evaluate_recorded policy p reading kind workers
    (evaluateAll policy p.recorded reading front turn).2
  have last := evaluateAll_recorded policy p reading back
    (evaluate policy p.recorded reading kind workers
      (evaluateAll policy p.recorded reading front turn).2).2
  rw [evaluateAll_append]
  exact ⟨_, List.mem_append_right _ List.mem_cons_self, outcome_between first own last kinds blank⟩

end ElasticPools.Controller
