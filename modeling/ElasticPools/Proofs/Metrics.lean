import ElasticPools.Proofs.Accounting
import ElasticPools.Proofs.Agreement
import ElasticPools.Proofs.Series
import ElasticPools.Proofs.Starvation

/-!
Metrics of a simulation. Counters add up what the reports of a kind's pools count, so they count the
calls in the logs of those pools. Gauges are sticky: a report sets those of the kinds that it lists,
and only a kind that is forgotten loses them. They are exact all the same, because no kind leaves a
simulation on another way.
-/

set_option autoImplicit false

namespace ElasticPools

variable {α : Type}

/-- In a pool's report `f` is the number of calls that `select` takes from the pool's log. -/
structure Counts {β : Type} (f : PoolReport α → Nat) (select : List Call → List β) : Prop where
  nil : select [] = []
  append : ∀ calls more, select (calls ++ more) = select calls ++ select more
  own : ∀ {r l}, PoolAccount r l → f r = (select l.calls).length

theorem counts_requested : Counts (PoolReport.requested (α := α)) Call.requested where
  nil := rfl
  append := Call.requested_append
  own account := by rw [account.requested, List.length_replicate]

theorem counts_destroyed : Counts (PoolReport.destroyed (α := α)) Call.destroyed where
  nil := rfl
  append := Call.destroyed_append
  own account := account.destroyed

/-- So it is for many pools, and for those of some kinds. -/
theorem Counts.sum_filter {β : Type} {f : PoolReport α → Nat} {select : List Call → List β}
    (counts : Counts f select) {reports : List (PoolReport α)} {logs : List PoolLog}
    (accounts : List.Forall₂ PoolAccount reports logs) (keep : Kind → Bool) :
    ((reports.filter (keep ·.kind)).map f).sum =
      (select ((logs.filter (keep ·.kind)).flatMap (·.calls))).length := by
  induction accounts with
  | nil => rw [List.filter_nil, List.filter_nil, List.flatMap_nil, counts.nil]; rfl
  | @cons r l reports logs account _ ih =>
    rw [List.filter_cons, List.filter_cons, account.kind]
    split
    · rw [List.map_cons, List.sum_cons, List.flatMap_cons, counts.append, List.length_append, ih,
        counts.own account]
    · exact ih

namespace Simulation

/-- The metrics that frames leave when they are recorded one after the other. -/
def metricsOf (frames : List (Frame α)) : Metrics :=
  frames.foldl (fun m f => m.record f.report f.state.cloud.registry.contains) .empty

theorem metricsOf_snoc (frames : List (Frame α)) (f : Frame α) : metricsOf (frames ++ [f]) =
    (metricsOf frames).record f.report f.state.cloud.registry.contains :=
  List.foldl_append

/-- The reports of pools in frames. -/
def poolReports (frames : List (Frame α)) : List (PoolReport α) :=
  frames.flatMap (·.report.pools)

theorem counter_metricsOf {part : Metrics → Std.ExtTreeMap Kind Nat} {f : PoolReport α → Nat}
    (counts : Metrics.IsCounter part f) (frames : List (Frame α)) :
    part (metricsOf frames) = Metrics.counter f (poolReports frames) := by
  rw [Metrics.counter, poolReports, List.foldl_flatMap, ← counts.start, metricsOf]
  exact (List.foldl_hom part fun m frame => (counts.record m frame.report _).symm).symm

theorem refused_metricsOf (operation : Operation) (frames : List (Frame α)) :
    ((metricsOf frames).refused operation).getD 0 =
      ((frames.flatMap (·.report.failures)).map Refusal.operation).count operation %
        Metrics.counterRange := by
  have folded : (metricsOf frames).refused operation =
      ((frames.flatMap (·.report.failures)).map Refusal.operation).foldl
        (Metrics.countRefusal operation) (Metrics.empty.refused operation) := by
    rw [List.foldl_map, List.foldl_flatMap, metricsOf]
    refine (List.foldl_hom (Metrics.refused · operation) fun m frame => ?_).symm
    rw [Metrics.record_refused, List.foldl_map]
  have start : Metrics.empty.refused operation = none := by cases operation <;> rfl
  rw [folded, start, Metrics.getD_countRefusal]

variable [Quantity α] (s : Simulation α)

/-- The logs of the pools of tick `t + 1`. -/
def logs (t : Nat) : List PoolLog := (s.after t).controller.logs Cloud.provider (s.seen t)

/-- The frames of the first ticks. -/
def frames (ticks : Nat) : List (Frame α) := (List.range ticks).map s.frame

/-- The calls of the first ticks. -/
def callsUpTo (ticks : Nat) : List Call := (List.range ticks).flatMap s.calls

/-- The calls of the first ticks that were made for a kind. -/
def callsFor (kind : Kind) (ticks : Nat) : List Call :=
  (((List.range ticks).flatMap s.logs).filter (·.kind = kind)).flatMap (·.calls)

theorem accounts (t : Nat) :
    Accounts (s.seen t).registry (s.logs t) (s.calls t) (s.frame t).report := by
  have same := Controller.evaluateTick_shows (Cloud.provider (α := α)).recorded_shows
    (s.after t).controller (t + 1) (s.seen t, [])
  have report : (s.frame t).report = _ := congrArg (·.1) same
  rw [report]
  exact (s.after t).controller.evaluateTick_accounts Cloud.provider (t + 1) (s.seen t)

theorem poolReports_accounts (ticks : Nat) : List.Forall₂ PoolAccount
    (poolReports (s.frames ticks)) ((List.range ticks).flatMap s.logs) := by
  induction ticks with
  | zero => exact .nil
  | succ t ih =>
    rw [poolReports, frames, List.range_succ, List.map_append, List.flatMap_append,
      List.flatMap_append]
    refine List.rel_append ih ?_
    simpa using (s.accounts t).pools

theorem callsUpTo_eq (ticks : Nat) :
    s.callsUpTo ticks = ((List.range ticks).flatMap s.logs).flatMap (·.calls) := by
  rw [List.flatMap_assoc, callsUpTo]
  exact List.flatMap_congr fun t _ => (s.accounts t).parts

theorem callsUpTo_succ (t : Nat) : s.callsUpTo (t + 1) = s.callsUpTo t ++ s.calls t := by
  rw [callsUpTo, List.range_succ, List.flatMap_append, List.flatMap_singleton]
  rfl

/-- Totals count the calls of all ticks. -/
theorem totals_after (blank : s.controller.totals = .zero) (ticks : Nat) :
    (s.after ticks).controller.totals = ⟨ticks, (Call.requested (s.callsUpTo ticks)).length,
      (Call.destroyed (s.callsUpTo ticks)).length, (Call.refusals (s.callsUpTo ticks)).length⟩ := by
  induction ticks with
  | zero => exact blank
  | succ t ih =>
    have added : (s.after (t + 1)).controller.totals =
        (s.after t).controller.totals.add (s.frame t).report := rfl
    have ticked := s.ticked t
    rw [added, ih, callsUpTo_succ, Call.requested_append, Call.destroyed_append,
      Call.refusals_append, ticked.requested, ticked.destroyed, ticked.refusals]
    simp only [Totals.add, List.length_append]

/-- A counter of a kind counts the calls that were made for that kind. -/
theorem getD_counter_frames {β : Type} {f : PoolReport α → Nat} {select : List Call → List β}
    (counts : Counts f select) (kind : Kind) (ticks : Nat) :
    (Metrics.counter f (poolReports (s.frames ticks))).getD kind 0 =
      (select (s.callsFor kind ticks)).length % Metrics.counterRange := by
  rw [Metrics.getD_counter, Metrics.tally,
    counts.sum_filter (s.poolReports_accounts ticks) fun k => k = kind]
  rfl

/-- All its series together count all calls. -/
theorem sum_counter_frames {β : Type} {f : PoolReport α → Nat} {select : List Call → List β}
    (counts : Counts f select) (ticks : Nat)
    (fits : (select (s.callsUpTo ticks)).length < Metrics.counterRange) :
    ((Metrics.counter f (poolReports (s.frames ticks))).toList.map (·.2)).sum =
      (select (s.callsUpTo ticks)).length := by
  have whole := counts.sum_filter (s.poolReports_accounts ticks) fun _ => true
  simp only [List.filter_true, ← callsUpTo_eq] at whole
  rw [← whole] at fits ⊢
  exact Metrics.sum_counter fits

theorem sum_refused_frames (ticks : Nat)
    (fits : (Call.refusals (s.callsUpTo ticks)).length < Metrics.counterRange) :
    ((metricsOf (s.frames ticks)).refused .request).getD 0 +
        ((metricsOf (s.frames ticks)).refused .destroy).getD 0 =
      (Call.refusals (s.callsUpTo ticks)).length := by
  have failures : (s.frames ticks).flatMap (·.report.failures) =
      Call.refusals (s.callsUpTo ticks) := by
    rw [Call.refusals, callsUpTo, List.filterMap_flatMap, frames, List.flatMap_map]
    exact List.flatMap_congr fun t _ => (s.ticked t).refusals.symm
  have parts : ∀ operations : List Operation,
      operations.count .request + operations.count .destroy = operations.length := by
    intro operations
    induction operations with
    | nil => rfl
    | cons operation operations ih =>
      cases operation
      · simp; omega
      · simp; omega
  have whole := parts ((Call.refusals (s.callsUpTo ticks)).map Refusal.operation)
  rw [List.length_map] at whole
  rw [refused_metricsOf, refused_metricsOf, failures, Nat.mod_eq_of_lt (by omega),
    Nat.mod_eq_of_lt (by omega), whole]

theorem contains_after (t : Nat) (kind : Kind) :
    (s.after (t + 1)).cloud.registry.contains kind = true ↔
      (s.seen t).registry.contains kind = true ∧ kind ∉ (s.frame t).report.forgotten := by
  rw [Registry.contains_eq_isSome, Registry.contains_eq_isSome, s.ids?_after]
  split
  · next forgotten => simp [forgotten]
  · next kept => simp [kept]

theorem not_contains_seen {t : Nat} {kind : Kind}
    (gone : (s.after (t + 1)).cloud.registry.contains kind = false)
    (kept : kind ∉ (s.frame t).report.forgotten) :
    (s.seen t).registry.contains kind = false := by
  rw [← Bool.not_eq_true] at gone ⊢
  exact fun seen => gone ((s.contains_after t kind).mpr ⟨seen, kept⟩)

/-- Without targets there never is one. -/
theorem target?_of_untracked (blank : s.controller.targets = .empty)
    (untracked : s.controller.policy.tracking = false) (t : Nat) (kind : Kind) :
    (s.after t).controller.targets.target? kind = none := by
  induction t with
  | zero =>
    rw [show (s.after 0).controller.targets = .empty from blank, Targets.target?_empty]
  | succ t ih =>
    cases found : (s.seen t).registry.pool? kind with
    | none => exact ((s.ticked t).absentKind kind found).1
    | some workers =>
      obtain ⟨r, _, dealt⟩ := (s.ticked t).pool kind workers found
      exact dealt.target_of_untracked (s.policy_after t ▸ untracked) ih

/-- Only registered kinds have targets. -/
theorem contains_of_target (blank : s.controller.targets = .empty) {t : Nat} {kind : Kind}
    (target : (s.after t).controller.targets.target? kind ≠ none) :
    (s.after t).cloud.registry.contains kind = true := by
  cases tracking : s.controller.policy.tracking with
  | false => exact absurd (s.target?_of_untracked blank tracking t kind) target
  | true =>
    cases t with
    | zero =>
      rw [show (s.after 0).controller.targets = .empty from blank, Targets.target?_empty] at target
      exact absurd rfl target
    | succ t =>
      rw [s.contains_after t kind]
      refine ((s.ticked t).contains_iff (s.policy_after t ▸ tracking) kind).mp ?_
      rwa [Targets.contains_eq, Option.isSome_iff_ne_none]

/-- What a tick reports of a kind that it sees. -/
theorem pool?_of_contains {t : Nat} {kind : Kind}
    (known : (s.seen t).registry.contains kind = true) :
    ∃ r, (s.frame t).report.pool? kind = some r ∧
      r.size = ((s.seen t).registry.pool kind).length ∧
      r.target = Controller.shownTarget s.controller.policy
        (s.after (t + 1)).controller.targets kind := by
  rw [Registry.contains_eq, Option.isSome_iff_exists] at known
  obtain ⟨workers, found⟩ := known
  obtain ⟨r, reported, dealt⟩ := (s.ticked t).pool kind workers found
  refine ⟨r, (s.ticked t).pool?_of_registered reported dealt, ?_, ?_⟩
  · rw [dealt.size, Registry.pool, found, Option.getD_some]
  · rw [← s.policy_after t]
    exact dealt.grown.shown

theorem pool?_of_not_contains {t : Nat} {kind : Kind}
    (unknown : (s.seen t).registry.contains kind = false) :
    (s.frame t).report.pool? kind = none := by
  rw [Registry.contains_eq, Option.isSome_eq_false_iff, Option.isNone_iff_eq_none] at unknown
  exact (s.ticked t).pool?_of_absent unknown

/-- After a tick the size gauges are those of the kinds that it leaves, provided that no gauge is
left of a kind which it did not find. -/
theorem poolSize_record {m : Metrics} {t : Nat} {kind : Kind}
    (fresh : m.poolSize[kind]? ≠ none → (s.seen t).registry.contains kind = true) :
    (m.record (s.frame t).report (s.after (t + 1)).cloud.registry.contains).poolSize[kind]? =
      if (s.after (t + 1)).cloud.registry.contains kind = true then
        some (Metrics.gauge ((s.seen t).registry.pool kind).length)
      else none := by
  have left := s.contains_after t kind
  refine (Metrics.isGauge_poolSize.record m _ _ (s.ticked t).kinds_nodup kind).trans ?_
  cases known : (s.after (t + 1)).cloud.registry.contains kind with
  | true =>
    obtain ⟨r, shown, size, _⟩ := s.pool?_of_contains (left.mp known).1
    simp [shown, size]
  | false =>
    by_cases forgotten : kind ∈ (s.frame t).report.forgotten
    · simp [forgotten]
    · have unseen := s.not_contains_seen known forgotten
      have none : m.poolSize[kind]? = none := by
        by_contra stale
        rw [fresh stale] at unseen
        cases unseen
      simp [forgotten, s.pool?_of_not_contains unseen, none]

/-- A tick leaves the target gauges of the targets that it leaves, if it finds those of the targets
that it finds. -/
theorem poolTarget_record (blank : s.controller.targets = .empty) {m : Metrics} {t : Nat}
    {kind : Kind} (before : m.poolTarget[kind]? =
      ((s.after t).controller.targets.target? kind).map Metrics.gauge) :
    (m.record (s.frame t).report (s.after (t + 1)).cloud.registry.contains).poolTarget[kind]? =
      ((s.after (t + 1)).controller.targets.target? kind).map Metrics.gauge := by
  have left := s.contains_after t kind
  refine (Metrics.isGauge_poolTarget.record m _ _ (s.ticked t).kinds_nodup kind).trans ?_
  cases tracking : s.controller.policy.tracking with
  | false =>
    -- no report shows a target, so no gauge has ever been set
    have shown : ((s.frame t).report.pool? kind).bind PoolReport.target = none := by
      cases seen : (s.seen t).registry.contains kind with
      | false => rw [s.pool?_of_not_contains seen, Option.bind_none]
      | true =>
        obtain ⟨r, reported, _, target⟩ := s.pool?_of_contains seen
        rw [reported, Option.bind_some, target, Controller.shownTarget, tracking]
        rfl
    rw [before, shown, s.target?_of_untracked blank tracking, s.target?_of_untracked blank tracking]
    exact ite_self _
  | true =>
    have targets := (s.ticked t).contains_iff (s.policy_after t ▸ tracking) kind
    rw [← left, Targets.contains_eq] at targets
    cases known : (s.after (t + 1)).cloud.registry.contains kind with
    | true =>
      obtain ⟨r, reported, _, target⟩ := s.pool?_of_contains (left.mp known).1
      obtain ⟨n, shown⟩ := Option.isSome_iff_exists.mp (targets.mpr known)
      rw [Controller.shownTarget, if_pos tracking, shown] at target
      simp [reported, target, shown]
    | false =>
      have gone : (s.after (t + 1)).controller.targets.target? kind = none := by
        rw [known] at targets
        exact Option.not_isSome_iff_eq_none.mp fun some => Bool.false_ne_true (targets.mp some)
      rw [gone, Option.map_none]
      by_cases forgotten : kind ∈ (s.frame t).report.forgotten
      · simp [forgotten]
      · have unseen := s.not_contains_seen known forgotten
        have untargeted : (s.after t).controller.targets.target? kind = none := by
          by_contra target
          have known := Cloud.contains_advance (s.contains_of_target blank target) (t + 1)
          rw [show ((s.after t).cloud.advance (t + 1)) = s.seen t from rfl, unseen] at known
          cases known
        simp [forgotten, s.pool?_of_not_contains unseen, before, untargeted]

theorem metricsOf_frames_succ (t : Nat) : metricsOf (s.frames (t + 1)) =
    (metricsOf (s.frames t)).record (s.frame t).report
      (s.after (t + 1)).cloud.registry.contains := by
  rw [frames, List.range_succ, List.map_append, List.map_singleton, metricsOf_snoc]
  rfl

/-- Induction over the ticks: where a gauge is left, the next tick finds its kind. -/
theorem poolSize_metricsOf (t : Nat) (kind : Kind) :
    (metricsOf (s.frames (t + 1))).poolSize[kind]? =
      if (s.after (t + 1)).cloud.registry.contains kind = true then
        some (Metrics.gauge ((s.seen t).registry.pool kind).length)
      else none := by
  induction t with
  | zero =>
    rw [metricsOf_frames_succ]
    refine s.poolSize_record fun stale => absurd ?_ stale
    exact Std.ExtTreeMap.getElem?_empty
  | succ t ih =>
    rw [metricsOf_frames_succ]
    refine s.poolSize_record fun stale => ?_
    rw [ih] at stale
    exact Cloud.contains_advance (of_not_not fun unknown => stale (if_neg unknown)) (t + 1 + 1)

theorem poolTarget_metricsOf (blank : s.controller.targets = .empty) (t : Nat) (kind : Kind) :
    (metricsOf (s.frames t)).poolTarget[kind]? =
      ((s.after t).controller.targets.target? kind).map Metrics.gauge := by
  induction t with
  | zero =>
    rw [show (s.after 0).controller.targets = .empty from blank, Targets.target?_empty]
    exact Std.ExtTreeMap.getElem?_empty
  | succ t ih =>
    rw [metricsOf_frames_succ]
    exact s.poolTarget_record blank ih

/-- Metrics after tick `t + 1`, beside the simulation that they are taken from. -/
structure Metered (s : Simulation α) (t : Nat) (m : Metrics) : Prop where
  /-- The logs of pools, in which calls are counted, are those behind the reports. -/
  logged : ∀ u ≤ t, Accounts (s.seen u).registry (s.logs u) (s.calls u) (s.frame u).report
  requested : ∀ kind, m.requested.getD kind 0 =
    (Call.requested (s.callsFor kind (t + 1))).length % Metrics.counterRange
  destroyed : ∀ kind, m.destroyed.getD kind 0 =
    (Call.destroyed (s.callsFor kind (t + 1))).length % Metrics.counterRange
  allRequested : (s.after (t + 1)).controller.totals.requested < Metrics.counterRange →
    (m.requested.toList.map (·.2)).sum = (s.after (t + 1)).controller.totals.requested
  allDestroyed : (s.after (t + 1)).controller.totals.destroyed < Metrics.counterRange →
    (m.destroyed.toList.map (·.2)).sum = (s.after (t + 1)).controller.totals.destroyed
  allRefused : (s.after (t + 1)).controller.totals.failures < Metrics.counterRange →
    m.refusedRequests.getD 0 + m.refusedDestructions.getD 0 =
      (s.after (t + 1)).controller.totals.failures
  poolSize : ∀ kind, m.poolSize[kind]? =
    if (s.after (t + 1)).cloud.registry.contains kind = true then
      some (Metrics.gauge ((s.seen t).registry.pool kind).length)
    else none
  poolTarget : ∀ kind, m.poolTarget[kind]? =
    ((s.after (t + 1)).controller.targets.target? kind).map Metrics.gauge

theorem metered (untargeted : s.controller.targets = .empty)
    (uncounted : s.controller.totals = .zero) (t : Nat) :
    s.Metered t (metricsOf (s.frames (t + 1))) := by
  have requested := counter_metricsOf Metrics.isCounter_requested (s.frames (t + 1))
  have destroyed := counter_metricsOf Metrics.isCounter_destroyed (s.frames (t + 1))
  have totals := s.totals_after uncounted (t + 1)
  constructor
  case logged => exact fun u _ => s.accounts u
  case requested =>
    intro kind
    rw [requested]
    exact s.getD_counter_frames counts_requested kind (t + 1)
  case destroyed =>
    intro kind
    rw [destroyed]
    exact s.getD_counter_frames counts_destroyed kind (t + 1)
  case allRequested =>
    rw [requested, totals]
    exact s.sum_counter_frames counts_requested (t + 1)
  case allDestroyed =>
    rw [destroyed, totals]
    exact s.sum_counter_frames counts_destroyed (t + 1)
  case allRefused =>
    rw [totals]
    exact s.sum_refused_frames (t + 1)
  case poolSize => exact s.poolSize_metricsOf t
  case poolTarget => exact s.poolTarget_metricsOf untargeted (t + 1)

/-- The metrics of a simulation tell the same as its controller, its registry and its targets, after
each of its ticks. -/
theorem run_metered {d : Draft α} {config : Configuration α} (accepted : d.check = .ok config)
    (capacity : Option Nat) (names : Nat → WorkerId) (ticks : Nat) :
    ∃ frames, run config capacity names ticks = .ok frames ∧ frames.length = ticks ∧
      (∀ t < ticks,
        (initial config capacity names).Metered t (metricsOf (frames.take (t + 1)))) ∧
      ∀ n < 2 ^ 63, Metrics.gauge n = n := by
  refine ⟨_, run_eq_ok accepted capacity names ticks, by simp, fun t within => ?_,
    fun n => Metrics.gauge_eq⟩
  have front : ((List.range ticks).map (initial config capacity names).frame).take (t + 1) =
      (initial config capacity names).frames (t + 1) := by
    rw [← List.map_take, List.take_range, Nat.min_eq_left within]
    rfl
  rw [front]
  exact metered _ rfl rfl t

/-- On the fourth tick a kind loses its only worker, and with it its gauge, but not its counters. -/
theorem run_metered_brief :
    ∃ frames, run briefConfiguration (some 1) Identifier.serial 4 = .ok frames ∧
      (∀ t < 4, (initial briefConfiguration (some 1) Identifier.serial).Metered t
        (metricsOf (frames.take (t + 1)))) ∧
      (metricsOf (frames.take 3)).poolSize.toList.map (·.2) = [1] ∧
      (metricsOf frames).poolSize.toList.map (·.2) = [] ∧
      (metricsOf frames).requested.toList.map (·.2) = [1] ∧
      (metricsOf frames).destroyed.toList.map (·.2) = [3] := by
  have accepted : brief.check = .ok briefConfiguration := by rfl
  obtain ⟨frames, ran, _, metered, _⟩ := run_metered accepted (some 1) Identifier.serial 4
  refine ⟨frames, ran, metered, ?_⟩
  have same := ran.symm.trans (run_eq_ok accepted (some 1) Identifier.serial 4)
  rw [Except.ok.inj same]
  decide +kernel

end Simulation

end ElasticPools
