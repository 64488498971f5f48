import ElasticPools.Identifier.Serial
import ElasticPools.Proofs.Simulation

/-!
Workers in a simulation are neither lost nor doubled. What a report says was requested, destroyed
and forgotten is all that separates the pools of one tick from those of the next.
-/

set_option autoImplicit false

namespace ElasticPools

variable {α : Type}

/-- Workers are requested for registered kinds that the tick does not forget. -/
theorem Controller.Ticked.of_requested [Quantity α] {c later : Controller α} {e : Event α}
    (ticked : c.Ticked e later) {kind : Kind} (requested : kind ∈ e.report.requested) :
    kind ∉ e.report.forgotten ∧ ∃ workers, e.registry.pool? kind = some workers := by
  have answered : Call.answersFor kind e.calls ≠ [] := by
    rw [← ticked.requested, ← List.count_pos_iff, Call.count_requested, List.countP_pos_iff]
      at requested
    obtain ⟨answer, member, _⟩ := requested
    exact List.ne_nil_of_mem member
  cases found : e.registry.pool? kind with
  | none => exact absurd (ticked.absentKind kind found).2 answered
  | some workers =>
    obtain ⟨r, _, dealt⟩ := ticked.pool kind workers found
    exact ⟨fun gone => answered (dealt.dropped gone).2.2, workers, rfl⟩

/-- In an orderly cloud no worker is listed twice. -/
theorem Cloud.Orderly.unique {c : Cloud α} (orderly : c.Orderly) : c.registry.Unique := by
  have shown : ∀ q ∈ c.registry.toList, c.registry.ids? q.1 = some (q.2.map (·.id)) := by
    rintro ⟨kind, workers⟩ member
    exact Registry.ids?_of_pool? (Registry.mem_toList.mp member)
  rw [Registry.Unique, Controller.idsOf, List.nodup_flatMap]
  refine ⟨fun q member => orderly.distinct q.1 _ (shown q member), ?_⟩
  refine Std.ExtTreeMap.distinct_keys_toList.imp_of_mem ?_
  intro q r member member' apart w inside inside'
  have one := orderly.owned _ _ (shown q member) w inside
  rw [orderly.owned _ _ (shown r member') w inside'] at one
  exact apart (Std.compare_eq_iff_eq.mpr (Option.some.inj one).symm)

theorem Cloud.Consistent.unique {c : Cloud α} (consistent : c.Consistent) : c.registry.Unique :=
  consistent.orderly.unique

namespace Simulation

variable [Quantity α] (s : Simulation α)

section Supply

theorem seen_queues (t : Nat) : (s.seen t).creations = [] ∧ (s.seen t).destructions = [] :=
  ⟨(Cloud.advance_supplied _ _).creations, (Cloud.advance_supplied _ _).destructions⟩

theorem names_after (t : Nat) : (s.after t).cloud.names = s.cloud.names := by
  induction t with
  | zero => rfl
  | succ t ih =>
    rw [s.cloud_after t]
    exact (Cloud.advance_supplied (s.after t).cloud (t + 1)).names.trans ih

theorem seen_names (t : Nat) : (s.seen t).names = s.cloud.names :=
  (Cloud.advance_supplied _ _).names.trans (s.names_after t)

theorem issued_after (t : Nat) : (s.after (t + 1)).cloud.issued = (s.seen t).issued := by
  rw [s.cloud_after t]
  rfl

theorem creations_after (t : Nat) :
    (s.after (t + 1)).cloud.creations = (s.frame t).report.requested := by
  rw [s.cloud_after t, Cloud.replay, (s.seen_queues t).1, List.nil_append]
  exact (s.ticked t).requested

theorem destructions_after (t : Nat) :
    (s.after (t + 1)).cloud.destructions = (s.frame t).report.destroyed := by
  rw [s.cloud_after t, Cloud.replay, (s.seen_queues t).2, List.nil_append]
  exact (s.ticked t).destroyed

theorem ids?_after (t : Nat) (k : Kind) : (s.after (t + 1)).cloud.registry.ids? k =
    if k ∈ (s.frame t).report.forgotten then none else (s.seen t).registry.ids? k := by
  have forgotten : Call.forgotten (s.calls t) = (s.frame t).report.forgotten :=
    (s.ticked t).forgotten
  rw [s.cloud_after t, Cloud.ids?_replay, forgotten]

/-- What a report says of kinds and sizes is what the tick found. -/
theorem mem_reported {t : Nat} {k : Kind} {n : Nat} :
    (k, n) ∈ (s.frame t).report.pools.map (fun r => (r.kind, r.size)) ↔
      ∃ ids, (s.seen t).registry.ids? k = some ids ∧ ids.length = n := by
  rw [show (s.frame t).report.pools.map (fun r => (r.kind, r.size)) = _ from (s.ticked t).reports]
  constructor
  · intro listed
    obtain ⟨⟨kind, workers⟩, member, same⟩ := List.mem_map.mp listed
    obtain ⟨rfl, rfl⟩ := Prod.mk.inj same
    have found := Registry.mem_toList.mp member
    exact ⟨workers.map (·.id), Registry.ids?_of_pool? found, List.length_map _⟩
  · rintro ⟨ids, shown, length⟩
    obtain ⟨workers, found, rfl⟩ := Option.map_eq_some_iff.mp shown
    rw [List.length_map] at length
    exact List.mem_map.mpr ⟨(k, workers), Registry.mem_toList.mpr found, by rw [length]⟩

theorem issued_succ (t : Nat) : (s.after (t + 1 + 1)).cloud.issued =
    (s.seen t).issued + (s.frame t).report.requested.length := by
  rw [issued_after, seen, (Cloud.advance_supplied _ _).issued, creations_after]
  exact congrArg (· + _) (s.issued_after t)

theorem reported_kinds (t : Nat) :
    (s.frame t).report.pools.map (·.kind) = (s.seen t).registry.kinds :=
  (s.ticked t).kinds_eq

theorem issued_after_mono {u t : Nat} (earlier : u ≤ t) :
    (s.after u).cloud.issued ≤ (s.after t).cloud.issued := by
  induction earlier with
  | refl => exact Nat.le_refl _
  | step _ ih =>
    refine Nat.le_trans ih ?_
    rw [issued_after, seen, (Cloud.advance_supplied _ _).issued]
    exact Nat.le_add_right ..

end Supply

variable {s}

variable {t : Nat}

/-- The names that a tick issues when it is entered are those for which creations are queued. -/
theorem unrepeated_queued
    (unrepeated : Cloud.Unrepeated s.cloud.names (s.after (t + 1)).cloud.issued) :
    Cloud.Unrepeated (s.after t).cloud.names
      ((s.after t).cloud.issued + (s.after t).cloud.creations.length) := by
  rw [← s.names_after t, issued_after, seen, (Cloud.advance_supplied _ _).issued] at unrepeated
  exact unrepeated

/-- Entering a tick carries out what the tick before it accepted. -/
theorem seen_advanced (consistent : (s.after t).cloud.Consistent)
    (unrepeated : Cloud.Unrepeated s.cloud.names (s.after (t + 1)).cloud.issued) :
    Cloud.Advanced (s.after t).cloud (s.seen t) :=
  Cloud.advance_spec consistent (unrepeated_queued unrepeated) (t + 1)

theorem after_consistent (consistent : s.cloud.Consistent)
    (unrepeated : Cloud.Unrepeated s.cloud.names (s.after t).cloud.issued) :
    (s.after t).cloud.Consistent := by
  induction t with
  | zero => exact consistent
  | succ t ih =>
    have before := ih (unrepeated.mono (s.issued_after_mono (Nat.le_succ t)))
    rw [s.cloud_after t]
    exact (seen_advanced before unrepeated).consistent.replay _

theorem seen_consistent (consistent : s.cloud.Consistent)
    (unrepeated : Cloud.Unrepeated s.cloud.names (s.after (t + 1)).cloud.issued) :
    (s.seen t).Consistent :=
  (seen_advanced (after_consistent consistent
    (unrepeated.mono (s.issued_after_mono (Nat.le_succ t)))) unrepeated).consistent

/-- A reported pool as it was found. -/
theorem reported_ids {r : PoolReport α} (reported : r ∈ (s.frame t).report.pools) :
    ∃ ids, (s.seen t).registry.ids? r.kind = some ids ∧ r.size = ids.length ∧
      r.requested = (s.frame t).report.requested.count r.kind ∧
      ((s.seen t).registry.Unique →
        r.destroyed = ids.countP fun w => decide (w ∈ (s.frame t).report.destroyed)) := by
  obtain ⟨workers, found, dealt⟩ := (s.ticked t).registered reported
  have found : (s.seen t).registry.pool? r.kind = some workers := found
  refine ⟨workers.map Worker.id, Registry.ids?_of_pool? found, ?_, ?_, dealt.lost⟩
  · rw [dealt.size, List.length_map]
  · rw [dealt.requested, ← Call.count_requested, (s.ticked t).requested]

/-- The pool of a kind that is not forgotten, one tick later. -/
theorem ids?_seen_succ (consistent : s.cloud.Consistent)
    (unrepeated : Cloud.Unrepeated s.cloud.names (s.after (t + 1 + 1)).cloud.issued) {k : Kind}
    {ids : List WorkerId} (shown : (s.seen t).registry.ids? k = some ids)
    (kept : k ∉ (s.frame t).report.forgotten) :
    (s.seen (t + 1)).registry.ids? k =
      some (ids.filter (· ∉ (s.frame t).report.destroyed) ++
        Cloud.namesFor s.cloud.names k (s.seen t).issued (s.frame t).report.requested) := by
  have before := after_consistent consistent
    (unrepeated.mono (s.issued_after_mono (Nat.le_succ (t + 1))))
  have advanced := seen_advanced before unrepeated
  have known := advanced.known k ids (by rw [s.ids?_after, if_neg kept, shown])
  rwa [s.destructions_after, s.creations_after, s.names_after, s.issued_after] at known

/-- A kind that a tick leaves without workers, and for which it requests none, stays so. -/
theorem ids?_seen_of_empty {k : Kind}
    (empty : ∀ ids, (s.after (t + 1)).cloud.registry.ids? k = some ids → ids = [])
    (unrequested : k ∉ (s.frame t).report.requested) :
    (s.seen (t + 1)).registry.ids? k = (s.after (t + 1)).cloud.registry.ids? k := by
  rw [← s.creations_after] at unrequested
  exact Cloud.ids?_advance_of_empty empty unrequested _

/-- Nothing brings a kind back, or another one in. -/
theorem ids?_seen_succ_none {k : Kind}
    (gone : (s.seen t).registry.ids? k = none ∨ k ∈ (s.frame t).report.forgotten) :
    (s.seen (t + 1)).registry.ids? k = none := by
  have left : (s.after (t + 1)).cloud.registry.ids? k = none := by
    rw [s.ids?_after]
    rcases gone with unknown | forgotten
    · rw [unknown, ite_self]
    · rw [if_pos forgotten]
  rw [ids?_seen_of_empty ?_ ?_, left]
  · rw [left]
    exact nofun
  · intro requested
    obtain ⟨kept, workers, found⟩ := (s.ticked t).of_requested requested
    rcases gone with unknown | forgotten
    · rw [Registry.ids?, show (s.seen t).registry.pool? k = some workers from found] at unknown
      cases unknown
    · exact kept forgotten

theorem of_mem_kinds_succ {k : Kind} (listed : k ∈ (s.seen (t + 1)).registry.kinds) :
    k ∈ (s.seen t).registry.kinds ∧ k ∉ (s.frame t).report.forgotten := by
  obtain ⟨ids, shown⟩ := Registry.mem_kinds.mp listed
  have found : (s.seen t).registry.ids? k = none ∨ k ∈ (s.frame t).report.forgotten →
      some ids = none := shown ▸ ids?_seen_succ_none
  refine ⟨?_, fun forgotten => Option.some_ne_none _ (found (Or.inr forgotten))⟩
  rw [Registry.mem_kinds]
  cases before : (s.seen t).registry.ids? k with
  | none => exact absurd (found (Or.inl before)) (Option.some_ne_none _)
  | some ids => exact ⟨ids, rfl⟩

/-- What separates the pools of two ticks in a row. -/
structure Conserves (s : Simulation α) (t : Nat) : Prop where
  kinds : (s.frame (t + 1)).report.pools.map (·.kind) =
    ((s.frame t).report.pools.map (·.kind)).filter (· ∉ (s.frame t).report.forgotten)
  sizes : ∀ r ∈ (s.frame t).report.pools, ∀ r' ∈ (s.frame (t + 1)).report.pools,
    r'.kind = r.kind → r'.size + r.destroyed = r.size + r.requested
  members : ∀ r ∈ (s.frame t).report.pools, r.kind ∉ (s.frame t).report.forgotten →
    ∃ ids fresh, (s.seen t).registry.ids? r.kind = some ids ∧ r.size = ids.length ∧
      (s.seen (t + 1)).registry.ids? r.kind =
        some (ids.filter (· ∉ (s.frame t).report.destroyed) ++ fresh) ∧
      fresh.length = r.requested ∧ fresh.Nodup ∧
      ∀ u ≤ t, ∀ w ∈ fresh, w ∉ (s.seen u).registry.workerIds
  unique : (s.seen (t + 1)).registry.Unique

/-- A name that is issued by the next tick has stood for no machine. -/
theorem name_unseen (consistent : s.cloud.Consistent)
    (unrepeated : Cloud.Unrepeated s.cloud.names (s.after (t + 1 + 1)).cloud.issued) {i : Nat}
    (lower : (s.after (t + 1)).cloud.issued ≤ i) (upper : i < (s.after (t + 1 + 1)).cloud.issued)
    {u : Nat} (earlier : u ≤ t) : (s.seen u).owner? (s.cloud.names i) = none := by
  rw [Option.eq_none_iff_forall_ne_some]
  intro kind owner
  have seen : (s.seen u).Consistent :=
    seen_consistent consistent (unrepeated.mono (s.issued_after_mono (by omega)))
  obtain ⟨j, below, same⟩ := seen.issued _ kind owner
  rw [s.seen_names] at same
  rw [← s.issued_after] at below
  have known : (s.after (u + 1)).cloud.issued ≤ (s.after (t + 1)).cloud.issued :=
    s.issued_after_mono (Nat.succ_le_succ earlier)
  exact unrepeated j i (by omega) upper same

/-- Names that are issued by the next tick have been seen in no pool. -/
theorem namesFor_unseen (consistent : s.cloud.Consistent)
    (unrepeated : Cloud.Unrepeated s.cloud.names (s.after (t + 1 + 1)).cloud.issued) {k : Kind}
    {w : WorkerId} (member : w ∈ Cloud.namesFor s.cloud.names k (s.seen t).issued
      (s.frame t).report.requested) {u : Nat} (earlier : u ≤ t) :
    w ∉ (s.seen u).registry.workerIds := by
  intro listed
  obtain ⟨i, lower, upper, named⟩ := Cloud.mem_namesFor member
  obtain ⟨kind, workers, found, inside⟩ := Registry.mem_workerIds.mp listed
  have seen : (s.seen u).Consistent :=
    seen_consistent consistent (unrepeated.mono (s.issued_after_mono (by omega)))
  have owner := seen.owned_of_mem (Registry.ids?_of_pool? found) inside
  rw [← named, name_unseen consistent unrepeated _ _ earlier] at owner
  · cases owner
  · rwa [s.issued_after]
  · rwa [s.issued_succ]

/-- What is requested comes in, what is destroyed goes out. -/
theorem size_succ (consistent : s.cloud.Consistent)
    (unrepeated : Cloud.Unrepeated s.cloud.names (s.after (t + 1 + 1)).cloud.issued)
    {r r' : PoolReport α} (reported : r ∈ (s.frame t).report.pools)
    (reported' : r' ∈ (s.frame (t + 1)).report.pools) (same : r'.kind = r.kind) :
    r'.size + r.destroyed = r.size + r.requested := by
  obtain ⟨ids, shown, size, requested, destroyed⟩ := reported_ids reported
  obtain ⟨ids', shown', size', _⟩ := reported_ids reported'
  have seen : (s.seen t).Consistent := seen_consistent consistent
    (unrepeated.mono (s.issued_after_mono (Nat.le_succ (t + 1))))
  have kept : r.kind ∉ (s.frame t).report.forgotten := by
    intro forgotten
    rw [same, ids?_seen_succ_none (Or.inr forgotten)] at shown'
    cases shown'
  rw [same, ids?_seen_succ consistent unrepeated shown kept] at shown'
  have parts := List.length_eq_countP_add_countP
    (fun w => decide (w ∈ (s.frame t).report.destroyed)) (l := ids)
  rw [size', size, requested, destroyed seen.unique, ← Option.some.inj shown', List.length_append,
    Cloud.length_namesFor, ← List.countP_eq_length_filter]
  simp only [decide_eq_true_eq, decide_not] at parts ⊢
  omega

theorem conserves (consistent : s.cloud.Consistent)
    (unrepeated : Cloud.Unrepeated s.cloud.names (s.after (t + 1 + 1)).cloud.issued) :
    s.Conserves t := by
  constructor
  case unique => exact (seen_consistent consistent unrepeated).unique
  case kinds =>
    rw [s.reported_kinds, s.reported_kinds]
    apply Registry.kinds_eq_filter
    intro k
    rw [decide_eq_true_eq]
    refine ⟨of_mem_kinds_succ, fun ⟨listed, kept⟩ => ?_⟩
    obtain ⟨ids, shown⟩ := Registry.mem_kinds.mp listed
    exact Registry.mem_kinds.mpr ⟨_, ids?_seen_succ consistent unrepeated shown kept⟩
  case sizes => exact fun _ reported _ => size_succ consistent unrepeated reported
  case members =>
    intro r reported kept
    obtain ⟨ids, shown, size, requested, _⟩ := reported_ids reported
    refine ⟨ids, _, shown, size, ids?_seen_succ consistent unrepeated shown kept, ?_, ?_, ?_⟩
    · rw [Cloud.length_namesFor, requested]
    · rw [s.issued_succ] at unrepeated
      exact Cloud.nodup_namesFor fun i j _ => unrepeated i j
    · exact fun u earlier w member => namesFor_unseen consistent unrepeated member earlier

/-- A kind that is forgotten does not come back. -/
theorem forgotten_stays {u n : Nat} (conserves : ∀ t, t < n → s.Conserves t) (later : t < u)
    (within : u ≤ n) {kind : Kind} (forgotten : kind ∈ (s.frame t).report.forgotten) :
    kind ∉ (s.frame u).report.pools.map (·.kind) := by
  induction later with
  | refl =>
    rw [(conserves t within).kinds, List.mem_filter, decide_eq_true_eq]
    exact fun listed => listed.2 forgotten
  | @step u _ ih =>
    rw [(conserves u within).kinds, List.mem_filter]
    exact fun listed => ih (Nat.le_of_succ_le within) listed.1

/-- The first tick finds the pools as they were started. -/
theorem ids?_seen_zero (consistent : s.cloud.Consistent) (creations : s.cloud.creations = [])
    (destructions : s.cloud.destructions = [])
    (unrepeated : Cloud.Unrepeated s.cloud.names (s.after (0 + 1)).cloud.issued) (k : Kind) :
    (s.seen 0).registry.ids? k = s.cloud.registry.ids? k := by
  have advanced : Cloud.Advanced s.cloud (s.seen 0) := seen_advanced (t := 0) consistent unrepeated
  cases shown : s.cloud.registry.ids? k with
  | none =>
    have empty : ∀ ids, s.cloud.registry.ids? k = some ids → ids = [] := by
      rw [shown]
      exact nofun
    exact (Cloud.ids?_advance_of_empty empty (creations ▸ List.not_mem_nil) 1).trans shown
  | some ids =>
    rw [advanced.known k ids shown, creations, destructions]
    simp [Cloud.namesFor]

section Main

variable {d : Draft α} {config : Configuration α} (accepted : d.check = .ok config)
  {capacity : Option Nat} {names : Nat → WorkerId}

include accepted

theorem initial_asPlanned
    (unrepeated : Cloud.Unrepeated names (initial config capacity names).cloud.issued) :
    Cloud.AsPlanned (initial config capacity names).cloud config.kinds :=
  Cloud.bootstrap_asPlanned (Draft.check_sound accepted).2 unrepeated

/-- The first report lists the kinds of the configuration with their first workers. -/
theorem first_pools
    (unrepeated : Cloud.Unrepeated names
      ((initial config capacity names).after (0 + 1)).cloud.issued) :
    (((initial config capacity names).frame 0).report.pools.map fun r => (r.kind, r.size)).Perm
      (config.kinds.map fun plan => (plan.kind, plan.initialWorkers)) := by
  obtain ⟨same, creations, destructions⟩ := initial_cloud config capacity names
  have planned : Cloud.AsPlanned (initial config capacity names).cloud config.kinds :=
    initial_asPlanned accepted (unrepeated.mono (issued_after_mono _ (Nat.zero_le (0 + 1))))
  have started := ids?_seen_zero planned.consistent creations destructions (same.symm ▸ unrepeated)
  have reported : (((initial config capacity names).frame 0).report.pools.map
      fun r => (r.kind, r.size)).Nodup := by
    apply List.Nodup.of_map Prod.fst
    rw [List.map_map]
    exact ((initial config capacity names).ticked 0).kinds_nodup
  have distinct : (config.kinds.map fun plan => (plan.kind, plan.initialWorkers)).Nodup := by
    apply List.Nodup.of_map Prod.fst
    rw [List.map_map]
    exact (Draft.check_sound accepted).2
  rw [List.perm_ext_iff_of_nodup reported distinct]
  rintro ⟨kind, n⟩
  rw [mem_reported, started]
  constructor
  · rintro ⟨ids, shown, length⟩
    by_cases named : kind ∈ config.kinds.map (·.kind)
    · obtain ⟨plan, member, rfl⟩ := List.mem_map.mp named
      obtain ⟨ids', shown', length'⟩ := planned.planned plan member
      rw [shown, Option.some.injEq] at shown'
      rw [← length, shown', length']
      exact List.mem_map.mpr ⟨plan, member, rfl⟩
    · rw [planned.others kind named] at shown
      cases shown
  · intro member
    obtain ⟨plan, inside, given⟩ := List.mem_map.mp member
    obtain ⟨rfl, rfl⟩ := Prod.mk.inj given
    exact planned.planned plan inside

/-- The simulation of an accepted configuration runs to its end, starts with the pools that were
planned, and from tick to tick neither loses nor doubles a worker, provided that no machine is
given the name of an earlier one. -/
theorem run_conserves (ticks : Nat)
    (unrepeated : Cloud.Unrepeated names ((initial config capacity names).after ticks).cloud.issued) :
    run config capacity names ticks =
        .ok ((List.range ticks).map (initial config capacity names).frame) ∧
      (0 < ticks →
        (((initial config capacity names).frame 0).report.pools.map
          fun r => (r.kind, r.size)).Perm
            (config.kinds.map fun plan => (plan.kind, plan.initialWorkers))) ∧
      (∀ t, t + 1 < ticks → (initial config capacity names).Conserves t) ∧
      ∀ t u, t < u → u < ticks → ∀ kind ∈ ((initial config capacity names).frame t).report.forgotten,
        kind ∉ ((initial config capacity names).frame u).report.pools.map (·.kind) := by
  have conserves : ∀ t, t + 1 < ticks → (initial config capacity names).Conserves t := by
    intro t within
    have planned : Cloud.AsPlanned (initial config capacity names).cloud config.kinds :=
      initial_asPlanned accepted (unrepeated.mono (issued_after_mono _ (Nat.zero_le ticks)))
    refine conserves planned.consistent ?_
    rw [(initial_cloud config capacity names).1]
    exact unrepeated.mono (issued_after_mono _ within)
  refine ⟨run_eq_ok accepted capacity names ticks, fun some => ?_, conserves, ?_⟩
  · exact first_pools accepted (unrepeated.mono (issued_after_mono _ some))
  · intro t u later within kind forgotten
    refine forgotten_stays (n := ticks - 1) (fun t below => conserves t ?_) later ?_ forgotten
    · omega
    · omega

end Main

/-- Two idle workers that leave at once; later one worker comes, and is the last. -/
def brief : Draft Float :=
  ⟨{ PolicyDraft.blank with
      profile := some .simple, singletonGrace := some 2, generalGrace := some 1 },
    [⟨"build", 2, []⟩]⟩

def briefConfiguration : Configuration Float :=
  ⟨brief.policy.resolve, brief.policy.tickPeriod, [⟨⟨"build", by decide⟩, 2, []⟩]⟩

theorem run_conserves_brief :
    run briefConfiguration none Identifier.serial 3 =
        .ok ((List.range 3).map (initial briefConfiguration none Identifier.serial).frame) ∧
      (0 < 3 →
        (((initial briefConfiguration none Identifier.serial).frame 0).report.pools.map
          fun r => (r.kind, r.size)).Perm
            (briefConfiguration.kinds.map fun plan => (plan.kind, plan.initialWorkers))) ∧
      (∀ t, t + 1 < 3 → (initial briefConfiguration none Identifier.serial).Conserves t) ∧
      ∀ t u, t < u → u < 3 →
        ∀ kind ∈ ((initial briefConfiguration none Identifier.serial).frame t).report.forgotten,
          kind ∉ ((initial briefConfiguration none Identifier.serial).frame u).report.pools.map
            (·.kind) := by
  have accepted : brief.check = .ok briefConfiguration := by rfl
  exact run_conserves accepted 3 (by decide +kernel)

end Simulation

end ElasticPools
