import ElasticPools.Proofs.Load
import ElasticPools.Quantity.Extended
import Mathlib.Data.List.Indexes
import Mathlib.Tactic.Linarith

/-!
How a load fills a pool. Taken away share by share, an exact load leaves to each place of the pool
what lies beyond the places before it, up to one. So shares only fall along the pool, add up to the
load as far as there are places for it, and keep busy those workers before whose place it does not
end. The load of another kind has no part in this.
-/

set_option autoImplicit false

namespace ElasticPools

/-- What a load comes to at a place of the pool. Places are counted from zero. -/
def shareAt (load : ℚ) (place : ℕ) : ℚ := max 0 (min 1 (load - place))

section Shares

variable {load : ℚ} {place : ℕ}

theorem shareAt_nonneg : 0 ≤ shareAt load place := le_max_left _ _

theorem shareAt_le_one : shareAt load place ≤ 1 := max_le zero_le_one (min_le_left _ _)

theorem shareAt_of_le (spent : load ≤ place) : shareAt load place = 0 :=
  max_eq_left ((min_le_right _ _).trans (sub_nonpos.mpr spent))

theorem shareAt_of_le_succ (reaches : (place : ℚ) ≤ load) (ends : load ≤ place + 1) :
    shareAt load place = load - place := by
  rw [shareAt, min_eq_right (by linarith), max_eq_right (by linarith)]

theorem shareAt_of_succ_le (passes : (place : ℚ) + 1 ≤ load) : shareAt load place = 1 := by
  rw [shareAt, min_eq_left (by linarith), max_eq_right zero_le_one]

theorem shareAt_pos_iff : 0 < shareAt load place ↔ (place : ℚ) < load := by
  rw [shareAt, lt_max_iff, lt_min_iff, sub_pos]
  simp

theorem shareAt_antitone (load : ℚ) : Antitone (shareAt load) := by
  intro here there order
  refine max_le_max le_rfl (min_le_min le_rfl (sub_le_sub_left ?_ load))
  exact_mod_cast order

/-- A pool takes the load, or as much of it as it has places. -/
theorem sum_shareAt (natural : 0 ≤ load) (size : ℕ) :
    ((List.range size).map (shareAt load)).sum = min load size := by
  induction size with
  | zero => exact (min_eq_right natural).symm
  | succ size ih =>
    rw [List.range_succ, List.map_append, List.sum_append, ih, List.map_singleton, List.sum_singleton,
      Nat.cast_succ]
    rcases le_total load size with spent | reaches
    · rw [shareAt_of_le spent, add_zero, min_eq_left spent, min_eq_left (by linarith)]
    · rw [min_eq_right reaches]
      rcases le_total load (size + 1) with ends | passes
      · rw [shareAt_of_le_succ reaches ends, min_eq_left ends, add_sub_cancel]
      · rw [shareAt_of_succ_le passes, min_eq_right passes]

example : (List.range 4).map (shareAt (5 / 2)) = [1, 1, 1 / 2, 0] := by decide +kernel

/-- The first place takes what it can, and the others share the rest. -/
theorem shareAt_sub (natural : 0 ≤ load) :
    shareAt (load - shareAt load 0) place = shareAt load (place + 1) := by
  rcases le_total load 1 with small | large
  · have first : shareAt load 0 = load := by
      rw [shareAt_of_le_succ (by simpa using natural) (by simpa using small), Nat.cast_zero, sub_zero]
    rw [first, sub_self, shareAt_of_le (Nat.cast_nonneg place), shareAt_of_le]
    rw [Nat.cast_succ]
    linarith [(Nat.cast_nonneg place : (0 : ℚ) ≤ place)]
  · have first : shareAt load 0 = 1 := shareAt_of_succ_le (by simpa using large)
    rw [first, shareAt, shareAt, Nat.cast_succ, sub_sub, add_comm 1]

end Shares

/-- The shares of a load in a pool of a size are fractions, fall along the pool, and add up to the
load as far as it finds places. -/
structure Cut (load : ℚ) (size : ℕ) : Prop where
  fraction : ∀ place, 0 ≤ shareAt load place ∧ shareAt load place ≤ 1
  falls : Antitone (shareAt load)
  whole : ((List.range size).map (shareAt load)).sum = min load size

theorem cut {load : ℚ} (natural : 0 ≤ load) (size : ℕ) : Cut load size where
  fraction _ := ⟨shareAt_nonneg, shareAt_le_one⟩
  falls := shareAt_antitone load
  whole := sum_shareAt natural size

namespace Cloud

open Extended (finite)

variable {c : Cloud Extended} {kind : Kind} {workers : List Worker} {load : ℚ}

/-- Taking share after share from a load leaves to each place what lies beyond the places before it.
Induction over the workers, for whatever load is left. -/
theorem shares_finite (natural : 0 ≤ load) (workers : List Worker) :
    shares (finite load) workers = workers.mapIdx fun i v => (v.id, finite (shareAt load i)) := by
  induction workers generalizing load with
  | nil => rfl
  | cons v rest ih =>
    have share : (if finite load < (1.0 : Extended) then finite load else 1.0) =
        finite (shareAt load 0) := by
      rw [Extended.one_eq]
      split
      · next small =>
        rw [shareAt_of_le_succ (by simpa using natural)
          (by simpa using (Extended.finite_lt.mp small).le), Nat.cast_zero, sub_zero]
      · next large =>
        rw [shareAt_of_succ_le (by simpa using not_lt.mp (mt Extended.finite_lt.mpr large))]
    have rest_natural : 0 ≤ load - shareAt load 0 := by
      have whole := sum_shareAt natural 1
      rw [List.range_one, List.map_singleton, List.sum_singleton] at whole
      rw [whole, sub_nonneg]
      exact min_le_left _ _
    rw [shares, share, Extended.finite_sub, ih rest_natural, List.mapIdx_cons]
    simp only [shareAt_sub natural]

/-- What spreading a load does to a pool of some cloud: each worker gets the share of its place. Its
usage window records that, and it is busy where the load passes its place. -/
structure Filled (c d : Cloud Extended) (kind : Kind) (workers : List Worker) (load : ℚ) : Prop where
  pool : d.registry.pool? kind = some (workers.mapIdx fun i v => { v with busy := (i : ℚ) < load })
  usage : ∀ i (within : i < workers.length), d.usage[(workers.get ⟨i, within⟩).id]? =
    (c.usage[(workers.get ⟨i, within⟩).id]?).map (·.record c.window (finite (shareAt load i)))

theorem spreadLoad_fills (found : c.registry.pool? kind = some workers)
    (once : ∀ v ∈ workers, (Controller.idsOf c.registry.toList).count v.id = 1) (natural : 0 ≤ load)
    {tick : ℕ} (loaded : c.loadAt kind tick = finite load) :
    Filled c (c.spreadLoad tick) kind workers load := by
  have shares := shares_finite natural workers
  rw [← loaded] at shares
  constructor
  case pool =>
    rw [pool?_spreadLoad_of_once tick found once, shares]
    refine congrArg some (List.ext_getElem (by simp) fun i _ _ => ?_)
    simp [Registry.marked, Extended.zero_eq, shareAt_pos_iff]
  case usage =>
    intro i within
    have given : ((workers.get ⟨i, within⟩).id, finite (shareAt load i)) ∈
        Cloud.shares (c.loadAt kind tick) workers := by
      rw [shares]
      exact List.mem_mapIdx.mpr ⟨i, within, rfl⟩
    exact usage_spreadLoad_of_once tick found once given

section Plans

variable (plans : Std.ExtTreeMap Kind (KindPlan Extended))

/-- A cloud as it is, but for other plans. -/
def withPlans (c : Cloud Extended) : Cloud Extended := { c with plans }

theorem stop_withPlans (c : Cloud Extended) (id : WorkerId) :
    (c.withPlans plans).stop id = (c.stop id).withPlans plans := by
  simp only [stop, withPlans]
  split <;> rfl

theorem spawn_withPlans (c : Cloud Extended) (kind : Kind) :
    (c.withPlans plans).spawn kind = (c.spawn kind).withPlans plans :=
  rfl

/-- Queues are carried out without a look at the plans. -/
theorem applyQueues_withPlans (c : Cloud Extended) :
    (c.withPlans plans).applyQueues = c.applyQueues.withPlans plans := by
  have stopped : c.destructions.foldl stop (c.emptied.withPlans plans) =
      (c.destructions.foldl stop c.emptied).withPlans plans :=
    List.foldl_hom (withPlans plans) fun c id => stop_withPlans plans c id
  show c.creations.foldl spawn (c.destructions.foldl stop (c.emptied.withPlans plans)) = _
  rw [stopped]
  exact List.foldl_hom (withPlans plans) fun c kind => spawn_withPlans plans c kind

end Plans

/-- How an exact load fills a pool when a tick is entered. The plans of other kinds may be whatever they
like. -/
structure Fills (c : Cloud Extended) (tick : ℕ) (kind : Kind) (workers : List Worker) (load : ℚ) :
    Prop where
  cut : Cut load workers.length
  shares : Cloud.shares (c.loadAt kind tick) workers =
    workers.mapIdx fun i v => (v.id, finite (shareAt load i))
  filled : Filled c.applyQueues (c.advance tick) kind workers load
  unplanned : c.plans[kind]? = none → load = 0
  apart : ∀ plans : Std.ExtTreeMap Kind (KindPlan Extended), plans[kind]? = c.plans[kind]? →
    Filled c.applyQueues ((c.withPlans plans).advance tick) kind workers load

/-- Entering a tick fills a pool from the front, whatever the load of the other kinds, where no name of
the pool is listed anywhere else. -/
theorem advance_fills (c : Cloud Extended) (tick : ℕ)
    (found : c.applyQueues.registry.pool? kind = some workers)
    (once : ∀ v ∈ workers, (Controller.idsOf c.applyQueues.registry.toList).count v.id = 1)
    (natural : 0 ≤ load) (loaded : c.loadAt kind tick = finite load) :
    Fills c tick kind workers load := by
  have apart : ∀ plans : Std.ExtTreeMap Kind (KindPlan Extended), plans[kind]? = c.plans[kind]? →
      Filled c.applyQueues ((c.withPlans plans).advance tick) kind workers load := by
    intro plans same
    have planned : (c.applyQueues.withPlans plans).loadAt kind tick = finite load :=
      (loadAt_congr same tick).trans loaded
    obtain ⟨pool, usage⟩ :=
      spreadLoad_fills (c := c.applyQueues.withPlans plans) found once natural planned
    rw [advance, applyQueues_withPlans]
    exact ⟨pool, usage⟩
  constructor
  case cut => exact ElasticPools.cut natural workers.length
  case shares => rw [loaded, shares_finite natural]
  case filled => exact apart c.plans rfl
  case unplanned =>
    intro unplanned
    rw [loadAt, unplanned] at loaded
    exact (Extended.finite.inj (Extended.zero_eq.symm.trans loaded)).symm
  case apart => exact apart

/-- Three workers and load for one and a half of them, beside a kind whose load is not a number. -/
def halfLoaded : Cloud Extended :=
  (Cloud.new [⟨⟨"transcode", by decide⟩, 3, [⟨0, finite (3 / 2)⟩]⟩,
    ⟨⟨"upload", by decide⟩, 1, [⟨0, .undefined⟩]⟩] 1800 none Identifier.serial).bootstrap

theorem advance_fills_half : Fills halfLoaded 1 ⟨"transcode", by decide⟩
    [⟨Identifier.serial 0, false⟩, ⟨Identifier.serial 1, false⟩, ⟨Identifier.serial 2, false⟩]
    (3 / 2) :=
  advance_fills halfLoaded 1 (by decide +kernel) (by decide +kernel) (by decide +kernel)
    (by decide +kernel)

end Cloud

end ElasticPools
