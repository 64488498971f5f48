import ElasticPools.Metrics
import Mathlib.Algebra.GroupWithZero.Nat
import Mathlib.Algebra.Order.BigOperators.Group.List
import Mathlib.Algebra.Order.Group.Nat
import Mathlib.Data.List.Induction

/-!
The series of counters and gauges. A counter adds up what the reports of its kind tell. A gauge
keeps what the latest report of its kind sets, until the kind is forgotten.
-/

set_option autoImplicit false

namespace ElasticPools

variable {α : Type}

namespace Metrics

/-- What keeps a part of the metrics at each step keeps it altogether. -/
theorem foldl_kept {β γ : Type} (part : Metrics → β) {f : Metrics → γ → Metrics}
    (kept : ∀ m c, part (f m c) = part m) (cs : List γ) (m : Metrics) :
    part (cs.foldl f m) = part m := by
  induction cs generalizing m with
  | nil => rfl
  | cons c cs ih => exact (ih (f m c)).trans (kept m c)

section Counting

/-- What the reports of one kind add up to. -/
def tally (f : PoolReport α → Nat) (kind : Kind) (reports : List (PoolReport α)) : Nat :=
  ((reports.filter (·.kind = kind)).map f).sum

/-- A counter that some reports have fed. -/
def counter (f : PoolReport α → Nat) (reports : List (PoolReport α)) : Std.ExtTreeMap Kind Nat :=
  reports.foldl (fun series r => bump series r.kind (f r)) ∅

variable {f : PoolReport α → Nat} {reports : List (PoolReport α)} {kind : Kind}

theorem tally_cons (r : PoolReport α) :
    tally f kind (r :: reports) = (if r.kind = kind then f r else 0) + tally f kind reports := by
  unfold tally
  by_cases same : r.kind = kind
  · simp [same]
  · simp [same]

theorem tally_snoc (r : PoolReport α) :
    tally f kind (reports ++ [r]) = tally f kind reports + if r.kind = kind then f r else 0 := by
  have one : tally f kind [r] = if r.kind = kind then f r else 0 := tally_cons r
  rw [← one, tally, List.filter_append, List.map_append, List.sum_append]
  rfl

theorem counter_snoc (r : PoolReport α) :
    counter f (reports ++ [r]) = bump (counter f reports) r.kind (f r) :=
  List.foldl_append

/-- A counter counts what the reports of its kind add up to, as far as its range goes. -/
theorem getD_counter : (counter f reports).getD kind 0 = tally f kind reports % counterRange := by
  induction reports using List.reverseRecOn with
  | nil => exact Std.ExtTreeMap.getD_empty
  | append_singleton reports r ih =>
    simp only [counter_snoc, tally_snoc, bump, Std.ExtTreeMap.getD_insert, Std.compare_eq_iff_eq]
    by_cases same : r.kind = kind
    · rw [if_pos same, if_pos same, same, count, ih, Nat.mod_add_mod]
    · rw [if_neg same, if_neg same, ih, Nat.add_zero]

theorem mem_counter : kind ∈ counter f reports ↔ kind ∈ reports.map (·.kind) := by
  induction reports using List.reverseRecOn with
  | nil => exact iff_of_false Std.ExtTreeMap.not_mem_empty List.not_mem_nil
  | append_singleton reports r ih =>
    rw [counter_snoc, bump, Std.ExtTreeMap.mem_insert, Std.compare_eq_iff_eq, ih, List.map_append,
      List.mem_append, List.map_singleton, List.mem_singleton, eq_comm, or_comm]

theorem sum_tally {kinds : List Kind} (distinct : kinds.Nodup)
    (listed : ∀ r ∈ reports, r.kind ∈ kinds) :
    (kinds.map fun k => tally f k reports).sum = (reports.map f).sum := by
  induction reports with
  | nil =>
    refine List.sum_eq_zero fun n member => ?_
    obtain ⟨k, _, rfl⟩ := List.mem_map.mp member
    rfl
  | cons r reports ih =>
    have own : (kinds.map fun k => if r.kind = k then f r else 0).sum = f r := by
      simp only [eq_comm (a := r.kind), List.sum_map_ite, List.filter_eq, distinct.count,
        if_pos (listed r List.mem_cons_self)]
      simp
    simp only [tally_cons, List.sum_map_add, own, List.map_cons, List.sum_cons,
      ih fun q member => listed q (List.mem_cons_of_mem r member)]

/-- The series of a counter add up to what all reports do, while that is within range. -/
theorem sum_counter (fits : (reports.map f).sum < counterRange) :
    ((counter f reports).toList.map (·.2)).sum = (reports.map f).sum := by
  have listed : ∀ r ∈ reports, r.kind ∈ (counter f reports).keys := fun r member =>
    Std.ExtTreeMap.mem_keys.mpr (mem_counter.mpr (List.mem_map.mpr ⟨r, member, rfl⟩))
  have whole := sum_tally (f := f) Std.ExtTreeMap.nodup_keys listed
  have values : (counter f reports).toList.map (·.2) =
      (counter f reports).keys.map fun k => tally f k reports := by
    rw [← Std.ExtTreeMap.map_fst_toList_eq_keys, List.map_map]
    refine List.map_congr_left fun q member => ?_
    have shown := Std.ExtTreeMap.mem_toList_iff_getElem?_eq_some.mp member
    have value : (counter f reports).getD q.1 0 = q.2 := by
      rw [Std.ExtTreeMap.getD_eq_getD_getElem?, shown, Option.getD_some]
    have key : q.1 ∈ (counter f reports).keys := by
      rw [← Std.ExtTreeMap.map_fst_toList_eq_keys]
      exact List.mem_map_of_mem member
    -- no series counts more than all of them do, so none has left the range
    have part : tally f q.1 reports ≤ (reports.map f).sum :=
      whole ▸ List.le_sum_of_mem (List.mem_map.mpr ⟨q.1, key, rfl⟩)
    rw [← value, getD_counter, Nat.mod_eq_of_lt (Nat.lt_of_le_of_lt part fits), Function.comp]
  rw [values, whole]

end Counting

section Gauging

variable {value : PoolReport α → Option Nat} {reports : List (PoolReport α)} {kind : Kind}

/-- Below 2^63 a gauge shows what it is given. -/
theorem gauge_eq {n : Nat} (fits : n < 2 ^ 63) : gauge n = n := by
  apply Int.bmod_eq_of_le
  · unfold counterRange
    omega
  · unfold counterRange
    omega

/-- Sets the gauge of a report's kind, if the report has a value for it. -/
def setGauge (value : PoolReport α → Option Nat) (series : Std.ExtTreeMap Kind Int)
    (r : PoolReport α) : Std.ExtTreeMap Kind Int :=
  match value r with
  | none => series
  | some n => series.insert r.kind (gauge n)

theorem getElem?_setGauge (series : Std.ExtTreeMap Kind Int) (r : PoolReport α) :
    (setGauge value series r)[kind]? =
      if r.kind = kind then ((value r).map gauge).or series[kind]? else series[kind]? := by
  unfold setGauge
  cases value r with
  | none => simp
  | some n => simp [Std.ExtTreeMap.getElem?_insert]

/-- Reports of different kinds do not get into each other's way. -/
theorem foldl_setGauge (distinct : (reports.map (·.kind)).Nodup)
    (series : Std.ExtTreeMap Kind Int) :
    (reports.foldl (setGauge value) series)[kind]? =
      (((reports.find? (·.kind = kind)).bind value).map gauge).or series[kind]? := by
  induction reports generalizing series with
  | nil => rfl
  | cons r reports ih =>
    obtain ⟨apart, distinct⟩ := List.nodup_cons.mp distinct
    rw [List.foldl_cons, ih distinct, getElem?_setGauge, List.find?_cons]
    by_cases same : r.kind = kind
    · have none : reports.find? (·.kind = kind) = none := by
        refine List.find?_eq_none.mpr fun q member named => apart ?_
        exact List.mem_map.mpr ⟨q, member, (of_decide_eq_true named).trans same.symm⟩
      simp [same, none]
    · simp [same]

end Gauging

section Recording

/-- A part of the metrics that counts `f` for each kind. -/
structure IsCounter (part : Metrics → Std.ExtTreeMap Kind Nat) (f : PoolReport α → Nat) : Prop where
  start : part empty = ∅
  pool : ∀ m r, part (recordPool m r) = bump (part m) r.kind (f r)
  drop : ∀ registered m kind, part (dropGauges registered m kind) = part m
  refusal : ∀ m operation, part (recordRefusal m operation) = part m

/-- A part of the metrics that shows `value` for each kind. -/
structure IsGauge (part : Metrics → Std.ExtTreeMap Kind Int) (value : PoolReport α → Option Nat) :
    Prop where
  start : part empty = ∅
  pool : ∀ m r, part (recordPool m r) = setGauge value (part m) r
  drop : ∀ registered m kind, part (dropGauges registered m kind) =
    if registered kind then part m else (part m).erase kind
  refusal : ∀ m operation, part (recordRefusal m operation) = part m

theorem isCounter_requested : IsCounter (·.requested) (PoolReport.requested (α := α)) where
  start := rfl
  pool _ _ := rfl
  drop registered m kind := by rw [dropGauges]; split <;> rfl
  refusal m operation := by cases operation <;> rfl

theorem isCounter_destroyed : IsCounter (·.destroyed) (PoolReport.destroyed (α := α)) where
  start := rfl
  pool _ _ := rfl
  drop registered m kind := by rw [dropGauges]; split <;> rfl
  refusal m operation := by cases operation <;> rfl

theorem isGauge_poolSize : IsGauge (·.poolSize) fun r : PoolReport α => some r.size where
  start := rfl
  pool _ _ := rfl
  drop registered m kind := by rw [dropGauges]; split <;> rfl
  refusal m operation := by cases operation <;> rfl

theorem isGauge_poolTarget : IsGauge (·.poolTarget) (PoolReport.target (α := α)) where
  start := rfl
  pool _ _ := rfl
  drop registered m kind := by rw [dropGauges]; split <;> rfl
  refusal m operation := by cases operation <;> rfl

variable (m : Metrics) (r : Report α) (registered : Kind → Bool)

theorem IsCounter.record {part : Metrics → Std.ExtTreeMap Kind Nat} {f : PoolReport α → Nat}
    (counts : IsCounter part f) : part (m.record r registered) =
      r.pools.foldl (fun series q => bump series q.kind (f q)) (part m) := by
  rw [Metrics.record, foldl_kept part counts.refusal, foldl_kept part (counts.drop registered)]
  exact (List.foldl_hom part fun m q => (counts.pool m q).symm).symm

theorem IsGauge.foldl_dropGauges {part : Metrics → Std.ExtTreeMap Kind Int}
    {value : PoolReport α → Option Nat} (shows : IsGauge part value) (forgotten : List Kind)
    (kind : Kind) : (part (forgotten.foldl (dropGauges registered) m))[kind]? =
      if kind ∈ forgotten ∧ registered kind = false then none else (part m)[kind]? := by
  induction forgotten generalizing m with
  | nil => simp
  | cons k forgotten ih =>
    rw [List.foldl_cons, ih, shows.drop]
    by_cases same : k = kind
    · cases known : registered kind with
      | true => simp [same, known]
      | false => simp [same, known]
    · cases known : registered k with
      | true => simp [Ne.symm same]
      | false => simp [Std.ExtTreeMap.getElem?_erase, same, Ne.symm same]

theorem IsGauge.record {part : Metrics → Std.ExtTreeMap Kind Int}
    {value : PoolReport α → Option Nat} (shows : IsGauge part value)
    (distinct : (r.pools.map (·.kind)).Nodup) (kind : Kind) :
    (part (m.record r registered))[kind]? =
      if kind ∈ r.forgotten ∧ registered kind = false then none
      else (((r.pool? kind).bind value).map gauge).or (part m)[kind]? := by
  have pools : part (r.pools.foldl recordPool m) = r.pools.foldl (setGauge value) (part m) :=
    (List.foldl_hom part fun m q => (shows.pool m q).symm).symm
  rw [Metrics.record, foldl_kept part shows.refusal, shows.foldl_dropGauges, pools,
    foldl_setGauge distinct]
  rfl

/-- The refusals that were counted for one sort of calls. -/
def refused (m : Metrics) : Operation → Option Nat
  | .request => m.refusedRequests
  | .destroy => m.refusedDestructions

/-- Counts a refusal, if it is of this sort. -/
def countRefusal (operation : Operation) (n : Option Nat) (other : Operation) : Option Nat :=
  if other = operation then some (count (n.getD 0) 1) else n

theorem record_refused (operation : Operation) : (m.record r registered).refused operation =
    (r.failures.map Refusal.operation).foldl (countRefusal operation) (m.refused operation) := by
  have pool : ∀ (m : Metrics) (q : PoolReport α),
      (recordPool m q).refused operation = m.refused operation := by
    intro m q
    cases operation <;> rfl
  have drop : ∀ (m : Metrics) (kind : Kind),
      (dropGauges registered m kind).refused operation = m.refused operation := by
    intro m kind
    rw [dropGauges]
    split
    · rfl
    · cases operation <;> rfl
  have refusal : ∀ (m : Metrics) (other : Operation),
      countRefusal operation (m.refused operation) other =
        (recordRefusal m other).refused operation := by
    intro m other
    cases operation <;> cases other <;> rfl
  rw [Metrics.record, ← List.foldl_hom (refused · operation) refusal]
  rw [foldl_kept (refused · operation) drop, foldl_kept (refused · operation) pool]

theorem getD_countRefusal (operation : Operation) (operations : List Operation) :
    (operations.foldl (countRefusal operation) none).getD 0 =
      operations.count operation % counterRange := by
  induction operations using List.reverseRecOn with
  | nil => rfl
  | append_singleton operations other ih =>
    rw [List.foldl_append, List.foldl_cons, List.foldl_nil, countRefusal, List.count_append,
      List.count_singleton]
    by_cases same : other = operation
    · simp [same, count, ih, Nat.mod_add_mod]
    · simp [same, ih]

end Recording

end Metrics

end ElasticPools
