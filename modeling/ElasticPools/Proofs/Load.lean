import ElasticPools.Proofs.Spreading

/-!
Load. Entering a tick spreads the load of each kind over its pool, from the front. So whether a
worker is busy, and what its usage window then holds, follows from its place in its own pool; other
kinds and the names of workers have no part in it.
-/

set_option autoImplicit false

namespace ElasticPools

/-- What stays with a worker from tick to tick: its usage window and its idle streak. -/
structure Past (α : Type) where
  usage : Option (Usage α)
  streak : Option Nat

/-- All that there is to a worker on a tick, but for its name. -/
structure Slot (α : Type) extends Past α where
  busy : Bool

namespace Past

variable {α : Type}

/-- A machine that was started just now. -/
def fresh : Past α := ⟨some .blank, none⟩

variable [Quantity α]

/-- Loads the workers of a pool: each takes what is left, up to one. -/
def load (window : Nat) (left : α) : List (Past α) → List (Slot α)
  | [] => []
  | x :: xs =>
    let share := if left < (1.0 : α) then left else 1.0
    ⟨{ x with usage := x.usage.map (·.record window share) }, (0.0 : α) < share⟩ ::
      load window (left - share) xs

end Past

namespace Cloud

variable {α : Type} {c : Cloud α} {kind k : Kind} {w : WorkerId} (streaks : IdleStreaks)

def past (c : Cloud α) (w : WorkerId) : Past α := ⟨c.usage[w]?, streaks.count? w⟩

def slot (c : Cloud α) (v : Worker) : Slot α := ⟨c.past streaks v.id, v.busy⟩

/-- The pool of a kind without the names of its workers. -/
def slots (c : Cloud α) (kind : Kind) : Option (List (Slot α)) :=
  (c.registry.pool? kind).map (·.map (c.slot streaks))

variable {streaks}

theorem slot_inj {d : Cloud α} {earlier later : IdleStreaks} {u v : Worker}
    (same : c.slot earlier u = d.slot later v) :
    u.busy = v.busy ∧ c.usage[u.id]? = d.usage[v.id]? ∧
      earlier.count? u.id = later.count? v.id := by
  rwa [slot, slot, past, past, Slot.mk.injEq, Past.mk.injEq, and_comm] at same

section Queues

theorem usage_stop {id : WorkerId} :
    (c.stop id).usage[w]? = if id = w ∧ w ∈ c.owners then none else c.usage[w]? := by
  unfold stop
  split
  · next none =>
    rw [if_neg]
    rintro ⟨rfl, runs⟩
    obtain ⟨kind, owner⟩ := mem_owners_iff.mp runs
    rw [owner?, none] at owner
    cases owner
  · next kind found =>
    rw [Std.ExtTreeMap.getElem?_erase]
    by_cases same : id = w
    · subst same
      rw [if_pos Std.ReflCmp.compare_self, if_pos ⟨rfl, mem_owners_iff.mpr ⟨kind, found⟩⟩]
    · rw [if_neg (mt Std.compare_eq_iff_eq.mp same), if_neg fun both => same both.1]

/-- Stopping a machine drops its usage window, however often it is stopped. -/
theorem usage_foldl_stop (gone : List WorkerId) (c : Cloud α) : (gone.foldl stop c).usage[w]? =
    if w ∈ gone ∧ w ∈ c.owners then none else c.usage[w]? := by
  induction gone generalizing c with
  | nil => simp
  | cons id gone ih =>
    have runs : w ∈ (c.stop id).owners ↔ id ≠ w ∧ w ∈ c.owners := by
      rw [mem_owners_iff, mem_owners_iff, owner?_stop]
      by_cases same : id = w <;> simp [same]
    rw [List.foldl_cons, ih, usage_stop]
    simp only [runs, List.mem_cons]
    by_cases same : id = w
    · simp [same]
    · simp [same, Ne.symm same]

theorem usage_spawn :
    (c.spawn kind).usage[w]? = if c.names c.issued = w then some .blank else c.usage[w]? := by
  simp only [spawn, Std.ExtTreeMap.getElem?_insert, Std.compare_eq_iff_eq]

/-- Machines that are started have blank windows, and those of others do not change. -/
theorem usage_foldl_spawn (kinds : List Kind) (c : Cloud α) :
    ((∃ i, c.issued ≤ i ∧ i < c.issued + kinds.length ∧ c.names i = w) →
        (kinds.foldl spawn c).usage[w]? = some .blank) ∧
      ((∀ i, c.issued ≤ i → i < c.issued + kinds.length → c.names i ≠ w) →
        (kinds.foldl spawn c).usage[w]? = c.usage[w]?) := by
  induction kinds generalizing c with
  | nil => exact ⟨fun ⟨i, lower, upper, _⟩ => absurd lower (Nat.not_le.mpr upper), fun _ => rfl⟩
  | cons kind kinds ih =>
    obtain ⟨started, kept⟩ := ih (c.spawn kind)
    have names : (c.spawn kind).names = c.names := rfl
    have issued : (c.spawn kind).issued = c.issued + 1 := rfl
    rw [names, issued] at started kept
    rw [List.foldl_cons, List.length_cons]
    constructor
    · rintro ⟨i, lower, upper, named⟩
      by_cases later : ∃ j, c.issued + 1 ≤ j ∧ j < c.issued + 1 + kinds.length ∧ c.names j = w
      · exact started later
      · have first : i = c.issued := by
          by_contra other
          exact later ⟨i, by omega, by omega, named⟩
        rw [kept fun j lower upper named => later ⟨j, lower, upper, named⟩, usage_spawn,
          if_pos (first ▸ named)]
    · intro unnamed
      rw [kept fun i lower upper => unnamed i (by omega) (by omega), usage_spawn,
        if_neg (unnamed c.issued (Nat.le_refl _) (by omega))]

/-- The queues, for a machine by its name: those that are started have blank windows, those that are
stopped have no owner, and the others stay as they are. -/
theorem applyQueues_named (c : Cloud α) :
    ((∃ i, c.issued ≤ i ∧ i < c.issued + c.creations.length ∧ c.names i = w) →
        c.applyQueues.usage[w]? = some .blank) ∧
      ((∀ i, c.issued ≤ i → i < c.issued + c.creations.length → c.names i ≠ w) →
        (c.applyQueues.owner? w = if w ∈ c.destructions then none else c.owner? w) ∧
        (w ∉ c.destructions → c.applyQueues.usage[w]? = c.usage[w]?)) := by
  have names : (c.destructions.foldl stop c.emptied).names = c.names := names_foldl_stop ..
  have issued : (c.destructions.foldl stop c.emptied).issued = c.issued := issued_foldl_stop ..
  obtain ⟨started, kept⟩ := usage_foldl_spawn (w := w) c.creations
    (c.destructions.foldl stop c.emptied)
  have owner := owner?_foldl_spawn (w := w) c.creations (c.destructions.foldl stop c.emptied)
  rw [names, issued] at started kept owner
  refine ⟨started, fun unnamed => ⟨?_, fun stays => ?_⟩⟩
  · exact (owner unnamed).trans (owner?_foldl_stop c.destructions c.emptied)
  · refine (kept unnamed).trans ((usage_foldl_stop c.destructions c.emptied).trans ?_)
    exact if_neg fun both => stays both.1

/-- A machine that runs once the queues are carried out has just been started, with a blank usage
window, or has run before and keeps its own. -/
theorem applyQueues_origin (runs : w ∈ c.applyQueues.owners) :
    ((∃ i, c.issued ≤ i ∧ i < c.issued + c.creations.length ∧ c.names i = w) ∧
        c.applyQueues.usage[w]? = some .blank) ∨
      (w ∈ c.owners ∧ c.applyQueues.usage[w]? = c.usage[w]?) := by
  obtain ⟨started, others⟩ := applyQueues_named (w := w) c
  by_cases named : ∃ i, c.issued ≤ i ∧ i < c.issued + c.creations.length ∧ c.names i = w
  · exact .inl ⟨named, started named⟩
  · obtain ⟨owner, kept⟩ := others fun i lower upper same => named ⟨i, lower, upper, same⟩
    obtain ⟨kind, before⟩ := mem_owners_iff.mp runs
    rw [owner] at before
    split at before
    · cases before
    · next stays => exact .inr ⟨mem_owners_iff.mpr ⟨kind, before⟩, kept stays⟩

/-- Carrying out the queues moves no usage window of a machine that stays, and gives blank ones to
those that come. -/
theorem usage_applyQueues (consistent : c.Consistent)
    (unrepeated : Unrepeated c.names (c.issued + c.creations.length)) :
    (∀ kind, c.owner? w = some kind → w ∉ c.destructions →
        c.applyQueues.usage[w]? = c.usage[w]?) ∧
      (w ∈ namesFor c.names k c.issued c.creations → c.applyQueues.usage[w]? = some .blank) := by
  obtain ⟨started, others⟩ := applyQueues_named (w := w) c
  constructor
  · intro kind owner stays
    obtain ⟨i, earlier, named⟩ := consistent.issued w kind owner
    refine (others fun j lower upper same => ?_).2 stays
    exact unrepeated i j (Nat.lt_of_lt_of_le earlier lower) upper (named.trans same.symm)
  · exact fun member => started (mem_namesFor member)

theorem setting_applyQueues (c : Cloud α) : c.applyQueues.setting = c.setting := by
  have stopped : (c.destructions.foldl stop c.emptied).setting = c.setting :=
    foldl_keeps (P := (·.setting = c.setting)) (fun d id same => (setting_stop d id).trans same) _ rfl
  exact foldl_keeps (f := spawn) (P := (·.setting = c.setting)) (fun _ _ same => same) _ stopped

/-- A machine that has just been started has a blank usage window. -/
theorem bootstrap_usage (plans : List (KindPlan α)) (period : Nat) (capacity : Option Nat)
    (names : Nat → WorkerId) {w : WorkerId}
    (runs : w ∈ (Cloud.new plans period capacity names).bootstrap.owners) :
    (Cloud.new plans period capacity names).bootstrap.usage[w]? = some .blank := by
  have blank : ∀ (w : WorkerId) (u : Usage α),
      (Cloud.new plans period capacity names).bootstrap.usage[w]? = some u → u = .blank := by
    refine foldl_keeps
      (P := fun c => ∀ (w : WorkerId) (u : Usage α), c.usage[w]? = some u → u = .blank)
      (startKind_keeps (fun c kind before w u found => ?_) fun _ _ before => before) _ ?_
    · rw [usage_spawn] at found
      split at found
      · exact (Option.some.inj found).symm
      · exact before w u found
    · intro w u found
      rw [Cloud.new, Std.ExtTreeMap.getElem?_empty] at found
      cases found
  rw [← bootstrap_measured, ← Std.ExtTreeMap.isSome_getElem?_iff_mem, Option.isSome_iff_exists]
    at runs
  obtain ⟨u, found⟩ := runs
  rw [found, blank w u found]

end Queues

variable [Quantity α]

section Spreading

/-- A pool whose windows have recorded their shares, and which shows them, has been loaded. -/
theorem map_slot_marked {d : Cloud α} {window : Nat} {workers : List Worker} {load : α}
    (recorded : ∀ assigned ∈ shares load workers,
      d.usage[assigned.1]? = (c.usage[assigned.1]?).map (·.record window assigned.2)) :
    (List.zipWith Registry.marked workers (shares load workers)).map (d.slot streaks) =
      Past.load window load (workers.map fun v => c.past streaks v.id) := by
  induction workers generalizing load with
  | nil => rfl
  | cons v rest ih =>
    rw [shares, List.forall_mem_cons] at recorded
    rw [shares, List.zipWith_cons_cons, List.map_cons, ih recorded.2, List.map_cons, Past.load]
    simp only [slot, past, Registry.marked, recorded.1]

/-- Spreading the load loads each pool by itself. -/
theorem slots_spreadLoad (unique : c.registry.Unique) {ids : List WorkerId}
    (shown : c.registry.ids? k = some ids) (tick : Nat) :
    (c.spreadLoad tick).slots streaks k =
      some (Past.load c.window (c.loadAt k tick) (ids.map (c.past streaks))) := by
  obtain ⟨workers, found, rfl⟩ := Option.map_eq_some_iff.mp shown
  have once := unique.once found
  rw [slots, pool?_spreadLoad_of_once tick found once, Option.map_some,
    map_slot_marked fun assigned => usage_spreadLoad_of_once tick found once, List.map_map]
  rfl

/-- In a pool that is loaded just those workers are busy that have a share. -/
theorem map_busy_load (window : Nat) (left : α) (pasts : List (Past α)) (workers : List Worker)
    (same : pasts.length = workers.length) :
    (Past.load window left pasts).map (·.busy) =
      (shares left workers).map fun assigned => decide ((0.0 : α) < assigned.2) := by
  induction workers generalizing left pasts with
  | nil => rw [List.length_eq_zero_iff.mp same]; rfl
  | cons v rest ih =>
    cases pasts with
    | nil => cases same
    | cons past pasts =>
      have shorter : pasts.length = rest.length := Nat.succ.inj same
      simp only [Past.load, shares, List.map_cons, ih _ pasts shorter]

/-- Spreading the load leaves just those workers busy that have a share of it. -/
theorem busy_spreadLoad (unique : c.registry.Unique) {tick : Nat} {workers : List Worker}
    (found : (c.spreadLoad tick).registry.pool? kind = some workers) :
    workers.map (·.busy) =
      (shares (c.loadAt kind tick) workers).map fun assigned => decide ((0.0 : α) < assigned.2) := by
  have shown : c.registry.ids? kind = some (workers.map (·.id)) := by
    rw [← (spreadLoad_sameMembers c tick).ids, Registry.ids?_of_pool? found]
  have loaded : (c.spreadLoad tick).slots .empty kind = _ := slots_spreadLoad unique shown tick
  rw [slots, found, Option.map_some, Option.some.injEq] at loaded
  have busy := congrArg (List.map Slot.busy) loaded
  rw [List.map_map, map_busy_load c.window _ _ workers (by simp)] at busy
  exact busy

end Spreading

variable (streaks) in
/-- Entering a tick, for one pool: workers that stay bring their past along, those that come have
none, and all are loaded in their order. -/
theorem slots_advance (consistent : c.Consistent)
    (unrepeated : Unrepeated c.names (c.issued + c.creations.length)) {ids : List WorkerId}
    (shown : c.registry.ids? k = some ids)
    (unseen : ∀ w ∈ namesFor c.names k c.issued c.creations, streaks.count? w = none) (tick : Nat) :
    (c.advance tick).slots streaks k =
      some (Past.load c.window (c.loadAt k tick)
        ((ids.filter (· ∉ c.destructions)).map (c.past streaks) ++
          List.replicate (c.creations.count k) Past.fresh)) := by
  have applied := applyQueues_spec consistent unrepeated
  have setting := setting_applyQueues c
  have window : c.applyQueues.window = c.window := congrArg Setting.window setting
  have load := loadAt_of_setting setting k tick
  have stays : ∀ w ∈ ids.filter (· ∉ c.destructions),
      c.applyQueues.past streaks w = c.past streaks w := by
    intro w member
    obtain ⟨inside, stays⟩ := List.mem_filter.mp member
    have usage := (usage_applyQueues (k := k) consistent unrepeated).1 k
      (consistent.owned_of_mem shown inside) (of_decide_eq_true stays)
    rw [past, past, usage]
  have comes : ∀ w ∈ namesFor c.names k c.issued c.creations,
      c.applyQueues.past streaks w = Past.fresh := by
    intro w member
    rw [past, (usage_applyQueues consistent unrepeated).2 member, unseen w member, Past.fresh]
  rw [advance, slots_spreadLoad applied.consistent.unique (applied.known k ids shown), window,
    load, List.map_append, List.map_congr_left stays,
    List.map_congr_left comes, List.map_const', length_namesFor]

end Cloud

end ElasticPools
