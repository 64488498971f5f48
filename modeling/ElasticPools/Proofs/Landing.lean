import ElasticPools.Proofs.Load
import ElasticPools.Proofs.Orders
import Mathlib.Data.List.Dedup

/-!
How orders land. With the next tick each worker leaves of which a destruction was accepted, however many
were, and one new worker comes for each request that was accepted. Who leaves was there before the
first order, and who comes was not.
-/

set_option autoImplicit false

namespace ElasticPools

namespace Cloud

variable {α : Type} {c d e : Cloud α} {kind k : Kind} {w : WorkerId}

/-- Nothing is queued, and pools and machines tell of the same workers, each of which is in one pool
once. -/
structure Settled (c : Cloud α) : Prop where
  creations : c.creations = []
  destructions : c.destructions = []
  owners : ∀ w kind, c.owner? w = some kind ↔ w ∈ (c.registry.pool kind).map (·.id)
  once : c.registry.Unique

/-- So many of the next names are distinct, and no machine has one of them. -/
structure Fresh (c : Cloud α) (count : Nat) : Prop where
  distinct : ∀ i j, c.issued ≤ i → i < j → j < c.issued + count → c.names i ≠ c.names j
  unowned : ∀ i, c.issued ≤ i → i < c.issued + count → c.names i ∉ c.owners

/-- The names of the workers that come when some orders are carried out. -/
def newcomers (c : Cloud α) (orders : List Order) (kind : Kind) : List WorkerId :=
  namesFor c.names kind c.issued (wanted orders)

/-- What orders do to pools and machines. A worker is gone however often its destruction was ordered. -/
structure Moved (c d : Cloud α) (orders : List Order) (comers : Kind → List WorkerId) : Prop where
  running : ∀ w, .destruction w ∈ orders → w ∈ c.owners
  kinds : ∀ kind, d.registry.contains kind = true ↔
    c.registry.contains kind = true ∨ .request kind ∈ orders
  pools : ∀ kind, (d.registry.pool kind).map (·.id) =
    ((c.registry.pool kind).map (·.id)).filter (.destruction · ∉ orders) ++ comers kind
  requested : ∀ kind, (comers kind).length = orders.count (.request kind)
  distinct : ∀ kind, (comers kind).Nodup
  unowned : ∀ kind, ∀ w ∈ comers kind, w ∉ c.owners
  owners : ∀ w kind, d.owner? w = some kind ↔
    w ∈ comers kind ∨ c.owner? w = some kind ∧ .destruction w ∉ orders
  live : d.liveWorkers + (doomed orders).dedup.length = c.liveWorkers + (wanted orders).length

/-- What carrying out the queues does. Those who come have blank usage windows, those who go have none,
and the others keep theirs. -/
structure Carried (c d : Cloud α) (orders : List Order) (comers : Kind → List WorkerId) : Prop
    extends Moved c d orders comers where
  creations : d.creations = []
  destructions : d.destructions = []
  setting : d.setting = c.setting
  blank : ∀ w kind, w ∈ comers kind → d.usage[w]? = some .blank
  kept : ∀ w, (∀ kind, w ∉ comers kind) →
    d.usage[w]? = if .destruction w ∈ orders then none else c.usage[w]?

section Carrying

variable {orders : List Order} {comers : Kind → List WorkerId}

theorem Settled.nodup (settled : c.Settled) (kind : Kind) :
    ((c.registry.pool kind).map (·.id)).Nodup := by
  cases found : c.registry.pool? kind with
  | none =>
    rw [Registry.pool, found]
    exact List.nodup_nil
  | some workers =>
    rw [Registry.pool_of_pool? found]
    exact settled.once.nodup found

theorem Settled.runs (settled : c.Settled) (inside : w ∈ (c.registry.pool kind).map (·.id)) :
    w ∈ c.owners :=
  mem_owners_iff.mpr ⟨kind, (settled.owners w kind).mpr inside⟩

/-- Pools and owners decide whether a cloud is orderly. -/
theorem orderly_of_pools (distinct : ∀ kind, ((c.registry.pool kind).map (·.id)).Nodup)
    (owners : ∀ w kind, c.owner? w = some kind ↔ w ∈ (c.registry.pool kind).map (·.id)) :
    c.Orderly := by
  have same : ∀ {kind ids}, c.registry.ids? kind = some ids →
      (c.registry.pool kind).map (·.id) = ids := by
    intro kind ids shown
    rw [Registry.map_id_pool, shown, Option.getD_some]
  refine ⟨fun kind ids shown => ?_, fun kind ids shown w inside => ?_⟩
  · exact same shown ▸ distinct kind
  · exact (owners w kind).mpr (same shown ▸ inside)

theorem Settled.orderly (settled : c.Settled) : c.Orderly :=
  orderly_of_pools settled.nodup settled.owners

/-- One name less is fresh once a machine has taken it. -/
theorem Fresh.spawn {count : Nat} (fresh : c.Fresh (count + 1)) (kind : Kind) :
    (c.spawn kind).Fresh count := by
  constructor
  case distinct =>
    show ∀ i j, c.issued + 1 ≤ i → i < j → j < c.issued + 1 + count → c.names i ≠ c.names j
    intro i j lower earlier upper
    exact fresh.distinct i j (by omega) earlier (by omega)
  case unowned =>
    show ∀ i, c.issued + 1 ≤ i → i < c.issued + 1 + count → c.names i ∉ (c.spawn kind).owners
    intro i lower upper runs
    obtain ⟨k, owner⟩ := mem_owners_iff.mp runs
    rw [owner?_spawn, if_neg (fresh.distinct c.issued i (Nat.le_refl _) lower (by omega))] at owner
    exact fresh.unowned i (by omega) (by omega) (mem_owners_iff.mpr ⟨k, owner⟩)

theorem Fresh.foldl_stop {count : Nat} (fresh : c.Fresh count) (gone : List WorkerId) :
    (gone.foldl stop c).Fresh count := by
  constructor
  case distinct =>
    rw [names_foldl_stop, issued_foldl_stop]
    exact fresh.distinct
  case unowned =>
    rw [names_foldl_stop, issued_foldl_stop]
    intro i lower upper runs
    obtain ⟨k, owner⟩ := mem_owners_iff.mp runs
    rw [owner?_foldl_stop] at owner
    split at owner
    · cases owner
    · exact fresh.unowned i lower upper (mem_owners_iff.mpr ⟨k, owner⟩)

/-- Machines that start under fresh names are that many more. -/
theorem Fresh.liveWorkers_foldl_spawn {kinds : List Kind} (fresh : c.Fresh kinds.length) :
    (kinds.foldl Cloud.spawn c).liveWorkers = c.liveWorkers + kinds.length := by
  induction kinds generalizing c with
  | nil => rfl
  | cons kind kinds ih =>
    have first : c.names c.issued ∉ c.owners :=
      fresh.unowned c.issued (Nat.le_refl _) (Nat.lt_add_of_pos_right (Nat.succ_pos _))
    rw [List.foldl_cons, ih (fresh.spawn kind), liveWorkers_spawn, if_neg first, List.length_cons]
    omega

/-- A machine that starts under a fresh name is owned by its kind. Later machines leave it alone. -/
theorem Fresh.owner?_foldl_spawn {kinds : List Kind} (fresh : c.Fresh kinds.length)
    (member : w ∈ namesFor c.names k c.issued kinds) :
    (kinds.foldl Cloud.spawn c).owner? w = some k := by
  induction kinds generalizing c with
  | nil => cases member
  | cons kind kinds ih =>
    have later : w ∈ namesFor c.names k (c.issued + 1) kinds →
        (kinds.foldl Cloud.spawn (c.spawn kind)).owner? w = some k :=
      ih (fresh.spawn kind)
    rw [List.foldl_cons]
    rw [namesFor] at member
    split at member
    · next same =>
      rcases List.mem_cons.mp member with rfl | member
      · rw [Cloud.owner?_foldl_spawn, owner?_spawn, if_pos rfl, same]
        show ∀ i, c.issued + 1 ≤ i → i < c.issued + 1 + kinds.length → c.names i ≠ c.names c.issued
        intro i lower upper named
        refine fresh.distinct c.issued i (Nat.le_refl _) lower ?_ named.symm
        rw [List.length_cons]
        omega
      · exact later member
    · exact later member

/-- Stopping a machine more than once leaves no fewer than stopping it once. -/
theorem liveWorkers_foldl_stop {gone : List WorkerId} (running : ∀ w ∈ gone, w ∈ c.owners) :
    (gone.foldl stop c).liveWorkers + gone.dedup.length = c.liveWorkers := by
  have left : ∀ w, w ∈ (gone.foldl stop c).owners ↔ w ∈ c.owners ∧ w ∉ gone := by
    intro w
    rw [mem_owners_iff, mem_owners_iff, owner?_foldl_stop]
    by_cases doomed : w ∈ gone <;> simp [doomed]
  have apart : ((gone.foldl stop c).owners.keys ++ gone.dedup).Nodup := by
    refine Std.ExtTreeMap.nodup_keys.append (List.nodup_dedup gone) fun w stays goes => ?_
    exact ((left w).mp (Std.ExtTreeMap.mem_keys.mp stays)).2 (List.mem_dedup.mp goes)
  rw [liveWorkers, liveWorkers, ← Std.ExtTreeMap.length_keys, ← Std.ExtTreeMap.length_keys,
    ← List.length_append]
  refine List.Perm.length_eq ((List.perm_ext_iff_of_nodup apart Std.ExtTreeMap.nodup_keys).mpr ?_)
  intro w
  rw [List.mem_append, Std.ExtTreeMap.mem_keys, Std.ExtTreeMap.mem_keys, List.mem_dedup, left]
  by_cases doomed : w ∈ gone
  · simp [doomed, running w doomed]
  · simp [doomed]

/-- Orders are carried out by stopping machines first and starting them then. -/
theorem Settled.applyQueues_enqueue (settled : c.Settled) (orders : List Order) :
    (c.enqueue orders).applyQueues =
      (wanted orders).foldl Cloud.spawn ((doomed orders).foldl stop c) := by
  have queues : { c with creations := [], destructions := [] } = c := by
    rw [← settled.creations, ← settled.destructions]
  rw [applyQueues, enqueue, settled.creations, settled.destructions]
  simp only [List.nil_append, queues]

theorem Settled.ids?_applyQueues (settled : c.Settled) (orders : List Order) :
    (c.enqueue orders).applyQueues.registry.ids? k =
      if .request k ∈ orders then some
        (((c.registry.ids? k).getD []).filter (.destruction · ∉ orders) ++ c.newcomers orders k)
      else (c.registry.ids? k).map (·.filter (.destruction · ∉ orders)) := by
  rw [settled.applyQueues_enqueue, ids?_foldl_spawn, ids?_foldl_stop settled.orderly,
    names_foldl_stop, issued_foldl_stop]
  simp only [mem_wanted, mem_doomed, newcomers]
  cases c.registry.ids? k <;> rfl

/-- Nobody comes for a kind that is not requested. -/
theorem newcomers_of_not_mem (absent : .request k ∉ orders) : c.newcomers orders k = [] :=
  namesFor_of_not_mem (mt mem_wanted.mp absent) _

theorem Fresh.unowned_of_mem (fresh : c.Fresh (wanted orders).length)
    (member : w ∈ c.newcomers orders kind) : w ∉ c.owners := by
  obtain ⟨i, lower, upper, rfl⟩ := mem_namesFor member
  exact fresh.unowned i lower upper

/-- Those who come are owned by the kind that they come for, and who goes is owned by none. -/
theorem Fresh.owner?_applyQueues (fresh : c.Fresh (wanted orders).length) (settled : c.Settled)
    (w : WorkerId) (k : Kind) : (c.enqueue orders).applyQueues.owner? w = some k ↔
      w ∈ c.newcomers orders k ∨ c.owner? w = some k ∧ .destruction w ∉ orders := by
  have names := names_foldl_stop (doomed orders) c
  have issued := issued_foldl_stop (doomed orders) c
  rw [settled.applyQueues_enqueue]
  have owner : ∀ kind, w ∈ c.newcomers orders kind →
      ((wanted orders).foldl Cloud.spawn ((doomed orders).foldl stop c)).owner? w = some kind :=
    fun kind member => (fresh.foldl_stop _).owner?_foldl_spawn (names ▸ issued ▸ member)
  by_cases named : ∃ kind, w ∈ c.newcomers orders kind
  -- a name that is used now had no owner before
  · obtain ⟨kind, member⟩ := named
    have stranger : c.owner? w ≠ some k :=
      fun owned => fresh.unowned_of_mem member (mem_owners_iff.mpr ⟨k, owned⟩)
    constructor
    · intro owned
      rw [owner kind member] at owned
      exact .inl (Option.some.inj owned ▸ member)
    · exact fun either => either.elim (owner k) fun both => absurd both.1 stranger
  · rw [Cloud.owner?_foldl_spawn, owner?_foldl_stop]
    · have other : w ∉ c.newcomers orders k := fun member => named ⟨k, member⟩
      by_cases gone : .destruction w ∈ orders <;> simp [mem_doomed, gone, other]
    · rw [names, issued]
      rintro i lower upper rfl
      exact named (exists_namesFor lower upper)

theorem applyQueues_moved (settled : c.Settled) (running : ∀ w, .destruction w ∈ orders → w ∈ c.owners)
    (fresh : c.Fresh (wanted orders).length) :
    Moved c (c.enqueue orders).applyQueues orders (c.newcomers orders) := by
  constructor
  case running => exact running
  case kinds =>
    intro k
    rw [Registry.contains_eq_isSome, Registry.contains_eq_isSome, settled.ids?_applyQueues]
    split
    · next member => simp [member]
    · next absent => simp [absent]
  case pools =>
    intro k
    rw [Registry.map_id_pool, Registry.map_id_pool, settled.ids?_applyQueues]
    split
    · rfl
    · next absent =>
      rw [newcomers_of_not_mem absent, List.append_nil]
      cases c.registry.ids? k <;> rfl
  case requested =>
    intro k
    rw [newcomers, length_namesFor, count_wanted]
  case distinct => exact fun k => nodup_namesFor fresh.distinct
  case unowned => exact fun k w => fresh.unowned_of_mem
  case owners => exact fresh.owner?_applyQueues settled
  case live =>
    rw [settled.applyQueues_enqueue, (fresh.foldl_stop (doomed orders)).liveWorkers_foldl_spawn,
      Nat.add_right_comm, liveWorkers_foldl_stop fun w member => running w (mem_doomed.mp member)]

theorem applyQueues_carried (settled : c.Settled)
    (running : ∀ w, .destruction w ∈ orders → w ∈ c.owners)
    (fresh : c.Fresh (wanted orders).length) :
    Carried c (c.enqueue orders).applyQueues orders (c.newcomers orders) := by
  have stopped := foldl_stop_supplied (c.enqueue orders).destructions (c.enqueue orders).emptied
  have started := foldl_spawn_supplied (c.enqueue orders).creations
    ((c.enqueue orders).destructions.foldl stop (c.enqueue orders).emptied)
  have supplied := stopped.trans started
  have usage := fun w => usage_foldl_spawn (w := w) (wanted orders) ((doomed orders).foldl stop c)
  rw [names_foldl_stop, issued_foldl_stop, ← settled.applyQueues_enqueue] at usage
  constructor
  case toMoved => exact applyQueues_moved settled running fresh
  case creations => exact supplied.creations
  case destructions => exact supplied.destructions
  case setting => exact setting_applyQueues (c.enqueue orders)
  case blank => exact fun w kind member => (usage w).1 (mem_namesFor member)
  case kept =>
    intro w unnamed
    rw [(usage w).2, usage_foldl_stop]
    · have both : w ∈ doomed orders ∧ w ∈ c.owners ↔ .destruction w ∈ orders := by
        rw [mem_doomed]
        exact ⟨And.left, fun gone => ⟨gone, running w gone⟩⟩
      simp only [both]
    · rintro i lower upper rfl
      obtain ⟨kind, member⟩ := exists_namesFor lower upper
      exact unnamed kind member

/-- Who ran before does not come. -/
theorem Moved.not_mem_comers (moved : Moved c d orders comers) (runs : w ∈ c.owners) (kind : Kind) :
    w ∉ comers kind :=
  fun comes => moved.unowned kind w comes runs

theorem Moved.settled (moved : Moved c d orders comers) (settled : c.Settled)
    (creations : d.creations = []) (destructions : d.destructions = []) : d.Settled := by
  have owners : ∀ w kind, d.owner? w = some kind ↔ w ∈ (d.registry.pool kind).map (·.id) := by
    intro w kind
    rw [moved.owners, moved.pools, List.mem_append, List.mem_filter, decide_eq_true_eq,
      settled.owners, or_comm]
  have distinct : ∀ kind, ((d.registry.pool kind).map (·.id)).Nodup := by
    intro kind
    rw [moved.pools]
    refine ((settled.nodup kind).filter _).append (moved.distinct kind) fun w stays comes => ?_
    exact moved.unowned kind w comes (settled.runs (List.mem_of_mem_filter stays))
  exact ⟨creations, destructions, owners, (orderly_of_pools distinct owners).unique⟩

/-- Load moves nobody. -/
theorem Moved.congr (moved : Moved c d orders comers) (same : SameMembers d e)
    (live : e.liveWorkers = d.liveWorkers) : Moved c e orders comers := by
  constructor
  case running => exact moved.running
  case kinds =>
    intro kind
    rw [Registry.contains_eq_isSome, same.ids, ← Registry.contains_eq_isSome]
    exact moved.kinds kind
  case pools =>
    intro kind
    rw [same.map_id_pool]
    exact moved.pools kind
  case requested => exact moved.requested
  case distinct => exact moved.distinct
  case unowned => exact moved.unowned
  case owners =>
    intro w kind
    rw [same.owner]
    exact moved.owners w kind
  case live =>
    rw [live]
    exact moved.live

/-- What a worker of the new pools has in its window before it is loaded. -/
theorem Carried.usage_of_mem (carried : Carried c d orders comers) (settled : c.Settled)
    (inside : w ∈ (d.registry.pool kind).map (·.id)) :
    d.usage[w]? = if w ∈ c.owners then c.usage[w]? else some .blank := by
  rw [carried.pools, List.mem_append, List.mem_filter, decide_eq_true_eq] at inside
  rcases inside with ⟨listed, stays⟩ | comes
  · have runs := settled.runs listed
    rw [if_pos runs, carried.kept _ (carried.not_mem_comers runs), if_neg stays]
  · rw [if_neg (carried.unowned kind _ comes), carried.blank _ kind comes]

/-- A cloud of consistent pools has no machine of a name that is still to come. -/
theorem Consistent.fresh (consistent : c.Consistent) {count : Nat}
    (unrepeated : Unrepeated c.names (c.issued + count)) : c.Fresh count := by
  refine ⟨fun i j _ => unrepeated i j, fun j lower upper runs => ?_⟩
  obtain ⟨kind, owner⟩ := mem_owners_iff.mp runs
  obtain ⟨i, earlier, named⟩ := consistent.issued _ kind owner
  exact unrepeated i j (Nat.lt_of_lt_of_le earlier lower) upper named

/-- A cloud is settled when its first workers run. -/
theorem bootstrap_settled {plans : List (KindPlan α)} {period : Nat} {capacity : Option Nat}
    {names : Nat → WorkerId}
    (unrepeated : Unrepeated names (Cloud.new plans period capacity names).bootstrap.issued) :
    (Cloud.new plans period capacity names).bootstrap.Settled := by
  obtain ⟨_, supplied⟩ := bootstrap_supplied plans period capacity names
  have agrees := agrees_of_housed (bootstrap_started unrepeated).consistent
    (bootstrap_housed plans period capacity names) (bootstrap_measured plans period capacity names)
  exact ⟨supplied.creations, supplied.destructions, agrees.owners, agrees.once⟩

end Carrying

/-- What entering a tick does to a cloud with some orders in its queues. The workers of the new pools
are loaded in their order, those that have come with a blank usage window. -/
structure Lands [Quantity α] (c d : Cloud α) (tick : Nat) (orders : List Order)
    (comers : Kind → List WorkerId) : Prop extends Moved c d orders comers where
  settled : d.Settled
  busy : ∀ kind, (d.registry.pool kind).map (·.busy) =
    (shares (c.loadAt kind tick) (d.registry.pool kind)).map fun assigned =>
      decide ((0.0 : α) < assigned.2)
  recorded : ∀ kind, ∀ assigned ∈ shares (c.loadAt kind tick) (d.registry.pool kind),
    d.usage[assigned.1]? = (if assigned.1 ∈ c.owners then c.usage[assigned.1]?
      else some .blank).map (·.record c.window assigned.2)
  dropped : ∀ w, .destruction w ∈ orders → d.usage[w]? = none
  others : ∀ w, w ∉ c.owners → w ∉ d.owners → d.usage[w]? = c.usage[w]?

section Landing

variable [Quantity α] {orders : List Order} {comers : Kind → List WorkerId} {tick : Nat}

/-- A name that no pool lists is handed nothing. -/
theorem usage_spreadLoad_of_not_mem (absent : w ∉ Controller.idsOf c.registry.toList) (tick : Nat) :
    (c.spreadLoad tick).usage[w]? = c.usage[w]? := by
  have nothing : sharesFor w (c.handedOut tick) = [] := by
    rw [← List.length_eq_zero_iff, length_sharesFor, map_fst_handedOut]
    exact List.count_eq_zero_of_not_mem absent
  rw [usage_spreadLoad, nothing]
  exact Option.map_id'

/-- Once the queues are carried out, spreading the load is all that is left to do. -/
theorem Carried.lands (carried : Carried c d orders comers) (settled : c.Settled) (tick : Nat) :
    Lands c (d.spreadLoad tick) tick orders comers := by
  have later : d.Settled :=
    carried.toMoved.settled settled carried.creations carried.destructions
  have same := spreadLoad_sameMembers d tick
  have owners : (d.spreadLoad tick).owners = d.owners :=
    spreadLoad_keeps (P := (·.owners = d.owners)) (fun _ _ _ same => same) tick rfl
  have moved : Moved c (d.spreadLoad tick) orders comers :=
    carried.toMoved.congr same (congrArg Std.ExtTreeMap.size owners)
  have loads : ∀ kind, d.loadAt kind tick = c.loadAt kind tick :=
    fun kind => loadAt_of_setting carried.setting kind tick
  have window : d.window = c.window := congrArg Setting.window carried.setting
  constructor
  case toMoved => exact moved
  case settled =>
    exact moved.settled settled (same.supplied.creations.trans carried.creations)
      (same.supplied.destructions.trans carried.destructions)
  case busy =>
    intro kind
    cases found : (d.spreadLoad tick).registry.pool? kind with
    | none =>
      rw [Registry.pool, found]
      rfl
    | some workers =>
      rw [Registry.pool_of_pool? found, ← loads]
      exact busy_spreadLoad later.once found
  case recorded =>
    intro kind assigned given
    rw [shares_congr (same.map_id_pool kind)] at given
    have inside : assigned.1 ∈ (d.registry.pool kind).map (·.id) := by
      rw [← map_fst_shares (c.loadAt kind tick)]
      exact List.mem_map_of_mem given
    rw [← carried.usage_of_mem settled inside]
    cases found : d.registry.pool? kind with
    | none =>
      rw [Registry.pool, found] at inside
      cases inside
    | some workers =>
      rw [Registry.pool_of_pool? found, ← loads] at given
      rw [usage_spreadLoad_of_once tick found (later.once.once found) given, window]
  case dropped =>
    intro w gone
    have runs := carried.running w gone
    rw [usage_spreadLoad, carried.kept w (carried.not_mem_comers runs), if_pos gone,
      Option.map_none]
  case others =>
    intro w strange absent
    rw [owners] at absent
    have nowhere : ∀ kind, d.owner? w ≠ some kind :=
      fun kind owned => absent (mem_owners_iff.mpr ⟨kind, owned⟩)
    rw [usage_spreadLoad_of_not_mem, carried.kept, if_neg (mt (carried.running w) strange)]
    · exact fun kind comes => nowhere kind ((carried.owners w kind).mpr (.inl comes))
    · rw [mem_idsOf_toList]
      rintro ⟨kind, listed⟩
      exact nowhere kind ((later.owners w kind).mpr listed)

/-- Whatever is ordered, what is accepted of it lands with the next tick. -/
theorem Settled.lands (settled : c.Settled) (orders : List Order)
    (fresh : c.Fresh (wanted (c.accepted orders)).length) (tick : Nat) :
    Lands c ((c.place orders).1.advance tick) tick (c.accepted orders)
      (c.newcomers (c.accepted orders)) := by
  obtain ⟨queued, suits⟩ := c.place_spec orders
  rw [queued]
  exact (applyQueues_carried settled suits.running fresh).lands settled tick

end Landing

end Cloud

end ElasticPools
