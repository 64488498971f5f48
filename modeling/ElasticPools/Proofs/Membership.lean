import ElasticPools.Cloud
import ElasticPools.Proofs.Calls
import ElasticPools.Proofs.Pools

/-!
Who is a member of which pool of a cloud. Load changes no membership; a queued destruction takes a
worker out of its pool and a queued creation puts a new one at the end. This needs an agreement
between pools and machines: a worker in a pool has a machine, and the machine knows that pool.
-/

set_option autoImplicit false

namespace ElasticPools

namespace Cloud

variable {α : Type} {c d e : Cloud α} {kind k : Kind} {id w : WorkerId}

/-- The kind for which a machine was started. -/
def owner? (c : Cloud α) (id : WorkerId) : Option Kind := c.owners[id]?

/-- Pools and machines agree, and so do machines and the names that were issued. -/
structure Consistent (c : Cloud α) : Prop where
  distinct : ∀ kind ids, c.registry.ids? kind = some ids → ids.Nodup
  owned : ∀ kind ids, c.registry.ids? kind = some ids → ∀ w ∈ ids, c.owner? w = some kind
  issued : ∀ w kind, c.owner? w = some kind → ∃ i < c.issued, c.names i = w

/-- Pools and machines agree as far as pools go: whoever stands in a pool has a machine that was started
for its kind, and stands there once. -/
structure Orderly (c : Cloud α) : Prop where
  distinct : ∀ kind ids, c.registry.ids? kind = some ids → ids.Nodup
  owned : ∀ kind ids, c.registry.ids? kind = some ids → ∀ w ∈ ids, c.owner? w = some kind

theorem Consistent.orderly (consistent : c.Consistent) : c.Orderly :=
  ⟨consistent.distinct, consistent.owned⟩

theorem Consistent.owned_of_mem (consistent : c.Consistent) {ids : List WorkerId}
    (shown : c.registry.ids? kind = some ids) (inside : w ∈ ids) : c.owner? w = some kind :=
  consistent.owned kind ids shown w inside

/-- A kind that is not registered has an empty pool, which is consistent as well. -/
theorem Consistent.owned_getD (consistent : c.Consistent)
    (inside : w ∈ (c.registry.ids? k).getD []) : c.owner? w = some k := by
  cases shown : c.registry.ids? k with
  | none =>
    rw [shown] at inside
    cases inside
  | some ids =>
    rw [shown] at inside
    exact consistent.owned_of_mem shown inside

theorem Consistent.nodup_getD (consistent : c.Consistent) :
    ((c.registry.ids? k).getD []).Nodup := by
  cases shown : c.registry.ids? k with
  | none => exact List.nodup_nil
  | some ids => exact consistent.distinct k ids shown

/-- No name below a limit repeats an earlier one. -/
def Unrepeated (names : Nat → WorkerId) (limit : Nat) : Prop :=
  ∀ i j, i < j → j < limit → names i ≠ names j

instance (names : Nat → WorkerId) (limit : Nat) : Decidable (Unrepeated names limit) :=
  decidable_of_iff (∀ j < limit, ∀ i < j, names i ≠ names j)
    ⟨fun apart i j earlier later => apart j later i earlier,
      fun unrepeated j later i earlier => unrepeated i j earlier later⟩

theorem Unrepeated.mono {names : Nat → WorkerId} {limit lower : Nat}
    (unrepeated : Unrepeated names limit) (below : lower ≤ limit) : Unrepeated names lower :=
  fun i j earlier later => unrepeated i j earlier (Nat.lt_of_lt_of_le later below)

/-- So many names have been issued between two clouds, and the queues have not moved. -/
structure Supplied (c d : Cloud α) (started : Nat) : Prop where
  names : d.names = c.names
  issued : d.issued = c.issued + started
  creations : d.creations = c.creations
  destructions : d.destructions = c.destructions

theorem Supplied.trans {n m : Nat} (one : Supplied c d n) (two : Supplied d e m) :
    Supplied c e (n + m) := by
  refine ⟨two.names.trans one.names, ?_, two.creations.trans one.creations,
    two.destructions.trans one.destructions⟩
  rw [two.issued, one.issued, Nat.add_assoc]

theorem foldl_supplied {β : Type} {f : Cloud α → β → Cloud α} {n : Nat}
    (one : ∀ c b, Supplied c (f c b) n) (bs : List β) (c : Cloud α) :
    Supplied c (bs.foldl f c) (bs.length * n) := by
  induction bs generalizing c with
  | nil =>
    rw [List.length_nil, Nat.zero_mul]
    exact ⟨rfl, rfl, rfl, rfl⟩
  | cons b bs ih =>
    rw [List.length_cons, Nat.succ_mul, Nat.add_comm]
    exact (one c b).trans (ih (f c b))

section Stopping

theorem owner?_stop : (c.stop id).owner? w = if id = w then none else c.owner? w := by
  unfold stop
  split
  · next none =>
    split
    · next same => rw [owner?, ← same, none]
    · rfl
  · simp only [owner?, Std.ExtTreeMap.getElem?_erase, Std.compare_eq_iff_eq]

theorem stop_supplied (c : Cloud α) (id : WorkerId) : Supplied c (c.stop id) 0 := by
  unfold stop
  split <;> exact ⟨rfl, rfl, rfl, rfl⟩

theorem ids?_stop (orderly : c.Orderly) :
    (c.stop id).registry.ids? k = (c.registry.ids? k).map (·.filter (· ≠ id)) := by
  have unchanged : c.owner? id ≠ some k →
      c.registry.ids? k = (c.registry.ids? k).map (·.filter (· ≠ id)) := by
    intro elsewhere
    cases shown : c.registry.ids? k with
    | none => rfl
    | some ids =>
      rw [Option.map_some, List.filter_eq_self.mpr]
      intro w inside
      rw [decide_eq_true_eq]
      rintro rfl
      exact elsewhere (orderly.owned k ids shown w inside)
  unfold stop
  split
  · next none =>
    refine unchanged ?_
    rw [owner?, none]
    exact nofun
  · next owner found =>
    refine Registry.ids?_take.trans ?_
    by_cases here : owner = k
    · rw [if_pos here]
      cases shown : c.registry.ids? k with
      | none => rfl
      | some ids =>
        rw [Option.map_some, Option.map_some, (orderly.distinct k ids shown).erase_eq_filter]
        congr 2
        funext w
        simp [bne, beq_eq_decide]
    · rw [if_neg here]
      refine unchanged ?_
      rw [owner?, found]
      exact fun same => here (Option.some.inj same)

theorem Orderly.stop (orderly : c.Orderly) : (c.stop id).Orderly := by
  constructor
  case distinct =>
    intro kind ids shown
    rw [ids?_stop orderly, Option.map_eq_some_iff] at shown
    obtain ⟨before, shown, rfl⟩ := shown
    exact (orderly.distinct kind before shown).filter _
  case owned =>
    intro kind ids shown w inside
    rw [ids?_stop orderly, Option.map_eq_some_iff] at shown
    obtain ⟨before, shown, rfl⟩ := shown
    obtain ⟨inside, other⟩ := List.mem_filter.mp inside
    rw [owner?_stop, if_neg (Ne.symm (of_decide_eq_true other))]
    exact orderly.owned kind before shown w inside

theorem Consistent.stop (consistent : c.Consistent) : (c.stop id).Consistent := by
  have supply := stop_supplied c id
  refine ⟨consistent.orderly.stop.distinct, consistent.orderly.stop.owned, fun w kind owner => ?_⟩
  rw [owner?_stop] at owner
  split at owner
  · cases owner
  · rw [supply.names, supply.issued]
    exact consistent.issued w kind owner

theorem foldl_stop_supplied (gone : List WorkerId) (c : Cloud α) :
    Supplied c (gone.foldl stop c) 0 := by
  have supplied := foldl_supplied stop_supplied gone c
  rwa [Nat.mul_zero] at supplied

@[simp] theorem names_foldl_stop (gone : List WorkerId) (c : Cloud α) :
    (gone.foldl stop c).names = c.names :=
  (foldl_stop_supplied gone c).names

@[simp] theorem issued_foldl_stop (gone : List WorkerId) (c : Cloud α) :
    (gone.foldl stop c).issued = c.issued :=
  (foldl_stop_supplied gone c).issued

/-- Stopping some machines takes their workers out of all pools. -/
theorem ids?_foldl_stop (orderly : c.Orderly) (gone : List WorkerId) :
    (gone.foldl stop c).registry.ids? k = (c.registry.ids? k).map (·.filter (· ∉ gone)) := by
  induction gone generalizing c with
  | nil =>
    rw [List.foldl_nil]
    cases c.registry.ids? k <;> simp
  | cons id gone ih =>
    rw [List.foldl_cons, ih orderly.stop, ids?_stop orderly, Option.map_map]
    congr 1
    funext ids
    simp only [Function.comp, List.filter_filter, List.mem_cons, not_or]
    congr 1
    funext w
    simp [Bool.and_comm]

/-- What stopping some machines comes to. -/
structure Stopped (c d : Cloud α) (gone : List WorkerId) : Prop where
  consistent : d.Consistent
  ids : ∀ k, d.registry.ids? k = (c.registry.ids? k).map (·.filter (· ∉ gone))

theorem foldl_stop (consistent : c.Consistent) (gone : List WorkerId) :
    Stopped c (gone.foldl stop c) gone := by
  refine ⟨?_, fun k => ids?_foldl_stop consistent.orderly gone⟩
  induction gone generalizing c with
  | nil => exact consistent
  | cons id gone ih => exact ih consistent.stop

theorem ids?_stop_of_empty (empty : ∀ ids, c.registry.ids? k = some ids → ids = []) :
    (c.stop id).registry.ids? k = c.registry.ids? k := by
  unfold stop
  split
  · rfl
  · refine Registry.ids?_take.trans ?_
    split
    · cases shown : c.registry.ids? k with
      | none => rfl
      | some ids =>
        rw [empty ids shown]
        rfl
    · rfl

/-- Stopping machines changes nothing for a kind that has no workers. -/
theorem ids?_foldl_stop_of_empty (empty : ∀ ids, c.registry.ids? k = some ids → ids = [])
    (gone : List WorkerId) : (gone.foldl stop c).registry.ids? k = c.registry.ids? k := by
  induction gone generalizing c with
  | nil => rfl
  | cons id gone ih =>
    have one : (c.stop id).registry.ids? k = c.registry.ids? k := ids?_stop_of_empty empty
    rw [List.foldl_cons, ih (one ▸ empty), one]

end Stopping

section Spawning

/-- The names that the machines for one kind get when machines for `kinds` are started, the first
of them under name number `next`. -/
def namesFor (names : Nat → WorkerId) (kind : Kind) : Nat → List Kind → List WorkerId
  | _, [] => []
  | next, k :: kinds =>
    if k = kind then names next :: namesFor names kind (next + 1) kinds
    else namesFor names kind (next + 1) kinds

variable {names : Nat → WorkerId}

theorem length_namesFor (next : Nat) (kinds : List Kind) :
    (namesFor names kind next kinds).length = kinds.count kind := by
  induction kinds generalizing next with
  | nil => rfl
  | cons k kinds ih =>
    rw [namesFor, List.count_cons]
    split
    · next same => simp [ih, same]
    · next other => simp [ih, other]

theorem mem_namesFor {next : Nat} {kinds : List Kind} (member : w ∈ namesFor names kind next kinds) :
    ∃ i, next ≤ i ∧ i < next + kinds.length ∧ names i = w := by
  induction kinds generalizing next with
  | nil => cases member
  | cons k kinds ih =>
    have later : w ∈ namesFor names kind (next + 1) kinds →
        ∃ i, next ≤ i ∧ i < next + (kinds.length + 1) ∧ names i = w := by
      intro member
      obtain ⟨i, lower, upper, named⟩ := ih member
      exact ⟨i, by omega, by omega, named⟩
    rw [namesFor] at member
    split at member
    · rcases List.mem_cons.mp member with rfl | member
      · exact ⟨next, Nat.le_refl _, by simp, rfl⟩
      · exact later member
    · exact later member

theorem nodup_namesFor {next : Nat} {kinds : List Kind}
    (distinct : ∀ i j, next ≤ i → i < j → j < next + kinds.length → names i ≠ names j) :
    (namesFor names kind next kinds).Nodup := by
  induction kinds generalizing next with
  | nil => exact List.nodup_nil
  | cons k kinds ih =>
    rw [List.length_cons] at distinct
    have later : (namesFor names kind (next + 1) kinds).Nodup :=
      ih fun i j lower earlier upper => distinct i j (by omega) earlier (by omega)
    rw [namesFor]
    split
    · refine List.nodup_cons.mpr ⟨fun member => ?_, later⟩
      obtain ⟨i, lower, upper, named⟩ := mem_namesFor member
      exact distinct next i (Nat.le_refl _) lower (by omega) named.symm
    · exact later

/-- Each name that is used goes to a machine for some kind. -/
theorem exists_namesFor {next i : Nat} {kinds : List Kind} (lower : next ≤ i)
    (upper : i < next + kinds.length) : ∃ kind, names i ∈ namesFor names kind next kinds := by
  induction kinds generalizing next with
  | nil => exact absurd lower (Nat.not_le.mpr upper)
  | cons k kinds ih =>
    rw [List.length_cons] at upper
    by_cases first : i = next
    · refine ⟨k, ?_⟩
      rw [namesFor, if_pos rfl, first]
      exact List.mem_cons_self
    · obtain ⟨kind, member⟩ : ∃ kind, names i ∈ namesFor names kind (next + 1) kinds :=
        ih (by omega) (by omega)
      refine ⟨kind, ?_⟩
      rw [namesFor]
      split
      · exact List.mem_cons_of_mem _ member
      · exact member

theorem owner?_spawn :
    (c.spawn kind).owner? w = if c.names c.issued = w then some kind else c.owner? w := by
  simp only [owner?, spawn, Std.ExtTreeMap.getElem?_insert, Std.compare_eq_iff_eq]

theorem ids?_spawn : (c.spawn kind).registry.ids? k =
    if kind = k then some ((c.registry.ids? k).getD [] ++ [c.names c.issued])
    else c.registry.ids? k :=
  Registry.ids?_add

theorem spawn_supplied (c : Cloud α) (kind : Kind) : Supplied c (c.spawn kind) 1 :=
  ⟨rfl, rfl, rfl, rfl⟩

theorem foldl_spawn_supplied (kinds : List Kind) (c : Cloud α) :
    Supplied c (kinds.foldl spawn c) kinds.length := by
  have supplied := foldl_supplied spawn_supplied kinds c
  rwa [Nat.mul_one] at supplied

/-- Starting machines under other names changes no owner. -/
theorem owner?_foldl_spawn (kinds : List Kind) (c : Cloud α)
    (unnamed : ∀ i, c.issued ≤ i → i < c.issued + kinds.length → c.names i ≠ w) :
    (kinds.foldl spawn c).owner? w = c.owner? w := by
  induction kinds generalizing c with
  | nil => rfl
  | cons kind kinds ih =>
    have names : (c.spawn kind).names = c.names := rfl
    have issued : (c.spawn kind).issued = c.issued + 1 := rfl
    rw [List.length_cons] at unnamed
    rw [List.foldl_cons, ih, owner?_spawn, if_neg (unnamed c.issued (Nat.le_refl _) (by omega))]
    rw [names, issued]
    exact fun i lower upper => unnamed i (by omega) (by omega)

/-- The next name stands for no machine. -/
theorem Consistent.owner?_next (consistent : c.Consistent)
    (unrepeated : Unrepeated c.names (c.issued + 1)) : c.owner? (c.names c.issued) = none := by
  cases owner : c.owner? (c.names c.issued) with
  | none => rfl
  | some kind =>
    obtain ⟨i, earlier, named⟩ := consistent.issued _ kind owner
    exact absurd named (unrepeated i c.issued earlier (Nat.lt_succ_self _))

theorem Consistent.spawn (consistent : c.Consistent)
    (unrepeated : Unrepeated c.names (c.issued + 1)) : (c.spawn kind).Consistent := by
  have unused := consistent.owner?_next unrepeated
  have fresh : ∀ {k}, c.names c.issued ∉ (c.registry.ids? k).getD [] := by
    intro k inside
    rw [consistent.owned_getD inside] at unused
    cases unused
  constructor
  case distinct =>
    intro k ids shown
    rw [ids?_spawn] at shown
    split at shown
    · rw [← Option.some.inj shown]
      refine consistent.nodup_getD.append (List.nodup_singleton _) ?_
      exact List.disjoint_singleton.mpr fresh
    · exact consistent.distinct k ids shown
  case owned =>
    intro k ids shown w inside
    rw [owner?_spawn]
    rw [ids?_spawn] at shown
    split at shown
    · next same =>
      rw [← Option.some.inj shown, List.mem_append, List.mem_singleton] at inside
      rcases inside with inside | rfl
      · rw [if_neg fun next : c.names c.issued = w => fresh (next ▸ inside)]
        exact consistent.owned_getD inside
      · rw [if_pos rfl, same]
    · have owner := consistent.owned_of_mem shown inside
      rw [if_neg ?_, owner]
      intro next
      rw [← next, unused] at owner
      cases owner
  case issued =>
    intro w k owner
    show ∃ i < c.issued + 1, c.names i = w
    rw [owner?_spawn] at owner
    split at owner
    · next same => exact ⟨c.issued, Nat.lt_succ_self _, same⟩
    · obtain ⟨i, earlier, named⟩ := consistent.issued w k owner
      exact ⟨i, Nat.lt_succ_of_lt earlier, named⟩

theorem namesFor_of_not_mem {kinds : List Kind} (absent : k ∉ kinds) (next : Nat) :
    namesFor names k next kinds = [] := by
  rw [← List.length_eq_zero_iff, length_namesFor, List.count_eq_zero_of_not_mem absent]

/-- Machines that are started go to the ends of their pools. -/
theorem ids?_foldl_spawn (kinds : List Kind) (c : Cloud α) :
    (kinds.foldl spawn c).registry.ids? k =
      if k ∈ kinds then some ((c.registry.ids? k).getD [] ++ namesFor c.names k c.issued kinds)
      else c.registry.ids? k := by
  induction kinds generalizing c with
  | nil => rfl
  | cons kind kinds ih =>
    have names : (c.spawn kind).names = c.names := rfl
    have issued : (c.spawn kind).issued = c.issued + 1 := rfl
    rw [List.foldl_cons, ih, ids?_spawn, names, issued, namesFor]
    by_cases same : kind = k
    · by_cases more : k ∈ kinds
      · simp [same, more]
      · simp [same, more, namesFor_of_not_mem more]
    · simp [same, Ne.symm same]

/-- Starting machines for other kinds changes nothing for a kind. -/
theorem ids?_foldl_spawn_of_not_mem {kinds : List Kind} (absent : k ∉ kinds) :
    (kinds.foldl spawn c).registry.ids? k = c.registry.ids? k :=
  (ids?_foldl_spawn kinds c).trans (if_neg absent)

/-- What starting machines for some kinds comes to. -/
structure Spawned (c d : Cloud α) (kinds : List Kind) : Prop where
  consistent : d.Consistent
  known : ∀ k ids, c.registry.ids? k = some ids →
    d.registry.ids? k = some (ids ++ namesFor c.names k c.issued kinds)

theorem foldl_spawn (consistent : c.Consistent) {kinds : List Kind}
    (unrepeated : Unrepeated c.names (c.issued + kinds.length)) :
    Spawned c (kinds.foldl spawn c) kinds := by
  constructor
  case consistent =>
    induction kinds generalizing c with
    | nil => exact consistent
    | cons kind kinds ih =>
      rw [List.length_cons, ← Nat.add_assoc, Nat.add_right_comm] at unrepeated
      have one : (c.spawn kind).Consistent :=
        consistent.spawn (unrepeated.mono (Nat.le_add_right _ _))
      exact ih one unrepeated
  case known =>
    intro k ids shown
    rw [ids?_foldl_spawn, shown, Option.getD_some]
    split
    · rfl
    · next absent => rw [namesFor_of_not_mem absent, List.append_nil]

end Spawning

section Entering

/-- Load is all in which two clouds differ. -/
structure SameMembers (c d : Cloud α) : Prop where
  supplied : Supplied c d 0
  ids : ∀ k, d.registry.ids? k = c.registry.ids? k
  owner : ∀ w, d.owner? w = c.owner? w

theorem SameMembers.refl (c : Cloud α) : SameMembers c c :=
  ⟨⟨rfl, rfl, rfl, rfl⟩, fun _ => rfl, fun _ => rfl⟩

theorem SameMembers.trans (one : SameMembers c d) (two : SameMembers d e) : SameMembers c e :=
  ⟨one.supplied.trans two.supplied, fun k => (two.ids k).trans (one.ids k),
    fun w => (two.owner w).trans (one.owner w)⟩

theorem SameMembers.map_id_pool (same : SameMembers c d) (kind : Kind) :
    (d.registry.pool kind).map (·.id) = (c.registry.pool kind).map (·.id) := by
  rw [Registry.map_id_pool, same.ids, ← Registry.map_id_pool]

theorem Consistent.congr (consistent : c.Consistent) (same : SameMembers c d) : d.Consistent := by
  constructor
  case distinct =>
    intro kind ids shown
    exact consistent.distinct kind ids ((same.ids kind).symm.trans shown)
  case owned =>
    intro kind ids shown w inside
    rw [same.owner]
    exact consistent.owned_of_mem ((same.ids kind).symm.trans shown) inside
  case issued =>
    intro w kind owner
    rw [same.supplied.names, same.supplied.issued]
    exact consistent.issued w kind ((same.owner w).symm.trans owner)

theorem foldl_sameMembers {β : Type} {f : Cloud α → β → Cloud α}
    (one : ∀ c b, SameMembers c (f c b)) (bs : List β) (c : Cloud α) :
    SameMembers c (bs.foldl f c) := by
  induction bs generalizing c with
  | nil => exact SameMembers.refl c
  | cons b bs ih => exact (one c b).trans (ih (f c b))

/-- A cloud whose queues are empty. -/
def emptied (c : Cloud α) : Cloud α := { c with creations := [], destructions := [] }

/-- What entering a tick does to pools: the queues are carried out. -/
structure Advanced (c d : Cloud α) : Prop where
  consistent : d.Consistent
  known : ∀ k ids, c.registry.ids? k = some ids → d.registry.ids? k =
    some (ids.filter (· ∉ c.destructions) ++ namesFor c.names k c.issued c.creations)

theorem applyQueues_spec (consistent : c.Consistent)
    (unrepeated : Unrepeated c.names (c.issued + c.creations.length)) :
    Advanced c c.applyQueues := by
  have emptied : c.emptied.Consistent :=
    ⟨consistent.distinct, consistent.owned, consistent.issued⟩
  have stopped := foldl_stop emptied c.destructions
  have names : (c.destructions.foldl stop c.emptied).names = c.names := names_foldl_stop ..
  have issued : (c.destructions.foldl stop c.emptied).issued = c.issued := issued_foldl_stop ..
  rw [← names, ← issued] at unrepeated
  have spawned := foldl_spawn stopped.consistent unrepeated
  constructor
  case consistent => exact spawned.consistent
  case known =>
    intro k ids shown
    have kept := stopped.ids k
    rw [show c.emptied.registry.ids? k = some ids from shown, Option.map_some] at kept
    exact names ▸ issued ▸ spawned.known k _ kept

variable [Quantity α]

theorem assign_sameMembers (kind : Kind) (c : Cloud α) (assigned : WorkerId × α) :
    SameMembers c (c.assign kind assigned) :=
  ⟨⟨rfl, rfl, rfl, rfl⟩, fun _ => Registry.ids?_mark, fun _ => rfl⟩

theorem spreadLoad_sameMembers (c : Cloud α) (tick : Nat) : SameMembers c (c.spreadLoad tick) := by
  refine foldl_sameMembers ?_ _ c
  rintro d ⟨kind, workers⟩
  exact foldl_sameMembers (assign_sameMembers kind) _ d

theorem advance_supplied (c : Cloud α) (tick : Nat) :
    Supplied c.emptied (c.advance tick) c.creations.length := by
  have stopped := foldl_stop_supplied c.destructions c.emptied
  have spawned := foldl_spawn_supplied c.creations (c.destructions.foldl stop c.emptied)
  have spread := (spreadLoad_sameMembers c.applyQueues tick).supplied
  have all := (stopped.trans spawned).trans spread
  rwa [Nat.zero_add, Nat.add_zero] at all

theorem advance_spec (consistent : c.Consistent)
    (unrepeated : Unrepeated c.names (c.issued + c.creations.length)) (tick : Nat) :
    Advanced c (c.advance tick) := by
  have applied := applyQueues_spec consistent unrepeated
  have spread := spreadLoad_sameMembers c.applyQueues tick
  exact ⟨applied.consistent.congr spread, fun k ids shown =>
    (spread.ids k).trans (applied.known k ids shown)⟩

/-- A kind that has no workers gets none if it asked for none. -/
theorem ids?_advance_of_empty (empty : ∀ ids, c.registry.ids? k = some ids → ids = [])
    (absent : k ∉ c.creations) (tick : Nat) :
    (c.advance tick).registry.ids? k = c.registry.ids? k := by
  rw [advance, (spreadLoad_sameMembers c.applyQueues tick).ids, applyQueues,
    ids?_foldl_spawn_of_not_mem absent]
  have same : ∀ ids, c.emptied.registry.ids? k = some ids → ids = [] := empty
  exact ids?_foldl_stop_of_empty same c.destructions

end Entering

end Cloud

end ElasticPools
