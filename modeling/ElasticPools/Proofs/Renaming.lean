import ElasticPools.Proofs.Landing

/-!
The order in which orders are given. Where the same orders are accepted the same workers stay and as
many come for each kind, so the clouds that result differ in the names of those who come, and in nothing
else that is told of a worker.
-/

set_option autoImplicit false

namespace ElasticPools

namespace Cloud

variable {α : Type} {c d e : Cloud α} {kind : Kind} {w : WorkerId}

/-- Two clouds tell the same of all workers, but for the names of those who were not there before. -/
structure Renamed (c d e : Cloud α) (rename : WorkerId → WorkerId) : Prop where
  known : ∀ w ∈ c.owners, rename w = w
  injective : ∀ v ∈ d.owners, ∀ w ∈ d.owners, rename v = rename w → v = w
  pools : ∀ kind, e.registry.pool? kind =
    (d.registry.pool? kind).map (·.map fun v => { v with id := rename v.id })
  owners : ∀ w ∈ d.owners, e.owner? (rename w) = d.owner? w
  usage : ∀ w ∈ d.owners, e.usage[rename w]? = d.usage[w]?

/-- Who comes in the place of a worker, where others come. Workers that were there before stay who they
are. -/
def standIn (c d : Cloud α) (comers others : Kind → List WorkerId) (w : WorkerId) : WorkerId :=
  if w ∈ c.owners then w
  else match d.owner? w with
    | none => w
    | some kind => ((others kind)[(comers kind).idxOf w]?).getD w

section Renaming

variable {orders again : List Order} {comers others : Kind → List WorkerId} {tick : Nat}

theorem standIn_of_mem (runs : w ∈ c.owners) : standIn c d comers others w = w := if_pos runs

/-- Where the same orders are given, as many come for each kind, and take the places of each other. -/
theorem Moved.map_standIn (one : Moved c d orders comers) (two : Moved c e again others)
    (same : again.Perm orders) (kind : Kind) :
    (comers kind).map (standIn c d comers others) = others kind := by
  have length : (others kind).length = (comers kind).length := by
    rw [two.requested, one.requested, same.count_eq]
  refine List.ext_getElem (by rw [List.length_map, length]) fun i inside inside' => ?_
  rw [List.length_map] at inside
  have member : (comers kind)[i] ∈ comers kind := List.getElem_mem inside
  have owner : d.owner? (comers kind)[i] = some kind := (one.owners _ kind).mpr (.inl member)
  rw [List.getElem_map, standIn, if_neg (one.unowned kind _ member), owner]
  simp only [(one.distinct kind).idxOf_getElem, List.getElem?_eq_getElem inside', Option.getD_some]

/-- And the same workers stay. -/
theorem Moved.ids_standIn (one : Moved c d orders comers) (settled : c.Settled)
    (two : Moved c e again others) (same : again.Perm orders) (kind : Kind) : (e.registry.pool kind).map (·.id) =
      ((d.registry.pool kind).map (·.id)).map (standIn c d comers others) := by
  have stay : ∀ w ∈ (c.registry.pool kind).map (·.id), standIn c d comers others w = w :=
    fun w listed => standIn_of_mem (settled.runs listed)
  have left : ∀ w, decide (Order.destruction w ∉ again) = decide (Order.destruction w ∉ orders) := by
    simp only [same.mem_iff, implies_true]
  rw [two.pools, one.pools, List.map_append, one.map_standIn two same, funext left,
    List.map_congr_left fun w member => stay w (List.mem_of_mem_filter member), List.map_id'']
  exact fun _ => rfl

/-- The names and the states of workers make up a pool. -/
theorem zipWith_worker (workers : List Worker) :
    List.zipWith Worker.mk (workers.map (·.id)) (workers.map (·.busy)) = workers := by
  induction workers with
  | nil => rfl
  | cons v rest ih => rw [List.map_cons, List.map_cons, List.zipWith_cons_cons, ih]

variable [Quantity α]

/-- Shares go to places, whoever stands there. -/
theorem shares_map (rename : WorkerId → WorkerId) (load : α) (workers : List Worker) :
    shares load (workers.map fun v => { v with id := rename v.id }) =
      (shares load workers).map fun assigned => (rename assigned.1, assigned.2) := by
  induction workers generalizing load with
  | nil => rfl
  | cons v rest ih => rw [List.map_cons, shares, ih, shares, List.map_cons]

section Landed

variable (settled : c.Settled) (one : Lands c d tick orders comers) (two : Lands c e tick again others)
  (same : again.Perm orders)

include settled one two same

theorem pool_standIn (kind : Kind) : e.registry.pool kind = (d.registry.pool kind).map fun v =>
    { v with id := standIn c d comers others v.id } := by
  have names : (e.registry.pool kind).map (·.id) = ((d.registry.pool kind).map fun v =>
      { v with id := standIn c d comers others v.id }).map (·.id) := by
    rw [one.toMoved.ids_standIn settled two.toMoved same, List.map_map, List.map_map]
    rfl
  have states : (e.registry.pool kind).map (·.busy) = ((d.registry.pool kind).map fun v =>
      { v with id := standIn c d comers others v.id }).map (·.busy) := by
    rw [two.busy, shares_congr names, shares_map, List.map_map, List.map_map]
    exact (one.busy kind).symm
  rw [← zipWith_worker (e.registry.pool kind), names, states, zipWith_worker]

theorem owner?_standIn (owner : d.owner? w = some kind) :
    e.owner? (standIn c d comers others w) = some kind := by
  rw [two.settled.owners, one.toMoved.ids_standIn settled two.toMoved same]
  exact List.mem_map_of_mem ((one.settled.owners w kind).mp owner)

/-- The kind of a worker tells in which pool to look for it, and there no name stands twice. -/
theorem standIn_injective {v : WorkerId} (runs : v ∈ d.owners) (runs' : w ∈ d.owners)
    (together : standIn c d comers others v = standIn c d comers others w) : v = w := by
  obtain ⟨kind, owner⟩ := mem_owners_iff.mp runs
  obtain ⟨kind', owner'⟩ := mem_owners_iff.mp runs'
  have here := owner?_standIn settled one two same owner
  rw [together, owner?_standIn settled one two same owner', Option.some.injEq] at here
  subst here
  have distinct := two.settled.nodup kind'
  rw [one.toMoved.ids_standIn settled two.toMoved same] at distinct
  exact List.inj_on_of_nodup_map distinct ((one.settled.owners v kind').mp owner)
    ((one.settled.owners w kind').mp owner') together

theorem usage_standIn (owner : d.owner? w = some kind) :
    e.usage[standIn c d comers others w]? = d.usage[w]? := by
  have listed := (one.settled.owners w kind).mp owner
  obtain ⟨share, given⟩ : ∃ share, (w, share) ∈
      shares (c.loadAt kind tick) (d.registry.pool kind) := by
    rw [← map_fst_shares (c.loadAt kind tick)] at listed
    obtain ⟨⟨_, share⟩, given, rfl⟩ := List.mem_map.mp listed
    exact ⟨share, given⟩
  have given' : (standIn c d comers others w, share) ∈
      shares (c.loadAt kind tick) (e.registry.pool kind) := by
    rw [pool_standIn settled one two same, shares_map]
    exact List.mem_map.mpr ⟨_, given, rfl⟩
  rw [one.recorded kind _ given, two.recorded kind _ given']
  by_cases before : w ∈ c.owners
  · rw [standIn_of_mem before]
  · have comes : w ∈ comers kind := ((one.owners w kind).mp owner).resolve_right
      fun both => before (mem_owners_iff.mpr ⟨kind, both.1⟩)
    have strange : standIn c d comers others w ∉ c.owners := by
      refine two.unowned kind _ ?_
      rw [← one.toMoved.map_standIn two.toMoved same]
      exact List.mem_map_of_mem comes
    rw [if_neg before, if_neg strange]

/-- Where the same orders are given, in whatever order, only names tell the clouds apart. -/
theorem Lands.renamed : Renamed c d e (standIn c d comers others) := by
  constructor
  case known => exact fun w => standIn_of_mem
  case injective => exact fun v runs w => standIn_injective settled one two same runs
  case pools =>
    intro kind
    have kinds : e.registry.contains kind = d.registry.contains kind := by
      rw [Bool.eq_iff_iff, two.kinds, one.kinds, same.mem_iff]
    rw [Registry.pool?_eq, Registry.pool?_eq, kinds, pool_standIn settled one two same]
    split <;> rfl
  case owners =>
    intro w runs
    obtain ⟨kind, owner⟩ := mem_owners_iff.mp runs
    rw [owner, owner?_standIn settled one two same owner]
  case usage =>
    intro w runs
    obtain ⟨kind, owner⟩ := mem_owners_iff.mp runs
    exact usage_standIn settled one two same owner

end Landed

end Renaming

/-- The same cloud with another source of names. -/
def drawing (c : Cloud α) (names : Nat → WorkerId) (issued : Nat) : Cloud α := { c with names, issued }

section Main

variable [Quantity α]

/-- How orders land is told without the source of names. -/
theorem Lands.of_drawing {names : Nat → WorkerId} {issued tick : Nat} {orders : List Order}
    {comers : Kind → List WorkerId} (lands : Lands (c.drawing names issued) d tick orders comers) :
    Lands c d tick orders comers :=
  ⟨⟨lands.running, lands.kinds, lands.pools, lands.requested, lands.distinct, lands.unowned,
    lands.owners, lands.live⟩, lands.settled, lands.busy, lands.recorded, lands.dropped, lands.others⟩

/-- Orders change neither pools nor the number of machines until the next tick is entered. Then those
that were accepted land: whoever was to be destroyed is gone, one new worker stands at the end for each
request, and all are loaded. In whatever order the same orders are accepted, with whatever others that
are refused, only the names of new workers differ. -/
theorem orders_land (settled : c.Settled) (orders : List Order)
    (fresh : c.Fresh (wanted (c.accepted orders)).length) (tick : Nat) :
    (∀ earlier, earlier <+: orders → (c.place earlier).1.registry = c.registry ∧
      (c.place earlier).1.liveWorkers = c.liveWorkers) ∧
    Lands c ((c.place orders).1.advance tick) tick (c.accepted orders)
      (c.newcomers (c.accepted orders)) ∧
    ∀ names issued,
      (∀ again, again.Perm (c.accepted orders) → (c.drawing names issued).accepted again = again) ∧
      ∀ others, ((c.drawing names issued).accepted others).Perm (c.accepted orders) →
        (c.drawing names issued).Fresh (wanted (c.accepted orders)).length →
        ∃ rename, Renamed c ((c.place orders).1.advance tick)
          (((c.drawing names issued).place others).1.advance tick) rename := by
  have lands := settled.lands orders fresh tick
  refine ⟨fun earlier _ => ?_, lands, fun names issued => ⟨fun again same => ?_, ?_⟩⟩
  · rw [(c.place_spec earlier).1]
    exact ⟨rfl, rfl⟩
  · have suits := (c.place_spec orders).2.perm same
    have suits' : (c.drawing names issued).Suits again := ⟨suits.room, suits.running⟩
    exact suits'.accepted
  · intro others same fresh'
    have settled' : (c.drawing names issued).Settled :=
      ⟨settled.creations, settled.destructions, settled.owners, settled.once⟩
    rw [← length_wanted_of_perm same] at fresh'
    have lands' := (settled'.lands others fresh' tick).of_drawing
    exact ⟨_, Lands.renamed settled lands lands' same⟩

/-- The kind of which three of five machines run. -/
def render : Kind := ⟨"render", rfl⟩

/-- A kind that is not planned. -/
def archive : Kind := ⟨"archive", rfl⟩

def threeOfFive : Cloud Float :=
  (Cloud.new [⟨render, 3, [⟨0, 2.0⟩]⟩] 1800 (some 5) Identifier.serial).bootstrap

/-- A worker is destroyed twice and one that does not run not at all. There is no room for the last
request. -/
def mixedOrders : List Order :=
  [.request archive, .destruction (Identifier.serial 1), .destruction (Identifier.serial 9),
    .request render, .destruction (Identifier.serial 1), .request render]

def placedOrders : List Order :=
  [.request archive, .destruction (Identifier.serial 1), .request render,
    .destruction (Identifier.serial 1)]

theorem orders_land_mixed : threeOfFive.accepted mixedOrders = placedOrders ∧
    Lands threeOfFive ((threeOfFive.place mixedOrders).1.advance 1) 1 placedOrders
      (threeOfFive.newcomers placedOrders) ∧
    ∀ again, again.Perm placedOrders → ∃ rename, Renamed threeOfFive
      ((threeOfFive.place mixedOrders).1.advance 1) ((threeOfFive.place again).1.advance 1) rename := by
  have accepted : threeOfFive.accepted mixedOrders = placedOrders := by decide +kernel
  have unrepeated : Unrepeated Identifier.serial threeOfFive.issued := by decide +kernel
  have fresh : threeOfFive.Fresh (wanted (threeOfFive.accepted mixedOrders)).length :=
    (bootstrap_started unrepeated).consistent.fresh (by decide +kernel)
  have settled : threeOfFive.Settled := bootstrap_settled unrepeated
  obtain ⟨-, lands, others⟩ := orders_land settled mixedOrders fresh 1
  obtain ⟨all, renamed⟩ := others threeOfFive.names threeOfFive.issued
  rw [accepted] at lands all renamed
  refine ⟨accepted, lands, fun again same => ?_⟩
  exact renamed again ((all again same).symm ▸ same) (accepted ▸ fresh)

end Main

end Cloud

end ElasticPools
