import ElasticPools.Proofs.Capacity

/-!
Orders to a cloud: what is requested and destroyed between two ticks. Orders that are accepted queue, and
others leave no trace. A request takes a slot and a destruction frees none before the next tick, so
orders that find room together do so in any sequence.
-/

set_option autoImplicit false

namespace ElasticPools

namespace Cloud

/-- What a cloud is told between two ticks. -/
inductive Order where
  | request (kind : Kind)
  | destruction (worker : WorkerId)
deriving DecidableEq

variable {α : Type} {c : Cloud α} {orders others : List Order} {kind : Kind} {w : WorkerId}

/-- The order that a call has placed, if it was accepted. -/
def placed? : Call → Option Order
  | .request kind (.ok _) => some (.request kind)
  | .destruction worker (.ok _) => some (.destruction worker)
  | _ => none

/-- One kind for each worker that is requested. -/
def wanted (orders : List Order) : List Kind :=
  orders.filterMap fun
    | .request kind => some kind
    | .destruction _ => none

/-- One worker for each destruction, so that a worker may stand there more than once. -/
def doomed (orders : List Order) : List WorkerId :=
  orders.filterMap fun
    | .request _ => none
    | .destruction worker => some worker

def Order.act : Order → Act
  | .request kind => .request kind
  | .destruction worker => .destroy worker

section Listing

theorem mem_wanted : kind ∈ wanted orders ↔ .request kind ∈ orders := by
  simp only [wanted, List.mem_filterMap]
  constructor
  · rintro ⟨order, member, selected⟩
    match order, selected with
    | .request _, rfl => exact member
  · exact fun member => ⟨_, member, rfl⟩

theorem mem_doomed : w ∈ doomed orders ↔ .destruction w ∈ orders := by
  simp only [doomed, List.mem_filterMap]
  constructor
  · rintro ⟨order, member, selected⟩
    match order, selected with
    | .destruction _, rfl => exact member
  · exact fun member => ⟨_, member, rfl⟩

theorem count_wanted (kind : Kind) (orders : List Order) :
    (wanted orders).count kind = orders.count (.request kind) := by
  induction orders with
  | nil => rfl
  | cons order orders ih =>
    cases order with
    | request k =>
      have one : wanted (.request k :: orders) = k :: wanted orders := rfl
      rw [one, List.count_cons, List.count_cons, ih]
      simp
    | destruction w =>
      have one : wanted (.destruction w :: orders) = wanted orders := rfl
      rw [one, List.count_cons, ih]
      simp

theorem wanted_append : wanted (orders ++ others) = wanted orders ++ wanted others :=
  List.filterMap_append

theorem doomed_append : doomed (orders ++ others) = doomed orders ++ doomed others :=
  List.filterMap_append

theorem length_wanted_of_perm (same : orders.Perm others) :
    (wanted orders).length = (wanted others).length :=
  (same.filterMap _).length_eq

end Listing

/-- A cloud with some orders in its queues. -/
def enqueue (c : Cloud α) (orders : List Order) : Cloud α :=
  { c with
    creations := c.creations ++ wanted orders
    destructions := c.destructions ++ doomed orders }

/-- There is room for all workers that some orders request, and all that they destroy run. -/
structure Suits (c : Cloud α) (orders : List Order) : Prop where
  room : ∀ limit, c.capacity = some limit → (wanted orders).length ≤ limit - c.occupied
  running : ∀ w, .destruction w ∈ orders → w ∈ c.owners

section Queueing

theorem enqueue_nil (c : Cloud α) : c.enqueue [] = c := by
  simp [enqueue, wanted, doomed]

theorem enqueue_enqueue (c : Cloud α) (orders others : List Order) :
    (c.enqueue orders).enqueue others = c.enqueue (orders ++ others) := by
  simp [enqueue, wanted_append, doomed_append]

theorem occupied_enqueue (c : Cloud α) (orders : List Order) :
    (c.enqueue orders).occupied = c.occupied + (wanted orders).length := by
  simp only [occupied, enqueue, List.length_append, Nat.add_assoc]
  rfl

theorem Suits.perm (suits : c.Suits orders) (same : others.Perm orders) : c.Suits others := by
  constructor
  case room =>
    intro limit given
    rw [length_wanted_of_perm same]
    exact suits.room limit given
  case running => exact fun w member => suits.running w (same.mem_iff.mp member)

/-- Orders suit a cloud when some do and the others suit what those leave. -/
theorem suits_append :
    c.Suits (orders ++ others) ↔ c.Suits orders ∧ (c.enqueue orders).Suits others := by
  have lengths : (wanted (orders ++ others)).length = (wanted orders).length + (wanted others).length := by
    rw [wanted_append, List.length_append]
  have occupied := occupied_enqueue c orders
  constructor
  · intro suits
    refine ⟨⟨fun limit given => ?_, fun w member => ?_⟩, ⟨fun limit given => ?_, fun w member => ?_⟩⟩
    · have room := suits.room limit given
      omega
    · exact suits.running w (List.mem_append_left _ member)
    · have room := suits.room limit given
      omega
    · exact suits.running w (List.mem_append_right _ member)
  · rintro ⟨some, others⟩
    refine ⟨fun limit given => ?_, fun w member => ?_⟩
    · have room := some.room limit given
      have left := others.room limit given
      omega
    · exact (List.mem_append.mp member).elim (some.running w) (others.running w)

theorem suits_request :
    c.Suits [.request kind] ↔ ∀ limit, c.capacity = some limit → c.occupied < limit := by
  constructor
  · intro suits limit given
    have room : 1 ≤ limit - c.occupied := suits.room limit given
    omega
  · intro free
    refine ⟨fun limit given => ?_, by simp⟩
    have room := free limit given
    show 1 ≤ limit - c.occupied
    omega

theorem suits_destruction : c.Suits [.destruction w] ↔ w ∈ c.owners := by
  constructor
  · exact fun suits => suits.running w (List.mem_singleton.mpr rfl)
  · intro runs
    refine ⟨fun _ _ => Nat.zero_le _, fun v member => ?_⟩
    cases List.mem_singleton.mp member
    exact runs

variable [Quantity α]

/-- Gives some orders, one after the other. -/
def place (c : Cloud α) (orders : List Order) : Cloud α × List Call :=
  c.perform (orders.map Order.act)

/-- Those of some orders that are accepted when all are given, one after the other. -/
def accepted (c : Cloud α) (orders : List Order) : List Order :=
  (c.place orders).2.filterMap placed?

theorem place_cons (order : Order) (orders : List Order) :
    (c.place (order :: orders)).1 = ((c.act order.act).1.place orders).1 := rfl

theorem accepted_cons (order : Order) (orders : List Order) : c.accepted (order :: orders) =
    (c.act order.act).2.filterMap placed? ++ (c.act order.act).1.accepted orders :=
  List.filterMap_append

/-- An order that suits is accepted and queues. One that does not is refused and leaves no trace. -/
theorem act_cases (c : Cloud α) (order : Order) :
    (c.Suits [order] ∧ (c.act order.act).1 = c.enqueue [order] ∧
        (c.act order.act).2.filterMap placed? = [order]) ∨
      (¬ c.Suits [order] ∧ (c.act order.act).1 = c ∧
        (c.act order.act).2.filterMap placed? = []) := by
  cases order with
  | request kind =>
    have queued : c.enqueue [.request kind] = { c with creations := c.creations ++ [kind] } := by
      simp [enqueue, wanted, doomed]
    by_cases suits : c.Suits [.request kind]
    · rcases request_cases kind c with accepted | ⟨_, refused⟩
      · rw [Order.act, act, accepted, queued]
        exact .inl ⟨suits, rfl, rfl⟩
      · obtain ⟨limit, given, full, -⟩ := of_request_eq_error (congrArg Prod.fst refused)
        exact absurd full (Nat.not_le.mpr (suits_request.mp suits limit given))
    · have full : ∃ limit, c.capacity = some limit ∧ limit ≤ c.occupied := by
        simpa only [suits_request, not_forall, exists_prop, Nat.not_lt] using suits
      obtain ⟨limit, given, full⟩ := full
      rw [Order.act, act, request_eq given, if_pos full]
      exact .inr ⟨suits, rfl, rfl⟩
  | destruction w =>
    have queued : c.enqueue [.destruction w] = { c with destructions := c.destructions ++ [w] } := by
      simp [enqueue, wanted, doomed]
    rw [suits_destruction, queued, Order.act, act, destroy]
    by_cases runs : w ∈ c.owners
    · rw [if_pos (Std.ExtTreeMap.contains_iff_mem.mpr runs)]
      exact .inl ⟨runs, rfl, rfl⟩
    · rw [if_neg (mt Std.ExtTreeMap.contains_iff_mem.mp runs)]
      exact .inr ⟨runs, rfl, rfl⟩

/-- Induction over the orders. What is accepted stands in the queues, and all of it suits. -/
theorem place_spec (c : Cloud α) (orders : List Order) :
    (c.place orders).1 = c.enqueue (c.accepted orders) ∧ c.Suits (c.accepted orders) := by
  induction orders generalizing c with
  | nil => exact ⟨c.enqueue_nil.symm, fun _ _ => Nat.zero_le _, nofun⟩
  | cons order orders ih =>
    rw [place_cons, accepted_cons]
    rcases c.act_cases order with ⟨suits, queued, placed⟩ | ⟨-, unchanged, nothing⟩
    · obtain ⟨rest, fits⟩ := ih (c.enqueue [order])
      rw [queued, placed, rest, enqueue_enqueue]
      exact ⟨rfl, suits_append.mpr ⟨suits, fits⟩⟩
    · rw [unchanged, nothing, List.nil_append]
      exact ih c

/-- Orders that suit together are all accepted. -/
theorem Suits.accepted (suits : c.Suits orders) : c.accepted orders = orders := by
  induction orders generalizing c with
  | nil => rfl
  | cons order orders ih =>
    obtain ⟨first, rest⟩ := suits_append.mp (show c.Suits ([order] ++ orders) from suits)
    rw [accepted_cons]
    rcases c.act_cases order with ⟨-, queued, placed⟩ | ⟨refused, -⟩
    · rw [queued, placed, ih rest, List.singleton_append]
    · exact absurd first refused

end Queueing

end Cloud

end ElasticPools
