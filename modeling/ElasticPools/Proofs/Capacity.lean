import ElasticPools.Proofs.Agreement

/-!
The capacity of a cloud. A request is weighed against the machines that run and the creations that
are queued. Machines come and go only when a tick is entered, when the queue turns into machines. So
between two ticks the free slots are those that the first of them left, and no destruction adds to
them.
-/

set_option autoImplicit false

namespace ElasticPools

variable {α : Type}

namespace Cloud

/-- What can be done to a cloud once it runs. -/
inductive Act where
  | request (kind : Kind)
  | destroy (worker : WorkerId)
  | forget (kind : Kind)
  | advance (tick : Nat)

def Act.isRequest : Act → Bool
  | request _ => true
  | _ => false

def Act.isAdvance : Act → Bool
  | advance _ => true
  | _ => false

/-- How many workers the plans begin with. -/
def plannedWorkers (c : Cloud α) : Nat := (c.plans.toList.map (·.2.initialWorkers)).sum

/-- The slots that machines and queued creations take. -/
def occupied (c : Cloud α) : Nat := c.liveWorkers + c.creations.length

/-- A cloud of a limited capacity before its first tick. -/
def started (kinds : List (KindPlan α)) (period limit : Nat) (names : Nat → WorkerId) : Cloud α :=
  (Cloud.new kinds period (some limit) names).bootstrap

variable {c d : Cloud α} {limit : Nat} {kind : Kind}

section Counting

theorem liveWorkers_spawn : (c.spawn kind).liveWorkers =
    if c.names c.issued ∈ c.owners then c.liveWorkers else c.liveWorkers + 1 :=
  Std.ExtTreeMap.size_insert

theorem liveWorkers_stop_le (id : WorkerId) : (c.stop id).liveWorkers ≤ c.liveWorkers := by
  unfold stop
  split
  · exact Nat.le_refl _
  · exact Std.ExtTreeMap.size_erase_le

/-- Of the names that were issued some may be the same, and then there are fewer machines. -/
structure Counted (c : Cloud α) : Prop where
  most : c.liveWorkers ≤ c.issued
  all : Unrepeated c.names c.issued →
    c.liveWorkers = c.issued ∧ ∀ w ∈ c.owners, ∃ i < c.issued, c.names i = w

theorem Counted.spawn (counted : c.Counted) (kind : Kind) : (c.spawn kind).Counted := by
  constructor
  case most =>
    rw [liveWorkers_spawn]
    show _ ≤ c.issued + 1
    have most := counted.most
    split <;> omega
  case all =>
    intro unrepeated
    have earlier : Unrepeated c.names c.issued := unrepeated.mono (Nat.le_succ c.issued)
    obtain ⟨live, named⟩ := counted.all earlier
    have fresh : c.names c.issued ∉ c.owners := by
      intro runs
      obtain ⟨i, below, same⟩ := named _ runs
      exact unrepeated i c.issued below (Nat.lt_succ_self _) same
    refine ⟨by rw [liveWorkers_spawn, if_neg fresh, live]; rfl, fun w runs => ?_⟩
    rcases Std.ExtTreeMap.mem_insert.mp runs with same | runs
    · exact ⟨c.issued, Nat.lt_succ_self _, Std.compare_eq_iff_eq.mp same⟩
    · obtain ⟨i, below, same⟩ := named w runs
      exact ⟨i, Nat.lt_succ_of_lt below, same⟩

theorem issued_foldl_startKind (plans : List (Kind × KindPlan α)) (c : Cloud α) :
    (plans.foldl startKind c).issued = c.issued + (plans.map (·.2.initialWorkers)).sum := by
  induction plans generalizing c with
  | nil => rfl
  | cons q plans ih =>
    rw [List.foldl_cons, ih, (startKind_supplied c q).issued, List.map_cons, List.sum_cons,
      Nat.add_assoc]

variable (kinds : List (KindPlan α)) (period limit : Nat) (names : Nat → WorkerId)

theorem started_counted : (started kinds period limit names).Counted := by
  refine foldl_keeps (startKind_keeps (fun _ kind counted => counted.spawn kind)
    fun _ _ counted => ⟨counted.most, counted.all⟩) _ ?_
  refine ⟨Nat.le_refl 0, fun _ => ⟨rfl, fun w runs => ?_⟩⟩
  exact absurd runs Std.ExtTreeMap.not_mem_empty

theorem setting_started : (started kinds period limit names).setting =
    (Cloud.new kinds period (some limit) names).setting :=
  bootstrap_setting kinds period (some limit) names

theorem issued_started : (started kinds period limit names).issued =
    (started kinds period limit names).plannedWorkers := by
  have plans : (started kinds period limit names).plans =
      (Cloud.new kinds period (some limit) names).plans :=
    congrArg Setting.plans (setting_started kinds period limit names)
  rw [plannedWorkers, plans]
  exact (issued_foldl_startKind _ _).trans (Nat.zero_add _)

theorem started_queues : (started kinds period limit names).names = names ∧
    (started kinds period limit names).creations = [] := by
  obtain ⟨_, supplied⟩ := bootstrap_supplied kinds period (some limit) names
  exact ⟨supplied.names, supplied.creations⟩

/-- If no name repeats there are as many machines as were planned. -/
theorem liveWorkers_started
    (unrepeated : Unrepeated names (started kinds period limit names).plannedWorkers) :
    (started kinds period limit names).liveWorkers =
      (started kinds period limit names).plannedWorkers := by
  rw [← issued_started] at unrepeated ⊢
  refine ((started_counted kinds period limit names).all ?_).1
  rwa [(started_queues kinds period limit names).1]

end Counting

/-- No request is accepted beyond the capacity, and none is refused below it. -/
theorem request_eq (given : c.capacity = some limit) (kind : Kind) :
    c.request kind =
      if limit ≤ c.occupied then
        (.error (.request kind s!"capacity of {limit} workers exhausted"), c)
      else (.ok (), { c with creations := c.creations ++ [kind] }) := by
  rw [request, given]
  rfl

/-- What `requests` requests come to as long as no tick is entered, whatever else is called. -/
structure Used (limit requests : Nat) (c d : Cloud α) (calls : List Call) : Prop where
  capacity : d.capacity = c.capacity
  live : d.liveWorkers = c.liveWorkers
  occupied : d.occupied = c.occupied + (Call.requested calls).length
  accepted : (Call.requested calls).length = min requests (limit - c.occupied)

theorem Used.append {requests more : Nat} {e : Cloud α} {calls others : List Call}
    (one : Used limit requests c d calls) (two : Used limit more d e others) :
    Used limit (requests + more) c e (calls ++ others) := by
  have occupied := one.occupied
  have accepted := one.accepted
  have accepted' := two.accepted
  constructor
  case capacity => exact two.capacity.trans one.capacity
  case live => exact two.live.trans one.live
  case occupied =>
    rw [two.occupied, occupied, Call.requested_append, List.length_append, Nat.add_assoc]
  case accepted =>
    rw [Call.requested_append, List.length_append]
    omega

variable [Quantity α]

/-- Each queued creation makes one machine at most. -/
theorem liveWorkers_advance_le (c : Cloud α) (tick : Nat) :
    (c.advance tick).liveWorkers ≤ c.occupied := by
  -- a machine starts only together with a name, so the names count the machines
  have grown : (c.advance tick).liveWorkers + c.issued ≤
      c.liveWorkers + (c.advance tick).issued := by
    refine advance_keeps (P := fun d => d.liveWorkers + c.issued ≤ c.liveWorkers + d.issued)
      ?stop ?spawn ?assign tick (Nat.le_refl _)
    case stop =>
      intro d id before
      have fewer := liveWorkers_stop_le (c := d) id
      rw [show (d.stop id).issued = d.issued from (stop_supplied d id).issued]
      omega
    case spawn =>
      intro d kind before
      rw [liveWorkers_spawn, show (d.spawn kind).issued = d.issued + 1 from rfl]
      split <;> omega
    case assign => exact fun d kind assigned before => before
  have issued : (c.advance tick).issued = c.issued + c.creations.length :=
    (advance_supplied c tick).issued
  unfold occupied
  omega

/-- One act, with the call that it makes. -/
def act (c : Cloud α) : Act → Cloud α × List Call
  | .request kind =>
    let (answer, next) := c.request kind
    (next, [.request kind answer])
  | .destroy worker =>
    let (answer, next) := c.destroy worker
    (next, [.destruction worker answer])
  | .forget kind => (c.forget kind, [.forget kind])
  | .advance tick => (c.advance tick, [])

/-- Some acts, one after the other, with the calls that they make. -/
def perform (c : Cloud α) : List Act → Cloud α × List Call
  | [] => (c, [])
  | a :: acts =>
    let (next, calls) := c.act a
    let (last, more) := perform next acts
    (last, calls ++ more)

theorem act_used (given : c.capacity = some limit) {a : Act} (still : a.isAdvance = false) :
    Used limit a.isRequest.toNat c (c.act a).1 (c.act a).2 := by
  cases a with
  | request kind =>
    simp only [act, request_eq given]
    split
    · next full =>
      refine ⟨rfl, rfl, rfl, ?_⟩
      show 0 = min 1 (limit - c.occupied)
      omega
    · next free =>
      refine ⟨rfl, rfl, congrArg (c.liveWorkers + ·) List.length_append, ?_⟩
      show 1 = min 1 (limit - c.occupied)
      omega
  | destroy worker =>
    rcases destroy_cases worker c with accepted | ⟨reason, refused⟩
    · simp only [act, accepted]
      exact ⟨rfl, rfl, rfl, (Nat.zero_min _).symm⟩
    · simp only [act, refused]
      exact ⟨rfl, rfl, rfl, (Nat.zero_min _).symm⟩
  | forget kind => exact ⟨rfl, rfl, rfl, (Nat.zero_min _).symm⟩
  | advance tick => cases still

/-- Induction over the acts. What one of them has used the others do not find. -/
theorem perform_used (given : c.capacity = some limit) {acts : List Act}
    (still : ∀ a ∈ acts, a.isAdvance = false) :
    Used limit (acts.countP (·.isRequest)) c (c.perform acts).1 (c.perform acts).2 := by
  induction acts generalizing c with
  | nil => exact ⟨rfl, rfl, rfl, (Nat.zero_min _).symm⟩
  | cons a acts ih =>
    have one := act_used given (still a List.mem_cons_self)
    have rest := ih (one.capacity.trans given) fun b member =>
      still b (List.mem_cons_of_mem a member)
    have counted : (a :: acts).countP (·.isRequest) =
        a.isRequest.toNat + acts.countP (·.isRequest) := by
      rw [List.countP_cons, Nat.add_comm]
      cases a.isRequest <;> rfl
    rw [counted]
    exact one.append rest

/-- A cloud that keeps to a bound. -/
structure Bounded (limit most : Nat) (c : Cloud α) : Prop where
  capacity : c.capacity = some limit
  within : c.occupied ≤ most

theorem Bounded.act {most : Nat} (bounded : c.Bounded limit most) (enough : limit ≤ most)
    (a : Act) : (c.act a).1.Bounded limit most := by
  have within := bounded.within
  cases advances : a.isAdvance with
  | false =>
    have used := act_used bounded.capacity advances
    have occupied := used.occupied
    have accepted := used.accepted
    exact ⟨used.capacity.trans bounded.capacity, by omega⟩
  | true =>
    match a, advances with
    | .advance tick, _ =>
      have setting : (c.advance tick).setting = c.setting := setting_advance c tick
      have emptied : (c.advance tick).creations = [] := (advance_supplied c tick).creations
      refine ⟨(congrArg Setting.capacity setting).trans bounded.capacity, ?_⟩
      show (c.advance tick).occupied ≤ most
      rw [occupied, emptied]
      exact Nat.le_trans (liveWorkers_advance_le c tick) within

/-- Induction over the acts. -/
theorem Bounded.perform {most : Nat} (bounded : c.Bounded limit most) (enough : limit ≤ most)
    (acts : List Act) : (c.perform acts).1.Bounded limit most := by
  induction acts generalizing c with
  | nil => exact bounded
  | cons a acts ih => exact ih (bounded.act enough a)

theorem perform_snoc (c : Cloud α) (acts : List Act) (a : Act) :
    (c.perform (acts ++ [a])).1 = ((c.perform acts).1.act a).1 := by
  induction acts generalizing c with
  | nil => rfl
  | cons b acts ih => exact ih (c.act b).1

/-- When a tick has just been entered, or none yet, nothing is queued. -/
def AtRest (acts : List Act) : Prop := ∀ a ∈ acts.getLast?, a.isAdvance = true

theorem creations_of_atRest (blank : c.creations = []) {acts : List Act} (rest : AtRest acts) :
    (c.perform acts).1.creations = [] := by
  rcases List.eq_nil_or_concat acts with rfl | ⟨front, a, rfl⟩
  · exact blank
  · rw [List.concat_eq_append] at rest ⊢
    match a, rest a List.getLast?_concat with
    | .advance tick, _ =>
      rw [perform_snoc]
      exact (advance_supplied _ tick).creations

/-- Machines and queued creations never take more than the capacity, or what the cloud began with.
While no tick is entered, requests are accepted as long as there are more slots than machines ran
when the last one was, whatever is destroyed in between. -/
theorem capacity_used (kinds : List (KindPlan α)) (period limit : Nat) (names : Nat → WorkerId) :
    (Unrepeated names (started kinds period limit names).plannedWorkers →
      (started kinds period limit names).liveWorkers =
        (started kinds period limit names).plannedWorkers) ∧
    (∀ acts, ((started kinds period limit names).perform acts).1.occupied ≤
      max limit (started kinds period limit names).plannedWorkers) ∧
    ∀ front, AtRest front → ∀ c, c = ((started kinds period limit names).perform front).1 →
      ∀ mid, (∀ a ∈ mid, a.isAdvance = false) →
        (c.perform mid).1.liveWorkers = c.liveWorkers ∧
        (Call.requested (c.perform mid).2).length =
          min (mid.countP (·.isRequest)) (limit - c.liveWorkers) := by
  have blank := (started_queues kinds period limit names).2
  have begins : (started kinds period limit names).Bounded limit
      (max limit (started kinds period limit names).plannedWorkers) := by
    refine ⟨congrArg Setting.capacity (setting_started kinds period limit names), ?_⟩
    rw [occupied, blank, List.length_nil, Nat.add_zero, ← issued_started]
    exact Nat.le_trans (started_counted kinds period limit names).most (Nat.le_max_right ..)
  refine ⟨liveWorkers_started kinds period limit names,
    fun acts => (begins.perform (Nat.le_max_left ..) acts).within, ?_⟩
  rintro front rest c rfl mid still
  have used := perform_used (begins.perform (Nat.le_max_left ..) front).capacity still
  have accepted := used.accepted
  rw [occupied, creations_of_atRest blank rest, List.length_nil, Nat.add_zero] at accepted
  exact ⟨used.live, accepted⟩

/-- The slot of a destroyed worker is free on the next tick, and not earlier. -/
example :
    let kind : Kind := ⟨"build", by decide⟩
    let c : Cloud Float := started [⟨kind, 1, []⟩] 60 1 Identifier.serial
    Call.requested (c.perform [.destroy (Identifier.serial 0), .request kind]).2 = [] ∧
      Call.requested (c.perform
        [.destroy (Identifier.serial 0), .advance 1, .request kind]).2 = [kind] := by
  decide +kernel

end Cloud

end ElasticPools
