import ElasticPools.Proofs.Conservation
import ElasticPools.Proofs.Debounce
import Mathlib.Algebra.GroupWithZero.Nat

/-!
The places where a cloud keeps its workers. A worker stands in a pool, has an owner and has a usage
window. Entering a tick leaves the three in agreement. A tick itself parts them only where it forgets
a kind, whose worker it has then queued for destruction. So no destruction is ever refused, and no
request but for want of capacity.
-/

set_option autoImplicit false

namespace ElasticPools

variable {α : Type}

namespace Cloud

variable {c d : Cloud α} {leaving : List WorkerId} {kind k : Kind} {id w : WorkerId}

/-- What is decided about a cloud when it is made. -/
structure Setting (α : Type) where
  plans : Std.ExtTreeMap Kind (KindPlan α)
  window : Nat
  capacity : Option Nat

def setting (c : Cloud α) : Setting α := ⟨c.plans, c.window, c.capacity⟩

/-- Only machines have usage windows, and every machine has one. -/
def Measured (c : Cloud α) : Prop := ∀ w, w ∈ c.usage ↔ w ∈ c.owners

/-- A machine that is in no pool of its kind is among those that leave. -/
def Housed (c : Cloud α) (leaving : List WorkerId) : Prop :=
  ∀ w kind, c.owner? w = some kind → w ∈ (c.registry.ids? kind).getD [] ∨ w ∈ leaving

theorem mem_owners_iff : w ∈ c.owners ↔ ∃ kind, c.owner? w = some kind := by
  rw [owner?, ← Option.isSome_iff_exists, Std.ExtTreeMap.isSome_getElem?_iff_mem]

section Stopping

theorem setting_stop (c : Cloud α) (id : WorkerId) : (c.stop id).setting = c.setting := by
  unfold stop
  split <;> rfl

theorem Measured.stop (measured : c.Measured) (id : WorkerId) : (c.stop id).Measured := by
  unfold Cloud.stop
  split
  · exact measured
  · intro w
    simp only [Std.ExtTreeMap.mem_erase, measured w]

theorem owner?_foldl_stop (gone : List WorkerId) (c : Cloud α) :
    (gone.foldl Cloud.stop c).owner? w = if w ∈ gone then none else c.owner? w := by
  induction gone generalizing c with
  | nil => rfl
  | cons id gone ih =>
    rw [List.foldl_cons, ih, owner?_stop]
    by_cases same : id = w
    · simp [same]
    · simp [same, Ne.symm same]

/-- Once those that leave are stopped, every machine is in its pool. -/
theorem Housed.foldl_stop (housed : c.Housed leaving) (consistent : c.Consistent) :
    (leaving.foldl Cloud.stop c).Housed [] := by
  intro w kind owner
  rw [owner?_foldl_stop] at owner
  split at owner
  · cases owner
  · next stays =>
    have inside := (housed w kind owner).resolve_right stays
    rw [(Cloud.foldl_stop consistent leaving).ids]
    cases shown : c.registry.ids? kind with
    | none =>
      rw [shown] at inside
      cases inside
    | some ids =>
      rw [shown] at inside
      exact Or.inl (List.mem_filter.mpr ⟨inside, decide_eq_true stays⟩)

end Stopping

section Spawning

theorem Measured.spawn (measured : c.Measured) (kind : Kind) : (c.spawn kind).Measured := by
  intro w
  simp only [Cloud.spawn, Std.ExtTreeMap.mem_insert, measured w]

theorem Housed.spawn (housed : c.Housed leaving) (kind : Kind) : (c.spawn kind).Housed leaving := by
  intro w k owner
  rw [owner?_spawn] at owner
  rw [ids?_spawn]
  split at owner
  · next named =>
    rw [if_pos (Option.some.inj owner)]
    exact Or.inl (List.mem_append_right _ (List.mem_singleton.mpr named.symm))
  · refine (housed w k owner).imp_left fun inside => ?_
    split
    · exact List.mem_append_left _ inside
    · exact inside

theorem Housed.register (housed : c.Housed leaving) (kind : Kind) :
    Housed { c with registry := c.registry.register kind } leaving := by
  intro w k owner
  refine (housed w k owner).imp_left fun inside => ?_
  show w ∈ ((c.registry.register kind).ids? k).getD []
  rw [Registry.ids?_register]
  split <;> exact inside

end Spawning

/-- What each step of a fold keeps holds after it. -/
theorem foldl_keeps {β : Type} {f : Cloud α → β → Cloud α} {P : Cloud α → Prop}
    (keeps : ∀ c b, P c → P (f c b)) (bs : List β) (before : P c) :
    P (bs.foldl f c) := by
  induction bs generalizing c with
  | nil => exact before
  | cons b bs ih => exact ih (keeps c b before)

theorem startKind_keeps {P : Cloud α → Prop} (spawn : ∀ c kind, P c → P (c.spawn kind))
    (register : ∀ c kind, P c → P { c with registry := c.registry.register kind })
    (c : Cloud α) (q : Kind × KindPlan α) (before : P c) : P (c.startKind q) := by
  rw [startKind, repeat_spawn]
  exact foldl_keeps spawn _ (register c q.1 before)

section Starting

variable (plans : List (KindPlan α)) (period : Nat) (capacity : Option Nat) (names : Nat → WorkerId)

theorem bootstrap_measured : (Cloud.new plans period capacity names).bootstrap.Measured := by
  refine foldl_keeps (startKind_keeps (fun _ kind measured => measured.spawn kind)
    fun _ _ measured => measured) _ ?_
  intro w
  simp [Cloud.new]

theorem bootstrap_housed : (Cloud.new plans period capacity names).bootstrap.Housed [] := by
  refine foldl_keeps (P := (Housed · [])) (startKind_keeps (fun _ kind housed => housed.spawn kind)
    fun _ kind housed => housed.register kind) _ ?_
  intro w kind owner
  rw [Cloud.new, owner?, Std.ExtTreeMap.getElem?_empty] at owner
  cases owner

theorem bootstrap_setting : (Cloud.new plans period capacity names).bootstrap.setting =
    (Cloud.new plans period capacity names).setting :=
  foldl_keeps (P := (·.setting = (Cloud.new plans period capacity names).setting))
    (startKind_keeps (fun _ _ same => same) fun _ _ same => same) _ rfl

end Starting

section Entering

variable [Quantity α]

theorem Measured.assign (measured : c.Measured) (kind : Kind) (assigned : WorkerId × α) :
    (c.assign kind assigned).Measured := by
  intro w
  simp only [Cloud.assign, Std.ExtTreeMap.mem_modify, measured w]

theorem spreadLoad_keeps {P : Cloud α → Prop}
    (keeps : ∀ c kind assigned, P c → P (c.assign kind assigned)) (tick : Nat)
    (before : P c) : P (c.spreadLoad tick) :=
  foldl_keeps (fun _ q => foldl_keeps (fun c => keeps c q.1) _) _ before

/-- What holds of a cloud without queues, and is kept by stopping, by starting and by load, holds
when a tick has been entered. -/
theorem advance_keeps {P : Cloud α → Prop} (stop : ∀ c id, P c → P (c.stop id))
    (spawn : ∀ c kind, P c → P (c.spawn kind))
    (assign : ∀ c kind assigned, P c → P (c.assign kind assigned)) (tick : Nat)
    (before : P c.emptied) : P (c.advance tick) :=
  spreadLoad_keeps assign tick (foldl_keeps spawn _ (foldl_keeps stop _ before))

theorem Measured.advance (measured : c.Measured) (tick : Nat) : (c.advance tick).Measured :=
  advance_keeps (fun _ id measured => measured.stop id) (fun _ kind measured => measured.spawn kind)
    (fun _ kind assigned measured => measured.assign kind assigned) tick measured

theorem setting_advance (c : Cloud α) (tick : Nat) : (c.advance tick).setting = c.setting :=
  advance_keeps (P := (·.setting = c.setting)) (fun d id same => (setting_stop d id).trans same)
    (fun _ _ same => same) (fun _ _ _ same => same) tick rfl

/-- Entering a tick drops no kind. -/
theorem contains_advance (known : c.registry.contains kind = true) (tick : Nat) :
    (c.advance tick).registry.contains kind = true := by
  rw [Registry.contains_eq_isSome] at known ⊢
  refine advance_keeps (P := fun c => (c.registry.ids? kind).isSome = true)
    ?stop ?spawn ?assign tick known
  case stop =>
    intro c id known
    unfold Cloud.stop
    split
    · exact known
    · refine (congrArg Option.isSome Registry.ids?_take).trans ?_
      split
      · rwa [Option.isSome_map]
      · exact known
  case spawn =>
    intro c k known
    rw [ids?_spawn]
    split
    · rfl
    · exact known
  case assign =>
    intro c k assigned known
    rwa [(assign_sameMembers k c assigned).ids]

/-- Entering a tick brings every machine home. -/
theorem Housed.advance (housed : c.Housed c.destructions) (consistent : c.Consistent) (tick : Nat) :
    (c.advance tick).Housed [] := by
  have emptied : c.emptied.Consistent :=
    ⟨consistent.distinct, consistent.owned, consistent.issued⟩
  have stopped : (c.destructions.foldl Cloud.stop c.emptied).Housed [] :=
    Housed.foldl_stop housed emptied
  have spawned : c.applyQueues.Housed [] := foldl_keeps (P := (Housed · []))
    (fun _ kind housed => housed.spawn kind) c.creations stopped
  have spread : SameMembers c.applyQueues (c.advance tick) := spreadLoad_sameMembers _ tick
  intro w kind owner
  rw [spread.owner] at owner
  rw [spread.ids]
  exact spawned w kind owner

end Entering

/-- Pools, owners and usage windows tell of the same workers, each of which is in one pool once. -/
structure Agrees (c : Cloud α) : Prop where
  owners : ∀ w kind, c.owners[w]? = some kind ↔ w ∈ (c.registry.pool kind).map (·.id)
  once : c.registry.Unique
  usage : ∀ w, w ∈ c.usage ↔ w ∈ c.owners
  live : c.liveWorkers = (c.registry.toList.map (·.2.length)).sum

theorem owner?_iff (consistent : c.Consistent) (housed : c.Housed []) (w : WorkerId) (kind : Kind) :
    c.owner? w = some kind ↔ w ∈ (c.registry.pool kind).map (·.id) := by
  rw [Registry.map_id_pool]
  refine ⟨fun owner => (housed w kind owner).resolve_right List.not_mem_nil, ?_⟩
  exact consistent.owned_getD

theorem mem_idsOf_toList {r : Registry} :
    w ∈ Controller.idsOf r.toList ↔ ∃ kind, w ∈ (r.pool kind).map (·.id) := by
  rw [Controller.mem_idsOf]
  constructor
  · rintro ⟨⟨kind, workers⟩, member, inside⟩
    refine ⟨kind, ?_⟩
    rwa [Registry.pool, Registry.mem_toList.mp member]
  · rintro ⟨kind, inside⟩
    obtain ⟨v, listed, rfl⟩ := List.mem_map.mp inside
    obtain ⟨workers, found, listed⟩ := Registry.mem_pool.mp listed
    exact ⟨(kind, workers), Registry.mem_toList.mpr found, List.mem_map.mpr ⟨v, listed, rfl⟩⟩

theorem agrees_of_housed (consistent : c.Consistent) (housed : c.Housed []) (measured : c.Measured) :
    c.Agrees := by
  have owners := owner?_iff consistent housed
  refine ⟨owners, consistent.unique, measured, ?_⟩
  -- owners and names in pools are lists of the same names without repetitions
  have same : c.owners.keys.Perm (Controller.idsOf c.registry.toList) := by
    rw [List.perm_ext_iff_of_nodup Std.ExtTreeMap.nodup_keys consistent.unique]
    intro w
    rw [Std.ExtTreeMap.mem_keys, mem_owners_iff, mem_idsOf_toList]
    exact exists_congr (owners w)
  rw [liveWorkers, ← Std.ExtTreeMap.length_keys, same.length_eq, Controller.idsOf,
    List.length_flatMap]
  simp only [List.length_map]

section Calling

theorem Housed.replay (housed : c.Housed []) {calls : List Call}
    (forsaken : ∀ kind ∈ Call.forgotten calls, ∀ w ∈ (c.registry.ids? kind).getD [],
      w ∈ Call.destroyed calls) :
    (c.replay calls).Housed (c.replay calls).destructions := by
  intro w kind owner
  have inside := (housed w kind owner).resolve_right List.not_mem_nil
  rw [ids?_replay]
  split
  · next forgotten => exact Or.inr (List.mem_append_right _ (forsaken kind forgotten w inside))
  · exact Or.inl inside

theorem of_request_eq_error {refusal : Refusal} (refused : (c.request kind).1 = .error refusal) :
    ∃ limit, c.capacity = some limit ∧ limit ≤ c.liveWorkers + c.creations.length ∧
      refusal = .request kind s!"capacity of {limit} workers exhausted" := by
  unfold request at refused
  split at refused
  · cases refused
  · next limit given =>
    split at refused
    · next full => exact ⟨limit, given, full, (Except.error.inj refused).symm⟩
    · cases refused

theorem destroy_of_mem (runs : w ∈ c.owners) : (c.destroy w).1 = .ok () := by
  rw [destroy, if_pos (Std.ExtTreeMap.contains_iff_mem.mpr runs)]

/-- One of some calls to a cloud, with its answer. A request is refused only when machines and
creations, those of these calls included, fill the capacity. The destruction of a machine that runs
is accepted. -/
def Answers (c : Cloud α) (calls : List Call) : Call → Prop
  | .request kind (.error refusal) => ∃ limit, c.capacity = some limit ∧
      limit ≤ c.liveWorkers + (c.creations ++ Call.requested calls).length ∧
      refusal = .request kind s!"capacity of {limit} workers exhausted"
  | .destruction w answer => w ∈ c.owners → answer = .ok ()
  | _ => True

/-- More calls leave less room. -/
theorem Answers.mono {calls : List Call} {call : Call} (answers : c.Answers calls call)
    (more : List Call) : c.Answers (calls ++ more) call := by
  match call with
  | .request kind (.error refusal) =>
    obtain ⟨limit, given, full, text⟩ := answers
    refine ⟨limit, given, Nat.le_trans full ?_, text⟩
    simp only [Call.requested_append, List.length_append]
    omega
  | .request _ (.ok _) | .forget _ => trivial
  | .destruction _ _ => exact answers

/-- All answers of a cloud are such. -/
def Answered (c : Cloud α) (calls : List Call) : Prop := ∀ call ∈ calls, c.Answers calls call

theorem Answered.snoc {calls : List Call} {call : Call} (answered : c.Answered calls)
    (answers : c.Answers calls call) : c.Answered (calls ++ [call]) := by
  intro other member
  rcases List.mem_append.mp member with earlier | now
  · exact (answered other earlier).mono [call]
  · rw [List.mem_singleton.mp now]
    exact answers.mono [call]

variable [Quantity α]

theorem recorded_keeps_answered (c : Cloud α) :
    (provider (α := α)).recorded.Keeps fun s => s.1 = c.replay s.2 ∧ c.Answered s.2 := by
  have replays := recorded_keeps_replay c
  constructor
  case request =>
    rintro kind ⟨world, calls⟩ ⟨same, answered⟩
    refine ⟨replays.request kind ⟨world, calls⟩ same, answered.snoc ?_⟩
    show c.Answers calls (.request kind (request kind world).1)
    cases answer : (request kind world).1 with
    | ok => trivial
    | error refusal =>
      rw [show world = c.replay calls from same] at answer
      exact of_request_eq_error answer
  case destroy =>
    rintro v ⟨world, calls⟩ ⟨same, answered⟩
    refine ⟨replays.destroy v ⟨world, calls⟩ same, answered.snoc fun runs => ?_⟩
    apply destroy_of_mem
    rw [show world = c.replay calls from same]
    exact runs
  case forget =>
    rintro kind ⟨world, calls⟩ ⟨same, answered⟩
    exact ⟨replays.forget kind ⟨world, calls⟩ same, answered.snoc trivial⟩

end Calling

end Cloud

namespace Simulation

variable [Quantity α] {s : Simulation α} {t : Nat}

theorem setting_after (s : Simulation α) (t : Nat) : (s.after t).cloud.setting = s.cloud.setting := by
  induction t with
  | zero => rfl
  | succ t ih =>
    rw [s.cloud_after t]
    exact (Cloud.setting_advance (s.after t).cloud (t + 1)).trans ih

theorem seen_setting (s : Simulation α) (t : Nat) : (s.seen t).setting = s.cloud.setting :=
  (Cloud.setting_advance _ _).trans (s.setting_after t)

theorem calls_answered (s : Simulation α) (t : Nat) : (s.seen t).Answered (s.calls t) := by
  refine (Controller.evaluateTick_keeps (Cloud.recorded_keeps_answered (s.seen t))
    (s.after t).controller (t + 1) ⟨?_, fun _ member => absurd member List.not_mem_nil⟩).2
  simp [Cloud.replay, Call.requested, Call.destroyed, Call.forgotten]

theorem measured_after (measured : s.cloud.Measured) (t : Nat) : (s.after t).cloud.Measured := by
  induction t with
  | zero => exact measured
  | succ t ih =>
    rw [s.cloud_after t]
    exact ih.advance (t + 1)

/-- A kind is forgotten together with its worker. -/
theorem destroyed_of_forgotten (unique : (s.seen t).registry.Unique) {kind : Kind}
    (forgotten : kind ∈ (s.frame t).report.forgotten) {w : WorkerId}
    (inside : w ∈ ((s.seen t).registry.pool kind).map (·.id)) :
    w ∈ (s.frame t).report.destroyed := by
  obtain ⟨v, member, rfl⟩ := List.mem_map.mp inside
  obtain ⟨workers, found, member⟩ := Registry.mem_pool.mp member
  obtain ⟨r, _, dealt⟩ := (s.ticked t).pool kind workers found
  have destroyed := dealt.destroyed_of_forgotten (s.ticked t) unique forgotten member
  rwa [← Call.mem_destroyed, (s.ticked t).destroyed] at destroyed

/-- Induction over the ticks: a tick leaves behind only machines that it has queued for destruction,
and entering the next one stops them. -/
theorem housed_after (consistent : s.cloud.Consistent)
    (housed : s.cloud.Housed s.cloud.destructions)
    (unrepeated : Cloud.Unrepeated s.cloud.names (s.after t).cloud.issued) :
    (s.after t).cloud.Housed (s.after t).cloud.destructions := by
  induction t with
  | zero => exact housed
  | succ t ih =>
    have earlier := unrepeated.mono (s.issued_after_mono (Nat.le_succ t))
    have home : (s.seen t).Housed [] :=
      (ih earlier).advance (after_consistent consistent earlier) (t + 1)
    rw [s.cloud_after t]
    refine home.replay fun kind forgotten w inside => ?_
    rw [← Registry.map_id_pool] at inside
    rw [show Call.forgotten (s.calls t) = _ from (s.ticked t).forgotten] at forgotten
    rw [show Call.destroyed (s.calls t) = _ from (s.ticked t).destroyed]
    exact destroyed_of_forgotten (seen_consistent consistent unrepeated).unique forgotten inside

/-- Entering a tick brings pools, owners and usage windows into agreement. -/
theorem seen_agrees (consistent : s.cloud.Consistent)
    (housed : s.cloud.Housed s.cloud.destructions) (measured : s.cloud.Measured)
    (unrepeated : Cloud.Unrepeated s.cloud.names (s.after (t + 1)).cloud.issued) :
    (s.seen t).Agrees := by
  have earlier := unrepeated.mono (s.issued_after_mono (Nat.le_succ t))
  refine Cloud.agrees_of_housed (seen_consistent consistent unrepeated) ?_
    ((measured_after measured t).advance (t + 1))
  exact (housed_after consistent housed earlier).advance (after_consistent consistent earlier) (t + 1)

/-- How a tick parts pools and owners: it forgets kinds, and leaves their workers to be stopped. -/
structure Parts (s : Simulation α) (t : Nat) : Prop where
  owners : ∀ w kind, (s.after (t + 1)).cloud.owners[w]? = some kind ↔
    w ∈ ((s.after (t + 1)).cloud.registry.pool kind).map (·.id) ∨
      kind ∈ (s.frame t).report.forgotten ∧ w ∈ ((s.seen t).registry.pool kind).map (·.id)
  forsaken : ∀ kind ∈ (s.frame t).report.forgotten,
    ∀ w ∈ ((s.seen t).registry.pool kind).map (·.id),
      w ∉ (s.after (t + 1)).cloud.registry.workerIds ∧ w ∈ (s.after (t + 1)).cloud.destructions
  usage : ∀ w, w ∈ (s.after (t + 1)).cloud.usage ↔ w ∈ (s.after (t + 1)).cloud.owners

theorem owners_after (s : Simulation α) (t : Nat) :
    (s.after (t + 1)).cloud.owners = (s.seen t).owners := by
  rw [s.cloud_after t]
  rfl

theorem pool_after (s : Simulation α) (t : Nat) (kind : Kind) :
    ((s.after (t + 1)).cloud.registry.pool kind).map (·.id) =
      if kind ∈ (s.frame t).report.forgotten then []
      else ((s.seen t).registry.pool kind).map (·.id) := by
  rw [Registry.map_id_pool, Registry.map_id_pool, s.ids?_after]
  split <;> rfl

theorem parts (agrees : (s.seen t).Agrees) : s.Parts t := by
  constructor
  case owners =>
    intro w kind
    rw [owners_after, agrees.owners, pool_after]
    by_cases forgotten : kind ∈ (s.frame t).report.forgotten
    · simp [forgotten]
    · simp [forgotten]
  case forsaken =>
    intro kind forgotten w inside
    constructor
    · intro listed
      obtain ⟨other, workers, found, inside'⟩ := Registry.mem_workerIds.mp listed
      have shown : w ∈ ((s.after (t + 1)).cloud.registry.pool other).map (·.id) := by
        rwa [Registry.pool, found]
      rw [pool_after] at shown
      split at shown
      · cases shown
      · next kept =>
        have one := (agrees.owners w kind).mpr inside
        rw [(agrees.owners w other).mpr shown] at one
        exact kept (Option.some.inj one ▸ forgotten)
    · rw [s.destructions_after]
      exact destroyed_of_forgotten agrees.once forgotten inside
  case usage =>
    rw [s.cloud_after t]
    exact agrees.usage

/-- Only workers that the tick finds in a pool are attacked, and these run. -/
theorem destruction_accepted (agrees : (s.seen t).Agrees) {w : WorkerId} {answer : Answer}
    (called : .destruction w answer ∈ s.calls t) : answer = .ok () := by
  refine s.calls_answered t _ called ?_
  obtain ⟨r, _, _, workers, found, inside⟩ := (s.ticked t).attacked w answer called
  rw [Cloud.mem_owners_iff]
  refine ⟨r.kind, (agrees.owners w r.kind).mpr ?_⟩
  rwa [Registry.pool, show (s.seen t).registry.pool? r.kind = some workers from found]

theorem refusal_of_request (agrees : (s.seen t).Agrees) {refusal : Refusal}
    (failed : refusal ∈ (s.frame t).report.failures) :
    ∃ kind limit, s.cloud.capacity = some limit ∧
      limit ≤ (s.seen t).liveWorkers + (s.frame t).report.requested.length ∧
      refusal = .request kind s!"capacity of {limit} workers exhausted" := by
  rw [← (s.ticked t).refusals] at failed
  obtain ⟨call, member, refused⟩ := List.mem_filterMap.mp failed
  match call with
  | .request kind (.ok _) => cases refused
  | .request kind (.error reason) =>
    obtain rfl := Option.some.inj refused
    obtain ⟨limit, given, full, text⟩ := s.calls_answered t _ member
    rw [(s.seen_queues t).1, List.nil_append, (s.ticked t).requested] at full
    have same : (s.seen t).capacity = s.cloud.capacity :=
      congrArg Cloud.Setting.capacity (s.seen_setting t)
    exact ⟨kind, limit, same.symm.trans given, full, text⟩
  | .destruction w answer =>
    rw [destruction_accepted agrees member] at refused
    cases refused
  | .forget _ => cases refused

/-- Pools, owners and usage windows through one tick, and the failures of that tick. -/
structure Coherent (s : Simulation α) (capacity : Option Nat) (t : Nat) : Prop where
  agrees : (s.seen t).Agrees
  live : (s.seen t).liveWorkers = ((s.frame t).report.pools.map (·.size)).sum
  parts : s.Parts t
  accepted : ∀ w answer, .destruction w answer ∈ s.calls t → answer = .ok ()
  refused : ∀ refusal ∈ (s.frame t).report.failures, ∃ kind limit, capacity = some limit ∧
    limit ≤ (s.seen t).liveWorkers + (s.frame t).report.requested.length ∧
    refusal = .request kind s!"capacity of {limit} workers exhausted"
  unlimited : capacity = none → (s.frame t).report.failures = []

theorem coherent (agrees : (s.seen t).Agrees) : s.Coherent s.cloud.capacity t := by
  constructor
  case agrees => exact agrees
  case live =>
    have sizes := congrArg (List.map Prod.snd) (s.ticked t).reports
    rw [List.map_map, List.map_map] at sizes
    exact agrees.live.trans (congrArg List.sum sizes.symm)
  case parts => exact parts agrees
  case accepted => exact fun w answer => destruction_accepted agrees
  case refused => exact fun refusal => refusal_of_request agrees
  case unlimited =>
    intro unlimited
    rw [List.eq_nil_iff_forall_not_mem]
    intro refusal failed
    obtain ⟨_, _, given, _⟩ := refusal_of_request agrees failed
    rw [unlimited] at given
    cases given

section Main

variable {d : Draft α} {config : Configuration α} (accepted : d.check = .ok config)
  {capacity : Option Nat} {names : Nat → WorkerId}

include accepted

/-- Before the first tick pools, owners and usage windows agree, and each tick is coherent. -/
theorem initial_coherent {ticks : Nat}
    (unrepeated : Cloud.Unrepeated names ((initial config capacity names).after ticks).cloud.issued) :
    (initial config capacity names).cloud.Agrees ∧
      ∀ t < ticks, (initial config capacity names).Coherent capacity t := by
  obtain ⟨same, _, destructions⟩ := initial_cloud config capacity names
  have planned : Cloud.AsPlanned (initial config capacity names).cloud config.kinds :=
    initial_asPlanned accepted (unrepeated.mono (issued_after_mono _ (Nat.zero_le ticks)))
  have measured : (initial config capacity names).cloud.Measured := Cloud.bootstrap_measured _ _ _ _
  have housed : (initial config capacity names).cloud.Housed [] := Cloud.bootstrap_housed _ _ _ _
  have limit : (initial config capacity names).cloud.capacity = capacity :=
    congrArg Cloud.Setting.capacity (Cloud.bootstrap_setting ..)
  refine ⟨Cloud.agrees_of_housed planned.consistent housed measured, fun t within => ?_⟩
  have agrees : ((initial config capacity names).seen t).Agrees := by
    refine seen_agrees planned.consistent (destructions ▸ housed) measured ?_
    rw [same]
    exact unrepeated.mono (issued_after_mono _ within)
  have coherent := coherent agrees
  rwa [limit] at coherent

/-- Throughout the simulation of an accepted configuration pools, owners and usage windows tell of
the same workers whenever a tick has been entered, and a tick parts them only where it forgets a kind.
So no destruction fails, and a request only for want of capacity. -/
theorem run_coherent (ticks : Nat)
    (unrepeated : Cloud.Unrepeated names ((initial config capacity names).after ticks).cloud.issued) :
    run config capacity names ticks =
        .ok ((List.range ticks).map (initial config capacity names).frame) ∧
      (initial config capacity names).cloud.Agrees ∧
      ∀ t < ticks, (initial config capacity names).Coherent capacity t :=
  ⟨run_eq_ok accepted capacity names ticks, initial_coherent accepted unrepeated⟩

end Main

/-- Two workers leave, one comes, and its kind is forgotten while it still runs. -/
theorem run_coherent_brief :
    run briefConfiguration (some 1) Identifier.serial 5 =
        .ok ((List.range 5).map (initial briefConfiguration (some 1) Identifier.serial).frame) ∧
      (initial briefConfiguration (some 1) Identifier.serial).cloud.Agrees ∧
      ∀ t < 5, (initial briefConfiguration (some 1) Identifier.serial).Coherent (some 1) t := by
  have accepted : brief.check = .ok briefConfiguration := by rfl
  exact run_coherent accepted 5 (by decide +kernel)

end Simulation

end ElasticPools
