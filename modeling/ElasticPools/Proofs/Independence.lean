import ElasticPools.Proofs.Likeness
import ElasticPools.Proofs.Load
import ElasticPools.Proofs.Starvation

/-!
Kinds do not meddle with each other. They share the tables of the controller and the queues of the
cloud, and yet, as long as there is room for all, each kind fares as it would by itself. The reason
is that all that a tick does for a kind, and all that the next tick finds of it, follows from what
the tick finds of that kind.
-/

set_option autoImplicit false

namespace ElasticPools

variable {α : Type}

section Checking

variable [Quantity α]

/-- Where a kind stands in the list matters only to what is said of a fault. -/
theorem KindDraft.phaseViolation?_move {position other : Nat} {last : Option Nat}
    {phases : List (Phase α)} (sound : phaseViolation? position last phases = none) :
    phaseViolation? other last phases = none := by
  induction phases generalizing last with
  | nil => rfl
  | cons phase rest ih =>
    unfold phaseViolation? at sound ⊢
    split at sound
    · cases sound
    · next load =>
      split at sound
      · cases sound
      · next order => rw [if_neg load, if_neg order, ih sound]

theorem KindDraft.check_move {d : KindDraft α} {position other : Nat} {plan : KindPlan α}
    (accepted : d.check position = .ok plan) : d.check other = .ok plan := by
  unfold check at accepted ⊢
  split at accepted
  · cases accepted
  · split at accepted
    · cases accepted
    · next sound =>
      rw [phaseViolation?_move sound]
      exact accepted

theorem KindDraft.of_checkAll {seen : List Kind} {position : Nat} {drafts : List (KindDraft α)}
    {plans : List (KindPlan α)} (accepted : checkAll seen position drafts = .ok plans)
    {plan : KindPlan α} (member : plan ∈ plans) :
    ∃ draft ∈ drafts, ∃ place, draft.check place = .ok plan := by
  induction drafts generalizing seen position plans with
  | nil =>
    cases accepted
    cases member
  | cons draft drafts ih =>
    unfold checkAll at accepted
    split at accepted
    · cases accepted
    · next first checked =>
      split at accepted
      · cases accepted
      · split at accepted
        · cases accepted
        · next rest others =>
          cases accepted
          rcases List.mem_cons.mp member with rfl | member
          · exact ⟨draft, List.mem_cons_self, position, checked⟩
          · obtain ⟨found, inside, place, checked⟩ := ih others member
            exact ⟨found, List.mem_cons_of_mem _ inside, place, checked⟩

/-- A configuration cut down to one kind. -/
def Configuration.only (config : Configuration α) (plan : KindPlan α) : Configuration α :=
  { config with kinds := [plan] }

/-- Each kind of an accepted configuration is accepted by itself. -/
theorem Draft.check_only {d : Draft α} {config : Configuration α} (accepted : d.check = .ok config)
    {plan : KindPlan α} (member : plan ∈ config.kinds) :
    ∃ draft ∈ d.kinds, Draft.check { d with kinds := [draft] } = .ok (config.only plan) := by
  unfold Draft.check at accepted
  split at accepted
  · cases accepted
  · next sound =>
    split at accepted
    · cases accepted
    · next plans checked =>
      cases accepted
      obtain ⟨draft, inside, place, alone⟩ := KindDraft.of_checkAll checked member
      refine ⟨draft, inside, ?_⟩
      simp only [Draft.check, sound, KindDraft.checkAll, KindDraft.check_move alone,
        List.not_mem_nil, if_false]
      rfl

end Checking

/-- What a tick finds of a kind: its target, and its pool but for the names of the workers. -/
structure View (α : Type) where
  target : Option Nat
  pool : Option (List (Slot α))

namespace Simulation

variable [Quantity α]

/-- What tick `t + 1` finds of a kind. -/
def view (s : Simulation α) (kind : Kind) (t : Nat) : View α :=
  ⟨(s.after t).controller.targets.target? kind,
    (s.seen t).slots (s.after t).controller.streaks kind⟩

/-- A simulation in which no machine gets the name of another and no call is refused, for so many
ticks. -/
structure Smooth (s : Simulation α) (ticks : Nat) : Prop where
  consistent : s.cloud.Consistent
  unrepeated : Cloud.Unrepeated s.cloud.names (s.after ticks).cloud.issued
  accepted : ∀ t < ticks, (s.frame t).report.failures = []

/-- What two simulations need to have in common for a kind to fare the same in both. -/
structure Common (s s' : Simulation α) (kind : Kind) : Prop where
  policy : s'.controller.policy = s.controller.policy
  window : s'.cloud.window = s.cloud.window
  plan : s'.cloud.plans[kind]? = s.cloud.plans[kind]?

section One

variable {s : Simulation α} {t : Nat} {kind : Kind}

/-- A kind that is not registered, or is forgotten, is not found by the next tick. -/
theorem slots_succ_none
    (gone : (s.seen t).registry.pool? kind = none ∨ kind ∈ (s.frame t).report.forgotten) :
    (s.seen (t + 1)).slots (s.after (t + 1)).controller.streaks kind = none := by
  have none : (s.seen (t + 1)).registry.ids? kind = none := by
    refine ids?_seen_succ_none (gone.imp_left fun absent => ?_)
    rw [Registry.ids?, absent, Option.map_none]
  rw [Registry.ids?, Option.map_eq_none_iff] at none
  rw [Cloud.slots, none, Option.map_none]

theorem requested_count (s : Simulation α) {workers : List Worker} {r : PoolReport α}
    (dealt : Controller.PoolTick (s.after t).controller (s.event t) (s.after (t + 1)).controller kind
      workers r) :
    (s.frame t).report.requested.count kind = r.requested := by
  rw [dealt.requested, ← Call.count_requested, (s.ticked t).requested]

/-- What the next tick finds of a pool: those that this tick leaves, with the load that falls to
them, and newcomers for the requests that this tick made. -/
theorem slots_succ (consistent : s.cloud.Consistent)
    (unrepeated : Cloud.Unrepeated s.cloud.names (s.after (t + 1 + 1)).cloud.issued)
    {workers : List Worker} (found : (s.seen t).registry.pool? kind = some workers)
    (kept : kind ∉ (s.frame t).report.forgotten) :
    (s.seen (t + 1)).slots (s.after (t + 1)).controller.streaks kind =
      some (Past.load s.cloud.window (s.cloud.loadAt kind (t + 1 + 1))
        ((Controller.remaining workers (s.frame t).report.destroyed).map
            (fun v => (s.seen t).past (s.after (t + 1)).controller.streaks v.id) ++
          List.replicate ((s.frame t).report.requested.count kind) Past.fresh)) := by
  have before := after_consistent consistent
    (unrepeated.mono (s.issued_after_mono (Nat.le_succ (t + 1))))
  have shown : (s.after (t + 1)).cloud.registry.ids? kind = some (workers.map (·.id)) := by
    rw [s.ids?_after, if_neg kept, Registry.ids?_of_pool? found]
  have unseen : ∀ w ∈ Cloud.namesFor (s.after (t + 1)).cloud.names kind
      (s.after (t + 1)).cloud.issued (s.after (t + 1)).cloud.creations,
      (s.after (t + 1)).controller.streaks.count? w = none := by
    intro w member
    rw [s.names_after, s.issued_after, s.creations_after] at member
    exact ((s.ticked t).absentWorker w
      (namesFor_unseen consistent unrepeated member (Nat.le_refl t))).1
  have setting := s.setting_after (t + 1)
  have window : (s.after (t + 1)).cloud.window = s.cloud.window :=
    congrArg Cloud.Setting.window setting
  have load := Cloud.loadAt_of_setting setting kind (t + 1 + 1)
  have past : (s.after (t + 1)).cloud.past (s.after (t + 1)).controller.streaks =
      (s.seen t).past (s.after (t + 1)).controller.streaks := by
    rw [s.cloud_after t]
    rfl
  have stays : ((workers.map (·.id)).filter (· ∉ (s.frame t).report.destroyed)).map
        ((s.seen t).past (s.after (t + 1)).controller.streaks) =
      (Controller.remaining workers (s.frame t).report.destroyed).map
        fun v => (s.seen t).past (s.after (t + 1)).controller.streaks v.id := by
    rw [List.filter_map, List.map_map, Controller.remaining]
    simp [Function.comp_def]
  have slots := Cloud.slots_advance _ before (unrepeated_queued unrepeated) shown unseen (t + 1 + 1)
  rw [window, load, past, s.destructions_after, s.creations_after, stays] at slots
  rw [seen]
  exact slots

end One

section Two

variable {s s' : Simulation α} {t ticks : Nat} {kind : Kind}

theorem Smooth.unique (smooth : s.Smooth ticks) (within : t < ticks) :
    (s.seen t).registry.Unique :=
  (seen_consistent smooth.consistent (smooth.unrepeated.mono (s.issued_after_mono within))).unique

section Matching

variable (common : s.Common s' kind) (smooth : s.Smooth ticks) (smooth' : s'.Smooth ticks)
  (within : t < ticks) (same : s.view kind t = s'.view kind t) {workers workers' : List Worker}
  (found : (s.seen t).registry.pool? kind = some workers)
  (found' : (s'.seen t).registry.pool? kind = some workers')

include same found found'

/-- The pools that two equal views show match worker by worker. -/
theorem slots_of_view : List.Forall₂ (fun v v' =>
    (s.seen t).slot (s.after t).controller.streaks v =
      (s'.seen t).slot (s'.after t).controller.streaks v') workers workers' := by
  have slots := congrArg View.pool same
  rwa [view, view, Cloud.slots, Cloud.slots, found, found', Option.map_some, Option.map_some,
    Option.some.injEq, ← List.forall₂_eq_eq_eq, List.forall₂_map_left_iff,
    List.forall₂_map_right_iff] at slots

include common smooth smooth' within

theorem matched_of_view : Controller.Matched (s.after t).controller (s'.after t).controller
    (s.event t) (s'.event t) kind workers workers' := by
  constructor
  case policy => rw [s.policy_after, s'.policy_after, common.policy]
  case target => exact congrArg View.target same
  case workers =>
    refine (slots_of_view same found found').imp fun v v' slot => ?_
    obtain ⟨busy, usage, streak⟩ := Cloud.slot_inj slot
    refine ⟨busy, ?_, streak⟩
    show (s.seen t).utilization v.id = (s'.seen t).utilization v'.id
    rw [Cloud.utilization, Cloud.utilization, usage]
  case unique => exact smooth.unique within
  case unique' => exact smooth'.unique within
  case accepted => exact smooth.accepted t within
  case accepted' => exact smooth'.accepted t within

end Matching

/-- Equal views show a pool both or neither. -/
theorem pool?_of_view (same : s.view kind t = s'.view kind t) :
    ((s.seen t).registry.pool? kind = none ∧ (s'.seen t).registry.pool? kind = none) ∨
      ∃ workers workers', (s.seen t).registry.pool? kind = some workers ∧
        (s'.seen t).registry.pool? kind = some workers' := by
  have pools := congrArg View.pool same
  rw [view, view, Cloud.slots, Cloud.slots] at pools
  cases found : (s.seen t).registry.pool? kind with
  | none =>
    rw [found, Option.map_none, eq_comm, Option.map_eq_none_iff] at pools
    exact Or.inl ⟨rfl, pools⟩
  | some workers =>
    rw [found, Option.map_some, eq_comm, Option.map_eq_some_iff] at pools
    obtain ⟨workers', found', _⟩ := pools
    exact Or.inr ⟨workers, workers', rfl, found'⟩

variable (common : s.Common s' kind) (smooth : s.Smooth ticks) (smooth' : s'.Smooth ticks)

include common smooth smooth'

/-- Ticks that find the same of a kind report the same of it. -/
theorem report_of_view (within : t < ticks) (same : s.view kind t = s'.view kind t) :
    (s.frame t).report.pool? kind = (s'.frame t).report.pool? kind ∧
      (kind ∈ (s.frame t).report.forgotten ↔ kind ∈ (s'.frame t).report.forgotten) := by
  have ticked := s.ticked t
  have ticked' := s'.ticked t
  rcases pool?_of_view same with ⟨absent, absent'⟩ | ⟨workers, workers', found, found'⟩
  · have unlisted : (s.frame t).report.pool? kind = none := ticked.pool?_of_absent absent
    have unlisted' : (s'.frame t).report.pool? kind = none := ticked'.pool?_of_absent absent'
    refine ⟨unlisted.trans unlisted'.symm, iff_of_false ?_ ?_⟩
    · exact fun forgotten => ticked.forgets kind forgotten absent
    · exact fun forgotten => ticked'.forgets kind forgotten absent'
  · have matched := matched_of_view common smooth smooth' within same found found'
    obtain ⟨r, reported, dealt⟩ := ticked.pool kind workers found
    obtain ⟨r', reported', dealt'⟩ := ticked'.pool kind workers' found'
    have shown : (s.frame t).report.pool? kind = some r := ticked.pool?_of_registered reported dealt
    have shown' : (s'.frame t).report.pool? kind = some r' :=
      ticked'.pool?_of_registered reported' dealt'
    refine ⟨?_, matched.forgotten_iff ticked ticked' dealt dealt'⟩
    rw [shown, shown', matched.report_eq ticked ticked' dealt dealt']

/-- Ticks that find the same of a kind leave the same of it to the next ones. -/
theorem view_succ (within : t + 1 < ticks) (same : s.view kind t = s'.view kind t) :
    s.view kind (t + 1) = s'.view kind (t + 1) := by
  have now : t < ticks := Nat.lt_of_succ_lt within
  have ticked := s.ticked t
  have ticked' := s'.ticked t
  rw [view, view, View.mk.injEq]
  rcases pool?_of_view same with ⟨absent, absent'⟩ | ⟨workers, workers', found, found'⟩
  · refine ⟨?_, ?_⟩
    · rw [(ticked.absentKind kind absent).1, (ticked'.absentKind kind absent').1]
    · rw [slots_succ_none (Or.inl absent), slots_succ_none (Or.inl absent')]
  have matched := matched_of_view common smooth smooth' now same found found'
  obtain ⟨r, reported, dealt⟩ := ticked.pool kind workers found
  obtain ⟨r', reported', dealt'⟩ := ticked'.pool kind workers' found'
  refine ⟨matched.target_eq ticked ticked' dealt dealt', ?_⟩
  have forgotten := matched.forgotten_iff ticked ticked' dealt dealt'
  by_cases gone : kind ∈ (s.frame t).report.forgotten
  · rw [slots_succ_none (Or.inr gone), slots_succ_none (Or.inr (forgotten.mp gone))]
  · have remain : (Controller.remaining workers (s.frame t).report.destroyed).map
          (fun v => (s.seen t).past (s.after (t + 1)).controller.streaks v.id) =
        (Controller.remaining workers' (s'.frame t).report.destroyed).map
          fun v => (s'.seen t).past (s'.after (t + 1)).controller.streaks v.id := by
      refine map_eq_of_forall₂ (matched.remain ticked ticked' dealt dealt'
        (slots_of_view same found found')) fun v v' pair => ?_
      obtain ⟨_, usage, _⟩ := Cloud.slot_inj pair.1
      rw [Cloud.past, Cloud.past, usage, pair.2.streak]
    have requested : (s.frame t).report.requested.count kind =
        (s'.frame t).report.requested.count kind := by
      rw [s.requested_count dealt, s'.requested_count dealt',
        matched.requested_eq ticked ticked' dealt dealt']
    have load := Cloud.loadAt_congr common.plan (t + 1 + 1)
    rw [slots_succ smooth.consistent
        (smooth.unrepeated.mono (s.issued_after_mono within)) found gone,
      slots_succ smooth'.consistent (smooth'.unrepeated.mono (s'.issued_after_mono within)) found'
        (mt forgotten.mpr gone), remain, requested, common.window, load]

/-- Induction over the ticks. -/
theorem view_eq (same : s.view kind 0 = s'.view kind 0) (within : t < ticks) :
    s.view kind t = s'.view kind t := by
  induction t with
  | zero => exact same
  | succ t ih => exact view_succ common smooth smooth' within (ih (Nat.lt_of_succ_lt within))

end Two

section Main

variable {d : Draft α} {config : Configuration α} (accepted : d.check = .ok config)
  {names : Nat → WorkerId} {ticks : Nat}

include accepted

theorem initial_smooth
    (unrepeated : Cloud.Unrepeated names ((initial config none names).after ticks).cloud.issued) :
    (initial config none names).Smooth ticks := by
  have planned : Cloud.AsPlanned (initial config none names).cloud config.kinds :=
    initial_asPlanned accepted (unrepeated.mono (issued_after_mono _ (Nat.zero_le ticks)))
  refine ⟨planned.consistent, ?_, fun t within => ?_⟩
  · rwa [(initial_cloud config none names).1]
  · exact ((initial_coherent accepted unrepeated).2 t within).unlimited rfl

theorem initial_plan (capacity : Option Nat) (names : Nat → WorkerId) {plan : KindPlan α}
    (member : plan ∈ config.kinds) :
    (initial config capacity names).cloud.plans[plan.kind]? = some plan := by
  have setting : (initial config capacity names).cloud.setting =
      (Cloud.new config.kinds config.tickPeriod capacity names).setting :=
    Cloud.bootstrap_setting ..
  have plans : (initial config capacity names).cloud.plans =
      (Cloud.new config.kinds config.tickPeriod capacity names).plans :=
    congrArg Cloud.Setting.plans setting
  rw [plans, ← Std.ExtTreeMap.mem_toList_iff_getElem?_eq_some]
  exact Cloud.new_plans_of_mem (Draft.check_sound accepted).2 member

/-- The first tick finds the workers that were planned, with the load of the first tick. -/
theorem view_initial {plan : KindPlan α} (member : plan ∈ config.kinds) {capacity : Option Nat}
    (unrepeated : Cloud.Unrepeated names
      ((initial config capacity names).after (0 + 1)).cloud.issued) :
    (initial config capacity names).view plan.kind 0 =
      ⟨none, some (Past.load (Cloud.windowOf config.tickPeriod) (plan.loadAt 1)
        (List.replicate plan.initialWorkers Past.fresh))⟩ := by
  obtain ⟨same, creations, destructions⟩ := initial_cloud config capacity names
  have earlier : Cloud.Unrepeated names (initial config capacity names).cloud.issued :=
    unrepeated.mono ((initial config capacity names).issued_after_mono (Nat.zero_le (0 + 1)))
  have planned : Cloud.AsPlanned (initial config capacity names).cloud config.kinds :=
    initial_asPlanned accepted earlier
  obtain ⟨ids, shown, length⟩ := planned.planned plan member
  have unrepeated' : Cloud.Unrepeated (initial config capacity names).cloud.names
      ((initial config capacity names).cloud.issued +
        (initial config capacity names).cloud.creations.length) := by
    rw [same, creations]
    exact earlier
  have slots := Cloud.slots_advance .empty planned.consistent unrepeated' shown
    (fun w _ => IdleStreaks.count?_empty w) 1
  have window : (initial config capacity names).cloud.window = Cloud.windowOf config.tickPeriod :=
    congrArg Cloud.Setting.window (Cloud.bootstrap_setting ..)
  have load : (initial config capacity names).cloud.loadAt plan.kind 1 = plan.loadAt 1 := by
    rw [Cloud.loadAt, initial_plan accepted capacity names member]
  have pasts : ids.map ((initial config capacity names).cloud.past .empty) =
      List.replicate plan.initialWorkers Past.fresh := by
    rw [← length, ← List.map_const']
    apply List.map_congr_left
    intro w inside
    have runs := Cloud.mem_owners_iff.mpr ⟨plan.kind, planned.consistent.owned_of_mem shown inside⟩
    rw [Cloud.past, IdleStreaks.count?_empty]
    exact congrArg (Past.mk · none) (Cloud.bootstrap_usage _ _ _ _ runs)
  rw [window, load, creations, destructions] at slots
  have stays : ids.filter (· ∉ ([] : List WorkerId)) = ids := by simp
  rw [stays, pasts, List.count_nil, List.replicate_zero, List.append_nil] at slots
  exact congrArg₂ View.mk (Targets.target?_empty plan.kind) slots

/-- Without a limit to its machines, a simulation deals with each of its kinds as the simulation of
that kind alone does: reports say the same of it, tick by tick, and forget it on the same tick. -/
theorem run_independent {plan : KindPlan α} (member : plan ∈ config.kinds) {names' : Nat → WorkerId}
    (unrepeated : Cloud.Unrepeated names ((initial config none names).after ticks).cloud.issued)
    (unrepeated' : Cloud.Unrepeated names'
      ((initial (config.only plan) none names').after ticks).cloud.issued) :
    (∃ draft : Draft α, draft.check = .ok (config.only plan)) ∧
      run config none names ticks =
        .ok ((List.range ticks).map (initial config none names).frame) ∧
      run (config.only plan) none names' ticks =
        .ok ((List.range ticks).map (initial (config.only plan) none names').frame) ∧
      ∀ t < ticks,
        ((initial config none names).frame t).report.pool? plan.kind =
            ((initial (config.only plan) none names').frame t).report.pool? plan.kind ∧
          (plan.kind ∈ ((initial config none names).frame t).report.forgotten ↔
            plan.kind ∈ ((initial (config.only plan) none names').frame t).report.forgotten) := by
  obtain ⟨draft, _, alone⟩ := Draft.check_only accepted member
  refine ⟨⟨_, alone⟩, run_eq_ok accepted none names ticks, run_eq_ok alone none names' ticks,
    fun t within => ?_⟩
  have smooth := initial_smooth accepted unrepeated
  have smooth' := initial_smooth alone unrepeated'
  have only : plan ∈ (config.only plan).kinds := List.mem_singleton_self plan
  have common : (initial config none names).Common (initial (config.only plan) none names')
      plan.kind := by
    constructor
    case policy => rfl
    case window =>
      have setting := Cloud.bootstrap_setting config.kinds config.tickPeriod none names
      have setting' := Cloud.bootstrap_setting [plan] config.tickPeriod none names'
      exact (congrArg Cloud.Setting.window setting').trans
        (congrArg Cloud.Setting.window setting).symm
    case plan => rw [initial_plan accepted none names member, initial_plan alone none names' only]
  have some : 0 + 1 ≤ ticks := Nat.lt_of_le_of_lt (Nat.zero_le t) within
  have same : (initial config none names).view plan.kind 0 =
      (initial (config.only plan) none names').view plan.kind 0 := by
    rw [view_initial accepted member (unrepeated.mono (issued_after_mono _ some)),
      view_initial alone only (unrepeated'.mono (issued_after_mono _ some))]
    rfl
  exact report_of_view common smooth smooth' within (view_eq common smooth smooth' same within)

end Main

/-- A kind that runs idle, beside one that needs more workers than it has. -/
def mixed : Draft Float :=
  { brief with kinds := brief.kinds ++ [⟨"serve", 1, [⟨2, 2.5⟩]⟩] }

def mixedConfiguration : Configuration Float :=
  { briefConfiguration with
    kinds := briefConfiguration.kinds ++ [⟨⟨"serve", by decide⟩, 1, [⟨2, 2.5⟩]⟩] }

theorem run_independent_mixed :
    (∃ draft : Draft Float, draft.check = .ok briefConfiguration) ∧
      run mixedConfiguration none Identifier.serial 4 =
        .ok ((List.range 4).map (initial mixedConfiguration none Identifier.serial).frame) ∧
      run briefConfiguration none Identifier.serial 4 =
        .ok ((List.range 4).map (initial briefConfiguration none Identifier.serial).frame) ∧
      ∀ t < 4,
        ((initial mixedConfiguration none Identifier.serial).frame t).report.pool?
              ⟨"build", by decide⟩ =
            ((initial briefConfiguration none Identifier.serial).frame t).report.pool?
              ⟨"build", by decide⟩ ∧
          (⟨"build", by decide⟩ ∈
              ((initial mixedConfiguration none Identifier.serial).frame t).report.forgotten ↔
            ⟨"build", by decide⟩ ∈
              ((initial briefConfiguration none Identifier.serial).frame t).report.forgotten) := by
  have accepted : mixed.check = .ok mixedConfiguration := by rfl
  exact run_independent accepted List.mem_cons_self (by decide +kernel) (by decide +kernel)

end Simulation

end ElasticPools
