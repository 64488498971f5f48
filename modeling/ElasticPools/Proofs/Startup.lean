import ElasticPools.Configuration
import ElasticPools.Proofs.Membership

/-!
How a cloud starts. An accepted configuration names no kind twice, so every kind that it names is
registered once and gets the workers that were planned for it.
-/

set_option autoImplicit false

namespace ElasticPools

variable {α : Type}

section Checking

variable [Quantity α]

theorem KindDraft.checkAll_distinct {seen : List Kind} {position : Nat} {drafts : List (KindDraft α)}
    {plans : List (KindPlan α)} (accepted : checkAll seen position drafts = .ok plans) :
    (plans.map (·.kind)).Nodup ∧ ∀ kind ∈ plans.map (·.kind), kind ∉ seen := by
  induction drafts generalizing seen position plans with
  | nil =>
    cases accepted
    exact ⟨List.nodup_nil, nofun⟩
  | cons draft drafts ih =>
    unfold checkAll at accepted
    split at accepted
    · cases accepted
    · next plan _ =>
      split at accepted
      · cases accepted
      · next unseen =>
        split at accepted
        · cases accepted
        · next rest checked =>
          cases accepted
          obtain ⟨distinct, apart⟩ := ih checked
          refine ⟨?_, ?_⟩
          · rw [List.map_cons, List.nodup_cons]
            exact ⟨fun again => apart plan.kind again List.mem_cons_self, distinct⟩
          · intro kind member
            rw [List.map_cons] at member
            rcases List.mem_cons.mp member with rfl | member
            · exact unseen
            · exact fun old => apart kind member (List.mem_cons_of_mem _ old)

/-- An accepted configuration has a sound policy and names no kind twice. -/
theorem Draft.check_sound {d : Draft α} {config : Configuration α} (accepted : d.check = .ok config) :
    config.policy.Sound ∧ (config.kinds.map (·.kind)).Nodup := by
  unfold Draft.check at accepted
  split at accepted
  · cases accepted
  · next sound =>
    split at accepted
    · cases accepted
    · next plans checked =>
      cases accepted
      refine ⟨?_, (KindDraft.checkAll_distinct checked).1⟩
      unfold PolicyDraft.violation? at sound
      split at sound
      · cases sound
      · next none => exact none

end Checking

namespace Cloud

variable {c : Cloud α}

theorem repeat_spawn (kind : Kind) (n : Nat) (c : Cloud α) :
    n.repeat (·.spawn kind) c = (List.replicate n kind).foldl spawn c := by
  induction n with
  | zero => rfl
  | succ n ih =>
    rw [List.replicate_succ', List.foldl_append, ← ih]
    rfl

/-- Starts the first workers of a kind. -/
def startKind (c : Cloud α) (q : Kind × KindPlan α) : Cloud α :=
  q.2.initialWorkers.repeat (·.spawn q.1) { c with registry := c.registry.register q.1 }

theorem startKind_supplied (c : Cloud α) (q : Kind × KindPlan α) :
    Supplied c (c.startKind q) q.2.initialWorkers := by
  have supplied := foldl_spawn_supplied (List.replicate q.2.initialWorkers q.1)
    { c with registry := c.registry.register q.1 }
  rw [← repeat_spawn, List.length_replicate] at supplied
  exact ⟨supplied.names, supplied.issued, supplied.creations, supplied.destructions⟩

theorem foldl_startKind_supplied (plans : List (Kind × KindPlan α)) (c : Cloud α) :
    ∃ n, Supplied c (plans.foldl startKind c) n := by
  induction plans generalizing c with
  | nil => exact ⟨0, rfl, rfl, rfl, rfl⟩
  | cons q plans ih =>
    obtain ⟨n, rest⟩ := ih (c.startKind q)
    exact ⟨_, (startKind_supplied c q).trans rest⟩

/-- What registering some kinds and starting their first workers does to pools. -/
structure Started (c d : Cloud α) (plans : List (Kind × KindPlan α)) : Prop where
  consistent : d.Consistent
  planned : ∀ q ∈ plans, ∃ ids, d.registry.ids? q.1 = some ids ∧ ids.length = q.2.initialWorkers
  others : ∀ k, k ∉ plans.map (·.1) → d.registry.ids? k = c.registry.ids? k

/-- Registering a kind adds no worker to any pool. -/
theorem Consistent.register (consistent : c.Consistent) (kind : Kind) :
    Consistent { c with registry := c.registry.register kind } := by
  have same : ∀ {k ids}, (c.registry.register kind).ids? k = some ids →
      ids = (c.registry.ids? k).getD [] := by
    intro k ids shown
    rw [Registry.ids?_register] at shown
    split at shown
    · exact (Option.some.inj shown).symm
    · rw [shown, Option.getD_some]
  refine ⟨?_, ?_, consistent.issued⟩
  · intro k ids shown
    rw [same shown]
    exact consistent.nodup_getD
  · intro k ids shown w inside
    rw [same shown] at inside
    exact consistent.owned_getD inside

theorem startKind_started (consistent : c.Consistent) (q : Kind × KindPlan α)
    (unrepeated : Unrepeated c.names (c.startKind q).issued)
    (unknown : c.registry.ids? q.1 = none) : Started c (c.startKind q) [q] := by
  have registered : (c.registry.register q.1).ids? q.1 = some [] := by
    rw [Registry.ids?_register, if_pos rfl, unknown, Option.getD_none]
  have length : (List.replicate q.2.initialWorkers q.1).length = q.2.initialWorkers :=
    List.length_replicate
  rw [(startKind_supplied c q).issued, ← length] at unrepeated
  have spawned := foldl_spawn (consistent.register q.1) unrepeated
  rw [startKind, repeat_spawn]
  constructor
  case consistent => exact spawned.consistent
  case planned =>
    intro p member
    rw [List.mem_singleton.mp member]
    have known := spawned.known q.1 [] registered
    refine ⟨_, known, ?_⟩
    rw [List.nil_append, length_namesFor, List.count_replicate_self]
  case others =>
    intro k absent
    rw [List.map_singleton, List.mem_singleton] at absent
    have unchanged : (c.registry.register q.1).ids? k = c.registry.ids? k := by
      rw [Registry.ids?_register, if_neg (Ne.symm absent)]
    refine (ids?_foldl_spawn_of_not_mem fun member => ?_).trans unchanged
    exact absent (List.eq_of_mem_replicate member)

theorem foldl_startKind (consistent : c.Consistent) (plans : List (Kind × KindPlan α))
    (unrepeated : Unrepeated c.names (plans.foldl startKind c).issued)
    (distinct : (plans.map (·.1)).Nodup)
    (unknown : ∀ k ∈ plans.map (·.1), c.registry.ids? k = none) :
    Started c (plans.foldl startKind c) plans := by
  induction plans generalizing c with
  | nil => exact ⟨consistent, nofun, fun _ _ => rfl⟩
  | cons q plans ih =>
    rw [List.map_cons, List.nodup_cons] at distinct
    obtain ⟨_, supplied⟩ := foldl_startKind_supplied plans (c.startKind q)
    have one := startKind_started consistent q
      (unrepeated.mono (Nat.le_trans (Nat.le_add_right ..) (Nat.le_of_eq supplied.issued.symm)))
      (unknown q.1 List.mem_cons_self)
    rw [List.foldl_cons, ← (startKind_supplied c q).names] at unrepeated
    have rest := ih one.consistent unrepeated distinct.2 (by
      intro k member
      have other : k ∉ [q].map (·.1) := by
        rw [List.map_singleton, List.mem_singleton]
        rintro rfl
        exact distinct.1 member
      rw [one.others k other]
      exact unknown k (List.mem_cons_of_mem _ member))
    constructor
    case consistent => exact rest.consistent
    case planned =>
      intro p member
      rcases List.mem_cons.mp member with rfl | member
      · rw [List.foldl_cons, rest.others _ distinct.1]
        exact one.planned _ List.mem_cons_self
      · exact rest.planned p member
    case others =>
      intro k absent
      rw [List.map_cons, List.mem_cons, not_or] at absent
      rw [List.foldl_cons, rest.others k absent.2]
      refine one.others k ?_
      rw [List.map_singleton, List.mem_singleton]
      exact absent.1

/-- A cloud in which every planned kind, and no other, has the workers that were planned for it. -/
structure AsPlanned (c : Cloud α) (plans : List (KindPlan α)) : Prop where
  consistent : c.Consistent
  planned : ∀ plan ∈ plans, ∃ ids,
    c.registry.ids? plan.kind = some ids ∧ ids.length = plan.initialWorkers
  others : ∀ k, k ∉ plans.map (·.kind) → c.registry.ids? k = none

variable {plans : List (KindPlan α)} {period : Nat} {capacity : Option Nat}
  {names : Nat → WorkerId}

theorem new_plans_of_mem (distinct : (plans.map (·.kind)).Nodup) {plan : KindPlan α}
    (member : plan ∈ plans) :
    (plan.kind, plan) ∈ (Cloud.new plans period capacity names).plans.toList := by
  rw [Std.ExtTreeMap.mem_toList_iff_getElem?_eq_some]
  refine Std.ExtTreeMap.getElem?_ofList_of_mem (Std.compare_eq_iff_eq.mpr rfl) ?_
    (List.mem_map.mpr ⟨plan, member, rfl⟩)
  rw [List.pairwise_map]
  exact (List.pairwise_map.mp distinct).imp fun other same => other (Std.compare_eq_iff_eq.mp same)

theorem new_plans_of_not_mem {k : Kind} (absent : k ∉ plans.map (·.kind)) :
    k ∉ (Cloud.new plans period capacity names).plans.toList.map (·.1) := by
  rw [Std.ExtTreeMap.map_fst_toList_eq_keys, Std.ExtTreeMap.mem_keys,
    ← Std.ExtTreeMap.isSome_getElem?_iff_mem, Cloud.new,
    Std.ExtTreeMap.getElem?_ofList_of_contains_eq_false]
  · exact nofun
  · rw [List.map_map, Bool.eq_false_iff, ne_eq, List.contains_iff_mem]
    exact absent

theorem bootstrap_supplied (plans : List (KindPlan α)) (period : Nat) (capacity : Option Nat)
    (names : Nat → WorkerId) :
    ∃ n, Supplied (Cloud.new plans period capacity names)
      (Cloud.new plans period capacity names).bootstrap n :=
  foldl_startKind_supplied _ _

theorem ids?_new (k : Kind) : (Cloud.new plans period capacity names).registry.ids? k = none := by
  rw [Cloud.new, Registry.ids?, Registry.pool?_empty, Option.map_none]

theorem new_consistent : (Cloud.new plans period capacity names).Consistent := by
  have unowned : ∀ w, (Cloud.new plans period capacity names).owner? w = none := by
    intro w
    rw [Cloud.new, owner?, Std.ExtTreeMap.getElem?_empty]
  refine ⟨fun k ids shown => ?_, fun k ids shown => ?_, fun w k owner => ?_⟩
  · rw [ids?_new] at shown
    cases shown
  · rw [ids?_new] at shown
    cases shown
  · rw [unowned] at owner
    cases owner

/-- Of two plans for one kind only the later one is left, so no kind is started twice. -/
theorem bootstrap_started
    (unrepeated : Unrepeated names (Cloud.new plans period capacity names).bootstrap.issued) :
    Started (Cloud.new plans period capacity names)
      (Cloud.new plans period capacity names).bootstrap
      (Cloud.new plans period capacity names).plans.toList := by
  have kinds : ((Cloud.new plans period capacity names).plans.toList.map (·.1)).Nodup := by
    rw [Std.ExtTreeMap.map_fst_toList_eq_keys]
    exact Std.ExtTreeMap.nodup_keys
  exact foldl_startKind new_consistent _ unrepeated kinds fun k _ => ids?_new k

theorem bootstrap_asPlanned (distinct : (plans.map (·.kind)).Nodup)
    (unrepeated : Unrepeated names (Cloud.new plans period capacity names).bootstrap.issued) :
    AsPlanned (Cloud.new plans period capacity names).bootstrap plans := by
  have started := bootstrap_started unrepeated
  refine ⟨started.consistent, ?_, ?_⟩
  · intro plan member
    exact started.planned _ (new_plans_of_mem distinct member)
  · intro k absent
    exact (started.others k (new_plans_of_not_mem absent)).trans (ids?_new k)

end Cloud

end ElasticPools
