import ElasticPools.Proofs.Conservation

/-!
Kinds without workers in a simulation. Where targets are kept, such a kind gets a burst on the first
tick, when it has no target yet; on any later tick the controller waits for that burst. If none of
it is on its way, nothing is ever requested for the kind again.
-/

set_option autoImplicit false

namespace ElasticPools

variable {α : Type} [Quantity α]

/-- A sound policy seeds at least one worker. -/
theorem Policy.Sound.seedSize_pos {p : Policy α} (sound : p.Sound) : 0 < p.seedSize :=
  sound.constants_pos.2.2.2

namespace Simulation

variable {s : Simulation α} {t : Nat}

theorem policy_after (s : Simulation α) (t : Nat) :
    (s.after t).controller.policy = s.controller.policy := by
  induction t with
  | zero => rfl
  | succ t ih => exact (s.ticked t).policy.trans ih

/-- After the first tick every kind that is still listed has a target. -/
theorem target_of_listed (tracking : s.controller.policy.tracking = true) {k : Kind}
    (listed : k ∈ (s.seen (t + 1)).registry.kinds) :
    (s.after (t + 1)).controller.targets.contains k = true := by
  obtain ⟨before, kept⟩ := of_mem_kinds_succ listed
  rw [← s.reported_kinds] at before
  obtain ⟨r, reported, rfl⟩ := List.mem_map.mp before
  obtain ⟨workers, _, dealt⟩ := (s.ticked t).registered reported
  rw [← s.policy_after t] at tracking
  exact (dealt.target tracking).mpr kept

/-- How many workers a tick requests for a kind that has none. -/
theorem asked_of_empty {r : PoolReport α} (reported : r ∈ (s.frame t).report.pools)
    (empty : r.size = 0) :
    (Call.answersFor r.kind (s.calls t)).length =
      if s.controller.policy.tracking then
        if (s.after t).controller.targets.contains r.kind then 0 else s.controller.policy.seedSize
      else 1 := by
  obtain ⟨workers, _, dealt⟩ := (s.ticked t).registered reported
  have none : workers.length = 0 := dealt.size.symm.trans empty
  have asked := dealt.asked
  rw [dealt.state, Controller.stateOf, none, s.policy_after t] at asked
  cases tracking : s.controller.policy.tracking with
  | false =>
    rw [tracking] at asked
    simpa [PoolState.classify, Policy.requests, tracking] using asked
  | true =>
    rw [tracking] at asked
    cases target : (s.after t).controller.targets.contains r.kind with
    | false =>
      rw [target] at asked
      simpa [Policy.requests] using asked
    | true =>
      rw [target] at asked
      simpa [PoolState.classify, Policy.requests, tracking] using asked

/-- Without workers and without requests a kind stays as it is. -/
theorem empty_succ {r : PoolReport α} (reported : r ∈ (s.frame t).report.pools)
    (empty : r.size = 0) (silent : Call.answersFor r.kind (s.calls t) = []) :
    ∃ q ∈ (s.frame (t + 1)).report.pools, q.kind = r.kind ∧ q.size = 0 := by
  obtain ⟨ids, shown, size, _⟩ := reported_ids reported
  have none : ids = [] := List.length_eq_zero_iff.mp (size.symm.trans empty)
  have kept : r.kind ∉ (s.frame t).report.forgotten := by
    obtain ⟨workers, _, dealt⟩ := (s.ticked t).registered reported
    intro forgotten
    obtain ⟨v, rfl⟩ :=
      Controller.of_stateOf_singleton (dealt.state.symm.trans (dealt.dropped forgotten).1)
    rw [dealt.size] at empty
    cases empty
  have unrequested : r.kind ∉ (s.frame t).report.requested := by
    have requested : Call.requested (s.calls t) = (s.frame t).report.requested :=
      (s.ticked t).requested
    rw [← requested, ← List.count_eq_zero, Call.count_requested, silent, List.countP_nil]
  have left : (s.after (t + 1)).cloud.registry.ids? r.kind = some [] := by
    rw [s.ids?_after, if_neg kept, shown, none]
  have stays : (s.seen (t + 1)).registry.ids? r.kind = some [] := by
    rw [ids?_seen_of_empty ?_ unrequested, left]
    rw [left]
    exact fun ids same => (Option.some.inj same).symm
  have listed : (r.kind, 0) ∈ (s.frame (t + 1)).report.pools.map fun r => (r.kind, r.size) :=
    (s.mem_reported).mpr ⟨[], stays, rfl⟩
  obtain ⟨q, reported, same⟩ := List.mem_map.mp listed
  exact ⟨q, reported, (Prod.mk.inj same).1, (Prod.mk.inj same).2⟩

/-- Induction over the ticks: while the pool is empty its kind has a target and waits. -/
theorem starves (tracking : s.controller.policy.tracking = true) {r : PoolReport α}
    (reported : r ∈ (s.frame (t + 1)).report.pools) (empty : r.size = 0) {u : Nat}
    (later : t + 1 ≤ u) :
    ∃ q ∈ (s.frame u).report.pools,
      q.kind = r.kind ∧ q.size = 0 ∧ Call.answersFor r.kind (s.calls u) = [] := by
  have silent : ∀ {n : Nat} {q : PoolReport α}, q ∈ (s.frame (n + 1)).report.pools → q.size = 0 →
      Call.answersFor q.kind (s.calls (n + 1)) = [] := by
    intro n q listed none
    have target : (s.after (n + 1)).controller.targets.contains q.kind = true := by
      apply target_of_listed tracking
      rw [← s.reported_kinds]
      exact List.mem_map.mpr ⟨q, listed, rfl⟩
    rw [← List.length_eq_zero_iff, asked_of_empty listed none, if_pos tracking, if_pos target]
  induction u with
  | zero => cases later
  | succ u ih =>
    rcases Nat.eq_or_lt_of_le later with now | later
    · rw [← Nat.succ.inj now]
      exact ⟨r, reported, rfl, empty, silent reported empty⟩
    obtain ⟨q, listed, same, none, waiting⟩ := ih (Nat.le_of_lt_succ later)
    rw [← same] at waiting
    obtain ⟨next, listed, again, none⟩ := empty_succ listed none waiting
    refine ⟨next, listed, again.trans same, none, ?_⟩
    rw [← same, ← again]
    exact silent listed none

/-- Whether an empty kind is provided for. Without targets every tick requests a worker for it. With
targets the first tick requests the seed; from the second tick on an empty kind stays empty, and
nothing is requested for it. -/
theorem requests_of_empty {d : Draft α} {config : Configuration α} (accepted : d.check = .ok config)
    (capacity : Option Nat) (names : Nat → WorkerId) :
    (∀ ticks, run config capacity names ticks =
        .ok ((List.range ticks).map (initial config capacity names).frame)) ∧
      ∀ t, ∀ r ∈ ((initial config capacity names).frame t).report.pools, r.size = 0 →
        (config.policy.tracking = false →
          (Call.answersFor r.kind ((initial config capacity names).calls t)).length = 1) ∧
        (config.policy.tracking = true → t = 0 → 0 < config.policy.seedSize ∧
          (Call.answersFor r.kind ((initial config capacity names).calls t)).length =
            config.policy.seedSize) ∧
        (config.policy.tracking = true → t ≠ 0 → ∀ u, t ≤ u →
          ∃ q ∈ ((initial config capacity names).frame u).report.pools,
            q.kind = r.kind ∧ q.size = 0 ∧
              Call.answersFor r.kind ((initial config capacity names).calls u) = []) := by
  refine ⟨run_eq_ok accepted capacity names, fun t r reported empty => ⟨?_, ?_, ?_⟩⟩
  · intro untracked
    rw [asked_of_empty reported empty]
    exact if_neg (Bool.eq_false_iff.mp untracked)
  · rintro tracking rfl
    refine ⟨(Draft.check_sound accepted).1.seedSize_pos, ?_⟩
    have blank : Targets.empty.contains r.kind = false := by
      rw [Targets.contains_eq, Targets.target?_empty, Option.isSome_none]
    rw [asked_of_empty reported empty]
    exact (if_pos tracking).trans (if_neg (Bool.eq_false_iff.mp blank))
  · intro tracking late u later
    cases t with
    | zero => exact absurd rfl late
    | succ t => exact starves tracking reported empty later

/-- One kind with a steady load and no worker, in a cloud that has no room. -/
def starved : Draft Float :=
  ⟨{ PolicyDraft.blank with profile := some .poolTracking }, [⟨"batch", 0, [⟨0, 5.0⟩]⟩]⟩

def starvedConfiguration : Configuration Float :=
  ⟨starved.policy.resolve, starved.policy.tickPeriod, [⟨⟨"batch", by decide⟩, 0, [⟨0, 5.0⟩]⟩]⟩

theorem requests_of_empty_starved :
    (∀ ticks, run starvedConfiguration (some 0) Identifier.serial ticks =
        .ok ((List.range ticks).map
          (initial starvedConfiguration (some 0) Identifier.serial).frame)) ∧
      ∀ t, ∀ r ∈ ((initial starvedConfiguration (some 0) Identifier.serial).frame t).report.pools,
        r.size = 0 →
        (starvedConfiguration.policy.tracking = false →
          (Call.answersFor r.kind
            ((initial starvedConfiguration (some 0) Identifier.serial).calls t)).length = 1) ∧
        (starvedConfiguration.policy.tracking = true → t = 0 →
          0 < starvedConfiguration.policy.seedSize ∧
          (Call.answersFor r.kind
            ((initial starvedConfiguration (some 0) Identifier.serial).calls t)).length =
              starvedConfiguration.policy.seedSize) ∧
        (starvedConfiguration.policy.tracking = true → t ≠ 0 → ∀ u, t ≤ u →
          ∃ q ∈ ((initial starvedConfiguration (some 0) Identifier.serial).frame u).report.pools,
            q.kind = r.kind ∧ q.size = 0 ∧ Call.answersFor r.kind
              ((initial starvedConfiguration (some 0) Identifier.serial).calls u) = []) := by
  have accepted : starved.check = .ok starvedConfiguration := by rfl
  exact requests_of_empty accepted (some 0) Identifier.serial

/-- A kind can be without workers, under load, and still be passed over. -/
theorem not_requests_of_empty :
    ¬ ∀ (d : Draft Float) (config : Configuration Float) (capacity : Option Nat)
      (names : Nat → WorkerId) (t : Nat) (r : PoolReport Float), d.check = .ok config →
      r ∈ ((initial config capacity names).frame t).report.pools → r.size = 0 →
      (0.0 : Float) < ((initial config capacity names).seen t).loadAt r.kind (t + 1) →
      Call.answersFor r.kind ((initial config capacity names).calls t) ≠ [] := by
  intro served
  have accepted : starved.check = .ok starvedConfiguration := by rfl
  obtain ⟨r, reported, empty, load, silent⟩ :
      ∃ r ∈ ((initial starvedConfiguration (some 0) Identifier.serial).frame 1).report.pools,
        r.size = 0 ∧ (0.0 : Float) <
          ((initial starvedConfiguration (some 0) Identifier.serial).seen 1).loadAt r.kind 2 ∧
        (Call.answersFor r.kind
          ((initial starvedConfiguration (some 0) Identifier.serial).calls 1)).length = 0 := by
    decide +kernel
  exact served starved _ (some 0) Identifier.serial 1 r accepted reported empty load
    (List.length_eq_zero_iff.mp silent)

end Simulation

end ElasticPools
