import ElasticPools.Proofs.Accounting
import ElasticPools.Proofs.Seeding

/-!
How many workers a tick requests for a kind. Only seeding takes a burst. Any other kind gets one
request at most, for a pool that is empty where no targets are kept, or for a growth check that calls
for one more worker. A growth check that is left out requests nothing.
-/

set_option autoImplicit false

namespace ElasticPools

variable {σ α : Type}

/-- What a tick requests for a kind of its report. -/
structure Budget (policy : Policy α) (e : Event α) (r : PoolReport α) : Prop where
  atMostOne : r.state ≠ .seeding → (Call.answersFor r.kind e.calls).length ≤ 1
  /-- An empty pool is filled one by one, unless its burst is on its way. -/
  empty : r.state = .empty →
    (Call.answersFor r.kind e.calls).length = if policy.tracking then 0 else 1
  forgotten : r.kind ∈ e.report.forgotten → Call.answersFor r.kind e.calls = []
  bereft : policy.skipGrowthAfterLoss = true → 0 < r.destroyed →
    Call.answersFor r.kind e.calls = []
  /-- A kind is bereft if one of its workers was destroyed. -/
  bereft_iff : e.registry.Unique → (0 < r.destroyed ↔ ∃ w ∈ e.report.destroyed, e.Lists r.kind w)
  growing : r.state.evaluatesGrowth = true →
    ((Call.answersFor r.kind e.calls).length = 1 ↔ r.growth = .durable ∨ r.growth = .transient)
  accepted : r.state ≠ .seeding → (r.requested = 1 ↔ Call.answersFor r.kind e.calls = [.ok ()])

namespace Growth

theorem requests_eq_one_iff (g : Growth) : g.requests = 1 ↔ g = .durable ∨ g = .transient := by
  cases g <;> simp [requests]

theorem requests_le_one (g : Growth) : g.requests ≤ 1 := by
  cases g <;> simp [requests]

end Growth

theorem Policy.requests_le_one (p : Policy α) {state : PoolState} (unseeded : state ≠ .seeding)
    (growth : Growth) : p.requests state growth ≤ 1 := by
  cases state with
  | seeding => exact absurd rfl unseeded
  | empty =>
    rw [requests]
    split
    · exact Nat.zero_le 1
    · exact Nat.le_refl 1
  | singleton | atTarget | general => exact growth.requests_le_one

/-- Of at most one answer, one is a success just if all are. -/
theorem Call.countP_eq_one_iff {answers : List Answer} (few : answers.length ≤ 1) :
    answers.countP (·.isOk) = 1 ↔ answers = [.ok ()] := by
  match answers with
  | [] => simp
  | [.ok ()] => exact iff_of_true rfl rfl
  | [.error _] => simp [Except.isOk, Except.toBool]
  | _ :: _ :: _ => simp at few

namespace Controller.PoolTick

variable [Quantity α] {c later : Controller α} {e : Event α} {kind : Kind} {workers : List Worker}
  {r : PoolReport α} (dealt : PoolTick c e later kind workers r)

include dealt

theorem growing_of_destroyed (lost : 0 < r.destroyed) : r.state.evaluatesGrowth = true := by
  rw [← Bool.not_eq_false]
  intro still
  rw [dealt.spared still] at lost
  exact Nat.lt_irrefl 0 lost

/-- A growth check that is left out requests nothing. -/
theorem answersFor_of_skipped (growing : r.state.evaluatesGrowth = true)
    (skipped : skipsGrowth c.policy r (decide (kind ∈ e.report.forgotten)) = true) :
    Call.answersFor kind e.calls = [] := by
  have none : r.growth = .skipped := by
    rw [dealt.grown.growth, dealt.unread skipped]
    rfl
  apply List.length_eq_zero_iff.mp
  rw [dealt.asked, c.policy.requests_of_growing growing, none]
  rfl

theorem destroyed_pos_iff (unique : e.registry.Unique) :
    0 < r.destroyed ↔ ∃ v ∈ workers, v.id ∈ e.report.destroyed := by
  rw [dealt.lost unique, List.countP_pos_iff]
  simp

theorem budget (found : e.registry.pool? r.kind = some workers) : Budget c.policy e r := by
  obtain rfl := dealt.named
  have atMostOne : r.state ≠ .seeding → (Call.answersFor r.kind e.calls).length ≤ 1 := by
    intro unseeded
    rw [dealt.asked]
    exact c.policy.requests_le_one unseeded r.growth
  constructor
  case atMostOne => exact atMostOne
  case empty =>
    intro empty
    rw [dealt.asked, empty]
    rfl
  case forgotten => exact fun forgotten => (dealt.dropped forgotten).2.2
  case bereft =>
    intro skips lost
    apply dealt.answersFor_of_skipped (dealt.growing_of_destroyed lost)
    simp [skipsGrowth, skips, lost]
  case bereft_iff =>
    intro unique
    rw [dealt.destroyed_pos_iff unique]
    constructor
    · rintro ⟨v, inside, destroyed⟩
      exact ⟨v.id, destroyed, workers, found, v, inside, rfl⟩
    · rintro ⟨w, destroyed, others, found', v, inside, rfl⟩
      obtain rfl := Option.some.inj (found.symm.trans found')
      exact ⟨v, inside, destroyed⟩
  case growing =>
    intro growing
    rw [dealt.asked, c.policy.requests_of_growing growing, Growth.requests_eq_one_iff]
  case accepted =>
    intro unseeded
    rw [dealt.requested, Call.countP_eq_one_iff (atMostOne unseeded)]

end Controller.PoolTick

section Main

variable [Quantity α] {p : Provider σ α} {c later : Controller α} {number : Nat} {world after : σ}
  {report : Report α} {calls : List Call}

/-- An accepted tick keeps to the budget of each kind, whatever the answers are, and requests nothing
for a kind that is not registered. -/
theorem requests_budgeted
    (accepted : c.tick p.recorded number (world, []) = .ok (report, later, after, calls)) :
    (∀ r ∈ report.pools,
      Budget c.policy ⟨p.registry world, p.reading world, report, calls⟩ r) ∧
    ∀ kind, (∀ r ∈ report.pools, r.kind ≠ kind) → Call.answersFor kind calls = [] := by
  have ticked := Controller.ticked_of_accepted accepted
  refine ⟨fun r reported => ?_, fun kind unlisted => ?_⟩
  · obtain ⟨workers, found, dealt⟩ := ticked.registered reported
    exact dealt.budget found
  · apply (ticked.absentKind kind _).2
    cases found : (p.registry world).pool? kind with
    | none => rfl
    | some workers =>
      obtain ⟨r, reported, dealt⟩ := ticked.pool kind workers found
      exact absurd dealt.named (unlisted r reported)

/-- On its second tick a controller asks for a worker for a pool without any, and in vain for one for
a pool that is under load. A third pool gets none, as it has just lost one. -/
theorem Lingering.requests_budgeted_three :
    ∃ (c later : Controller Float) (report : Report Float) (after : Registry × (Worker → Float))
      (calls : List Call),
      c.tick choosy.recorded 2 (three, []) = .ok (report, later, after, calls) ∧
      (report.pools.map fun r =>
        (r.kind, r.state, r.growth, r.destroyed, (Call.answersFor r.kind calls).map (·.isOk))) =
        [(index, .empty, .skipped, 0, [true]), (queue, .general, .skipped, 1, []),
          (render, .singleton, .transient, 0, [false])] ∧
      ∀ r ∈ report.pools, Budget c.policy ⟨three.1, three.2, report, calls⟩ r := by
  have accepted := Controller.tick_history controller_new choosy [three] three
  obtain ⟨budgets, _⟩ := requests_budgeted accepted
  refine ⟨_, _, _, _, _, accepted, ?_, budgets⟩
  decide +kernel

end Main

end ElasticPools
