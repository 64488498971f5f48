import ElasticPools.Proofs.Repetition

/-!
What a controller without targets makes use of. Seeding, the state at the target and durable growth
do not occur, so the seed size, the high threshold, the grace at the target and the name of the
profile are without effect: two policies that agree on the rest act alike, whatever happens to the
provider in between.
-/

set_option autoImplicit false

namespace ElasticPools

variable {σ α : Type}

/-- Two policies without targets that agree on all that such a policy is for. -/
structure Policy.AgreeUntracked (policy policy' : Policy α) : Prop where
  untracked : policy.tracking = false
  untracked' : policy'.tracking = false
  minimum : policy'.minimum = policy.minimum
  low : policy'.low = policy.low
  singletonGrace : policy'.singletonGrace = policy.singletonGrace
  generalGrace : policy'.generalGrace = policy.generalGrace
  skipGrowthAfterLoss : policy'.skipGrowthAfterLoss = policy.skipGrowthAfterLoss

/-- The same controller, but for its policy. -/
def Controller.under (c : Controller α) (policy : Policy α) : Controller α := { c with policy }

/-- The same refusal, but for the controller's policy. -/
def RefusedTick.under (refused : RefusedTick σ α) (policy : Policy α) : RefusedTick σ α :=
  { refused with controller := refused.controller.under policy }

/-- The same scene, but for the controller's policy. -/
def Scene.under (s : Scene σ α) (policy : Policy α) : Scene σ α :=
  { s with controller := s.controller.under policy }

variable [Quantity α]

namespace Policy.AgreeUntracked

variable {policy policy' : Policy α} (agree : policy.AgreeUntracked policy')

include agree

theorem qualifies_eq (reading : Worker → α) (state : PoolState) :
    policy'.qualifies reading state = policy.qualifies reading state := by
  funext v
  cases state with
  | seeding | empty | singleton => rfl
  | atTarget | general => rw [qualifies, qualifies, agree.minimum]

omit [Quantity α] in
theorem grace_eq {state : PoolState} (below : state ≠ .atTarget) :
    policy'.grace state = policy.grace state := by
  cases state with
  | singleton => exact agree.singletonGrace
  | atTarget => exact absurd rfl below
  | seeding | empty | general => exact agree.generalGrace

theorem growth_eq (mean : α) : policy'.growth mean = policy.growth mean := by
  rw [growth, growth, agree.untracked, agree.untracked', agree.low, Bool.false_and, Bool.false_and]

end Policy.AgreeUntracked

namespace Controller

section Evaluation

variable {policy policy' : Policy α} (agree : policy.AgreeUntracked policy') (p : Provider σ α)
  (reading : Worker → α) (kind : Kind)

include agree

theorem checkGrowth_agree (pool : List Worker) (targets : Targets) (world : σ) :
    checkGrowth policy' p reading kind pool targets world =
      checkGrowth policy p reading kind pool targets world := by
  simp only [checkGrowth, agree.growth_eq]

omit [Quantity α] in
theorem fill_agree (turn : Turn σ) : fill policy' p kind turn = fill policy p kind turn := by
  simp only [fill, shownTarget, agree.untracked, agree.untracked']

theorem settle_agree (state : PoolState) (workers : List Worker) (s : Shrink σ)
    (targets : Targets) : settle policy' p reading kind state workers s targets =
      settle policy p reading kind state workers s targets := by
  simp only [settle, checkGrowth_agree agree, agree.skipGrowthAfterLoss,
    shownTarget_of_untracked agree.untracked, shownTarget_of_untracked agree.untracked']

theorem evaluate_agree (workers : List Worker) (turn : Turn σ) :
    evaluate policy' p reading kind workers turn = evaluate policy p reading kind workers turn := by
  have grace := agree.grace_eq (PoolState.classify_none_ne_atTarget workers.length)
  simp only [evaluate, agree.untracked, agree.untracked', Bool.false_and, Bool.false_eq_true,
    if_false, shownTarget_of_untracked agree.untracked, shownTarget_of_untracked agree.untracked',
    agree.qualifies_eq, grace, settle_agree agree, fill_agree agree]

/-- Induction over the pools. -/
theorem evaluateAll_agree (pools : List (Kind × List Worker)) (turn : Turn σ) :
    evaluateAll policy' p reading pools turn = evaluateAll policy p reading pools turn := by
  induction pools generalizing turn with
  | nil => rfl
  | cons pool pools ih => simp only [evaluateAll, evaluate_agree agree, ih]

end Evaluation

/-- A tick under either policy reports the same and leaves the same behind. -/
theorem evaluateTick_under {c : Controller α} {policy : Policy α}
    (agree : c.policy.AgreeUntracked policy) (p : Provider σ α) (n : Nat) (world : σ) :
    (c.under policy).evaluateTick p n world =
      ((c.evaluateTick p n world).1, (c.evaluateTick p n world).2.1.under policy,
        (c.evaluateTick p n world).2.2) := by
  simp only [evaluateTick, under, evaluateAll_agree agree]

theorem tick_under {c : Controller α} {policy : Policy α}
    (agree : c.policy.AgreeUntracked policy) (p : Provider σ α) (n : Nat) (world : σ) :
    (c.under policy).tick p n world =
      ((c.tick p n world).map fun (report, later, after) =>
        (report, later.under policy, after)).mapError (·.under policy) := by
  rcases c.tick_cases p n world with ⟨last, shown, stale, refused⟩ | ⟨fresh, ran⟩
  · have same : (c.under policy).lastTick = some last := shown
    rw [refused, tick_of_stale same stale]
    rfl
  · have same : ∀ last ∈ (c.under policy).lastTick, last < n := fresh
    rw [ran, tick_of_fresh same, evaluateTick_under agree]
    rfl

end Controller

namespace Scene

variable {policy : Policy α} {p : Provider σ α} {s : Scene σ α} {m : Moment σ}

theorem policy_attend : (s.attend p m).2.controller.policy = s.controller.policy := by
  unfold attend
  cases m.call with
  | none => rfl
  | some n =>
    dsimp only
    split
    · next repeated => exact congrArg Controller.policy (Controller.tick_eq_error repeated).1
    · next accepted => exact (congrArg (·.2.1.policy) (Controller.tick_eq_ok accepted)).symm

/-- What an accepted call reports is what one tick of the scene's controller did. -/
theorem ticked_of_attend {report : Report α} {calls : List Call}
    (evaluated : (s.attend p m).1 = .evaluated report calls) :
    ∃ e later, s.controller.Ticked e later ∧ e.report = report ∧ e.calls = calls := by
  unfold attend at evaluated
  cases called : m.call with
  | none =>
    rw [called] at evaluated
    cases evaluated
  | some n =>
    rw [called] at evaluated
    dsimp only at evaluated
    split at evaluated
    · cases evaluated
    · next accepted =>
      obtain ⟨rfl, rfl⟩ := Outcome.evaluated.inj evaluated
      have ticked := s.controller.evaluateTick_ticked p n (m.change s.world)
      rw [Controller.tick_eq_ok accepted] at ticked
      exact ⟨_, _, ticked, rfl, rfl⟩

theorem attend_under (agree : s.controller.policy.AgreeUntracked policy) :
    (s.under policy).attend p m = ((s.attend p m).1, (s.attend p m).2.under policy) := by
  unfold attend
  cases m.call with
  | none => rfl
  | some n =>
    simp only [under, Controller.tick_under agree]
    cases s.controller.tick p.recorded n (m.change s.world, []) with
    | error refused => rfl
    | ok result => rfl

/-- Induction over the moments: each of them goes alike. -/
theorem pass_under (agree : s.controller.policy.AgreeUntracked policy) (ms : List (Moment σ)) :
    (s.under policy).pass p ms = ((s.pass p ms).1, (s.pass p ms).2.under policy) := by
  induction ms generalizing s with
  | nil => rfl
  | cons m ms ih =>
    have rest : ((s.attend p m).2.under policy).pass p ms =
        (((s.attend p m).2.pass p ms).1, ((s.attend p m).2.pass p ms).2.under policy) := by
      apply ih
      rwa [policy_attend]
    simp only [pass, attend_under agree, rest]

/-- Induction over the moments: no tick seeds a kind, finds a pool at its target or calls its growth
durable. -/
theorem reports_of_untracked (untracked : s.controller.policy.tracking = false)
    (ms : List (Moment σ)) {report : Report α} {calls : List Call}
    (evaluated : .evaluated report calls ∈ (s.pass p ms).1) :
    ∀ r ∈ report.pools, r.state ≠ .seeding ∧ r.state ≠ .atTarget ∧ r.growth ≠ .durable := by
  induction ms generalizing s with
  | nil => cases evaluated
  | cons m ms ih =>
    rcases List.mem_cons.mp evaluated with latest | evaluated
    · obtain ⟨e, later, ticked, rfl, _⟩ := ticked_of_attend latest.symm
      intro r reported
      obtain ⟨workers, _, dealt⟩ := ticked.registered reported
      exact dealt.untracked untracked
    · have still : (s.attend p m).2.controller.policy.tracking = false := by
        rwa [policy_attend]
      exact ih still evaluated

end Scene

/-- Without targets, the constants that are for targets have no effect. Controllers whose policies
differ in them only come to the same outcome at every moment, calls and reports alike, and to the
same tables and totals; and no report shows a pool that is seeded, at its target or durably growing. -/
theorem pass_eq_of_agreeUntracked {policy policy' : Policy α}
    (agree : policy.AgreeUntracked policy') {c c' : Controller α}
    (created : Controller.new policy = .ok c) (created' : Controller.new policy' = .ok c')
    (p : Provider σ α) (world : σ) (ms : List (Moment σ)) :
    (Scene.pass p ⟨c', world⟩ ms).1 = (Scene.pass p ⟨c, world⟩ ms).1 ∧
      (Scene.pass p ⟨c', world⟩ ms).2 = (Scene.pass p ⟨c, world⟩ ms).2.under policy' ∧
      ∀ report calls, .evaluated report calls ∈ (Scene.pass p ⟨c, world⟩ ms).1 →
        ∀ r ∈ report.pools, r.state ≠ .seeding ∧ r.state ≠ .atTarget ∧ r.growth ≠ .durable := by
  have same : (⟨c', world⟩ : Scene σ α) = Scene.under ⟨c, world⟩ policy' := by
    rw [(Run.start (p := p) created').new_eq.2, (Run.start (p := p) created).new_eq.2]
    rfl
  have policy_eq : c.policy = policy := (Run.start (p := p) created).policy_eq
  rw [same, Scene.pass_under (policy_eq.symm ▸ agree)]
  refine ⟨rfl, rfl, fun report calls evaluated => ?_⟩
  exact Scene.reports_of_untracked (policy_eq.symm ▸ agree.untracked) ms evaluated

namespace Lingering

/-- A policy without targets, but with other constants for them than the simple profile has. -/
def otherwise : Policy Float :=
  { Policy.ofProfile .simple with
    profile := .poolTracking, seedSize := 7, high := 0.9, atTargetGrace := 1 }

def otherController : Controller Float := ⟨otherwise, .empty, .empty, none, .zero⟩

theorem otherController_new : Controller.new otherwise = .ok otherController := by rfl

/-- One call for a worker that is alone, and one after another has joined it. -/
def joining : List (Moment (Registry × (Worker → Float))) :=
  [⟨id, some 1⟩, ⟨fun _ => joined, some 2⟩]

/-- A mean of 0.9 is above the one high threshold and not above the other. Either policy has one
worker requested on the first call, and one destroyed on the second. -/
theorem pass_eq_of_agreeUntracked_joining :
    ∃ r r' calls calls',
      (Scene.pass provider ⟨controller, alone⟩ joining).1 =
        [.evaluated r calls, .evaluated r' calls'] ∧
      (Scene.pass provider ⟨otherController, alone⟩ joining).1 =
        [.evaluated r calls, .evaluated r' calls'] ∧
      (Scene.pass provider ⟨otherController, alone⟩ joining).2 =
        (Scene.pass provider ⟨controller, alone⟩ joining).2.under otherwise ∧
      r.requested = [queue] ∧ r'.destroyed = [first] ∧
      ∀ q ∈ r.pools ++ r'.pools,
        q.state ≠ .seeding ∧ q.state ≠ .atTarget ∧ q.growth ≠ .durable := by
  have agree : (Policy.ofProfile .simple).AgreeUntracked otherwise := by constructor <;> rfl
  obtain ⟨outcomes, last, reports⟩ := pass_eq_of_agreeUntracked agree controller_new
    otherController_new provider alone joining
  obtain ⟨r, r', calls, calls', both, requested, destroyed⟩ : ∃ r r' calls calls',
      (Scene.pass provider ⟨controller, alone⟩ joining).1 =
        [.evaluated r calls, .evaluated r' calls'] ∧ r.requested = [queue] ∧
        r'.destroyed = [first] :=
    ⟨_, _, _, _, rfl, by decide +kernel, by decide +kernel⟩
  rw [both] at outcomes reports
  refine ⟨r, r', calls, calls', both, outcomes, last, requested, destroyed, fun q member => ?_⟩
  rcases List.mem_append.mp member with member | member
  · exact reports r calls List.mem_cons_self q member
  · exact reports r' calls' (List.mem_cons_of_mem _ List.mem_cons_self) q member

end Lingering

end ElasticPools
