import ElasticPools.Proofs.Debounce

/-!
Targets over whole runs. Where targets are kept, a tick leaves one for each kind that it saw and did
not forget, and for no other. So a kind is seeded just when it is new: on the first tick, after a
tick that did not see it, and after one that forgot it. Where no targets are kept there never is one.
-/

set_option autoImplicit false

namespace ElasticPools

variable {σ α : Type}

/-- A tick that follows these ticks, the latest first, finds the kind for the first time, or for the
first time again. -/
def NewAfter (kind : Kind) : List (Event α) → Prop
  | [] => True
  | latest :: _ => latest.registry.contains kind = false ∨ kind ∈ latest.report.forgotten

/-- What a tick does for a kind that it seeds. -/
structure Seeded (policy : Policy α) (e : Event α) (later : Controller α) (r : PoolReport α) :
    Prop where
  asked : (Call.answersFor r.kind e.calls).length = policy.seedSize
  spared : r.destroyed = 0
  /-- Should one of its workers be attacked, it is as a worker of another kind. -/
  elsewhere : ∀ w answer, e.Lists r.kind w → .destruction w answer ∈ e.calls →
    ∃ q ∈ e.report.pools, q.kind ≠ r.kind ∧ q.state ≠ .seeding ∧ e.Lists q.kind w
  target : later.targets.target? r.kind = some policy.seedSize
  shown : r.target = some policy.seedSize

namespace Controller

theorem stateOf_eq_seeding_iff {policy : Policy α} {kind : Kind} {workers : List Worker}
    {targets : Targets} : stateOf policy kind workers targets = .seeding ↔
      policy.tracking = true ∧ targets.contains kind = false := by
  refine ⟨of_stateOf_seeding, fun ⟨tracking, unseen⟩ => ?_⟩
  rw [stateOf, tracking, unseen]
  rfl

theorem shownTarget_of_untracked {policy : Policy α} (untracked : policy.tracking = false)
    (targets : Targets) (kind : Kind) : shownTarget policy targets kind = none := by
  rw [shownTarget, untracked]
  rfl

/-- Without a target no pool is at its target. -/
theorem stateOf_ne_atTarget {policy : Policy α} (untracked : policy.tracking = false) (kind : Kind)
    (workers : List Worker) (targets : Targets) :
    stateOf policy kind workers targets ≠ .atTarget := by
  rw [stateOf, untracked, shownTarget_of_untracked untracked]
  exact PoolState.classify_none_ne_atTarget workers.length

variable [Quantity α]

/-- Without targets no request is durable. -/
theorem growth_ne_durable {policy : Policy α} (untracked : policy.tracking = false)
    (utilization : Option α) : utilization.elim .skipped policy.growth ≠ .durable := by
  cases utilization with
  | none => exact nofun
  | some mean =>
    rw [Option.elim_some, Policy.growth, untracked, Bool.false_and, if_neg Bool.false_ne_true]
    split <;> exact nofun

namespace PoolTick

variable {c later : Controller α} {e : Event α} {kind : Kind} {workers : List Worker}
  {r : PoolReport α} (dealt : PoolTick c e later kind workers r)

include dealt

/-- Without targets nothing is seeded, at its target or called durable. -/
theorem untracked (untracked : c.policy.tracking = false) :
    r.state ≠ .seeding ∧ r.state ≠ .atTarget ∧ r.growth ≠ .durable := by
  refine ⟨?_, ?_, ?_⟩
  · rw [dealt.state, ne_eq, stateOf_eq_seeding_iff, untracked]
    exact fun seeding => Bool.false_ne_true seeding.1
  · rw [dealt.state]
    exact stateOf_ne_atTarget untracked kind workers c.targets
  · rw [dealt.grown.growth]
    exact growth_ne_durable untracked r.utilization

/-- So a kind without a target does not get one. -/
theorem target_of_untracked (untracked : c.policy.tracking = false)
    (none : c.targets.target? kind = none) : later.targets.target? kind = .none := by
  obtain ⟨unseeded, below, transient⟩ := dealt.untracked untracked
  rw [dealt.grown.target, none]
  simp [nextTarget, unseeded, below, transient]

theorem seeded (ticked : c.Ticked e later) (reported : r ∈ e.report.pools) (named : r.kind = kind)
    (seeding : r.state = .seeding) : Seeded c.policy e later r := by
  subst named
  have target : later.targets.target? r.kind = some c.policy.seedSize := by
    rw [dealt.grown.target, nextTarget, if_pos seeding]
  constructor
  case asked =>
    rw [dealt.asked, seeding]
    rfl
  case spared =>
    apply dealt.spared
    rw [seeding]
    rfl
  case elsewhere =>
    intro w answer _ called
    obtain ⟨q, member, growing, others, found, inside⟩ := ticked.attacked w answer called
    obtain ⟨v, listed, same⟩ := List.mem_map.mp inside
    have looked : q.state ≠ .seeding := by
      intro other
      rw [other] at growing
      cases growing
    refine ⟨q, member, ?_, looked, others, found, v, listed, same⟩
    intro same
    rw [List.inj_on_of_nodup_map ticked.kinds_nodup member reported same] at looked
    exact looked seeding
  case target => exact target
  case shown =>
    obtain ⟨tracking, _⟩ := stateOf_eq_seeding_iff.mp (dealt.state.symm.trans seeding)
    rw [dealt.grown.shown, shownTarget, if_pos tracking, target]

end PoolTick

/-- A tick leaves a target for the kinds that it saw and did not forget. -/
theorem Ticked.contains_iff {c later : Controller α} {e : Event α} (ticked : c.Ticked e later)
    (tracking : c.policy.tracking = true) (kind : Kind) :
    later.targets.contains kind = true ↔
      e.registry.contains kind = true ∧ kind ∉ e.report.forgotten := by
  rw [Registry.contains_eq]
  cases found : e.registry.pool? kind with
  | none =>
    rw [Targets.contains_eq, (ticked.absentKind kind found).1]
    exact iff_of_false Bool.false_ne_true fun present => Bool.false_ne_true present.1
  | some workers =>
    obtain ⟨r, _, dealt⟩ := ticked.pool kind workers found
    rw [dealt.target tracking, Option.isSome_some]
    exact (and_iff_right rfl).symm

end Controller

namespace Run

variable [Quantity α] {policy : Policy α} {p : Provider σ α} {e : Event α}
  {past events : List (Event α)} {c : Controller α}

theorem new_eq (run : Run policy p [] c) : policy.Sound ∧ c = ⟨policy, .empty, .empty, none, .zero⟩ := by
  cases run with
  | start created =>
    unfold Controller.new at created
    split at created
    · next sound => exact ⟨sound, (Except.ok.inj created).symm⟩
    · cases created

/-- The kinds that have no target before the next tick. -/
theorem not_contains_iff (run : Run policy p past c) (tracking : policy.tracking = true)
    (kind : Kind) : c.targets.contains kind = false ↔ NewAfter kind past := by
  match past with
  | [] =>
    rw [run.new_eq.2, Targets.contains_eq, Targets.target?_empty]
    exact iff_of_true rfl trivial
  | f :: older =>
    obtain ⟨before, earlier, ticked⟩ := run.last
    rw [← earlier.policy_eq] at tracking
    rw [← Bool.not_eq_true, ticked.contains_iff tracking, NewAfter, ← Bool.not_eq_true,
      Classical.not_and_iff_not_or_not, Classical.not_not]

/-- Induction over the run: without targets no tick makes one. -/
theorem targets_eq_empty (run : Run policy p events c) (untracked : policy.tracking = false) :
    c.targets = .empty := by
  induction events generalizing c with
  | nil => rw [run.new_eq.2]
  | cons e past ih =>
    obtain ⟨before, earlier, ticked⟩ := run.last
    have blank := ih earlier
    apply Targets.ext_target
    intro kind
    rw [Targets.target?_empty]
    cases found : e.registry.pool? kind with
    | none => exact (ticked.absentKind kind found).1
    | some workers =>
      obtain ⟨r, _, dealt⟩ := ticked.pool kind workers found
      rw [← earlier.policy_eq] at untracked
      refine dealt.target_of_untracked untracked ?_
      rw [blank, Targets.target?_empty]

end Run

namespace Lingering

def render : Kind := ⟨"render", by decide⟩

/-- The worker that is no longer used is listed under a second kind as well. -/
def shared : Registry × (Worker → Float) := (joined.1.add render ⟨first, false⟩, joined.2)

def tracker : Controller Float := ⟨Policy.ofProfile .poolTracking, .empty, .empty, none, .zero⟩

theorem tracker_new : Controller.new (Policy.ofProfile .poolTracking) = .ok tracker := by rfl

end Lingering

section Main

variable [Quantity α] {policy : Policy α} {p : Provider σ α} {e : Event α} {past : List (Event α)}
  {c : Controller α}

/-- With targets, a tick seeds the kinds that are new to it and no others, and leaves targets for
the kinds that it saw and did not forget. Without targets, no tick leaves any. -/
theorem seeding_iff_new (run : Run policy p (e :: past) c) :
    (policy.tracking = true →
      (∀ kind, (∃ r ∈ e.report.pools, r.kind = kind ∧ r.state = .seeding) ↔
        e.registry.contains kind = true ∧ NewAfter kind past) ∧
      (∀ r ∈ e.report.pools, r.state = .seeding → Seeded policy e c r) ∧
      ∀ kind, c.targets.contains kind = true ↔
        e.registry.contains kind = true ∧ kind ∉ e.report.forgotten) ∧
    (policy.tracking = false → c.targets = .empty) := by
  refine ⟨fun tracking => ?_, run.targets_eq_empty⟩
  obtain ⟨before, earlier, ticked⟩ := run.last
  have same := earlier.policy_eq
  refine ⟨fun kind => ?_, ?_, ticked.contains_iff (same ▸ tracking)⟩
  · rw [← earlier.not_contains_iff tracking]
    constructor
    · rintro ⟨r, reported, rfl, seeding⟩
      obtain ⟨workers, found, dealt⟩ := ticked.registered reported
      refine ⟨?_, (Controller.stateOf_eq_seeding_iff.mp (dealt.state.symm.trans seeding)).2⟩
      rw [Registry.contains_eq, found]
      rfl
    · rintro ⟨present, unseen⟩
      rw [Registry.contains_eq, Option.isSome_iff_exists] at present
      obtain ⟨workers, found⟩ := present
      obtain ⟨r, reported, dealt⟩ := ticked.pool kind workers found
      refine ⟨r, reported, dealt.named, dealt.state.trans ?_⟩
      exact Controller.stateOf_eq_seeding_iff.mpr ⟨same ▸ tracking, unseen⟩
  · intro r reported seeding
    obtain ⟨workers, _, dealt⟩ := ticked.registered reported
    rw [← same]
    exact dealt.seeded ticked reported rfl seeding

/-- A kind that was gone for a tick is seeded again. -/
theorem Lingering.seeding_iff_new_again :
    ∃ (e : Event Float) (past : List (Event Float)) (c : Controller Float),
      Run (Policy.ofProfile .poolTracking) provider (e :: past) c ∧ past.length = 2 ∧
      (∃ r ∈ e.report.pools, r.kind = queue ∧ r.state = .seeding ∧
        Seeded (Policy.ofProfile .poolTracking) e c r) ∧
      ∀ kind, c.targets.contains kind = true ↔
        e.registry.contains kind = true ∧ kind ∉ e.report.forgotten := by
  have run := (Controller.run_history tracker_new provider
    [pair, (.empty, fun _ => 0.0), pair]).1
  obtain ⟨e, past, c, run, length, present, absent⟩ :
      ∃ (e : Event Float) (past : List (Event Float)) (c : Controller Float),
        Run (Policy.ofProfile .poolTracking) provider (e :: past) c ∧ past.length = 2 ∧
        e.registry.contains queue = true ∧
        ∃ f ∈ past.head?, f.registry.contains queue = false :=
    ⟨_, _, _, run, rfl, by decide +kernel, _, rfl, by decide +kernel⟩
  obtain ⟨seeded, facts, targets⟩ := (seeding_iff_new run).1 rfl
  have new : NewAfter queue past := by
    obtain ⟨f, latest, absent⟩ := absent
    match past, latest with
    | f :: _, rfl => exact Or.inl absent
  obtain ⟨r, reported, named, seeding⟩ := (seeded queue).mpr ⟨present, new⟩
  exact ⟨e, past, c, run, length, ⟨r, reported, named, seeding, facts r reported seeding⟩, targets⟩

/-- A worker of a kind that is being seeded may be destroyed all the same, as the worker of another
kind that also lists it. -/
theorem Lingering.not_spared :
    ¬ ∀ (policy : Policy Float) (e : Event Float) (past : List (Event Float))
      (c : Controller Float) (r : PoolReport Float) (w : WorkerId),
      policy.tracking = true → Run policy provider (e :: past) c →
      r ∈ e.report.pools → r.state = .seeding → e.Lists r.kind w →
      .destruction w (.ok ()) ∉ e.calls := by
  intro spared
  have run := (Controller.run_history tracker_new provider [shared, joined, joined]).1
  obtain ⟨e, past, c, run, destroyed, r, reported, seeding, listed⟩ :
      ∃ (e : Event Float) (past : List (Event Float)) (c : Controller Float),
        Run (Policy.ofProfile .poolTracking) provider (e :: past) c ∧
        first ∈ Call.destroyed e.calls ∧
        ∃ r ∈ e.report.pools, r.state = .seeding ∧ e.Lists r.kind first :=
    ⟨_, _, _, run, by decide +kernel, by decide +kernel⟩
  exact spared _ e past c r first rfl run reported seeding listed
    (Call.mem_attemptsOn.mp (Call.mem_destroyed.mp destroyed))

end Main

end ElasticPools
