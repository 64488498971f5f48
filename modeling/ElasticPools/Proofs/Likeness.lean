import ElasticPools.Proofs.Run
import Mathlib.Data.List.Forall2

/-!
Two ticks that find the same of a kind. They may be ticks of different controllers over different
registries, so that other kinds are unlike and workers have other names. As long as no call is
refused, both do the same for the kind, and leave the same behind.
-/

set_option autoImplicit false

namespace ElasticPools

variable {α : Type}

section Calls

variable {calls : List Call}

/-- Where nothing is refused, every answer is a success. -/
theorem Call.ok_of_refusals (accepted : refusals calls = []) :
    (∀ kind, ∀ answer ∈ answersFor kind calls, answer.isOk = true) ∧
      ∀ w reason, Except.error reason ∉ attemptsOn w calls := by
  have none := List.filterMap_eq_nil_iff.mp accepted
  constructor
  · intro kind answer member
    obtain ⟨call, called, selected⟩ := List.mem_filterMap.mp member
    match call with
    | .request k (.ok _) =>
      dsimp only at selected
      split at selected
      · rw [← Option.some.inj selected]
        rfl
      · cases selected
    | .request k (.error reason) => cases none _ called
    | .destruction _ _ | .forget _ => cases selected
  · intro w reason member
    cases none _ (mem_attemptsOn.mp member)

end Calls

theorem forall₂_of_mem {β γ : Type} {R S : β → γ → Prop} {l : List β} {m : List γ}
    (related : List.Forall₂ R l m) (imp : ∀ a ∈ l, ∀ b ∈ m, R a b → S a b) :
    List.Forall₂ S l m := by
  induction related with
  | nil => exact .nil
  | cons first _ ih =>
    refine .cons (imp _ List.mem_cons_self _ List.mem_cons_self first) (ih ?_)
    intro a inside b inside'
    exact imp a (List.mem_cons_of_mem _ inside) b (List.mem_cons_of_mem _ inside')

theorem exists_of_forall₂ {β γ : Type} {R : β → γ → Prop} {l : List β} {m : List γ}
    (related : List.Forall₂ R l m) {b : γ} (member : b ∈ m) : ∃ a ∈ l, R a b := by
  induction related with
  | nil => cases member
  | cons first _ ih =>
    rcases List.mem_cons.mp member with rfl | later
    · exact ⟨_, List.mem_cons_self, first⟩
    · obtain ⟨a, inside, related⟩ := ih later
      exact ⟨a, List.mem_cons_of_mem _ inside, related⟩

theorem map_eq_of_forall₂ {β γ δ : Type} {R : β → γ → Prop} {f : β → δ} {g : γ → δ} {l : List β}
    {m : List γ} (related : List.Forall₂ R l m) (same : ∀ a b, R a b → f a = g b) :
    l.map f = m.map g := by
  rw [← List.forall₂_eq_eq_eq, List.forall₂_map_left_iff, List.forall₂_map_right_iff]
  exact related.imp same

variable [Quantity α]

theorem Policy.qualifies_congr (p : Policy α) {reading reading' : Worker → α} {v v' : Worker}
    (busy : v.busy = v'.busy) (same : reading v = reading' v') (state : PoolState) :
    p.qualifies reading state v = p.qualifies reading' state v' := by
  cases state with
  | seeding | empty => rfl
  | singleton => rw [qualifies, qualifies, busy]
  | atTarget | general => rw [qualifies, qualifies, busy, same]

namespace Controller

/-- A worker's treatment is settled by its streak, unless a destruction is refused. -/
theorem Treatment.settled {next grace : Nat} {qualifies : Bool} {answers answers' : List Answer}
    {kept kept' : Option Nat} (one : Treatment next grace qualifies answers kept)
    (two : Treatment next grace qualifies answers' kept')
    (accepted : ∀ reason, Except.error reason ∉ answers)
    (accepted' : ∀ reason, Except.error reason ∉ answers') : answers = answers' ∧ kept = kept' := by
  cases one with
  | cleared =>
    cases two
    exact ⟨rfl, rfl⟩
  | counted below =>
    cases two with
    | counted => exact ⟨rfl, rfl⟩
    | destroyed reached => omega
    | refused reached => omega
  | destroyed reached =>
    cases two with
    | counted below => omega
    | destroyed => exact ⟨rfl, rfl⟩
    | refused _ reason => exact absurd List.mem_cons_self (accepted' reason)
  | refused _ reason => exact absurd List.mem_cons_self (accepted reason)

/-- A worker of one tick and a worker of another that nothing but their names tells apart. -/
structure Alike (c c' : Controller α) (e e' : Event α) (v v' : Worker) : Prop where
  busy : v.busy = v'.busy
  reading : e.reading v = e'.reading v'
  streak : c.streaks.count? v.id = c'.streaks.count? v'.id

/-- Both ticks destroyed their worker or neither did, and they left it the same streak. -/
structure LeftAlike (e e' : Event α) (later later' : Controller α) (v v' : Worker) : Prop where
  attempts : Call.attemptsOn v.id e.calls = Call.attemptsOn v'.id e'.calls
  destroyed : v.id ∈ e.report.destroyed ↔ v'.id ∈ e'.report.destroyed
  streak : later.streaks.count? v.id = later'.streaks.count? v'.id

/-- Two ticks that find the same of a kind, and are refused no call. -/
structure Matched (c c' : Controller α) (e e' : Event α) (kind : Kind)
    (workers workers' : List Worker) : Prop where
  policy : c'.policy = c.policy
  target : c.targets.target? kind = c'.targets.target? kind
  workers : List.Forall₂ (Alike c c' e e') workers workers'
  unique : e.registry.Unique
  unique' : e'.registry.Unique
  accepted : e.report.failures = []
  accepted' : e'.report.failures = []

namespace Matched

variable {c c' later later' : Controller α} {e e' : Event α} {kind : Kind}
  {workers workers' : List Worker} {r r' : PoolReport α}
  (matched : Matched c c' e e' kind workers workers')
  (ticked : c.Ticked e later) (ticked' : c'.Ticked e' later')
  (dealt : PoolTick c e later kind workers r) (dealt' : PoolTick c' e' later' kind workers' r')

include matched dealt dealt'

theorem state_eq : r.state = r'.state := by
  rw [dealt.state, dealt'.state, matched.policy]
  simp only [stateOf, shownTarget, Targets.contains_eq, matched.target, matched.workers.length_eq]

include ticked ticked'

theorem left : List.Forall₂ (LeftAlike e e' later later') workers workers' := by
  have state := matched.state_eq dealt dealt'
  have answered := Call.ok_of_refusals (ticked.refusals.trans matched.accepted)
  have answered' := Call.ok_of_refusals (ticked'.refusals.trans matched.accepted')
  refine forall₂_of_mem matched.workers fun v inside v' inside' alike => ?_
  have outcome : Call.attemptsOn v.id e.calls = Call.attemptsOn v'.id e'.calls ∧
      later.streaks.count? v.id = later'.streaks.count? v'.id := by
    cases growing : r.state.evaluatesGrowth with
    | false =>
      obtain ⟨none, kept⟩ := dealt.waiting matched.unique growing v inside
      obtain ⟨none', kept'⟩ := dealt'.waiting matched.unique' (state ▸ growing) v' inside'
      exact ⟨none.trans none'.symm, kept.trans (alike.streak.trans kept'.symm)⟩
    | true =>
      have treated := dealt.treated matched.unique growing v inside
      have treated' := dealt'.treated matched.unique' (state ▸ growing) v' inside'
      rw [matched.policy, ← state, IdleStreaks.next_eq, ← alike.streak, ← IdleStreaks.next_eq,
        ← c.policy.qualifies_congr alike.busy alike.reading] at treated'
      exact treated.settled treated' (answered.2 v.id) (answered'.2 v'.id)
  refine ⟨outcome.1, ?_, outcome.2⟩
  rw [← ticked.destroyed, ← ticked'.destroyed, Call.mem_destroyed, Call.mem_destroyed, outcome.1]

/-- Both ticks leave the same of two pools that are related worker by worker. -/
theorem remain {related : Worker → Worker → Prop} (pairs : List.Forall₂ related workers workers') :
    List.Forall₂ (fun v v' => related v v' ∧ LeftAlike e e' later later' v v')
      (remaining workers e.report.destroyed) (remaining workers' e'.report.destroyed) := by
  have both := pairs.mp (fun _ _ pair left => And.intro pair left)
    (matched.left ticked ticked' dealt dealt')
  refine List.rel_filter ?_ both
  intro v v' pair
  simpa using not_congr pair.2.destroyed

theorem destroyed_eq : r.destroyed = r'.destroyed := by
  rw [dealt.lost matched.unique, dealt'.lost matched.unique', List.countP_map, List.countP_map,
    List.countP_eq_length_filter, List.countP_eq_length_filter]
  refine (List.rel_filter ?_ (matched.left ticked ticked' dealt dealt')).length_eq
  intro v v' left
  simpa using left.destroyed

theorem forgotten_iff : kind ∈ e.report.forgotten ↔ kind ∈ e'.report.forgotten := by
  have state := matched.state_eq dealt dealt'
  have destroyed := matched.destroyed_eq ticked ticked' dealt dealt'
  constructor
  · intro forgotten
    obtain ⟨lone, lost, _⟩ := dealt.dropped forgotten
    exact dealt'.bereft (state ▸ lone) (destroyed ▸ lost)
  · intro forgotten
    obtain ⟨lone, lost, _⟩ := dealt'.dropped forgotten
    exact dealt.bereft (state ▸ lone) (destroyed ▸ lost)

theorem utilization_eq : r.utilization = r'.utilization := by
  have skips : skipsGrowth c.policy r (decide (kind ∈ e.report.forgotten)) =
      skipsGrowth c'.policy r' (decide (kind ∈ e'.report.forgotten)) := by
    simp only [skipsGrowth, matched.state_eq dealt dealt', matched.policy,
      matched.destroyed_eq ticked ticked' dealt dealt',
      matched.forgotten_iff ticked ticked' dealt dealt']
  have mean : Utilization.mean? e.reading (remaining workers e.report.destroyed) =
      Utilization.mean? e'.reading (remaining workers' e'.report.destroyed) := by
    rw [Utilization.mean?, Utilization.mean?]
    refine congrArg _ (map_eq_of_forall₂
      (matched.remain ticked ticked' dealt dealt' matched.workers) fun v v' related => ?_)
    rw [related.1.reading]
  rw [dealt.utilization matched.unique, dealt'.utilization matched.unique', skips, mean]

theorem growth_eq : r.growth = r'.growth := by
  rw [dealt.grown.growth, dealt'.grown.growth, matched.utilization_eq ticked ticked' dealt dealt',
    matched.policy]

theorem requested_eq : r.requested = r'.requested := by
  have answered := Call.ok_of_refusals (ticked.refusals.trans matched.accepted)
  have answered' := Call.ok_of_refusals (ticked'.refusals.trans matched.accepted')
  rw [dealt.requested, dealt'.requested, List.countP_eq_length.mpr (answered.1 kind),
    List.countP_eq_length.mpr (answered'.1 kind), dealt.asked, dealt'.asked, matched.policy,
    matched.state_eq dealt dealt', matched.growth_eq ticked ticked' dealt dealt']

theorem target_eq : later.targets.target? kind = later'.targets.target? kind := by
  rw [dealt.grown.target, dealt'.grown.target, matched.target, matched.policy]
  simp only [nextTarget, matched.state_eq dealt dealt',
    matched.destroyed_eq ticked ticked' dealt dealt',
    matched.forgotten_iff ticked ticked' dealt dealt',
    matched.growth_eq ticked ticked' dealt dealt',
    matched.requested_eq ticked ticked' dealt dealt']

/-- Both ticks report the same of the kind. -/
theorem report_eq : r = r' := by
  have shown : r.target = r'.target := by
    rw [dealt.grown.shown, dealt'.grown.shown, shownTarget, shownTarget, matched.policy,
      matched.target_eq ticked ticked' dealt dealt']
  have named := dealt.named.trans dealt'.named.symm
  have size := dealt.size.trans (matched.workers.length_eq.trans dealt'.size.symm)
  have state := matched.state_eq dealt dealt'
  have utilization := matched.utilization_eq ticked ticked' dealt dealt'
  have growth := matched.growth_eq ticked ticked' dealt dealt'
  have destroyed := matched.destroyed_eq ticked ticked' dealt dealt'
  have requested := matched.requested_eq ticked ticked' dealt dealt'
  cases r
  cases r'
  simp only [PoolReport.mk.injEq]
  exact ⟨named, state, size, shown, utilization, growth, destroyed, requested⟩

end Matched

end Controller

end ElasticPools
