import ElasticPools.Proofs.Calls

/-!
Recording changes nothing. A tick cannot tell a provider from a second one whose states show the
same through a view, so reports and tables are those of a tick without a log.
-/

set_option autoImplicit false

namespace ElasticPools

variable {σ τ α : Type} {view : σ → τ} {p : Provider σ α} {q : Provider τ α}

/-- Through `view` the provider `p` answers and moves as `q` does. -/
structure Provider.Shows (view : σ → τ) (p : Provider σ α) (q : Provider τ α) : Prop where
  registry : ∀ s, q.registry (view s) = p.registry s
  reading : ∀ s, q.reading (view s) = p.reading s
  request : ∀ kind s, q.request kind (view s) = ((p.request kind s).1, view (p.request kind s).2)
  destroy : ∀ w s, q.destroy w (view s) = ((p.destroy w s).1, view (p.destroy w s).2)
  forget : ∀ kind s, q.forget kind (view s) = view (p.forget kind s)

theorem Provider.recorded_shows (p : Provider σ α) : p.recorded.Shows Prod.fst p :=
  ⟨fun _ => rfl, fun _ => rfl, fun _ _ => rfl, fun _ _ => rfl, fun _ _ => rfl⟩

def Burst.map (view : σ → τ) (b : Burst σ) : Burst τ :=
  ⟨b.requested, b.accepted, b.failures, view b.world⟩

theorem Provider.Shows.requestMany (shows : p.Shows view q) (kind : Kind) (count : Nat)
    (world : σ) :
    q.requestMany kind count (view world) = (p.requestMany kind count world).map view := by
  induction count generalizing world with
  | zero => rfl
  | succ count ih =>
    unfold Provider.requestMany
    rw [shows.request]
    rcases p.request kind world with ⟨_ | _, later⟩
    · simp only [ih]
      rfl
    · simp only [ih]
      rfl

theorem IdleStreaks.qualify_shows {ε : Type} (s : IdleStreaks) (id : WorkerId) (threshold : Nat)
    (destroy : σ → Except ε Unit × σ) (destroyView : τ → Except ε Unit × τ) (world : σ)
    (same : destroyView (view world) = ((destroy world).1, view (destroy world).2)) :
    s.qualify id threshold destroyView (view world) =
      ((s.qualify id threshold destroy world).1, (s.qualify id threshold destroy world).2.1,
        view (s.qualify id threshold destroy world).2.2) := by
  unfold IdleStreaks.qualify
  split
  · rfl
  · rw [same]
    rcases destroy world with ⟨_ | _, later⟩ <;> rfl

namespace Controller

def Turn.map (view : σ → τ) (t : Turn σ) : Turn τ := ⟨t.streaks, t.targets, view t.world⟩

def Shrink.map (view : σ → τ) (s : Shrink σ) : Shrink τ :=
  ⟨s.streaks, view s.world, s.destroyed, s.failures⟩

def GrowthCheck.map (view : σ → τ) (g : GrowthCheck σ α) : GrowthCheck τ α :=
  ⟨g.utilization, g.growth, g.burst.map view, g.targets⟩

theorem shrinkBy_shows (shows : p.Shows view q) (qualifies : Worker → Bool) (grace : Nat)
    (s : Shrink σ) (w : Worker) :
    shrinkBy q qualifies grace (s.map view) w = (shrinkBy p qualifies grace s w).map view := by
  unfold shrinkBy
  split
  · have same := IdleStreaks.qualify_shows s.streaks w.id grace (p.destroy w) (q.destroy w) s.world
      (shows.destroy w s.world)
    simp only [Shrink.map, same]
    rcases s.streaks.qualify w.id grace (p.destroy w) s.world with ⟨_ | (_ | _), streaks, later⟩ <;>
      rfl
  · rfl

theorem shrink_shows (shows : p.Shows view q) (qualifies : Worker → Bool) (grace : Nat)
    (workers : List Worker) (streaks : IdleStreaks) (world : σ) :
    shrink q qualifies grace workers streaks (view world) =
      (shrink p qualifies grace workers streaks world).map view := by
  have folded : ∀ s : Shrink σ, workers.foldl (shrinkBy q qualifies grace) (s.map view) =
      (workers.foldl (shrinkBy p qualifies grace) s).map view := by
    induction workers with
    | nil => exact fun _ => rfl
    | cons w rest ih =>
      intro s
      rw [List.foldl_cons, List.foldl_cons, shrinkBy_shows shows, ih]
  exact folded ⟨streaks, world, [], []⟩

theorem dropKind_shows (shows : p.Shows view q) (kind : Kind) (workers : List Worker)
    (s : Shrink σ) (targets : Targets) :
    dropKind (α := α) q kind workers (s.map view) targets =
      ((dropKind p kind workers s targets).1, (dropKind (α := α) p kind workers s targets).2.map view) := by
  simp only [dropKind, Shrink.map, shows.forget, Turn.map]

variable [Quantity α]

theorem checkGrowth_shows (shows : p.Shows view q) (policy : Policy α) (reading : Worker → α)
    (kind : Kind) (pool : List Worker) (targets : Targets) (world : σ) :
    checkGrowth policy q reading kind pool targets (view world) =
      (checkGrowth policy p reading kind pool targets world).map view := by
  unfold checkGrowth
  split
  · rfl
  · next mean _ =>
    rw [shows.requestMany]
    cases policy.growth mean <;> rfl

theorem settle_shows (shows : p.Shows view q) (policy : Policy α) (reading : Worker → α)
    (kind : Kind) (state : PoolState) (workers : List Worker) (s : Shrink σ) (targets : Targets) :
    settle policy q reading kind state workers (s.map view) targets =
      ((settle policy p reading kind state workers s targets).1,
        (settle policy p reading kind state workers s targets).2.map view) := by
  obtain ⟨streaks, world, destroyed, failures⟩ := s
  simp only [settle, Shrink.map, checkGrowth_shows shows]
  cases policy.skipGrowthAfterLoss && !destroyed.isEmpty <;> rfl

theorem evaluate_shows (shows : p.Shows view q) (policy : Policy α) (reading : Worker → α)
    (kind : Kind) (workers : List Worker) (turn : Turn σ) :
    evaluate policy q reading kind workers (turn.map view) =
      ((evaluate policy p reading kind workers turn).1,
        (evaluate policy p reading kind workers turn).2.map view) := by
  have targets : (turn.map view).targets = turn.targets := rfl
  unfold evaluate
  rw [targets]
  split
  · simp only [seed, Turn.map, shows.requestMany]
    rfl
  · dsimp only
    generalize PoolState.classify workers.length (shownTarget policy turn.targets kind) = state
    split
    · have shrunk : shrink q (policy.qualifies reading state) (policy.grace state) workers
          (turn.map view).streaks (turn.map view).world = _ :=
        shrink_shows shows (policy.qualifies reading state) (policy.grace state) workers
          turn.streaks turn.world
      rw [shrunk]
      generalize shrink p (policy.qualifies reading state) (policy.grace state) workers
        turn.streaks turn.world = s
      by_cases dropped : (decide (state = .singleton) && !s.destroyed.isEmpty) = true
      · rw [if_pos dropped]
        exact (if_pos dropped).trans (dropKind_shows shows kind workers s turn.targets)
      · rw [if_neg dropped]
        exact (if_neg dropped).trans
          (settle_shows shows policy reading kind state workers s turn.targets)
    · simp only [fill, Turn.map, shows.requestMany]
      rfl

theorem evaluateAll_shows (shows : p.Shows view q) (policy : Policy α) (reading : Worker → α)
    (pools : List (Kind × List Worker)) (turn : Turn σ) :
    evaluateAll policy q reading pools (turn.map view) =
      ((evaluateAll policy p reading pools turn).1,
        (evaluateAll policy p reading pools turn).2.map view) := by
  induction pools generalizing turn with
  | nil => rfl
  | cons pool pools ih =>
    simp only [evaluateAll, evaluate_shows shows, ih]

/-- A tick of a provider looks the same through the view. -/
theorem evaluateTick_shows (shows : p.Shows view q) (c : Controller α) (tick : Nat) (world : σ) :
    c.evaluateTick q tick (view world) =
      ((c.evaluateTick p tick world).1, (c.evaluateTick p tick world).2.1,
        view (c.evaluateTick p tick world).2.2) := by
  have all := evaluateAll_shows shows c.policy (p.reading world) (p.registry world).toList
    ⟨c.streaks.retain (p.registry world).workerIds,
      c.targets.retain (p.registry world).contains, world⟩
  simp only [Turn.map] at all
  simp only [evaluateTick, shows.registry, shows.reading, all]

end Controller

/-- A property of states that no call ends. -/
structure Provider.Keeps (p : Provider σ α) (holds : σ → Prop) : Prop where
  request : ∀ kind s, holds s → holds (p.request kind s).2
  destroy : ∀ w s, holds s → holds (p.destroy w s).2
  forget : ∀ kind s, holds s → holds (p.forget kind s)

/-- A provider of the states that have a property. -/
def Provider.within {holds : σ → Prop} (p : Provider σ α) (keeps : p.Keeps holds) :
    Provider (Subtype holds) α where
  registry s := p.registry s
  reading s := p.reading s
  request kind s := ((p.request kind s).1, ⟨(p.request kind s).2, keeps.request kind s s.2⟩)
  destroy w s := ((p.destroy w s).1, ⟨(p.destroy w s).2, keeps.destroy w s s.2⟩)
  forget kind s := ⟨p.forget kind s, keeps.forget kind s s.2⟩

theorem Provider.within_shows {holds : σ → Prop} (keeps : p.Keeps holds) :
    (p.within keeps).Shows Subtype.val p :=
  ⟨fun _ => rfl, fun _ => rfl, fun _ _ => rfl, fun _ _ => rfl, fun _ _ => rfl⟩

/-- What no call ends holds after each worker of a pool. -/
theorem Controller.shrinkBy_keeps {holds : σ → Prop} (keeps : p.Keeps holds)
    (qualifies : Worker → Bool) (grace : Nat) {s : Shrink σ} (w : Worker) (before : holds s.world) :
    holds (shrinkBy p qualifies grace s w).world := by
  have same := shrinkBy_shows (Provider.within_shows keeps) qualifies grace
    ⟨s.streaks, ⟨s.world, before⟩, s.destroyed, s.failures⟩ w
  rw [show (shrinkBy p qualifies grace s w).world = _ from congrArg Shrink.world same]
  exact Subtype.property _

theorem Controller.evaluate_keeps [Quantity α] {holds : σ → Prop} (keeps : p.Keeps holds)
    (policy : Policy α) (reading : Worker → α) (kind : Kind) (workers : List Worker)
    {turn : Turn σ} (before : holds turn.world) :
    holds (evaluate policy p reading kind workers turn).2.world := by
  have same := evaluate_shows (Provider.within_shows keeps) policy reading kind workers
    ⟨turn.streaks, turn.targets, ⟨turn.world, before⟩⟩
  rw [show (evaluate policy p reading kind workers turn).2.world = _ from
    congrArg (·.2.world) same]
  exact Subtype.property _

/-- What no call ends holds after a whole tick. -/
theorem Controller.evaluateTick_keeps [Quantity α] {holds : σ → Prop} (keeps : p.Keeps holds)
    (c : Controller α) (tick : Nat) {world : σ} (before : holds world) :
    holds (c.evaluateTick p tick world).2.2 := by
  have same := evaluateTick_shows (Provider.within_shows keeps) c tick ⟨world, before⟩
  rw [show (c.evaluateTick p tick world).2.2 = _ from congrArg (·.2.2) same]
  exact Subtype.property _

end ElasticPools
