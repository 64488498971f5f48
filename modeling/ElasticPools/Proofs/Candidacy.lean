import ElasticPools.Proofs.Debounce

/-!
Which workers have an idle streak. After a tick these are the workers that it found qualified, by the
rule for the state of their pool, and did not destroy; and no streak has reached the grace of that
state.
-/

set_option autoImplicit false

namespace ElasticPools

variable {σ α : Type} [Quantity α]

/-- In a sound policy every wait takes at least one tick. -/
theorem Policy.Sound.grace_pos {p : Policy α} (sound : p.Sound) (state : PoolState) :
    0 < p.grace state := by
  obtain ⟨singleton, atTarget, general, _⟩ := sound.constants_pos
  cases state with
  | singleton => exact singleton
  | atTarget => exact atTarget
  | seeding | empty | general => exact general

theorem Run.sound {policy : Policy α} {p : Provider σ α} {events : List (Event α)}
    {c : Controller α} (run : Run policy p events c) : policy.Sound := by
  induction run with
  | start created =>
    unfold Controller.new at created
    split at created
    · next none => exact none
    · cases created
  | tick _ _ sound => exact sound

namespace Event

/-- The tick found the worker in a pool that it looked at, and under the rule for that pool's state
the worker qualified: the last worker of a kind by being idle, any other by being little used as
well. -/
def Qualified (policy : Policy α) (e : Event α) (w : WorkerId) : Prop :=
  e.Shows w fun r v => v.busy = false ∧
    (r.state = .singleton ∨
      (r.state = .atTarget ∨ r.state = .general) ∧
        Utilization.sanitize (e.reading v) < policy.minimum)

theorem qualified_iff_counted {policy : Policy α} {e : Event α} {w : WorkerId} :
    e.Qualified policy w ↔ e.Counted policy w := by
  have rule : ∀ (state : PoolState) (v : Worker),
      (v.busy = false ∧ (state = .singleton ∨ (state = .atTarget ∨ state = .general) ∧
        Utilization.sanitize (e.reading v) < policy.minimum)) ↔
      policy.qualifies e.reading state v = true := by
    intro state v
    cases state <;> simp [Policy.qualifies]
  unfold Qualified Counted Shows
  simp only [rule]

end Event

namespace Controller

/-- A worker that qualifies and is not destroyed keeps a streak, and one that keeps a streak has
not reached the grace. -/
theorem Treatment.kept_iff {next grace : Nat} (positive : 0 < grace) {qualifies : Bool}
    {answers : List Answer} {kept : Option Nat} (treated : Treatment next grace qualifies answers kept) :
    (kept.isSome = true ↔ qualifies = true ∧ Except.ok () ∉ answers) ∧ ∀ n ∈ kept, n < grace := by
  cases treated with
  | cleared => simp
  | counted below => simpa using below
  | destroyed reached => simp
  | refused reached reason =>
    refine ⟨by simp, fun n kept => ?_⟩
    rw [← Option.some.inj kept]
    exact Nat.sub_lt positive Nat.one_pos

end Controller

section Main

variable {policy : Policy α} {p : Provider σ α} {e : Event α} {past : List (Event α)}
  {c : Controller α}

/-- After a tick a worker has a streak just if the tick found it qualified and did not destroy it, and
its streak is shorter than the grace of its pool's state. -/
theorem hasStreak_iff (run : Run policy p (e :: past) c)
    (unique : ∀ f ∈ e :: past, f.registry.Unique) (settled : (e :: past).IsChain Event.SameKinds)
    (w : WorkerId) :
    ((c.streaks.count? w).isSome = true ↔
        e.Qualified policy w ∧ .destruction w (.ok ()) ∉ e.calls) ∧
      ∀ n ∈ c.streaks.count? w, ∀ r ∈ e.report.pools, e.Lists r.kind w →
        r.state.evaluatesGrowth = true ∧ n < policy.grace r.state := by
  obtain ⟨before, earlier, ticked⟩ := run.last
  have registry := unique e List.mem_cons_self
  -- a streak that is there was counted on the latest tick
  have counted : ∀ n ∈ c.streaks.count? w,
      e.Counted policy w ∧ Except.ok () ∉ Call.attemptsOn w e.calls := fun n count =>
    ((run.streak unique settled count).mono (Nat.le_max_right n 1)).counted e List.mem_cons_self
  have treated : e.Counted policy w → e.Shows w fun r v => r.state.evaluatesGrowth = true ∧
      Controller.Treatment (before.streaks.next w) (policy.grace r.state) true
        (Call.attemptsOn w e.calls) (c.streaks.count? w) := by
    rintro ⟨r, reported, workers, found, v, inside, rfl, qualifies⟩
    have growing := (Policy.of_qualifies qualifies).1
    have treated := (ticked.poolTick reported found).treated registry growing v inside
    rw [earlier.policy_eq, qualifies] at treated
    exact ⟨r, reported, workers, found, v, inside, rfl, growing, treated⟩
  rw [Event.qualified_iff_counted, ← not_congr Call.mem_attemptsOn]
  refine ⟨⟨fun streak => ?_, fun ⟨qualified, alive⟩ => ?_⟩, fun n count r reported listed => ?_⟩
  · obtain ⟨n, count⟩ := Option.isSome_iff_exists.mp streak
    exact counted n count
  · obtain ⟨r, _, _, _, _, _, _, _, treated⟩ := treated qualified
    exact (treated.kept_iff (run.sound.grace_pos r.state)).1.mpr ⟨rfl, alive⟩
  · obtain ⟨q, member, workers, found, v, inside, named, growing, treated⟩ :=
      treated (counted n count).1
    obtain ⟨others, found', u, inside', named'⟩ := listed
    have same : q.kind = r.kind := registry.kind_eq found found'
      (List.mem_map.mpr ⟨v, inside, named⟩) (List.mem_map.mpr ⟨u, inside', named'⟩)
    rw [← List.inj_on_of_nodup_map ticked.kinds_nodup member reported same]
    exact ⟨growing, (treated.kept_iff (run.sound.grace_pos q.state)).2 n count⟩

/-- A worker that lingers after its destruction starts a new streak on the next tick. -/
theorem Lingering.hasStreak_iff_again :
    ∃ (e : Event Float) (past : List (Event Float)) (c : Controller Float),
      Run (Policy.ofProfile .simple) provider (e :: past) c ∧
      (∃ f ∈ past.head?, .destruction first (.ok ()) ∈ f.calls) ∧
      c.streaks.count? first = some 1 ∧ e.Qualified (Policy.ofProfile .simple) first ∧
      .destruction first (.ok ()) ∉ e.calls ∧
      ∀ r ∈ e.report.pools, e.Lists r.kind first → r.state.evaluatesGrowth = true ∧
        1 < (Policy.ofProfile .simple : Policy Float).grace r.state := by
  have run := (Controller.run_history controller_new provider [pair, pair, pair]).1
  obtain ⟨e, past, c, run, ⟨f, latest, destroyed⟩, count, unique, settled⟩ :
      ∃ (e : Event Float) (past : List (Event Float)) (c : Controller Float),
        Run (Policy.ofProfile .simple) provider (e :: past) c ∧
        (∃ f ∈ past.head?, first ∈ Call.destroyed f.calls) ∧
        c.streaks.count? first = some 1 ∧ (∀ f ∈ e :: past, f.registry.Unique) ∧
        (e :: past).IsChain Event.SameKinds :=
    ⟨_, _, _, run, ⟨_, rfl, by decide +kernel⟩, by decide +kernel, by decide +kernel,
      by decide +kernel⟩
  obtain ⟨streak, short⟩ := hasStreak_iff run unique settled first
  obtain ⟨qualified, alive⟩ := streak.mp (by rw [count]; rfl)
  have called := Call.mem_attemptsOn.mp (Call.mem_destroyed.mp destroyed)
  exact ⟨e, past, c, run, ⟨f, latest, called⟩, count, qualified, alive, short 1 count⟩

end Main

end ElasticPools
