import ElasticPools.Proofs.Candidacy
import ElasticPools.Proofs.Likeness
import ElasticPools.Proofs.Seeding

/-!
How long a streak is, told by what has happened. As long as no destruction is refused, the streak of
a worker is the number of latest ticks in a row that found it qualified, back to the one that last
destroyed it. So a worker is destroyed on the tick that brings this number up to the grace of its
pool's state, and on no other.
-/

set_option autoImplicit false

namespace ElasticPools

/-- A worker that has waited for so many ticks, and has no entry if that is none, comes to one more. -/
theorem IdleStreaks.next_of_count? {streaks : IdleStreaks} {w : WorkerId} {n : Nat}
    (count : streaks.count? w = if n = 0 then none else some n) : streaks.next w = n + 1 := by
  rw [IdleStreaks.next_eq, count]
  split
  · next none => rw [none, Option.getD_none]
  · rfl

namespace Event

variable {α : Type} {e : Event α} {w : WorkerId}

theorem Shows.live {related : PoolReport α → Worker → Prop} (shown : e.Shows w related) :
    w ∈ e.registry.workerIds := by
  obtain ⟨r, _, workers, found, v, inside, named, _⟩ := shown
  exact Registry.mem_workerIds.mpr ⟨r.kind, workers, found, List.mem_map.mpr ⟨v, inside, named⟩⟩

end Event

variable {σ α : Type} [Quantity α]

namespace Event

variable {policy : Policy α} {e : Event α} {w : WorkerId} {n : Nat}

instance (policy : Policy α) (e : Event α) (w : WorkerId) : Decidable (e.Qualified policy w) :=
  inferInstanceAs (Decidable (e.Shows w _))

/-- So many ticks are all that the state of the worker's pool asks for. -/
def GraceReached (policy : Policy α) (e : Event α) (w : WorkerId) (n : Nat) : Prop :=
  e.Shows w fun r _ => policy.grace r.state ≤ n

instance (policy : Policy α) (e : Event α) (w : WorkerId) (n : Nat) :
    Decidable (e.GraceReached policy w n) :=
  inferInstanceAs (Decidable (e.Shows w _))

/-- The tick found the worker qualified, and did not destroy it. -/
def Waits (policy : Policy α) (w : WorkerId) (e : Event α) : Prop :=
  e.Qualified policy w ∧ w ∉ Call.destroyed e.calls

instance (policy : Policy α) (w : WorkerId) (e : Event α) : Decidable (e.Waits policy w) :=
  inferInstanceAs (Decidable (_ ∧ _))

end Event

/-- For how many of these ticks in a row, from the latest one back, the worker has qualified without
being destroyed. -/
def waited (policy : Policy α) (w : WorkerId) (events : List (Event α)) : Nat :=
  (events.takeWhile fun e => e.Waits policy w).length

/-- For how many ticks in a row, up to and with the latest one, the worker has qualified since it was
last destroyed. -/
def streakLength (policy : Policy α) (w : WorkerId) : List (Event α) → Nat
  | [] => 0
  | e :: past => if e.Qualified policy w then waited policy w past + 1 else 0

theorem waited_cons (policy : Policy α) (w : WorkerId) (e : Event α) (past : List (Event α)) :
    waited policy w (e :: past) = if e.Waits policy w then waited policy w past + 1 else 0 := by
  by_cases waits : e.Waits policy w
  · simp [waited, waits]
  · simp [waited, waits]

theorem streakLength_of_alive {policy : Policy α} {w : WorkerId} {e : Event α}
    (alive : w ∉ Call.destroyed e.calls) (past : List (Event α)) :
    streakLength policy w (e :: past) = waited policy w (e :: past) := by
  simp only [streakLength, waited_cons, Event.Waits, alive, not_false_eq_true, and_true]

namespace Controller

/-- Where nothing is refused, a worker's treatment follows from its streak. -/
theorem Treatment.of_accepted {next grace : Nat} {qualifies : Bool} {answers : List Answer}
    {kept : Option Nat} (treated : Treatment next grace qualifies answers kept)
    (accepted : ∀ reason, Except.error reason ∉ answers) :
    answers = (if qualifies = true ∧ grace ≤ next then [.ok ()] else []) ∧
      kept = if qualifies = true ∧ ¬ grace ≤ next then some next else none := by
  cases treated with
  | cleared => simp
  | counted below => simp [Nat.not_le.mpr below]
  | destroyed reached => simp [reached]
  | refused _ reason => exact absurd (List.mem_singleton_self _) (accepted reason)

/-- Of a worker of a pool, a tick shows what it shows of that pool and of that worker. -/
theorem Ticked.shows_iff {c later : Controller α} {e : Event α} (ticked : c.Ticked e later)
    (unique : e.registry.Unique) {r : PoolReport α} (reported : r ∈ e.report.pools)
    {workers : List Worker} (found : e.registry.pool? r.kind = some workers) {v : Worker}
    (inside : v ∈ workers) {related : PoolReport α → Worker → Prop} :
    e.Shows v.id related ↔ related r v := by
  refine ⟨?_, fun shown => ⟨r, reported, workers, found, v, inside, rfl, shown⟩⟩
  rintro ⟨q, member, others, found', u, inside', named, shown⟩
  have kinds : q.kind = r.kind := unique.kind_eq found' found
    (List.mem_map.mpr ⟨u, inside', named⟩) (List.mem_map.mpr ⟨v, inside, rfl⟩)
  obtain rfl : q = r := List.inj_on_of_nodup_map ticked.kinds_nodup member reported kinds
  obtain rfl : others = workers := Option.some.inj (found'.symm.trans found)
  have distinct : (others.map (·.id)).Nodup :=
    (List.nodup_flatMap.mp unique).1 _ (Registry.mem_toList.mpr found)
  rwa [List.inj_on_of_nodup_map distinct inside' inside named] at shown

end Controller

namespace Run

variable {policy : Policy α} {p : Provider σ α} {e : Event α} {past events : List (Event α)}
  {before c : Controller α} {w : WorkerId}

/-- A worker in a pool that is not looked at brings no streak along. -/
theorem count?_of_waiting (run : Run policy p past before)
    (unique : ∀ f ∈ past, f.registry.Unique) (settled : (e :: past).IsChain Event.SameKinds)
    {r : PoolReport α} {workers : List Worker}
    (state : r.state = Controller.stateOf before.policy r.kind workers before.targets)
    (found : e.registry.pool? r.kind = some workers) {v : Worker} (inside : v ∈ workers)
    (still : r.state.evaluatesGrowth = false) : before.streaks.count? v.id = none := by
  cases count : before.streaks.count? v.id with
  | none => rfl
  | some n =>
    have streak := (run.streak unique settled.of_cons count).mono (Nat.le_max_right n 1)
    rw [run.evaluates_after_counted unique settled streak state found inside rfl] at still
    cases still

section Decided

variable (run : Run policy p past before) (ticked : before.Ticked e c)
  (unique : ∀ f ∈ e :: past, f.registry.Unique) (settled : (e :: past).IsChain Event.SameKinds)

include run unique settled

/-- The treatment of a worker of a pool. A pool that is not looked at has no worker that qualifies. -/
theorem decided_of_mem {r : PoolReport α} {workers : List Worker}
    (dealt : Controller.PoolTick before e c r.kind workers r)
    (found : e.registry.pool? r.kind = some workers) {v : Worker} (inside : v ∈ workers)
    (accepted : ∀ reason, .destruction v.id (.error reason) ∉ e.calls) :
    Call.attemptsOn v.id e.calls =
        (if policy.qualifies e.reading r.state v = true ∧
            policy.grace r.state ≤ before.streaks.next v.id then [.ok ()] else []) ∧
      c.streaks.count? v.id =
        if policy.qualifies e.reading r.state v = true ∧
            ¬ policy.grace r.state ≤ before.streaks.next v.id then some (before.streaks.next v.id)
        else none := by
  obtain ⟨registry, others⟩ := List.forall_mem_cons.mp unique
  cases growing : r.state.evaluatesGrowth with
  | true =>
    have treated := dealt.treated registry growing v inside
    rw [run.policy_eq] at treated
    apply treated.of_accepted
    intro reason member
    exact accepted reason (Call.mem_attemptsOn.mp member)
  | false =>
    have unqualified : policy.qualifies e.reading r.state v ≠ true := by
      intro qualifies
      rw [(Policy.of_qualifies qualifies).1] at growing
      cases growing
    obtain ⟨answers, kept⟩ := dealt.waiting registry growing v inside
    have streak := run.count?_of_waiting others settled dealt.state found inside growing
    rw [if_neg (unqualified ·.1), if_neg (unqualified ·.1)]
    exact ⟨answers, kept.trans streak⟩

include ticked

/-- What the latest tick does to a worker, told by the streak that the worker brings along: it is
destroyed if it qualifies and has waited long enough, and else its streak grows or ends. -/
theorem decided (accepted : ∀ reason, .destruction w (.error reason) ∉ e.calls) :
    Call.attemptsOn w e.calls =
        (if e.Qualified policy w ∧ e.GraceReached policy w (before.streaks.next w) then [.ok ()]
          else []) ∧
      c.streaks.count? w =
        if e.Qualified policy w ∧ ¬ e.GraceReached policy w (before.streaks.next w) then
          some (before.streaks.next w)
        else none := by
  by_cases live : w ∈ e.registry.workerIds
  case neg =>
    have unqualified : ¬ e.Qualified policy w := fun qualified => live qualified.live
    obtain ⟨kept, answers⟩ := ticked.absentWorker w live
    rw [if_neg (unqualified ·.1), if_neg (unqualified ·.1)]
    exact ⟨answers, kept⟩
  obtain ⟨kind, workers, found, listed⟩ := Registry.mem_workerIds.mp live
  obtain ⟨v, inside, rfl⟩ := List.mem_map.mp listed
  obtain ⟨r, reported, dealt⟩ := ticked.pool kind workers found
  obtain rfl := dealt.named
  have registry := unique e List.mem_cons_self
  have qualified : e.Qualified policy v.id ↔ policy.qualifies e.reading r.state v = true := by
    rw [Event.qualified_iff_counted]
    exact ticked.shows_iff registry reported found inside
  have reached : e.GraceReached policy v.id (before.streaks.next v.id) ↔
      policy.grace r.state ≤ before.streaks.next v.id :=
    ticked.shows_iff registry reported found inside
  simp only [qualified, reached]
  exact run.decided_of_mem unique settled dealt found inside accepted

end Decided

/-- Induction over the run: a streak is as long as the worker has waited. -/
theorem count?_eq (run : Run policy p events c) (unique : ∀ f ∈ events, f.registry.Unique)
    (settled : events.IsChain Event.SameKinds)
    (accepted : ∀ f ∈ events, ∀ reason, .destruction w (.error reason) ∉ f.calls) :
    c.streaks.count? w = if waited policy w events = 0 then none else some (waited policy w events) := by
  induction events generalizing c with
  | nil =>
    rw [run.new_eq.2, IdleStreaks.count?_empty]
    rfl
  | cons e past ih =>
    obtain ⟨before, earlier, ticked⟩ := run.last
    obtain ⟨answers, kept⟩ := earlier.decided ticked unique settled (accepted e List.mem_cons_self)
    have count := ih earlier (List.forall_mem_of_forall_mem_cons unique) settled.of_cons
      (List.forall_mem_of_forall_mem_cons accepted)
    have next := IdleStreaks.next_of_count? count
    have waits : e.Waits policy w ↔
        e.Qualified policy w ∧ ¬ e.GraceReached policy w (before.streaks.next w) := by
      refine and_congr_right fun qualified => not_congr ?_
      rw [Call.mem_destroyed, answers]
      simp [qualified]
    rw [kept, waited_cons, next]
    rw [next] at waits
    simp only [waits]
    split
    · rw [if_neg (Nat.succ_ne_zero _)]
    · rfl

end Run

section Main

variable {policy : Policy α} {p : Provider σ α} {e : Event α} {past : List (Event α)}
  {c : Controller α}

/-- No destruction is missed and none comes late. Where none is refused, a tick destroys a worker
just if the worker qualifies and its streak has reached the grace of its pool's state, and a worker
that is not destroyed is left with just that streak. -/
theorem destruction_iff_streakLength (run : Run policy p (e :: past) c)
    (unique : ∀ f ∈ e :: past, f.registry.Unique) (settled : (e :: past).IsChain Event.SameKinds)
    (accepted : ∀ f ∈ e :: past, ∀ w reason, .destruction w (.error reason) ∉ f.calls)
    (w : WorkerId) :
    ((∃ answer, .destruction w answer ∈ e.calls) ↔
        e.Qualified policy w ∧ e.GraceReached policy w (streakLength policy w (e :: past))) ∧
      ((∀ answer, .destruction w answer ∉ e.calls) → c.streaks.count? w =
        if streakLength policy w (e :: past) = 0 then none
        else some (streakLength policy w (e :: past))) := by
  constructor
  · obtain ⟨before, earlier, ticked⟩ := run.last
    obtain ⟨answers, _⟩ := earlier.decided ticked unique settled (accepted e List.mem_cons_self w)
    have count := earlier.count?_eq (List.forall_mem_of_forall_mem_cons unique) settled.of_cons
      fun f member => accepted f (List.mem_cons_of_mem e member) w
    rw [IdleStreaks.next_of_count? count] at answers
    simp only [← Call.mem_attemptsOn, answers]
    by_cases qualified : e.Qualified policy w
    · simp [streakLength, qualified]
    · simp [qualified]
  · intro uncalled
    have alive : w ∉ Call.destroyed e.calls := fun destroyed =>
      uncalled _ (Call.mem_attemptsOn.mp (Call.mem_destroyed.mp destroyed))
    rw [streakLength_of_alive alive]
    exact run.count?_eq unique settled fun f member => accepted f member w

/-- A worker that is alone on three ticks and qualified has a streak of four when it is joined by
another, which is more than the grace of the larger pool. The busy worker that joins it has none. -/
theorem Lingering.destruction_iff_streakLength_joined :
    ∃ (e : Event Float) (past : List (Event Float)) (c : Controller Float),
      Run (Policy.ofProfile .simple) provider (e :: past) c ∧
      streakLength (Policy.ofProfile .simple) first (e :: past) = 4 ∧
      (∃ answer, .destruction first answer ∈ e.calls) ∧
      streakLength (Policy.ofProfile .simple) second (e :: past) = 0 ∧
      c.streaks.count? second = none := by
  have run := (Controller.run_history controller_new provider [joined, alone, alone, alone]).1
  obtain ⟨e, past, c, run, four, zero, reached, uncalled, unique, settled, unrefused⟩ :
      ∃ (e : Event Float) (past : List (Event Float)) (c : Controller Float),
        Run (Policy.ofProfile .simple) provider (e :: past) c ∧
        streakLength (Policy.ofProfile .simple) first (e :: past) = 4 ∧
        streakLength (Policy.ofProfile .simple) second (e :: past) = 0 ∧
        (e.Qualified (Policy.ofProfile .simple) first ∧
          e.GraceReached (Policy.ofProfile .simple) first 4) ∧
        Call.attemptsOn second e.calls = [] ∧ (∀ f ∈ e :: past, f.registry.Unique) ∧
        (e :: past).IsChain Event.SameKinds ∧ ∀ f ∈ e :: past, Call.refusals f.calls = [] := by
    refine ⟨_, _, _, run, ?_, ?_, ?_, ?_, ?_, ?_, ?_⟩
    all_goals decide +kernel
  have decided := destruction_iff_streakLength run unique settled fun f member w reason called =>
    (Call.ok_of_refusals (unrefused f member)).2 w reason (Call.mem_attemptsOn.mpr called)
  refine ⟨e, past, c, run, four, (decided first).1.mpr ?_, zero, ?_⟩
  · rw [four]
    exact reached
  · refine ((decided second).2 fun answer called => ?_).trans (if_pos zero)
    rw [← Call.mem_attemptsOn, uncalled] at called
    exact List.not_mem_nil called

end Main

end ElasticPools
