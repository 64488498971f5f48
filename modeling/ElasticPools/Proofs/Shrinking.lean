import ElasticPools.Proofs.Calls

/-!
What a tick does to the workers of one pool. Each worker is treated once: its streak is cleared, or
it grows, or a destruction is attempted, and the answer decides what is left of the streak.
-/

set_option autoImplicit false

namespace ElasticPools.Controller

variable {σ α : Type}

/-- The ways a worker can be treated whose streak would come to `next`: whether it qualifies, the
answers to the attempts to destroy it, and the streak that is kept. -/
inductive Treatment (next grace : Nat) : Bool → List Answer → Option Nat → Prop where
  | cleared : Treatment next grace false [] none
  | counted (below : next < grace) : Treatment next grace true [] (some next)
  | destroyed (reached : grace ≤ next) : Treatment next grace true [.ok ()] none
  | refused (reached : grace ≤ next) (reason : Refusal) :
      Treatment next grace true [.error reason] (some (grace - 1))

theorem Treatment.length_answers {next grace : Nat} {qualifies : Bool} {answers : List Answer}
    {kept : Option Nat} (treated : Treatment next grace qualifies answers kept) :
    answers.length ≤ 1 := by
  cases treated with
  | cleared | counted => exact Nat.zero_le 1
  | destroyed | refused => exact Nat.le_refl 1

/-- A worker is attacked at most once, and only when it qualifies and its streak is long enough. -/
theorem Treatment.of_mem {next grace : Nat} {qualifies : Bool} {answers : List Answer}
    {kept : Option Nat} (treated : Treatment next grace qualifies answers kept) {answer : Answer}
    (member : answer ∈ answers) : qualifies = true ∧ grace ≤ next := by
  cases treated with
  | cleared => cases member
  | counted below => cases member
  | destroyed reached => exact ⟨rfl, reached⟩
  | refused reached reason => exact ⟨rfl, reached⟩

/-- Progress through a pool, as the log shows it. -/
structure Progress (first last : Shrink (σ × List Call)) (attempts : List (WorkerId × Answer)) :
    Prop where
  log : last.world.2 = first.world.2 ++ attempts.map fun a => .destruction a.1 a.2
  destroyed : last.destroyed = first.destroyed ++ PoolCalls.destroyed attempts
  failures : last.failures = first.failures ++ PoolCalls.refusals (attempts.map (·.2))

theorem Progress.still {first last : Shrink (σ × List Call)} (world : last.world = first.world)
    (destroyed : last.destroyed = first.destroyed) (failures : last.failures = first.failures) :
    Progress first last [] := by
  refine ⟨?_, ?_, ?_⟩
  · rw [world, List.map_nil, List.append_nil]
  · rw [destroyed, PoolCalls.destroyed, List.filterMap_nil, List.append_nil]
  · rw [failures, PoolCalls.refusals, List.map_nil, List.filterMap_nil, List.append_nil]

theorem Progress.trans {a b c : Shrink (σ × List Call)}
    {front back : List (WorkerId × Answer)} (one : Progress a b front)
    (two : Progress b c back) : Progress a c (front ++ back) := by
  refine ⟨?_, ?_, ?_⟩
  · rw [two.log, one.log, List.map_append, List.append_assoc]
  · rw [two.destroyed, one.destroyed, List.append_assoc, PoolCalls.destroyed,
      PoolCalls.destroyed, PoolCalls.destroyed, List.filterMap_append]
  · rw [two.failures, one.failures, List.append_assoc, PoolCalls.refusals, PoolCalls.refusals,
      PoolCalls.refusals, List.map_append, List.filterMap_append]

/-- One worker is treated, and the streaks of all others stay. -/
theorem shrinkBy_recorded (p : Provider σ α) (qualifies : Worker → Bool) (grace : Nat)
    (s : Shrink (σ × List Call)) (v : Worker) :
    ∃ answers,
      Progress s (shrinkBy p.recorded qualifies grace s v) (answers.map fun a => (v.id, a)) ∧
      Treatment (s.streaks.next v.id) grace (qualifies v) answers
        ((shrinkBy p.recorded qualifies grace s v).streaks.count? v.id) ∧
      ∀ w, v.id ≠ w →
        (shrinkBy p.recorded qualifies grace s v).streaks.count? w = s.streaks.count? w := by
  unfold shrinkBy
  by_cases qualified : qualifies v = true
  · by_cases below : s.streaks.next v.id < grace
    · simp only [qualified, if_true, IdleStreaks.qualify_of_lt below]
      refine ⟨[], Progress.still rfl rfl rfl, ?_, ?_⟩
      · rw [IdleStreaks.count?_put, if_pos rfl]
        exact .counted below
      · intro w other
        rw [IdleStreaks.count?_put, if_neg other]
    · have reached : grace ≤ s.streaks.next v.id := Nat.le_of_not_lt below
      rcases answered : p.destroy v s.world.1 with ⟨reason | _, world⟩
      · simp only [qualified, if_true, IdleStreaks.qualify, below, if_false, Provider.recorded,
          answered]
        refine ⟨[.error reason], ⟨rfl, ?_, rfl⟩, ?_, ?_⟩
        · exact (List.append_nil _).symm
        · rw [IdleStreaks.count?_put, if_pos rfl]
          exact .refused reached reason
        · intro w other
          rw [IdleStreaks.count?_put, if_neg other]
      · simp only [qualified, if_true, IdleStreaks.qualify, below, if_false, Provider.recorded,
          answered]
        refine ⟨[.ok ()], ⟨rfl, rfl, ?_⟩, ?_, ?_⟩
        · exact (List.append_nil _).symm
        · rw [IdleStreaks.count?_clear, if_pos rfl]
          exact .destroyed reached
        · intro w other
          rw [IdleStreaks.count?_clear, if_neg other]
  · simp only [qualified, Bool.false_eq_true, if_false]
    refine ⟨[], Progress.still rfl rfl rfl, ?_, ?_⟩
    · rw [IdleStreaks.count?_clear, if_pos rfl]
      exact .cleared
    · intro w other
      rw [IdleStreaks.count?_clear, if_neg other]

/-- What a tick does to a pool: which destructions it attempts, and each worker's treatment. -/
structure Shrinking (qualifies : Worker → Bool) (grace : Nat) (workers : List Worker)
    (first last : Shrink (σ × List Call)) (attempts : List (WorkerId × Answer)) : Prop where
  progress : Progress first last attempts
  within : (attempts.map (·.1)).Sublist (workers.map (·.id))
  others : ∀ w, w ∉ workers.map (·.id) → last.streaks.count? w = first.streaks.count? w
  treated : (workers.map (·.id)).Nodup → ∀ v ∈ workers,
    Treatment (first.streaks.next v.id) grace (qualifies v)
      (PoolCalls.answersOn v.id attempts) (last.streaks.count? v.id)

theorem next_congr {s t : IdleStreaks} {w : WorkerId} (same : s.count? w = t.count? w) :
    s.next w = t.next w := by
  rw [IdleStreaks.next_eq, IdleStreaks.next_eq, same]

/-- Induction over the workers still to come. A worker keeps its streak until its turn and after it,
since no other worker of the pool has its name. -/
theorem foldl_shrinkBy_recorded (p : Provider σ α) (qualifies : Worker → Bool) (grace : Nat)
    (workers : List Worker) (s : Shrink (σ × List Call)) :
    ∃ attempts, Shrinking qualifies grace workers s
      (workers.foldl (shrinkBy p.recorded qualifies grace) s) attempts := by
  induction workers generalizing s with
  | nil =>
    refine ⟨[], Progress.still rfl rfl rfl, List.Sublist.slnil, fun _ _ => rfl, ?_⟩
    intro _ v member
    cases member
  | cons v rest ih =>
    obtain ⟨answers, first, treated, kept⟩ := shrinkBy_recorded p qualifies grace s v
    obtain ⟨attempts, later⟩ := ih (shrinkBy p.recorded qualifies grace s v)
    refine ⟨answers.map (fun a => (v.id, a)) ++ attempts, first.trans later.progress, ?_, ?_, ?_⟩
    · have single : ((answers.map fun a => (v.id, a)).map (·.1)).Sublist [v.id] := by
        match answers, treated.length_answers with
        | [], _ => exact List.nil_sublist _
        | [_], _ => exact List.Sublist.refl _
      simpa only [List.map_append, List.map_cons, List.singleton_append] using
        single.append later.within
    · intro w absent
      rw [List.map_cons, List.mem_cons, not_or] at absent
      rw [List.foldl_cons, later.others w absent.2, kept w (Ne.symm absent.1)]
    · intro distinct u member
      rw [List.map_cons, List.nodup_cons] at distinct
      rw [List.foldl_cons, PoolCalls.answersOn_append]
      rcases List.mem_cons.mp member with rfl | member
      · have unseen : u.id ∉ attempts.map (·.1) :=
          fun seen => distinct.1 (later.within.subset seen)
        rw [PoolCalls.answersOn_map_self, PoolCalls.answersOn_eq_nil unseen, List.append_nil,
          later.others u.id distinct.1]
        exact treated
      · have other : v.id ≠ u.id := by
          intro same
          exact distinct.1 (same ▸ List.mem_map.mpr ⟨u, member, rfl⟩)
        rw [PoolCalls.answersOn_map_other other, List.nil_append,
          ← next_congr (kept u.id other)]
        exact later.treated distinct.2 u member

theorem shrink_recorded (p : Provider σ α) (qualifies : Worker → Bool) (grace : Nat)
    (workers : List Worker) (streaks : IdleStreaks) (world : σ × List Call) :
    ∃ attempts, Shrinking qualifies grace workers ⟨streaks, world, [], []⟩
      (shrink p.recorded qualifies grace workers streaks world) attempts :=
  foldl_shrinkBy_recorded p qualifies grace workers _

end ElasticPools.Controller
