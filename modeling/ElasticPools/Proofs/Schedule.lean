import ElasticPools.Proofs.Acceptance

/-!
The load of a kind at a tick. It is looked up by passing over phases until one starts later. Phases
of an accepted configuration stand in the order of their starts, so the phases passed over are all
that have started, and the last of them is the one that is in force.
-/

set_option autoImplicit false

namespace ElasticPools

variable {α : Type} {phases : List (Phase α)} {tick : ℕ}

/-- The phase that is in force at a tick: of those that have started, the one that started last. -/
structure InForce (phases : List (Phase α)) (tick : ℕ) (phase : Phase α) : Prop where
  listed : phase ∈ phases
  started : phase.start ≤ tick
  latest : ∀ other ∈ phases, other.start ≤ tick → other.start ≤ phase.start

/-- No phase that has started comes after one that has not. -/
theorem takeWhile_started (starts : phases.Pairwise (·.start < ·.start)) (tick : ℕ) :
    phases.takeWhile (·.start ≤ tick) = phases.filter (·.start ≤ tick) := by
  induction phases with
  | nil => rfl
  | cons phase rest ih =>
    obtain ⟨later, starts⟩ := List.pairwise_cons.mp starts
    by_cases started : phase.start ≤ tick
    · rw [List.takeWhile_cons_of_pos (by simpa), List.filter_cons_of_pos (by simpa), ih starts]
    · have none : rest.filter (·.start ≤ tick) = [] := by
        refine List.filter_eq_nil_iff.mpr fun other member => ?_
        have after := later other member
        rw [decide_eq_true_eq]
        omega
      rw [List.takeWhile_cons_of_neg (by simpa using started),
        List.filter_cons_of_neg (by simpa using started), none]

theorem inForce_of_getLast? (starts : phases.Pairwise (·.start < ·.start)) {phase : Phase α}
    (last : (phases.takeWhile (·.start ≤ tick)).getLast? = some phase) :
    InForce phases tick phase := by
  rw [takeWhile_started starts] at last
  obtain ⟨front, passed⟩ := List.getLast?_eq_some_iff.mp last
  have ordered := starts.filter (·.start ≤ tick)
  have mem_passed : ∀ other, other ∈ phases ∧ other.start ≤ tick ↔ other ∈ front ++ [phase] := by
    intro other
    rw [← passed, List.mem_filter, decide_eq_true_eq]
  obtain ⟨listed, started⟩ := (mem_passed phase).mpr (List.mem_append_right _ List.mem_cons_self)
  refine ⟨listed, started, fun other member started => ?_⟩
  rw [passed, List.pairwise_append] at ordered
  rcases List.mem_append.mp ((mem_passed other).mp ⟨member, started⟩) with before | same
  · exact (ordered.2.2 other before phase List.mem_cons_self).le
  · rw [List.mem_singleton.mp same]

/-- Two phases are never in force together. -/
theorem InForce.unique (starts : phases.Pairwise (·.start < ·.start)) {phase other : Phase α}
    (one : InForce phases tick phase) (two : InForce phases tick other) : phase = other := by
  have distinct : (phases.map (·.start)).Nodup :=
    List.pairwise_map.mpr (starts.imp Nat.ne_of_lt)
  refine List.inj_on_of_nodup_map distinct one.listed two.listed ?_
  exact Nat.le_antisymm (two.latest phase one.listed one.started)
    (one.latest other two.listed two.started)

/-- A phase is in force from its start until just before the next one's. -/
theorem inForce_of_split {before after : List (Phase α)} {phase : Phase α}
    (starts : (before ++ phase :: after).Pairwise (·.start < ·.start)) (started : phase.start ≤ tick)
    (waiting : ∀ next ∈ after.head?, tick < next.start) :
    InForce (before ++ phase :: after) tick phase := by
  obtain ⟨_, rest, earlier⟩ := List.pairwise_append.mp starts
  refine ⟨List.mem_append_right _ List.mem_cons_self, started, fun other member begun => ?_⟩
  rcases List.mem_append.mp member with old | member
  · exact (earlier other old phase List.mem_cons_self).le
  · rcases List.mem_cons.mp member with rfl | late
    · exact le_rfl
    · cases after with
      | nil => cases late
      | cons next others =>
        have soon := waiting next rfl
        obtain ⟨_, later⟩ := List.pairwise_cons.mp rest
        rcases List.mem_cons.mp late with rfl | late
        · omega
        · have after := (List.pairwise_cons.mp later).1 other late
          omega

section Loads

variable [Quantity α] {plan : KindPlan α}

/-- The load is that of the phase in force, or zero when no phase has started. -/
theorem loadAt_cases (starts : plan.phases.Pairwise (·.start < ·.start)) (tick : ℕ) :
    (∃ phase, InForce plan.phases tick phase ∧ plan.loadAt tick = phase.load) ∨
      (∀ phase ∈ plan.phases, tick < phase.start) ∧ plan.loadAt tick = 0.0 := by
  unfold KindPlan.loadAt
  split
  · next none =>
    refine .inr ⟨fun phase member => ?_, rfl⟩
    rw [List.getLast?_eq_none_iff, takeWhile_started starts, List.filter_eq_nil_iff] at none
    simpa using none phase member
  · next phase last => exact .inl ⟨phase, inForce_of_getLast? starts last, rfl⟩

theorem loadAt_of_inForce (starts : plan.phases.Pairwise (·.start < ·.start)) {phase : Phase α}
    (inForce : InForce plan.phases tick phase) : plan.loadAt tick = phase.load := by
  rcases loadAt_cases starts tick with ⟨other, same, load⟩ | ⟨none, _⟩
  · rw [load, same.unique starts inForce]
  · exact absurd inForce.started (Nat.not_le.mpr (none phase inForce.listed))

end Loads

/-- For each kind of an accepted configuration, passing over phases finds all that have started. So the
load is that of the one phase in force, zero before the first one, and it does not change from the
start of a phase until just before the start of the next. -/
theorem loadAt_latest [Quantity α] [Quantity.Ranked α] {d : Draft α} {config : Configuration α}
    (accepted : d.check = .ok config) {plan : KindPlan α} (planned : plan ∈ config.kinds)
    (tick : ℕ) :
    plan.phases.takeWhile (·.start ≤ tick) = plan.phases.filter (·.start ≤ tick) ∧
      (∀ phase, InForce plan.phases tick phase → plan.loadAt tick = phase.load) ∧
      ((∃! phase, InForce plan.phases tick phase) ∨
        (∀ phase ∈ plan.phases, tick < phase.start) ∧ plan.loadAt tick = 0.0) ∧
      ∀ before phase after, plan.phases = before ++ phase :: after → phase.start ≤ tick →
        (∀ next ∈ after.head?, tick < next.start) → plan.loadAt tick = phase.load := by
  have starts := (Draft.scheduled_of_check accepted planned).starts
  refine ⟨takeWhile_started starts tick, fun phase => loadAt_of_inForce starts, ?_, ?_⟩
  · refine (loadAt_cases starts tick).imp_left ?_
    rintro ⟨phase, inForce, _⟩
    exact ⟨phase, inForce, fun other same => same.unique starts inForce⟩
  · intro before phase after parts started waiting
    apply loadAt_of_inForce starts
    rw [parts] at starts ⊢
    exact inForce_of_split starts started waiting

/-- A demand that falls and rises again. -/
def shiftingPlan : KindPlan Float :=
  ⟨⟨"nightly", by decide⟩, 1, [⟨2, 1.5⟩, ⟨5, 0.5⟩, ⟨9, 4.0⟩]⟩

def shifting : Draft Float := ⟨.blank, [shiftingPlan.draft]⟩

/-- Just before the last phase the one before it is still in force. -/
theorem loadAt_latest_shifting :
    shiftingPlan.phases.takeWhile (·.start ≤ 8) = shiftingPlan.phases.filter (·.start ≤ 8) ∧
      (∀ phase, InForce shiftingPlan.phases 8 phase → shiftingPlan.loadAt 8 = phase.load) ∧
      ((∃! phase, InForce shiftingPlan.phases 8 phase) ∨
        (∀ phase ∈ shiftingPlan.phases, 8 < phase.start) ∧ shiftingPlan.loadAt 8 = 0.0) ∧
      (∀ before phase after, shiftingPlan.phases = before ++ phase :: after → phase.start ≤ 8 →
        (∀ next ∈ after.head?, 8 < next.start) → shiftingPlan.loadAt 8 = phase.load) ∧
      shiftingPlan.loadAt 8 = 0.5 := by
  have accepted : shifting.check =
      .ok ⟨shifting.policy.resolve, shifting.policy.tickPeriod, [shiftingPlan]⟩ := by rfl
  obtain ⟨passed, load, cases, constant⟩ := loadAt_latest accepted List.mem_cons_self 8
  exact ⟨passed, load, cases, constant, by rfl⟩

end ElasticPools
