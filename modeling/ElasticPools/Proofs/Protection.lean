import ElasticPools.Proofs.Load

/-!
Workers at work are safe. A worker to which the load of its kind reaches is busy when the controller
looks at it, so it does not qualify, its destruction is not called for, and its kind is not forgotten.
Entering the next tick then stops other machines only.
-/

set_option autoImplicit false

namespace ElasticPools

variable {α : Type} [Quantity α]

/-- Only idle workers are attacked. -/
theorem Controller.Ticked.idle_of_called {c later : Controller α} {e : Event α}
    (ticked : c.Ticked e later) (unique : e.registry.Unique) {v : Worker} {answer : Answer}
    (called : .destruction v.id answer ∈ e.calls) {kind : Kind} {workers : List Worker}
    (found : e.registry.pool? kind = some workers) (inside : v ∈ workers) : v.busy = false := by
  obtain ⟨r, _, dealt⟩ := ticked.pool kind workers found
  have qualifies := (dealt.of_called unique inside called).1
  exact (Policy.of_qualifies qualifies).2.1

namespace Cloud

/-- The load of its kind reaches the worker on this tick. -/
def Carries (c : Cloud α) (tick : Nat) (kind : Kind) (w : WorkerId) : Prop :=
  ∃ share, (w, share) ∈ shares (c.loadAt kind tick) (c.registry.pool kind) ∧ (0.0 : α) < share

variable {c : Cloud α} {kind : Kind} {w : WorkerId} {tick : Nat}

theorem Carries.mem (carries : c.Carries tick kind w) :
    w ∈ (c.registry.pool kind).map (·.id) := by
  obtain ⟨share, member, _⟩ := carries
  rw [← map_fst_shares (c.loadAt kind tick)]
  exact List.mem_map.mpr ⟨(w, share), member, rfl⟩

/-- A worker is busy just if the load of its kind reaches it. -/
theorem busy_iff_carries (consistent : c.Consistent)
    (unrepeated : Unrepeated c.names (c.issued + c.creations.length)) {v : Worker}
    (inside : v ∈ (c.advance tick).registry.pool kind) :
    v.busy = true ↔ (c.advance tick).Carries tick kind v.id := by
  have applied := (applyQueues_spec consistent unrepeated).consistent
  have entered := (advance_spec consistent unrepeated tick).consistent
  have setting : (c.advance tick).setting = c.applyQueues.setting :=
    (setting_advance c tick).trans (setting_applyQueues c).symm
  obtain ⟨workers, found, inside⟩ := Registry.mem_pool.mp inside
  have distinct : (workers.map (·.id)).Nodup :=
    entered.distinct kind _ (Registry.ids?_of_pool? found)
  have pairs : workers.map (fun v => (v.id, v.busy)) =
      (shares (c.applyQueues.loadAt kind tick) workers).map
        fun assigned => (assigned.1, decide ((0.0 : α) < assigned.2)) := by
    rw [← List.zip_map', ← List.zip_map', busy_spreadLoad applied.unique found, map_fst_shares]
  rw [Carries, loadAt_of_setting setting, Registry.pool, found, Option.getD_some]
  constructor
  · intro busy
    have listed : (v.id, true) ∈ workers.map fun v => (v.id, v.busy) :=
      List.mem_map.mpr ⟨v, inside, by rw [busy]⟩
    rw [pairs] at listed
    obtain ⟨⟨w, share⟩, member, same⟩ := List.mem_map.mp listed
    obtain ⟨rfl, positive⟩ := Prod.mk.inj same
    exact ⟨share, member, of_decide_eq_true positive⟩
  · rintro ⟨share, member, positive⟩
    have listed : (v.id, true) ∈ workers.map fun v => (v.id, v.busy) := by
      rw [pairs]
      exact List.mem_map.mpr ⟨(v.id, share), member, by rw [decide_eq_true positive]⟩
    obtain ⟨u, inside', same⟩ := List.mem_map.mp listed
    obtain ⟨named, busy⟩ := Prod.mk.inj same
    rwa [List.inj_on_of_nodup_map distinct inside' inside named] at busy

end Cloud

namespace Simulation

/-- The workers that carry load on tick `t + 1` outlast it, and so do their kinds. -/
structure Protected (s : Simulation α) (t : Nat) : Prop where
  busy_iff : ∀ kind, ∀ v ∈ (s.seen t).registry.pool kind,
    v.busy = true ↔ (s.seen t).Carries (t + 1) kind v.id
  spared : ∀ kind w, (s.seen t).Carries (t + 1) kind w → ∀ answer,
    .destruction w answer ∉ s.calls t
  unforgotten : ∀ kind w, (s.seen t).Carries (t + 1) kind w →
    kind ∉ (s.frame t).report.forgotten
  kept : ∀ kind w, (s.seen t).Carries (t + 1) kind w →
    w ∈ ((s.seen (t + 1)).registry.pool kind).map (·.id)

variable {s : Simulation α} {t : Nat}

section Entered

variable (consistent : s.cloud.Consistent)
  (unrepeated : Cloud.Unrepeated s.cloud.names (s.after (t + 1)).cloud.issued) {kind : Kind}

include consistent unrepeated

theorem busy_iff_carries {v : Worker} (inside : v ∈ (s.seen t).registry.pool kind) :
    v.busy = true ↔ (s.seen t).Carries (t + 1) kind v.id := by
  have before := after_consistent consistent (unrepeated.mono (s.issued_after_mono (Nat.le_succ t)))
  exact Cloud.busy_iff_carries before (unrepeated_queued unrepeated) inside

variable {w : WorkerId} (carries : (s.seen t).Carries (t + 1) kind w)

include carries

theorem not_called_of_carries (answer : Answer) : .destruction w answer ∉ s.calls t := by
  intro called
  have unique : (s.seen t).registry.Unique := (seen_consistent consistent unrepeated).unique
  obtain ⟨v, inside, rfl⟩ := List.mem_map.mp carries.mem
  have busy := (busy_iff_carries consistent unrepeated inside).mpr carries
  obtain ⟨workers, found, inside⟩ := Registry.mem_pool.mp inside
  have idle := (s.ticked t).idle_of_called unique called found inside
  rw [idle] at busy
  cases busy

theorem not_destroyed_of_carries : w ∉ (s.frame t).report.destroyed := by
  intro destroyed
  rw [← (s.ticked t).destroyed, Call.mem_destroyed, Call.mem_attemptsOn] at destroyed
  exact not_called_of_carries consistent unrepeated carries (.ok ()) destroyed

theorem not_forgotten_of_carries : kind ∉ (s.frame t).report.forgotten := by
  intro forgotten
  have unique := (seen_consistent consistent unrepeated).unique
  apply not_destroyed_of_carries consistent unrepeated carries
  exact destroyed_of_forgotten unique forgotten carries.mem

end Entered

/-- The next tick finds what this one has left of a pool, and with it all workers that carry load. -/
theorem protected_of_consistent (consistent : s.cloud.Consistent)
    (unrepeated : Cloud.Unrepeated s.cloud.names (s.after (t + 1 + 1)).cloud.issued) :
    s.Protected t := by
  have earlier := unrepeated.mono (s.issued_after_mono (Nat.le_succ (t + 1)))
  constructor
  case busy_iff => exact fun kind v => busy_iff_carries consistent earlier
  case spared => exact fun kind w => not_called_of_carries consistent earlier
  case unforgotten => exact fun kind w => not_forgotten_of_carries consistent earlier
  case kept =>
    intro kind w carries
    have kept := not_forgotten_of_carries consistent earlier carries
    obtain ⟨v, inside, rfl⟩ := List.mem_map.mp carries.mem
    obtain ⟨workers, found, inside⟩ := Registry.mem_pool.mp inside
    have next := ids?_seen_succ consistent unrepeated (Registry.ids?_of_pool? found) kept
    rw [Registry.map_id_pool, next, Option.getD_some]
    apply List.mem_append_left
    rw [List.mem_filter, decide_eq_true_eq]
    exact ⟨List.mem_map.mpr ⟨v, inside, rfl⟩, not_destroyed_of_carries consistent earlier carries⟩

/-- Throughout the simulation of an accepted configuration, a worker that carries load on a tick is
still in its pool when the next tick has been entered, and its kind is not forgotten in between. -/
theorem run_protected {d : Draft α} {config : Configuration α} (accepted : d.check = .ok config)
    {capacity : Option Nat} {names : Nat → WorkerId} (ticks : Nat)
    (unrepeated : Cloud.Unrepeated names
      ((initial config capacity names).after (ticks + 1)).cloud.issued) :
    run config capacity names ticks =
        .ok ((List.range ticks).map (initial config capacity names).frame) ∧
      ∀ t < ticks, (initial config capacity names).Protected t := by
  have planned : Cloud.AsPlanned (initial config capacity names).cloud config.kinds :=
    initial_asPlanned accepted (unrepeated.mono (issued_after_mono _ (Nat.zero_le _)))
  refine ⟨run_eq_ok accepted capacity names ticks, fun t within => ?_⟩
  apply protected_of_consistent planned.consistent
  rw [(initial_cloud config capacity names).1]
  exact unrepeated.mono (issued_after_mono _ (Nat.succ_le_succ within))

/-- Two workers and a small load, all of which the first one takes. Pools of several workers have one
tick of grace. -/
def pressed : Draft Float :=
  ⟨{ PolicyDraft.blank with profile := some .simple, generalGrace := some 1 },
    [⟨"train", 2, [⟨1, 0.05⟩]⟩]⟩

def pressedConfiguration : Configuration Float :=
  ⟨pressed.policy.resolve, pressed.policy.tickPeriod,
    [⟨⟨"train", by decide⟩, 2, [⟨1, 0.05⟩]⟩]⟩

/-- The first tick destroys the worker that no load reaches, and not the other, which is hardly used. -/
theorem run_protected_pressed :
    run pressedConfiguration (some 5) Identifier.serial 1 =
        .ok ((List.range 1).map (initial pressedConfiguration (some 5) Identifier.serial).frame) ∧
      (∀ t < 1, (initial pressedConfiguration (some 5) Identifier.serial).Protected t) ∧
      ((initial pressedConfiguration (some 5) Identifier.serial).frame 0).report.destroyed =
        [Identifier.serial 1] ∧
      ((initial pressedConfiguration (some 5) Identifier.serial).seen 0).registry.toList =
        [(⟨"train", by decide⟩, [⟨Identifier.serial 0, true⟩, ⟨Identifier.serial 1, false⟩])] := by
  have accepted : pressed.check = .ok pressedConfiguration := by rfl
  have unrepeated : Cloud.Unrepeated Identifier.serial
      ((initial pressedConfiguration (some 5) Identifier.serial).after (1 + 1)).cloud.issued := by
    decide +kernel
  obtain ⟨completed, safe⟩ := run_protected accepted 1 unrepeated
  exact ⟨completed, safe, by decide +kernel, by decide +kernel⟩

end Simulation

end ElasticPools
