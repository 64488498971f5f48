import ElasticPools.Proofs.Run
import ElasticPools.Proofs.Startup
import ElasticPools.Simulation

/-!
The course of a simulation. It never fails: ticks are numbered upwards, and an accepted
configuration has a sound policy. So every tick has a frame, whether or not a run gets that far.
-/

set_option autoImplicit false

namespace ElasticPools

variable {α : Type}

namespace Cloud

/-- The cloud after some calls. Only accepted ones leave a trace. -/
def replay (c : Cloud α) (calls : List Call) : Cloud α :=
  { c with
    registry := (Call.forgotten calls).foldl Registry.forget c.registry
    creations := c.creations ++ Call.requested calls
    destructions := c.destructions ++ Call.destroyed calls }

theorem request_cases (kind : Kind) (c : Cloud α) :
    c.request kind = (.ok (), { c with creations := c.creations ++ [kind] }) ∨
      ∃ reason, c.request kind = (.error reason, c) := by
  unfold request
  split
  · exact Or.inl rfl
  · split
    · exact Or.inr ⟨_, rfl⟩
    · exact Or.inl rfl

theorem destroy_cases (id : WorkerId) (c : Cloud α) :
    c.destroy id = (.ok (), { c with destructions := c.destructions ++ [id] }) ∨
      ∃ reason, c.destroy id = (.error reason, c) := by
  unfold destroy
  split
  · exact Or.inl rfl
  · exact Or.inr ⟨_, rfl⟩

theorem ids?_replay (c : Cloud α) (calls : List Call) (k : Kind) :
    (c.replay calls).registry.ids? k =
      if k ∈ Call.forgotten calls then none else c.registry.ids? k := by
  have folded : ∀ (kinds : List Kind) (r : Registry),
      (kinds.foldl Registry.forget r).ids? k = if k ∈ kinds then none else r.ids? k := by
    intro kinds
    induction kinds with
    | nil => exact fun r => rfl
    | cons kind kinds ih =>
      intro r
      rw [List.foldl_cons, ih, Registry.ids?_forget]
      by_cases same : kind = k
      · simp [same]
      · simp [same, Ne.symm same]
  exact folded _ _

theorem Consistent.replay {c : Cloud α} (consistent : c.Consistent) (calls : List Call) :
    (c.replay calls).Consistent := by
  have kept : ∀ {k ids}, (c.replay calls).registry.ids? k = some ids →
      c.registry.ids? k = some ids := by
    intro k ids shown
    rw [ids?_replay] at shown
    split at shown
    · cases shown
    · exact shown
  exact ⟨fun k ids shown => consistent.distinct k ids (kept shown),
    fun k ids shown => consistent.owned k ids (kept shown), consistent.issued⟩

variable [Quantity α]

/-- The log of a tick tells all that has happened to the cloud. -/
theorem recorded_keeps_replay (c : Cloud α) :
    (provider (α := α)).recorded.Keeps fun s => s.1 = c.replay s.2 := by
  constructor
  case request =>
    rintro kind ⟨world, calls⟩ (same : world = c.replay calls)
    show (request kind world).2 = c.replay (calls ++ [.request kind (request kind world).1])
    rcases request_cases kind world with accepted | ⟨reason, refused⟩
    · rw [accepted, same]
      simp [replay, Call.requested, Call.destroyed, Call.forgotten]
    · rw [refused, same]
      simp [replay, Call.requested, Call.destroyed, Call.forgotten]
  case destroy =>
    rintro v ⟨world, calls⟩ (same : world = c.replay calls)
    show (destroy v.id world).2 = c.replay (calls ++ [.destruction v.id (destroy v.id world).1])
    rcases destroy_cases v.id world with accepted | ⟨reason, refused⟩
    · rw [accepted, same]
      simp [replay, Call.requested, Call.destroyed, Call.forgotten]
    · rw [refused, same]
      simp [replay, Call.requested, Call.destroyed, Call.forgotten]
  case forget =>
    rintro kind ⟨world, calls⟩ (same : world = c.replay calls)
    show forget kind world = c.replay (calls ++ [.forget kind])
    rw [same]
    simp [replay, forget, Call.requested, Call.destroyed, Call.forgotten]

end Cloud

namespace Simulation

/-- A simulation before its first tick. -/
def initial (config : Configuration α) (capacity : Option Nat) (names : Nat → WorkerId) :
    Simulation α :=
  ⟨⟨config.policy, .empty, .empty, none, .zero⟩,
    (Cloud.new config.kinds config.tickPeriod capacity names).bootstrap⟩

theorem initial_cloud (config : Configuration α) (capacity : Option Nat) (names : Nat → WorkerId) :
    (initial config capacity names).cloud.names = names ∧
      (initial config capacity names).cloud.creations = [] ∧
      (initial config capacity names).cloud.destructions = [] := by
  obtain ⟨_, supplied⟩ := Cloud.bootstrap_supplied config.kinds config.tickPeriod capacity names
  exact ⟨supplied.names, supplied.creations, supplied.destructions⟩

variable [Quantity α] (s : Simulation α)

/-- The next tick, whatever its number. -/
def next (number : Nat) : Frame α :=
  let (report, controller, cloud) :=
    s.controller.evaluateTick Cloud.provider number (s.cloud.advance number)
  ⟨report, ⟨controller, cloud⟩⟩

/-- The simulation after the ticks from 1 to `t`. -/
def after : Nat → Simulation α
  | 0 => s
  | t + 1 => ((after t).next (t + 1)).state

/-- What tick `t + 1` leaves behind. -/
def frame (t : Nat) : Frame α := (s.after t).next (t + 1)

/-- The cloud as tick `t + 1` finds it. -/
def seen (t : Nat) : Cloud α := (s.after t).cloud.advance (t + 1)

/-- The calls of tick `t + 1`. -/
def calls (t : Nat) : List Call :=
  ((s.after t).controller.evaluateTick Cloud.provider.recorded (t + 1) (s.seen t, [])).2.2.2

/-- Tick `t + 1` as an event. -/
abbrev event (t : Nat) : Event α :=
  ⟨(s.seen t).registry, Cloud.provider.reading (s.seen t), (s.frame t).report, s.calls t⟩

theorem ticked (t : Nat) :
    (s.after t).controller.Ticked (s.event t) (s.after (t + 1)).controller := by
  have ticked := (s.after t).controller.evaluateTick_ticked Cloud.provider (t + 1) (s.seen t)
  have same := Controller.evaluateTick_shows (Cloud.provider (α := α)).recorded_shows
    (s.after t).controller (t + 1) (s.seen t, [])
  have report : (s.frame t).report = _ := congrArg (·.1) same
  have controller : (s.after (t + 1)).controller = _ := congrArg (·.2.1) same
  rw [event, report, controller]
  exact ticked

theorem cloud_after (t : Nat) : (s.after (t + 1)).cloud = (s.seen t).replay (s.calls t) := by
  have same := Controller.evaluateTick_shows (Cloud.provider (α := α)).recorded_shows
    (s.after t).controller (t + 1) (s.seen t, [])
  have cloud : (s.after (t + 1)).cloud = _ := congrArg (·.2.2) same
  rw [cloud]
  refine Controller.evaluateTick_keeps (Cloud.recorded_keeps_replay (s.seen t))
    (s.after t).controller (t + 1) ?_
  simp [Cloud.replay, Call.requested, Call.destroyed, Call.forgotten]

theorem steps_after (fresh : s.controller.lastTick = none) (n count : Nat) :
    (s.after n).steps n count = .ok ((List.range' n count).map s.frame) := by
  induction count generalizing n with
  | zero => rfl
  | succ count ih =>
    have numbered : ∀ last ∈ (s.after n).controller.lastTick, last < n + 1 := by
      intro last shown
      cases n with
      | zero =>
        rw [after, fresh] at shown
        cases shown
      | succ n =>
        rw [← Option.some.inj shown]
        exact Nat.lt_succ_self _
    have step : (s.after n).step (n + 1) = .ok (s.frame n) := by
      unfold step
      rw [Controller.tick_of_fresh numbered]
      rfl
    have state : (s.frame n).state = s.after (n + 1) := rfl
    simp only [steps, step, state, ih, List.range'_succ, List.map_cons]

theorem initial_of_start {config : Configuration α} {capacity : Option Nat} {names : Nat → WorkerId}
    {s : Simulation α} (started : start config capacity names = .ok s) :
    s = initial config capacity names := by
  simp only [start, Controller.new] at started
  split at started
  · cases started
  · next created =>
    split at created
    · cases created
      exact (Except.ok.inj started).symm
    · cases created

/-- A simulation that starts does not fail. -/
theorem run_of_start {config : Configuration α} {capacity : Option Nat} {names : Nat → WorkerId}
    {s : Simulation α} (started : start config capacity names = .ok s) (ticks : Nat) :
    run config capacity names ticks = .ok ((List.range ticks).map s.frame) := by
  have fresh : s.controller.lastTick = none := by rw [initial_of_start started, initial]
  have steps := s.steps_after fresh 0 ticks
  rw [← List.range_eq_range'] at steps
  rw [run, started]
  exact steps

/-- The simulation of an accepted configuration does not fail. -/
theorem run_eq_ok {d : Draft α} {config : Configuration α} (accepted : d.check = .ok config)
    (capacity : Option Nat) (names : Nat → WorkerId) (ticks : Nat) :
    run config capacity names ticks =
      .ok ((List.range ticks).map (initial config capacity names).frame) := by
  have sound : config.policy.violation? = none := (Draft.check_sound accepted).1
  have started : start config capacity names = .ok (initial config capacity names) := by
    simp only [start, Controller.new, sound]
    rfl
  exact run_of_start started ticks

end Simulation

end ElasticPools
