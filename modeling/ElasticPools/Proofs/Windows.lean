import ElasticPools.Proofs.Load
import Mathlib.Data.List.Range

/-!
Usage windows over a simulation. Each time a tick is entered, every machine that runs is given one
share, and its window records it, so a window holds what its machine was given last: one share for
each tick since its start, or for each tick of the last hour where these are fewer. That makes at least
one share before any reading, and a reading is the mean of these shares.
-/

set_option autoImplicit false

namespace ElasticPools

variable {α : Type}

namespace Usage

/-- The last of some shares, as many as fit a window. -/
def latest (window : Nat) (given : List α) : Usage α := ⟨given.drop (given.length - window)⟩

theorem latest_nil (window : Nat) : latest window ([] : List α) = .blank := by
  rw [latest, List.drop_nil, blank]

/-- Recording one more share keeps the last ones, be the window full or not. -/
theorem record_latest {window : Nat} (window_pos : 0 < window) (given : List α) (share : α) :
    (latest window given).record window share = latest window (given ++ [share]) := by
  simp only [record, latest, List.length_drop, List.length_append, List.length_singleton]
  split
  · next full =>
    rw [List.tail_drop, List.drop_append_of_le_length (by omega)]
    congr 3
    omega
  · next room =>
    rw [Nat.sub_eq_zero_of_le (by omega), Nat.sub_eq_zero_of_le (by omega), List.drop_zero,
      List.drop_zero]

/-- One share for each of some numbers, as many of the last ones as fit. -/
theorem latest_map_range' (window first count : Nat) (share : Nat → α) :
    latest window ((List.range' first count).map share) =
      ⟨(List.range' (first + count - min count window) (min count window)).map share⟩ := by
  rw [latest, ← List.map_drop, List.length_map, List.length_range', List.drop_range']
  congr 3 <;> omega

end Usage

namespace Cloud

/-- A cloud before its first tick. Machines may run and wait in queues, but have carried nothing. -/
structure Untried (c : Cloud α) : Prop where
  consistent : c.Consistent
  housed : c.Housed c.destructions
  measured : c.Measured
  blank : ∀ w ∈ c.owners, c.usage[w]? = some .blank
  window_pos : 0 < c.window

end Cloud

namespace Simulation

variable [Quantity α] {s : Simulation α} {t : Nat} {w : WorkerId}

/-- What is handed out to a worker when tick `t + 1` is entered. -/
def given (s : Simulation α) (t : Nat) (w : WorkerId) : List α :=
  sharesFor w ((s.after t).cloud.applyQueues.handedOut (t + 1))

/-- The first share that is handed out to a worker when tick `t + 1` is entered. -/
def share (s : Simulation α) (t : Nat) (w : WorkerId) : α := (s.given t w).head?.getD 0.0

/-- The shares of a worker in the last `count` ticks up to tick `t + 1`, oldest first. -/
def lastShares (s : Simulation α) (count : Nat) (w : WorkerId) (t : Nat) : List α :=
  (List.range' (t + 1 - count) count).map (s.share · w)

section Entering

theorem mem_owners_seen : w ∈ (s.seen t).owners ↔ w ∈ (s.after t).cloud.applyQueues.owners := by
  rw [Cloud.mem_owners_iff, Cloud.mem_owners_iff, seen, Cloud.advance,
    (Cloud.spreadLoad_sameMembers _ _).owner]

theorem usage_after (s : Simulation α) (t : Nat) :
    (s.after (t + 1)).cloud.usage = (s.seen t).usage := by
  rw [s.cloud_after t]
  rfl

/-- A machine that runs is given one share. -/
theorem given_eq (consistent : s.cloud.Consistent)
    (unrepeated : Cloud.Unrepeated s.cloud.names (s.after (t + 1)).cloud.issued)
    (agrees : (s.seen t).Agrees) (runs : w ∈ (s.seen t).owners) : s.given t w = [s.share t w] := by
  have earlier := unrepeated.mono (s.issued_after_mono (Nat.le_succ t))
  have applied := (Cloud.applyQueues_spec (after_consistent consistent earlier)
    (unrepeated_queued unrepeated)).consistent
  have same := Cloud.spreadLoad_sameMembers (s.after t).cloud.applyQueues (t + 1)
  obtain ⟨kind, owner⟩ := Cloud.mem_owners_iff.mp runs
  have listed : w ∈ Controller.idsOf (s.after t).cloud.applyQueues.registry.toList := by
    have inside := (agrees.owners w kind).mp owner
    rw [Registry.map_id_pool] at inside
    rw [Cloud.mem_idsOf_toList]
    refine ⟨kind, ?_⟩
    rwa [Registry.map_id_pool, ← same.ids]
  have once : (s.given t w).length = 1 := by
    rw [given, length_sharesFor, Cloud.map_fst_handedOut,
      List.count_eq_one_of_mem applied.unique listed]
  obtain ⟨only, single⟩ := List.length_eq_one_iff.mp once
  rw [share, single]
  rfl

theorem usage_seen (single : s.given t w = [s.share t w]) : (s.seen t).usage[w]? =
    ((s.after t).cloud.applyQueues.usage[w]?).map (·.record s.cloud.window (s.share t w)) := by
  have setting : (s.after t).cloud.applyQueues.setting = s.cloud.setting :=
    (Cloud.setting_applyQueues _).trans (s.setting_after t)
  have window : (s.after t).cloud.applyQueues.window = s.cloud.window :=
    congrArg Cloud.Setting.window setting
  rw [seen, Cloud.advance, Cloud.usage_spreadLoad, ← given, single, window]
  rfl

end Entering

/-- What holds, when tick `t + 1` has been entered, of a worker that has run since tick `born + 1` was.
For one that ran before the first tick, `born` is zero. -/
structure Trails (s : Simulation α) (w : WorkerId) (born t : Nat) : Prop where
  lives : ∀ j ≤ t, w ∈ (s.seen j).owners ↔ born ≤ j
  given : ∀ j, born ≤ j → j ≤ t → s.given j w = [s.share j w]
  usage : (s.seen t).usage[w]? =
    some (.latest s.cloud.window ((List.range' born (t + 1 - born)).map (s.share · w)))

/-- The first share of a worker. -/
theorem Trails.start (window_pos : 0 < s.cloud.window) (runs : w ∈ (s.seen t).owners)
    (unseen : ∀ j < t, w ∉ (s.seen j).owners) (single : s.given t w = [s.share t w])
    (blank : (s.after t).cloud.applyQueues.usage[w]? = some .blank) : s.Trails w t t := by
  constructor
  case lives =>
    intro j before
    rcases Nat.lt_or_eq_of_le before with earlier | rfl
    · exact iff_of_false (unseen j earlier) (Nat.not_le.mpr earlier)
    · exact iff_of_true runs (Nat.le_refl _)
  case given =>
    intro j later before
    obtain rfl := Nat.le_antisymm later before
    exact single
  case usage =>
    rw [usage_seen single, blank, Option.map_some, ← Usage.latest_nil s.cloud.window,
      Usage.record_latest window_pos, Nat.add_sub_cancel_left]
    rfl

/-- One more share. -/
theorem Trails.step (window_pos : 0 < s.cloud.window) {born : Nat} (trails : s.Trails w born t)
    (started : born ≤ t) (runs : w ∈ (s.seen (t + 1)).owners)
    (single : s.given (t + 1) w = [s.share (t + 1) w])
    (kept : (s.after (t + 1)).cloud.applyQueues.usage[w]? = (s.after (t + 1)).cloud.usage[w]?) :
    s.Trails w born (t + 1) := by
  constructor
  case lives =>
    intro j before
    rcases Nat.lt_or_eq_of_le before with earlier | rfl
    · exact trails.lives j (Nat.le_of_lt_succ earlier)
    · exact iff_of_true runs (Nat.le_succ_of_le started)
  case given =>
    intro j later before
    rcases Nat.lt_or_eq_of_le before with earlier | rfl
    · exact trails.given j later (Nat.le_of_lt_succ earlier)
    · exact single
  case usage =>
    have longer : t + 1 + 1 - born = t + 1 - born + 1 := Nat.succ_sub (Nat.le_succ_of_le started)
    have last : born + 1 * (t + 1 - born) = t + 1 := by omega
    rw [usage_seen single, kept, usage_after, trails.usage, Option.map_some,
      Usage.record_latest window_pos, longer, List.range'_concat, last, List.map_append,
      List.map_singleton]

/-- Induction over the ticks: a machine that runs when a tick has been entered was started just then,
or ran in the tick before. -/
theorem exists_trails (untried : s.cloud.Untried)
    (unrepeated : Cloud.Unrepeated s.cloud.names (s.after (t + 1)).cloud.issued)
    (runs : w ∈ (s.seen t).owners) : ∃ born ≤ t, s.Trails w born t := by
  induction t with
  | zero =>
    have agrees := seen_agrees untried.consistent untried.housed untried.measured unrepeated
    have single := given_eq untried.consistent unrepeated agrees runs
    refine ⟨0, Nat.le_refl 0, .start untried.window_pos runs nofun single ?_⟩
    rcases Cloud.applyQueues_origin (mem_owners_seen.mp runs) with ⟨_, blank⟩ | ⟨before, kept⟩
    · exact blank
    · exact kept.trans (untried.blank w before)
  | succ t ih =>
    have earlier := unrepeated.mono (s.issued_after_mono (Nat.le_succ (t + 1)))
    have agrees := seen_agrees untried.consistent untried.housed untried.measured unrepeated
    have single := given_eq untried.consistent unrepeated agrees runs
    rcases Cloud.applyQueues_origin (mem_owners_seen.mp runs) with ⟨named, blank⟩ | ⟨before, kept⟩
    · obtain ⟨i, lower, upper, rfl⟩ := named
      refine ⟨t + 1, Nat.le_refl _, .start untried.window_pos runs (fun u within known => ?_) single
        blank⟩
      rw [s.names_after, Cloud.mem_owners_iff, name_unseen untried.consistent unrepeated lower _
        (Nat.le_of_lt_succ within)] at known
      · obtain ⟨_, owner⟩ := known
        cases owner
      · rw [s.issued_after, seen, (Cloud.advance_supplied _ _).issued]
        exact upper
    · rw [owners_after] at before
      obtain ⟨born, started, trails⟩ := ih earlier before
      exact ⟨born, Nat.le_succ_of_le started,
        trails.step untried.window_pos started runs single kept⟩

/-- The window of a worker that has run since tick `born + 1` was entered, as tick `t + 1` finds it. -/
structure Trailing (s : Simulation α) (window : Nat) (w : WorkerId) (born t : Nat) : Prop where
  lives : ∀ j ≤ t, w ∈ (s.seen j).owners ↔ born ≤ j
  given : ∀ j, born ≤ j → j ≤ t → s.given j w = [s.share j w]
  usage : (s.seen t).usage[w]? = some ⟨s.lastShares (min (t + 1 - born) window) w t⟩
  length : ∀ u, (s.seen t).usage[w]? = some u → 0 < u.shares.length ∧ u.shares.length ≤ window
  reading : ∃ first rest, s.lastShares (min (t + 1 - born) window) w t = first :: rest ∧
    ∀ v : Worker, v.id = w → Cloud.provider.reading (s.seen t) v =
      rest.foldl (· + ·) first / ((min (t + 1 - born) window : Nat) : α)

theorem length_lastShares (s : Simulation α) (count : Nat) (w : WorkerId) (t : Nat) :
    (s.lastShares count w t).length = count := by
  rw [lastShares, List.length_map, List.length_range']

theorem reading_of_usage {v : Worker} {first : α} {rest : List α}
    (found : (s.seen t).usage[v.id]? = some ⟨first :: rest⟩) :
    Cloud.provider.reading (s.seen t) v =
      rest.foldl (· + ·) first / ((rest.length + 1 : Nat) : α) := by
  show (s.seen t).utilization v.id = _
  rw [Cloud.utilization, found]
  rfl

theorem Trails.trailing (window_pos : 0 < s.cloud.window) {born : Nat} (trails : s.Trails w born t)
    (started : born ≤ t) : s.Trailing s.cloud.window w born t := by
  have usage := trails.usage
  rw [Usage.latest_map_range', Nat.add_sub_cancel' (Nat.le_succ_of_le started), ← lastShares] at usage
  have sized := s.length_lastShares (min (t + 1 - born) s.cloud.window) w t
  have some_left : 0 < min (t + 1 - born) s.cloud.window := by omega
  constructor
  case lives => exact trails.lives
  case given => exact trails.given
  case usage => exact usage
  case length =>
    intro u found
    obtain rfl := Option.some.inj (usage.symm.trans found)
    rw [sized]
    exact ⟨some_left, Nat.min_le_right _ _⟩
  case reading =>
    cases shares : s.lastShares (min (t + 1 - born) s.cloud.window) w t with
    | nil =>
      rw [shares, List.length_nil] at sized
      omega
    | cons first rest =>
      rw [shares, List.length_cons] at sized
      refine ⟨first, rest, rfl, fun v named => ?_⟩
      rw [shares, ← named] at usage
      rw [reading_of_usage usage, sized]

section Main

variable {config : Configuration α} {capacity : Option Nat} {names : Nat → WorkerId}

omit [Quantity α] in
theorem initial_untried
    (unrepeated : Cloud.Unrepeated names (initial config capacity names).cloud.issued) :
    (initial config capacity names).cloud.Untried ∧
      (initial config capacity names).cloud.window = Cloud.windowOf config.tickPeriod := by
  have window : (initial config capacity names).cloud.window = Cloud.windowOf config.tickPeriod :=
    congrArg Cloud.Setting.window (Cloud.bootstrap_setting ..)
  refine ⟨?_, window⟩
  constructor
  case consistent => exact (Cloud.bootstrap_started unrepeated).consistent
  case housed =>
    rw [(initial_cloud config capacity names).2.2]
    exact Cloud.bootstrap_housed _ _ _ _
  case measured => exact Cloud.bootstrap_measured _ _ _ _
  case blank => exact fun w => Cloud.bootstrap_usage config.kinds config.tickPeriod capacity names
  case window_pos =>
    rw [window]
    exact Cloud.windowOf_pos _

/-- A simulation that starts runs to its end. Whenever it has entered a tick, the usage window of each
machine that runs holds the shares of its last ticks, one for each tick since it was started, or as
many as make an hour; and its reading is their mean. No machine may be given the name of an earlier
one. -/
theorem windows_trail {s : Simulation α} (started : start config capacity names = .ok s)
    (ticks : Nat) (unrepeated : Cloud.Unrepeated names (s.after ticks).cloud.issued) :
    run config capacity names ticks = .ok ((List.range ticks).map s.frame) ∧
      ∀ t < ticks, ∀ w ∈ (s.seen t).owners, ∃ born ≤ t,
        s.Trailing (max 1 (3600 / max 1 config.tickPeriod)) w born t := by
  refine ⟨run_of_start started ticks, fun t within w runs => ?_⟩
  obtain rfl := initial_of_start started
  obtain ⟨untried, window⟩ :=
    initial_untried (unrepeated.mono (issued_after_mono _ (Nat.zero_le ticks)))
  have apart : Cloud.Unrepeated (initial config capacity names).cloud.names
      ((initial config capacity names).after (t + 1)).cloud.issued := by
    rw [(initial_cloud config capacity names).1]
    exact unrepeated.mono (issued_after_mono _ within)
  obtain ⟨born, since, trails⟩ := exists_trails untried apart runs
  have trailing := trails.trailing untried.window_pos since
  rw [window, Cloud.windowOf, max_comm, max_comm config.tickPeriod] at trailing
  exact ⟨born, since, trailing⟩

end Main

/-- Two ticks make an hour, and machines come and go. -/
def slowConfiguration : Configuration Float := { briefConfiguration with tickPeriod := 1800 }

theorem windows_trail_slow :
    run slowConfiguration none Identifier.serial 5 =
        .ok ((List.range 5).map (initial slowConfiguration none Identifier.serial).frame) ∧
      ∀ t < 5, ∀ w ∈ ((initial slowConfiguration none Identifier.serial).seen t).owners,
        ∃ born ≤ t, (initial slowConfiguration none Identifier.serial).Trailing
          (max 1 (3600 / max 1 slowConfiguration.tickPeriod)) w born t :=
  windows_trail (by rfl) 5 (by decide +kernel)

end Simulation

end ElasticPools
