import ElasticPools.Proofs.Seeding
import Mathlib.Data.List.Forall2

/-!
Repeated tick numbers. A controller is called at some moments, with any number, and whatever happens
to the provider in between. A call whose number is not above all earlier ones leaves no trace, and
of the other calls only the order counts: streaks grow by calls and not by numbers.
-/

set_option autoImplicit false

namespace ElasticPools

variable {σ α : Type}

/-- Something happens to the provider, and then the controller may be called. -/
structure Moment (σ : Type) where
  change : σ → σ
  call : Option Nat

/-- A controller and the state of its provider. -/
structure Scene (σ α : Type) where
  controller : Controller α
  world : σ

inductive Outcome (α : Type) where
  | silent
  | evaluated (report : Report α) (calls : List Call)
  | repeated (r : RepeatedTick)

namespace Outcome

/-- The outcome of a moment that makes no call where the call would be in vain. -/
def hushed : Outcome α → Outcome α
  | repeated _ => silent
  | outcome => outcome

/-- All that does not tell the number of the tick. -/
def untimed : Outcome α → Outcome α
  | evaluated report calls => evaluated { report with tick := 0 } calls
  | outcome => outcome

end Outcome

namespace Moment

/-- The numbers of all calls, in their order. -/
def numbers (ms : List (Moment σ)) : List Nat := ms.filterMap (·.call)

/-- Without its call. -/
def hushed (m : Moment σ) : Moment σ := { m with call := none }

/-- A call, if there is one, has a number above some others. -/
def isFresh (earlier : List Nat) (m : Moment σ) : Bool :=
  m.call.all fun n => earlier.all (· < n)

/-- The same moments, but only with the calls whose numbers are above all earlier ones. -/
def kept (earlier : List Nat) : List (Moment σ) → List (Moment σ)
  | [] => []
  | m :: ms =>
    (if m.isFresh earlier then m else m.hushed) :: kept (earlier ++ m.call.toList) ms

/-- The same moment, but for the number of its call. -/
structure Renumbers (m m' : Moment σ) : Prop where
  change : m'.change = m.change
  call : m'.call.isSome = m.call.isSome

theorem numbers_cons (m : Moment σ) (ms : List (Moment σ)) :
    numbers (m :: ms) = m.call.toList ++ numbers ms := by
  unfold numbers
  cases called : m.call with
  | none => rw [List.filterMap_cons_none called]; rfl
  | some n => rw [List.filterMap_cons_some called]; rfl

theorem isFresh_of_call {m : Moment σ} {n : Nat} (called : m.call = some n) (earlier : List Nat) :
    m.isFresh earlier = true ↔ ∀ k ∈ earlier, k < n := by
  simp [isFresh, called]

theorem isFresh_of_silence {m : Moment σ} (silent : m.call = none) (earlier : List Nat) :
    m.isFresh earlier = true := by
  simp [isFresh, silent]

/-- The calls that are kept have rising numbers. -/
theorem numbers_kept (earlier : List Nat) (ms : List (Moment σ)) :
    (∀ n ∈ numbers (kept earlier ms), ∀ k ∈ earlier, k < n) ∧
      (numbers (kept earlier ms)).Pairwise (· < ·) := by
  induction ms generalizing earlier with
  | nil => exact ⟨fun n member => absurd member List.not_mem_nil, .nil⟩
  | cons m ms ih =>
    obtain ⟨above, rising⟩ := ih (earlier ++ m.call.toList)
    have later : ∀ n ∈ numbers (kept (earlier ++ m.call.toList) ms), ∀ k ∈ earlier, k < n :=
      fun n member k listed => above n member k (List.mem_append_left _ listed)
    rw [kept, numbers_cons]
    cases called : m.call with
    | none =>
      rw [isFresh_of_silence called, if_pos rfl, called]
      rw [called] at later rising
      exact ⟨later, rising⟩
    | some n =>
      rw [called] at later rising above
      by_cases fresh : m.isFresh earlier = true
      · rw [if_pos fresh, called]
        rw [isFresh_of_call called] at fresh
        refine ⟨fun i member => ?_, List.pairwise_cons.mpr ⟨fun i member => ?_, rising⟩⟩
        · rcases List.mem_cons.mp member with rfl | member
          · exact fresh
          · exact later i member
        · exact above i member n (List.mem_append_right _ (List.mem_singleton.mpr rfl))
      · rw [if_neg fresh]
        exact ⟨later, rising⟩

end Moment

section Latest

/-- A number above all others is the greatest. -/
theorem max?_append_of_lt {earlier : List Nat} {n : Nat} (fresh : ∀ k ∈ earlier, k < n) :
    (earlier ++ [n]).max? = some n := by
  rw [List.max?_eq_some_iff]
  refine ⟨List.mem_append_right _ (List.mem_singleton.mpr rfl), fun k member => ?_⟩
  rcases List.mem_append.mp member with listed | same
  · exact Nat.le_of_lt (fresh k listed)
  · exact Nat.le_of_eq (List.mem_singleton.mp same)

/-- Another number changes nothing. -/
theorem max?_append_of_le {earlier : List Nat} {last n : Nat} (greatest : earlier.max? = some last)
    (stale : n ≤ last) : (earlier ++ [n]).max? = some last := by
  rw [List.max?_eq_some_iff] at greatest ⊢
  refine ⟨List.mem_append_left _ greatest.1, fun k member => ?_⟩
  rcases List.mem_append.mp member with listed | same
  · exact greatest.2 k listed
  · rwa [List.mem_singleton.mp same]

/-- A number that is not above all others is not above the greatest. -/
theorem exists_max?_of_not_lt {earlier : List Nat} {n : Nat} (stale : ¬ ∀ k ∈ earlier, k < n) :
    ∃ last, earlier.max? = some last ∧ n ≤ last := by
  obtain ⟨k, listed, above⟩ : ∃ k ∈ earlier, n ≤ k := by
    simpa only [not_forall, Nat.not_lt, exists_prop] using stale
  cases greatest : earlier.max? with
  | none => exact absurd listed (List.max?_eq_none_iff.mp greatest ▸ List.not_mem_nil)
  | some last =>
    exact ⟨last, rfl, Nat.le_trans above ((List.max?_eq_some_iff.mp greatest).2 k listed)⟩

end Latest

/-- All but the number of the latest tick. -/
def Controller.untimed (c : Controller α) : Controller α := { c with lastTick := none }

namespace Scene

def untimed (s : Scene σ α) : Scene σ α := { s with controller := s.controller.untimed }

/-- The latest tick and all numbers to come are rising. -/
def Rising (s : Scene σ α) (ms : List (Moment σ)) : Prop :=
  (s.controller.lastTick.toList ++ Moment.numbers ms).Pairwise (· < ·)

theorem Rising.fresh {s : Scene σ α} {m : Moment σ} {ms : List (Moment σ)} {n : Nat}
    (rising : s.Rising (m :: ms)) (called : m.call = some n) :
    ∀ last ∈ s.controller.lastTick, last < n := by
  intro last shown
  rw [Rising, Moment.numbers_cons, called] at rising
  exact (List.pairwise_append.mp rising).2.2 last (Option.mem_toList.mpr shown) n
    (List.mem_append_left _ (List.mem_singleton.mpr rfl))

variable [Quantity α]

/-- One moment, with what comes of it. -/
def attend (p : Provider σ α) (s : Scene σ α) (m : Moment σ) : Outcome α × Scene σ α :=
  let world := m.change s.world
  match m.call with
  | none => (.silent, { s with world })
  | some n =>
    match s.controller.tick p.recorded n (world, []) with
    | .error refused => (.repeated refused.toRepeatedTick, ⟨refused.controller, refused.world.1⟩)
    | .ok (report, later, after, calls) => (.evaluated report calls, ⟨later, after⟩)

/-- Some moments, one after the other. -/
def pass (p : Provider σ α) (s : Scene σ α) : List (Moment σ) → List (Outcome α) × Scene σ α
  | [] => ([], s)
  | m :: ms =>
    let (outcome, next) := s.attend p m
    let (outcomes, last) := pass p next ms
    (outcome :: outcomes, last)

/-- How a moment goes that follows calls with some numbers. -/
structure Judged (p : Provider σ α) (s : Scene σ α) (earlier : List Nat) (m : Moment σ)
    (outcome : Outcome α) (next : Scene σ α) : Prop where
  silent : m.call = none → outcome = .silent ∧ next = ⟨s.controller, m.change s.world⟩
  accepted : ∀ n, m.call = some n → (∀ k ∈ earlier, k < n) → ∃ report later after calls,
    s.controller.tick p.recorded n (m.change s.world, []) = .ok (report, later, after, calls) ∧
      report.tick = n ∧ outcome = .evaluated report calls ∧ next = ⟨later, after⟩
  rejected : ∀ n, m.call = some n → ¬ (∀ k ∈ earlier, k < n) → ∃ last,
    earlier.max? = some last ∧
      s.controller.tick p.recorded n (m.change s.world, []) =
        .error ⟨⟨last, n⟩, s.controller, m.change s.world, []⟩ ∧
      outcome = .repeated ⟨last, n⟩ ∧ next = ⟨s.controller, m.change s.world⟩

variable {p : Provider σ α} {s s' : Scene σ α} {earlier : List Nat} {m m' : Moment σ} {n : Nat}

theorem attend_of_silence (silent : m.call = none) :
    s.attend p m = (.silent, ⟨s.controller, m.change s.world⟩) := by
  rw [attend, silent]

theorem attend_of_lt (called : m.call = some n) (fresh : ∀ last ∈ s.controller.lastTick, last < n) :
    s.attend p m =
      let (report, later, after, calls) :=
        s.controller.evaluateTick p.recorded n (m.change s.world, [])
      (.evaluated report calls, ⟨later, after⟩) := by
  rw [attend, called]
  simp only [Controller.tick_of_fresh fresh]

theorem attend_of_le (called : m.call = some n) {last : Nat}
    (greatest : s.controller.lastTick = some last) (stale : n ≤ last) :
    s.attend p m = (.repeated ⟨last, n⟩, ⟨s.controller, m.change s.world⟩) := by
  rw [attend, called]
  simp only [Controller.tick_of_stale greatest stale]

/-- The latest tick is told by the numbers of all calls so far. -/
theorem attend_judged (latest : s.controller.lastTick = earlier.max?) (m : Moment σ) :
    Judged p s earlier m (s.attend p m).1 (s.attend p m).2 := by
  constructor
  case silent =>
    intro silent
    rw [attend_of_silence silent]
    exact ⟨rfl, rfl⟩
  case accepted =>
    intro n called above
    have fresh : ∀ last ∈ s.controller.lastTick, last < n := fun last shown =>
      above last (List.max?_eq_some_iff.mp (latest.symm.trans shown)).1
    rw [attend_of_lt called fresh]
    exact ⟨_, _, _, _, Controller.tick_of_fresh fresh .., rfl, rfl, rfl⟩
  case rejected =>
    intro n called stale
    obtain ⟨last, greatest, below⟩ := exists_max?_of_not_lt stale
    have shown := latest.trans greatest
    rw [attend_of_le called shown below]
    exact ⟨last, greatest, Controller.tick_of_stale shown below .., rfl, rfl⟩

theorem lastTick_attend (latest : s.controller.lastTick = earlier.max?) (m : Moment σ) :
    (s.attend p m).2.controller.lastTick = (earlier ++ m.call.toList).max? := by
  have judged := attend_judged (p := p) latest m
  cases called : m.call with
  | none => rw [(judged.silent called).2, latest, Option.toList_none, List.append_nil]
  | some n =>
    by_cases fresh : ∀ k ∈ earlier, k < n
    · obtain ⟨_, later, _, _, accepted, _, _, next⟩ := judged.accepted n called fresh
      have numbered : later.lastTick = some n := by
        have same := Controller.tick_eq_ok accepted
        exact (congrArg (·.2.1.lastTick) same).symm
      rw [next, Option.toList_some, max?_append_of_lt fresh, numbered]
    · obtain ⟨last, greatest, below⟩ := exists_max?_of_not_lt fresh
      obtain ⟨_, _, _, _, next⟩ := judged.rejected n called fresh
      rw [next, Option.toList_some, max?_append_of_le greatest below, latest, greatest]

/-- Induction over the moments. -/
theorem pass_judged (latest : s.controller.lastTick = earlier.max?) (ms : List (Moment σ))
    {i : Nat} (shown : ms[i]? = some m) :
    ∃ outcome, (s.pass p ms).1[i]? = some outcome ∧
      Judged p (s.pass p (ms.take i)).2 (earlier ++ Moment.numbers (ms.take i)) m outcome
        (s.pass p (ms.take (i + 1))).2 := by
  induction ms generalizing s earlier i with
  | nil => cases shown
  | cons m' ms ih =>
    cases i with
    | zero =>
      obtain rfl := Option.some.inj shown
      refine ⟨_, rfl, ?_⟩
      rw [List.take_zero, show Moment.numbers ([] : List (Moment σ)) = [] from rfl, List.append_nil]
      exact attend_judged latest m'
    | succ i =>
      obtain ⟨outcome, reached, judged⟩ := ih (lastTick_attend (p := p) latest m') shown
      rw [List.append_assoc, ← Moment.numbers_cons] at judged
      exact ⟨outcome, reached, judged⟩

/-- Calls in vain can be left out. -/
theorem pass_kept (latest : s.controller.lastTick = earlier.max?) (ms : List (Moment σ)) :
    s.pass p (Moment.kept earlier ms) = ((s.pass p ms).1.map Outcome.hushed, (s.pass p ms).2) := by
  induction ms generalizing s earlier with
  | nil => rfl
  | cons m ms ih =>
    have judged := attend_judged (p := p) latest m
    have rest := ih (lastTick_attend (p := p) latest m)
    -- a call in vain leaves what no call leaves
    have one : s.attend p (if m.isFresh earlier then m else m.hushed) =
        ((s.attend p m).1.hushed, (s.attend p m).2) := by
      cases called : m.call with
      | none =>
        rw [Moment.isFresh_of_silence called, if_pos rfl, attend_of_silence called]
        rfl
      | some n =>
        by_cases fresh : m.isFresh earlier = true
        · rw [if_pos fresh]
          rw [Moment.isFresh_of_call called] at fresh
          obtain ⟨_, _, _, _, _, _, outcome, _⟩ := judged.accepted n called fresh
          exact Prod.ext (by rw [outcome]; rfl) rfl
        · rw [if_neg fresh, attend_of_silence rfl]
          rw [Moment.isFresh_of_call called] at fresh
          obtain ⟨_, _, _, outcome, next⟩ := judged.rejected n called fresh
          rw [outcome, next]
          rfl
    simp only [pass, Moment.kept, one, rest, List.map_cons]

/-- Of its number a tick makes no use. -/
theorem evaluateTick_untimed {c c' : Controller α} (same : c.untimed = c'.untimed)
    (p : Provider σ α) (n n' : Nat) (world : σ) :
    c'.evaluateTick p n' world =
      ({ (c.evaluateTick p n world).1 with tick := n' },
        { (c.evaluateTick p n world).2.1 with lastTick := some n' },
        (c.evaluateTick p n world).2.2) := by
  obtain ⟨policy, streaks, targets, last, totals⟩ := c
  obtain ⟨policy', streaks', targets', last', totals'⟩ := c'
  simp only [Controller.untimed, Controller.mk.injEq, true_and] at same
  obtain ⟨rfl, rfl, rfl, rfl⟩ := same
  rfl

theorem Rising.attend {ms : List (Moment σ)} (rising : s.Rising (m :: ms)) :
    (s.attend p m).2.Rising ms := by
  cases called : m.call with
  | none =>
    rw [attend_of_silence called]
    rwa [Rising, Moment.numbers_cons, called] at rising
  | some n =>
    rw [attend_of_lt called (rising.fresh called)]
    rw [Rising, Moment.numbers_cons, called] at rising
    exact (List.pairwise_append.mp rising).2.1

/-- Scenes that differ in the number of the latest tick go on so when both are called, or neither
is. -/
theorem attend_untimed (same : s.untimed = s'.untimed) (renumbers : m.Renumbers m')
    {ms ms' : List (Moment σ)} (rising : s.Rising (m :: ms)) (rising' : s'.Rising (m' :: ms')) :
    (s'.attend p m').1.untimed = (s.attend p m).1.untimed ∧
      (s'.attend p m').2.untimed = (s.attend p m).2.untimed := by
  have world : s'.world = s.world := (congrArg Scene.world same).symm
  have controller : s.controller.untimed = s'.controller.untimed := congrArg Scene.controller same
  have calls := renumbers.call
  cases called : m.call with
  | none =>
    rw [called, Option.isSome_none, Option.isSome_eq_false_iff, Option.isNone_iff_eq_none] at calls
    rw [attend_of_silence called, attend_of_silence calls, renumbers.change, world]
    refine ⟨rfl, ?_⟩
    rw [untimed, untimed, controller]
  | some n =>
    rw [called, Option.isSome_some, Option.isSome_iff_exists] at calls
    obtain ⟨n', called'⟩ := calls
    rw [attend_of_lt called (rising.fresh called), attend_of_lt called' (rising'.fresh called'),
      evaluateTick_untimed controller p.recorded n n', renumbers.change, world]
    exact ⟨rfl, rfl⟩

/-- Induction over the moments of both. -/
theorem pass_untimed {ms ms' : List (Moment σ)} (same : s.untimed = s'.untimed)
    (renumbers : List.Forall₂ Moment.Renumbers ms ms') (rising : s.Rising ms)
    (rising' : s'.Rising ms') :
    (s'.pass p ms').1.map Outcome.untimed = (s.pass p ms).1.map Outcome.untimed ∧
      (s'.pass p ms').2.untimed = (s.pass p ms).2.untimed := by
  induction renumbers generalizing s s' with
  | nil => exact ⟨rfl, same.symm⟩
  | cons pair _ ih =>
    obtain ⟨outcome, next⟩ := attend_untimed (p := p) same pair rising rising'
    obtain ⟨outcomes, last⟩ := ih next.symm rising.attend rising'.attend
    exact ⟨List.cons_eq_cons.mpr ⟨outcome, outcomes⟩, last⟩

end Scene

/-- Whatever numbers a new controller is called with, and whatever happens in between: a call is
accepted just when its number is above all earlier ones, and any other call tells the greatest of
them and changes nothing. So all goes as it does without the calls in vain, and those that remain
may be given any other rising numbers. -/
theorem repetition_invisible [Quantity α] {policy : Policy α} {c : Controller α}
    (created : Controller.new policy = .ok c) (p : Provider σ α) (world : σ)
    (ms : List (Moment σ)) :
    (∀ i m, ms[i]? = some m → ∃ outcome, (Scene.pass p ⟨c, world⟩ ms).1[i]? = some outcome ∧
      Scene.Judged p (Scene.pass p ⟨c, world⟩ (ms.take i)).2 (Moment.numbers (ms.take i)) m outcome
        (Scene.pass p ⟨c, world⟩ (ms.take (i + 1))).2) ∧
    Scene.pass p ⟨c, world⟩ (Moment.kept [] ms) =
      ((Scene.pass p ⟨c, world⟩ ms).1.map Outcome.hushed, (Scene.pass p ⟨c, world⟩ ms).2) ∧
    ∀ ms', List.Forall₂ Moment.Renumbers (Moment.kept [] ms) ms' →
      (Moment.numbers ms').Pairwise (· < ·) →
      (Scene.pass p ⟨c, world⟩ ms').1.map Outcome.untimed =
          (Scene.pass p ⟨c, world⟩ (Moment.kept [] ms)).1.map Outcome.untimed ∧
        (Scene.pass p ⟨c, world⟩ ms').2.untimed =
          (Scene.pass p ⟨c, world⟩ (Moment.kept [] ms)).2.untimed := by
  have unnumbered : c.lastTick = none := by
    rw [(Run.start (p := p) created).new_eq.2]
  refine ⟨fun i m shown => ?_, Scene.pass_kept unnumbered ms, fun ms' renumbers rising => ?_⟩
  · have latest : (⟨c, world⟩ : Scene σ α).controller.lastTick = [].max? := unnumbered
    exact Scene.pass_judged latest ms shown
  · refine Scene.pass_untimed rfl renumbers ?_ ?_
    · rw [Scene.Rising, unnumbered]
      exact (Moment.numbers_kept [] ms).2
    · rw [Scene.Rising, unnumbered]
      exact rising

namespace Lingering

/-- A call, two in vain, of which the first comes with a change, and another call. -/
def late : List (Moment (Registry × (Worker → Float))) :=
  [⟨id, some 5⟩, ⟨fun _ => joined, some 5⟩, ⟨id, some 3⟩, ⟨id, some 9⟩]

/-- The calls that count, under other numbers. -/
def soon : List (Moment (Registry × (Worker → Float))) :=
  [⟨id, some 1⟩, ⟨fun _ => joined, none⟩, ⟨id, none⟩, ⟨id, some 2⟩]

/-- A worker is destroyed on the second call that counts, whatever calls were made in vain. -/
theorem repetition_invisible_late :
    (∃ r r' calls calls', (Scene.pass provider ⟨controller, pair⟩ late).1 =
        [.evaluated r calls, .repeated ⟨5, 5⟩, .repeated ⟨5, 3⟩, .evaluated r' calls'] ∧
      r.destroyed = [] ∧ r'.destroyed = [first]) ∧
    Scene.pass provider ⟨controller, pair⟩ (Moment.kept [] late) =
      ((Scene.pass provider ⟨controller, pair⟩ late).1.map Outcome.hushed,
        (Scene.pass provider ⟨controller, pair⟩ late).2) ∧
    (Scene.pass provider ⟨controller, pair⟩ soon).1.map Outcome.untimed =
      (Scene.pass provider ⟨controller, pair⟩ (Moment.kept [] late)).1.map Outcome.untimed ∧
    (Scene.pass provider ⟨controller, pair⟩ soon).2.untimed =
      (Scene.pass provider ⟨controller, pair⟩ (Moment.kept [] late)).2.untimed := by
  obtain ⟨_, kept, renumbered⟩ := repetition_invisible controller_new provider pair late
  have pairs : List.Forall₂ Moment.Renumbers (Moment.kept [] late) soon :=
    .cons ⟨rfl, rfl⟩ (.cons ⟨rfl, rfl⟩ (.cons ⟨rfl, rfl⟩ (.cons ⟨rfl, rfl⟩ .nil)))
  refine ⟨⟨_, _, _, _, rfl, ?_, ?_⟩, kept, renumbered soon pairs (by decide)⟩
  · decide +kernel
  · decide +kernel

end Lingering

end ElasticPools
