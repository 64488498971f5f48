import ElasticPools.IdleStreaks

/-!
The table of streaks by itself, under any calls in any order. What becomes of a worker is told by the
calls that have counted for it since it was last reset. Below the threshold its streak is their number.
From there on each of them attempts its destruction, and refusals leave the streak one short of the
threshold, until an attempt succeeds. So no streak passes the largest threshold less one, and a machine
word that is wide enough for thresholds is wide enough to count in.
-/

set_option autoImplicit false

namespace ElasticPools.IdleStreaks

variable {ε : Type}

/-- Counts for a worker whose destruction would be answered so, and lists the destructions that are
attempted. -/
def counting (s : IdleStreaks) (w : WorkerId) (threshold : Nat) (answer : Except ε Unit) :
    Except ε Bool × IdleStreaks × List WorkerId :=
  s.qualify w threshold (fun attempts => (answer, attempts ++ [w])) []

/-- A call to the table. -/
inductive Operation (ε : Type) where
  | count (w : WorkerId) (threshold : Nat) (answer : Except ε Unit)
  | clear (w : WorkerId)
  | retain (live : Std.ExtTreeSet WorkerId)

namespace Operation

def apply (s : IdleStreaks) : Operation ε → IdleStreaks
  | count w threshold answer => (s.counting w threshold answer).2.1
  | clear w => s.clear w
  | retain live => s.retain live

/-- The call counts for the worker, clears it or does not retain it. -/
def Concerns (w : WorkerId) : Operation ε → Prop
  | count v _ _ | clear v => v = w
  | retain live => w ∉ live

/-- The call ends the streak of the worker, or destroys it. -/
def Resets (s : IdleStreaks) (w : WorkerId) : Operation ε → Prop
  | count v threshold answer =>
    v = w ∧ (s.counting v threshold answer).1.toOption = some true
  | clear v => v = w
  | retain live => w ∉ live

instance (s : IdleStreaks) (w : WorkerId) : (op : Operation ε) → Decidable (op.Resets s w)
  | count .. => inferInstanceAs (Decidable (_ ∧ _))
  | clear _ => inferInstanceAs (Decidable (_ = _))
  | retain _ => inferInstanceAs (Decidable (¬ _))

/-- The threshold of a call that counts for the worker. -/
def threshold? (w : WorkerId) : Operation ε → Option Nat
  | count v threshold _ => if v = w then some threshold else none
  | clear _ | retain _ => none

end Operation

/-- The table after some calls, the latest first. -/
def after : List (Operation ε) → IdleStreaks
  | [] => .empty
  | op :: past => op.apply (after past)

/-- The thresholds of the calls that have counted for a worker since it was last reset. -/
def episode (w : WorkerId) : List (Operation ε) → List Nat
  | [] => []
  | op :: past =>
    if op.Resets (after past) w then [] else (op.threshold? w).toList ++ episode w past

section Counting

variable {s : IdleStreaks} {w : WorkerId} {threshold : Nat}

theorem counting_of_lt (below : s.next w < threshold) (answer : Except ε Unit) :
    s.counting w threshold answer = (.ok false, s.put w (s.next w), []) :=
  qualify_of_lt below _ _

theorem counting_of_ok (reached : threshold ≤ s.next w) :
    s.counting w threshold (.ok () : Except ε Unit) = (.ok true, s.clear w, [w]) := by
  simp [counting, qualify, Nat.not_lt.mpr reached]

theorem counting_of_error (reached : threshold ≤ s.next w) (reason : ε) :
    s.counting w threshold (.error reason) = (.error reason, s.put w (threshold - 1), [w]) := by
  simp [counting, qualify, Nat.not_lt.mpr reached]

end Counting

/-- A call leaves the streaks of the workers that it does not concern. -/
theorem count?_apply_of_unconcerned {op : Operation ε} {w : WorkerId} (other : ¬ op.Concerns w)
    (s : IdleStreaks) : (op.apply s).count? w = s.count? w := by
  cases op with
  | count v threshold answer =>
    have apart : v ≠ w := other
    rw [Operation.apply]
    by_cases below : s.next v < threshold
    · rw [counting_of_lt below, count?_put, if_neg apart]
    · have reached := Nat.not_lt.mp below
      cases answer with
      | ok => rw [counting_of_ok reached, count?_clear, if_neg apart]
      | error reason => rw [counting_of_error reached, count?_put, if_neg apart]
  | clear v => exact (count?_clear s v w).trans (if_neg other)
  | retain live =>
    have kept : w ∈ live := Classical.not_not.mp other
    exact (count?_retain s live w).trans (if_pos kept)

/-- After a reset a worker has no streak. -/
theorem count?_apply_of_resets {op : Operation ε} {s : IdleStreaks} {w : WorkerId}
    (resets : op.Resets s w) : (op.apply s).count? w = none := by
  cases op with
  | count v threshold answer =>
    obtain ⟨rfl, destroyed⟩ := resets
    rw [Operation.apply]
    by_cases below : s.next v < threshold
    · rw [counting_of_lt below] at destroyed
      cases destroyed
    · have reached := Nat.not_lt.mp below
      cases answer with
      | ok => rw [counting_of_ok reached, count?_clear, if_pos rfl]
      | error reason =>
        rw [counting_of_error reached] at destroyed
        cases destroyed
  | clear v => exact (count?_clear s v w).trans (if_pos resets)
  | retain live => exact (count?_retain s live w).trans (if_neg resets)

namespace Operation

variable {op : Operation ε} {w : WorkerId}

theorem not_resets_of_unconcerned (other : ¬ op.Concerns w) (s : IdleStreaks) : ¬ op.Resets s w := by
  cases op with
  | count => exact fun resets => other resets.1
  | clear | retain => exact other

theorem threshold?_of_unconcerned (other : ¬ op.Concerns w) : op.threshold? w = none := by
  cases op with
  | count => exact if_neg other
  | clear | retain => rfl

/-- A call that concerns a worker and does not reset it counts for it. -/
theorem eq_count_of_concerns (concerned : op.Concerns w) {s : IdleStreaks}
    (stays : ¬ op.Resets s w) : ∃ threshold answer, op = count w threshold answer := by
  cases op with
  | count v threshold answer =>
    obtain rfl : v = w := concerned
    exact ⟨threshold, answer, rfl⟩
  | clear | retain => exact absurd concerned stays

end Operation

section Episode

variable {w : WorkerId} {op : Operation ε} {past : List (Operation ε)}

theorem episode_of_resets (resets : op.Resets (after past) w) : episode w (op :: past) = [] :=
  if_pos resets

theorem episode_of_unconcerned (other : ¬ op.Concerns w) :
    episode w (op :: past) = episode w past := by
  rw [episode, if_neg (op.not_resets_of_unconcerned other _), op.threshold?_of_unconcerned other]
  rfl

theorem episode_of_count {threshold : Nat} {answer : Except ε Unit}
    (stays : ¬ (Operation.count w threshold answer).Resets (after past) w) :
    episode w (.count w threshold answer :: past) = threshold :: episode w past := by
  rw [episode, if_neg stays, Operation.threshold?, if_pos rfl]
  rfl

end Episode

/-- What a call leaves that counts for a worker and does not destroy it. -/
theorem count?_counting {s : IdleStreaks} {w : WorkerId} {threshold : Nat} {answer : Except ε Unit}
    (stays : ¬ (Operation.count w threshold answer).Resets s w) :
    (s.counting w threshold answer).2.1.count? w = some (min (s.next w) (threshold - 1)) := by
  by_cases below : s.next w < threshold
  · rw [counting_of_lt below, count?_put, if_pos rfl, Nat.min_eq_left (Nat.le_sub_one_of_lt below)]
  · have reached := Nat.not_lt.mp below
    cases answer with
    | ok => exact absurd ⟨rfl, by rw [counting_of_ok reached]; rfl⟩ stays
    | error reason =>
      rw [counting_of_error reached, count?_put, if_pos rfl, Nat.min_eq_right (by omega)]

/-- Induction over the calls. The streak grows with the episode until it is one short of the threshold,
and stays there as long as destructions are refused. -/
theorem count?_after {w : WorkerId} {threshold : Nat} (positive : 0 < threshold)
    {past : List (Operation ε)} (constant : ∀ t ∈ episode w past, t = threshold) :
    (after past).count? w = if episode w past = [] then none
      else some (min (episode w past).length (threshold - 1)) := by
  induction past with
  | nil => exact count?_empty w
  | cons op past ih =>
    by_cases resets : op.Resets (after past) w
    · rw [episode_of_resets resets, if_pos rfl]
      exact count?_apply_of_resets resets
    by_cases concerned : op.Concerns w
    · obtain ⟨given, answer, rfl⟩ := op.eq_count_of_concerns concerned resets
      rw [episode_of_count resets] at constant ⊢
      obtain ⟨rfl, constant⟩ := List.forall_mem_cons.mp constant
      rw [if_neg (List.cons_ne_nil _ _), List.length_cons]
      refine (count?_counting resets).trans (congrArg some ?_)
      rw [next_eq, ih constant]
      split
      · next none => simp [none]
      · simp only [Option.getD_some]
        omega
    · rw [episode_of_unconcerned concerned] at constant ⊢
      exact (count?_apply_of_unconcerned concerned _).trans (ih constant)

theorem next_after {w : WorkerId} {threshold : Nat} (positive : 0 < threshold)
    {past : List (Operation ε)} (constant : ∀ t ∈ episode w past, t = threshold) :
    (after past).next w = min ((episode w past).length + 1) threshold := by
  rw [next_eq, count?_after positive constant]
  split
  · next none =>
    rw [none, Option.getD_none, List.length_nil]
    omega
  · rw [Option.getD_some]
    omega

/-- The `m`-th call of an episode whose calls have one threshold. From the threshold on it attempts the
destruction of the worker, and after a refusal so does the call that follows it. -/
structure Counted (s : IdleStreaks) (w : WorkerId) (threshold m : Nat) (answer : Except ε Unit) :
    Prop where
  attempts : (s.counting w threshold answer).2.2 = if threshold ≤ m then [w] else []
  below : m < threshold → (s.counting w threshold answer).1 = .ok false ∧
    (s.counting w threshold answer).2.1.count? w = some m
  refused : threshold ≤ m → ∀ reason, answer = .error reason →
    (s.counting w threshold answer).1 = .error reason ∧
      (s.counting w threshold answer).2.1.count? w = some (threshold - 1)
  again : threshold ≤ m → ∀ reason, answer = .error reason → ∀ next : Except ε Unit,
    ((s.counting w threshold answer).2.1.counting w threshold next).2.2 = [w]
  destroyed : threshold ≤ m → answer = .ok () → (s.counting w threshold answer).1 = .ok true ∧
    (s.counting w threshold answer).2.1.count? w = none

theorem attempts_counting {s : IdleStreaks} {w : WorkerId} {threshold : Nat}
    (answer : Except ε Unit) :
    (s.counting w threshold answer).2.2 = if threshold ≤ s.next w then [w] else [] := by
  by_cases below : s.next w < threshold
  · rw [counting_of_lt below, if_neg (Nat.not_le.mpr below)]
  · have reached := Nat.not_lt.mp below
    rw [if_pos reached]
    cases answer with
    | ok => rw [counting_of_ok reached]
    | error reason => rw [counting_of_error reached]

theorem counted_of_next {s : IdleStreaks} {w : WorkerId} {threshold m : Nat} (positive : 0 < threshold)
    (next : s.next w = min m threshold) (answer : Except ε Unit) : Counted s w threshold m answer := by
  have due : threshold ≤ s.next w ↔ threshold ≤ m := by omega
  constructor
  case attempts => simp only [attempts_counting, due]
  case below =>
    intro early
    have same : s.next w = m := by omega
    rw [counting_of_lt (by omega), count?_put, if_pos rfl, same]
    exact ⟨rfl, rfl⟩
  case refused =>
    rintro reached reason rfl
    rw [counting_of_error (due.mpr reached), count?_put, if_pos rfl]
    exact ⟨rfl, rfl⟩
  case again =>
    rintro reached reason rfl answer
    rw [counting_of_error (due.mpr reached), attempts_counting, next_eq, count?_put, if_pos rfl,
      Option.getD_some, if_pos (by omega)]
  case destroyed =>
    rintro reached rfl
    rw [counting_of_ok (due.mpr reached), count?_clear, if_pos rfl]
    exact ⟨rfl, rfl⟩

/-- What a table does for a worker after any calls. As long as all calls that have counted for it since
its last reset had one threshold, the next of them goes by their number. Resets leave it no streak, and
calls that do not concern it leave its streak alone. -/
theorem counted_since_reset (past : List (Operation ε)) (w : WorkerId) :
    (∀ threshold, 0 < threshold → (∀ t ∈ episode w past, t = threshold) →
      ∀ answer : Except ε Unit,
        Counted (after past) w threshold ((episode w past).length + 1) answer) ∧
    (∀ op : Operation ε, op.Resets (after past) w → (after (op :: past)).count? w = none) ∧
    ∀ op : Operation ε, ¬ op.Concerns w →
      (after (op :: past)).count? w = (after past).count? w := by
  refine ⟨fun threshold positive constant answer => ?_, fun op resets => ?_, fun op other => ?_⟩
  · exact counted_of_next positive (next_after positive constant) answer
  · exact count?_apply_of_resets resets
  · exact count?_apply_of_unconcerned other _

/-- The calls for two workers come by turns. One of them has been cleared, was then counted once and
refused once, and is destroyed by the third call. -/
theorem counted_since_reset_refused : ∃ (first second : WorkerId) (past : List (Operation String)),
    first ≠ second ∧ past.length = 7 ∧ episode first past = [2, 2] ∧ episode second past = [5, 5] ∧
      Counted (after past) first 2 3 (.ok () : Except String Unit) ∧
      (after past).count? first = some 1 ∧
      (after (.count first 2 (.ok ()) :: past)).count? first = none ∧
      (after (.count first 2 (.ok ()) :: past)).count? second = (after past).count? second := by
  obtain ⟨first, second, past, apart, length, episode, other, streak, resets⟩ :
      ∃ (first second : WorkerId) (past : List (Operation String)), first ≠ second ∧
        past.length = 7 ∧ episode first past = [2, 2] ∧ episode second past = [5, 5] ∧
        (after past).count? first = some 1 ∧
        (Operation.count first 2 (.ok () : Except String Unit)).Resets (after past) first := by
    let first : WorkerId := ⟨"vm-1", by decide⟩
    let second : WorkerId := ⟨"vm-2", by decide⟩
    refine ⟨first, second, [.retain (.ofList [first, second]), .count first 2 (.error "busy"),
      .count second 5 (.ok ()), .count first 2 (.ok ()), .count second 5 (.ok ()), .clear first,
      .count first 9 (.ok ())], ?_⟩
    decide +kernel
  obtain ⟨counted, reset, others⟩ := counted_since_reset past first
  have third := counted 2 (by decide) (by rw [episode]; decide) (.ok ())
  rw [episode] at third
  exact ⟨first, second, past, apart, length, episode, other, third, streak, reset _ resets,
    (counted_since_reset past second).2.2 _ apart⟩

section Bound

/-- The threshold of a call that counts, for whichever worker. -/
def Operation.given? : Operation ε → Option Nat
  | count _ threshold _ => some threshold
  | clear _ | retain _ => none

/-- The thresholds of all calls, the latest first. -/
def thresholds (past : List (Operation ε)) : List Nat := past.filterMap Operation.given?

/-- The streak of a worker that qualifies once more, in words of 32 bits. Their sum wraps around. -/
def nextWord (s : IdleStreaks) (w : WorkerId) : UInt32 := (s.count? w).elim 1 (UInt32.ofNat · + 1)

/-- A streak that a call leaves was there before, or is below the threshold of the call. A threshold of
zero leaves zero. -/
theorem count?_apply_cases {op : Operation ε} {s : IdleStreaks} {w : WorkerId} {n : Nat}
    (found : (op.apply s).count? w = some n) :
    s.count? w = some n ∨ ∃ threshold, op.given? = some threshold ∧ n ≤ threshold - 1 := by
  by_cases resets : op.Resets s w
  · rw [count?_apply_of_resets resets] at found
    cases found
  by_cases concerned : op.Concerns w
  · obtain ⟨threshold, answer, rfl⟩ := op.eq_count_of_concerns concerned resets
    have left := (count?_counting resets).symm.trans found
    refine .inr ⟨threshold, rfl, ?_⟩
    rw [← Option.some.inj left]
    exact Nat.min_le_right ..
  · exact .inl ((count?_apply_of_unconcerned concerned s).symm.trans found)

/-- Induction over the calls: some threshold that was passed is above the streak. -/
theorem exists_threshold {past : List (Operation ε)} {w : WorkerId} {n : Nat}
    (found : (after past).count? w = some n) : ∃ t ∈ thresholds past, n ≤ t - 1 := by
  induction past with
  | nil =>
    rw [after, count?_empty] at found
    cases found
  | cons op past ih =>
    rcases count?_apply_cases found with earlier | ⟨t, given, below⟩
    · obtain ⟨t, member, below⟩ := ih earlier
      obtain ⟨other, inside, given⟩ := List.mem_filterMap.mp member
      exact ⟨t, List.mem_filterMap.mpr ⟨other, List.mem_cons_of_mem _ inside, given⟩, below⟩
    · exact ⟨t, List.mem_filterMap.mpr ⟨op, List.mem_cons_self, given⟩, below⟩

/-- Where the next streak is a word, adding to the word of the last one gives it. -/
theorem toNat_nextWord {s : IdleStreaks} {w : WorkerId} (fits : s.next w < UInt32.size) :
    (s.nextWord w).toNat = s.next w := by
  unfold nextWord
  unfold next at fits ⊢
  cases found : s.count? w with
  | none => rfl
  | some n =>
    rw [found, Option.elim_some] at fits
    rw [Option.elim_some, Option.elim_some, UInt32.toNat_add, UInt32.toNat_ofNat_of_lt' (by omega)]
    exact Nat.mod_eq_of_lt fits

/-- No streak passes the largest threshold less one, or zero where that is zero. So if thresholds are
words of 32 bits, counting once more for any worker stays within a word, however many calls there were
and however the thresholds changed. -/
theorem streaks_bounded (past : List (Operation ε)) :
    (∀ w n, (after past).count? w = some n →
      ∃ largest, (thresholds past).max? = some largest ∧ n ≤ largest - 1) ∧
    ((∀ t ∈ thresholds past, t < UInt32.size) → ∀ w,
      (∀ n, (after past).count? w = some n → n < UInt32.size - 1) ∧
      (after past).next w < UInt32.size ∧
      ((after past).nextWord w).toNat = (after past).next w) := by
  have bounded : ∀ w n, (after past).count? w = some n →
      ∃ largest, (thresholds past).max? = some largest ∧ n ≤ largest - 1 := by
    intro w n found
    obtain ⟨t, member, below⟩ := exists_threshold found
    obtain ⟨largest, known⟩ := Option.isSome_iff_exists.mp (List.isSome_max?_of_mem member)
    have most := (List.max?_eq_some_iff.mp known).2 t member
    exact ⟨largest, known, by omega⟩
  refine ⟨bounded, fun words w => ?_⟩
  have below : ∀ n, (after past).count? w = some n → n < UInt32.size - 1 := by
    intro n found
    obtain ⟨largest, known, most⟩ := bounded w n found
    have word := words largest (List.max?_eq_some_iff.mp known).1
    have several : 1 < UInt32.size := by decide
    omega
  have fits : (after past).next w < UInt32.size := by
    rw [next_eq]
    cases found : (after past).count? w with
    | none => decide
    | some n =>
      have small := below n found
      rw [Option.getD_some]
      omega
  exact ⟨below, fits, toNat_nextWord fits⟩

/-- Thresholds go up to the largest word and down to zero, at which a destruction is refused. -/
theorem streaks_bounded_changing : ∃ (w : WorkerId) (past : List (Operation String)),
    thresholds past = [UInt32.size - 1, 0, UInt32.size - 1, 3] ∧
      (after past).count? w = some 1 ∧
      (∃ largest, (thresholds past).max? = some largest ∧ 1 ≤ largest - 1) ∧
      (after past).next w < UInt32.size ∧
      ((after past).nextWord w).toNat = (after past).next w := by
  obtain ⟨w, past, passed, found⟩ : ∃ (w : WorkerId) (past : List (Operation String)),
      thresholds past = [UInt32.size - 1, 0, UInt32.size - 1, 3] ∧
        (after past).count? w = some 1 := by
    let w : WorkerId := ⟨"vm-1", by decide⟩
    refine ⟨w, [.count w (UInt32.size - 1) (.ok ()), .count w 0 (.error "busy"),
      .count w (UInt32.size - 1) (.ok ()), .retain (.ofList [w]), .count w 3 (.ok ())], ?_⟩
    decide +kernel
  obtain ⟨bounded, words⟩ := streaks_bounded past
  have all : ∀ t ∈ thresholds past, t < UInt32.size := by
    rw [passed]
    decide
  obtain ⟨_, fits, word⟩ := words all w
  exact ⟨w, past, passed, found, bounded w 1 found, fits, word⟩

end Bound

end ElasticPools.IdleStreaks
