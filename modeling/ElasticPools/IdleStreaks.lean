import ElasticPools.Identifier
import Std.Data.ExtTreeMap
import Std.Data.ExtTreeSet
/-!
Idle streaks: how many ticks in a row a worker has qualified for destruction. A worker is destroyed
when its streak reaches a threshold, and a tick on which it does not qualify must clear it.
-/
namespace ElasticPools

/-- The streak of every worker that is under way to its destruction. -/
structure IdleStreaks where
  counts : Std.ExtTreeMap WorkerId Nat

namespace IdleStreaks

def empty : IdleStreaks := ⟨∅⟩

def count? (s : IdleStreaks) (id : WorkerId) : Option Nat := s.counts[id]?

def size (s : IdleStreaks) : Nat := s.counts.size

def isEmpty (s : IdleStreaks) : Bool := s.counts.isEmpty

/-- Sets the streak of one worker. -/
def put (s : IdleStreaks) (id : WorkerId) (count : Nat) : IdleStreaks := ⟨s.counts.insert id count⟩

/-- Drops the streak of one worker. -/
def clear (s : IdleStreaks) (id : WorkerId) : IdleStreaks := ⟨s.counts.erase id⟩

/-- Drops every streak but those of the workers listed. -/
def retain (s : IdleStreaks) (live : Std.ExtTreeSet WorkerId) : IdleStreaks :=
  ⟨s.counts.filter fun id _ => live.contains id⟩

/-- The streak of a worker that qualifies once more. -/
def next (s : IdleStreaks) (id : WorkerId) : Nat := (s.count? id).elim 1 (· + 1)

/-- Counts one qualifying tick. Below `threshold` nothing else happens. At the threshold `destroy`
runs: if it succeeds the streak is over, and the answer is `true`; if it fails the streak stays one
short of the threshold, so that the next qualifying tick tries again. -/
def qualify {σ ε : Type} (s : IdleStreaks) (id : WorkerId) (threshold : Nat)
    (destroy : σ → Except ε Unit × σ) (world : σ) : Except ε Bool × IdleStreaks × σ :=
  if s.next id < threshold then (.ok false, s.put id (s.next id), world)
  else
    match destroy world with
    | (.ok (), world) => (.ok true, s.clear id, world)
    | (.error e, world) => (.error e, s.put id (threshold - 1), world)

@[simp] theorem count?_empty (id : WorkerId) : empty.count? id = none := by
  simp [count?, empty]

@[simp] theorem count?_put (s : IdleStreaks) (id w : WorkerId) (n : Nat) :
    (s.put id n).count? w = if id = w then some n else s.count? w := by
  simp [count?, put, Std.ExtTreeMap.getElem?_insert]

@[simp] theorem count?_clear (s : IdleStreaks) (id w : WorkerId) :
    (s.clear id).count? w = if id = w then none else s.count? w := by
  simp [count?, clear, Std.ExtTreeMap.getElem?_erase]

@[simp] theorem count?_retain (s : IdleStreaks) (live : Std.ExtTreeSet WorkerId) (w : WorkerId) :
    (s.retain live).count? w = if w ∈ live then s.count? w else none := by
  simp only [count?, retain, Std.ExtTreeMap.getElem?_filter, Std.ExtTreeMap.getKey_eq]
  cases s.counts[w]? <;> simp [Option.filter]

theorem next_eq (s : IdleStreaks) (id : WorkerId) : s.next id = (s.count? id).getD 0 + 1 := by
  unfold next
  cases s.count? id <;> rfl

/-- Below the threshold a streak grows by one, and nothing is called. -/
theorem qualify_of_lt {σ ε : Type} {s : IdleStreaks} {id : WorkerId} {threshold : Nat}
    (below : s.next id < threshold) (destroy : σ → Except ε Unit × σ) (world : σ) :
    s.qualify id threshold destroy world = (.ok false, s.put id (s.next id), world) := by
  simp [qualify, below]

theorem ext_count {s t : IdleStreaks} (h : ∀ w, s.count? w = t.count? w) : s = t := by
  cases s; cases t
  congr
  exact Std.ExtTreeMap.ext_getElem? h

end IdleStreaks

end ElasticPools
