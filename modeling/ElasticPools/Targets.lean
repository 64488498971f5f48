import ElasticPools.Identifier
import Std.Data.ExtTreeMap
/-!
Target sizes of pools. A target is an expectation and no cap: it moves by one at a time, and only
the controller moves it.
-/
namespace ElasticPools

structure Targets where
  sizes : Std.ExtTreeMap Kind Nat

namespace Targets

def empty : Targets := ⟨∅⟩

def target? (t : Targets) (kind : Kind) : Option Nat := t.sizes[kind]?

def contains (t : Targets) (kind : Kind) : Bool := t.sizes.contains kind

def size (t : Targets) : Nat := t.sizes.size

def isEmpty (t : Targets) : Bool := t.sizes.isEmpty

def toList (t : Targets) : List (Kind × Nat) := t.sizes.toList

/-- The target of a kind, taken as zero where there is none. -/
def current (t : Targets) (kind : Kind) : Nat := (t.target? kind).getD 0

def put (t : Targets) (kind : Kind) (target : Nat) : Targets := ⟨t.sizes.insert kind target⟩

/-- Gives a kind its first target. A kind that has one keeps it. -/
def seed (t : Targets) (kind : Kind) (target : Nat) : Targets :=
  if t.contains kind then t else t.put kind target

def raise (t : Targets) (kind : Kind) : Targets := t.put kind (t.current kind + 1)

/-- Lowers a target by one, and never below zero. -/
def lower (t : Targets) (kind : Kind) : Targets := t.put kind (t.current kind - 1)

/-- Lowers a target once for each of `n` workers. -/
def lowerBy (t : Targets) (kind : Kind) (n : Nat) : Targets := n.repeat (·.lower kind) t

def forget (t : Targets) (kind : Kind) : Targets := ⟨t.sizes.erase kind⟩

/-- Keeps the targets of those kinds that `keep` accepts. -/
def retain (t : Targets) (keep : Kind → Bool) : Targets := ⟨t.sizes.filter fun kind _ => keep kind⟩

@[simp] theorem target?_empty (k : Kind) : empty.target? k = none := by
  simp [target?, empty]

@[simp] theorem target?_put (t : Targets) (kind k : Kind) (n : Nat) :
    (t.put kind n).target? k = if kind = k then some n else t.target? k := by
  simp [target?, put, Std.ExtTreeMap.getElem?_insert]

@[simp] theorem target?_forget (t : Targets) (kind k : Kind) :
    (t.forget kind).target? k = if kind = k then none else t.target? k := by
  simp [target?, forget, Std.ExtTreeMap.getElem?_erase]

@[simp] theorem target?_retain (t : Targets) (keep : Kind → Bool) (k : Kind) :
    (t.retain keep).target? k = if keep k then t.target? k else none := by
  simp only [target?, retain, Std.ExtTreeMap.getElem?_filter, Std.ExtTreeMap.getKey_eq]
  cases t.sizes[k]? <;> simp [Option.filter]

theorem contains_eq (t : Targets) (k : Kind) : t.contains k = (t.target? k).isSome := by
  simp [contains, target?]

theorem target?_seed (t : Targets) (kind k : Kind) (n : Nat) :
    (t.seed kind n).target? k =
      if kind = k ∧ t.target? kind = none then some n else t.target? k := by
  unfold seed
  rw [contains_eq]
  cases h : t.target? kind with
  | none => simp
  | some m => simp

theorem target?_raise (t : Targets) (kind k : Kind) :
    (t.raise kind).target? k = if kind = k then some (t.current kind + 1) else t.target? k := by
  simp [raise]

theorem target?_lower (t : Targets) (kind k : Kind) :
    (t.lower kind).target? k = if kind = k then some (t.current kind - 1) else t.target? k := by
  simp [lower]

/-- Lowering a target many times takes as much from it, and leaves other targets alone. -/
theorem target?_lowerBy (t : Targets) (kind k : Kind) (n : Nat) :
    (t.lowerBy kind n).target? k =
      if kind = k ∧ 0 < n then some (t.current kind - n) else t.target? k := by
  induction n with
  | zero => simp [lowerBy, Nat.repeat]
  | succ n ih =>
    have step : t.lowerBy kind (n + 1) = (t.lowerBy kind n).lower kind := rfl
    rw [step, target?_lower]
    by_cases same : kind = k
    · subst same
      simp only [current, ih, if_true, true_and, Nat.zero_lt_succ]
      split
      · simp only [Option.getD_some, Option.some.injEq]
        omega
      · have : n = 0 := by omega
        simp [this]
    · simp [same, ih]

theorem ext_target {s t : Targets} (h : ∀ k, s.target? k = t.target? k) : s = t := by
  cases s; cases t
  congr
  exact Std.ExtTreeMap.ext_getElem? h

end Targets

end ElasticPools
