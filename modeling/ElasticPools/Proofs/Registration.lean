import ElasticPools.Proofs.Pools
import Mathlib.Data.List.Count

/-!
A registry after any operations. What it knows of a kind is told by the operations since the kind was
last forgotten: it is registered if one of them registered it, and its pool holds those who were added,
in that order, but for the oldest of each name, as many as were removed. Workers of one name wait in
line, and whoever asks for the name meets the first of them.
-/

set_option autoImplicit false

namespace ElasticPools.Registry

/-- A change to a registry. -/
inductive Operation where
  | register (kind : Kind)
  | add (kind : Kind) (worker : Worker)
  | remove (kind : Kind) (id : WorkerId)
  | setBusy (kind : Kind) (id : WorkerId) (busy : Bool)
  | forget (kind : Kind)
deriving DecidableEq

namespace Operation

/-- What an operation misses, if it fails, and the registry that it leads to. -/
def run (r : Registry) : Operation → Except Missing Unit × Registry
  | register kind => (.ok (), r.register kind)
  | add kind worker => (.ok (), r.add kind worker)
  | remove kind id => ((r.take kind id).1.map fun _ => (), (r.take kind id).2)
  | setBusy kind id busy => r.mark kind id busy
  | forget kind => (.ok (), r.forget kind)

def succeeds (r : Registry) (op : Operation) : Bool := (op.run r).1.isOk

/-- The registry that an operation leads to. -/
def apply (r : Registry) (op : Operation) : Registry := (op.run r).2

variable {r : Registry} {kind k : Kind} {id : WorkerId} {busy : Bool} {v : Worker}

theorem succeeds_remove : (remove kind id).succeeds r = (r.take kind id).1.isOk := by
  rw [succeeds, run]
  cases (r.take kind id).1 <;> rfl

/-- An operation that fails leaves the registry as it is. -/
theorem apply_of_failed {op : Operation} (failed : op.succeeds r = false) : op.apply r = r := by
  cases op with
  | register | add | forget => cases failed
  | remove kind id => exact change_of_failed (succeeds_remove.symm.trans failed)
  | setBusy kind id busy => exact change_of_failed (isOk_mark.symm.trans failed)

theorem pool?_apply_register : ((register kind).apply r).pool? k =
    if kind = k then some (r.pool k) else r.pool? k :=
  pool?_register r kind k

theorem pool?_apply_add : ((add kind v).apply r).pool? k =
    if kind = k then some (r.pool k ++ [v]) else r.pool? k :=
  pool?_add r kind k v

theorem pool?_apply_remove : ((remove kind id).apply r).pool? k =
    if kind = k then (r.pool? k).map (·.eraseP (·.id = id)) else r.pool? k :=
  pool?_take

theorem pool?_apply_setBusy : ((setBusy kind id busy).apply r).pool? k =
    if kind = k then (r.pool? k).map (markBusy id busy) else r.pool? k :=
  pool?_mark

theorem pool?_apply_forget : ((forget kind).apply r).pool? k =
    if kind = k then none else r.pool? k :=
  pool?_forget r kind k

theorem pool_apply_register : ((register kind).apply r).pool k = r.pool k := by
  rw [pool, pool?_apply_register]
  split <;> rfl

theorem pool_apply_add : ((add kind v).apply r).pool k =
    if kind = k then r.pool k ++ [v] else r.pool k := by
  rw [pool, pool?_apply_add]
  split <;> rfl

theorem pool_apply_remove : ((remove kind id).apply r).pool k =
    if kind = k then (r.pool k).eraseP (·.id = id) else r.pool k := by
  rw [pool, pool?_apply_remove, pool]
  split
  · cases r.pool? k <;> rfl
  · rfl

theorem pool_apply_setBusy : ((setBusy kind id busy).apply r).pool k =
    if kind = k then markBusy id busy (r.pool k) else r.pool k := by
  rw [pool, pool?_apply_setBusy, pool]
  split
  · cases r.pool? k <;> rfl
  · rfl

theorem pool_apply_forget : ((forget kind).apply r).pool k =
    if kind = k then [] else r.pool k := by
  rw [pool, pool?_apply_forget]
  split <;> rfl

end Operation

/-- The registry after some operations, the latest first. -/
def after : List Operation → Registry
  | [] => .empty
  | op :: past => op.apply (after past)

/-- An operation, and whether it succeeded. -/
structure Event where
  operation : Operation
  done : Bool

namespace Event

/-- Registers a kind, by itself or with a worker. -/
def Registers (kind : Kind) (e : Event) : Prop :=
  e.operation = .register kind ∨ ∃ v, e.operation = .add kind v

/-- The name under which a worker of a kind was added. -/
def added? (kind : Kind) : Event → Option WorkerId
  | ⟨.add k v, _⟩ => if k = kind then some v.id else none
  | _ => none

/-- The name under which a worker of a kind was removed. -/
def removed? (kind : Kind) : Event → Option WorkerId
  | ⟨.remove k id, true⟩ => if k = kind then some id else none
  | _ => none

end Event

/-- All operations with their outcomes, the latest first. -/
def log : List Operation → List Event
  | [] => []
  | op :: past => ⟨op, op.succeeds (after past)⟩ :: log past

/-- What has happened since a kind was last forgotten, the latest first. -/
def since (kind : Kind) (past : List Operation) : List Event :=
  (log past).takeWhile (·.operation ≠ .forget kind)

/-- The names that were added to a kind since it was last forgotten, the oldest first. -/
def added (kind : Kind) (past : List Operation) : List WorkerId :=
  ((since kind past).filterMap (·.added? kind)).reverse

/-- The names that were removed from a kind since it was last forgotten, the oldest first. -/
def removed (kind : Kind) (past : List Operation) : List WorkerId :=
  ((since kind past).filterMap (·.removed? kind)).reverse

/-- What an event makes of the workers of a kind that have one name, in their order. Only whether they
are busy tells them apart. -/
def Event.serve (kind : Kind) (id : WorkerId) : Event → List Bool → List Bool
  | ⟨.add k v, _⟩, line => if k = kind ∧ v.id = id then line ++ [v.busy] else line
  | ⟨.remove k w, true⟩, line => if k = kind ∧ w = id then line.tail else line
  | ⟨.setBusy k w busy, true⟩, line => if k = kind ∧ w = id then line.set 0 busy else line
  | _, line => line

/-- The line of those of one name after all that happened since their kind was last forgotten. -/
def line (kind : Kind) (id : WorkerId) (past : List Operation) : List Bool :=
  (since kind past).foldr (Event.serve kind id) []

/-- A kind has been registered since it was last forgotten. -/
def Registered (kind : Kind) (past : List Operation) : Prop :=
  ∃ e ∈ since kind past, e.Registers kind

section Since

variable {kind : Kind} {op : Operation} {past : List Operation}

theorem since_of_forget : since kind (.forget kind :: past) = [] := by
  simp [since, log]

theorem since_cons (kept : op ≠ .forget kind) :
    since kind (op :: past) = ⟨op, op.succeeds (after past)⟩ :: since kind past := by
  simp [since, log, kept]

theorem added_cons (kept : op ≠ .forget kind) : added kind (op :: past) =
    added kind past ++ (Event.added? kind ⟨op, op.succeeds (after past)⟩).toList := by
  rw [added, since_cons kept, List.filterMap_cons]
  split
  · next none => rw [none, Option.toList_none, List.append_nil, added]
  · next id some => rw [some, List.reverse_cons, added]; rfl

theorem removed_cons (kept : op ≠ .forget kind) : removed kind (op :: past) =
    removed kind past ++ (Event.removed? kind ⟨op, op.succeeds (after past)⟩).toList := by
  rw [removed, since_cons kept, List.filterMap_cons]
  split
  · next none => rw [none, Option.toList_none, List.append_nil, removed]
  · next id some => rw [some, List.reverse_cons, removed]; rfl

end Since

section Serving

variable {r : Registry} {kind : Kind} {id : WorkerId}

/-- How many workers of a kind have a name. -/
def bearers (r : Registry) (kind : Kind) (id : WorkerId) : Nat := (r.pool kind).countP (·.id = id)

theorem bearers_eq_count : r.bearers kind id = ((r.pool kind).map (·.id)).count id := by
  rw [bearers, List.count, List.countP_map]
  exact List.countP_congr fun v _ => by simp

theorem bearers_pos_iff : 0 < r.bearers kind id ↔ id ∈ (r.pool kind).map (·.id) := by
  rw [bearers_eq_count, List.count_pos_iff]

theorem isOk_remove : (r.remove kind id).isOk = (r.take kind id).1.isOk := by
  unfold remove
  rcases r.take kind id with ⟨_ | _, _⟩ <;> rfl

theorem isOk_setBusy {busy : Bool} :
    (r.setBusy kind id busy).isOk = (r.mark kind id busy).1.isOk := by
  unfold setBusy
  rcases r.mark kind id busy with ⟨_ | _, _⟩ <;> rfl

/-- How a registry deals with a name. Who asks for it meets the oldest worker that has it; where there
is none the answer says what is missing, and nothing changes. -/
structure Serves (r : Registry) (kind : Kind) (id : WorkerId) : Prop where
  removes : (r.remove kind id).isOk = true ↔ 0 < r.bearers kind id
  marks : ∀ busy, (r.setBusy kind id busy).isOk = true ↔ 0 < r.bearers kind id
  oldest : 0 < r.bearers kind id → ∃ front v back, r.pool? kind = some (front ++ v :: back) ∧
    v.id = id ∧ id ∉ front.map (·.id) ∧
    (r.take kind id = (.ok v, r.put kind (front ++ back)) ∧
      r.remove kind id = .ok (v, r.put kind (front ++ back))) ∧
    ∀ busy, r.mark kind id busy = (.ok (), r.put kind (front ++ { v with busy } :: back)) ∧
      r.setBusy kind id busy = .ok (r.put kind (front ++ { v with busy } :: back))
  absent : r.bearers kind id = 0 →
    (r.take kind id = (.error (r.missing kind id), r) ∧
      r.remove kind id = .error (r.missing kind id) ∧
      (Operation.remove kind id).apply r = r) ∧
    ∀ busy, r.mark kind id busy = (.error (r.missing kind id), r) ∧
      r.setBusy kind id busy = .error (r.missing kind id) ∧
      (Operation.setBusy kind id busy).apply r = r

theorem serves (r : Registry) (kind : Kind) (id : WorkerId) : r.Serves kind id := by
  constructor
  case removes =>
    rw [isOk_remove]
    exact isOk_change.trans bearers_pos_iff.symm
  case marks =>
    intro busy
    rw [isOk_setBusy, isOk_mark]
    exact isOk_change.trans bearers_pos_iff.symm
  case oldest =>
    intro some
    obtain ⟨front, v, back, found, rfl, first⟩ := exists_split (bearers_pos_iff.mp some)
    have taken := take_of_split found first
    refine ⟨front, v, back, found, rfl, first, ⟨taken, by rw [remove, taken]; rfl⟩, fun busy => ?_⟩
    have marked : r.mark kind v.id busy = _ := mark_of_split found first
    exact ⟨marked, by rw [setBusy, marked]; rfl⟩
  case absent =>
    intro none
    have absent : id ∉ (r.pool kind).map (·.id) := by
      rw [← bearers_pos_iff, none]
      exact Nat.lt_irrefl 0
    have taken := take_of_absent absent
    refine ⟨⟨taken, by rw [remove, taken]; rfl, congrArg Prod.snd taken⟩, fun busy => ?_⟩
    have marked : r.mark kind id busy = _ := mark_of_absent absent
    exact ⟨marked, by rw [setBusy, marked]; rfl, congrArg Prod.snd marked⟩

end Serving

section Steps

variable {r : Registry} {kind k : Kind} {id w : WorkerId} {busy : Bool} {op : Operation}
  {past : List Operation}

theorem contains_apply (kept : op ≠ .forget kind) : (op.apply r).contains kind = true ↔
    Event.Registers kind ⟨op, op.succeeds r⟩ ∨ r.contains kind = true := by
  rw [contains_eq, contains_eq, Event.Registers]
  cases op with
  | register k =>
    rw [Operation.pool?_apply_register]
    by_cases same : k = kind <;> simp [same]
  | add k v =>
    rw [Operation.pool?_apply_add]
    by_cases same : k = kind <;> simp [same]
  | remove k id =>
    rw [Operation.pool?_apply_remove]
    split <;> simp
  | setBusy k id busy =>
    rw [Operation.pool?_apply_setBusy]
    split <;> simp
  | forget k =>
    have other : k ≠ kind := fun same => kept (same ▸ rfl)
    rw [Operation.pool?_apply_forget, if_neg other]
    simp

/-- Induction over the operations. -/
theorem contains_after : (after past).contains kind = true ↔ Registered kind past := by
  induction past with
  | nil => simp [after, contains_eq, Registered, since, log]
  | cons op past ih =>
    rw [after]
    by_cases forgets : op = .forget kind
    · rw [forgets, Registered, since_of_forget, contains_eq, Operation.pool?_apply_forget]
      simp
    · rw [contains_apply forgets, ih, Registered, Registered, since_cons forgets,
        List.exists_mem_cons_iff]

/-- The names in a pool after one more operation. One that comes goes to the end, and one that goes was
the first of its kind. -/
theorem names_apply (kept : op ≠ .forget kind) : ((op.apply r).pool kind).map (·.id) =
    ((r.pool kind).map (·.id) ++ (Event.added? kind ⟨op, op.succeeds r⟩).toList).diff
      (Event.removed? kind ⟨op, op.succeeds r⟩).toList := by
  cases failed : op.succeeds r with
  | false =>
    rw [Operation.apply_of_failed failed]
    cases op with
    | remove | setBusy => exact (List.append_nil _).symm
    | register | add | forget => cases failed
  | true =>
    cases op with
    | register k =>
      rw [Operation.pool_apply_register]
      exact (List.append_nil _).symm
    | add k v =>
      rw [Operation.pool_apply_add, Event.added?]
      split
      · exact List.map_append
      · exact (List.append_nil _).symm
    | remove k id =>
      rw [Operation.pool_apply_remove, Event.removed?]
      split
      · rw [map_id_eraseP]
        simp [Event.added?]
      · exact (List.append_nil _).symm
    | setBusy k id busy =>
      rw [Operation.pool_apply_setBusy]
      split
      · rw [map_id_markBusy]
        exact (List.append_nil _).symm
      · exact (List.append_nil _).symm
    | forget k =>
      have other : k ≠ kind := fun same => kept (same ▸ rfl)
      rw [Operation.pool_apply_forget, if_neg other]
      exact (List.append_nil _).symm

/-- Only names that a pool holds are removed from it. -/
theorem mem_of_removed? (taken : Event.removed? kind ⟨op, op.succeeds r⟩ = some w) :
    w ∈ (r.pool kind).map (·.id) := by
  cases op with
  | register | add | setBusy | forget => simp [Event.removed?] at taken
  | remove k id =>
    cases done : (Operation.remove k id).succeeds r with
    | false => simp [Event.removed?, done] at taken
    | true =>
      rw [done, Event.removed?, Option.ite_none_right_eq_some] at taken
      obtain ⟨rfl, taken⟩ := taken
      rw [← Option.some.inj taken]
      exact isOk_change.mp (Operation.succeeds_remove.symm.trans done)

/-- Nothing is taken from those that come after, as long as there are others. -/
theorem append_diff {names gone : List WorkerId} (more : List WorkerId)
    (enough : ∀ w, gone.count w ≤ names.count w) :
    (names ++ more).diff gone = names.diff gone ++ more := by
  induction gone generalizing names with
  | nil => rw [List.diff_nil, List.diff_nil]
  | cons w gone ih =>
    have present : w ∈ names := by
      have some := enough w
      rw [List.count_cons_self] at some
      exact List.count_pos_iff.mp (by omega)
    rw [List.diff_cons, List.diff_cons, List.erase_append_left _ present, ih fun u => ?_]
    have most := enough u
    rw [List.count_cons] at most
    rw [List.count_erase]
    split at most
    · next same => rw [if_pos same]; omega
    · next other => rw [if_neg other]; omega

/-- Induction over the operations: a pool holds those who were added, in that order, but for the first
of each name, as many as were removed. -/
theorem names_after : (∀ w, (removed kind past).count w ≤ (added kind past).count w) ∧
    ((after past).pool kind).map (·.id) = (added kind past).diff (removed kind past) := by
  induction past with
  | nil => simp [after, removed, added, since, log, pool]
  | cons op past ih =>
    obtain ⟨enough, names⟩ := ih
    rw [after]
    by_cases forgets : op = .forget kind
    · rw [forgets, removed, added, since_of_forget, Operation.pool_apply_forget, if_pos rfl]
      exact ⟨fun _ => Nat.le_refl _, rfl⟩
    · rw [added_cons forgets, removed_cons forgets]
      constructor
      · intro w
        rw [List.count_append, List.count_append]
        have most := enough w
        cases taken : Event.removed? kind ⟨op, op.succeeds (after past)⟩ with
        | none =>
          rw [Option.toList_none, List.count_nil]
          omega
        | some u =>
          rw [Option.toList_some, List.count_singleton]
          split
          · next same =>
            have listed := mem_of_removed? taken
            rw [beq_iff_eq.mp same, names, ← List.count_pos_iff, List.count_diff] at listed
            omega
          · omega
      · rw [names_apply forgets, List.diff_append, names, append_diff _ enough]

end Steps

section Lines

variable {r : Registry} {kind : Kind} {id w : WorkerId} {busy : Bool} {op : Operation}

/-- Whether those are busy who have one name, in the order of a pool. -/
def lineOf (id : WorkerId) (workers : List Worker) : List Bool :=
  (workers.filter (·.id = id)).map (·.busy)

theorem lineOf_cons (v : Worker) (rest : List Worker) :
    lineOf id (v :: rest) = if v.id = id then v.busy :: lineOf id rest else lineOf id rest := by
  rw [lineOf, List.filter_cons, lineOf]
  simp only [decide_eq_true_eq]
  split <;> rfl

theorem lineOf_append (front back : List Worker) :
    lineOf id (front ++ back) = lineOf id front ++ lineOf id back := by
  rw [lineOf, List.filter_append, List.map_append, lineOf, lineOf]

theorem lineOf_eraseP (workers : List Worker) : lineOf id (workers.eraseP (·.id = w)) =
    if w = id then (lineOf id workers).tail else lineOf id workers := by
  induction workers with
  | nil => simp [lineOf]
  | cons v rest ih =>
    rw [List.eraseP_cons, lineOf_cons]
    by_cases first : v.id = w
    · rw [decide_eq_true first, cond_true, ← first]
      split <;> rfl
    · rw [decide_eq_false first, cond_false, lineOf_cons, ih]
      by_cases named : v.id = id
      · have other : w ≠ id := fun same => first (named.trans same.symm)
        simp only [if_pos named, if_neg other]
      · simp only [if_neg named]

theorem lineOf_markBusy (workers : List Worker) : lineOf id (markBusy w busy workers) =
    if w = id then (lineOf id workers).set 0 busy else lineOf id workers := by
  induction workers with
  | nil => simp [lineOf, markBusy]
  | cons v rest ih =>
    rw [markBusy, lineOf_cons]
    by_cases first : v.id = w
    · rw [if_pos first, lineOf_cons, ← first]
      split <;> rfl
    · rw [if_neg first, lineOf_cons, ih]
      by_cases named : v.id = id
      · have other : w ≠ id := fun same => first (named.trans same.symm)
        simp only [if_pos named, if_neg other]
      · simp only [if_neg named]

theorem lineOf_apply (kept : op ≠ .forget kind) : lineOf id ((op.apply r).pool kind) =
    Event.serve kind id ⟨op, op.succeeds r⟩ (lineOf id (r.pool kind)) := by
  cases failed : op.succeeds r with
  | false =>
    rw [Operation.apply_of_failed failed]
    cases op with
    | remove | setBusy => rfl
    | register | add | forget => cases failed
  | true =>
    cases op with
    | register k =>
      rw [Operation.pool_apply_register]
      rfl
    | add k v =>
      rw [Operation.pool_apply_add, Event.serve]
      by_cases same : k = kind
      · rw [if_pos same, lineOf_append, lineOf_cons]
        by_cases named : v.id = id <;> simp [same, named, lineOf]
      · simp [same]
    | remove k w =>
      rw [Operation.pool_apply_remove, Event.serve]
      by_cases same : k = kind
      · simp only [same, if_true, lineOf_eraseP, true_and]
      · simp [same]
    | setBusy k w busy =>
      rw [Operation.pool_apply_setBusy, Event.serve]
      by_cases same : k = kind
      · simp only [same, if_true, lineOf_markBusy, true_and]
      · simp [same]
    | forget k =>
      have other : k ≠ kind := fun same => kept (same ▸ rfl)
      rw [Operation.pool_apply_forget, if_neg other]
      rfl

/-- Induction over the operations. -/
theorem lineOf_after {past : List Operation} :
    lineOf id ((after past).pool kind) = line kind id past := by
  induction past with
  | nil => simp [after, pool, lineOf, line, since, log]
  | cons op past ih =>
    rw [after]
    by_cases forgets : op = .forget kind
    · rw [forgets, line, since_of_forget, Operation.pool_apply_forget, if_pos rfl]
      rfl
    · rw [lineOf_apply forgets, ih, line, line, since_cons forgets, List.foldr_cons]

end Lines

/-- A registry as its history tells it, for one kind. The kind is known if something registered it since
it was last forgotten, be its pool empty or not. The names in the pool are those that were added, in that
order, without the first of each name, as many as were removed; and the workers of each name stand in
their line. -/
structure Recounts (past : List Operation) (kind : Kind) : Prop where
  listed : kind ∈ (after past).kinds ↔ Registered kind past
  contained : (after past).contains kind = true ↔ Registered kind past
  shown : ∀ workers, (kind, workers) ∈ (after past).toList ↔
    Registered kind past ∧ workers = (after past).pool kind
  names : ((after past).pool kind).map (·.id) = (added kind past).diff (removed kind past)
  ordered : (((after past).pool kind).map (·.id)).Sublist (added kind past)
  number : ∀ id, (removed kind past).count id ≤ (added kind past).count id ∧
    (after past).bearers kind id = (added kind past).count id - (removed kind past).count id
  lines : ∀ id, lineOf id ((after past).pool kind) = line kind id past

theorem recounts (past : List Operation) (kind : Kind) : Recounts past kind := by
  obtain ⟨enough, names⟩ := @names_after kind past
  constructor
  case listed => rw [mem_kinds, ← Option.isSome_iff_exists, ← contains_eq_isSome, contains_after]
  case contained => exact contains_after
  case shown =>
    intro workers
    rw [mem_toList, ← contains_after, contains_eq]
    constructor
    · intro found
      rw [found, pool_of_pool? found]
      exact ⟨rfl, rfl⟩
    · rintro ⟨known, rfl⟩
      obtain ⟨workers, found⟩ := Option.isSome_iff_exists.mp known
      rw [found, pool_of_pool? found]
  case names => exact names
  case ordered =>
    rw [names]
    exact List.diff_sublist _ _
  case number =>
    intro id
    rw [bearers_eq_count, names, List.count_diff]
    exact ⟨enough id, rfl⟩
  case lines => exact fun _ => lineOf_after

/-- After any operations a registry knows of a kind what happened since the kind was last forgotten, and
what is asked of a worker by its name meets the oldest one that is left. -/
theorem history_recounted (past : List Operation) (kind : Kind) :
    Recounts past kind ∧ ∀ id, (after past).Serves kind id :=
  ⟨recounts past kind, fun id => serves (after past) kind id⟩

/-- Of two workers of one name the one that came first is marked and leaves. -/
example :
    let kind : Kind := ⟨"build", by decide⟩
    let twin : WorkerId := ⟨"vm-1", by decide⟩
    let other : WorkerId := ⟨"vm-2", by decide⟩
    let past : List Operation := [.add kind ⟨twin, false⟩, .add kind ⟨other, false⟩,
      .add kind ⟨twin, false⟩, .forget kind, .add kind ⟨other, true⟩]
    let marked : List Operation := .setBusy kind twin true :: past
    (after marked).pool kind = [⟨twin, true⟩, ⟨other, false⟩, ⟨twin, false⟩] ∧
      (after (.remove kind twin :: marked)).pool kind = [⟨other, false⟩, ⟨twin, false⟩] := by
  decide +kernel

end ElasticPools.Registry
