import ElasticPools.Worker
import Std.Data.ExtTreeMap
import Std.Data.ExtTreeSet
/-!
The registry of pools: which kinds there are, and the workers of each in the order they were added.
A kind stays registered when its pool runs empty, until it is forgotten.
-/
namespace ElasticPools

structure Registry where
  pools : Std.ExtTreeMap Kind (List Worker)

namespace Registry

/-- A name that the registry does not know. -/
inductive Missing where
  | kind (kind : Kind)
  | worker (kind : Kind) (worker : WorkerId)
deriving DecidableEq

def Missing.message : Missing → String
  | .kind k => s!"Kind not found: {k.text}"
  | .worker k w => s!"Worker not found: {w.text} (kind: {k.text})"

def empty : Registry := ⟨∅⟩

def pool? (r : Registry) (kind : Kind) : Option (List Worker) := r.pools[kind]?

/-- The workers of a kind, none where it is not registered. -/
def pool (r : Registry) (kind : Kind) : List Worker := (r.pool? kind).getD []

def contains (r : Registry) (kind : Kind) : Bool := r.pools.contains kind

def size (r : Registry) : Nat := r.pools.size

def isEmpty (r : Registry) : Bool := r.pools.isEmpty

/-- Registered kinds, ascending. -/
def kinds (r : Registry) : List Kind := r.pools.keys

/-- Every kind with its workers, kinds ascending. -/
def toList (r : Registry) : List (Kind × List Worker) := r.pools.toList

/-- The names of all workers of all kinds. -/
def workerIds (r : Registry) : Std.ExtTreeSet WorkerId :=
  .ofList (r.toList.flatMap fun (_, workers) => workers.map (·.id))

def put (r : Registry) (kind : Kind) (workers : List Worker) : Registry :=
  ⟨r.pools.insert kind workers⟩

/-- Registers a kind with an empty pool. A known kind keeps its pool. -/
def register (r : Registry) (kind : Kind) : Registry := r.put kind (r.pool kind)

/-- Puts a worker at the end of a pool, and registers the kind if need be. -/
def add (r : Registry) (kind : Kind) (worker : Worker) : Registry :=
  r.put kind (r.pool kind ++ [worker])

def workers (r : Registry) (kind : Kind) : Except Missing (List Worker) :=
  match r.pool? kind with
  | none => .error (.kind kind)
  | some workers => .ok workers

/-- Finds the oldest worker of a name in a pool. -/
def find (r : Registry) (kind : Kind) (id : WorkerId) : Except Missing (Worker × List Worker) :=
  match r.workers kind with
  | .error e => .error e
  | .ok workers =>
    match workers.find? (·.id = id) with
    | none => .error (.worker kind id)
    | some worker => .ok (worker, workers)

/-- Changes the pool in which there is a worker of a name, and tells the oldest one. Where there is
none, all stays as it is. -/
def change (r : Registry) (kind : Kind) (id : WorkerId) (f : List Worker → List Worker) :
    Except Missing Worker × Registry :=
  match r.find kind id with
  | .error e => (.error e, r)
  | .ok (worker, workers) => (.ok worker, r.put kind (f workers))

/-- Takes the oldest worker of a name out of its pool. -/
def take (r : Registry) (kind : Kind) (id : WorkerId) : Except Missing Worker × Registry :=
  r.change kind id (·.eraseP (·.id = id))

/-- Marks the first worker of a name in a list. -/
def markBusy (id : WorkerId) (busy : Bool) : List Worker → List Worker
  | [] => []
  | w :: ws => if w.id = id then { w with busy } :: ws else w :: markBusy id busy ws

/-- Marks the oldest worker of a name as busy or idle. -/
def mark (r : Registry) (kind : Kind) (id : WorkerId) (busy : Bool) :
    Except Missing Unit × Registry :=
  let (marked, r) := r.change kind id (markBusy id busy)
  (marked.map fun _ => (), r)

/-- `take`, for those who stop where it fails. -/
def remove (r : Registry) (kind : Kind) (id : WorkerId) : Except Missing (Worker × Registry) :=
  let (taken, r) := r.take kind id
  taken.map (·, r)

/-- `mark`, for those who stop where it fails. -/
def setBusy (r : Registry) (kind : Kind) (id : WorkerId) (busy : Bool) : Except Missing Registry :=
  let (marked, r) := r.mark kind id busy
  marked.map fun () => r

/-- Drops a kind together with its pool. -/
def forget (r : Registry) (kind : Kind) : Registry := ⟨r.pools.erase kind⟩

@[simp] theorem pool?_empty (k : Kind) : empty.pool? k = none := by
  simp [pool?, empty]

@[simp] theorem pool?_put (r : Registry) (kind k : Kind) (ws : List Worker) :
    (r.put kind ws).pool? k = if kind = k then some ws else r.pool? k := by
  simp [pool?, put, Std.ExtTreeMap.getElem?_insert]

@[simp] theorem pool?_forget (r : Registry) (kind k : Kind) :
    (r.forget kind).pool? k = if kind = k then none else r.pool? k := by
  simp [pool?, forget, Std.ExtTreeMap.getElem?_erase]

theorem pool?_register (r : Registry) (kind k : Kind) :
    (r.register kind).pool? k = if kind = k then some (r.pool k) else r.pool? k := by
  simp only [register, pool?_put]
  split
  · next h => rw [h]
  · rfl

theorem pool?_add (r : Registry) (kind k : Kind) (w : Worker) :
    (r.add kind w).pool? k = if kind = k then some (r.pool k ++ [w]) else r.pool? k := by
  simp only [add, pool?_put]
  split
  · next h => rw [h]
  · rfl

/-- Marking a worker moves and renames nobody. -/
theorem map_id_markBusy (id : WorkerId) (busy : Bool) (ws : List Worker) :
    (markBusy id busy ws).map (·.id) = ws.map (·.id) := by
  induction ws with
  | nil => rfl
  | cons w ws ih =>
    unfold markBusy
    split
    · simp
    · simp [ih]

theorem contains_eq (r : Registry) (k : Kind) : r.contains k = (r.pool? k).isSome := by
  simp [contains, pool?]

theorem mem_toList {r : Registry} {k : Kind} {ws : List Worker} :
    (k, ws) ∈ r.toList ↔ r.pool? k = some ws := by
  simp [toList, pool?]

end Registry

end ElasticPools
