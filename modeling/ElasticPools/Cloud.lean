import ElasticPools.Demand
import ElasticPools.Identifier.Serial
import ElasticPools.Provider
/-!
A cloud in the computer's memory. Requests and destructions are queued and take effect when the next
tick is entered. The load of a kind fills its pool from the front, so that the first workers are
saturated and the last ones idle, and every machine remembers its shares of the last hour.
-/
namespace ElasticPools

/-- The shares of load that a machine carried within the last hour, oldest first. -/
structure Usage (α : Type) where
  shares : List α

structure Cloud (α : Type) where
  registry : Registry
  /-- Every machine that runs, with the kind for which it was started. -/
  owners : Std.ExtTreeMap WorkerId Kind
  usage : Std.ExtTreeMap WorkerId (Usage α)
  plans : Std.ExtTreeMap Kind (KindPlan α)
  /-- Accepted requests that no tick has seen yet. -/
  creations : List Kind
  /-- Accepted destructions that no tick has seen yet. -/
  destructions : List WorkerId
  /-- How many ticks make an hour. -/
  window : Nat
  /-- The most machines that requests may lead to. -/
  capacity : Option Nat
  /-- Where names of new machines come from. -/
  names : Nat → WorkerId
  /-- How many names have been used. -/
  issued : Nat

namespace Usage

variable {α : Type}

/-- A machine that has carried nothing yet. -/
def blank : Usage α := ⟨[]⟩

/-- Adds a share; a full window loses its oldest one. -/
def record (window : Nat) (share : α) (u : Usage α) : Usage α :=
  ⟨(if u.shares.length = window then u.shares.tail else u.shares) ++ [share]⟩

variable [Quantity α]

/-- The mean share, zero where there is none yet. -/
def mean (u : Usage α) : α := (Quantity.mean? u.shares).getD 0.0

end Usage

namespace Cloud

variable {α : Type} [Quantity α]

def secondsPerHour : Nat := 3600

/-- At least one tick, however long it lasts. -/
def windowOf (tickPeriod : Nat) : Nat := max (secondsPerHour / max tickPeriod 1) 1

theorem windowOf_pos (tickPeriod : Nat) : 0 < windowOf tickPeriod := by
  unfold windowOf
  omega

/-- A cloud without machines. Of two plans for one kind the later one counts. -/
def new (kinds : List (KindPlan α)) (tickPeriod : Nat) (capacity : Option Nat)
    (names : Nat → WorkerId) : Cloud α where
  registry := .empty
  owners := ∅
  usage := ∅
  plans := .ofList (kinds.map fun plan => (plan.kind, plan))
  creations := []
  destructions := []
  window := windowOf tickPeriod
  capacity
  names
  issued := 0

def liveWorkers (c : Cloud α) : Nat := c.owners.size

/-- Starts a machine under a new name, at the end of its pool. -/
def spawn (c : Cloud α) (kind : Kind) : Cloud α :=
  let id := c.names c.issued
  { c with
    registry := c.registry.add kind ⟨id, false⟩
    owners := c.owners.insert id kind
    usage := c.usage.insert id .blank
    issued := c.issued + 1 }

/-- Stops a machine, if it still runs. -/
def stop (c : Cloud α) (id : WorkerId) : Cloud α :=
  match c.owners[id]? with
  | none => c
  | some kind =>
    { c with
      owners := c.owners.erase id
      usage := c.usage.erase id
      registry := (c.registry.take kind id).2 }

/-- Registers the planned kinds and starts their first workers. -/
def bootstrap (c : Cloud α) : Cloud α :=
  c.plans.toList.foldl (fun c (kind, plan) =>
    plan.initialWorkers.repeat (·.spawn kind) { c with registry := c.registry.register kind }) c

/-- Carries out what was queued, destructions before creations. -/
def applyQueues (c : Cloud α) : Cloud α :=
  c.creations.foldl spawn
    (c.destructions.foldl stop { c with creations := [], destructions := [] })

/-- Spreads a load over a pool: each worker takes what is left, up to one. -/
def shares (load : α) : List Worker → List (WorkerId × α)
  | [] => []
  | w :: ws =>
    let share := if load < (1.0 : α) then load else 1.0
    (w.id, share) :: shares (load - share) ws

/-- The load of a kind at a tick; kinds without a plan have none. -/
def loadAt (c : Cloud α) (kind : Kind) (tick : Nat) : α :=
  match c.plans[kind]? with
  | none => 0.0
  | some plan => plan.loadAt tick

/-- Gives a worker its share. A worker with a share is busy. -/
def assign (kind : Kind) (c : Cloud α) (assigned : WorkerId × α) : Cloud α :=
  let (id, share) := assigned
  { c with
    usage := c.usage.modify id (·.record c.window share)
    registry := (c.registry.mark kind id ((0.0 : α) < share)).2 }

/-- Spreads the load of every registered kind over its pool. -/
def spreadLoad (c : Cloud α) (tick : Nat) : Cloud α :=
  c.registry.toList.foldl (fun c (kind, workers) =>
    (shares (c.loadAt kind tick) workers).foldl (assign kind) c) c

/-- Enters a tick. -/
def advance (c : Cloud α) (tick : Nat) : Cloud α := c.applyQueues.spreadLoad tick

/-- Utilization of a worker over the last hour, zero for one that the cloud does not know. -/
def utilization (c : Cloud α) (id : WorkerId) : α :=
  match c.usage[id]? with
  | none => 0.0
  | some usage => usage.mean

/-- Queues a creation, unless machines and queued creations fill the capacity. -/
def request (kind : Kind) (c : Cloud α) : Except Refusal Unit × Cloud α :=
  let accepted : Except Refusal Unit × Cloud α :=
    (.ok (), { c with creations := c.creations ++ [kind] })
  match c.capacity with
  | none => accepted
  | some capacity =>
    if capacity ≤ c.liveWorkers + c.creations.length then
      (.error (.request kind s!"capacity of {capacity} workers exhausted"), c)
    else accepted

/-- Queues the destruction of a machine that runs. -/
def destroy (id : WorkerId) (c : Cloud α) : Except Refusal Unit × Cloud α :=
  if c.owners.contains id then
    (.ok (), { c with destructions := c.destructions ++ [id] })
  else (.error (.destruction id "unknown worker"), c)

/-- Drops a kind from the registry; its machines run on. -/
def forget (kind : Kind) (c : Cloud α) : Cloud α := { c with registry := c.registry.forget kind }

/-- The cloud as the controller sees it. -/
def provider : Provider (Cloud α) α where
  registry := registry
  reading c w := c.utilization w.id
  request
  destroy w := destroy w.id
  forget

end Cloud

end ElasticPools
