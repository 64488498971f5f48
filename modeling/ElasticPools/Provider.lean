import ElasticPools.Registry
/-!
Providers: whoever creates workers, tears them down and measures them. The controller sees a
provider only through what is listed here, and passes its state along from call to call.
-/
namespace ElasticPools

/-- A call that a provider refused. -/
inductive Refusal where
  | request (kind : Kind) (reason : String)
  | destruction (worker : WorkerId) (reason : String)
deriving DecidableEq

def Refusal.message : Refusal → String
  | .request kind reason => s!"Failed to provision worker for kind {kind.text}: {reason}"
  | .destruction worker reason => s!"Failed to destroy worker {worker.text}: {reason}"

/-- The calls that a provider with states `σ` answers. A change of membership that a request or a
destruction brings about shows in a later registry, and no call of a tick is taken to move a reading
within that tick. -/
structure Provider (σ α : Type) where
  registry : σ → Registry
  /-- Utilization of a worker over the last hour. -/
  reading : σ → Worker → α
  request : Kind → σ → Except Refusal Unit × σ
  destroy : Worker → σ → Except Refusal Unit × σ
  /-- Drops a kind whose last worker was destroyed. -/
  forget : Kind → σ → σ

/-- The outcome of a run of requests for one kind. -/
structure Burst (σ : Type) where
  /-- The kind of each accepted request. -/
  requested : List Kind
  accepted : Nat
  failures : List Refusal
  world : σ

namespace Provider

variable {σ α : Type}

/-- Requests `count` workers, one call each, whatever the answers. -/
def requestMany (p : Provider σ α) (kind : Kind) : Nat → σ → Burst σ
  | 0, world => ⟨[], 0, [], world⟩
  | count + 1, world =>
    match p.request kind world with
    | (.ok (), world) =>
      let rest := p.requestMany kind count world
      { rest with requested := kind :: rest.requested, accepted := rest.accepted + 1 }
    | (.error e, world) =>
      let rest := p.requestMany kind count world
      { rest with failures := e :: rest.failures }

/-- The requests of a run that are listed are those that are counted. -/
theorem requested_requestMany (p : Provider σ α) (kind : Kind) (count : Nat) (world : σ) :
    (p.requestMany kind count world).requested =
      List.replicate (p.requestMany kind count world).accepted kind := by
  induction count generalizing world with
  | zero => rfl
  | succ n ih =>
    unfold requestMany
    split
    · next after _ => exact congrArg (kind :: ·) (ih after)
    · next after _ => exact ih after

end Provider

end ElasticPools
