import ElasticPools.Identifier
/-!
Workers as a snapshot of their pool shows them.
-/
namespace ElasticPools

/-- A worker is busy while it runs a task or has one queued. -/
structure Worker where
  id : WorkerId
  busy : Bool
deriving DecidableEq

end ElasticPools
