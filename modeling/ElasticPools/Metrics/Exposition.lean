import ElasticPools.Decimal.Nearest
import ElasticPools.Decimal.Text
import ElasticPools.Metrics
/-!
The text in which metrics are served: families by name, each with its help, its type and one line
per series, series by label.
-/
namespace ElasticPools.Metrics

/-- Values are served as binary floating point numbers. -/
def sampleText (value : Int) : String :=
  Decimal.Style.sentence.write (Decimal.Scaled.toFloat (value < 0) ⟨value.natAbs, 0⟩)

/-- The lines of a family, none for a family without series. -/
def familyLines (name help type label : String) (samples : List (String × Int)) : List String :=
  if samples.isEmpty then []
  else
    s!"# HELP {name} {help}" :: s!"# TYPE {name} {type}" ::
      samples.map fun (value, sample) =>
        name ++ "\x7b" ++ label ++ "=\"" ++ value ++ "\"\x7d " ++ sampleText sample

def byKind (series : Std.ExtTreeMap Kind Nat) : List (String × Int) :=
  series.toList.map fun (kind, n) => (kind.text, (n : Int))

def gaugesByKind (series : Std.ExtTreeMap Kind Int) : List (String × Int) :=
  series.toList.map fun (kind, n) => (kind.text, n)

def refusals (m : Metrics) : List (String × Int) :=
  [("destroy", m.refusedDestructions), ("request", m.refusedRequests)].filterMap
    fun (label, n) => n.map fun n => (label, (n : Int))

def lines (m : Metrics) : List String :=
  familyLines "poolscale_pool_size" "Number of workers in the pool at the start of the tick"
    "gauge" "kind" (gaugesByKind m.poolSize) ++
  familyLines "poolscale_pool_target" "Tracked target pool size" "gauge" "kind"
    (gaugesByKind m.poolTarget) ++
  familyLines "poolscale_provisioning_failures_total"
    "Total number of failed worker requests and destructions" "counter" "operation" m.refusals ++
  familyLines "poolscale_workers_destroyed_total"
    "Total number of workers destroyed after their grace period" "counter" "kind"
    (byKind m.destroyed) ++
  familyLines "poolscale_workers_requested_total" "Total number of accepted worker requests"
    "counter" "kind" (byKind m.requested)

end ElasticPools.Metrics
