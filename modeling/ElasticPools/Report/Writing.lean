import ElasticPools.Decimal.Text
import ElasticPools.Json
import ElasticPools.Report
/-!
Reports as JSON documents and as lines of text.
-/
namespace ElasticPools

namespace Json

def name {role : Identifier.Role} (id : Identifier role) : Json := string id.text

def optional {β : Type} (write : β → Json) : Option β → Json
  | none => null
  | some b => write b

/-- What is no finite number is written as null. -/
def float (x : Float) : Json :=
  if x.isFinite then number (Decimal.Style.document.write x) else null

end Json

def PoolReport.toJson (r : PoolReport Float) : Json :=
  .object [
    ("kind", .name r.kind),
    ("state", .string r.state.name),
    ("pool_size", .nat r.size),
    ("target", .optional .nat r.target),
    ("utilization", .optional .float r.utilization),
    ("growth", .string r.growth.name),
    ("destroyed", .nat r.destroyed),
    ("requested", .nat r.requested)]

def Report.toJson (r : Report Float) : Json :=
  .object [
    ("tick", .nat r.tick),
    ("kinds", .array (r.pools.map (·.toJson))),
    ("requested", .array (r.requested.map .name)),
    ("destroyed", .array (r.destroyed.map .name)),
    ("forgotten", .array (r.forgotten.map .name)),
    ("failures", .array (r.failures.map fun f => .string f.message))]

namespace PoolReport

/-- Per cent with one place, in a column of its own. -/
def utilizationText (r : PoolReport Float) : String :=
  match r.utilization with
  | none => "     -"
  | some u => Decimal.padLeft 5 ' ' (Decimal.writeFixed 1 (u * 100)) ++ "%"

def targetText (r : PoolReport Float) : String :=
  match r.target with
  | none => "-"
  | some target => toString target

def line (r : PoolReport Float) : String :=
  s!" {r.kind.text} {r.size}/{r.targetText} {r.utilizationText} {r.growth.name}" ++
    (if 0 < r.requested then s!" +{r.requested}" else "") ++
    (if 0 < r.destroyed then s!" -{r.destroyed}" else "") ++ " │"

end PoolReport

/-- A report on one line, without the line's end. -/
def Report.line (r : Report Float) : String :=
  "tick " ++ Decimal.padLeft 5 ' ' (toString r.tick) ++ " │" ++
    String.join (r.pools.map (·.line)) ++
    String.join (r.failures.map fun f => " ✗ " ++ f.message)

end ElasticPools
