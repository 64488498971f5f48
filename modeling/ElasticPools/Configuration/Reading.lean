import ElasticPools.Configuration
import ElasticPools.Yaml.Value
/-!
Configurations read from YAML text. Unknown fields are refused inside each section, and ignored
beside the sections.
-/
namespace ElasticPools

namespace Draft

open Yaml Yaml.Value

/-- One past the greatest grace. -/
def graceRange : Nat := 0x100000000

def policyFields : List String :=
  ["profile", "tick_period_secs", "seed_pool_size", "min_utilization", "low_threshold",
    "high_threshold", "singleton_grace", "at_target_grace", "generic_grace",
    "skip_growth_after_destruction"]

def readPolicy (anchors : Anchors) (n : Node) : Decoder (PolicyDraft Float) := do
  let r ← record anchors policyFields .refused n
  let number (name : String) := withDefault r name none (optional anchors (float anchors))
  let grace (name : String) := withDefault r name none (optional anchors (nat anchors graceRange))
  return {
    profile := ← withDefault r "profile" none (optional anchors (choice anchors Profile.ofName?))
    tickPeriod :=
      ← withDefault r "tick_period_secs" PolicyDraft.defaultTickPeriod (nat anchors wordRange)
    seedSize := ← withDefault r "seed_pool_size" none (optional anchors (nat anchors wordRange))
    minimum := ← number "min_utilization"
    low := ← number "low_threshold"
    high := ← number "high_threshold"
    singletonGrace := ← grace "singleton_grace"
    atTargetGrace := ← grace "at_target_grace"
    generalGrace := ← grace "generic_grace"
    skipGrowthAfterLoss :=
      ← withDefault r "skip_growth_after_destruction" none (optional anchors (truth anchors)) }

def readPhase (anchors : Anchors) (n : Node) : Decoder (Phase Float) := do
  let r ← record anchors ["from_tick", "load"] .refused n
  return {
    start := ← required r "from_tick" (nat anchors wordRange)
    load := ← required r "load" (float anchors) }

def readKind (anchors : Anchors) (n : Node) : Decoder (KindDraft Float) := do
  let r ← record anchors ["id", "initial_workers", "demand"] .refused n
  return {
    name := ← required r "id" (text anchors)
    initialWorkers := ← withDefault r "initial_workers" 0 (nat anchors wordRange)
    phases := ← withDefault r "demand" [] (list anchors (readPhase anchors)) }

def blank : Draft Float := ⟨.blank, []⟩

def readRoot (anchors : Anchors) (n : Node) : Decoder (Draft Float) := do
  let r ← record anchors ["autoscaler", "kinds"] .ignored n
  return {
    policy := ← withDefault r "autoscaler" .blank (readPolicy anchors)
    kinds := ← withDefault r "kinds" [] (list anchors (readKind anchors)) }

/-- The draft that a text stands for. An empty text leaves everything to the defaults. -/
def ofText? (content : String) : Option (Draft Float) :=
  (Document.ofText? content).bind fun d =>
    match d.root with
    | none => some blank
    | some n => ((readRoot d.anchors n).run (aliasesPerPart * d.weight)).map (·.1)

end Draft

/-- Why there is no configuration. -/
inductive LoadFailure where
  | missing (path : String)
  | unreadable (reason : String)
  | malformed
  | invalid (violation : Violation Float)

def LoadFailure.message : LoadFailure → String
  | missing path => s!"Configuration file not found: {path}"
  | unreadable reason => s!"IO error: reading config file - {reason}"
  | malformed => "Configuration parse error: YAML parse error: malformed document"
  | invalid v => s!"Hard validation error: {v.message}"

/-- What is found at a path. -/
inductive FileContent where
  | missing
  | directory
  | unreadable (reason : String)
  | bytes (content : ByteArray)

namespace Configuration

def ofText (content : String) : Except LoadFailure (Configuration Float) :=
  match Draft.ofText? content with
  | none => .error .malformed
  | some draft =>
    match draft.check with
    | .error v => .error (.invalid v)
    | .ok config => .ok config

def ofFile (path : String) : FileContent → Except LoadFailure (Configuration Float)
  | .missing => .error (.missing path)
  | .directory => .error (.unreadable "Is a directory (os error 21)")
  | .unreadable reason => .error (.unreadable reason)
  | .bytes content =>
    match String.fromUTF8? content with
    | none => .error (.unreadable "stream did not contain valid UTF-8")
    | some text => ofText text

end Configuration

end ElasticPools
