import ElasticPools.Configuration
import ElasticPools.Decimal.Text
import ElasticPools.Report
/-!
The pages that commands print: the table of kinds, the summary of a configuration and the summary
of a run.
-/
namespace ElasticPools.CommandLine

open Decimal (padRight writeFixed)

def unlines (lines : List String) : String := String.join (lines.map (· ++ "\n"))

/-- The greatest load of a kind, zero where it has none. -/
def peakLoad (plan : KindPlan Float) : Float :=
  plan.phases.foldl (fun peak phase => if peak < phase.load then phase.load else peak) 0.0

/-- A text with blanks up to the width of its column. -/
def cell (width : Nat) (text : String) : String := padRight width ' ' text

def kindRow (plan : KindPlan Float) : String :=
  s!"║ {cell 17 plan.kind.text} ║ {cell 10 (toString plan.initialWorkers)} ║ " ++
    s!"{cell 17 (toString plan.phases.length)} ║ {cell 23 (writeFixed 2 (peakLoad plan))} ║"

def listing (config : Configuration Float) : String :=
  if config.kinds.isEmpty then unlines ["No workload kinds defined in configuration."]
  else
    unlines [
      "╔══════════════════════════════════════════════════════════════════════════════╗",
      "║                            CONFIGURED KINDS                                  ║",
      "╠═══════════════════╦════════════╦═══════════════════╦═════════════════════════╣",
      "║ Kind              ║ Initial    ║ Demand phases     ║ Peak load (workers)     ║",
      "╠═══════════════════╬════════════╬═══════════════════╬═════════════════════════╣"] ++
    unlines (config.kinds.map kindRow) ++
    unlines [
      "╚═══════════════════╩════════════╩═══════════════════╩═════════════════════════╝",
      "",
      s!"Total: {config.kinds.length} kind(s), profile {config.policy.profile.name}"]

def onOff (flag : Bool) : String := if flag then "on" else "off"

def kindLine (plan : KindPlan Float) : String :=
  s!"  - {plan.kind.text} (initial workers: {plan.initialWorkers}, " ++
    s!"demand phases: {plan.phases.length})"

def validation (config : Configuration Float) : String :=
  let p := config.policy
  unlines [
    "✓ Configuration is valid",
    "",
    "Autoscaler Settings:",
    s!"  Profile:            {p.profile.name}",
    s!"  Tick Period:        {config.tickPeriod}s",
    s!"  Pool Tracking:      {onOff p.tracking}",
    s!"  Seed Pool Size:     {p.seedSize}",
    s!"  Thresholds:         min {writeFixed 2 p.minimum} / low {writeFixed 2 p.low} / " ++
      s!"high {writeFixed 2 p.high}",
    s!"  Grace (ticks):      singleton {p.singletonGrace} / at-target {p.atTargetGrace} / " ++
      s!"general {p.generalGrace}",
    s!"  Skip Growth After Destruction: {onOff p.skipGrowthAfterLoss}",
    "",
    s!"Kinds ({config.kinds.length}):"] ++
  unlines (config.kinds.map kindLine)

def summaryRow (label : String) (n : Nat) : String :=
  s!"║ {label}{cell 39 (toString n)}║"

def summary (totals : Totals) : String :=
  unlines [
    "",
    "╔══════════════════════════════════════════════════════════════╗",
    "║                     AUTOSCALER SUMMARY                       ║",
    "╠══════════════════════════════════════════════════════════════╣",
    summaryRow "Ticks evaluated:      " totals.ticks,
    summaryRow "Workers requested:    " totals.requested,
    summaryRow "Workers destroyed:    " totals.destroyed,
    summaryRow "Provisioning errors:  " totals.failures,
    "╚══════════════════════════════════════════════════════════════╝"]

end ElasticPools.CommandLine
