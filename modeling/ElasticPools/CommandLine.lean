import ElasticPools.CommandLine.Arguments
import ElasticPools.CommandLine.Pages
import ElasticPools.Configuration.Reading
import ElasticPools.Report.Writing
import ElasticPools.Simulation
/-!
The commands of the program, as functions from what they read to what they print.
-/
namespace ElasticPools.CommandLine

/-- What a program leaves behind. -/
structure Response where
  exit : Nat
  output : String
  errors : String
deriving Repr

def versionText : String := "poolscale 1.0.0"

def usageText : String :=
  unlines [
    "Usage: poolscale [OPTIONS] <COMMAND>",
    "",
    "Commands:",
    "  run       Drive the autoscaler against a simulated cloud",
    "  list      List configured workload kinds",
    "  validate  Validate a configuration file",
    "",
    "Options:",
    "  -c, --config <CONFIG>  Configuration file path [default: poolscale.yaml]",
    "  -v, --verbose          Enable verbose logging",
    "  -h, --help             Print help",
    "  -V, --version          Print version"]

def Stop.response : Stop → Response
  | .usage => ⟨2, "", usageText⟩
  | .help => ⟨0, usageText, ""⟩
  | .version => ⟨0, unlines [versionText], ""⟩

/-- Failures of a command other than validation. -/
def failed (message : String) : Response := ⟨1, "", unlines ["Error: " ++ message]⟩

def reportLine (json : Bool) (r : Report Float) : String :=
  if json then r.toJson.write else r.line

def failureMessage : Simulation.Failure Float → String
  | .policy v => v.message
  | .repeatedTick r => r.message

/-- A report for each tick, then the totals; no totals among JSON documents. -/
def transcript (json : Bool) (s : Simulation Float) (frames : List (Simulation.Frame Float)) :
    String :=
  let last := (frames.getLast?.map (·.state)).getD s
  unlines (frames.map fun f => reportLine json f.report) ++
    (if json then "" else summary last.controller.totals)

def run (config : Configuration Float) (options : RunOptions) (ticks : Nat) : Response :=
  match Simulation.start config options.capacity Identifier.serial with
  | .error e => failed (failureMessage e)
  | .ok s =>
    match s.steps 0 ticks with
    | .error e => failed (failureMessage e)
    | .ok frames => ⟨0, transcript options.json s frames, ""⟩

def validate (file : String) (content : FileContent) : Response :=
  match Configuration.ofFile file content with
  | .ok config => ⟨0, validation config, ""⟩
  | .error e => ⟨1, "", unlines ["✗ Configuration validation failed:", "  " ++ e.message]⟩

def list (path : String) (content : FileContent) : Response :=
  match Configuration.ofFile path content with
  | .ok config => ⟨0, listing config, ""⟩
  | .error e => failed e.message

/-- The file that a command reads. -/
def Command.file : Command → String
  | .run config _ => config
  | .list config => config
  | .validate file => file

/-- Carries out a command. A run without a limit ends after `cutoff` ticks. -/
def respond (command : Command) (content : FileContent) (cutoff : Nat) : Response :=
  match command with
  | .list config => list config content
  | .validate file => validate file content
  | .run path options =>
    match Configuration.ofFile path content with
    | .error e => failed e.message
    | .ok config => run config options (options.ticks.getD cutoff)

end ElasticPools.CommandLine
