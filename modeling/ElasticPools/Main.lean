import ElasticPools.CommandLine
/-!
The program: reads the file that its arguments name and prints what the command answers.
-/
namespace ElasticPools

open CommandLine

/-- Looks at a path. -/
def readContent (path : String) : IO FileContent := do
  try
    return .bytes (← IO.FS.readBinFile path)
  catch e =>
    match e with
    | .noFileOrDirectory .. => return .missing
    | .inappropriateType .. | .illegalOperation .. => return .directory
    | e => return .unreadable (toString e)

def print (r : Response) : IO UInt32 := do
  (← IO.getStdout).putStr r.output
  (← IO.getStderr).putStr r.errors
  return UInt32.ofNat r.exit

/-- Prints reports as they come, and waits between ticks where that is asked for. -/
partial def drive (options : RunOptions) (period : Nat) (last : Nat) (s : Simulation Float) :
    IO UInt32 := do
  if options.ticks = some last then
    print ⟨0, if options.json then "" else summary s.controller.totals, ""⟩
  else
    match s.step (last + 1) with
    | .error e => print (failed (failureMessage e))
    | .ok frame =>
      let out ← IO.getStdout
      out.putStr (unlines [reportLine options.json frame.report])
      out.flush
      if options.realtime && options.ticks != some (last + 1) then
        IO.sleep (UInt32.ofNat (1000 * period))
      drive options period (last + 1) frame.state

def execute (command : Command) : IO UInt32 := do
  let content ← readContent command.file
  match command with
  | .run path options =>
    match Configuration.ofFile path content with
    | .error e => print (failed e.message)
    | .ok config =>
      match Simulation.start config options.capacity Identifier.serial with
      | .error e => print (failed (failureMessage e))
      | .ok s => drive options config.tickPeriod 0 s
  | command => print (respond command content defaultTicks)

end ElasticPools

def main (args : List String) : IO UInt32 :=
  match ElasticPools.CommandLine.readArguments args with
  | .error stop => ElasticPools.print stop.response
  | .ok command => ElasticPools.execute command
