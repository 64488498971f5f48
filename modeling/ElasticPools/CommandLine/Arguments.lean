/-!
The arguments of the program: options in front of the command, the command, and its own options.
-/
namespace ElasticPools.CommandLine

/-- A whole number below a bound; a plus sign may stand in front. -/
def readCount? (bound : Nat) (text : String) : Option Nat :=
  let digits := match text.toList with
    | '+' :: rest => rest
    | rest => rest
  if digits.isEmpty || !digits.all Char.isDigit then none
  else
    let n := digits.foldl (fun n d => n * 10 + (d.toNat - '0'.toNat)) 0
    if n < bound then some n else none

/-- The number of a port, below a bound. A minus sign may stand in front of zero. -/
def readPort? (bound : Nat) (text : String) : Option Nat :=
  match text.toList with
  | '-' :: digits => if digits.head? = some '+' then none else readCount? 1 (String.ofList digits)
  | _ => readCount? bound text

/-- What an option takes along. -/
inductive Operand where
  | nothing
  | text
  /-- A whole number below a bound. -/
  | count (bound : Nat)
  /-- The number of a port, below a bound. -/
  | port (bound : Nat)
deriving DecidableEq, Repr

def Operand.accepts : Operand → String → Bool
  | nothing, _ => false
  | text, _ => true
  | count bound, value => (readCount? bound value).isSome
  | port bound, value => (readPort? bound value).isSome

/-- An option by its names; its long name is the one that counts. -/
structure OptionSpec where
  short : Option Char
  long : String
  operand : Operand
deriving Repr

/-- Why reading stops before the end. -/
inductive Stop where
  | usage
  | help
  | version
deriving DecidableEq, Repr

/-- What has been read: options with their values, empty for flags, and the other arguments. -/
structure Given where
  options : List (String × String)
  others : List String
deriving Repr

namespace Given

def none : Given := ⟨[], []⟩

/-- Notes an option. No option comes twice, and two of them end the reading. -/
def add (g : Given) (name value : String) : Except Stop Given :=
  if name = "help" then .error .help
  else if name = "version" then .error .version
  else if (g.options.lookup name).isSome then .error .usage
  else .ok { g with options := (name, value) :: g.options }

/-- Notes an option with its value, if it is one that the option accepts. -/
def addValue (g : Given) (spec : OptionSpec) (value : String) : Except Stop Given :=
  if spec.operand.accepts value then g.add spec.long value else .error .usage

def value? (g : Given) (name : String) : Option String := g.options.lookup name

/-- The number given with an option. -/
def count? (g : Given) (name : String) (bound : Nat) : Option Nat :=
  (g.value? name).bind (readCount? bound)

def has (g : Given) (name : String) : Bool := (g.value? name).isSome

end Given

/-- An argument that may follow an option as its value. -/
def isValue (arg : String) : Bool := arg = "-" || arg.toList.head? != some '-'

/-- A run of options with one dash. The last may take the rest of the run or the next argument as
its value; the answer says whether it took the next one. -/
def readShorts (specs : List OptionSpec) (next : Option String) :
    List Char → Given → Except Stop (Given × Bool)
  | [], g => .ok (g, false)
  | c :: rest, g =>
    match specs.find? (·.short == some c) with
    | none => .error .usage
    | some spec =>
      if spec.operand = .nothing then
        match g.add spec.long "" with
        | .error stop => .error stop
        | .ok g => readShorts specs next rest g
      else
        match rest with
        | '=' :: value => (g.addValue spec (String.ofList value)).map (·, false)
        | _ :: _ => (g.addValue spec (String.ofList rest)).map (·, false)
        | [] =>
          match next with
          | some value =>
            if isValue value then (g.addValue spec value).map (·, true) else .error .usage
          | none => .error .usage

/-- An option with two dashes, its value behind an equals sign or in the next argument. -/
def readLong (specs : List OptionSpec) (next : Option String) (text : List Char) (g : Given) :
    Except Stop (Given × Bool) :=
  let name := String.ofList (text.takeWhile (· != '='))
  let attached := match text.dropWhile (· != '=') with
    | _ :: value => some (String.ofList value)
    | [] => none
  match specs.find? (·.long == name) with
  | none => .error .usage
  | some spec =>
    if spec.operand = .nothing then
      match attached with
      | none => (g.add spec.long "").map (·, false)
      | some _ => .error .usage
    else
      match attached, next with
      | some value, _ => (g.addValue spec value).map (·, false)
      | none, some value =>
        if isValue value then (g.addValue spec value).map (·, true) else .error .usage
      | none, none => .error .usage

/-- Takes arguments that are no options, as many as there are places for. -/
def Given.addOthers (g : Given) (places : Nat) (args : List String) : Except Stop Given :=
  if g.others.length + args.length ≤ places then .ok { g with others := g.others ++ args }
  else .error .usage

/-- Reads the options of a command and its other arguments. Behind two dashes nothing is an
option. -/
def readOptions (specs : List OptionSpec) (places : Nat) :
    List String → Given → Except Stop Given
  | [], g => .ok g
  | arg :: args, g => do
    match arg.toList with
    | ['-', '-'] => g.addOthers places args
    | '-' :: '-' :: name =>
      let (g, tookNext) ← readLong specs args.head? name g
      readOptions specs places (args.drop tookNext.toNat) g
    | '-' :: first :: more =>
      let (g, tookNext) ← readShorts specs args.head? (first :: more) g
      readOptions specs places (args.drop tookNext.toNat) g
    | _ => readOptions specs places args (← g.addOthers places [arg])
termination_by args => args.length
decreasing_by all_goals simp only [List.length_drop, List.length_cons]; omega

/-- Reads the options in front of the command, which is left in the list that comes back. -/
def readGeneral (specs : List OptionSpec) :
    List String → Given → Except Stop (Given × List String)
  | [], g => .ok (g, [])
  | arg :: args, g => do
    match arg.toList with
    | ['-', '-'] => throw .usage
    | '-' :: '-' :: name =>
      let (g, tookNext) ← readLong specs args.head? name g
      readGeneral specs (args.drop tookNext.toNat) g
    | '-' :: first :: more =>
      let (g, tookNext) ← readShorts specs args.head? (first :: more) g
      readGeneral specs (args.drop tookNext.toNat) g
    | _ => return (g, arg :: args)
termination_by args => args.length
decreasing_by all_goals simp only [List.length_drop, List.length_cons]; omega

/-- One past the greatest count. -/
def wordRange : Nat := 0x10000000000000000

/-- One past the greatest port. -/
def portRange : Nat := 0x10000

def helpOption : OptionSpec := ⟨some 'h', "help", .nothing⟩

def generalOptions : List OptionSpec :=
  [⟨some 'c', "config", .text⟩, ⟨some 'v', "verbose", .nothing⟩, helpOption,
    ⟨some 'V', "version", .nothing⟩]

def runOptions : List OptionSpec :=
  [⟨some 't', "ticks", .count wordRange⟩, ⟨none, "realtime", .nothing⟩,
    ⟨none, "metrics-port", .port portRange⟩, ⟨none, "json", .nothing⟩,
    ⟨none, "capacity", .count wordRange⟩, helpOption]

/-- How a simulation is run. -/
structure RunOptions where
  /-- Without a limit it runs until it is interrupted. -/
  ticks : Option Nat
  realtime : Bool
  json : Bool
  capacity : Option Nat
deriving DecidableEq, Repr

inductive Command where
  | run (config : String) (options : RunOptions)
  | list (config : String)
  | validate (file : String)
deriving DecidableEq, Repr

def defaultTicks : Nat := 720

def defaultConfig : String := "poolscale.yaml"

def readRun (config : String) (g : Given) : Command :=
  let realtime := g.has "realtime"
  .run config
    { ticks := (g.count? "ticks" wordRange).or (if realtime then none else some defaultTicks)
      realtime
      json := g.has "json"
      capacity := g.count? "capacity" wordRange }

def commandNames : List String := ["run", "list", "validate", "help"]

/-- Reads the command and what belongs to it. -/
def readCommand (config : String) : List String → Except Stop Command
  | [] => .error .usage
  | name :: args =>
    let read (specs : List OptionSpec) (places : Nat) : Except Stop Given :=
      readOptions specs places args .none
    match name with
    | "run" => (read runOptions 0).map (readRun config)
    | "list" => (read [helpOption] 0).map fun _ => .list config
    | "validate" => do
      match (← read [helpOption] 1).others with
      | [file] => return .validate file
      | _ => throw .usage
    | "help" =>
      match args with
      | [] => .error .help
      | [command] => .error (if command ∈ commandNames then .help else .usage)
      | _ => .error .usage
    | _ => .error .usage

def readArguments (args : List String) : Except Stop Command := do
  let (g, rest) ← readGeneral generalOptions args .none
  readCommand ((g.value? "config").getD defaultConfig) rest

end ElasticPools.CommandLine
