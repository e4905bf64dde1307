import TrafficQueue.Config.Parameter
import TrafficQueue.Event.Record
import TrafficQueue.Output.Batch
import TrafficQueue.Output.Csv
import TrafficQueue.Random
import TrafficQueue.Scenario.Grid

/-!
# A morning on the grid

Commuters drive from a random home to a random place of work, stay there for half an hour and drive
back.  Those with even numbers may change their route when their trip takes long.

Main definitions: `Commute.population` and `Commute.outcome`, what the program answers to its
arguments.
-/

namespace TrafficQueue.Commute

/-! ## The scenario -/

/-- Rows and columns of the grid. -/
def gridSize : Nat := 10

/-- How many people commute. -/
def commuters : Nat := 2000

/-- Seconds at work. -/
def workSecs : Nat := 1800

/-- The first time at which somebody leaves home. -/
def firstLeave : Time := .ofClock 7 0 0

/-- Everybody leaves home within so many seconds. -/
def leaveWindow : Nat := 3600

/-- Seconds of travel after which a commuter is no longer content. -/
def patience : Float := 300

/-- The configuration, unless the arguments change it. -/
def config : Config :=
  { startTime := .ofClock 6 0 0
    endTime := .ofClock 12 0 0
    replanningInterval := 120
    outputInterval := 300 }

/-- From home to work and back. -/
def plan (net : Network) (home work : LinkId) (leave : Time) : Plan :=
  { elements :=
      [.activity { kind := "home", link := home, endTime := some leave },
       .leg ⟨.car, net.route? home work⟩,
       .activity { kind := "work", link := work, duration := some workSecs },
       .leg ⟨.car, net.route? work home⟩,
       .activity { kind := "home", link := home }] }

/-- Where the choices of commuters come from: one of some links, and the seconds by which somebody
leaves after the first.  A source is used up by every draw, and another one is left. -/
structure Draws (σ : Type) where
  choose : σ → Array LinkId → Option LinkId × σ
  delay : σ → Nat × σ

/-- The draws of a generator of random numbers. -/
def Draws.random : Draws Random where
  choose r links := r.choose links
  delay r := r.below64 leaveWindow

section Drawing

variable {σ : Type} (draws : Draws σ) (net : Network) (links : Array LinkId)

/-- Draws the plan of a commuter; without links there is none. -/
def drawPlan (source : σ) : Option Plan × σ :=
  match draws.choose source links with
  | (none, source) => (none, source)
  | (some home, source) =>
    match draws.choose source links with
    | (none, source) => (none, source)
    | (some work, source) =>
      let (delay, source) := draws.delay source
      (some (plan net home work (firstLeave.offset delay)), source)

/-- Draws the commuter with number `i`. -/
def drawPerson (drawn : Array Person × σ) (i : Nat) : Array Person × σ :=
  let (plan, source) := drawPlan draws net links drawn.2
  (plan.elim drawn.1 fun p => drawn.1.push ⟨"commuter_" ++ toString i, p⟩, source)

/-- The commuters that are drawn from a source. -/
def drawPopulation (source : σ) : Population :=
  ⟨((List.range commuters).foldl (drawPerson draws net net.linkIds.toArray) (#[], source)).1⟩

end Drawing

/-- The commuters that a generator draws for a seed. -/
def population (net : Network) (seed : UInt64) : Population :=
  drawPopulation .random net (.ofSeed seed)

/-- Who may be given another route: every second commuter. -/
def strategy (a : AgentId) (_ : Person) : Strategy :=
  if a.index % 2 = 0 then .withinDay else .followRoute

/-- Who gives other routes to commuters. -/
def replanner (net : Network) (c : Config) : Replanner :=
  { rule := .ofConfig c
    provider := .leastTime net
    contentment := .ofTravelTime patience }

/-! ## The program -/

/-- What can stop the program. -/
inductive Failure where
  /-- An argument is not of the form `name=value`. -/
  | unnamed (argument : String)
  | config (e : ConfigError)
  | network (e : NetworkError)
  | output (e : OutputError)
  | simulation (e : SimulationError)

/-- What is told of a failure. -/
def Failure.message : Failure → String
  | .unnamed argument => "expected name=value, got " ++ Text.quote argument
  | .config e => e.message
  | .network e => e.message
  | .output e => e.message
  | .simulation e => e.message

/-- Splits an argument at its first equality sign. -/
def splitArgument (argument : String) : Option (String × String) :=
  let cs := argument.toList
  let name := cs.takeWhile (· ≠ '=')
  match cs.drop name.length with
  | [] => none
  | _ :: value => some (String.ofList name, String.ofList value)

/-- The configuration changed by an argument. -/
def applyArgument (c : Config) (argument : String) : Except Failure Config :=
  match splitArgument argument with
  | none => .error (.unnamed argument)
  | some (name, value) => (c.set name value).mapError .config

/-- Output and counts of a run. -/
structure Record where
  output : BatchedOutput CsvFiles
  tally : EventTally := {}

namespace Record

/-- Changes the output and leaves the counts alone. -/
def modifyOutput (f : BatchedOutput CsvFiles → BatchedOutput CsvFiles) : Record → Record
  | ⟨output, tally⟩ => ⟨f output, tally⟩

/-- Changes the counts and leaves the output alone. -/
def modifyTally (f : EventTally → EventTally) : Record → Record
  | ⟨output, tally⟩ => ⟨output, f tally⟩

end Record

/-- What the program leaves behind. -/
structure Outcome where
  failure : Option Failure := none
  /-- The files, if it came to writing them. -/
  files : Option CsvFiles := none
  /-- An error of the output, which does not stop the program. -/
  outputError : Option OutputError := none
  stats : Statistics := {}
  tally : EventTally := {}

/-- Where the files go. -/
def directory : String := "output/grid"

/-- Puts blanks behind a text up to a width. -/
def padRight (width : Nat) (s : String) : String :=
  s ++ String.ofList (List.replicate (width - s.length) ' ')

/-- Puts blanks in front of a text up to a width. -/
def padLeft (width : Nat) (s : String) : String :=
  String.ofList (List.replicate (width - s.length) ' ') ++ s

/-- A line of the table of counts. -/
def tableLine (entry : String × String) : String :=
  padRight 14 entry.1 ++ " " ++ padLeft 10 entry.2

namespace Outcome

/-- What the program returns. -/
def exitCode (o : Outcome) : UInt8 := if o.failure.isSome then 1 else 0

/-- The lines of the report, with the time that the run took in words. -/
def report (o : Outcome) (elapsed : String) : List String :=
  if o.failure.isSome then []
  else
    ["Simulated " ++ toString o.stats.steps ++ " steps in " ++ elapsed,
      "  completed : " ++ toString o.stats.completed,
      "  lost      : " ++ toString o.stats.lost,
      "  living    : " ++ toString o.stats.living,
      "  replans   : " ++ toString o.stats.replans,
      "",
      tableLine ("Event", "Count"),
      String.ofList (List.replicate 25 '-')] ++
    (o.tally.counts.map fun c => tableLine (c.1, toString c.2)) ++
    ["", "Output written to " ++ directory ++ "/"]

/-- What is written about errors. -/
def complaints (o : Outcome) : List String :=
  (o.outputError.toList.map fun e => "output error: " ++ e.message) ++
    o.failure.toList.map fun e => "Error: " ++ e.message

end Outcome

/-- A run of the scenario to its end. -/
def run (net : Network) (c : Config) (files : CsvFiles) :
    Except SimulationError (Run Record) := do
  let simulation ←
    Simulation.build c net (population net c.seed) (some (replanner net c)) (some strategy)
  let handlers := [BatchedOutput.handler Record.modifyOutput, EventTally.handler Record.modifyTally]
  let observer := BatchedOutput.observer Record.modifyOutput
  (Run.start simulation handlers observer { output := .ofWriter files }).complete

/-- What the program does for its arguments. -/
def outcome (arguments : List String) : Outcome :=
  match arguments.foldlM applyArgument config with
  | .error e => { failure := some e }
  | .ok c =>
    match Grid.network gridSize with
    | .error e => { failure := some (.network e) }
    | .ok net =>
      match CsvFiles.create true with
      | .error e => { failure := some (.output e) }
      | .ok files =>
        match run net c files with
        | .error e => { failure := some (.simulation e), files := some files.close }
        | .ok r =>
          let ⟨output, tally⟩ := r.listeners
          { files := some output.writer.close
            outputError := output.error
            stats := r.simulation.stats
            tally }

end TrafficQueue.Commute
