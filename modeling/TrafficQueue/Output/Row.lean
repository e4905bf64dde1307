import TrafficQueue.Event.Basic
import TrafficQueue.Simulation.Statistics

/-!
# Rows of output

The flat form of an event and of a summary, and where rows go.

Main definitions: `EventRow.ofEvent`, `SummaryRow.ofStatistics` and the class `RowWriter`.
-/

namespace TrafficQueue

/-- An event as it is written. -/
structure EventRow where
  time : Nat
  agent : Nat
  link : Nat
  kind : String
  detail : String
deriving DecidableEq

/-- The row of an event. -/
def EventRow.ofEvent (e : Event) : EventRow :=
  ⟨e.time.secs, e.agent.index, e.link.index, e.kind.name, e.kind.detail⟩

/-- A summary as it is written. -/
structure SummaryRow where
  time : Nat
  steps : Nat
  living : Nat
  completed : Nat
  lost : Nat
  inTraffic : Nat
  events : Nat
  replans : Nat
deriving DecidableEq

/-- The row of the statistics at a time. -/
def SummaryRow.ofStatistics (now : Time) (s : Statistics) : SummaryRow :=
  ⟨now.secs, s.steps, s.living, s.completed, s.lost, s.inTraffic, s.events, s.replans⟩

/-- What can go wrong when rows are written. -/
inductive OutputError where
  /-- A call failed for a reason outside of the program. -/
  | io (reason : String)
  /-- A file of comma-separated values could not be written. -/
  | csv (reason : String)
deriving DecidableEq

/-- What is told of an error. -/
def OutputError.message : OutputError → String
  | .io reason => "I/O error: " ++ reason
  | .csv reason => "CSV write error: " ++ reason

/-- Where rows go.  Each call gives the writer after it and, if the call failed, its error. -/
class RowWriter (ω : Type) where
  writeEvents : List EventRow → ω → Option OutputError × ω
  writeSummary : SummaryRow → ω → Option OutputError × ω
  /-- No more rows will come. -/
  finish : ω → Option OutputError × ω

end TrafficQueue
