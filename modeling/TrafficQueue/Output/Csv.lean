import TrafficQueue.Output.BufferedFile
import TrafficQueue.Output.Row

/-!
# Comma-separated values

A record is a line of fields between commas.  A field is put in quotation marks if it holds a comma,
a quotation mark or the end of a line; a quotation mark inside is written twice.

Main definitions: `Csv.fieldUnits`, `BufferedFile.writeRecord` and the writer `CsvFiles`.
-/

namespace TrafficQueue

namespace Csv

/-- The byte between two fields. -/
def comma : UInt8 := 0x2C
/-- The byte around a field that needs it. -/
def quotationMark : UInt8 := 0x22
/-- The byte that ends a row. -/
def lineFeed : UInt8 := 0x0A
/-- A byte that makes a field need quotation marks, besides the others. -/
def carriageReturn : UInt8 := 0x0D

/-- A byte that is not written without quotation marks around the field. -/
def isSpecial (b : UInt8) : Bool :=
  b = comma || b = quotationMark || b = lineFeed || b = carriageReturn

/-- How a byte is written between quotation marks. -/
def quotedByte (b : UInt8) : List UInt8 :=
  if b = quotationMark then [quotationMark, quotationMark] else [b]

/-- The written form of a field, in pieces that stay together. -/
def fieldUnits (bytes : List UInt8) : List (List UInt8) :=
  if bytes.any isSpecial then
    [quotationMark] :: bytes.map quotedByte ++ [[quotationMark]]
  else bytes.map fun b => [b]

/-- The written form of a record. -/
def recordUnits : List (List UInt8) → List (List UInt8)
  | [] => [[lineFeed]]
  | [last] => fieldUnits last ++ [[lineFeed]]
  | bytes :: more => fieldUnits bytes ++ [comma] :: recordUnits more

end Csv

/-- Writes a record to a file. -/
def BufferedFile.writeRecord (f : BufferedFile) (fields : List String) : BufferedFile :=
  (Csv.recordUnits (fields.map fun s => s.toUTF8.toList)).foldl append f

/-- One file for the events and one for the summaries, each with a header. -/
structure CsvFiles where
  events : BufferedFile
  summaries : BufferedFile
  isFinished : Bool := false

namespace CsvFiles

/-- The columns of the events. -/
def eventHeader : List String := ["time", "agent", "link", "kind", "detail"]

/-- The columns of the summaries. -/
def summaryHeader : List String :=
  ["time", "steps", "living", "completed", "lost", "in_traffic", "events", "replans"]

/-- The fields of an event, in the order of the columns. -/
def eventFields (r : EventRow) : List String :=
  [toString r.time, toString r.agent, toString r.link, r.kind, r.detail]

/-- The fields of a summary, in the order of the columns. -/
def summaryFields (r : SummaryRow) : List String :=
  [r.time, r.steps, r.living, r.completed, r.lost, r.inTraffic, r.events, r.replans].map toString

/-- New files in a directory, which has to be there. -/
def create (directoryExists : Bool) : Except OutputError CsvFiles :=
  if directoryExists then
    .ok { events := BufferedFile.writeRecord {} eventHeader
          summaries := BufferedFile.writeRecord {} summaryHeader }
  else .error (.csv "No such file or directory (os error 2)")

/-- Writes the row of an event. -/
def writeEvent : CsvFiles → EventRow → CsvFiles
  | ⟨events, summaries, isFinished⟩, row =>
    ⟨events.writeRecord (eventFields row), summaries, isFinished⟩

/-- Writes the row of a summary. -/
def writeSummary : CsvFiles → SummaryRow → CsvFiles
  | ⟨events, summaries, isFinished⟩, row =>
    ⟨events, summaries.writeRecord (summaryFields row), isFinished⟩

/-- Everything reaches the disk. -/
def close (f : CsvFiles) : CsvFiles :=
  { f with events := f.events.sync, summaries := f.summaries.sync }

/-- Only the first end of the rows brings them to the disk. -/
def finish (f : CsvFiles) : CsvFiles :=
  if f.isFinished then f else { f.close with isFinished := true }

/-- The files take the rows of a batch one after the other. -/
instance : RowWriter CsvFiles where
  writeEvents rows f := (none, rows.foldl writeEvent f)
  writeSummary row f := (none, f.writeSummary row)
  finish f := (none, f.finish)

end CsvFiles

end TrafficQueue
