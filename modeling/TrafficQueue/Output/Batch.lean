import TrafficQueue.Output.Row
import TrafficQueue.Room
import TrafficQueue.Simulation.Run

/-!
# Output in batches

Event rows are kept until there are enough of them, or a summary is written, or the run is over;
then they go to the writer together.  Failures do not stop the output; the first one is
remembered.

Main results: `BatchedOutput.buffer_flush`, nothing stays behind, and
`BatchedOutput.size_buffer_record_lt`, less than a full batch is kept.
-/

namespace TrafficQueue

/-- Rows that are on their way to a writer. -/
structure BatchedOutput (ω : Type) where
  writer : ω
  /-- Rows that have not been written, fewer than a batch. -/
  buffer : Array EventRow := #[]
  /-- Rows in a full batch. -/
  batchRows : Nat
  /-- The first error since errors were asked for last. -/
  error : Option OutputError := none

namespace BatchedOutput

variable {ω : Type}

/-- Rows in a batch unless said otherwise. -/
def defaultBatchRows : Nat := 4096

/-- Output with nothing kept; a batch has at least one row. -/
def ofWriter (writer : ω) (batchRows : Nat := defaultBatchRows) : BatchedOutput ω :=
  { writer, batchRows := max batchRows 1 }

/-- Bytes of a kept row, the text of its detail apart. -/
def rowSize : Nat := 56

/-- As `ofWriter`, with room set aside for a batch; there is no output if no block of memory holds
one. -/
def ofWriter? (writer : ω) (batchRows : Nat) : Option (BatchedOutput ω) :=
  if Room.fits batchRows rowSize then some (ofWriter writer batchRows) else none

/-- The first error, which is forgotten then. -/
def takeError (o : BatchedOutput ω) : Option OutputError × BatchedOutput ω :=
  (o.error, { o with error := none })

/-- A call to the writer; its error counts if it is the first one. -/
def call (f : ω → Option OutputError × ω) : BatchedOutput ω → BatchedOutput ω
  | ⟨writer, buffer, batchRows, error⟩ =>
    let (failure, writer) := f writer
    ⟨writer, buffer, batchRows, error.or failure⟩

variable [RowWriter ω]

/-- Hands the kept rows to the writer. -/
def flush (o : BatchedOutput ω) : BatchedOutput ω :=
  if o.buffer.isEmpty then o
  else { o with buffer := #[] }.call (RowWriter.writeEvents o.buffer.toList)

/-- Keeps the row of an event, and hands over a full batch. -/
def record (e : Event) : BatchedOutput ω → BatchedOutput ω
  | ⟨writer, buffer, batchRows, error⟩ =>
    let o : BatchedOutput ω := ⟨writer, buffer.push (.ofEvent e), batchRows, error⟩
    if batchRows ≤ o.buffer.size then o.flush else o

/-- Writes a summary after all events before it. -/
def summarize (now : Time) (stats : Statistics) (o : BatchedOutput ω) : BatchedOutput ω :=
  o.flush.call (RowWriter.writeSummary (.ofStatistics now stats))

/-- Writes the last summary and tells the writer that no more rows will come. -/
def close (now : Time) (stats : Statistics) (o : BatchedOutput ω) : BatchedOutput ω :=
  (o.summarize now stats).call RowWriter.finish

/-- The handler that records events into an output somewhere in the state of the listeners. -/
def handler {σ : Type} (modify : (BatchedOutput ω → BatchedOutput ω) → σ → σ) : Handler σ where
  onEvent e := modify (record e)
  onFinish := modify flush

/-- The observer that writes summaries to an output somewhere in the state of the listeners. -/
def observer {σ : Type} (modify : (BatchedOutput ω → BatchedOutput ω) → σ → σ) : Observer σ where
  onSnapshot now stats := modify (summarize now stats)
  onEnd now stats := modify (close now stats)

omit [RowWriter ω] in
@[simp] theorem buffer_call (f : ω → Option OutputError × ω) (o : BatchedOutput ω) :
    (o.call f).buffer = o.buffer := rfl

omit [RowWriter ω] in
@[simp] theorem batchRows_call (f : ω → Option OutputError × ω) (o : BatchedOutput ω) :
    (o.call f).batchRows = o.batchRows := rfl

/-- A flush leaves nothing behind. -/
@[simp] theorem buffer_flush (o : BatchedOutput ω) : o.flush.buffer = #[] := by
  unfold flush
  split
  · rename_i h
    exact Array.isEmpty_iff.1 h
  · rfl

@[simp] theorem batchRows_flush (o : BatchedOutput ω) : o.flush.batchRows = o.batchRows := by
  unfold flush
  split <;> rfl

/-- Less than a full batch is kept. -/
theorem size_buffer_record_lt (e : Event) {o : BatchedOutput ω} (h : 0 < o.batchRows) :
    (o.record e).buffer.size < o.batchRows := by
  obtain ⟨writer, buffer, batchRows, error⟩ := o
  simp only [record]
  split
  · simpa using h
  · rename_i hlt
    exact Nat.lt_of_not_le hlt

end BatchedOutput

end TrafficQueue
