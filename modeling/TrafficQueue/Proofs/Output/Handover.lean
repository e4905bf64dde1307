import Mathlib.Data.List.Basic
import Mathlib.Data.List.Induction
import TrafficQueue.Output.Batch

/-!
# What an output hands to its writer

Events and summaries reach an output in any order, the writer behind it may fail at any call, and
errors may be asked for in between.  To see what the writer gets, it is given a tape: on the tape
stands every call it gets, with the error the call failed with.  Every row of an event is then
either on the tape or in the buffer.

Main results:

- Definition `Taped`: a writer that notes its calls.
- Definition `BatchedOutput.after`: an output after calls.
- Theorem `BatchedOutput.exists_step`: what one call puts on the tape and leaves in the buffer.
- Theorem `BatchedOutput.ledger_after`: the rows, the batches and the summaries after any calls.
- Theorem `BatchedOutput.error_after`: the error that is remembered.
- Theorem `BatchedOutput.hands_over`: all of it, for every writer and every size of batches.
-/

namespace TrafficQueue

/-! ## Writers with a tape -/

/-- What a writer can be asked for. -/
inductive WriterCall where
  | events (rows : List EventRow)
  | summary (row : SummaryRow)
  | finish
deriving DecidableEq

namespace WriterCall

/-- The writer is called. -/
def run {ω : Type} [RowWriter ω] : WriterCall → ω → Option OutputError × ω
  | events rows => RowWriter.writeEvents rows
  | summary row => RowWriter.writeSummary row
  | finish => RowWriter.finish

/-- The rows of events in a call. -/
def rows : WriterCall → List EventRow
  | events rows => rows
  | _ => []

/-- The summary in a call. -/
def summary? : WriterCall → Option SummaryRow
  | summary row => some row
  | _ => none

/-- All rows of events in calls, in order. -/
def rowsOf (handed : List WriterCall) : List EventRow := handed.flatMap rows

/-- All summaries in calls, in order. -/
def summariesOf (handed : List WriterCall) : List SummaryRow := handed.filterMap summary?

variable (c : WriterCall) (handed more : List WriterCall)

@[simp]
theorem rowsOf_nil : rowsOf [] = [] := rfl

@[simp]
theorem rowsOf_cons : rowsOf (c :: handed) = c.rows ++ rowsOf handed :=
  List.flatMap_cons

/-- The rows of calls and of more calls. -/
@[simp]
theorem rowsOf_append : rowsOf (handed ++ more) = rowsOf handed ++ rowsOf more :=
  List.flatMap_append

@[simp]
theorem summariesOf_nil : summariesOf [] = [] := rfl

@[simp]
theorem summariesOf_cons :
    summariesOf (c :: handed) = c.summary?.toList ++ summariesOf handed := by
  cases h : c.summary? <;> simp [summariesOf, h]

/-- The summaries of calls and of more calls. -/
@[simp]
theorem summariesOf_append :
    summariesOf (handed ++ more) = summariesOf handed ++ summariesOf more :=
  List.filterMap_append

end WriterCall

/-- A call of a writer and the error it failed with. -/
structure TapeEntry where
  call : WriterCall
  failure : Option OutputError
deriving DecidableEq

namespace TapeEntry

/-- The calls on a tape. -/
def calls (tape : List TapeEntry) : List WriterCall := tape.map call

/-- The error of the first call that failed. -/
def firstFailure (tape : List TapeEntry) : Option OutputError := tape.findSome? failure

variable (tape entries : List TapeEntry)

@[simp]
theorem calls_append : calls (tape ++ entries) = calls tape ++ calls entries :=
  List.map_append

@[simp]
theorem firstFailure_append :
    firstFailure (tape ++ entries) = (firstFailure tape).or (firstFailure entries) :=
  List.findSome?_append

@[simp]
theorem firstFailure_singleton (entry : TapeEntry) : firstFailure [entry] = entry.failure := by
  cases h : entry.failure <;> simp [firstFailure, h]

end TapeEntry

/-- A writer that notes every call it gets. -/
structure Taped (ω : Type) where
  writer : ω
  tape : List TapeEntry := []

section Taped

variable {ω : Type} [RowWriter ω]

/-- Passes a call on and notes how it went. -/
def Taped.note (c : WriterCall) (t : Taped ω) : Option OutputError × Taped ω :=
  let (failure, writer) := c.run t.writer
  (failure, ⟨writer, t.tape ++ [⟨c, failure⟩]⟩)

/-- A writer with a tape is a writer. -/
instance : RowWriter (Taped ω) where
  writeEvents rows := Taped.note (.events rows)
  writeSummary row := Taped.note (.summary row)
  finish := Taped.note .finish

end Taped

/-! ## Calls of an output -/

/-- What an output is asked for, as a handler of events and as an observer. -/
inductive OutputCall where
  | event (e : Event)
  /-- No more events will come. -/
  | finish
  | snapshot (now : Time) (stats : Statistics)
  /-- The run is over. -/
  | ending (now : Time) (stats : Statistics)
  | takeError
deriving DecidableEq

namespace OutputCall

/-- The event that comes in a call. -/
def event? : OutputCall → Option Event
  | event e => some e
  | _ => none

/-- The summary that is to be written. -/
def summary? : OutputCall → Option SummaryRow
  | snapshot now stats => some (.ofStatistics now stats)
  | ending now stats => some (.ofStatistics now stats)
  | _ => none

/-- Whether a call is one after which no row is to be kept. -/
def settles : OutputCall → Bool
  | event _ => false
  | takeError => false
  | _ => true

/-- Kept rows as a batch; no rows are no batch. -/
def batch (kept : List EventRow) : List WriterCall :=
  if kept = [] then [] else [.events kept]

/-- The rows of the batch that is complete with a call when these are kept before it. -/
def gathers (batchRows : Nat) (kept : List EventRow) : OutputCall → List EventRow
  | event e => if batchRows ≤ kept.length + 1 then kept ++ [.ofEvent e] else []
  | takeError => []
  | _ => kept

/-- What the writer gets in a call after the batch. -/
def concludes : OutputCall → List WriterCall
  | snapshot now stats => [.summary (.ofStatistics now stats)]
  | ending now stats => [.summary (.ofStatistics now stats), .finish]
  | _ => []

/-- What the writer gets in a call when these rows are kept. -/
def hands (batchRows : Nat) (kept : List EventRow) (c : OutputCall) : List WriterCall :=
  batch (c.gathers batchRows kept) ++ c.concludes

/-- The rows that are kept after a call when these are kept before it. -/
def keeps (batchRows : Nat) (kept : List EventRow) : OutputCall → List EventRow
  | event e => if batchRows ≤ kept.length + 1 then [] else kept ++ [.ofEvent e]
  | takeError => kept
  | _ => []

/-- What is left of the error that was remembered. -/
def leaves (error : Option OutputError) : OutputCall → Option OutputError
  | takeError => none
  | _ => error

end OutputCall

/-- The events that come in calls. -/
def eventsIn (calls : List OutputCall) : List Event := calls.filterMap OutputCall.event?

/-- The summaries that are asked for in calls. -/
def summariesIn (calls : List OutputCall) : List SummaryRow :=
  calls.filterMap OutputCall.summary?

theorem eventsIn_concat (calls : List OutputCall) (c : OutputCall) :
    eventsIn (calls ++ [c]) = eventsIn calls ++ c.event?.toList := by
  cases hc : c.event? <;> simp [eventsIn, List.filterMap_append, hc]

theorem summariesIn_concat (calls : List OutputCall) (c : OutputCall) :
    summariesIn (calls ++ [c]) = summariesIn calls ++ c.summary?.toList := by
  cases hc : c.summary? <;> simp [summariesIn, List.filterMap_append, hc]

namespace BatchedOutput

variable {ω : Type} [RowWriter ω]

/-- A call of an output, through its handler or its observer. -/
def perform (o : BatchedOutput ω) : OutputCall → BatchedOutput ω
  | .event e => (handler id).onEvent e o
  | .finish => (handler id).onFinish o
  | .snapshot now stats => (observer id).onSnapshot now stats o
  | .ending now stats => (observer id).onEnd now stats o
  | .takeError => o.takeError.2

/-- A new output after calls, one after the other. -/
def after (writer : ω) (batchRows : Nat) (calls : List OutputCall) : BatchedOutput ω :=
  calls.foldl perform (ofWriter writer batchRows)

/-- The same if the writer has a tape. -/
def tapedAfter (writer : ω) (batchRows : Nat) (calls : List OutputCall) :
    BatchedOutput (Taped ω) :=
  after { writer } batchRows calls

/-- What is on the tape of the writer after calls. -/
def tape (writer : ω) (batchRows : Nat) (calls : List OutputCall) : List TapeEntry :=
  (tapedAfter writer batchRows calls).writer.tape

/-- The output without the tape of its writer. -/
def untaped (o : BatchedOutput (Taped ω)) : BatchedOutput ω :=
  ⟨o.writer.writer, o.buffer, o.batchRows, o.error⟩

theorem after_concat (writer : ω) (batchRows : Nat) (calls : List OutputCall) (c : OutputCall) :
    after writer batchRows (calls ++ [c]) = (after writer batchRows calls).perform c :=
  List.foldl_concat ..

theorem tapedAfter_concat (writer : ω) (batchRows : Nat) (calls : List OutputCall)
    (c : OutputCall) :
    tapedAfter writer batchRows (calls ++ [c]) = (tapedAfter writer batchRows calls).perform c :=
  after_concat ..

/-! ## The tape changes nothing -/

/-- A flush is the same with and without a tape. -/
theorem untaped_flush (o : BatchedOutput (Taped ω)) : o.flush.untaped = o.untaped.flush := by
  have hbuffer : o.untaped.buffer = o.buffer := rfl
  unfold flush
  rw [hbuffer]
  split
  · rfl
  · rfl

theorem untaped_summarize (o : BatchedOutput (Taped ω)) (now : Time) (stats : Statistics) :
    (o.summarize now stats).untaped = o.untaped.summarize now stats := by
  rw [summarize, summarize, ← untaped_flush]
  rfl

/-- Every call is the same with and without a tape. -/
theorem untaped_perform (o : BatchedOutput (Taped ω)) (c : OutputCall) :
    (o.perform c).untaped = o.untaped.perform c := by
  cases c with
  | event e =>
      simp only [perform, handler, id, record, apply_ite untaped]
      rw [untaped_flush]
      rfl
  | finish => exact untaped_flush o
  | snapshot now stats => exact untaped_summarize o now stats
  | ending now stats => exact congrArg (call RowWriter.finish) (untaped_summarize o now stats)
  | takeError => rfl

/-- After any calls the output is the same with and without a tape. -/
theorem untaped_tapedAfter (writer : ω) (batchRows : Nat) (calls : List OutputCall) :
    (tapedAfter writer batchRows calls).untaped = after writer batchRows calls := by
  induction calls using List.reverseRecOn with
  | nil => rfl
  | append_singleton calls c ih =>
      rw [tapedAfter_concat, untaped_perform, ih, after_concat]

/-! ## One call -/

/-- Only the writer has been called, and these entries have come onto its tape. -/
structure Passed (o o' : BatchedOutput (Taped ω)) (entries : List TapeEntry) : Prop where
  tape : o'.writer.tape = o.writer.tape ++ entries
  buffer : o'.buffer = o.buffer
  batchRows : o'.batchRows = o.batchRows
  error : o'.error = o.error.or (TapeEntry.firstFailure entries)

omit [RowWriter ω] in
theorem Passed.refl (o : BatchedOutput (Taped ω)) : Passed o o [] :=
  ⟨(List.append_nil _).symm, rfl, rfl, (Option.or_none).symm⟩

omit [RowWriter ω] in
/-- The entries of one call after the other come onto the tape. -/
theorem Passed.trans {o o' o'' : BatchedOutput (Taped ω)} {entries more : List TapeEntry}
    (h : Passed o o' entries) (h' : Passed o' o'' more) : Passed o o'' (entries ++ more) := by
  constructor
  · rw [h'.tape, h.tape, List.append_assoc]
  · rw [h'.buffer, h.buffer]
  · rw [h'.batchRows, h.batchRows]
  · rw [h'.error, h.error, TapeEntry.firstFailure_append, Option.or_assoc]

/-- A single call of the writer. -/
theorem passed_note (o : BatchedOutput (Taped ω)) (c : WriterCall) :
    ∃ failure, Passed o (o.call (Taped.note c)) [⟨c, failure⟩] := by
  refine ⟨(c.run o.writer.writer).1, rfl, rfl, rfl, ?_⟩
  rw [TapeEntry.firstFailure_singleton]
  rfl

/-- The kept rows come onto the tape together. -/
theorem passed_flush (o : BatchedOutput (Taped ω)) :
    ∃ entries, Passed { o with buffer := #[] } o.flush entries ∧
      TapeEntry.calls entries = OutputCall.batch o.buffer.toList := by
  unfold flush
  by_cases hempty : o.buffer = #[]
  · refine ⟨[], ?_, ?_⟩
    · rw [if_pos (by simp [hempty]), ← hempty]
      exact .refl o
    · simp [OutputCall.batch, TapeEntry.calls, hempty]
  · rw [if_neg (by simp [hempty])]
    rcases passed_note { o with buffer := #[] } (.events o.buffer.toList) with ⟨failure, h⟩
    refine ⟨_, h, ?_⟩
    simp [OutputCall.batch, TapeEntry.calls, hempty]

/-- A summary comes onto the tape after the kept rows. -/
theorem passed_summarize (o : BatchedOutput (Taped ω)) (now : Time) (stats : Statistics) :
    ∃ entries, Passed { o with buffer := #[] } (o.summarize now stats) entries ∧
      TapeEntry.calls entries =
        OutputCall.batch o.buffer.toList ++ [.summary (.ofStatistics now stats)] := by
  rcases passed_flush o with ⟨entries, hpassed, hcalls⟩
  rcases passed_note o.flush (.summary (.ofStatistics now stats)) with ⟨failure, hsummary⟩
  refine ⟨_, hpassed.trans hsummary, ?_⟩
  rw [TapeEntry.calls_append, hcalls]
  rfl

/-- What a call puts on the tape, what it leaves in the buffer and which error it remembers. -/
structure Step (c : OutputCall) (o o' : BatchedOutput (Taped ω)) (entries : List TapeEntry) :
    Prop where
  tape : o'.writer.tape = o.writer.tape ++ entries
  calls : TapeEntry.calls entries = c.hands o.batchRows o.buffer.toList
  buffer : o'.buffer.toList = c.keeps o.batchRows o.buffer.toList
  batchRows : o'.batchRows = o.batchRows
  error : o'.error = (c.leaves o.error).or (TapeEntry.firstFailure entries)

omit [RowWriter ω] in
/-- Calls of the writer after the buffer has been emptied. -/
theorem Passed.step {c : OutputCall} {o o' : BatchedOutput (Taped ω)} {entries : List TapeEntry}
    (h : Passed { o with buffer := #[] } o' entries)
    (hcalls : TapeEntry.calls entries = c.hands o.batchRows o.buffer.toList)
    (hkeeps : c.keeps o.batchRows o.buffer.toList = []) (hleaves : c.leaves o.error = o.error) :
    Step c o o' entries := by
  refine ⟨h.tape, hcalls, ?_, h.batchRows, ?_⟩
  · rw [h.buffer, hkeeps]
  · rw [h.error, hleaves]

/-- What an event puts on the tape and leaves in the buffer. -/
theorem exists_step_event (e : Event) (o : BatchedOutput (Taped ω)) :
    ∃ entries, Step (.event e) o (o.perform (.event e)) entries := by
  -- the row is in the buffer already when its size is looked at
  have hsize : (o.buffer.push (.ofEvent e)).size = o.buffer.toList.length + 1 := by simp
  simp only [perform, handler, id, record, hsize]
  split
  · rename_i hfull
    rcases passed_flush { o with buffer := o.buffer.push (.ofEvent e) } with
      ⟨entries, hpassed, hcalls⟩
    refine ⟨entries, hpassed.step (o := o) ?_ ?_ rfl⟩
    · rw [hcalls, OutputCall.hands, OutputCall.gathers, if_pos hfull, Array.toList_push]
      exact (List.append_nil _).symm
    · rw [OutputCall.keeps, if_pos hfull]
  · rename_i hroom
    refine ⟨[], (List.append_nil _).symm, ?_, ?_, rfl, (Option.or_none).symm⟩
    · rw [OutputCall.hands, OutputCall.gathers, if_neg hroom]
      rfl
    · rw [OutputCall.keeps, if_neg hroom]
      exact Array.toList_push

/-- Every call puts on the tape what it hands over, and leaves in the buffer what it keeps. -/
theorem exists_step (c : OutputCall) (o : BatchedOutput (Taped ω)) :
    ∃ entries, Step c o (o.perform c) entries := by
  cases c with
  | event e => exact exists_step_event e o
  | finish =>
      rcases passed_flush o with ⟨entries, hpassed, hcalls⟩
      exact ⟨entries, hpassed.step (hcalls.trans (List.append_nil _).symm) rfl rfl⟩
  | snapshot now stats =>
      rcases passed_summarize o now stats with ⟨entries, hpassed, hcalls⟩
      exact ⟨entries, hpassed.step hcalls rfl rfl⟩
  | ending now stats =>
      rcases passed_summarize o now stats with ⟨entries, hpassed, hcalls⟩
      rcases passed_note (o.summarize now stats) .finish with ⟨failure, hfinish⟩
      refine ⟨_, (hpassed.trans hfinish).step ?_ rfl rfl⟩
      rw [TapeEntry.calls_append, hcalls, List.append_assoc]
      rfl
  | takeError => exact ⟨[], (List.append_nil _).symm, rfl, rfl, rfl, rfl⟩

end BatchedOutput

/-! ## Rows, batches and summaries -/

/-- A member of two lists in a row is a member of the one or the other. -/
theorem split_append {α : Type} {ws xs ys zs : List α} {z : α} (h : ws ++ xs = ys ++ z :: zs) :
    (∃ as, ys = ws ++ as ∧ xs = as ++ z :: zs) ∨ ∃ bs, ws = ys ++ z :: bs ∧ zs = bs ++ xs := by
  rcases List.append_eq_append_iff.1 h with hright | ⟨more, hws, hxs⟩
  · exact .inl hright
  · cases more with
    | nil => exact .inl ⟨[], by simpa using hws.symm, hxs.symm⟩
    | cons first more =>
        cases hxs
        exact .inr ⟨more, hws, rfl⟩

namespace OutputCall

variable {batchRows : Nat} {kept : List EventRow}

/-- The rows of a batch are the kept rows. -/
@[simp]
theorem rowsOf_batch (kept : List EventRow) : WriterCall.rowsOf (batch kept) = kept := by
  by_cases h : kept = [] <;> simp [batch, WriterCall.rows, h]

/-- A batch brings no summary. -/
@[simp]
theorem summariesOf_batch (kept : List EventRow) : WriterCall.summariesOf (batch kept) = [] := by
  by_cases h : kept = [] <;> simp [batch, WriterCall.summary?, h]

/-- A batch consists of all rows that were kept, and there are some. -/
theorem events_mem_batch {rows : List EventRow} (h : .events rows ∈ batch kept) :
    rows = kept ∧ kept ≠ [] := by
  by_cases hkept : kept = []
  · simp [batch, hkept] at h
  · simpa [batch, hkept] using h

/-- No row gets lost in a call, and the row of its event comes last. -/
theorem gathers_append_keeps (batchRows : Nat) (kept : List EventRow) (c : OutputCall) :
    c.gathers batchRows kept ++ c.keeps batchRows kept =
      kept ++ c.event?.toList.map .ofEvent := by
  cases c with
  | event e =>
      rw [gathers, keeps]
      split
      · exact List.append_nil _
      · rfl
  | takeError => exact (List.append_nil kept).symm
  | _ => rfl

/-- After the batch there are no rows. -/
@[simp]
theorem rowsOf_concludes (c : OutputCall) : WriterCall.rowsOf c.concludes = [] := by
  cases c <;> rfl

/-- After the batch comes the summary of the call. -/
@[simp]
theorem summariesOf_concludes (c : OutputCall) :
    WriterCall.summariesOf c.concludes = c.summary?.toList := by
  cases c <;> rfl

/-- What is kept is shorter than a batch. -/
theorem length_keeps_lt (c : OutputCall) (hkept : kept.length < batchRows) :
    (c.keeps batchRows kept).length < batchRows := by
  have hpos : 0 < batchRows := Nat.zero_lt_of_lt hkept
  cases c with
  | event e =>
      rw [keeps]
      split
      · exact hpos
      · rw [List.length_append, List.length_singleton]
        omega
  | takeError => exact hkept
  | _ => exact hpos

/-- What is gathered is at most a batch. -/
theorem length_gathers_le (c : OutputCall) (hkept : kept.length < batchRows) :
    (c.gathers batchRows kept).length ≤ batchRows := by
  have hsum := congrArg List.length (gathers_append_keeps batchRows kept c)
  have hevent : c.event?.toList.length ≤ 1 := by cases c.event? <;> simp
  rw [List.length_append, List.length_append, List.length_map] at hsum
  omega

/-- A batch is not empty and not too large. -/
theorem length_of_mem_hands {c : OutputCall} {rows : List EventRow}
    (hkept : kept.length < batchRows) (h : .events rows ∈ c.hands batchRows kept) :
    1 ≤ rows.length ∧ rows.length ≤ batchRows := by
  rcases List.mem_append.1 h with hbatch | hlast
  · rcases events_mem_batch hbatch with ⟨rfl, hne⟩
    exact ⟨List.length_pos_iff.2 hne, length_gathers_le c hkept⟩
  · cases c <;> simp [concludes] at hlast

/-- A summary comes after all rows that were kept. -/
theorem gathers_of_summary {c : OutputCall} {row : SummaryRow} (hc : c.summary? = some row) :
    c.gathers batchRows kept = kept := by
  cases c with
  | snapshot now stats => rfl
  | ending now stats => rfl
  | _ => cases hc

theorem summary_notMem_batch (row : SummaryRow) (kept : List EventRow) :
    .summary row ∉ batch kept := by
  by_cases h : kept = [] <;> simp [batch, h]

/-- After the batch a summary comes first. -/
theorem concludes_eq_append {c : OutputCall} {front back : List WriterCall} {row : SummaryRow}
    (h : c.concludes = front ++ .summary row :: back) : front = [] ∧ c.summary? = some row := by
  cases front with
  | nil =>
      refine ⟨rfl, ?_⟩
      cases c with
      | snapshot now stats =>
          cases h
          rfl
      | ending now stats =>
          cases h
          rfl
      | _ => cases h
  | cons first front =>
      have hmem : .summary row ∈ c.concludes.tail := by
        rw [h]
        exact List.mem_append_right front List.mem_cons_self
      cases c <;> simp [concludes] at hmem

/-- A summary comes right after the batch of all rows that were kept. -/
theorem hands_eq_append {c : OutputCall} {front back : List WriterCall} {row : SummaryRow}
    (h : c.hands batchRows kept = front ++ .summary row :: back) :
    front = batch kept ∧ c.summary? = some row := by
  rcases split_append h with ⟨more, hfront, hlast⟩ | ⟨more, hbatch, -⟩
  · rcases concludes_eq_append hlast with ⟨rfl, hc⟩
    rw [gathers_of_summary hc, List.append_nil] at hfront
    exact ⟨hfront, hc⟩
  · have hmem : .summary row ∈ batch (c.gathers batchRows kept) := by
      rw [hbatch]
      exact List.mem_append_right front List.mem_cons_self
    exact (summary_notMem_batch _ _ hmem).elim

/-- Nothing is kept after a call that settles. -/
theorem keeps_of_settles {c : OutputCall} (hc : c.settles = true) :
    c.keeps batchRows kept = [] := by
  cases c with
  | event e => cases hc
  | takeError => cases hc
  | _ => rfl

end OutputCall

/-- What has been handed over and what is kept after calls. -/
structure Ledger (batchRows : Nat) (calls : List OutputCall) (handed : List WriterCall)
    (kept : List EventRow) : Prop where
  rows : WriterCall.rowsOf handed ++ kept = (eventsIn calls).map .ofEvent
  short : kept.length < batchRows
  batches : ∀ rows, .events rows ∈ handed → 1 ≤ rows.length ∧ rows.length ≤ batchRows
  settled : ∀ c, calls.getLast? = some c → c.settles = true → kept = []
  summaries : WriterCall.summariesOf handed = summariesIn calls
  /-- Where a summary stands, nothing was kept. -/
  placed : ∀ front row back, handed = front ++ .summary row :: back →
    ∃ before c since, calls = before ++ c :: since ∧ c.summary? = some row ∧
      WriterCall.rowsOf front = (eventsIn before).map .ofEvent ∧
      WriterCall.summariesOf front = summariesIn before

namespace Ledger

variable {batchRows : Nat} {calls : List OutputCall} {handed : List WriterCall}
  {kept : List EventRow}

/-- At the start nothing has been handed over and nothing is kept. -/
theorem nil (hpos : 0 < batchRows) : Ledger batchRows [] [] [] := by
  refine ⟨rfl, hpos, ?_, ?_, rfl, ?_⟩
  · intro rows hmem
    cases hmem
  · intro c h
    cases h
  · intro front row back h
    simp at h

/-- Where the summaries stand after one more call. -/
theorem placed_concat (h : Ledger batchRows calls handed kept) (c : OutputCall)
    {front back : List WriterCall} {row : SummaryRow}
    (hfront : handed ++ c.hands batchRows kept = front ++ .summary row :: back) :
    ∃ before c' since, calls ++ [c] = before ++ c' :: since ∧ c'.summary? = some row ∧
      WriterCall.rowsOf front = (eventsIn before).map .ofEvent ∧
      WriterCall.summariesOf front = summariesIn before := by
  -- the summary is one of this call or stands on the tape already
  rcases split_append hfront with ⟨more, rfl, hmore⟩ | ⟨more, hhanded, -⟩
  · rcases OutputCall.hands_eq_append hmore with ⟨rfl, hc⟩
    refine ⟨calls, c, [], rfl, hc, ?_, ?_⟩
    · rw [WriterCall.rowsOf_append, OutputCall.rowsOf_batch, h.rows]
    · rw [WriterCall.summariesOf_append, OutputCall.summariesOf_batch, h.summaries,
        List.append_nil]
  · rcases h.placed front row more hhanded with ⟨before, c', since, rfl, hrest⟩
    exact ⟨before, c', since ++ [c], by simp, hrest⟩

/-- A call keeps the ledger. -/
theorem call (h : Ledger batchRows calls handed kept) (c : OutputCall) :
    Ledger batchRows (calls ++ [c]) (handed ++ c.hands batchRows kept)
      (c.keeps batchRows kept) := by
  refine ⟨?_, OutputCall.length_keeps_lt c h.short, ?_, ?_, ?_, ?_⟩
  · rw [eventsIn_concat, List.map_append, ← h.rows, WriterCall.rowsOf_append, OutputCall.hands,
      WriterCall.rowsOf_append, OutputCall.rowsOf_batch, OutputCall.rowsOf_concludes,
      List.append_nil, List.append_assoc, OutputCall.gathers_append_keeps, List.append_assoc]
  · intro rows hmem
    rcases List.mem_append.1 hmem with hbefore | hnew
    · exact h.batches rows hbefore
    · exact OutputCall.length_of_mem_hands h.short hnew
  · intro c' hlast hsettles
    rw [List.getLast?_concat, Option.some_inj] at hlast
    rw [← hlast] at hsettles
    exact OutputCall.keeps_of_settles hsettles
  · rw [summariesIn_concat, ← h.summaries, WriterCall.summariesOf_append, OutputCall.hands,
      WriterCall.summariesOf_append, OutputCall.summariesOf_batch,
      OutputCall.summariesOf_concludes, List.nil_append]
  · intro front row back
    exact h.placed_concat c

end Ledger

namespace BatchedOutput

section Run

variable {ω : Type} [RowWriter ω] (writer : ω) (batchRows : Nat) (calls : List OutputCall)

/-- The calls that the writer of an output has got after calls of the output. -/
def handed : List WriterCall := TapeEntry.calls (tape writer batchRows calls)

/-- The size of the batches is at least one and stays as it was set. -/
theorem batchRows_tapedAfter :
    (tapedAfter writer batchRows calls).batchRows = max batchRows 1 := by
  induction calls using List.reverseRecOn with
  | nil => rfl
  | append_singleton calls c ih =>
      rcases exists_step c (tapedAfter writer batchRows calls) with ⟨entries, hstep⟩
      rw [tapedAfter_concat, hstep.batchRows, ih]

/-- What one more call hands over and keeps. -/
theorem handed_concat (c : OutputCall) :
    handed writer batchRows (calls ++ [c]) = handed writer batchRows calls ++
        c.hands (max batchRows 1) (tapedAfter writer batchRows calls).buffer.toList ∧
      (tapedAfter writer batchRows (calls ++ [c])).buffer.toList =
        c.keeps (max batchRows 1) (tapedAfter writer batchRows calls).buffer.toList := by
  rcases exists_step c (tapedAfter writer batchRows calls) with ⟨entries, hstep⟩
  have hcalls := hstep.calls
  have hbuffer := hstep.buffer
  rw [batchRows_tapedAfter] at hcalls hbuffer
  rw [handed, tape, tapedAfter_concat, hstep.tape, TapeEntry.calls_append, hcalls]
  exact ⟨rfl, hbuffer⟩

/-- After any calls the ledger holds of what has been handed over and what is kept. -/
theorem ledger_after :
    Ledger (max batchRows 1) calls (handed writer batchRows calls)
      (tapedAfter writer batchRows calls).buffer.toList := by
  induction calls using List.reverseRecOn with
  | nil => exact .nil (Nat.lt_of_lt_of_le Nat.zero_lt_one (Nat.le_max_right batchRows 1))
  | append_singleton calls c ih =>
      rcases handed_concat writer batchRows calls c with ⟨hhanded, hbuffer⟩
      rw [hhanded, hbuffer]
      exact ih.call c

/-- Another writer gets the same calls, whatever the two of them answer. -/
theorem handed_eq {ω' : Type} [RowWriter ω'] (writer' : ω') :
    handed writer batchRows calls = handed writer' batchRows calls ∧
      (tapedAfter writer batchRows calls).buffer.toList =
        (tapedAfter writer' batchRows calls).buffer.toList := by
  induction calls using List.reverseRecOn with
  | nil => exact ⟨rfl, rfl⟩
  | append_singleton calls c ih =>
      rcases handed_concat writer batchRows calls c with ⟨hhanded, hbuffer⟩
      rcases handed_concat writer' batchRows calls c with ⟨hhanded', hbuffer'⟩
      rw [hhanded, hbuffer, hhanded', hbuffer', ih.1, ih.2]
      exact ⟨rfl, rfl⟩

/-! ## The first error -/

/-- The error that is remembered after calls among which errors are not asked for. -/
theorem error_foldl_perform (o : BatchedOutput (Taped ω)) {calls : List OutputCall}
    (hcalls : .takeError ∉ calls) :
    ∃ entries, (calls.foldl perform o).writer.tape = o.writer.tape ++ entries ∧
      (calls.foldl perform o).error = o.error.or (TapeEntry.firstFailure entries) := by
  induction calls generalizing o with
  | nil => exact ⟨[], (List.append_nil _).symm, (Option.or_none).symm⟩
  | cons c calls ih =>
      rw [List.mem_cons, not_or] at hcalls
      rcases exists_step c o with ⟨entries, hstep⟩
      rcases ih (o.perform c) hcalls.2 with ⟨more, htape, herror⟩
      have hleaves : c.leaves o.error = o.error := by
        cases c with
        | takeError => exact (hcalls.1 rfl).elim
        | _ => rfl
      refine ⟨entries ++ more, ?_, ?_⟩
      · rw [List.foldl_cons, htape, hstep.tape, List.append_assoc]
      · rw [List.foldl_cons, herror, hstep.error, hleaves, TapeEntry.firstFailure_append,
          Option.or_assoc]

/-- At the start, and when errors have just been asked for, none is remembered. -/
theorem error_eq_none {before : List OutputCall}
    (hbefore : before = [] ∨ before.getLast? = some .takeError) :
    (tapedAfter writer batchRows before).error = none := by
  rcases hbefore with rfl | hlast
  · rfl
  · rcases List.getLast?_eq_some_iff.1 hlast with ⟨earlier, rfl⟩
    rw [tapedAfter_concat]
    rfl

/-- The error that is remembered is the first one since errors were asked for last. -/
theorem error_after {before since : List OutputCall}
    (hbefore : before = [] ∨ before.getLast? = some .takeError) (hsince : .takeError ∉ since) :
    ∃ entries,
      tape writer batchRows (before ++ since) = tape writer batchRows before ++ entries ∧
      (after writer batchRows (before ++ since)).takeError.1 =
        TapeEntry.firstFailure entries := by
  have hrun : tapedAfter writer batchRows (before ++ since) =
      since.foldl perform (tapedAfter writer batchRows before) := List.foldl_append
  rcases error_foldl_perform (tapedAfter writer batchRows before) hsince with
    ⟨entries, htape, herror⟩
  refine ⟨entries, ?_, ?_⟩
  · rw [tape, hrun, htape]
    rfl
  · rw [← untaped_tapedAfter, hrun]
    change (since.foldl perform (tapedAfter writer batchRows before)).error = _
    rw [herror, error_eq_none writer batchRows hbefore, Option.none_or]

/-! ## All together -/

/-- What an output has handed to its writer after calls. -/
structure HandsOver (writer : ω) (batchRows : Nat) (calls : List OutputCall) : Prop where
  /-- The tape changes neither the output nor its writer. -/
  untaped : (tapedAfter writer batchRows calls).untaped = after writer batchRows calls
  /-- The rows on the tape, followed by the kept ones, are those of the events, in order. -/
  rows : WriterCall.rowsOf (handed writer batchRows calls) ++
    (after writer batchRows calls).buffer.toList = (eventsIn calls).map .ofEvent
  batches : ∀ rows, .events rows ∈ handed writer batchRows calls →
    1 ≤ rows.length ∧ rows.length ≤ max 1 batchRows
  /-- Every summary that was asked for is written, in order. -/
  summaries : WriterCall.summariesOf (handed writer batchRows calls) = summariesIn calls
  /-- When a summary is written, the writer has the rows of all events before it. -/
  placed : ∀ front row back,
    handed writer batchRows calls = front ++ .summary row :: back →
    ∃ before c since, calls = before ++ c :: since ∧ c.summary? = some row ∧
      WriterCall.rowsOf front = (eventsIn before).map .ofEvent ∧
      WriterCall.summariesOf front = summariesIn before
  /-- Nothing is kept after a summary or the end of the events. -/
  settled : ∀ c, calls.getLast? = some c → c.settles = true →
    (after writer batchRows calls).buffer = #[]
  /-- At such a point the rows that were handed over are the same for batches of any size. -/
  independent : ∀ c, calls.getLast? = some c → c.settles = true → ∀ batchRows',
    WriterCall.rowsOf (handed writer batchRows' calls) =
      WriterCall.rowsOf (handed writer batchRows calls)
  /-- Who asks for errors gets the first one since they were asked for last. -/
  firstError : ∀ before since, calls = before ++ since →
    (before = [] ∨ before.getLast? = some .takeError) → .takeError ∉ since →
    ∃ entries, tape writer batchRows calls = tape writer batchRows before ++ entries ∧
      (after writer batchRows calls).takeError.1 = TapeEntry.firstFailure entries
  /-- The writer gets the same calls as any other one, so no failure keeps anything from it. -/
  undeterred : ∀ (ω' : Type) [RowWriter ω'] (writer' : ω'),
    handed writer batchRows calls = handed writer' batchRows calls

/-- The buffer is the same with and without a tape. -/
theorem buffer_after :
    (after writer batchRows calls).buffer = (tapedAfter writer batchRows calls).buffer :=
  congrArg BatchedOutput.buffer (untaped_tapedAfter writer batchRows calls).symm

/-- Whatever the writer answers and however large its batches are, no row of an event is lost,
doubled or out of order, none is written after a later summary, and the first error is
remembered. -/
theorem hands_over (writer : ω) (batchRows : Nat) (calls : List OutputCall) :
    HandsOver writer batchRows calls := by
  have hledger := ledger_after writer batchRows calls
  rw [← buffer_after] at hledger
  refine ⟨untaped_tapedAfter writer batchRows calls, hledger.rows, ?_, hledger.summaries,
    hledger.placed, ?_, ?_, ?_, ?_⟩
  · rw [Nat.max_comm]
    exact hledger.batches
  · intro c hlast hsettles
    exact Array.toList_eq_nil_iff.1 (hledger.settled c hlast hsettles)
  · intro c hlast hsettles batchRows'
    have hledger' := ledger_after writer batchRows' calls
    have hrows := hledger.rows
    have hrows' := hledger'.rows
    rw [hledger.settled c hlast hsettles, List.append_nil] at hrows
    rw [hledger'.settled c hlast hsettles, List.append_nil] at hrows'
    rw [hrows', hrows]
  · rintro before since rfl hbefore hsince
    exact error_after writer batchRows hbefore hsince
  · intro ω' _ writer'
    exact (handed_eq writer batchRows calls writer').1

/-- A summary does not wait for a full batch, and a row does not wait for the next summary. -/
example (e f g : Event) (now : Time) (stats : Statistics) :
    handed writer 2 [.event e, .event f, .event g, .snapshot now stats] =
      [.events [.ofEvent e, .ofEvent f], .events [.ofEvent g],
        .summary (.ofStatistics now stats)] :=
  rfl

end Run

end BatchedOutput

end TrafficQueue
