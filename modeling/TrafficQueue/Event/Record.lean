import TrafficQueue.Event.Bus

/-!
# Recording events

Two things to do with an event stream: keep all of it, and count the events of each kind.

Main results: `EventLog.record_ofAgent` and `EventTally.total_record`.
-/

namespace TrafficQueue

/-- All events seen, in order. -/
structure EventLog where
  events : Array Event := #[]

namespace EventLog

/-- At first nothing has been seen. -/
instance : Inhabited EventLog := ⟨{}⟩

/-- Adds an event at the end. -/
def record (l : EventLog) (e : Event) : EventLog := ⟨l.events.push e⟩

/-- The events of one agent, in order. -/
def ofAgent (l : EventLog) (a : AgentId) : List Event :=
  l.events.toList.filter fun e => e.agent = a

/-- How many events have been seen. -/
def size (l : EventLog) : Nat := l.events.size

/-- An event belongs to the log of its own agent. -/
theorem record_ofAgent (l : EventLog) (e : Event) (a : AgentId) :
    (l.record e).ofAgent a = l.ofAgent a ++ if e.agent = a then [e] else [] := by
  by_cases h : e.agent = a <;> simp [record, ofAgent, h]

/-- The handler that records into a log somewhere in the state of the listeners. -/
def handler {σ : Type} (modify : (EventLog → EventLog) → σ → σ) : Handler σ where
  onEvent e := modify fun l => l.record e

end EventLog

/-- How often each kind of event was seen, in the order of the names. -/
structure EventTally where
  counts : List (String × Nat) := []
deriving DecidableEq

namespace EventTally

/-- At first nothing has been counted. -/
instance : Inhabited EventTally := ⟨{}⟩

/-- Adds one to the count of a name, at its place in the order of names. -/
def increment (name : String) : List (String × Nat) → List (String × Nat)
  | [] => [(name, 1)]
  | c :: cs =>
    if name = c.1 then (c.1, c.2 + 1) :: cs
    else if name < c.1 then (name, 1) :: c :: cs
    else c :: increment name cs

/-- Counts an event. -/
def record (t : EventTally) (e : Event) : EventTally := ⟨increment e.kind.name t.counts⟩

/-- How often events of a kind were seen. -/
def count (t : EventTally) (name : String) : Nat := (t.counts.lookup name).getD 0

/-- All counts of a list together. -/
def sum (counts : List (String × Nat)) : Nat := counts.foldr (fun c total => c.2 + total) 0

/-- How many events have been seen, of whatever kind. -/
def total (t : EventTally) : Nat := sum t.counts

/-- The handler that counts into a tally somewhere in the state of the listeners. -/
def handler {σ : Type} (modify : (EventTally → EventTally) → σ → σ) : Handler σ where
  onEvent e := modify fun t => t.record e

/-- Whichever name is counted, the sum grows by one. -/
theorem sum_increment (name : String) (counts : List (String × Nat)) :
    sum (increment name counts) = sum counts + 1 := by
  induction counts with
  | nil => rfl
  | cons c cs ih =>
    unfold increment
    split
    · simp only [sum, List.foldr_cons]
      omega
    · split
      · simp only [sum, List.foldr_cons]
        omega
      · simp only [sum, List.foldr_cons] at ih ⊢
        omega

/-- Every event counts once. -/
@[simp] theorem total_record (t : EventTally) (e : Event) : (t.record e).total = t.total + 1 :=
  sum_increment _ _

end EventTally

end TrafficQueue
