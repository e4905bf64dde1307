import TrafficQueue.Proofs.Simulation.Course

/-!
# The stream of events

The events of more steps continue those of fewer steps.  Every event has the time
that the clock showed in its step, so what happens before some time is a beginning
of the stream.

Main results:

- Theorem `Simulation.stream_prefix`: fewer steps emit the first of the events.
- Theorem `Simulation.time_of_mem_stream`: the times of the events.
- Theorem `Simulation.filter_stream`: the events of the steps before some step are
  those with an earlier time.
-/

namespace TrafficQueue

namespace Simulation

variable {s : Simulation} {n m : Nat} {e : Event}

/-- Fewer steps emit the first of the events. -/
theorem stream_prefix (s : Simulation) (h : n ≤ m) : s.stream n <+: s.stream m := by
  induction m, h using Nat.le_induction with
  | base => exact List.prefix_refl _
  | succ m _ ih => exact ih.trans (List.prefix_append _ _)

/-! ## Times -/

/-- Whatever was emitted in the current step has the time of the step. -/
theorem Passes.time_emitted {m : Moment} (hs : s.first.Sound s.network) (h : s.Passes n m) :
    ∀ e ∈ m.traffic.emitted.toList, e.time = (s.clock.advanceBy n).now := by
  refine h.invariant (P := fun n m =>
    ∀ e ∈ m.traffic.emitted.toList, e.time = (s.clock.advanceBy n).now) hs ?_ ?_ ?_
  · exact List.forall_mem_nil _
  · rintro n m m' - hm hmove
    rcases hmove.agents_log with ⟨hpast, ⟨-, hlog⟩ | ⟨a, events, b, -, hdeed, -, hlog⟩⟩
    · rw [Moment.log, Moment.log, hpast] at hlog
      rwa [List.append_cancel_left hlog]
    · rw [Moment.log, Moment.log, hpast, List.append_assoc] at hlog
      rw [List.append_cancel_left hlog, List.forall_mem_append]
      exact ⟨hm, fun e he => (hdeed.mem_events e he).2⟩
  · intro n past t _
    exact List.forall_mem_nil _

/-- The events of a step have the time of the step. -/
theorem time_of_mem_events {t : Simulation} (hs : s.first.Sound s.network)
    (ht : s.history (n + 1) = .ok t) (he : e ∈ t.events) :
    e.time = (s.clock.advanceBy n).now := by
  rcases exists_recorded hs n with ⟨r, -, hr⟩
  rcases exists_done hs hr.history hr.passes with ⟨t', u, -, ht', htraffic, hpass⟩
  cases ht.symm.trans ht'
  rw [events, htraffic] at he
  exact hpass.time_emitted hs e he

/-- Every event has the time of one of the steps. -/
theorem time_of_mem_stream (hs : s.first.Sound s.network) (he : e ∈ s.stream n) :
    ∃ k, k < n ∧ e.time = (s.clock.advanceBy k).now := by
  induction n with
  | zero => cases he
  | succ n ih =>
      rcases exists_recorded hs (n + 1) with ⟨r, -, hr⟩
      rw [stream_succ hr.history, List.mem_append] at he
      rcases he with he | he
      · rcases ih he with ⟨k, hk, htime⟩
        exact ⟨k, Nat.lt_succ_of_lt hk, htime⟩
      · exact ⟨n, Nat.lt_succ_self n, time_of_mem_events hs hr.history he⟩

/-- If the steps before some step come before a time and the later ones do not, or emit nothing, the
events before that time are those of the steps before. -/
theorem filter_stream {time : Time} (hs : s.first.Sound s.network)
    (hbefore : ∀ k, k < m → (s.clock.advanceBy k).now < time)
    (hafter : ∀ k t, m ≤ k → s.history (k + 1) = .ok t → ∀ e ∈ t.events, ¬ e.time < time)
    (n : Nat) :
    (s.stream n).filter (fun e => e.time < time) = s.stream (min n m) := by
  induction n with
  | zero => simp [stream]
  | succ n ih =>
      rcases exists_recorded hs (n + 1) with ⟨r, -, hr⟩
      rw [stream_succ hr.history, List.filter_append, ih]
      by_cases hn : n < m
      · have hall : r.simulation.events.filter (fun e => e.time < time) = r.simulation.events := by
          rw [List.filter_eq_self]
          intro e he
          rw [time_of_mem_events hs hr.history he]
          exact decide_eq_true (hbefore n hn)
        rw [hall, Nat.min_eq_left (Nat.le_of_lt hn), Nat.min_eq_left hn, stream_succ hr.history]
      · have hnone : r.simulation.events.filter (fun e => e.time < time) = [] := by
          rw [List.filter_eq_nil_iff]
          intro e he
          simpa using hafter n _ (Nat.le_of_not_lt hn) hr.history e he
        rw [hnone, List.append_nil, Nat.min_eq_right (by omega), Nat.min_eq_right (by omega)]

end Simulation

end TrafficQueue
