import TrafficQueue.Output.Batch
import TrafficQueue.Proofs.Simulation.Listening

/-!
# The end of a run for its handlers

Handlers are told once that a run is over.  They are told nothing more, and no row of output is
left unwritten, as long as no steps are made after that.  If steps are made, the handlers are
told of their events all the same, and an output keeps the rows of these events until it has
a full batch or a summary to write.

Main results:

- Theorem `Run.performAll_of_finished`: calls without steps after the end of a run do nothing.
- Definition `LeavesOff`: calls that make no steps after the end of a run.
- Theorem `Simulation.finish_told_once`: what handlers are told about the end of a run, and
  what becomes of their output.
- Theorem `Simulation.told_after_finish`: a handler that is told of events after the end.
-/

namespace TrafficQueue

/-! ## After the end -/

section Ends

variable {σ : Type} {r : Run σ} {calls before rest : List (RunCall × Observer σ)}
  {last : RunCall × Observer σ}

namespace Run

/-- The observer of a run after calls. -/
def observerAfter (o : Observer σ) (calls : List (RunCall × Observer σ)) : Observer σ :=
  calls.foldl (fun _ call => call.2) o

theorem observerAfter_noteCalls (o : Observer σ) (calls : List (RunCall × Observer σ)) :
    observerAfter o.noting (noteCalls calls) = (observerAfter o calls).noting := by
  induction calls generalizing o with
  | nil => rfl
  | cons call calls ih => exact ih call.2

/-- A run that is over makes no step. -/
theorem advanceWhile_of_over (h : r.simulation.goesOn = false) (most : Nat) :
    r.advanceWhile most = .ok r := by
  cases most with
  | zero => rfl
  | succ most => exact if_neg (by simp [h])

/-- A run that was finished stays as it is when it is finished again, and when it is to go on
although it does not. -/
theorem performAll_of_finished (hr : r.isFinished = true)
    (hcalls : ∀ call ∈ calls,
      call.1 = .finish ∨ call.1 = .complete ∧ r.simulation.goesOn = false) :
    r.performAll calls = .ok { r with observer := observerAfter r.observer calls } := by
  induction calls generalizing r with
  | nil => rfl
  | cons call calls ih =>
      have hfinish : Run.finish { r with observer := call.2 } = { r with observer := call.2 } :=
        if_pos hr
      have hcall : r.perform call = .ok { r with observer := call.2 } := by
        rcases call with ⟨c, observer⟩
        rcases hcalls _ List.mem_cons_self with hc | ⟨hc, hover⟩
        · cases hc
          exact congrArg Except.ok hfinish
        · cases hc
          have hstays := advanceWhile_of_over (r := { r with observer }) hover
            (r.simulation.config.endTime.since r.simulation.now)
          refine (congrArg (Except.map Run.finish) hstays).trans ?_
          exact congrArg Except.ok hfinish
      rw [performAll_cons, hcall]
      exact ih hr fun call' hcall' => hcalls call' (List.mem_cons_of_mem _ hcall')

end Run

/-- Of these calls one is the first that finishes the run, and no steps are made after it: if it has
not taken the run to its end, nobody asks for that later. -/
structure LeavesOff (before : List (RunCall × Observer σ)) (last : RunCall × Observer σ)
    (rest : List (RunCall × Observer σ)) : Prop where
  going : ∀ call ∈ before, call.1.finishes = false
  finishes : last.1.finishes = true
  idle : ∀ call ∈ rest, call.1 = .finish ∨ call.1 = .complete ∧ last.1 = .complete

/-- After such calls the run is what the first call that finishes it has left. -/
theorem Run.exists_leavesOff {s : Simulation} (hs : s.first.Sound s.network)
    (hstep : 1 ≤ s.clock.stepSecs.toNat) (hcalls : LeavesOff before last rest)
    (handlers : List (Handler σ)) (observer : Observer σ) (x : σ) :
    ∃ (n : Nat) (r₁ : Run σ) (d d' : Diary) (o : Observer σ),
      r₁.Listens s handlers n none d ∧ r₁.observer = last.2 ∧
      r₁.finish.Listens s handlers n (some n) d' ∧
      (start s handlers observer x).performAll (before ++ last :: rest) =
        .ok { r₁.finish with observer := o } ∧
      ((start s handlers observer x).noting fun _ => []).performAll
        (noteCalls (before ++ last :: rest)) =
      .ok ({ r₁.finish with observer := o }.noting d') := by
  rcases (listens_start s handlers observer x).performAll hs before with
    ⟨n, ended, r, d, hr, hnoted, hlistens, -, hended⟩
  have hopen : ended = none := by
    rw [← Option.not_isSome_iff_eq_none, hended]
    simpa using hcalls.going
  subst hopen
  rcases hlistens.perform_of_finishes hs hcalls.finishes with
    ⟨m, r₁, d₁, hlistens₁, hobserver, hlast, hlastNoted, hover⟩
  rcases hlistens₁.finish with ⟨d', hfinish, hlistens'⟩
  have hfinished : r₁.finish.isFinished = true := hlistens'.isFinished
  have hrest : ∀ call ∈ rest, call.1 = .finish ∨
      call.1 = .complete ∧ r₁.finish.simulation.goesOn = false := by
    intro call hcall
    rcases hcalls.idle call hcall with hc | ⟨hc, hcomplete⟩
    · exact .inl hc
    · refine .inr ⟨hc, ?_⟩
      rw [simulation_finish]
      refine hover hcomplete ?_
      rw [(Simulation.clock_history hlistens.history).1, (s.clock.secs_now_advanceBy n).2]
      exact hstep
  have hrestNoted : ∀ call ∈ noteCalls rest, call.1 = .finish ∨
      call.1 = .complete ∧ (r₁.finish.noting d').simulation.goesOn = false := by
    intro call hcall
    rcases List.mem_map.1 hcall with ⟨call', hcall', rfl⟩
    exact hrest call' hcall'
  refine ⟨n + m, r₁, d₁, d', observerAfter r₁.finish.observer rest, hlistens₁, hobserver, hlistens',
    ?_, ?_⟩
  · rw [performAll_append, hr]
    change (r.performAll (last :: rest)) = _
    rw [performAll_cons, hlast]
    exact performAll_of_finished hfinished hrest
  · have hstays := performAll_of_finished (r := r₁.finish.noting d') hfinished hrestNoted
    have hnotedObserver := observerAfter_noteCalls r₁.finish.observer rest
    rw [noteCalls, List.map_append, performAll_append, ← noteCalls, hnoted]
    change (r.noting d).performAll ((last.1, last.2.noting) :: noteCalls rest) = _
    rw [performAll_cons, hlastNoted, hfinish]
    refine hstays.trans ?_
    change Except.ok { r₁.finish.noting d' with
      observer := observerAfter r₁.finish.observer.noting (noteCalls rest) } = _
    rw [hnotedObserver]
    rfl

/-! ## An output among those who listen -/

/-- An output in the state that listeners share: it can be looked at, and changed by itself. -/
structure Outlet (σ ω : Type) where
  get : σ → BatchedOutput ω
  modify : (BatchedOutput ω → BatchedOutput ω) → σ → σ
  get_modify : ∀ f x, get (modify f x) = f (get x)

namespace Outlet

variable {ω : Type} (outlet : Outlet σ ω)

/-- A handler that leaves the output alone when the run is over. -/
def SparedBy (handler : Handler σ) : Prop := ∀ x, outlet.get (handler.onFinish x) = outlet.get x

/-- An observer that leaves the output alone when the run is over, or closes it then. -/
def EndedBy [RowWriter ω] (o : Observer σ) : Prop := ∀ now stats x,
  outlet.get (o.onEnd now stats x) = outlet.get x ∨
    outlet.get (o.onEnd now stats x) = (outlet.get x).close now stats

/-- The observer that writes summaries to the output closes it. -/
theorem endedBy_observer [RowWriter ω] : outlet.EndedBy (BatchedOutput.observer outlet.modify) :=
  fun _ _ _ => .inr (outlet.get_modify _ _)

variable {outlet}

/-- Handlers that spare the output leave it as it was. -/
theorem get_foldl_onFinish {handlers : List (Handler σ)}
    (h : ∀ handler ∈ handlers, outlet.SparedBy handler) (x : σ) :
    outlet.get (handlers.foldl (fun x handler => handler.onFinish x) x) = outlet.get x := by
  induction handlers generalizing x with
  | nil => rfl
  | cons handler handlers ih =>
      rw [List.forall_mem_cons] at h
      rw [List.foldl_cons, ih h.2, h.1]

end Outlet

/-- An output has written all its rows when the run is finished, whoever else listens. -/
theorem Run.buffer_finish {ω : Type} [RowWriter ω] {outlet : Outlet σ ω}
    {front back : List (Handler σ)} (hr : r.isFinished = false)
    (hhandlers : r.bus.handlers = front ++ BatchedOutput.handler outlet.modify :: back)
    (hback : ∀ handler ∈ back, outlet.SparedBy handler) (hobserver : outlet.EndedBy r.observer) :
    (outlet.get r.finish.listeners).buffer = #[] := by
  have hflushed : (outlet.get (r.bus.finish r.listeners).2).buffer = #[] := by
    change (outlet.get (r.bus.handlers.foldl (fun x handler => handler.onFinish x)
      (r.bus.flush r.listeners).2)).buffer = _
    rw [hhandlers, List.foldl_append, List.foldl_cons, Outlet.get_foldl_onFinish hback]
    change (outlet.get (outlet.modify BatchedOutput.flush _)).buffer = _
    rw [outlet.get_modify, BatchedOutput.buffer_flush]
  have hlisteners : r.finish.listeners = r.observer.onEnd r.simulation.now r.simulation.stats
      (r.bus.finish r.listeners).2 := by
    rw [finish, if_neg (by simp [hr])]
  rw [hlisteners]
  rcases hobserver r.simulation.now r.simulation.stats (r.bus.finish r.listeners).2 with
    hspared | hclosed
  · rw [hspared, hflushed]
  · rw [hclosed]
    simp [BatchedOutput.close, BatchedOutput.summarize]

end Ends

/-- A writer that keeps the rows of events. -/
structure RowList where
  rows : List EventRow := []

/-- Rows are written down, and nothing fails. -/
instance : RowWriter RowList where
  writeEvents rows w := (none, ⟨w.rows ++ rows⟩)
  writeSummary _ w := (none, w)
  finish w := (none, w)

/-! ## What handlers are told -/

namespace Simulation

variable {s : Simulation} {c : Config} {net : Network} {people : Population}
  {replanner : Option Replanner} {strategy : Option (AgentId → Person → Strategy)}

/-- Whatever is asked of a run, every handler is told once that it is over, if a call has finished
the run, and besides of all events of the steps: before that of those of the steps up to the first
such call, after that of those of later steps.  If no steps are made later, handlers are told
nothing more and no row is left unwritten of an output that is among them, if those behind it leave
it alone when the run is over, and the observer does or closes it. -/
theorem finish_told_once (h : build c net people replanner strategy = .ok s) :
    (∀ (σ : Type) (handlers : List (Handler σ)) (observer : Observer σ) (x : σ)
        (calls : List (RunCall × Observer σ)),
        ∃ n ended r d, (Run.start s handlers observer x).performAll calls = .ok r ∧
          ((Run.start s handlers observer x).noting fun _ => []).performAll
            (Run.noteCalls calls) = .ok (r.noting d) ∧
          s.history n = .ok r.simulation ∧
          r.isFinished = (calls.any fun call => call.1.finishes) ∧
          ended.isSome = r.isFinished ∧ (∀ m ∈ ended, m ≤ n) ∧
          ∀ k < handlers.length, d k = s.notices n ended ∧ (d k).count .finish ≤ 1) ∧
      (∀ (σ : Type) (handlers : List (Handler σ)) (observer : Observer σ) (x : σ)
        (before rest : List (RunCall × Observer σ)) (last : RunCall × Observer σ),
        LeavesOff before last rest →
        ∃ n r d, (Run.start s handlers observer x).performAll (before ++ last :: rest) = .ok r ∧
          ((Run.start s handlers observer x).noting fun _ => []).performAll
            (Run.noteCalls (before ++ last :: rest)) = .ok (r.noting d) ∧
          s.history n = .ok r.simulation ∧
          ∀ k < handlers.length, d k = (s.stream n).map .event ++ [.finish]) ∧
      ∀ (σ ω : Type) [RowWriter ω] (outlet : Outlet σ ω) (front back : List (Handler σ))
        (observer : Observer σ) (x : σ) (before rest : List (RunCall × Observer σ))
        (last : RunCall × Observer σ),
        LeavesOff before last rest → (∀ handler ∈ back, outlet.SparedBy handler) →
        outlet.EndedBy last.2 →
        ∃ r, (Run.start s (front ++ BatchedOutput.handler outlet.modify :: back) observer
            x).performAll (before ++ last :: rest) = .ok r ∧
          (outlet.get r.listeners).buffer = #[] := by
  have hs := sound_first h
  have hstep : 1 ≤ s.clock.stepSecs.toNat := by
    rcases build_eq_ok_iff.1 h with ⟨hvalid, -, rfl⟩
    exact Config.one_le_stepSecs hvalid
  refine ⟨?_, ?_, ?_⟩
  · intro σ handlers observer x calls
    rcases (Run.listens_start s handlers observer x).performAll hs calls with
      ⟨n, ended, r, d, hr, hnoted, hlistens, -, hended⟩
    refine ⟨n, ended, r, d, hr, hnoted, hlistens.history, ?_, hlistens.isFinished.symm,
      hlistens.ended_le, fun k hk => ⟨hlistens.told k hk, ?_⟩⟩
    · rw [hlistens.isFinished, hended]
      rfl
    · rw [hlistens.told k hk, count_finish_notices]
      split <;> simp
  · intro σ handlers observer x before rest last hcalls
    rcases Run.exists_leavesOff hs hstep hcalls handlers observer x with
      ⟨n, r₁, d, d', o, -, -, hlistens, hr, hnoted⟩
    refine ⟨n, _, d', hr, hnoted, hlistens.history, fun k hk => ?_⟩
    rw [hlistens.told k hk]
    exact s.notices_self n
  · intro σ ω _ outlet front back observer x before rest last hcalls hback hlast
    rcases Run.exists_leavesOff hs hstep hcalls
        (front ++ BatchedOutput.handler outlet.modify :: back) observer x with
      ⟨n, r₁, d, d', o, hlistens, hobserver, -, hr, -⟩
    exact ⟨_, hr,
      Run.buffer_finish hlistens.isFinished hlistens.registered hback (hobserver ▸ hlast)⟩

end Simulation

namespace Commuter

/-- An output beside a log of events. -/
def outlet : Outlet (BatchedOutput RowList × EventLog) RowList where
  get := Prod.fst
  modify f x := (f x.1, x.2)
  get_modify _ _ := rfl

/-- The handler of the log beside the output. -/
def logger : Handler (BatchedOutput RowList × EventLog) := EventLog.handler fun f x => (x.1, f x.2)

end Commuter

namespace Simulation

/-- A single commuter drives on after three steps; when the run is over, it is not over once more.
An output between two logs has written its rows then. -/
theorem finish_told_once_drive :
    build {} Commuter.net Commuter.single none none = .ok Commuter.drive ∧
      (∃ n r d, (Run.start Commuter.drive [EventLog.handler id] {} {}).performAll
          [(.steps 3, {}), (.complete, {}), (.finish, {}), (.complete, {})] = .ok r ∧
        ((Run.start Commuter.drive [EventLog.handler id] {} {}).noting fun _ => []).performAll
          (Run.noteCalls [(.steps 3, {}), (.complete, {}), (.finish, {}), (.complete, {})]) =
            .ok (r.noting d) ∧
        Commuter.drive.history n = .ok r.simulation ∧
        ∀ k < 1, d k = (Commuter.drive.stream n).map .event ++ [.finish]) ∧
      ∃ r, (Run.start Commuter.drive [Commuter.logger,
          BatchedOutput.handler Commuter.outlet.modify, Commuter.logger] {}
            (.ofWriter {}, {})).performAll
            [(.steps 3, {}), (.complete, BatchedOutput.observer Commuter.outlet.modify)] = .ok r ∧
        r.listeners.1.buffer = #[] := by
  have hends := finish_told_once Commuter.build_drive
  refine ⟨Commuter.build_drive, ?_, ?_⟩
  · refine hends.2.1 EventLog [EventLog.handler id] {} {} [(.steps 3, {})]
      [(.finish, {}), (.complete, {})] (.complete, {}) ⟨?_, rfl, ?_⟩
    · exact List.forall_mem_singleton.2 rfl
    · exact List.forall_mem_cons.2 ⟨.inl rfl, List.forall_mem_singleton.2 (.inr ⟨rfl, rfl⟩)⟩
  · refine hends.2.2 _ RowList Commuter.outlet [Commuter.logger] [Commuter.logger] {}
      (.ofWriter {}, {}) [(.steps 3, {})] []
      (.complete, BatchedOutput.observer Commuter.outlet.modify) ⟨?_, rfl, ?_⟩ ?_
      Commuter.outlet.endedBy_observer
    · exact List.forall_mem_singleton.2 rfl
    · exact List.forall_mem_nil _
    · exact List.forall_mem_singleton.2 fun _ => rfl

end Simulation

/-! ## Steps after the end -/

namespace Commuter

/-- The early commuter, whose run ends on the way. -/
def cutOff : Simulation := { drive with config := { endTime := .ofSecs 5 } }

theorem build_cutOff :
    Simulation.build { endTime := .ofSecs 5 } net single none none = .ok cutOff :=
  Simulation.build_eq_ok_iff.2 ⟨rfl, rfl, rfl⟩

/-- A run with an output. -/
def written : Run (BatchedOutput RowList) :=
  .start cutOff [BatchedOutput.handler id] {} (.ofWriter {})

/-- A run to the end and steps after it. -/
def onwards : List (RunCall × Observer (BatchedOutput RowList)) :=
  [(.complete, BatchedOutput.observer id), (.steps 6, BatchedOutput.observer id)]

/-- What the output is told: it is over in the middle of it. -/
def told : List Notice :=
  [.event ⟨.zero, ⟨0⟩, ⟨0⟩, .activityEnd "home"⟩, .event ⟨.zero, ⟨0⟩, ⟨0⟩, .departure .car⟩,
    .finish, .event ⟨.ofSecs 10, ⟨0⟩, ⟨0⟩, .linkLeave ⟨0⟩⟩,
    .event ⟨.ofSecs 10, ⟨0⟩, ⟨1⟩, .linkEnter ⟨0⟩⟩]

end Commuter

namespace Simulation

/-- An output is told that the run is over after two events.  Then more steps are made, and it is
told of two events more, whose rows are left unwritten. -/
theorem told_after_finish :
    build { endTime := .ofSecs 5 } Commuter.net Commuter.single none none = .ok Commuter.cutOff ∧
      ∃ r d, (Commuter.written.noting fun _ => []).performAll (Run.noteCalls Commuter.onwards) =
          .ok (Run.noting r d) ∧
        d 0 = Commuter.told ∧ r.listeners.writer.rows.length = 2 ∧ r.listeners.buffer.size = 2 := by
  rcases (Run.listens_start Commuter.cutOff [BatchedOutput.handler id] {} _).performAll
    (sound_first Commuter.build_cutOff) Commuter.onwards with ⟨-, -, r, d, -, hnoted, -⟩
  have hrun : ((Commuter.written.noting fun _ => []).performAll
      (Run.noteCalls Commuter.onwards)).toOption.map (fun r =>
        (r.listeners.2 0, r.listeners.1.writer.rows.length, r.listeners.1.buffer.size)) =
      some (Commuter.told, 2, 2) := by
    decide +kernel
  rw [Commuter.written, hnoted] at hrun
  have hrun' := Option.some.inj hrun
  exact ⟨Commuter.build_cutOff, r, d, hnoted, congrArg Prod.fst hrun',
    congrArg (fun x => x.2.1) hrun', congrArg (fun x => x.2.2) hrun'⟩

end Simulation

end TrafficQueue
