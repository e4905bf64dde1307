import Mathlib.Data.List.DropRight
import Mathlib.Logic.Function.Basic
import TrafficQueue.Event.Bus

/-!
# What handlers are told

A handler is told of events and of the end of a run.  To see who is told what, every handler
of a bus notes it in a diary, besides what it does anyway.  Whatever a bus is asked for,
in whatever order, its handlers are told of the events that were emitted before the last
dispatch, and of those only that were dispatched since they were registered.

Main results:

- Definition `EventBus.noting`: the bus with handlers that note what they are told.
- Theorems `EventBus.flush_noting` and `finish_noting`: what a dispatch and the end of a run
  add to the diary.
- Definitions `emittedIn` and `dispatchedIn`: the events that calls emit and dispatch.
- Theorem `EventBus.keeps_after`: after any calls the dispatched and the kept events are the
  emitted ones.
- Theorem `EventBus.received_after`: the events that a handler has received after any calls.
- Theorem `EventBus.delivered`: both together, for all handlers of a bus.
-/

namespace TrafficQueue

/-! ## Notices -/

/-- What a handler is told: an event, or that the run is over. -/
inductive Notice where
  | event (e : Event)
  | finish
deriving DecidableEq

namespace Notice

/-- The event, if it is one. -/
def event? : Notice → Option Event
  | event e => some e
  | finish => none

/-- The events among what was told. -/
def events (ns : List Notice) : List Event := ns.filterMap event?

@[simp]
theorem events_map (es : List Event) : events (es.map .event) = es := by
  simp [events, Function.comp_def, event?, List.filterMap_map]

@[simp]
theorem events_append (ns ms : List Notice) : events (ns ++ ms) = events ns ++ events ms :=
  List.filterMap_append

end Notice

/-- What every handler has been told, by its number. -/
abbrev Diary := Nat → List Notice

namespace Diary

variable (d : Diary) (count : Nat)

/-- The handlers with the first numbers are told the same. -/
def tell (ns : List Notice) : Diary := fun k => if k < count then d k ++ ns else d k

@[simp]
theorem tell_nil : d.tell count [] = d := by
  funext k
  simp [tell]

/-- To be told something and then something else is to be told both. -/
theorem tell_tell (ns ms : List Notice) :
    (d.tell count ns).tell count ms = d.tell count (ns ++ ms) := by
  funext k
  by_cases hk : k < count <;> simp [tell, hk]

variable {d count} {k : Nat}

/-- Handlers of the bus are told. -/
theorem tell_of_lt (h : k < count) (ns : List Notice) : d.tell count ns k = d k ++ ns := by
  simp [tell, h]

/-- Nobody else is told. -/
theorem tell_of_le (h : count ≤ k) (ns : List Notice) : d.tell count ns k = d k := by
  simp [tell, Nat.not_lt_of_le h]

end Diary

/-! ## Handlers that note what they are told -/

section Noting

variable {σ : Type}

namespace Handler

/-- Tells a handler something. -/
def hear (h : Handler σ) : Notice → σ → σ
  | .event e => h.onEvent e
  | .finish => h.onFinish

/-- The handler with a number, which notes what it is told besides. -/
def noting (k : Nat) (h : Handler σ) : Handler (σ × Diary) where
  onEvent e x := (h.onEvent e x.1, Function.update x.2 k (x.2 k ++ [.event e]))
  onFinish x := (h.onFinish x.1, Function.update x.2 k (x.2 k ++ [.finish]))

/-- A handler that notes what it is told does what it did before. -/
theorem hear_noting (h : Handler σ) (k : Nat) (n : Notice) (x : σ) (d : Diary) :
    (h.noting k).hear n (x, d) = (h.hear n x, Function.update d k (d k ++ [n])) := by
  cases n <;> rfl

/-- When all handlers are told something, all of them note it. -/
theorem foldl_hear_noting (hs : List (Handler σ)) (n : Notice) (x : σ) (d : Diary) :
    (hs.mapIdx noting).foldl (fun y h => h.hear n y) (x, d) =
      (hs.foldl (fun y h => h.hear n y) x, d.tell hs.length [n]) := by
  induction hs using List.reverseRecOn with
  | nil => exact Prod.ext rfl (funext fun k => by simp [Diary.tell])
  | append_singleton hs h ih =>
      rw [List.mapIdx_concat, List.foldl_concat, ih, List.foldl_concat, hear_noting]
      refine Prod.ext rfl (funext fun k => ?_)
      rw [List.length_append, List.length_singleton]
      dsimp only
      rcases Nat.lt_trichotomy k hs.length with hlt | rfl | hgt
      · rw [Function.update_of_ne (Nat.ne_of_lt hlt), Diary.tell_of_lt hlt,
          Diary.tell_of_lt (Nat.lt_succ_of_lt hlt)]
      · rw [Function.update_self, Diary.tell_of_le (Nat.le_refl _),
          Diary.tell_of_lt (Nat.lt_succ_self _)]
      · rw [Function.update_of_ne (Nat.ne_of_gt hgt), Diary.tell_of_le (Nat.le_of_lt hgt),
          Diary.tell_of_le hgt]

end Handler

namespace EventBus

/-- The bus with handlers that note what they are told. -/
def noting (b : EventBus σ) : EventBus (σ × Diary) :=
  { handlers := b.handlers.mapIdx Handler.noting
    pending := b.pending
    isSealed := b.isSealed
    dispatched := b.dispatched }

variable (b : EventBus σ) (x : σ) (d : Diary)

@[simp]
theorem length_handlers_noting : b.noting.handlers.length = b.handlers.length :=
  List.length_mapIdx

/-- Events are kept behind those that were kept before. -/
theorem emitAll_eq (es : List Event) :
    b.emitAll es = { b with pending := b.pending ++ es.toArray } := by
  induction es generalizing b with
  | nil => simp [emitAll]
  | cons e es ih =>
      refine (ih (b.emit e)).trans ?_
      simp [emit]

/-- With nothing kept before, a dispatch gives exactly the new events to the handlers. -/
theorem flush_emitAll (hpending : b.pending = #[]) (es : List Event) :
    (b.emitAll es).flush x =
      ({ b with dispatched := b.dispatched + es.length }, es.foldl (deliver b.handlers) x) := by
  rw [emitAll_eq]
  simp [flush, hpending]

/-- To dispatch some events before the others comes to the same as to dispatch all of them together.
-/
theorem flush_emitAll_append (es fs : List Event) :
    (b.emitAll (es ++ fs)).flush x =
      (((b.emitAll es).flush x).1.emitAll fs).flush ((b.emitAll es).flush x).2 := by
  simp [emitAll_eq, flush, Nat.add_assoc]

/-- Dispatched events are noted by all handlers. -/
theorem foldl_deliver_noting (hs : List (Handler σ)) (es : List Event) :
    es.foldl (deliver (hs.mapIdx Handler.noting)) (x, d) =
      (es.foldl (deliver hs) x, d.tell hs.length (es.map .event)) := by
  induction es generalizing x d with
  | nil => simp
  | cons e es ih =>
      have hfirst : deliver (hs.mapIdx Handler.noting) (x, d) e =
          (deliver hs x e, d.tell hs.length [.event e]) :=
        Handler.foldl_hear_noting hs (.event e) x d
      rw [List.foldl_cons, hfirst, ih, Diary.tell_tell]
      rfl

/-- A dispatch tells all handlers of the kept events. -/
theorem flush_noting :
    b.noting.flush (x, d) =
      ((b.flush x).1.noting, (b.flush x).2,
        d.tell b.handlers.length (b.pending.toList.map .event)) := by
  refine Prod.ext rfl ?_
  rw [flush_state, flush_state]
  exact foldl_deliver_noting x d b.handlers b.pending.toList

/-- At the end all handlers are told of the kept events, and that the run is over. -/
theorem finish_noting :
    b.noting.finish (x, d) =
      ((b.finish x).1.noting, (b.finish x).2,
        d.tell b.handlers.length (b.pending.toList.map .event ++ [.finish])) := by
  unfold finish
  rw [flush_noting, ← Diary.tell_tell]
  exact Prod.ext rfl (Handler.foldl_hear_noting b.handlers .finish _ _)

end EventBus

end Noting

/-! ## Calls -/

/-- What can be asked of a bus. -/
inductive BusCall (σ : Type) where
  | add (h : Handler σ)
  | close
  | emit (e : Event)
  | flush
  | finish

namespace BusCall

variable {σ : Type}

/-- The call registers a handler. -/
def isAdd : BusCall σ → Bool
  | add _ => true
  | _ => false

/-- The call closes registration. -/
def isClose : BusCall σ → Bool
  | close => true
  | _ => false

/-- The call dispatches what is kept. -/
def dispatches : BusCall σ → Bool
  | flush => true
  | finish => true
  | _ => false

/-- The event, if the call emits one. -/
def event? : BusCall σ → Option Event
  | emit e => some e
  | _ => none

/-- The call whose handler, if it has one, gets a number and notes what it is told. -/
def noting (k : Nat) : BusCall σ → BusCall (σ × Diary)
  | add h => add (h.noting k)
  | close => close
  | emit e => emit e
  | flush => flush
  | finish => finish

/-- What the handlers are told in a call when these events are kept. -/
def notices (pending : List Event) : BusCall σ → List Notice
  | flush => pending.map .event
  | finish => pending.map .event ++ [.finish]
  | _ => []

end BusCall

/-- The events that calls emit. -/
def emittedIn {σ : Type} (calls : List (BusCall σ)) : List Event := calls.filterMap BusCall.event?

/-- The events that calls dispatch: those that were emitted before the last dispatch. -/
def dispatchedIn {σ : Type} (calls : List (BusCall σ)) : List Event :=
  emittedIn (calls.rdropWhile fun c => !c.dispatches)

namespace EventBus

variable {σ : Type}

/-- A bus and those who listen after a call.  A bus that takes no more handlers stays as it is. -/
def call (s : EventBus σ × σ) : BusCall σ → EventBus σ × σ
  | .add h =>
    match s.1.add h with
    | .error _ => s
    | .ok b => (b, s.2)
  | .close => (s.1.close, s.2)
  | .emit e => (s.1.emit e, s.2)
  | .flush => s.1.flush s.2
  | .finish => s.1.finish s.2

/-- A new bus and those who listen after calls, one after the other. -/
def after (calls : List (BusCall σ)) (x : σ) : EventBus σ × σ := calls.foldl call ({}, x)

/-- The same if the handlers note what they are told.  They have numbers in the order of their
registration. -/
def notedAfter (calls : List (BusCall σ)) (x : σ) : EventBus (σ × Diary) × σ × Diary :=
  calls.foldl (fun s c => call s (c.noting s.1.handlers.length)) ({}, x, fun _ => [])

/-- What the handlers have been told after calls. -/
def diary (calls : List (BusCall σ)) (x : σ) : Diary := (notedAfter calls x).2.2

variable {b b' : EventBus σ} {calls before : List (BusCall σ)} {c : BusCall σ} {x : σ}

/-! ## Notes of calls -/

/-- A sealed bus takes no more handlers. -/
theorem call_add_of_sealed (hb : b.isSealed = true) (x : σ) (h : Handler σ) :
    call (b, x) (.add h) = (b, x) := by
  simp only [call, add, hb, if_true]

/-- An open bus takes a handler behind the others. -/
theorem call_add_of_open (hb : b.isSealed = false) (x : σ) (h : Handler σ) :
    call (b, x) (.add h) = ({ b with handlers := b.handlers ++ [h] }, x) := by
  simp only [call, add, hb, Bool.false_eq_true, if_false]

/-- Noting what is told changes nothing else. -/
theorem call_noting (b : EventBus σ) (x : σ) (d : Diary) (c : BusCall σ) :
    call (b.noting, x, d) (c.noting b.handlers.length) =
      ((call (b, x) c).1.noting, (call (b, x) c).2,
        d.tell b.handlers.length (c.notices b.pending.toList)) := by
  cases c with
  | add h =>
      have hnone : d.tell b.handlers.length (BusCall.notices b.pending.toList (.add h)) = d :=
        d.tell_nil _
      rw [hnone, BusCall.noting]
      cases hsealed : b.isSealed with
      | true => rw [call_add_of_sealed hsealed, call_add_of_sealed (b := b.noting) hsealed]
      | false =>
          rw [call_add_of_open hsealed, call_add_of_open (b := b.noting) hsealed]
          refine Prod.ext ?_ rfl
          simp [noting, List.mapIdx_concat]
  | close => exact Prod.ext rfl (Prod.ext rfl (d.tell_nil _).symm)
  | emit e => exact Prod.ext rfl (Prod.ext rfl (d.tell_nil _).symm)
  | flush => exact b.flush_noting x d
  | finish => exact b.finish_noting x d

/-- The last call is made on what the others have left. -/
theorem after_concat (calls : List (BusCall σ)) (c : BusCall σ) (x : σ) :
    after (calls ++ [c]) x = call (after calls x) c :=
  List.foldl_concat ..

/-- The last call is noted on what the others have left. -/
theorem notedAfter_concat (calls : List (BusCall σ)) (c : BusCall σ) (x : σ) :
    notedAfter (calls ++ [c]) x =
      call (notedAfter calls x) (c.noting (notedAfter calls x).1.handlers.length) :=
  List.foldl_concat ..

/-- The bus and those who listen are the same with and without a diary. -/
theorem notedAfter_eq (calls : List (BusCall σ)) (x : σ) :
    notedAfter calls x = ((after calls x).1.noting, (after calls x).2, diary calls x) := by
  induction calls using List.reverseRecOn with
  | nil => rfl
  | append_singleton calls c ih =>
      have hcall := call_noting (after calls x).1 (after calls x).2 (diary calls x) c
      have hlast := notedAfter_concat calls c x
      rw [ih, length_handlers_noting, hcall, ← after_concat] at hlast
      rw [diary, hlast]

/-- What a call adds to the diary. -/
theorem diary_concat (calls : List (BusCall σ)) (c : BusCall σ) (x : σ) :
    diary (calls ++ [c]) x =
      (diary calls x).tell (after calls x).1.handlers.length
        (c.notices (after calls x).1.pending.toList) := by
  rw [diary, notedAfter_concat, notedAfter_eq, length_handlers_noting, call_noting]

/-! ## Events of calls -/

/-- The last call emits its event, if it emits one. -/
theorem emittedIn_concat (calls : List (BusCall σ)) (c : BusCall σ) :
    emittedIn (calls ++ [c]) = emittedIn calls ++ c.event?.toList := by
  cases hc : c.event? <;> simp [emittedIn, List.filterMap_append, hc]

/-- A dispatch dispatches all that was emitted before. -/
theorem dispatchedIn_of_dispatches (hc : c.dispatches = true) :
    dispatchedIn (calls ++ [c]) = emittedIn calls := by
  have hnone : c.event? = none := by cases c <;> first | rfl | cases hc
  rw [dispatchedIn, List.rdropWhile_concat_neg _ _ _ (by simp [hc]), emittedIn_concat, hnone]
  simp

/-- A call that dispatches nothing leaves what has been dispatched as it is. -/
theorem dispatchedIn_of_not (hc : c.dispatches = false) :
    dispatchedIn (calls ++ [c]) = dispatchedIn calls := by
  rw [dispatchedIn, List.rdropWhile_concat_pos _ _ _ (by simp [hc]), dispatchedIn]

/-- What a bus has kept, counted and registered in calls. -/
structure Keeps (calls : List (BusCall σ)) (b : EventBus σ) : Prop where
  kept : dispatchedIn calls ++ b.pending.toList = emittedIn calls
  counted : b.dispatched = (dispatchedIn calls).length
  isSealed : b.isSealed = calls.any BusCall.isClose
  numbered : b.isSealed = false → b.handlers.length = calls.countP BusCall.isAdd

/-- A dispatch leaves nothing behind. -/
theorem Keeps.dispatch (hb : Keeps calls b) (hc : c.dispatches = true) :
    Keeps (calls ++ [c])
      { b with pending := #[], dispatched := b.dispatched + b.pending.size } := by
  have hkind : c.isClose = false ∧ c.isAdd = false ∧ c.event? = none := by
    cases c <;> first | exact ⟨rfl, rfl, rfl⟩ | cases hc
  refine ⟨?_, ?_, ?_, ?_⟩
  · rw [dispatchedIn_of_dispatches hc, emittedIn_concat, hkind.2.2]
    rfl
  · rw [dispatchedIn_of_dispatches hc, ← hb.kept, List.length_append, ← hb.counted,
      Array.length_toList]
  · simp [hb.isSealed, hkind.1]
  · intro hopen
    simp [hb.numbered hopen, hkind.2.1]

/-- Any other call leaves what was dispatched. -/
theorem Keeps.wait (hb : Keeps calls b) (hc : c.dispatches = false)
    (hpending : b'.pending.toList = b.pending.toList ++ c.event?.toList)
    (hcount : b'.dispatched = b.dispatched) (hsealed : b'.isSealed = (b.isSealed || c.isClose))
    (hnumber : b'.isSealed = false →
      b'.handlers.length = b.handlers.length + if c.isAdd then 1 else 0) :
    Keeps (calls ++ [c]) b' := by
  refine ⟨?_, ?_, ?_, ?_⟩
  · rw [dispatchedIn_of_not hc, emittedIn_concat, hpending, ← hb.kept, List.append_assoc]
  · rw [dispatchedIn_of_not hc, hcount, hb.counted]
  · simp [hsealed, hb.isSealed]
  · intro hopen
    have hopen' := hopen
    rw [hsealed, Bool.or_eq_false_iff] at hopen'
    rw [hnumber hopen, hb.numbered hopen'.1, List.countP_append, List.countP_singleton]

/-- What every call keeps, counts and registers. -/
theorem Keeps.call (hb : Keeps calls b) (x : σ) (c : BusCall σ) :
    Keeps (calls ++ [c]) (call (b, x) c).1 := by
  cases c with
  | add h =>
      cases hsealed : b.isSealed with
      | true =>
          rw [call_add_of_sealed hsealed]
          refine hb.wait rfl (List.append_nil _).symm rfl (Bool.or_false _).symm fun hopen => ?_
          rw [hsealed] at hopen
          cases hopen
      | false =>
          rw [call_add_of_open hsealed]
          exact hb.wait rfl (List.append_nil _).symm rfl (Bool.or_false _).symm fun _ =>
            List.length_append
  | close =>
      exact hb.wait rfl (List.append_nil _).symm rfl (Bool.or_true _).symm fun hopen => by
        cases hopen
  | emit e => exact hb.wait rfl (pending_emit b e) rfl (Bool.or_false _).symm fun _ => rfl
  | flush => exact hb.dispatch rfl
  | finish => exact hb.dispatch rfl

/-- The events that have been dispatched, followed by those that are kept, are the emitted ones, and
the bus counts those that were dispatched. -/
theorem keeps_after (calls : List (BusCall σ)) (x : σ) : Keeps calls (after calls x).1 := by
  induction calls using List.reverseRecOn with
  | nil => exact ⟨rfl, rfl, rfl, fun _ => rfl⟩
  | append_singleton calls c ih =>
      rw [after_concat]
      exact ih.call _ c

/-! ## Events of handlers -/

/-- The handlers are told of what a call dispatches. -/
theorem dispatchedIn_concat (calls : List (BusCall σ)) (c : BusCall σ) (x : σ) :
    dispatchedIn (calls ++ [c]) =
      dispatchedIn calls ++ Notice.events (c.notices (after calls x).1.pending.toList) := by
  have hkept := (keeps_after calls x).kept
  cases c with
  | add h => exact (dispatchedIn_of_not rfl).trans (List.append_nil _).symm
  | close => exact (dispatchedIn_of_not rfl).trans (List.append_nil _).symm
  | emit e => exact (dispatchedIn_of_not rfl).trans (List.append_nil _).symm
  | flush =>
      rw [dispatchedIn_of_dispatches rfl, ← hkept, BusCall.notices, Notice.events_map]
  | finish =>
      rw [dispatchedIn_of_dispatches rfl, ← hkept, BusCall.notices, Notice.events_append,
        Notice.events_map]
      exact congrArg _ (List.append_nil _).symm

/-- What has been dispatched stays so. -/
theorem dispatchedIn_grows (x : σ) (before since : List (BusCall σ)) :
    dispatchedIn before <+: dispatchedIn (before ++ since) := by
  induction since using List.reverseRecOn with
  | nil => exact (List.append_nil before).symm ▸ List.prefix_refl _
  | append_singleton since c ih =>
      rw [← List.append_assoc, dispatchedIn_concat _ c x]
      exact ih.trans (List.prefix_append _ _)

/-- Handlers stay registered. -/
theorem length_handlers_call (b : EventBus σ) (x : σ) (c : BusCall σ) :
    b.handlers.length ≤ (call (b, x) c).1.handlers.length := by
  cases c with
  | add h =>
      cases hsealed : b.isSealed with
      | true => rw [call_add_of_sealed hsealed]
      | false => simp [call_add_of_open hsealed]
  | close => exact Nat.le_refl _
  | emit e => exact Nat.le_refl _
  | flush => exact Nat.le_refl _
  | finish => exact Nat.le_refl _

/-- Nothing is told to handlers that are not there. -/
theorem diary_eq_nil {k : Nat} (hk : (after calls x).1.handlers.length ≤ k) :
    diary calls x k = [] := by
  induction calls using List.reverseRecOn with
  | nil => rfl
  | append_singleton calls c ih =>
      rw [after_concat] at hk
      have hk' : (after calls x).1.handlers.length ≤ k :=
        Nat.le_trans (length_handlers_call _ _ c) hk
      rw [diary_concat, Diary.tell_of_le hk']
      exact ih hk'

/-- A handler has received the events that have been dispatched since it was registered, each once
and in order. -/
theorem received_after (x : σ) (hopen : ∀ c ∈ before, c.isClose = false) (h : Handler σ)
    (since : List (BusCall σ)) :
    before.countP BusCall.isAdd < (after (before ++ .add h :: since) x).1.handlers.length ∧
      Notice.events (diary (before ++ .add h :: since) x (before.countP BusCall.isAdd)) =
        (dispatchedIn (before ++ .add h :: since)).drop (dispatchedIn before).length := by
  induction since using List.reverseRecOn with
  | nil =>
      have hkeeps := keeps_after before x
      have hunsealed : (after before x).1.isSealed = false := by
        rw [hkeeps.isSealed, List.any_eq_false]
        simpa using hopen
      have hnumber := hkeeps.numbered hunsealed
      refine ⟨?_, ?_⟩
      · rw [after_concat, call_add_of_open hunsealed, ← hnumber]
        simp
      · have hnothing : diary before x (before.countP BusCall.isAdd) = [] :=
          diary_eq_nil (Nat.le_of_eq hnumber)
        rw [diary_concat, dispatchedIn_of_not rfl, List.drop_length]
        simp [BusCall.notices, hnothing, Notice.events]
  | append_singleton since c ih =>
      have hsplit : before ++ .add h :: (since ++ [c]) = before ++ .add h :: since ++ [c] := by
        simp
      have hlength := (dispatchedIn_grows x before (.add h :: since)).length_le
      rw [hsplit]
      refine ⟨?_, ?_⟩
      · rw [after_concat]
        exact Nat.lt_of_lt_of_le ih.1 (length_handlers_call _ _ c)
      · rw [diary_concat, Diary.tell_of_lt ih.1, Notice.events_append, ih.2,
          dispatchedIn_concat _ _ x, List.drop_append_of_le_length hlength]

/-- What the handlers of a bus have received after calls. -/
structure Delivered (calls : List (BusCall σ)) (x : σ) : Prop where
  /-- The diary changes neither the bus nor those who listen. -/
  noted : notedAfter calls x = ((after calls x).1.noting, (after calls x).2, diary calls x)
  emitted : dispatchedIn calls ++ (after calls x).1.pending.toList = emittedIn calls
  counted : (after calls x).1.dispatched = (dispatchedIn calls).length
  /-- A handler that was registered before the bus was closed has a number and has received what has
  been dispatched since. -/
  received : ∀ before h since, calls = before ++ .add h :: since →
    (∀ c ∈ before, c.isClose = false) →
    Notice.events (diary calls x (before.countP BusCall.isAdd)) =
      (dispatchedIn calls).drop (dispatchedIn before).length
  /-- All handlers that were registered before the first event have received the same. -/
  together : ∀ before h since, calls = before ++ .add h :: since →
    (∀ c ∈ before, c.isClose = false) → emittedIn before = [] →
    Notice.events (diary calls x (before.countP BusCall.isAdd)) = dispatchedIn calls

/-- Whatever a bus is asked for, its handlers have received the events that have been dispatched
since they were registered. -/
theorem delivered (calls : List (BusCall σ)) (x : σ) : Delivered calls x := by
  have hkeeps := keeps_after calls x
  refine ⟨notedAfter_eq calls x, hkeeps.kept, hkeeps.counted, ?_, ?_⟩
  · rintro before h since rfl hopen
    exact (received_after x hopen h since).2
  · rintro before h since rfl hopen hnothing
    have hbefore : dispatchedIn before = [] :=
      (List.append_eq_nil_iff.1 ((keeps_after before x).kept.trans hnothing)).1
    have hreceived := (received_after x hopen h since).2
    rwa [hbefore] at hreceived

/-- A handler that comes late is not told of what was dispatched before. -/
example (e f : Event) (h : Handler Unit) :
    diary [.add h, .emit e, .flush, .add h, .emit f, .finish] () 0 =
        [.event e, .event f, .finish] ∧
      diary [.add h, .emit e, .flush, .add h, .emit f, .finish] () 1 = [.event f, .finish] :=
  ⟨rfl, rfl⟩

end EventBus

end TrafficQueue
