import Mathlib.Data.List.Induction
import TrafficQueue.Proofs.Program
import TrafficQueue.Proofs.Queue.Calls
import TrafficQueue.Proofs.Queue.Storage
import TrafficQueue.Proofs.Queue.Turns

/-!
# What a call to one link leaves alone

The queue, the storage and the flow of a link are kept apart, so a call changes them one
after the other.  Here the calls are programs that do so in place: what they have changed
before they refuse stays changed.  Nothing ever has, and whatever they change belongs to
the link that was named.

Main results:

- Definition `QueueNetwork.serve`: a call that changes the queues in place.
- Theorem `QueueNetwork.serve_eq`: it does what `QueueNetwork.perform` answers.
- Definition `QueueNetwork.Frame`: at most one link has changed.
- Theorem `QueueNetwork.calls_keep_to_their_link`: what a call changes, and when it takes the head
  off a link.
-/

namespace TrafficQueue

/-! ## Calls in place -/

/-- What can be asked of one link. -/
inductive LinkCall where
  | enqueue (v : Vehicle)
  | depart (v : Vehicle)
  | release (d : Downstream)
  | evict

/-- The call at a link and a time. -/
def LinkCall.to (l : LinkId) (now : Time) : LinkCall → QueueCall
  | .enqueue v => .enqueue v l now
  | .depart v => .depart v l now
  | .release d => .release l now d
  | .evict => .evict l

/-- The one link that a call is made to. -/
def QueueCall.link? : QueueCall → Option LinkId
  | .enqueue _ l _ => some l
  | .depart _ l _ => some l
  | .update _ => none
  | .release l _ _ => some l
  | .evict l => some l

/-- The call is at its link. -/
theorem LinkCall.link?_to (c : LinkCall) (l : LinkId) (now : Time) :
    (c.to l now).link? = some l := by
  cases c <;> rfl

/-- A program on the queues of a network. -/
abbrev QueueProgram (α β : Type) := Program (QueueNetwork α) QueueError β

namespace QueueProgram

variable {α : Type}

/-- Looks up a link, which has to be known. -/
def find (l : LinkId) : QueueProgram α (LinkQueue α) := do
  let some q := (← get).link? l | throw (.unknownLink l)
  return q

/-- Changes the queue of a link. -/
def change (l : LinkId) (f : LinkQueue α → LinkQueue α) : QueueProgram α Unit :=
  modify fun n => (n.link? l).elim n fun q => n.set l (f q)

/-- A vehicle is put into the queue of a link. -/
def push (v : Vehicle) (l : LinkId) (now : Time) : QueueProgram α Time := do
  let e := (← find l).entry v now
  change l fun q => { q with storage := q.storage.occupy }
  change l fun q => { q with queue := q.queue ++ [e] }
  return e.earliestExit

/-- A vehicle is taken in if there is room. -/
def enqueue (v : Vehicle) (l : LinkId) (now : Time) : QueueProgram α Time := do
  if (← find l).hasSpace then push v l now else throw (.storageExhausted l)

/-- A vehicle departs if there is room and nobody waits, or else waits. -/
def depart (v : Vehicle) (l : LinkId) (now : Time) : QueueProgram α Departure := do
  let q ← find l
  if q.hasSpace ∧ q.waiting = [] then return .entered (← push v l now)
  change l fun q => q.wait v
  return .waiting

/-- Takes the front entry of a queue, if there is one. -/
def pop (l : LinkId) : QueueProgram α (Option QueueEntry) := do
  match (← find l).queue with
  | [] => return none
  | e :: es =>
    change l fun q => { q with queue := es }
    return some e

/-- The vehicle at the head is removed. -/
def evict (l : LinkId) : QueueProgram α (Option Vehicle) := do
  let some e ← pop l | return none
  change l fun q => { q with storage := q.storage.release }
  return some e.vehicle

variable [FlowNumber α]

/-- Lets the head of a link go. -/
def letGo (l : LinkId) : QueueProgram α (Option Vehicle) := do
  let some e ← pop l | return none
  change l fun q => { q with flow := q.flow.spend }
  change l fun q => { q with storage := q.storage.release }
  return some e.vehicle

/-- The vehicle at the head leaves if it is ready and there is room ahead. -/
def release (l : LinkId) (now : Time) (d : Downstream) : QueueProgram α (Option Vehicle) := do
  unless (← find l).headReady now do return none
  if let .link next := d then
    unless (← find next).hasSpace do return none
  letGo l

end QueueProgram

/-- The answer of a program and the queues that it leaves. -/
def QueueNetwork.execute {α β : Type} (n : QueueNetwork α) (answer : β → QueueAnswer)
    (p : QueueProgram α β) : QueueAnswer × QueueNetwork α :=
  match p.run n with
  | (.error e, n) => (.refused e, n)
  | (.ok b, n) => (answer b, n)

/-- The answer to a call to a link, and the queues after it. -/
def QueueNetwork.serve {α : Type} [FlowNumber α] (n : QueueNetwork α) (l : LinkId) (now : Time) :
    LinkCall → QueueAnswer × QueueNetwork α
  | .enqueue v => n.execute .entered (QueueProgram.enqueue v l now)
  | .depart v => n.execute .departed (QueueProgram.depart v l now)
  | .release d => n.execute .left (QueueProgram.release l now d)
  | .evict => n.execute .left (QueueProgram.evict l)

/-- A link that gets its own queue again. -/
theorem QueueNetwork.set_of_link? {α : Type} {n : QueueNetwork α} {l : LinkId} {q : LinkQueue α}
    (h : n.link? l = some q) : n.set l q = n := by
  rcases Array.getElem?_eq_some_iff.1 h with ⟨hlt, rfl⟩
  simp [set, Array.setIfInBounds, hlt]

namespace QueueProgram

open Program

variable {α : Type} {n : QueueNetwork α} {l : LinkId} {q : LinkQueue α}

/-- A link is looked up, and nothing changes. -/
theorem run_find (l : LinkId) (n : QueueNetwork α) :
    (find l).run n = (((n.link? l).elim (.error (.unknownLink l)) .ok), n) := by
  simp only [find, run_bind, run_get]
  cases n.link? l <;> rfl

/-- A known link is changed. -/
theorem run_change (h : n.link? l = some q) (f : LinkQueue α → LinkQueue α) :
    (change l f).run n = (.ok (), n.set l (f q)) := by
  simp only [change, run_modify, h, Option.elim_some]

/-- Of two changes to a link the first one leaves no trace but through the second. -/
theorem run_change_set (h : n.link? l = some q) (q' : LinkQueue α)
    (f : LinkQueue α → LinkQueue α) :
    (change l f).run (n.set l q') = (.ok (), n.set l (f q')) := by
  rw [run_change (QueueNetwork.link_set_self h)]
  simp [QueueNetwork.set]

/-- A vehicle that is put into the queue gets its exit time. -/
theorem run_push (h : n.link? l = some q) (v : Vehicle) (now : Time) :
    (push v l now).run n = (.ok (q.entry v now).earliestExit, n.set l (q.push now v)) := by
  simp only [push, run_bind, run_find, h, Option.elim_some, run_change h, run_change_set h]
  rfl

/-- A vehicle enters completely, or nothing changes. -/
theorem run_enqueue (v : Vehicle) (l : LinkId) (now : Time) (n : QueueNetwork α) :
    (enqueue v l now).run n = outcome n (n.enqueue v l now) := by
  simp only [enqueue, run_bind, run_find, QueueNetwork.enqueue]
  cases h : n.link? l with
  | none => rfl
  | some q =>
      simp only [Option.elim_some]
      split
      · rw [run_push h]
        rfl
      · rfl

/-- The program of a departure does what the departure does. -/
theorem run_depart (v : Vehicle) (l : LinkId) (now : Time) (n : QueueNetwork α) :
    (depart v l now).run n = outcome n (n.depart v l now) := by
  simp only [depart, run_bind, run_find, QueueNetwork.depart]
  cases h : n.link? l with
  | none => rfl
  | some q =>
      simp only [Option.elim_some]
      split
      · simp only [run_bind, run_push h]
        rfl
      · simp only [run_bind, run_change h]
        rfl

/-- From an empty queue nobody is taken. -/
theorem run_pop_nil (h : n.link? l = some q) (hqueue : q.queue = []) :
    (pop l).run n = (.ok none, n) := by
  simp only [pop, run_bind, run_find, h, Option.elim_some, hqueue]
  rfl

/-- From a queue its head is taken. -/
theorem run_pop_cons {e : QueueEntry} {es : List QueueEntry} (h : n.link? l = some q)
    (hqueue : q.queue = e :: es) :
    (pop l).run n = (.ok (some e), n.set l { q with queue := es }) := by
  simp only [pop, run_bind, run_find, h, Option.elim_some, hqueue, run_change h]
  rfl

/-- The program of an eviction does what the eviction does. -/
theorem run_evict (l : LinkId) (n : QueueNetwork α) :
    (evict l).run n = outcome n (n.evict l) := by
  simp only [evict, run_bind, QueueNetwork.evict]
  cases h : n.link? l with
  | none =>
      simp only [pop, run_bind, run_find, h]
      rfl
  | some q =>
      cases hqueue : q.queue with
      | nil =>
          simp only [run_pop_nil h hqueue, LinkQueue.evict, hqueue, QueueNetwork.set_of_link? h]
          rfl
      | cons e es =>
          simp only [run_pop_cons h hqueue, run_bind, run_change_set h, LinkQueue.evict, hqueue]
          rfl

variable [FlowNumber α]

/-- The vehicle at the head is let go. -/
theorem run_letGo {e : QueueEntry} {es : List QueueEntry} (h : n.link? l = some q)
    (hqueue : q.queue = e :: es) :
    (letGo l).run n = (.ok q.release.1, n.set l q.release.2) := by
  simp only [letGo, run_bind, run_pop_cons h hqueue, run_change_set h, LinkQueue.release, hqueue]
  rfl

/-- The program of a release does what the release does. -/
theorem run_release (l : LinkId) (now : Time) (d : Downstream) (n : QueueNetwork α) :
    (release l now d).run n = outcome n (n.release l now d) := by
  simp only [release, run_bind, run_find, QueueNetwork.release]
  cases h : n.link? l with
  | none => rfl
  | some q =>
      simp only [Option.elim_some]
      split
      · rename_i hready
        rcases LinkQueue.headReady_iff.1 hready with ⟨e, he, -, -⟩
        rcases List.head?_eq_some_iff.1 he with ⟨es, hqueue⟩
        cases d with
        | exit => exact run_letGo h hqueue
        | link next =>
            simp only [run_bind, run_find, QueueNetwork.downstreamRoom]
            cases n.link? next with
            | none => rfl
            | some q' =>
                cases hspace : q'.hasSpace with
                | false => simp only [Option.elim_some, hspace]; rfl
                | true =>
                    simp only [Option.elim_some, hspace, if_true]
                    exact run_letGo h hqueue
      · rfl

end QueueProgram

namespace QueueNetwork

section Laws

variable {α : Type} [FlowNumber α] {n n' : QueueNetwork α} {l : LinkId} {now : Time}

/-- A call in place does what `perform` answers. -/
theorem serve_eq (n : QueueNetwork α) (l : LinkId) (now : Time) (c : LinkCall) :
    n.serve l now c = n.perform (c.to l now) := by
  cases c with
  | enqueue v =>
      simp only [serve, execute, QueueProgram.run_enqueue, LinkCall.to, perform]
      cases n.enqueue v l now <;> rfl
  | depart v =>
      simp only [serve, execute, QueueProgram.run_depart, LinkCall.to, perform]
      cases n.depart v l now <;> rfl
  | release d =>
      simp only [serve, execute, QueueProgram.run_release, LinkCall.to, perform]
      cases n.release l now d <;> rfl
  | evict =>
      simp only [serve, execute, QueueProgram.run_evict, LinkCall.to, perform]
      cases n.evict l <;> rfl

/-- What a call to a link does is one of the effects of that call. -/
theorem serve_effect (n : QueueNetwork α) (l : LinkId) (now : Time) (c : LinkCall) :
    CallEffect n (c.to l now) (n.serve l now c).1 (n.serve l now c).2 := by
  rw [serve_eq]
  exact n.perform_effect _

/-! ## What stays -/

/-- The networks differ in the queue of one link at most. -/
structure Frame (l : LinkId) (n n' : QueueNetwork α) : Prop where
  size : n'.links.size = n.links.size
  others : ∀ m, m ≠ l → n'.link? m = n.link? m

omit [FlowNumber α] in
/-- Nothing changes at the other links if nothing changes. -/
theorem frame_refl (l : LinkId) (n : QueueNetwork α) : n.Frame l n :=
  ⟨rfl, fun _ _ => rfl⟩

omit [FlowNumber α] in
/-- Nothing changes at the other links if a link is set. -/
theorem frame_set (n : QueueNetwork α) (l : LinkId) (q : LinkQueue α) : n.Frame l (n.set l q) :=
  ⟨size_set n l q, fun _ hm => link_set_of_ne hm.symm⟩

end Laws

end QueueNetwork

namespace CallEffect

open QueueNetwork

variable {α : Type} [FlowNumber α] {n n' : QueueNetwork α} {l : LinkId} {c : QueueCall}
  {answer : QueueAnswer}

/-- Every call to a link keeps to it. -/
theorem frame (h : CallEffect n c answer n') (hlink : c.link? = some l) : n.Frame l n' := by
  cases h with
  | update => cases hlink
  | refuse | stay => exact frame_refl l n
  | enter | depart | wait | release | evict | nobody =>
      cases hlink
      exact frame_set n l _

/-- Whoever finds nobody to take off a link leaves everything as it was. -/
theorem eq_of_left_none (h : CallEffect n c (.left none) n') : n' = n := by
  cases h with
  | stay => rfl
  | nobody hq hempty => exact set_of_link? hq

/-- A call that is refused changes nothing. -/
theorem eq_of_refused {e : QueueError} (h : CallEffect n c (.refused e) n') : n' = n := by
  cases h
  rfl

/-- The storages of all links still hold the vehicles of their queues. -/
theorem stored (h : CallEffect n c answer n') (hn : n.Stored) : n'.Stored := by
  cases h with
  | refuse | stay => exact hn
  | enter hq hspace => exact hn.set hq ((hn _ _ hq).push hspace _ _)
  | depart hq hspace => exact hn.set hq ((hn _ _ hq).push hspace _ _)
  | wait hq => exact hn.set hq ((hn _ _ hq).wait _)
  | update => exact hn.update _
  | release hq =>
      have hdrop := (hn _ _ hq).dropHead
      exact hn.set hq ⟨hdrop.occupied, hdrop.fits⟩
  | evict hq => exact hn.set hq (hn _ _ hq).dropHead
  | nobody hq => exact hn.set hq (hn _ _ hq)

end CallEffect

/-! ## What a call to a link does -/

namespace QueueNetwork

variable {α : Type} [FlowNumber α] {n n' : QueueNetwork α} {l : LinkId} {now : Time}

/-- After any calls to empty queues the storages hold the vehicles of the queues. -/
theorem stored_of_calls (bucket : Link → FlowBucket α) (net : Network) (storageFactor : Float)
    (calls : List QueueCall) :
    (QueueHistory.of (withBuckets bucket net storageFactor) calls).queues.Stored := by
  induction calls using List.reverseRecOn with
  | nil => exact stored_withBuckets bucket net storageFactor
  | append_singleton calls c ih =>
      rw [QueueHistory.of, List.foldl_append]
      exact (perform_effect _ c).stored ih

/-- A vehicle is refused because a link is full just when that is the link it enters, and it is
full. -/
theorem serve_enqueue_eq_exhausted_iff {v : Vehicle} {m : LinkId} :
    (n.serve l now (.enqueue v)).1 = .refused (.storageExhausted m) ↔
      m = l ∧ ∃ q, n.link? l = some q ∧ q.hasSpace = false := by
  rw [serve_eq, LinkCall.to, perform]
  rcases henter : n.enqueue v l now with e | ⟨exit, n'⟩
  · rcases enqueue_eq_error_iff.1 henter with ⟨hq, rfl⟩ | ⟨q, hq, hspace, rfl⟩
    · simp [hq]
    · simp [hq, hspace, eq_comm (a := m)]
  · rcases enqueue_eq_ok_iff.1 henter with ⟨q, hq, hspace, -, -⟩
    simp [hq, hspace]

/-- A vehicle that is released leaves its link. -/
theorem serve_release_eq_left_iff {d : Downstream} {v : Vehicle} :
    n.serve l now (.release d) = (.left (some v), n') ↔ n.release l now d = .ok (some v, n') := by
  rw [serve_eq, LinkCall.to, perform]
  rcases n.release l now d with e | ⟨_ | v', n''⟩ <;> simp

/-- A vehicle that is evicted leaves its link. -/
theorem serve_evict_eq_left_iff {v : Vehicle} :
    n.serve l now .evict = (.left (some v), n') ↔ n.evict l = .ok (some v, n') := by
  rw [serve_eq, LinkCall.to, perform]
  rcases n.evict l with e | ⟨_ | v', n''⟩ <;> simp

omit [FlowNumber α] in
/-- There is room as long as the queue is shorter than what fits. -/
theorem Stored.hasSpace_iff {q : LinkQueue α} (h : n.Stored) (hq : n.link? l = some q) :
    q.hasSpace = true ↔ q.queue.length < q.storage.capacity := by
  rw [LinkQueue.hasSpace, Storage.hasSpace_iff, (h l q hq).occupied]

omit [FlowNumber α] in
/-- Entry and room go together. -/
theorem Stored.dropHead_eq {q : LinkQueue α} {e : QueueEntry} {es : List QueueEntry}
    (h : n.Stored) (hq : n.link? l = some q) (hqueue : q.queue = e :: es) :
    q.storage.occupied = es.length + 1 ∧
      q.dropHead = { q with queue := es, storage := { q.storage with occupied := es.length } } := by
  have hoccupied := (h l q hq).occupied
  rw [hqueue, List.length_cons] at hoccupied
  refine ⟨hoccupied, ?_⟩
  rw [LinkQueue.dropHead, hqueue, Storage.release, hoccupied]
  rfl

/-- The way is clear off the network, and onto a known link that is not full. -/
def Clear (n : QueueNetwork α) : Downstream → Prop
  | .exit => True
  | .link m => ∃ q, n.link? m = some q ∧ q.queue.length < q.storage.capacity

omit [FlowNumber α] in
/-- There is room ahead just when the way is clear. -/
theorem Stored.downstreamRoom_iff (h : n.Stored) {d : Downstream} :
    n.downstreamRoom d = .ok true ↔ n.Clear d := by
  cases d with
  | exit => exact iff_of_true rfl trivial
  | link m =>
      rw [downstreamRoom_link_eq_true_iff, Clear]
      exact exists_congr fun q => and_congr_right fun hq => h.hasSpace_iff hq

/-- What calls do that are made to one link of a network. -/
structure Local (n : QueueNetwork α) (l : LinkId) (now : Time) : Prop where
  /-- No other link changes, not even the one downstream. -/
  frame : ∀ c, n.Frame l (n.serve l now c).2
  refused : ∀ c e, (n.serve l now c).1 = .refused e → (n.serve l now c).2 = n
  nobody : ∀ c, (n.serve l now c).1 = .left none → (n.serve l now c).2 = n
  /-- A link has no storage left exactly if its queue is as long as its storage is large. -/
  full : ∀ v m, (n.serve l now (.enqueue v)).1 = .refused (.storageExhausted m) ↔
    m = l ∧ ∃ q, n.link? l = some q ∧ q.queue.length = q.storage.capacity
  /-- The head is released exactly if it is due, the flow allows it and the way is clear.  Its
  entry, its room and one unit of flow go. -/
  release : ∀ d v n', n.serve l now (.release d) = (.left (some v), n') ↔
    ∃ q e es, n.link? l = some q ∧ q.queue = e :: es ∧ e.earliestExit ≤ now ∧
      q.flow.isOpen = true ∧ n.Clear d ∧ v = e.vehicle ∧ q.storage.occupied = es.length + 1 ∧
      n' = n.set l
        { q with
          queue := es
          storage := { q.storage with occupied := es.length }
          flow := q.flow.spend }
  /-- The head of a known link is evicted in any case.  Its entry and its room go. -/
  evict : ∀ v n', n.serve l now .evict = (.left (some v), n') ↔
    ∃ q e es, n.link? l = some q ∧ q.queue = e :: es ∧ v = e.vehicle ∧
      q.storage.occupied = es.length + 1 ∧
      n' = n.set l { q with queue := es, storage := { q.storage with occupied := es.length } }

/-- Calls to one link do so wherever the storages hold the vehicles of the queues. -/
theorem Stored.isLocal (h : n.Stored) (l : LinkId) (now : Time) : n.Local l now where
  frame c := (n.serve_effect l now c).frame (c.link?_to l now)
  refused c e he := by
    have heffect := n.serve_effect l now c
    rw [he] at heffect
    exact heffect.eq_of_refused
  nobody c hc := by
    have heffect := n.serve_effect l now c
    rw [hc] at heffect
    exact heffect.eq_of_left_none
  full v m := by
    rw [serve_enqueue_eq_exhausted_iff]
    refine and_congr_right fun _ => exists_congr fun q => and_congr_right fun hq => ?_
    have hfits := (h l q hq).fits
    rw [← Bool.not_eq_true, h.hasSpace_iff hq]
    omega
  release d v n' := by
    rw [serve_release_eq_left_iff, release_eq_some_iff, h.downstreamRoom_iff]
    refine exists_congr fun q => exists_congr fun e => exists_congr fun es =>
      and_congr_right fun hq => and_congr_right fun hqueue => ?_
    rcases h.dropHead_eq hq hqueue with ⟨hoccupied, hdrop⟩
    simp only [hdrop, hoccupied, true_and]
  evict v n' := by
    rw [serve_evict_eq_left_iff, evict_eq_some_iff]
    refine exists_congr fun q => exists_congr fun e => exists_congr fun es =>
      and_congr_right fun hq => and_congr_right fun hqueue => ?_
    rcases h.dropHead_eq hq hqueue with ⟨hoccupied, hdrop⟩
    simp only [hdrop, hoccupied, true_and]

/-- Whatever has happened to the queues of a network, a call to one of its links keeps to this
link; it changes nothing if it is refused or finds nobody to take off; and it takes the head off
under the conditions of the call and with all that belongs to it. -/
theorem calls_keep_to_their_link (bucket : Link → FlowBucket α) (net : Network)
    (storageFactor : Float) (before : List QueueCall) (l : LinkId) (now : Time) :
    (QueueHistory.of (withBuckets bucket net storageFactor) before).queues.Local l now :=
  (stored_of_calls bucket net storageFactor before).isLocal l now

/-- On a road with room for one a vehicle stands in its own way, but not in the way off the
network. -/
example :
    ((QueueHistory.of (ofNetwork Commuter.net {}) rush).queues.serve ⟨0⟩ (.ofSecs 10)
        (.release (.link ⟨0⟩))).2.vehicleCount ⟨0⟩ = 1 ∧
      ((QueueHistory.of (ofNetwork Commuter.net {}) rush).queues.serve ⟨0⟩ (.ofSecs 10)
        (.release .exit)).2.vehicleCount ⟨0⟩ = 0 := by
  decide +kernel

end QueueNetwork

end TrafficQueue
