import Mathlib.Data.List.Forall2
import TrafficQueue.Proofs.Network.Adjacency
import TrafficQueue.Proofs.Queue.Calls

/-!
# Vehicles take turns

Every link is first in, first out: who has left it, followed by who stands in its
queue, are those who entered it, in the order in which they entered.  Beside the
queue the same holds of departures: who has begun a trip, followed by who still
waits, are those who were given to depart.  An entry keeps the time at which it was
made, and its exit time lies the free-flow time of the link after that.

Main results:

- Definition `LinkQueue.InTurn`: the order on a link.
- Theorem `LinkChange.inTurn`: every change keeps it.
- Theorem `QueueNetwork.first_in_first_out`: it holds after any calls.
-/

namespace TrafficQueue

/-- The entry in the queue that an entrance has led to. -/
structure Entrance.Matches (freeFlow : Nat) (x : Entrance) (e : QueueEntry) : Prop where
  vehicle : e.vehicle = x.vehicle
  enqueued : e.enqueued = x.time
  exit : e.earliestExit = e.enqueued.offset freeFlow
  answer : ∀ t, x.answer = some t → t = e.earliestExit

/-- Matching entries hold the vehicles that entered. -/
theorem Entrance.vehicles_eq {freeFlow : Nat} {xs : List Entrance} {es : List QueueEntry}
    (h : List.Forall₂ (Entrance.Matches freeFlow) xs es) :
    es.map QueueEntry.vehicle = xs.map Entrance.vehicle := by
  induction h with
  | nil => rfl
  | cons hmatch _ ih => rw [List.map_cons, List.map_cons, ih, hmatch.vehicle]

namespace LinkQueue

variable {α : Type}

/-- Nobody has passed anybody: neither in the queue nor beside it. -/
structure InTurn (q : LinkQueue α) (h : LinkLedger) : Prop where
  /-- Who has left and who stands in the queue are those who entered. -/
  order : h.left ++ q.vehicles = h.entered.map Entrance.vehicle
  /-- The queue consists of the entrances of those who have not left. -/
  entries : List.Forall₂ (Entrance.Matches q.freeFlow) (h.entered.drop h.left.length) q.queue
  /-- Who has begun a trip and who waits are those who were given to depart. -/
  departures : h.started ++ q.waiting = h.departing

/-! ## Admission -/

/-- Vehicles are put at the back of the queue, in order. -/
theorem queue_foldl_push (now : Time) (vs : List Vehicle) (q : LinkQueue α) :
    (vs.foldl (push now) q).queue = q.queue ++ vs.map fun v => q.entry v now := by
  induction vs generalizing q with
  | nil => simp
  | cons v vs ih =>
      rw [List.foldl_cons, ih, queue_push, List.append_assoc]
      rfl

theorem freeFlow_foldl_push (now : Time) (vs : List Vehicle) (q : LinkQueue α) :
    (vs.foldl (push now) q).freeFlow = q.freeFlow := by
  induction vs generalizing q with
  | nil => rfl
  | cons v vs ih => rw [List.foldl_cons, ih]; rfl

theorem flow_foldl_push (now : Time) (vs : List Vehicle) (q : LinkQueue α) :
    (vs.foldl (push now) q).flow = q.flow := by
  induction vs generalizing q with
  | nil => rfl
  | cons v vs ih => rw [List.foldl_cons, ih]; rfl

/-- Those who are admitted come to the back of the queue, in order. -/
theorem queue_admitWaiting (q : LinkQueue α) (now : Time) :
    (q.admitWaiting now).queue = q.queue ++ q.admissible.map fun v => q.entry v now := by
  unfold admitWaiting
  split
  · rename_i hwaiting
    simp [admissible, hwaiting]
  · exact queue_foldl_push now _ _

theorem freeFlow_admitWaiting (q : LinkQueue α) (now : Time) :
    (q.admitWaiting now).freeFlow = q.freeFlow := by
  unfold admitWaiting
  split
  · rfl
  · exact freeFlow_foldl_push now _ _

variable [FlowNumber α]

/-- A step begins on a link: those who are admitted enter behind the queue. -/
theorem queue_update (q : LinkQueue α) (now : Time) :
    (q.update now).queue = q.queue ++ q.admissible.map fun v => q.entry v now :=
  queue_admitWaiting { q with flow := q.flow.refill } now

/-- The start of a step does not change the free-flow time. -/
theorem freeFlow_update (q : LinkQueue α) (now : Time) :
    (q.update now).freeFlow = q.freeFlow :=
  freeFlow_admitWaiting { q with flow := q.flow.refill } now

/-- Without anybody waiting a step begins with the flow only. -/
theorem update_of_nobody {q : LinkQueue α} (h : q.waiting = []) (now : Time) :
    q.update now = { q with flow := q.flow.refill } := by
  rcases q with ⟨id, freeFlow, flow, storage, queue, waiting⟩
  simp only at h
  subst h
  rfl

/-- Admission costs no flow. -/
theorem flow_update (q : LinkQueue α) (now : Time) : (q.update now).flow = q.flow.refill := by
  unfold update admitWaiting
  split
  · rfl
  · exact flow_foldl_push now _ _

/-- Those who are admitted come off the front of the waiting list. -/
theorem admissible_append_waiting (q : LinkQueue α) (now : Time) :
    q.admissible ++ (q.update now).waiting = q.waiting :=
  (vehicles_admitWaiting { q with flow := q.flow.refill } now).2

/-- At the start of a step those who may be admitted stop waiting. -/
theorem take_waiting_update (q : LinkQueue α) (now : Time) :
    q.waiting.take (q.waiting.length - (q.update now).waiting.length) = q.admissible := by
  have happend := q.admissible_append_waiting now
  have hlength := congrArg List.length happend
  rw [List.length_append] at hlength
  have hcount : q.waiting.length - (q.update now).waiting.length = q.admissible.length := by
    omega
  rw [hcount]
  nth_rewrite 1 [← happend]
  exact List.take_left

end LinkQueue

/-! ## Changes keep the order -/

section Changes

variable {α : Type} {q : LinkQueue α} {h : LinkLedger}

namespace LinkQueue.InTurn

/-- No more have left than have entered. -/
theorem left_le (hq : q.InTurn h) : h.left.length ≤ h.entered.length := by
  have hlength := congrArg List.length hq.order
  rw [List.length_append, List.length_map] at hlength
  omega

/-- Entries that match their entrances join the queue. -/
theorem append (hq : q.InTurn h) {q' : LinkQueue α} {xs : List Entrance} {es : List QueueEntry}
    (hentered : List.Forall₂ (Entrance.Matches q.freeFlow) xs es)
    (hqueue : q'.queue = q.queue ++ es) (hfree : q'.freeFlow = q.freeFlow) :
    h.left ++ q'.vehicles = (h.entered ++ xs).map Entrance.vehicle ∧
      List.Forall₂ (Entrance.Matches q'.freeFlow) ((h.entered ++ xs).drop h.left.length)
        q'.queue := by
  constructor
  · rw [LinkQueue.vehicles, hqueue, List.map_append, List.map_append,
      Entrance.vehicles_eq hentered, ← hq.order, List.append_assoc]
    rfl
  · rw [List.drop_append_of_le_length hq.left_le, hqueue, hfree]
    exact List.rel_append hq.entries hentered

/-- Who enters comes to the back of the queue. -/
theorem enter (hq : q.InTurn h) (v : Vehicle) (now : Time) :
    (q.push now v).InTurn (h.enter ⟨v, now, some (q.entry v now).earliestExit⟩) := by
  have hmatch : Entrance.Matches q.freeFlow ⟨v, now, some (q.entry v now).earliestExit⟩
      (q.entry v now) :=
    ⟨rfl, rfl, rfl, fun t ht => (Option.some.inj ht).symm⟩
  rcases hq.append (.cons hmatch .nil) (queue_push q v now) rfl with ⟨horder, hentries⟩
  exact ⟨horder, hentries, hq.departures⟩

/-- Who departs at once has nobody waiting ahead. -/
theorem depart (hq : q.InTurn h) (hwaiting : q.waiting = []) (v : Vehicle) :
    q.InTurn ((h.depart v).start [v]) := by
  refine ⟨hq.order, hq.entries, ?_⟩
  have hdepartures := hq.departures
  rw [hwaiting, List.append_nil] at hdepartures
  change h.started ++ [v] ++ q.waiting = h.departing ++ [v]
  rw [hwaiting, List.append_nil, hdepartures]

/-- Who departs and waits comes to the back of those who wait. -/
theorem wait (hq : q.InTurn h) (v : Vehicle) : (q.wait v).InTurn (h.depart v) := by
  refine ⟨hq.order, hq.entries, ?_⟩
  change h.started ++ (q.waiting ++ [v]) = h.departing ++ [v]
  rw [← List.append_assoc, hq.departures]

/-- The head leaves before all others. -/
theorem dropHead {e : QueueEntry} {es : List QueueEntry} (hq : q.InTurn h)
    (hqueue : q.queue = e :: es) : q.dropHead.InTurn (h.leave e.vehicle) := by
  refine ⟨?_, ?_, hq.departures⟩
  · have horder := hq.order
    rw [LinkQueue.vehicles, hqueue] at horder
    change h.left ++ [e.vehicle] ++ q.queue.tail.map QueueEntry.vehicle = _
    rw [hqueue, List.append_assoc]
    exact horder
  · have hentries := List.forall₂_drop 1 hq.entries
    rw [List.drop_drop, List.drop_one] at hentries
    change List.Forall₂ _ (h.entered.drop (h.left ++ [e.vehicle]).length) q.queue.tail
    rw [List.length_append]
    exact hentries

variable [FlowNumber α]

/-- Who waited longest is admitted first. -/
theorem update (hq : q.InTurn h) (now : Time) :
    (q.update now).InTurn (h.enterAll q.admissible now) := by
  have hmatches : List.Forall₂ (Entrance.Matches q.freeFlow)
      (q.admissible.map fun v => ⟨v, now, none⟩) (q.admissible.map fun v => q.entry v now) := by
    rw [List.forall₂_map_left_iff, List.forall₂_map_right_iff, List.forall₂_same]
    exact fun v _ => ⟨rfl, rfl, rfl, fun t ht => by cases ht⟩
  rcases hq.append hmatches (q.queue_update now) (q.freeFlow_update now) with ⟨horder, hentries⟩
  refine ⟨horder, hentries, ?_⟩
  change h.started ++ q.admissible ++ (q.update now).waiting = h.departing
  rw [List.append_assoc, q.admissible_append_waiting, hq.departures]

end LinkQueue.InTurn

/-- Every change keeps the order. -/
theorem LinkChange.inTurn [FlowNumber α] {q' : LinkQueue α} {h' : LinkLedger}
    (hchange : LinkChange q h q' h') (hq : q.InTurn h) : q'.InTurn h' := by
  cases hchange with
  | idle => exact hq
  | enter hspace => exact hq.enter _ _
  | depart hspace hwaiting => exact (hq.depart hwaiting _).enter _ _
  | wait hfull => exact hq.wait _
  | update =>
      rw [LinkQueue.take_waiting_update]
      exact hq.update _
  | release hqueue hdue hopen =>
      have hdrop := hq.dropHead hqueue
      exact ⟨hdrop.order, hdrop.entries, hdrop.departures⟩
  | evict hqueue => exact hq.dropHead hqueue

/-- No call changes the free-flow time of a link. -/
theorem LinkChange.freeFlow_eq [FlowNumber α] {q' : LinkQueue α} {h' : LinkLedger}
    (hchange : LinkChange q h q' h') : q'.freeFlow = q.freeFlow := by
  cases hchange with
  | update => exact q.freeFlow_update _
  | idle | enter | depart | wait | release | evict => rfl

end Changes

/-! ## After any calls -/

namespace QueueNetwork

/-- The queues of a network belong to its links. -/
theorem link?_withBuckets {α : Type} (bucket : Link → FlowBucket α) (net : Network)
    (storageFactor : Float) (l : LinkId) :
    (withBuckets bucket net storageFactor).link? l =
      (net.link? l).map fun link => emptyQueue bucket storageFactor (link, l.index) := by
  simp only [withBuckets, link?, Network.link?, List.getElem?_toArray, List.getElem?_map,
    List.getElem?_zipIdx, Nat.zero_add, Array.getElem?_toList, Option.map_map]
  rfl

/-- After any calls with any arguments every link of the network is first in, first out, and its
entries say when they were made and when they are due. -/
theorem first_in_first_out (net : Network) (c : Config) (calls : List QueueCall) {l : LinkId}
    {link : Link} (hlink : net.link? l = some link) :
    ∃ q, (QueueHistory.of (ofNetwork net c) calls).queues.link? l = some q ∧
      q.freeFlow = link.freeFlow ∧
      q.InTurn ((QueueHistory.of (ofNetwork net c) calls).ledger l) := by
  have hstart : (ofNetwork net c).link? l = some (emptyQueue
      (fun l => .full (FlowBucket.share l.flow c.stepSecs c.flowFactor)) c.storageFactor
        (link, l.index)) := by
    rw [ofNetwork, link?_withBuckets, hlink]
    rfl
  refine QueueHistory.invariant
    (P := fun q h => q.freeFlow = link.freeFlow ∧ q.InTurn h) hstart ?_ ?_ calls
  · exact ⟨rfl, rfl, .nil, rfl⟩
  · rintro q h q' h' ⟨hfree, hturn⟩ hchange
    exact ⟨hchange.freeFlow_eq.trans hfree, hchange.inTurn hturn⟩

/-- Two vehicles depart on a road with room for one; the first is evicted and the second enters. -/
def rush : List QueueCall :=
  [.depart ⟨⟨0⟩, ⟨0⟩⟩ ⟨0⟩ .zero, .depart ⟨⟨1⟩, ⟨1⟩⟩ ⟨0⟩ .zero, .evict ⟨0⟩, .update .zero]

/-- In the rush nobody passes anybody on the road there. -/
theorem first_in_first_out_rush :
    Commuter.net.link? ⟨0⟩ = some (Commuter.road "there" 0 1).settle ∧
      ∃ q, (QueueHistory.of (ofNetwork Commuter.net {}) rush).queues.link? ⟨0⟩ = some q ∧
        q.freeFlow = (Commuter.road "there" 0 1).settle.freeFlow ∧
        q.InTurn ((QueueHistory.of (ofNetwork Commuter.net {}) rush).ledger ⟨0⟩) :=
  ⟨rfl, first_in_first_out Commuter.net {} rush rfl⟩

example : ((QueueHistory.of (ofNetwork Commuter.net {}) rush).ledger ⟨0⟩).left =
      [⟨⟨0⟩, ⟨0⟩⟩] ∧
    ((QueueHistory.of (ofNetwork Commuter.net {}) rush).ledger ⟨0⟩).started =
      [⟨⟨0⟩, ⟨0⟩⟩, ⟨⟨1⟩, ⟨1⟩⟩] := by
  decide +kernel

end QueueNetwork

end TrafficQueue
