import TrafficQueue.Network.Basic
import TrafficQueue.Queue.Link

/-!
# The queues of a network

One queue for every link.  A vehicle is handed from one link to the next only if its exit time has
come, the flow of its link allows it and the next link has room; otherwise it stays at the head.

Main result: `QueueNetwork.link_set_of_ne`, an operation that replaces the queue of one link keeps
all others.
-/

namespace TrafficQueue

/-- Where a released vehicle goes. -/
inductive Downstream where
  | link (l : LinkId)
  /-- Off the network, which always has room. -/
  | exit
deriving DecidableEq

/-- How a vehicle starts its trip. -/
inductive Departure where
  /-- It is on the link and leaves it no earlier than at the given time. -/
  | entered (earliestExit : Time)
  | waiting
deriving DecidableEq

/-- Why a call to the queues is refused. -/
inductive QueueError where
  | unknownLink (link : LinkId)
  | storageExhausted (link : LinkId)
deriving DecidableEq

/-- What is told of a refused call. -/
def QueueError.message : QueueError → String
  | .unknownLink link => "link " ++ link.text ++ " is not part of the queue network"
  | .storageExhausted link => "link " ++ link.text ++ " has no storage left"

/-- The queues of all links. -/
structure QueueNetwork (α : Type) where
  links : Array (LinkQueue α)

namespace QueueNetwork

variable {α : Type}

/-- Without links there are no queues. -/
instance : Inhabited (QueueNetwork α) := ⟨⟨#[]⟩⟩

/-- The empty queue of a link with a full bucket. -/
def emptyQueue (bucket : Link → FlowBucket α) (storageFactor : Float) (entry : Link × Nat) :
    LinkQueue α :=
  { id := ⟨entry.2⟩
    freeFlow := entry.1.freeFlow
    flow := bucket entry.1
    storage := .ofVehicles entry.1.storage storageFactor }

/-- Empty queues for all links of a network, with the given buckets. -/
def withBuckets (bucket : Link → FlowBucket α) (net : Network) (storageFactor : Float) :
    QueueNetwork α :=
  ⟨(net.links.toList.zipIdx.map (emptyQueue bucket storageFactor)).toArray⟩

/-- Empty queues for all links of a network, with the capacities scaled by a configuration. -/
def ofNetwork (net : Network) (c : Config) : QueueNetwork Float :=
  withBuckets (fun l => .full (FlowBucket.share l.flow c.stepSecs c.flowFactor)) net c.storageFactor

/-- The queue of a link. -/
def link? (n : QueueNetwork α) (l : LinkId) : Option (LinkQueue α) := n.links[l.index]?

/-- The network with another queue for a link. -/
def set (n : QueueNetwork α) (l : LinkId) (q : LinkQueue α) : QueueNetwork α :=
  ⟨n.links.setIfInBounds l.index q⟩

/-- Who is to leave a link next. -/
def head? (n : QueueNetwork α) (l : LinkId) : Option QueueEntry := (n.link? l).bind LinkQueue.head?

/-- Whether there is room on a link; on one that is not there is none. -/
def hasSpace (n : QueueNetwork α) (l : LinkId) : Bool := (n.link? l).any LinkQueue.hasSpace

/-- Vehicles in the queue of a link. -/
def vehicleCount (n : QueueNetwork α) (l : LinkId) : Nat :=
  ((n.link? l).map fun q => q.queue.length).getD 0

/-- Vehicles in all queues and beside them. -/
def traffic (n : QueueNetwork α) : Nat :=
  n.links.foldl (fun sum q => sum + (q.queue.length + q.waiting.length)) 0

/-- Puts a vehicle at the back of a link, and gives its earliest exit. -/
def enqueue (n : QueueNetwork α) (v : Vehicle) (l : LinkId) (now : Time) :
    Except QueueError (Time × QueueNetwork α) :=
  match n.link? l with
  | none => .error (.unknownLink l)
  | some q =>
    if q.hasSpace then .ok ((q.entry v now).earliestExit, n.set l (q.push now v))
    else .error (.storageExhausted l)

/-- Starts a vehicle on its link of departure.  It enters if the link has room and nobody waits
ahead of it. -/
def depart (n : QueueNetwork α) (v : Vehicle) (l : LinkId) (now : Time) :
    Except QueueError (Departure × QueueNetwork α) :=
  match n.link? l with
  | none => .error (.unknownLink l)
  | some q =>
    if q.hasSpace ∧ q.waiting = [] then
      .ok (.entered (q.entry v now).earliestExit, n.set l (q.push now v))
    else .ok (.waiting, n.set l (q.wait v))

/-- Drops the head of a link without spending flow. -/
def evict (n : QueueNetwork α) (l : LinkId) : Except QueueError (Option Vehicle × QueueNetwork α) :=
  match n.link? l with
  | none => .error (.unknownLink l)
  | some q =>
    let (v, q) := q.evict
    .ok (v, n.set l q)

/-- The number of vehicles that the next update admits. -/
def admissions (n : QueueNetwork α) : Nat :=
  n.links.foldl (fun sum q => sum + q.admissible.length) 0

/-- Whether the way downstream has room. -/
def downstreamRoom (n : QueueNetwork α) : Downstream → Except QueueError Bool
  | .exit => .ok true
  | .link l =>
    match n.link? l with
    | none => .error (.unknownLink l)
    | some q => .ok q.hasSpace

variable [FlowNumber α]

/-- The start of a step on every link. -/
def update (n : QueueNetwork α) (now : Time) : QueueNetwork α :=
  ⟨n.links.map (LinkQueue.update now)⟩

/-- Releases the head of a link if its exit time has come, the flow allows it and the way downstream
has room. -/
def release (n : QueueNetwork α) (l : LinkId) (now : Time) (d : Downstream) :
    Except QueueError (Option Vehicle × QueueNetwork α) :=
  match n.link? l with
  | none => .error (.unknownLink l)
  | some q =>
    if q.headReady now then
      match n.downstreamRoom d with
      | .error e => .error e
      | .ok false => .ok (none, n)
      | .ok true =>
        let (v, q) := q.release
        .ok (v, n.set l q)
    else .ok (none, n)

/-- Releases heads of a link, so many at most, until one stays. -/
def releaseUpTo (l : LinkId) (now : Time) (d : Downstream) :
    Nat → QueueNetwork α → Except QueueError (List Vehicle × QueueNetwork α)
  | 0, n => .ok ([], n)
  | most + 1, n =>
    match n.release l now d with
    | .error e => .error e
    | .ok (none, n) => .ok ([], n)
    | .ok (some v, n) => (releaseUpTo l now d most n).map fun (vs, n) => (v :: vs, n)

/-- Releases heads of a link until one stays. -/
def releaseAll (n : QueueNetwork α) (l : LinkId) (now : Time) (d : Downstream) :
    Except QueueError (List Vehicle × QueueNetwork α) :=
  releaseUpTo l now d (n.vehicleCount l + 1) n

omit [FlowNumber α]

/-- What is put in the place of a queue is found there. -/
theorem link_set_self {n : QueueNetwork α} {l : LinkId} {q q' : LinkQueue α}
    (h : n.link? l = some q') : (n.set l q).link? l = some q := by
  have hlt := (Array.getElem?_eq_some_iff.1 h).1
  simp [link?, set, hlt]

/-- Replacing the queue of one link keeps the others. -/
theorem link_set_of_ne {n : QueueNetwork α} {l m : LinkId} {q : LinkQueue α} (h : l ≠ m) :
    (n.set l q).link? m = n.link? m := by
  have hne : l.index ≠ m.index := fun he => h (Ident.ext he)
  simp [link?, set, hne]

end QueueNetwork

end TrafficQueue
