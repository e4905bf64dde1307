import TrafficQueue.Proofs.Queue.Operations

/-!
# Storage of link queues

The storage of a link counts the vehicles of its queue.  The count is kept apart
from the queue, so each operation has to move both together; it never passes the
capacity, and a queue with a vehicle in it never has an empty storage.

Main results:

- Definition `LinkQueue.Stored`: the count is the length of the queue and fits.
- Theorem `LinkQueue.Stored.safe`: what such a queue is asked to do, it can do.
- Theorems `QueueNetwork.Stored.enqueue`, `depart`, `release`, `evict` and
  `update`: every operation keeps all queues of a network like this.
-/

namespace TrafficQueue

namespace LinkQueue

variable {α : Type} {q : LinkQueue α} {now : Time}

/-- The storage holds the vehicles of the queue, and no more than fit. -/
structure Stored (q : LinkQueue α) : Prop where
  occupied : q.storage.occupied = q.queue.length
  fits : q.queue.length ≤ q.storage.capacity

/-- No vehicle leaves an empty storage, and no vehicle is admitted to a full one. -/
structure Safe (q : LinkQueue α) : Prop where
  leave : q.queue ≠ [] → 0 < q.storage.occupied
  admission : ∀ now vs v rest, q.admissible = vs ++ v :: rest →
    (vs.foldl (push now) { q with waiting := q.waiting.drop q.storage.room }).hasSpace = true

/-- Vehicles that enter one after the other add up in the storage. -/
theorem storage_foldl_push (now : Time) (vs : List Vehicle) (q : LinkQueue α) :
    (vs.foldl (push now) q).storage =
      { q.storage with occupied := q.storage.occupied + vs.length } := by
  induction vs generalizing q with
  | nil => rfl
  | cons v vs ih =>
      rw [List.foldl_cons, ih]
      simp only [push, Storage.occupy, List.length_cons]
      congr 1
      omega

/-- The queue is longer by the vehicles that are put into it. -/
theorem length_foldl_push (now : Time) (vs : List Vehicle) (q : LinkQueue α) :
    (vs.foldl (push now) q).queue.length = q.queue.length + vs.length := by
  have h := congrArg List.length (vehicles_foldl_push q vs now).1
  simpa [vehicles] using h

/-- No more are admitted than there is room for. -/
theorem length_admissible_le (q : LinkQueue α) :
    q.admissible.length ≤ q.storage.capacity - q.storage.occupied := by
  simp only [admissible, List.length_take, Storage.room]
  omega

namespace Stored

/-- A vehicle is put into the queue if there is room. -/
theorem push (h : q.Stored) (hs : q.hasSpace = true) (v : Vehicle) (now : Time) :
    (push now q v).Stored := by
  have hlt := Storage.hasSpace_iff.1 hs
  have ho := h.occupied
  constructor
  · simp [LinkQueue.push, ho]
  · simp only [LinkQueue.push, Storage.capacity_occupy, List.length_append,
      List.length_singleton]
    omega

/-- A vehicle that waits takes no room. -/
theorem wait (h : q.Stored) (v : Vehicle) : (q.wait v).Stored :=
  ⟨h.occupied, h.fits⟩

/-- The room of a vehicle that leaves gets free. -/
theorem dropHead (h : q.Stored) : q.dropHead.Stored := by
  have ho := h.occupied
  have hf := h.fits
  constructor
  · simp [ho]
  · simp only [dropHead_queue, dropHead_storage, Storage.capacity_release, List.length_tail]
    omega

/-- Admission takes no more vehicles than there is room for. -/
theorem admitWaiting (h : q.Stored) (now : Time) : (q.admitWaiting now).Stored := by
  unfold LinkQueue.admitWaiting
  split
  · exact h
  · have ho := h.occupied
    have hf := h.fits
    have hle := q.length_admissible_le
    constructor
    · rw [storage_foldl_push, length_foldl_push]
      simp only []
      omega
    · rw [storage_foldl_push, length_foldl_push]
      simp only []
      omega

/-- Those who are admitted at the start of a step fit. -/
theorem update [FlowNumber α] (h : q.Stored) (now : Time) : (update now q).Stored := by
  have hrefill : LinkQueue.Stored { q with flow := q.flow.refill } := ⟨h.occupied, h.fits⟩
  exact hrefill.admitWaiting now

/-- What such a queue is asked to do, it can do. -/
theorem safe (h : q.Stored) : q.Safe := by
  constructor
  · intro hne
    rw [h.occupied]
    exact List.length_pos_iff.2 hne
  · intro now vs v rest hvs
    have hle := q.length_admissible_le
    rw [hvs] at hle
    simp only [List.length_append, List.length_cons] at hle
    rw [hasSpace, Storage.hasSpace_iff, storage_foldl_push]
    simp only []
    omega

end Stored

end LinkQueue

namespace QueueNetwork

variable {α : Type} {n n' : QueueNetwork α} {l : LinkId} {v : Vehicle} {now : Time}

/-- The storage of every link holds the vehicles of its queue. -/
def Stored (n : QueueNetwork α) : Prop :=
  ∀ l q, n.link? l = some q → q.Stored

namespace Stored

/-- A link may be set if its storage holds the vehicles of its queue. -/
theorem set {q q₀ : LinkQueue α} (h : n.Stored) (hq₀ : n.link? l = some q₀) (hq : q.Stored) :
    (n.set l q).Stored := by
  intro m r hr
  rcases link?_set_cases hq₀ hr with ⟨-, rfl⟩ | hr
  · exact hq
  · exact h m r hr

theorem enqueue {exit : Time} (h : n.Stored) (hn : n.enqueue v l now = .ok (exit, n')) :
    n'.Stored := by
  rcases enqueue_eq_ok_iff.1 hn with ⟨q, hq, hs, -, rfl⟩
  exact h.set hq ((h l q hq).push hs v now)

theorem depart {d : Departure} (h : n.Stored) (hn : n.depart v l now = .ok (d, n')) :
    n'.Stored := by
  rcases depart_eq_ok_iff.1 hn with ⟨q, hq, ⟨hs, -, -, rfl⟩ | ⟨-, -, rfl⟩⟩
  · exact h.set hq ((h l q hq).push hs v now)
  · exact h.set hq ((h l q hq).wait v)

theorem evict (h : n.Stored) (hn : n.evict l = .ok (some v, n')) : n'.Stored := by
  rcases evict_eq_some_iff.1 hn with ⟨q, e, es, hq, -, -, rfl⟩
  exact h.set hq (h l q hq).dropHead

variable [FlowNumber α]

theorem release {d : Downstream} (h : n.Stored)
    (hn : n.release l now d = .ok (some v, n')) : n'.Stored := by
  rcases release_eq_some_iff.1 hn with ⟨q, e, es, hq, -, -, -, -, -, rfl⟩
  have hdrop := (h l q hq).dropHead
  exact h.set hq ⟨hdrop.occupied, hdrop.fits⟩

/-- The storage holds the vehicles after the start of a step. -/
theorem update (h : n.Stored) (now : Time) : (n.update now).Stored := by
  intro l r hr
  rw [link?_update] at hr
  rcases Option.map_eq_some_iff.1 hr with ⟨q, hq, rfl⟩
  exact (h l q hq).update now

end Stored

/-- Empty queues hold nothing and count nothing. -/
theorem stored_withBuckets (bucket : Link → FlowBucket α) (net : Network)
    (storageFactor : Float) : (withBuckets bucket net storageFactor).Stored := by
  intro l q hq
  have hmem := Array.mem_of_getElem? hq
  simp only [withBuckets, List.mem_toArray, List.mem_map] at hmem
  rcases hmem with ⟨entry, -, rfl⟩
  exact ⟨rfl, Nat.zero_le _⟩

end QueueNetwork

end TrafficQueue
