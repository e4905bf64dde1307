import TrafficQueue.Proofs.Queue.Presence
import TrafficQueue.Proofs.Queue.Turns

/-!
# Time spent on a link

An entry of a queue is made when its vehicle enters, and is due the free-flow time of
the link after that.  So a vehicle that comes onto a link, and is let into its queue
then or later, is not due before the free-flow time has passed, whatever else happens
to the queues.

Main results:

- Definition `QueueNetwork.HasFreeFlow`: the queues have the free-flow times of a network.
- Definition `QueueNetwork.NotBefore`: a vehicle is not due before a free-flow time has
  passed.
- Theorems `QueueNetwork.NotBefore.enqueue`, `depart`, `release`, `evict` and `update`:
  every operation keeps it.
- Theorem `QueueNetwork.NotBefore.offset_le`: who is due has spent the free-flow time.
-/

namespace TrafficQueue

namespace QueueNetwork

variable {α : Type} {n n' : QueueNetwork α} {l m : LinkId} {v w : Vehicle} {t now : Time}

/-- Every queue has the free-flow time of its link. -/
def HasFreeFlow (n : QueueNetwork α) (net : Network) : Prop :=
  ∀ l q, n.link? l = some q → ∃ link, net.link? l = some link ∧ q.freeFlow = link.freeFlow

/-- Where the vehicle stands in the queue of the link, it is not due before the free-flow time of
the link after the given time. -/
def NotBefore (n : QueueNetwork α) (v : Vehicle) (l : LinkId) (t : Time) : Prop :=
  ∀ q, n.link? l = some q → ∀ e ∈ q.queue, e.vehicle = v → t.offset q.freeFlow ≤ e.earliestExit

/-- The vehicle stands in the queue of the link and its exit time has come. -/
def Due (n : QueueNetwork α) (v : Vehicle) (l : LinkId) (now : Time) : Prop :=
  ∃ q e, n.link? l = some q ∧ e ∈ q.queue ∧ e.vehicle = v ∧ e.earliestExit ≤ now

/-- Who is due has spent the free-flow time. -/
theorem NotBefore.offset_le (h : n.NotBefore v l t) (hdue : n.Due v l now) :
    ∃ q, n.link? l = some q ∧ t.offset q.freeFlow ≤ now := by
  rcases hdue with ⟨q, e, hq, he, hv, hexit⟩
  exact ⟨q, hq, Time.le_trans (h q hq e he hv) hexit⟩

/-- A vehicle that is not present is not due at all. -/
theorem notBefore_of_absent (h : n.occurrences v l = 0) (t : Time) : n.NotBefore v l t := by
  intro q hq e he hv
  rw [occurrences_of_link hq, List.count_eq_zero] at h
  exact (h (List.mem_append_left _ (hv ▸ List.mem_map_of_mem he))).elim

/-! ## Operations -/

namespace NotBefore

/-- The queue of a link may lose entries and get later ones. -/
theorem set {q q₀ : LinkQueue α} (h : n.NotBefore v l t) (hq₀ : n.link? m = some q₀)
    (hfree : q.freeFlow = q₀.freeFlow)
    (hq : ∀ e ∈ q.queue, e ∈ q₀.queue ∨ t.offset q₀.freeFlow ≤ e.earliestExit) :
    (n.set m q).NotBefore v l t := by
  intro r hr e he hv
  rcases link?_set_cases hq₀ hr with ⟨rfl, rfl⟩ | hr
  · rw [hfree]
    rcases hq e he with hold | hlate
    · exact h q₀ hq₀ e hold hv
    · exact hlate
  · exact h r hr e he hv

/-- A vehicle more does not make another one due earlier. -/
theorem push {q : LinkQueue α} (h : n.NotBefore v l t) (ht : t ≤ now)
    (hq : n.link? m = some q) (w : Vehicle) : (n.set m (q.push now w)).NotBefore v l t := by
  refine h.set hq rfl fun e he => ?_
  rw [LinkQueue.queue_push, List.mem_append, List.mem_singleton] at he
  rcases he with he | rfl
  · exact .inl he
  · exact .inr (Time.offset_mono ht _)

/-- When the head leaves, the others are not due earlier. -/
theorem dropHead {q q' : LinkQueue α} (h : n.NotBefore v l t) (hq : n.link? m = some q)
    (hqueue : q'.queue = q.queue.tail) (hfree : q'.freeFlow = q.freeFlow) :
    (n.set m q').NotBefore v l t :=
  h.set hq hfree fun _ he => .inl (List.mem_of_mem_tail (hqueue ▸ he))

/-- Taking in a vehicle later than at the given time does not make a vehicle due earlier. -/
theorem enqueue {exit : Time} (h : n.NotBefore v l t) (ht : t ≤ now)
    (hn : n.enqueue w m now = .ok (exit, n')) : n'.NotBefore v l t := by
  rcases enqueue_eq_ok_iff.1 hn with ⟨q, hq, -, -, rfl⟩
  exact h.push ht hq w

theorem depart {d : Departure} (h : n.NotBefore v l t) (ht : t ≤ now)
    (hn : n.depart w m now = .ok (d, n')) : n'.NotBefore v l t := by
  rcases depart_eq_ok_iff.1 hn with ⟨q, hq, ⟨-, -, -, rfl⟩ | ⟨-, -, rfl⟩⟩
  · exact h.push ht hq w
  · exact h.set hq rfl fun _ he => .inl he

theorem evict (h : n.NotBefore v l t) (hn : n.evict m = .ok (some w, n')) :
    n'.NotBefore v l t := by
  rcases evict_eq_some_iff.1 hn with ⟨q, e, es, hq, -, -, rfl⟩
  exact h.dropHead hq rfl rfl

variable [FlowNumber α]

theorem release {d : Downstream} (h : n.NotBefore v l t)
    (hn : n.release m now d = .ok (some w, n')) : n'.NotBefore v l t := by
  rcases release_eq_some_iff.1 hn with ⟨q, e, es, hq, -, -, -, -, -, rfl⟩
  exact h.dropHead hq rfl rfl

/-- Who is admitted at the start of a step is due the free-flow time after that. -/
theorem update (h : n.NotBefore v l t) (ht : t ≤ now) : (n.update now).NotBefore v l t := by
  intro r hr e he hv
  rw [link?_update] at hr
  rcases Option.map_eq_some_iff.1 hr with ⟨q, hq, rfl⟩
  rw [LinkQueue.queue_update, List.mem_append, List.mem_map] at he
  rw [LinkQueue.freeFlow_update]
  rcases he with he | ⟨u, -, rfl⟩
  · exact h q hq e he hv
  · exact Time.offset_mono ht _

end NotBefore

/-! ## Who leaves is due -/

/-- A vehicle is due when it is evicted after its exit time has come. -/
theorem due_of_evict {e : QueueEntry} (h : n.evict l = .ok (some v, n'))
    (hhead : n.head? l = some e) (hdue : e.earliestExit ≤ now) : n.Due v l now := by
  rcases evict_eq_some_iff.1 h with ⟨q, e', es, hq, hes, rfl, -⟩
  rw [head?_eq_some_iff.2 ⟨q, es, hq, hes⟩] at hhead
  cases hhead
  exact ⟨q, e, hq, hes ▸ List.mem_cons_self, rfl, hdue⟩

/-- A vehicle is due when it is released. -/
theorem due_of_release [FlowNumber α] {d : Downstream}
    (h : n.release l now d = .ok (some v, n')) : n.Due v l now := by
  rcases release_eq_some_iff.1 h with ⟨q, e, es, hq, hes, hdue, -, -, rfl, -⟩
  exact ⟨q, e, hq, hes ▸ List.mem_cons_self, rfl, hdue⟩

end QueueNetwork

end TrafficQueue
