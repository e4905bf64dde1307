import Mathlib.Algebra.Ring.Nat
import TrafficQueue.Proofs.Queue.Operations

/-!
# Where vehicles are

A vehicle is present on a link if it stands in the queue or waits beside it.
Counting how often it is present turns every operation of a queue network into
one equation: entering adds one to one count, leaving takes one from it, and the
start of a step moves vehicles from the waiting list to the queue and keeps every
count.

Main results:

- Theorems `QueueNetwork.occurrences_enqueue`, `occurrences_depart`,
  `occurrences_release`, `occurrences_evict` and `occurrences_update`: the five
  equations.
- Theorem `QueueNetwork.count_vehicles`: the count over the whole network is the
  sum of the counts over its links.
-/

namespace TrafficQueue

namespace LinkQueue

variable {α : Type}

/-- The vehicles in the queue and beside it. -/
def present (q : LinkQueue α) : List Vehicle := q.vehicles ++ q.waiting

/-- Present are the vehicles in the queue and those that wait. -/
theorem length_present (q : LinkQueue α) :
    q.present.length = q.queue.length + q.waiting.length := by
  simp [present, vehicles]

/-- A vehicle in the queue is present once more. -/
theorem count_present_push (q : LinkQueue α) (v w : Vehicle) (now : Time) :
    (push now q v).present.count w = q.present.count w + if v = w then 1 else 0 := by
  simp only [present, vehicles_push, waiting_push, List.count_append, List.count_singleton,
    beq_iff_eq]
  omega

/-- A vehicle that waits is present once more. -/
theorem count_present_wait (q : LinkQueue α) (v w : Vehicle) :
    (q.wait v).present.count w = q.present.count w + if v = w then 1 else 0 := by
  simp only [present, wait, vehicles, List.count_append, List.count_singleton, beq_iff_eq]
  omega

/-- A vehicle that is dropped from the head was present once more. -/
theorem count_present_dropHead {q : LinkQueue α} {e : QueueEntry} {es : List QueueEntry}
    (h : q.queue = e :: es) (w : Vehicle) :
    q.dropHead.present.count w + (if e.vehicle = w then 1 else 0) = q.present.count w := by
  simp only [present, vehicles, dropHead_queue, dropHead_waiting, h, List.tail_cons,
    List.map_cons, List.count_append, List.count_cons, beq_iff_eq]
  omega

variable [FlowNumber α]

/-- Admission keeps the order: nobody comes or goes. -/
theorem present_update (q : LinkQueue α) (now : Time) :
    (update now q).present = q.present := by
  rcases vehicles_admitWaiting { q with flow := q.flow.refill } now with ⟨hqueue, hwaiting⟩
  unfold update present
  rw [hqueue, List.append_assoc, hwaiting]
  rfl

end LinkQueue

namespace QueueNetwork

variable {α : Type} {n n' : QueueNetwork α} {l : LinkId} {v : Vehicle} {now : Time}

/-- How often a vehicle is present on a link. -/
def occurrences (n : QueueNetwork α) (v : Vehicle) (l : LinkId) : Nat :=
  ((n.link? l).map fun q => q.present.count v).getD 0

/-- All vehicles in queues and beside them, link by link. -/
def vehicles (n : QueueNetwork α) : List Vehicle :=
  n.links.toList.flatMap LinkQueue.present

/-- A vehicle occurs on a link as often as it is present in its queue. -/
theorem occurrences_of_link {q : LinkQueue α} (h : n.link? l = some q) (w : Vehicle) :
    n.occurrences w l = q.present.count w := by
  simp [occurrences, h]

/-- A link is set, and on the others vehicles occur as before. -/
theorem occurrences_set {q q₀ : LinkQueue α} (h : n.link? l = some q₀) (w : Vehicle)
    (m : LinkId) :
    (n.set l q).occurrences w m =
      if m = l then q.present.count w else n.occurrences w m := by
  unfold occurrences
  rw [link?_set h]
  split <;> rfl

/-- The vehicle at the head of a link is on it. -/
theorem head_present {e : QueueEntry} (h : n.head? l = some e) :
    0 < n.occurrences e.vehicle l := by
  rcases head?_eq_some_iff.1 h with ⟨q, es, hq, hes⟩
  rw [occurrences_of_link hq, List.count_pos_iff]
  simp [LinkQueue.present, LinkQueue.vehicles, hes]

/-! ## Entering adds one -/

/-- A vehicle that is put into a queue occurs there once more. -/
theorem occurrences_push {q : LinkQueue α} (h : n.link? l = some q) (w : Vehicle)
    (m : LinkId) :
    (n.set l (q.push now v)).occurrences w m =
      n.occurrences w m + if v = w ∧ l = m then 1 else 0 := by
  rw [occurrences_set h]
  by_cases hm : m = l
  · subst hm
    simp [LinkQueue.count_present_push, occurrences_of_link h]
  · simp [hm, Ne.symm hm]

/-- A vehicle that is taken in occurs on its link once more. -/
theorem occurrences_enqueue {exit : Time} (h : n.enqueue v l now = .ok (exit, n'))
    (w : Vehicle) (m : LinkId) :
    n'.occurrences w m = n.occurrences w m + if v = w ∧ l = m then 1 else 0 := by
  rcases enqueue_eq_ok_iff.1 h with ⟨q, hq, -, -, rfl⟩
  exact occurrences_push hq w m

theorem occurrences_depart {d : Departure} (h : n.depart v l now = .ok (d, n'))
    (w : Vehicle) (m : LinkId) :
    n'.occurrences w m = n.occurrences w m + if v = w ∧ l = m then 1 else 0 := by
  rcases depart_eq_ok_iff.1 h with ⟨q, hq, ⟨-, -, -, rfl⟩ | ⟨-, -, rfl⟩⟩
  · exact occurrences_push hq w m
  · rw [occurrences_set hq]
    by_cases hm : m = l
    · subst hm
      simp [LinkQueue.count_present_wait, occurrences_of_link hq]
    · simp [hm, Ne.symm hm]

/-! ## Leaving takes one -/

/-- A vehicle that is dropped from the head has occurred on its link once more. -/
theorem occurrences_dropHead {q q' : LinkQueue α} {e : QueueEntry} {es : List QueueEntry}
    (h : n.link? l = some q) (hes : q.queue = e :: es)
    (hq' : q'.present = q.dropHead.present) (w : Vehicle) (m : LinkId) :
    (n.set l q').occurrences w m + (if e.vehicle = w ∧ l = m then 1 else 0) =
      n.occurrences w m := by
  rw [occurrences_set h]
  by_cases hm : m = l
  · subst hm
    simp [hq', LinkQueue.count_present_dropHead hes, occurrences_of_link h]
  · simp [hm, Ne.symm hm]

theorem occurrences_evict (h : n.evict l = .ok (some v, n')) (w : Vehicle) (m : LinkId) :
    n'.occurrences w m + (if v = w ∧ l = m then 1 else 0) = n.occurrences w m := by
  rcases evict_eq_some_iff.1 h with ⟨q, e, es, hq, hes, rfl, rfl⟩
  exact occurrences_dropHead hq hes rfl w m

/-- A vehicle that is released has occurred on its link once more. -/
theorem occurrences_release [FlowNumber α] {d : Downstream}
    (h : n.release l now d = .ok (some v, n')) (w : Vehicle) (m : LinkId) :
    n'.occurrences w m + (if v = w ∧ l = m then 1 else 0) = n.occurrences w m := by
  rcases release_eq_some_iff.1 h with ⟨q, e, es, hq, hes, -, -, -, rfl, rfl⟩
  refine occurrences_dropHead hq hes ?_ w m
  rfl

/-! ## The start of a step moves nobody to another link -/

/-- At the start of a step vehicles stay on their links. -/
theorem occurrences_update [FlowNumber α] (n : QueueNetwork α) (now : Time) (w : Vehicle)
    (m : LinkId) : (n.update now).occurrences w m = n.occurrences w m := by
  unfold occurrences
  rw [link?_update]
  cases n.link? m <;> simp [LinkQueue.present_update]

/-! ## The whole network -/

/-- A vehicle occurs in the network as often as on all its links together. -/
theorem count_vehicles (n : QueueNetwork α) (w : Vehicle) :
    n.vehicles.count w =
      ((List.range n.links.size).map fun i => n.occurrences w ⟨i⟩).sum := by
  have hlinks : (List.range n.links.size).map (fun i => n.occurrences w ⟨i⟩) =
      n.links.toList.map fun q => q.present.count w := by
    apply List.ext_getElem
    · simp
    · intro i h₁ h₂
      have hi : i < n.links.size := by simpa using h₁
      simp [occurrences, link?, hi]
  rw [hlinks, vehicles, List.count_flatMap]
  rfl

/-- The vehicles of a network are those that its traffic count counts. -/
theorem traffic_eq_length (n : QueueNetwork α) : n.traffic = n.vehicles.length := by
  have hsum : ∀ (qs : List (LinkQueue α)) (start : Nat),
      qs.foldl (fun sum q => sum + (q.queue.length + q.waiting.length)) start =
        start + (qs.flatMap LinkQueue.present).length := by
    intro qs
    induction qs with
    | nil => simp
    | cons q qs ih =>
        intro start
        simp only [List.foldl_cons, List.flatMap_cons, List.length_append, ih,
          LinkQueue.length_present]
        omega
  rw [traffic, ← Array.foldl_toList, hsum, vehicles, Nat.zero_add]

end QueueNetwork

end TrafficQueue
