import Mathlib.Tactic.Common
import TrafficQueue.Queue.Network

/-!
# Operations on link queues

What each operation of a queue network does when it succeeds, and when it does.
Later arguments about vehicles, storage and order open an operation through
these equations only.

Main results:

- Theorem `QueueNetwork.enqueue_eq_ok_iff`: a vehicle enters a known link with room.
- Theorem `QueueNetwork.depart_eq_ok_iff`: a departing vehicle enters or waits.
- Theorem `QueueNetwork.release_eq_some_iff`: when the head is released.
- Theorem `QueueNetwork.evict_eq_some_iff`: the head is evicted in any case.
-/

namespace TrafficQueue

namespace LinkQueue

variable {α : Type}

/-- The queue without its head, whose room is free again. -/
def dropHead (q : LinkQueue α) : LinkQueue α :=
  { q with queue := q.queue.tail, storage := q.storage.release }

@[simp]
theorem dropHead_queue (q : LinkQueue α) : q.dropHead.queue = q.queue.tail :=
  rfl

@[simp]
theorem dropHead_waiting (q : LinkQueue α) : q.dropHead.waiting = q.waiting :=
  rfl

@[simp]
theorem dropHead_storage (q : LinkQueue α) : q.dropHead.storage = q.storage.release :=
  rfl

/-- The head of the queue is evicted. -/
theorem evict_of_queue {q : LinkQueue α} {e : QueueEntry} {es : List QueueEntry}
    (h : q.queue = e :: es) : q.evict = (some e.vehicle, q.dropHead) := by
  simp [evict, dropHead, h]

variable [FlowNumber α]

/-- The head of the queue is released, at the expense of the bucket. -/
theorem release_of_queue {q : LinkQueue α} {e : QueueEntry} {es : List QueueEntry}
    (h : q.queue = e :: es) :
    q.release = (some e.vehicle, { q.dropHead with flow := q.flow.spend }) := by
  simp [release, dropHead, h]

/-- The head is ready when its exit time has come and the bucket lets it leave. -/
theorem headReady_iff {q : LinkQueue α} {now : Time} :
    q.headReady now = true ↔
      ∃ e, q.queue.head? = some e ∧ e.earliestExit ≤ now ∧ q.flow.isOpen = true := by
  unfold headReady
  cases q.queue <;> simp

end LinkQueue

namespace QueueNetwork

variable {α : Type} {n n' : QueueNetwork α} {l m : LinkId} {v : Vehicle} {now : Time}

/-! ## Links -/

@[simp]
theorem size_set (n : QueueNetwork α) (l : LinkId) (q : LinkQueue α) :
    (n.set l q).links.size = n.links.size := by
  simp [set]

/-- The links that are known have numbers below the number of links. -/
theorem link?_eq_some_iff_lt (n : QueueNetwork α) (l : LinkId) :
    (∃ q, n.link? l = some q) ↔ l.index < n.links.size := by
  unfold link?
  constructor
  · rintro ⟨q, h⟩
    exact (Array.getElem?_eq_some_iff.1 h).1
  · intro h
    exact ⟨n.links[l.index], Array.getElem?_eq_getElem h⟩

/-- The queue of a link after the queue of a known link was replaced. -/
theorem link?_set {q q₀ : LinkQueue α} (h : n.link? l = some q₀) (m : LinkId) :
    (n.set l q).link? m = if m = l then some q else n.link? m := by
  by_cases hm : m = l
  · subst hm
    simp [link_set_self h]
  · rw [if_neg hm, link_set_of_ne (Ne.symm hm)]

/-- A queue after the queue of a known link was replaced is the new one or was there before. -/
theorem link?_set_cases {q q₀ r : LinkQueue α} (h : n.link? l = some q₀)
    (hr : (n.set l q).link? m = some r) : (m = l ∧ r = q) ∨ n.link? m = some r := by
  rw [link?_set h] at hr
  by_cases hm : m = l
  · rw [if_pos hm] at hr
    cases hr
    exact .inl ⟨hm, rfl⟩
  · rw [if_neg hm] at hr
    exact .inr hr

/-- The head of a link is the first in its queue. -/
theorem head?_eq_some_iff {e : QueueEntry} :
    n.head? l = some e ↔ ∃ q es, n.link? l = some q ∧ q.queue = e :: es := by
  unfold head? LinkQueue.head?
  cases n.link? l with
  | none => simp
  | some q => cases hq : q.queue <;> simp [hq, eq_comm]

/-! ## Entering -/

/-- A vehicle is taken in just when the link is known and has room. -/
theorem enqueue_eq_ok_iff {exit : Time} :
    n.enqueue v l now = .ok (exit, n') ↔
      ∃ q, n.link? l = some q ∧ q.hasSpace = true ∧
        exit = (q.entry v now).earliestExit ∧ n' = n.set l (q.push now v) := by
  unfold enqueue
  cases n.link? l with
  | none => simp
  | some q =>
      by_cases hs : q.hasSpace = true
      · simp only [hs, if_true, Except.ok.injEq, Prod.mk.injEq, Option.some.injEq,
          exists_eq_left', true_and]
        exact and_congr eq_comm eq_comm
      · simp [hs]

/-- A vehicle departs on a known link: it enters if there is room and nobody waits, and waits
otherwise. -/
theorem depart_eq_ok_iff {d : Departure} :
    n.depart v l now = .ok (d, n') ↔
      ∃ q, n.link? l = some q ∧
        ((q.hasSpace = true ∧ q.waiting = [] ∧ d = .entered (q.entry v now).earliestExit ∧
            n' = n.set l (q.push now v)) ∨
          (¬ (q.hasSpace = true ∧ q.waiting = []) ∧ d = .waiting ∧
            n' = n.set l (q.wait v))) := by
  unfold depart
  cases n.link? l with
  | none => simp
  | some q =>
      by_cases hs : q.hasSpace = true ∧ q.waiting = []
      · simp only [hs, and_self, if_true, Except.ok.injEq, Prod.mk.injEq, Option.some.injEq,
          exists_eq_left', not_true_eq_false, false_and, or_false, true_and]
        exact and_congr eq_comm eq_comm
      · simp only [hs, if_false, Except.ok.injEq, Prod.mk.injEq, Option.some.injEq,
          exists_eq_left', not_false_eq_true, true_and]
        constructor
        · rintro ⟨rfl, rfl⟩
          exact .inr ⟨rfl, rfl⟩
        · rintro (⟨h₁, h₂, -⟩ | ⟨rfl, rfl⟩)
          · exact (hs ⟨h₁, h₂⟩).elim
          · exact ⟨rfl, rfl⟩

/-- A vehicle is not taken in just when the link is unknown or full. -/
theorem enqueue_eq_error_iff {e : QueueError} :
    n.enqueue v l now = .error e ↔
      (n.link? l = none ∧ e = .unknownLink l) ∨
        ∃ q, n.link? l = some q ∧ q.hasSpace = false ∧ e = .storageExhausted l := by
  unfold enqueue
  cases n.link? l with
  | none => simp [eq_comm (a := e)]
  | some q => cases hs : q.hasSpace <;> simp [hs, eq_comm (a := e)]

/-- Whoever is given to depart is refused on an unknown link only. -/
theorem depart_eq_error_iff {e : QueueError} :
    n.depart v l now = .error e ↔ n.link? l = none ∧ e = .unknownLink l := by
  unfold depart
  cases n.link? l with
  | none => simp [eq_comm (a := e)]
  | some q =>
      simp only [reduceCtorEq, false_and, iff_false]
      split <;> simp

theorem size_enqueue {exit : Time} (h : n.enqueue v l now = .ok (exit, n')) :
    n'.links.size = n.links.size := by
  rcases enqueue_eq_ok_iff.1 h with ⟨q, -, -, -, rfl⟩
  exact size_set n l _

theorem size_depart {d : Departure} (h : n.depart v l now = .ok (d, n')) :
    n'.links.size = n.links.size := by
  rcases depart_eq_ok_iff.1 h with ⟨q, -, ⟨-, -, -, rfl⟩ | ⟨-, -, rfl⟩⟩ <;> exact size_set n l _

/-- A vehicle can depart on every known link. -/
theorem exists_depart {q : LinkQueue α} (h : n.link? l = some q) (v : Vehicle) (now : Time) :
    ∃ d n', n.depart v l now = .ok (d, n') := by
  unfold depart
  rw [h]
  simp only []
  split
  · exact ⟨_, _, rfl⟩
  · exact ⟨_, _, rfl⟩

/-! ## Leaving -/

/-- A vehicle is evicted just when it is at the head of a known link. -/
theorem evict_eq_some_iff :
    n.evict l = .ok (some v, n') ↔
      ∃ q e es, n.link? l = some q ∧ q.queue = e :: es ∧ v = e.vehicle ∧
        n' = n.set l q.dropHead := by
  unfold evict
  cases n.link? l with
  | none => simp
  | some q =>
      cases hq : q.queue with
      | nil => simp [LinkQueue.evict, hq]
      | cons e es =>
          simp only [LinkQueue.evict_of_queue hq, Except.ok.injEq, Prod.mk.injEq,
            Option.some.injEq]
          constructor
          · rintro ⟨rfl, rfl⟩
            exact ⟨q, e, es, rfl, hq, rfl, rfl⟩
          · rintro ⟨q', e', es', rfl, hq', rfl, rfl⟩
            cases hq.symm.trans hq'
            exact ⟨rfl, rfl⟩

/-- Nobody is evicted from an empty queue. -/
theorem evict_eq_none_iff :
    n.evict l = .ok (none, n') ↔
      ∃ q, n.link? l = some q ∧ q.queue = [] ∧ n' = n.set l q := by
  unfold evict
  cases n.link? l with
  | none => simp
  | some q => cases hq : q.queue <;> simp [LinkQueue.evict, hq, eq_comm]

/-- A link with a head can be relieved of it. -/
theorem exists_evict {e : QueueEntry} (hhead : n.head? l = some e) :
    ∃ n', n.evict l = .ok (some e.vehicle, n') := by
  rcases head?_eq_some_iff.1 hhead with ⟨q, es, hq, hes⟩
  exact ⟨_, evict_eq_some_iff.2 ⟨q, e, es, hq, hes, rfl, rfl⟩⟩

theorem size_evict (h : n.evict l = .ok (some v, n')) : n'.links.size = n.links.size := by
  rcases evict_eq_some_iff.1 h with ⟨q, e, es, -, -, -, rfl⟩
  exact size_set n l _

variable [FlowNumber α]

/-- The head is released exactly if its exit time has come, the flow allows it and the way
downstream has room. -/
theorem release_eq_some_iff {d : Downstream} :
    n.release l now d = .ok (some v, n') ↔
      ∃ q e es, n.link? l = some q ∧ q.queue = e :: es ∧ e.earliestExit ≤ now ∧
        q.flow.isOpen = true ∧ n.downstreamRoom d = .ok true ∧ v = e.vehicle ∧
        n' = n.set l { q.dropHead with flow := q.flow.spend } := by
  unfold release
  cases n.link? l with
  | none => simp
  | some q =>
      by_cases hready : q.headReady now = true
      · rcases LinkQueue.headReady_iff.1 hready with ⟨e, he, hexit, hopen⟩
        rcases List.head?_eq_some_iff.1 he with ⟨es, hq⟩
        rcases hroom : n.downstreamRoom d with _ | _ | _
        · simp [hready]
        · simp [hready]
        · simp only [hready, if_true, LinkQueue.release_of_queue hq, Except.ok.injEq,
            Prod.mk.injEq, Option.some.injEq]
          constructor
          · rintro ⟨rfl, rfl⟩
            exact ⟨q, e, es, rfl, hq, hexit, hopen, trivial, rfl, rfl⟩
          · rintro ⟨q', e', es', rfl, hq', -, -, -, rfl, rfl⟩
            cases hq.symm.trans hq'
            exact ⟨rfl, rfl⟩
      · simp only [hready, Bool.false_eq_true, if_false, Except.ok.injEq, Prod.mk.injEq,
          reduceCtorEq, false_and, false_iff]
        rintro ⟨q', e, es, hq', hq, hexit, hopen, -⟩
        cases hq'
        exact hready (LinkQueue.headReady_iff.2 ⟨e, by simp [hq], hexit, hopen⟩)

/-- Who is released was the head. -/
theorem vehicle_of_release {d : Downstream} {e : QueueEntry}
    (h : n.release l now d = .ok (some v, n')) (hhead : n.head? l = some e) :
    v = e.vehicle := by
  rcases release_eq_some_iff.1 h with ⟨q, e', es, hq, hes, -, -, -, rfl, -⟩
  rw [head?_eq_some_iff.2 ⟨q, es, hq, hes⟩] at hhead
  cases hhead
  rfl

theorem size_release {d : Downstream} (h : n.release l now d = .ok (some v, n')) :
    n'.links.size = n.links.size := by
  rcases release_eq_some_iff.1 h with ⟨q, e, es, -, -, -, -, -, -, rfl⟩
  exact size_set n l _

/-- A head that stays leaves everything as it was. -/
theorem eq_of_release_none {d : Downstream} (h : n.release l now d = .ok (none, n')) :
    n' = n := by
  unfold release at h
  cases hq : n.link? l with
  | none => simp [hq] at h
  | some q =>
      simp only [hq] at h
      split at h
      · rename_i hready
        rcases LinkQueue.headReady_iff.1 hready with ⟨e, he, -, -⟩
        rcases List.head?_eq_some_iff.1 he with ⟨es, hes⟩
        split at h
        · cases h
        · cases h
          rfl
        · rw [LinkQueue.release_of_queue hes] at h
          cases h
      · cases h
        rfl

/-- A due head that stays although the flow allows it to leave finds no room downstream. -/
theorem downstreamRoom_of_release_none {q : LinkQueue α} {d : Downstream} {e : QueueEntry}
    (h : n.release l now d = .ok (none, n')) (hq : n.link? l = some q)
    (hhead : q.queue.head? = some e) (hdue : e.earliestExit ≤ now)
    (hopen : q.flow.isOpen = true) : n.downstreamRoom d = .ok false := by
  have hready : q.headReady now = true := LinkQueue.headReady_iff.2 ⟨e, hhead, hdue, hopen⟩
  rcases List.head?_eq_some_iff.1 hhead with ⟨es, hes⟩
  unfold release at h
  rcases hroom : n.downstreamRoom d with _ | _ | _
  · simp [hq, hready, hroom] at h
  · rfl
  · simp [hq, hready, hroom, LinkQueue.release_of_queue hes] at h

/-- Between known links nothing stands in the way of an answer. -/
theorem exists_release {q : LinkQueue α} {d : Downstream} (h : n.link? l = some q)
    (hd : ∃ room, n.downstreamRoom d = .ok room) (now : Time) :
    ∃ v n', n.release l now d = .ok (v, n') := by
  rcases hd with ⟨room, hroom⟩
  unfold release
  simp only [h, hroom]
  cases room
  · split <;> exact ⟨_, _, rfl⟩
  · split <;> exact ⟨_, _, rfl⟩

omit [FlowNumber α] in
/-- There is room ahead if the next link has room. -/
theorem downstreamRoom_link {q : LinkQueue α} (h : n.link? m = some q) :
    n.downstreamRoom (.link m) = .ok q.hasSpace := by
  simp [downstreamRoom, h]

omit [FlowNumber α] in
/-- Room found on a link means that the link is known and not full. -/
theorem downstreamRoom_link_eq_true_iff :
    n.downstreamRoom (.link m) = .ok true ↔ ∃ q, n.link? m = some q ∧ q.hasSpace = true := by
  cases h : n.link? m <;> simp [downstreamRoom, h]

/-- Whoever is released towards a link can enter it, also if it is the link left. -/
theorem exists_enqueue_of_release (h : n.release l now (.link m) = .ok (some v, n'))
    (w : Vehicle) : ∃ exit n'', n'.enqueue w m now = .ok (exit, n'') := by
  rcases release_eq_some_iff.1 h with ⟨q, e, es, hq, hes, -, -, hroom, -, rfl⟩
  rcases downstreamRoom_link_eq_true_iff.1 hroom with ⟨next, hnext, hspace⟩
  by_cases hm : m = l
  · subst hm
    cases hq.symm.trans hnext
    refine ⟨_, _, enqueue_eq_ok_iff.2 ⟨_, by rw [link?_set hq, if_pos rfl], ?_, rfl, rfl⟩⟩
    simp only [LinkQueue.hasSpace, Storage.hasSpace_iff, LinkQueue.dropHead_storage,
      Storage.release] at hspace ⊢
    omega
  · exact ⟨_, _, enqueue_eq_ok_iff.2
      ⟨next, by rw [link?_set hq, if_neg hm, hnext], hspace, rfl, rfl⟩⟩

/-! ## The start of a step -/

/-- A step starts on every link. -/
theorem link?_update (n : QueueNetwork α) (now : Time) (l : LinkId) :
    (n.update now).link? l = (n.link? l).map (LinkQueue.update now) := by
  simp [update, link?]

@[simp]
theorem size_update (n : QueueNetwork α) (now : Time) :
    (n.update now).links.size = n.links.size := by
  simp [update]

end QueueNetwork

end TrafficQueue
