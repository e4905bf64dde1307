import TrafficQueue.Proofs.Queue.Operations

/-!
# A link is relieved of its head

When the head of a link leaves, its vehicle may enter another link, or the same one
again.  Before the end of time a vehicle that enters is not due at once.  So all links
but the one that is left only grow at the back, by entries that are not due: their heads
stay the same, their flow is not spent and those that are full remain full.

Main results:

- Definition `QueueNetwork.HeadLeft`: a head has left a link.
- Definition `LinkQueue.Grows`: what happens to the other links.
- Theorems `QueueNetwork.HeadLeft.other` and `QueueNetwork.HeadLeft.own`: the other links
  and the one that is left.
-/

namespace TrafficQueue

namespace LinkQueue

variable {α : Type} {q q' : LinkQueue α} {now : Time}

/-- Entries that are not due join the back of the queue, and nothing else happens on the link. -/
structure Grows (now : Time) (q q' : LinkQueue α) : Prop where
  queue : ∃ es, q'.queue = q.queue ++ es ∧ ∀ e ∈ es, now < e.earliestExit
  flow : q'.flow = q.flow
  full : q.hasSpace = false → q'.hasSpace = false

/-- Nothing happens on a link that stays as it is. -/
theorem grows_self (now : Time) (q : LinkQueue α) : q.Grows now q :=
  ⟨⟨[], (List.append_nil _).symm, List.forall_mem_nil _⟩, rfl, fun hfull => hfull⟩

/-- Before the end of time a vehicle that enters is not due at once. -/
theorem grows_push (hnow : now < .never) (hfree : 1 ≤ q.freeFlow) (v : Vehicle) :
    q.Grows now (q.push now v) := by
  refine ⟨⟨[q.entry v now], rfl, ?_⟩, rfl, ?_⟩
  · rw [List.forall_mem_singleton]
    exact Time.lt_offset hnow hfree
  · intro hfull
    rw [hasSpace, ← Bool.not_eq_true, Storage.hasSpace_iff] at hfull ⊢
    simp only [push, Storage.occupied_occupy, Storage.capacity_occupy]
    omega

/-- If a head is due, it was the head before. -/
theorem Grows.head_of_due {e : QueueEntry} (h : q.Grows now q') (he : q'.queue.head? = some e)
    (hdue : e.earliestExit ≤ now) : q.queue.head? = some e := by
  rcases h.queue with ⟨es, hqueue, hlate⟩
  rw [hqueue, List.head?_append] at he
  cases hq : q.queue.head? with
  | some e' =>
      rw [hq] at he
      exact he
  | none =>
      rw [hq] at he
      exact (Nat.not_lt_of_le hdue (hlate e (List.mem_of_head? he))).elim

end LinkQueue

namespace QueueNetwork

variable {α : Type} {n n' : QueueNetwork α} {l m : LinkId} {v w : Vehicle} {now : Time}

/-- It takes at least a second to pass a link. -/
def Delays (n : QueueNetwork α) : Prop :=
  ∀ l q, n.link? l = some q → 1 ≤ q.freeFlow

/-- The head of a link has left, and its vehicle may have entered a link. -/
def HeadLeft (n : QueueNetwork α) (l : LinkId) (now : Time) (n' : QueueNetwork α) : Prop :=
  ∃ q q', n.link? l = some q ∧ q'.queue = q.queue.tail ∧ q'.freeFlow = q.freeFlow ∧
    (n' = n.set l q' ∨ ∃ v m exit, (n.set l q').enqueue v m now = .ok (exit, n'))

theorem headLeft_of_release [FlowNumber α] {d : Downstream}
    (h : n.release l now d = .ok (some v, n')) : n.HeadLeft l now n' := by
  rcases release_eq_some_iff.1 h with ⟨q, e, es, hq, -, -, -, -, -, rfl⟩
  exact ⟨q, { q.dropHead with flow := q.flow.spend }, hq, rfl, rfl, .inl rfl⟩

theorem headLeft_of_evict (h : n.evict l = .ok (some v, n')) : n.HeadLeft l now n' := by
  rcases evict_eq_some_iff.1 h with ⟨q, e, es, hq, -, -, rfl⟩
  exact ⟨q, q.dropHead, hq, rfl, rfl, .inl rfl⟩

/-- When a vehicle is released and another one enters, the head has left. -/
theorem headLeft_of_enqueue [FlowNumber α] {d : Downstream} {left : QueueNetwork α} {exit : Time}
    (h : n.release l now d = .ok (some v, left))
    (henter : left.enqueue w m now = .ok (exit, n')) : n.HeadLeft l now n' := by
  rcases release_eq_some_iff.1 h with ⟨q, e, es, hq, -, -, -, -, -, rfl⟩
  exact ⟨q, { q.dropHead with flow := q.flow.spend }, hq, rfl, rfl, .inr ⟨w, m, exit, henter⟩⟩

/-- A vehicle that enters a link lets all links grow. -/
theorem grows_enqueue {exit : Time} {q : LinkQueue α} (h : n.enqueue v m now = .ok (exit, n'))
    (hnow : now < .never) (hdelays : n.Delays) (hq : n.link? l = some q) :
    ∃ q', n'.link? l = some q' ∧ q.Grows now q' := by
  rcases enqueue_eq_ok_iff.1 h with ⟨r, hr, -, -, rfl⟩
  rw [link?_set hr]
  by_cases hl : l = m
  · subst hl
    cases hq.symm.trans hr
    rw [if_pos rfl]
    exact ⟨_, rfl, LinkQueue.grows_push hnow (hdelays l q hq) v⟩
  · rw [if_neg hl]
    exact ⟨q, hq, q.grows_self now⟩

namespace HeadLeft

/-- Links are as slow as before if one of them is set and keeps its free-flow time. -/
theorem delays_set {q q' : LinkQueue α} (hdelays : n.Delays) (hq : n.link? l = some q)
    (hfree : q'.freeFlow = q.freeFlow) : (n.set l q').Delays := by
  intro k r hr
  rcases link?_set_cases hq hr with ⟨-, rfl⟩ | hr
  · rw [hfree]
    exact hdelays l q hq
  · exact hdelays k r hr

/-- All other links grow. -/
theorem other {q : LinkQueue α} (h : n.HeadLeft l now n') (hnow : now < .never)
    (hdelays : n.Delays) (hm : m ≠ l) (hq : n.link? m = some q) :
    ∃ q', n'.link? m = some q' ∧ q.Grows now q' := by
  rcases h with ⟨r, r', hr, -, hfree, hchange⟩
  have hkept : (n.set l r').link? m = some q := (link_set_of_ne hm.symm).trans hq
  rcases hchange with rfl | ⟨v, k, exit, henter⟩
  · exact ⟨q, hkept, q.grows_self now⟩
  · exact grows_enqueue henter hnow (delays_set hdelays hr hfree) hkept

/-- The link itself loses its head and may grow. -/
theorem own {q : LinkQueue α} (h : n.HeadLeft l now n') (hnow : now < .never)
    (hdelays : n.Delays) (hq : n.link? l = some q) :
    ∃ q' es, n'.link? l = some q' ∧ q'.queue = q.queue.tail ++ es ∧
      ∀ e ∈ es, now < e.earliestExit := by
  rcases h with ⟨r, r', hr, hqueue, hfree, hchange⟩
  cases hq.symm.trans hr
  have hset : (n.set l r').link? l = some r' := link_set_self hq
  rcases hchange with rfl | ⟨v, k, exit, henter⟩
  · refine ⟨r', [], hset, ?_, List.forall_mem_nil _⟩
    rw [hqueue, List.append_nil]
  · rcases grows_enqueue henter hnow (delays_set hdelays hq hfree) hset with ⟨q', hq', hgrows⟩
    rcases hgrows.queue with ⟨es, hes, hlate⟩
    refine ⟨q', es, hq', ?_, hlate⟩
    rw [hes, hqueue]

end HeadLeft

end QueueNetwork

end TrafficQueue
