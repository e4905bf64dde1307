import TrafficQueue.Proofs.Queue.Operations

/-!
# Queue networks that agree on some links

An operation of a queue network reads and changes the links that it names and no
others.  So two networks that agree on some links answer alike as long as the operations
name these links, and still agree afterwards; and an operation that names other links
only changes nothing about these.

Main results:

- Definition `QueueNetwork.Agree`: two networks have the same queues on some links.
- Theorems `QueueNetwork.Agree.release`, `Agree.enqueue`, `Agree.depart`, `Agree.evict`
  and `Agree.update`: operations on these links.
- Theorems `QueueNetwork.agree_of_release`, `agree_of_enqueue`, `agree_of_depart` and
  `agree_of_evict`: operations on other links.
-/

namespace TrafficQueue

/-- Two computations end with the same error, or with results that are related. -/
inductive Both {ε α β : Type} (R : α → β → Prop) : Except ε α → Except ε β → Prop where
  | error (e : ε) : Both R (.error e) (.error e)
  | ok {a : α} {b : β} (h : R a b) : Both R (.ok a) (.ok b)

/-- Replacing the same entry of two arrays gives the same entries where they had the same. -/
theorem getElem?_setIfInBounds_congr {β : Type} {xs ys : Array β} {i j : Nat}
    (hi : xs[i]? = ys[i]?) (hj : xs[j]? = ys[j]?) (x : β) :
    (xs.setIfInBounds i x)[j]? = (ys.setIfInBounds i x)[j]? := by
  have hbounds : i < xs.size ↔ i < ys.size := by
    rw [← Nat.not_le, ← Nat.not_le, ← Array.getElem?_eq_none_iff, ← Array.getElem?_eq_none_iff, hi]
  simp only [Array.getElem?_setIfInBounds, hbounds, hj]

namespace QueueNetwork

variable {α : Type} {roads : LinkId → Prop} {n n' m : QueueNetwork α} {l : LinkId} {v : Vehicle}
  {now : Time}

/-- The networks have the same queues on these links. -/
def Agree (roads : LinkId → Prop) (n n' : QueueNetwork α) : Prop :=
  ∀ l, roads l → n.link? l = n'.link? l

/-- Same answers, and networks that agree. -/
def AgreeOn {β : Type} (roads : LinkId → Prop) (x y : β × QueueNetwork α) : Prop :=
  x.1 = y.1 ∧ Agree roads x.2 y.2

theorem Agree.refl (n : QueueNetwork α) : Agree roads n n := fun _ _ => rfl

theorem Agree.symm (h : Agree roads n n') : Agree roads n' n := fun l hl => (h l hl).symm

theorem Agree.trans (h : Agree roads n n') (h' : Agree roads n' m) : Agree roads n m :=
  fun l hl => (h l hl).trans (h' l hl)

/-! ## Another queue for a link -/

/-- Replacing the queue of a link does the same in both networks. -/
theorem Agree.set (h : Agree roads n n') (hl : roads l) (q : LinkQueue α) :
    Agree roads (n.set l q) (n'.set l q) :=
  fun k hk => getElem?_setIfInBounds_congr (h l hl) (h k hk) q

/-- Replacing the queue of another link changes nothing about these. -/
theorem agree_set (hl : ¬ roads l) (q : LinkQueue α) : Agree roads n (n.set l q) := by
  intro k hk
  have hne : l ≠ k := by
    rintro rfl
    exact hl hk
  exact (link_set_of_ne hne).symm

/-! ## Entering -/

/-- On the roads a vehicle is taken in alike. -/
theorem Agree.enqueue (h : Agree roads n n') (hl : roads l) (v : Vehicle) (now : Time) :
    Both (AgreeOn roads) (n.enqueue v l now) (n'.enqueue v l now) := by
  unfold QueueNetwork.enqueue
  rw [h l hl]
  cases n'.link? l with
  | none => exact .error _
  | some q =>
      by_cases hspace : q.hasSpace = true
      · simp only [hspace, if_true]
        exact .ok ⟨rfl, h.set hl _⟩
      · simp only [hspace]
        exact .error _

/-- A vehicle that is taken in elsewhere does not disturb the roads. -/
theorem agree_of_enqueue {exit : Time} (hl : ¬ roads l) (h : n.enqueue v l now = .ok (exit, m)) :
    Agree roads n m := by
  rcases enqueue_eq_ok_iff.1 h with ⟨q, -, -, -, rfl⟩
  exact agree_set hl _

theorem Agree.depart (h : Agree roads n n') (hl : roads l) (v : Vehicle) (now : Time) :
    Both (AgreeOn roads) (n.depart v l now) (n'.depart v l now) := by
  unfold QueueNetwork.depart
  rw [h l hl]
  cases n'.link? l with
  | none => exact .error _
  | some q =>
      by_cases hspace : q.hasSpace = true ∧ q.waiting = []
      · simp only [hspace, and_self, if_true]
        exact .ok ⟨rfl, h.set hl _⟩
      · simp only [hspace, if_false]
        exact .ok ⟨rfl, h.set hl _⟩

theorem agree_of_depart {d : Departure} (hl : ¬ roads l) (h : n.depart v l now = .ok (d, m)) :
    Agree roads n m := by
  rcases depart_eq_ok_iff.1 h with ⟨q, -, ⟨-, -, -, rfl⟩ | ⟨-, -, rfl⟩⟩
  · exact agree_set hl _
  · exact agree_set hl _

/-! ## Leaving -/

theorem Agree.evict (h : Agree roads n n') (hl : roads l) :
    Both (AgreeOn roads) (n.evict l) (n'.evict l) := by
  unfold QueueNetwork.evict
  rw [h l hl]
  cases n'.link? l with
  | none => exact .error _
  | some q => exact .ok ⟨rfl, h.set hl _⟩

theorem agree_of_evict {left : Option Vehicle} (hl : ¬ roads l) (h : n.evict l = .ok (left, m)) :
    Agree roads n m := by
  unfold QueueNetwork.evict at h
  cases hq : n.link? l with
  | none =>
      rw [hq] at h
      cases h
  | some q =>
      rw [hq] at h
      cases h
      exact agree_set hl _

/-- There is the same room ahead if the way ahead is on the roads. -/
theorem Agree.downstreamRoom {d : Downstream} (h : Agree roads n n')
    (hd : ∀ m, d = .link m → roads m) : n.downstreamRoom d = n'.downstreamRoom d := by
  cases d with
  | exit => rfl
  | link m => rw [QueueNetwork.downstreamRoom, QueueNetwork.downstreamRoom, h m (hd m rfl)]

variable [FlowNumber α]

/-- On the roads a vehicle is released alike. -/
theorem Agree.release {d : Downstream} (h : Agree roads n n') (hl : roads l)
    (hd : ∀ m, d = .link m → roads m) (now : Time) :
    Both (AgreeOn roads) (n.release l now d) (n'.release l now d) := by
  unfold QueueNetwork.release
  rw [h l hl, h.downstreamRoom hd]
  cases n'.link? l with
  | none => exact .error _
  | some q =>
      by_cases hready : q.headReady now = true
      · simp only [hready, if_true]
        rcases n'.downstreamRoom d with e | _ | _
        · exact .error _
        · exact .ok ⟨rfl, h⟩
        · exact .ok ⟨rfl, h.set hl _⟩
      · simp only [hready]
        exact .ok ⟨rfl, h⟩

/-- A vehicle that is released elsewhere does not disturb the roads. -/
theorem agree_of_release {d : Downstream} {left : Option Vehicle} (hl : ¬ roads l)
    (h : n.release l now d = .ok (left, m)) : Agree roads n m := by
  cases left with
  | none =>
      rw [eq_of_release_none h]
      exact Agree.refl n
  | some v =>
      rcases release_eq_some_iff.1 h with ⟨q, e, es, -, -, -, -, -, -, rfl⟩
      exact agree_set hl _

/-- The start of a step does the same in both networks. -/
theorem Agree.update (h : Agree roads n n') (now : Time) :
    Agree roads (n.update now) (n'.update now) := by
  intro l hl
  rw [link?_update, link?_update, h l hl]

end QueueNetwork

end TrafficQueue
