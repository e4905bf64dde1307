import TrafficQueue.Proofs.Queue.FreeFlow
import TrafficQueue.Proofs.Queue.Refill

/-!
# Free links

Nobody is in the queue of a free link or beside it.  A vehicle that comes onto it is
alone there and is due the free-flow time later.  A bucket that is full stays full until
a vehicle leaves the link.

Main results:

- Definitions `QueueNetwork.Free`, `QueueNetwork.Holds` and `QueueNetwork.SteadyOn`: links
  without vehicles, links with one vehicle, and links with buckets that stay as they are.
- Theorems `QueueNetwork.Free.holds_depart` and `QueueNetwork.Free.holds_cross`: who comes
  onto a free link is alone there.
- Theorems `QueueNetwork.SteadyOn.enqueue`, `depart`, `release` and `update`: buckets
  change where a vehicle leaves only.
-/

namespace TrafficQueue

namespace QueueNetwork

variable {α : Type} {n n' : QueueNetwork α} {l m : LinkId} {ls : List LinkId}
  {v w : Vehicle} {now : Time}

/-! ## Vehicles on free links -/

/-- Nobody is in the queue of the link or beside it. -/
def Free (n : QueueNetwork α) (l : LinkId) : Prop :=
  ∀ q, n.link? l = some q → q.queue = [] ∧ q.waiting = []

/-- The vehicle of the entry is alone on the link. -/
def Holds (n : QueueNetwork α) (l : LinkId) (e : QueueEntry) : Prop :=
  ∃ q, n.link? l = some q ∧ q.queue = [e] ∧ q.waiting = []

/-- There is room on a link without a queue. -/
def Roomy (n : QueueNetwork α) : Prop :=
  ∀ l q, n.link? l = some q → q.queue = [] → q.hasSpace = true

/-- A link is free if no vehicle is present. -/
theorem free_of_occurrences (h : ∀ v, n.occurrences v l = 0) : n.Free l := by
  intro q hq
  have hnobody : q.present = [] := by
    rw [List.eq_nil_iff_forall_not_mem]
    intro v hv
    apply List.count_eq_zero.1 _ hv
    rw [← occurrences_of_link hq, h v]
  rw [LinkQueue.present, List.append_eq_nil_iff, LinkQueue.vehicles, List.map_eq_nil_iff] at hnobody
  exact hnobody

namespace Free

variable {q : LinkQueue α}

/-- Who enters a free link is alone there. -/
theorem holds_push (h : n.Free l) (hq : n.link? l = some q) (v : Vehicle) (now : Time) :
    (n.set l (q.push now v)).Holds l (q.entry v now) := by
  refine ⟨q.push now v, link_set_self hq, ?_, (h q hq).2⟩
  rw [LinkQueue.queue_push, (h q hq).1, List.nil_append]

/-- Who departs on a free link is alone there. -/
theorem holds_depart {d : Departure} (h : n.Free l) (hroomy : n.Roomy)
    (hdepart : n.depart v l now = .ok (d, n')) :
    ∃ q, n.link? l = some q ∧ n'.Holds l (q.entry v now) := by
  rcases depart_eq_ok_iff.1 hdepart with ⟨q, hq, ⟨-, -, -, rfl⟩ | ⟨hfull, -, -⟩⟩
  · exact ⟨q, hq, h.holds_push hq v now⟩
  · exact absurd ⟨hroomy l q hq (h q hq).1, (h q hq).2⟩ hfull

/-- Who crosses a node onto a free link is alone there. -/
theorem holds_cross [FlowNumber α] {left : QueueNetwork α} {d : Downstream} {exit : Time}
    (h : n.Free l) (hne : l ≠ m) (hleave : n.release m now d = .ok (some v, left))
    (henter : left.enqueue w l now = .ok (exit, n')) :
    ∃ q, n.link? l = some q ∧ n'.Holds l (q.entry w now) := by
  rcases release_eq_some_iff.1 hleave with ⟨r, e, es, -, -, -, -, -, -, rfl⟩
  rcases enqueue_eq_ok_iff.1 henter with ⟨q, hq, -, -, rfl⟩
  have hkept := hq
  rw [link_set_of_ne hne.symm] at hkept
  refine ⟨q, hkept, holds_push (fun r hr => ?_) hq w now⟩
  cases hq.symm.trans hr
  exact h q hkept

end Free

namespace Holds

variable {e : QueueEntry}

/-- A vehicle that is alone on its link is at the head. -/
theorem head (h : n.Holds l e) : n.head? l = some e := by
  rcases h with ⟨q, hq, hqueue, -⟩
  exact head?_eq_some_iff.2 ⟨q, [], hq, hqueue⟩

/-- The start of a step leaves the vehicle in its place. -/
theorem update [FlowNumber α] (h : n.Holds l e) (now : Time) : (n.update now).Holds l e := by
  rcases h with ⟨q, hq, hqueue, hwaiting⟩
  refine ⟨{ q with flow := q.flow.refill }, ?_, hqueue, hwaiting⟩
  rw [link?_update, hq, Option.map_some, LinkQueue.update_of_nobody hwaiting]

/-- The vehicle leaves when its time has come. -/
theorem exit_le_of_release [FlowNumber α] {d : Downstream} (h : n.Holds l e)
    (hleave : n.release l now d = .ok (some v, n')) : e.earliestExit ≤ now := by
  rcases release_eq_some_iff.1 hleave with ⟨q, first, es, hq, hes, hdue, -⟩
  cases h.head.symm.trans (head?_eq_some_iff.2 ⟨q, es, hq, hes⟩)
  exact hdue

end Holds

/-! ## Buckets that stay full -/

variable [FlowNumber α]

/-- The buckets of the links stay as they are and let vehicles leave. -/
def SteadyOn (n : QueueNetwork α) (ls : List LinkId) : Prop :=
  ∀ l ∈ ls, ∀ q, n.link? l = some q → q.flow.Steady

namespace SteadyOn

/-- Fewer links are steady, too. -/
theorem mono {ms : List LinkId} (h : n.SteadyOn ls) (hsub : ms ⊆ ls) : n.SteadyOn ms :=
  fun l hl => h l (hsub hl)

/-- The queue of a link may change, if its bucket does not. -/
theorem set {q q₀ : LinkQueue α} (h : n.SteadyOn ls) (hq₀ : n.link? m = some q₀)
    (hflow : m ∈ ls → q.flow = q₀.flow) : (n.set m q).SteadyOn ls := by
  intro l hl r hr
  rcases link?_set_cases hq₀ hr with ⟨heq, rfl⟩ | hr
  · subst heq
    rw [hflow hl]
    exact h l hl q₀ hq₀
  · exact h l hl r hr

theorem enqueue {exit : Time} (h : n.SteadyOn ls) (henter : n.enqueue v m now = .ok (exit, n')) :
    n'.SteadyOn ls := by
  rcases enqueue_eq_ok_iff.1 henter with ⟨q, hq, -, -, rfl⟩
  exact h.set hq fun _ => rfl

/-- A departure leaves the buckets as they are. -/
theorem depart {d : Departure} (h : n.SteadyOn ls) (hdepart : n.depart v m now = .ok (d, n')) :
    n'.SteadyOn ls := by
  rcases depart_eq_ok_iff.1 hdepart with ⟨q, hq, ⟨-, -, -, rfl⟩ | ⟨-, -, rfl⟩⟩
  · exact h.set hq fun _ => rfl
  · exact h.set hq fun _ => rfl

/-- A vehicle leaves another link. -/
theorem release {d : Downstream} (h : n.SteadyOn ls) (hm : m ∉ ls)
    (hleave : n.release m now d = .ok (some v, n')) : n'.SteadyOn ls := by
  rcases release_eq_some_iff.1 hleave with ⟨q, e, es, hq, -, -, -, -, -, rfl⟩
  exact h.set hq fun hl => absurd hl hm

/-- Full buckets are full after the start of a step. -/
theorem update (h : n.SteadyOn ls) (now : Time) : (n.update now).SteadyOn ls := by
  intro l hl r hr
  rw [link?_update] at hr
  rcases Option.map_eq_some_iff.1 hr with ⟨q, hq, rfl⟩
  have hsteady := h l hl q hq
  rw [LinkQueue.flow_update, hsteady.refill]
  exact hsteady

end SteadyOn

/-- At the start the buckets are full, and steady if the share of a step is above the tolerance. -/
theorem steadyOn_ofNetwork {net : Network} {c : Config}
    (h : ∀ l ∈ ls, ∀ link, net.link? l = some link →
      flowTolerance < FlowBucket.share link.flow c.stepSecs c.flowFactor) :
    (ofNetwork net c).SteadyOn ls := by
  intro l hl q hq
  rw [ofNetwork, link?_withBuckets, Option.map_eq_some_iff] at hq
  rcases hq with ⟨link, hlink, rfl⟩
  exact FlowBucket.steady_full (h l hl link hlink)

end QueueNetwork

end TrafficQueue
