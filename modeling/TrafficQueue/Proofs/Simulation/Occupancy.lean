import TrafficQueue.Proofs.Queue.Storage
import TrafficQueue.Proofs.Queue.Turns
import TrafficQueue.Proofs.Simulation.Reached

/-!
# Links are filled to their capacity and no further

Every link has the capacity that its network gives it, and counts the vehicles of its
queue against it.  Nobody waits beside a link for nothing: who departs waits only for
room or behind others, and the start of a step admits vehicles until the link is full or
nobody waits.  So it is after any calls to the queues, and at every moment of a
simulation.

Main results:

- Theorem `LinkQueue.waiting_admitWaiting`: who waits after an admission waits for room.
- Definition `QueueNetwork.WithinCapacity`: what a link keeps.
- Theorem `Simulation.within_capacity`: every link keeps it, whatever happens.
-/

namespace TrafficQueue

section Links

variable {α : Type} {q q' : LinkQueue α} {now : Time}

namespace LinkQueue

/-- The storage has a given capacity and counts the vehicles of its queue. -/
structure Counts (q : LinkQueue α) (capacity : Nat) : Prop where
  positive : 1 ≤ capacity
  same : q.storage.capacity = capacity
  occupied : q.storage.occupied = q.queue.length
  fits : q.queue.length ≤ capacity
  hasSpace : q.hasSpace = true ↔ q.queue.length < capacity

/-- A storage that holds the vehicles of its queue counts them. -/
theorem Stored.counts {capacity : Nat} (h : q.Stored) (hpos : 1 ≤ capacity)
    (hsame : q.storage.capacity = capacity) : q.Counts capacity := by
  subst hsame
  exact ⟨hpos, rfl, h.occupied, h.fits,
    by rw [LinkQueue.hasSpace, Storage.hasSpace_iff, h.occupied]⟩

theorem capacity_admitWaiting (q : LinkQueue α) (now : Time) :
    (q.admitWaiting now).storage.capacity = q.storage.capacity := by
  unfold admitWaiting
  split
  · rfl
  · rw [storage_foldl_push]

/-- Who still waits after an admission waits for room. -/
theorem waiting_admitWaiting (h : (q.admitWaiting now).hasSpace = true) :
    (q.admitWaiting now).waiting = [] := by
  unfold admitWaiting at h ⊢
  split
  · assumption
  · rename_i v vs hwaiting
    simp only [hwaiting] at h
    rw [hasSpace, Storage.hasSpace_iff, storage_foldl_push] at h
    rw [(vehicles_foldl_push _ _ _).2]
    simp only [admissible, Storage.room, List.length_take] at h ⊢
    rw [List.drop_eq_nil_iff]
    omega

variable [FlowNumber α]

theorem capacity_update (q : LinkQueue α) (now : Time) :
    (q.update now).storage.capacity = q.storage.capacity :=
  capacity_admitWaiting { q with flow := q.flow.refill } now

end LinkQueue

/-! ## What a link keeps -/

variable [FlowNumber α]

/-- After any change of the link its storage holds the vehicles of its queue. -/
theorem LinkChange.stored {h h' : LinkLedger} (hchange : LinkChange q h q' h') (hq : q.Stored) :
    q'.Stored := by
  cases hchange with
  | idle => exact hq
  | enter hspace => exact hq.push hspace _ _
  | depart hspace hwaiting => exact hq.push hspace _ _
  | wait hfull => exact hq.wait _
  | update => exact hq.update _
  | release hqueue hdue hopen => exact ⟨hq.dropHead.occupied, hq.dropHead.fits⟩
  | evict hqueue => exact hq.dropHead

/-- No change of the link changes its capacity. -/
theorem LinkChange.capacity_eq {h h' : LinkLedger} (hchange : LinkChange q h q' h') :
    q'.storage.capacity = q.storage.capacity := by
  cases hchange with
  | update => exact q.capacity_update _
  | idle | enter | depart | wait | release | evict => rfl

namespace QueueNetwork

variable {n : QueueNetwork α} {l : LinkId}

/-- The link counts its vehicles against its capacity, and nobody waits beside it for nothing. -/
structure WithinCapacity (n : QueueNetwork α) (l : LinkId) (capacity : Nat) : Prop where
  counts : ∃ q, n.link? l = some q ∧ q.Counts capacity
  /-- Who departs and has to wait finds the link full or others who wait. -/
  departs : ∀ v now n', n.depart v l now = .ok (.waiting, n') →
    ∃ q, n.link? l = some q ∧ (q.queue.length = capacity ∨ q.waiting ≠ [])
  /-- After the start of a step there is no room or nobody waits. -/
  admits : ∀ now q, (n.update now).link? l = some q → ¬ (q.hasSpace = true ∧ q.waiting ≠ [])

/-- A link that counts its vehicles stays within its capacity. -/
theorem withinCapacity {capacity : Nat} (hq : n.link? l = some q) (h : q.Counts capacity) :
    n.WithinCapacity l capacity := by
  refine ⟨⟨q, hq, h⟩, ?_, ?_⟩
  · intro v now n' hdepart
    rcases depart_eq_ok_iff.1 hdepart with ⟨q₀, hq₀, ⟨-, -, hentered, -⟩ | ⟨hwait, -, -⟩⟩
    · cases hentered
    · cases hq.symm.trans hq₀
      refine ⟨q, hq, ?_⟩
      by_cases hwaiting : q.waiting = []
      · have hfull : ¬ q.queue.length < capacity := fun hlt =>
          hwait ⟨h.hasSpace.2 hlt, hwaiting⟩
        have hfits := h.fits
        left
        omega
      · exact .inr hwaiting
  · rintro now q' hq' ⟨hspace, hwaiting⟩
    rw [link?_update, hq, Option.map_some] at hq'
    cases hq'
    exact hwaiting (LinkQueue.waiting_admitWaiting hspace)

/-- Whatever calls the queues of a network are reached by, its links keep within their capacity. -/
theorem Reached.withinCapacity {net : Network} {bucket : Link → FlowBucket α}
    {storageFactor : Float} {link : Link} (h : (withBuckets bucket net storageFactor).Reached n)
    (hlink : net.link? l = some link) :
    n.WithinCapacity l (Storage.ofVehicles link.storage storageFactor).capacity := by
  rcases h with ⟨calls, rfl⟩
  have hstart : (withBuckets bucket net storageFactor).link? l =
      some (emptyQueue bucket storageFactor (link, l.index)) := by
    rw [link?_withBuckets, hlink, Option.map_some]
  have hkept : ∃ q, (QueueHistory.of (withBuckets bucket net storageFactor) calls).queues.link? l =
      some q ∧ q.Stored ∧
        q.storage.capacity = (Storage.ofVehicles link.storage storageFactor).capacity := by
    refine QueueHistory.invariant
      (P := fun q _ => q.Stored ∧
        q.storage.capacity = (Storage.ofVehicles link.storage storageFactor).capacity)
      hstart ⟨⟨rfl, Nat.zero_le _⟩, rfl⟩ ?_ calls
    rintro q h q' h' ⟨hstored, hsame⟩ hchange
    exact ⟨hchange.stored hstored, hchange.capacity_eq.trans hsame⟩
  rcases hkept with ⟨q, hq, hstored, hsame⟩
  exact QueueNetwork.withinCapacity hq
    (hstored.counts (Storage.one_le_capacity_ofVehicles _ _) hsame)

end QueueNetwork

end Links

namespace Simulation

/-- Every link of a network keeps within the capacity that the network and the configuration give
it: after any calls to its queues, and at every moment of every simulation. -/
theorem within_capacity {net : Network} {c : Config} {l : LinkId} {link : Link}
    (hlink : net.link? l = some link) :
    (∀ calls, (QueueHistory.of (.ofNetwork net c) calls).queues.WithinCapacity l
        (Storage.ofVehicles link.storage c.storageFactor).capacity) ∧
      ∀ people replanner strategy s, build c net people replanner strategy = .ok s →
        ∀ n m, s.Passes n m → m.traffic.queues.WithinCapacity l
          (Storage.ofVehicles link.storage c.storageFactor).capacity := by
  constructor
  · intro calls
    exact QueueNetwork.Reached.withinCapacity ⟨calls, rfl⟩ hlink
  · intro people replanner strategy s hs n m hpass
    exact (hpass.reached hs).withinCapacity hlink

/-- Both roads of the commuter have room for one vehicle, in a rush and at the start of a day. -/
theorem within_capacity_commuter :
    Commuter.net.link? ⟨0⟩ = some (Commuter.road "there" 0 1).settle ∧
      (QueueHistory.of (.ofNetwork Commuter.net {}) QueueNetwork.rush).queues.WithinCapacity ⟨0⟩
        1 ∧
      Commuter.simulation.first.traffic.queues.WithinCapacity ⟨0⟩ 1 := by
  have hcapacity : (Storage.ofVehicles (Commuter.road "there" 0 1).settle.storage
      (Config.storageFactor {})).capacity = 1 := by
    decide +kernel
  have hlink : Commuter.net.link? ⟨0⟩ = some (Commuter.road "there" 0 1).settle := rfl
  rcases within_capacity (c := {}) hlink with ⟨hcalls, hsimulation⟩
  rw [hcapacity] at hcalls hsimulation
  exact ⟨hlink, hcalls _, hsimulation _ _ _ _ Commuter.build_simulation 0 _ .first⟩

end Simulation

end TrafficQueue
