import TrafficQueue.Proofs.Queue.FreeFlow
import TrafficQueue.Proofs.Simulation.Course

/-!
# The queues of a simulation are reached by calls

A simulation does nothing to its link queues but call their operations.  So whatever
holds of the queues of a network after any calls holds of the queues at every moment of
every simulation.

Main results:

- Definition `QueueNetwork.Reached`: queues to which other queues are brought by calls.
- Theorem `Move.reached`: a move makes calls at most.
- Theorems `Moment.Sound.freeFlow` and `Moment.Sound.delays`: calls do not change the
  free-flow time of a link, which is at least a second.
- Theorem `Simulation.Passes.reached`: the queues at every moment of a simulation.
-/

namespace TrafficQueue

namespace QueueNetwork

variable {α : Type} [FlowNumber α] {n n' n'' : QueueNetwork α}

/-- Calls lead from one state of the queues to another. -/
def Reached (n n' : QueueNetwork α) : Prop :=
  ∃ calls, (QueueHistory.of n calls).queues = n'

theorem reached_self (n : QueueNetwork α) : n.Reached n :=
  ⟨[], rfl⟩

/-- A call leads on. -/
theorem Reached.call (h : n.Reached n') (c : QueueCall) (hc : (n'.perform c).2 = n'') :
    n.Reached n'' := by
  rcases h with ⟨calls, rfl⟩
  refine ⟨calls ++ [c], ?_⟩
  rw [QueueHistory.of, List.foldl_append]
  exact hc

variable {l : LinkId} {v : Vehicle} {now : Time}

theorem Reached.enqueue {exit : Time} (h : n.Reached n')
    (hn : n'.enqueue v l now = .ok (exit, n'')) : n.Reached n'' :=
  h.call (.enqueue v l now) (by simp only [perform, hn])

theorem Reached.depart {d : Departure} (h : n.Reached n')
    (hn : n'.depart v l now = .ok (d, n'')) : n.Reached n'' :=
  h.call (.depart v l now) (by simp only [perform, hn])

theorem Reached.update (h : n.Reached n') (now : Time) : n.Reached (n'.update now) :=
  h.call (.update now) rfl

theorem Reached.release {d : Downstream} {left : Option Vehicle} (h : n.Reached n')
    (hn : n'.release l now d = .ok (left, n'')) : n.Reached n'' :=
  h.call (.release l now d) (by simp only [perform, hn])

theorem Reached.evict {left : Option Vehicle} (h : n.Reached n')
    (hn : n'.evict l = .ok (left, n'')) : n.Reached n'' :=
  h.call (.evict l) (by simp only [perform, hn])

end QueueNetwork

/-- A move makes calls at most. -/
theorem Move.reached {net : Network} {now : Time} {m m' : Moment} {start : QueueNetwork Float}
    (h : Move net now m m') (hm : start.Reached m.traffic.queues) :
    start.Reached m'.traffic.queues := by
  cases h with
  | drain => exact hm
  | strand hagent h => exact hm
  | stay hagent h => simpa using hm
  | depart hagent h hdepart => exact hm.depart hdepart
  | update => exact hm.update now
  | keep hagent hdue h => exact hm
  | cross hagent h hleave henter => exact (hm.release hleave).enqueue henter
  | arrive hagent h hleave => simpa using hm.release hleave
  | fail hagent hdue h hleave => exact hm.evict hleave
  | replan hagent hreplanner h => exact hm

/-- After any calls every queue has the free-flow time of its link. -/
theorem Moment.Sound.freeFlow {net : Network} {c : Config} {m : Moment} (hm : m.Sound net)
    (h : (QueueNetwork.ofNetwork net c).Reached m.traffic.queues) :
    m.traffic.queues.HasFreeFlow net := by
  rcases h with ⟨calls, hcalls⟩
  intro l q hq
  rcases Network.hasLink_iff.1 (hm.hasLink_of_link? hq) with ⟨link, hlink⟩
  have hstart : (QueueNetwork.ofNetwork net c).link? l = some _ :=
    (QueueNetwork.link?_withBuckets _ _ _ l).trans (congrArg _ hlink)
  rcases QueueHistory.invariant (P := fun q _ => q.freeFlow = link.freeFlow) hstart rfl
    (fun q h q' h' hfree hchange => hchange.freeFlow_eq.trans hfree) calls with ⟨q', hq', hfree⟩
  rw [hcalls, hq] at hq'
  cases hq'
  exact ⟨link, hlink, hfree⟩

/-- After any calls it takes at least a second to pass a link. -/
theorem Moment.Sound.delays {net : Network} {c : Config} {m : Moment} (hm : m.Sound net)
    (h : (QueueNetwork.ofNetwork net c).Reached m.traffic.queues) : m.traffic.queues.Delays := by
  intro l q hq
  rcases hm.freeFlow h l q hq with ⟨link, -, hfree⟩
  rw [hfree]
  exact link.one_le_freeFlow

namespace Simulation

variable {s : Simulation} {n : Nat} {m : Moment}

/-- Agents enter beside the roads. -/
theorem queues_enter (start : Time) (t : Traffic) (a : Agent) :
    (enter start t a).queues = t.queues := by
  unfold enter
  split <;> rfl

/-- Before the first step the queues of a simulation are those of its network. -/
theorem queues_initialTraffic (c : Config) (net : Network) (agents : Array Agent)
    (replanner : Option Replanner) :
    (initialTraffic c net agents replanner).queues = .ofNetwork net c := by
  unfold initialTraffic
  apply Array.foldl_induction
    (motive := fun _ (t : Traffic) => t.queues = QueueNetwork.ofNetwork net c)
  · rfl
  · intro i t ht
    rw [queues_enter, ht]

/-- At every moment the queues are reached from the empty queues of the network by calls. -/
theorem Passes.reached {c : Config} {net : Network} {people : Population}
    {replanner : Option Replanner} {strategy : Option (AgentId → Person → Strategy)}
    (h : build c net people replanner strategy = .ok s) (hpass : s.Passes n m) :
    (QueueNetwork.ofNetwork net c).Reached m.traffic.queues := by
  refine hpass.invariant
    (P := fun _ m => (QueueNetwork.ofNetwork net c).Reached m.traffic.queues) (sound_first h)
    ?_ (fun n m m' _ hm hmove => hmove.reached hm) (fun n past t ht => ht)
  rcases build_eq_ok_iff.1 h with ⟨-, -, rfl⟩
  change (QueueNetwork.ofNetwork net c).Reached (initialTraffic c net _ replanner).queues
  rw [queues_initialTraffic]
  exact QueueNetwork.reached_self _

end Simulation

end TrafficQueue
