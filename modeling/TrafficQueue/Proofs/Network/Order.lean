import TrafficQueue.Proofs.Network.Adjacency

/-!
# The order of service

The links of a network are served node by node, and at every node in the order of their
numbers.  So every link of a network that was built has its turn, and the links after it
end at later nodes, or at the same node and have larger numbers.

Main results:

- Definitions `Network.serviceOrder` and `Network.ServedBefore`: the order of the turns as
  a list and as a relation.
- Theorem `NetworkBuilder.mem_serviceOrder`: every link has its turn.
- Theorem `NetworkBuilder.pairwise_serviceOrder`: the turns are in order.
-/

namespace TrafficQueue

namespace Network

/-- The links in the order of their turns. -/
def serviceOrder (net : Network) : List LinkId :=
  net.nodeIds.flatMap fun n => (net.entering n).getD []

/-- The first link has its turn before the second: it ends at an earlier node, or at the same node
and has the smaller number. -/
def ServedBefore (net : Network) (l m : LinkId) : Prop :=
  ∃ first second, net.link? l = some first ∧ net.link? m = some second ∧
    (first.target.index < second.target.index ∨
      first.target = second.target ∧ l.index < m.index)

theorem ServedBefore.ne {net : Network} {l m : LinkId} (h : net.ServedBefore l m) : l ≠ m := by
  rintro rfl
  rcases h with ⟨first, second, hfirst, hsecond, hlt | ⟨-, hlt⟩⟩
  · cases hfirst.symm.trans hsecond
    exact Nat.lt_irrefl _ hlt
  · exact Nat.lt_irrefl _ hlt

variable {nodes : Array Node} {links : Array Link}

/-- The links that enter the nodes, node by node. -/
theorem serviceOrder_ofParts :
    (ofParts nodes links).serviceOrder =
      (List.range nodes.size).flatMap fun n =>
        (links.toList.zipIdx.filter fun l => l.1.target.index = n).map fun l => ⟨l.2⟩ := by
  rw [serviceOrder, nodeIds, List.flatMap_map, List.flatMap_def, List.flatMap_def]
  refine congrArg List.flatten (List.map_congr_left fun n hn => ?_)
  have hrow : (ofParts nodes links).entering ⟨n⟩ = some _ :=
    entering_ofParts (List.mem_range.1 hn)
  rw [hrow, Option.getD_some]

/-- A link is among those that enter a node if it ends there. -/
theorem mem_row {n : Nat} {l : LinkId} :
    (l ∈ (links.toList.zipIdx.filter fun l => l.1.target.index = n).map
        fun l : Link × Nat => (⟨l.2⟩ : LinkId)) ↔
      ∃ link, (ofParts nodes links).link? l = some link ∧ link.target.index = n := by
  simp only [List.mem_map, List.mem_filter, decide_eq_true_eq]
  constructor
  · rintro ⟨⟨link, i⟩, ⟨hmem, htarget⟩, rfl⟩
    have hlink := List.mk_mem_zipIdx_iff_getElem?.1 hmem
    rw [Array.getElem?_toList] at hlink
    exact ⟨link, hlink, htarget⟩
  · rintro ⟨link, hlink, htarget⟩
    refine ⟨(link, l.index), ⟨?_, htarget⟩, rfl⟩
    rw [List.mk_mem_zipIdx_iff_getElem?, Array.getElem?_toList]
    exact hlink

/-- The links that enter a node are in the order of their numbers. -/
theorem pairwise_row (n : Nat) :
    ((links.toList.zipIdx.filter fun l => l.1.target.index = n).map
      fun l : Link × Nat => (⟨l.2⟩ : LinkId)).Pairwise fun l m => l.index < m.index := by
  apply List.Pairwise.map
  · exact fun _ _ hlt => hlt
  · apply List.Pairwise.filter
    have hnumbers : (links.toList.zipIdx.map Prod.snd).Pairwise (· < ·) := by
      rw [List.zipIdx_map_snd, ← List.range_eq_range']
      exact List.pairwise_lt_range
    exact List.pairwise_map.1 hnumbers

end Network

namespace NetworkBuilder

variable {b : NetworkBuilder} {net : Network} {l : LinkId}

/-- Every link of a network that was built has its turn. -/
theorem mem_serviceOrder (h : b.build = .ok net) (hl : net.hasLink l = true) :
    l ∈ net.serviceOrder := by
  rcases Network.hasLink_iff.1 hl with ⟨link, hlink⟩
  have htarget := (wired h).target_lt l link hlink
  have hparts := eq_ofParts h
  subst hparts
  rw [Network.serviceOrder_ofParts, List.mem_flatMap]
  exact ⟨link.target.index, List.mem_range.2 htarget, Network.mem_row.2 ⟨link, hlink, rfl⟩⟩

/-- The turns are in order. -/
theorem pairwise_serviceOrder (h : b.build = .ok net) :
    net.serviceOrder.Pairwise net.ServedBefore := by
  have hparts := eq_ofParts h
  subst hparts
  rw [Network.serviceOrder_ofParts, List.pairwise_flatMap]
  constructor
  · intro n _
    refine (Network.pairwise_row n).imp_of_mem ?_
    intro l m hl hm hlt
    rcases Network.mem_row.1 hl with ⟨first, hfirst, htarget⟩
    rcases Network.mem_row.1 hm with ⟨second, hsecond, htarget'⟩
    exact ⟨first, second, hfirst, hsecond, .inr ⟨Ident.ext (htarget.trans htarget'.symm), hlt⟩⟩
  · refine List.pairwise_lt_range.imp ?_
    intro n n' hlt l hl m hm
    rcases Network.mem_row.1 hl with ⟨first, hfirst, rfl⟩
    rcases Network.mem_row.1 hm with ⟨second, hsecond, rfl⟩
    exact ⟨first, second, hfirst, hsecond, .inl hlt⟩

end NetworkBuilder

end TrafficQueue
