import Mathlib.Data.List.Nodup
import TrafficQueue.Proofs.Network.Adjacency

/-!
# Links are listed at their ends

The adjacency tables of a network that was built have every link at the node where it
begins and at the node where it ends, in the order of the links, and at no other node.

Main results:

- Definition `Network.linksWith`: the links with some property, ascending.
- Theorem `Network.map_filter_zipIdx`: the numbers of the links with some property.
- Theorem `NetworkBuilder.listed_at_ends`: the rows of all nodes, and every link once.
-/

namespace TrafficQueue

namespace Network

variable {net : Network}

/-- The links with some property, ascending. -/
def linksWith (net : Network) (p : Link → Bool) : List LinkId :=
  net.linkIds.filter fun l => (net.link? l).any p

/-- A link is listed if it has the property. -/
theorem mem_linksWith {p : Link → Bool} {l : LinkId} :
    l ∈ net.linksWith p ↔ ∃ link, net.link? l = some link ∧ p link = true := by
  rw [linksWith, List.mem_filter, Option.any_eq_true]
  refine and_iff_right_of_imp ?_
  rintro ⟨link, hlink, -⟩
  have hlt := (Array.getElem?_eq_some_iff.1 hlink).1
  exact List.mem_map.2 ⟨l.index, List.mem_range.2 hlt, rfl⟩

theorem nodup_linksWith (net : Network) (p : Link → Bool) : (net.linksWith p).Nodup := by
  apply List.Nodup.sublist List.filter_sublist
  exact List.nodup_range.map fun _ _ heq => Ident.mk.inj heq

/-- The numbers of the links with some property, taken from the numbered links. -/
theorem map_filter_zipIdx (net : Network) (p : Link → Bool) :
    ((net.links.toList.zipIdx.filter fun l => p l.1).map fun l => (⟨l.2⟩ : LinkId)) =
      net.linksWith p := by
  have hids : net.linkIds = net.links.toList.zipIdx.map fun l => (⟨l.2⟩ : LinkId) := by
    have hnumbers : List.range net.linkCount = net.links.toList.zipIdx.map Prod.snd := by
      rw [List.zipIdx_map_snd, List.range_eq_range', Array.length_toList]
      rfl
    rw [linkIds, hnumbers, List.map_map]
    rfl
  rw [linksWith, hids, List.filter_map]
  refine congrArg (List.map _) (List.filter_congr ?_)
  rintro ⟨link, i⟩ hmem
  have hlink := List.mk_mem_zipIdx_iff_getElem?.1 hmem
  rw [Array.getElem?_toList] at hlink
  simp [link?, hlink]

/-- If every link has an end at a node of the network, the links with their ends at the nodes, node
by node, are all links once. -/
theorem count_flatMap_linksWith {e : Link → NodeId} {l : LinkId}
    (hend : ∀ l link, net.link? l = some link → (e link).index < net.nodeCount)
    (hl : net.hasLink l = true) :
    (net.nodeIds.flatMap fun n => net.linksWith fun link => e link = n).count l = 1 := by
  rcases hasLink_iff.1 hl with ⟨link, hlink⟩
  refine List.count_eq_one_of_mem ?_ ?_
  · refine List.pairwise_flatMap.2 ⟨fun n _ => net.nodup_linksWith _, ?_⟩
    refine List.pairwise_map.2 (List.pairwise_lt_range.imp ?_)
    rintro n n' hlt a ha b hb rfl
    rcases mem_linksWith.1 ha with ⟨first, hfirst, hn⟩
    rcases mem_linksWith.1 hb with ⟨second, hsecond, hn'⟩
    cases hfirst.symm.trans hsecond
    rw [decide_eq_true_eq] at hn hn'
    cases hn.symm.trans hn'
    exact Nat.lt_irrefl _ hlt
  · refine List.mem_flatMap.2 ⟨e link, ?_, mem_linksWith.2 ⟨link, hlink, decide_eq_true rfl⟩⟩
    exact List.mem_map.2 ⟨_, List.mem_range.2 (hend l link hlink), rfl⟩

end Network

namespace NetworkBuilder

variable {b : NetworkBuilder} {net : Network}

/-- The links that leave a node of a network that was built, ascending. -/
theorem leaving_eq (h : b.build = .ok net) {n : NodeId} (hn : net.hasNode n = true) :
    net.leaving n = some (net.linksWith fun link => link.source = n) := by
  have hparts := eq_ofParts h
  subst hparts
  have hlt : n.index < b.nodes.size := of_decide_eq_true hn
  rw [Network.leaving_ofParts hlt, ← Network.map_filter_zipIdx]
  simp [Network.ofParts, Ident.ext_iff]

/-- The links that enter a node of a network that was built, ascending. -/
theorem entering_eq (h : b.build = .ok net) {n : NodeId} (hn : net.hasNode n = true) :
    net.entering n = some (net.linksWith fun link => link.target = n) := by
  have hparts := eq_ofParts h
  subst hparts
  have hlt : n.index < b.nodes.size := of_decide_eq_true hn
  rw [Network.entering_ofParts hlt, ← Network.map_filter_zipIdx]
  simp [Network.ofParts, Ident.ext_iff]

/-- The rows of a table, node by node, if every node has a row. -/
theorem flatMap_nodeIds {row : NodeId → Option (List LinkId)} {links : NodeId → List LinkId}
    (h : ∀ n, net.hasNode n = true → row n = some (links n)) :
    (net.nodeIds.flatMap fun n => (row n).getD []) = net.nodeIds.flatMap links := by
  rw [List.flatMap_def, List.flatMap_def]
  refine congrArg List.flatten (List.map_congr_left fun n hn => ?_)
  rcases List.mem_map.1 hn with ⟨i, hi, rfl⟩
  rw [h ⟨i⟩ (decide_eq_true (List.mem_range.1 hi)), Option.getD_some]

/-- Every node of a network that was built has exactly the links that begin there and exactly the
links that end there, ascending.  So over all nodes every link leaves once and enters once. -/
theorem listed_at_ends (h : b.build = .ok net) :
    (∀ n, net.hasNode n = true →
      net.leaving n = some (net.linksWith fun link => link.source = n) ∧
        net.entering n = some (net.linksWith fun link => link.target = n)) ∧
    ∀ l, net.hasLink l = true →
      (net.nodeIds.flatMap fun n => (net.leaving n).getD []).count l = 1 ∧
        (net.nodeIds.flatMap fun n => (net.entering n).getD []).count l = 1 := by
  refine ⟨fun n hn => ⟨leaving_eq h hn, entering_eq h hn⟩, fun l hl => ⟨?_, ?_⟩⟩
  · rw [flatMap_nodeIds fun n hn => leaving_eq h hn]
    exact Network.count_flatMap_linksWith (wired h).source_lt hl
  · rw [flatMap_nodeIds fun n hn => entering_eq h hn]
    exact Network.count_flatMap_linksWith (wired h).target_lt hl

end NetworkBuilder

/-! ## An island

Two parallel roads, a road back, a road that ends where it begins, and a node without roads.
-/

namespace Island

open Commuter (road)

/-- Two roads side by side, a road back and a road around; no road touches the island. -/
def roads : NetworkBuilder :=
  { nodes := #[⟨"west", ⟨0, 0⟩⟩, ⟨"island", ⟨50, 50⟩⟩, ⟨"east", ⟨100, 0⟩⟩]
    links := #[road "there" 0 2, road "around" 2 2, road "back" 2 0, road "beside" 0 2] }

/-- The network of these roads. -/
def net : Network := .ofParts roads.nodes (roads.links.map LinkSpec.settle)

theorem build_roads : roads.build = .ok net := by
  refine NetworkBuilder.build_of_nodup ?_ ?_ ?_ ?_
  · decide
  · decide
  · simp only [roads, List.forall_mem_cons]
    exact ⟨rfl, rfl, rfl, rfl, List.forall_mem_nil _⟩
  · exact Network.checkMidpoints_eq_ok_iff.2 (.inl (by decide +kernel))

/-- The links of the island are listed at their ends. -/
theorem listed_at_ends_island :
    roads.build = .ok net ∧
      (∀ n, net.hasNode n = true →
        net.leaving n = some (net.linksWith fun link => link.source = n) ∧
          net.entering n = some (net.linksWith fun link => link.target = n)) ∧
      ∀ l, net.hasLink l = true →
        (net.nodeIds.flatMap fun n => (net.leaving n).getD []).count l = 1 ∧
          (net.nodeIds.flatMap fun n => (net.entering n).getD []).count l = 1 :=
  ⟨build_roads, NetworkBuilder.listed_at_ends build_roads⟩

end Island

end TrafficQueue
