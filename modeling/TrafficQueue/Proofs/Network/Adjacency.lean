import TrafficQueue.Proofs.Network.Enrolment

/-!
# Adjacency of built networks

A network that was built consists of what was collected: its links lead from node to
node, and its adjacency tables have a row for every node, with the links that enter
or leave it and no others.

Main results:

- Theorem `NetworkBuilder.eq_ofParts`: what is built.
- Theorem `NetworkBuilder.wired`: the ends of the links and the rows of the links that
  leave a node.
-/

namespace TrafficQueue

/-- What is built consists of what was collected. -/
theorem NetworkBuilder.eq_ofParts {b : NetworkBuilder} {net : Network} (h : b.build = .ok net) :
    net = .ofParts b.nodes (b.links.map LinkSpec.settle) :=
  (build_eq_ok_iff.1 h).2.2.2

namespace Network

variable {nodes : Array Node} {links : Array Link}

/-- Only links of the network enter its nodes. -/
theorem hasLink_of_entering {n : NodeId} {ids : List LinkId} {l : LinkId}
    (h : (ofParts nodes links).entering n = some ids) (hl : l ∈ ids) :
    (ofParts nodes links).hasLink l = true := by
  rw [entering_ofParts (Compressed.lt_of_row?_sort h)] at h
  cases h
  rcases List.mem_map.1 hl with ⟨⟨link, i⟩, hmem, rfl⟩
  have hi := (List.mem_zipIdx' (List.mem_filter.1 hmem).1).1
  rw [hasLink, decide_eq_true_eq]
  simpa [linkCount, ofParts] using hi

/-- The ends of every link are nodes, and every node has the links that leave it. -/
structure Wired (net : Network) : Prop where
  source_lt : ∀ l link, net.link? l = some link → link.source.index < net.nodeCount
  target_lt : ∀ l link, net.link? l = some link → link.target.index < net.nodeCount
  leaving : ∀ n, n.index < net.nodeCount → ∃ ids, net.leaving n = some ids ∧
    ∀ l, l ∈ ids ↔ ∃ link, net.link? l = some link ∧ link.source = n

end Network

namespace NetworkBuilder

variable {b : NetworkBuilder} {net : Network}

/-- Sound links between nodes are built if no name repeats. -/
theorem build_of_nodup (hnodes : (b.nodes.toList.map Node.name).Nodup)
    (hlinks : (b.links.toList.map LinkSpec.name).Nodup)
    (hcheck : ∀ spec ∈ b.links.toList, spec.check b.nodeCount = .ok ())
    (hmidpoints : (Network.ofParts b.nodes (b.links.map LinkSpec.settle)).checkMidpoints =
      .ok ()) :
    b.build = .ok (.ofParts b.nodes (b.links.map LinkSpec.settle)) :=
  build_eq_ok_iff.2 ⟨⟨fun _ _ => rfl, hnodes⟩, ⟨hcheck, hlinks⟩, hmidpoints, rfl⟩

/-- The links of a built network lead from node to node, and every node has its links at hand. -/
theorem wired (h : b.build = .ok net) : net.Wired := by
  rcases build_eq_ok_iff.1 h with ⟨-, hlinks, -, rfl⟩
  have hchecked := hlinks.sound
  have hends : ∀ l link, (Network.ofParts b.nodes (b.links.map LinkSpec.settle)).link? l =
      some link → link.source.index < b.nodes.size ∧ link.target.index < b.nodes.size := by
    intro l link hlink
    have hmapped : (b.links.map LinkSpec.settle)[l.index]? = some link := hlink
    rw [Array.getElem?_map] at hmapped
    rcases Option.map_eq_some_iff.1 hmapped with ⟨spec, hspec, rfl⟩
    have hmem := Array.mem_toList_iff.2 (Array.mem_of_getElem? hspec)
    rcases LinkSpec.check_eq_ok_iff.1 (hchecked spec hmem) with ⟨hsource, htarget, -⟩
    exact ⟨hsource, htarget⟩
  refine ⟨fun l link hlink => (hends l link hlink).1, fun l link hlink => (hends l link hlink).2,
    fun n hn => ⟨_, Network.leaving_ofParts hn, fun l => ?_⟩⟩
  simp only [List.mem_map, List.mem_filter, decide_eq_true_eq]
  constructor
  · rintro ⟨⟨link, i⟩, ⟨hmem, hsource⟩, rfl⟩
    have hlink := List.mk_mem_zipIdx_iff_getElem?.1 hmem
    rw [Array.getElem?_toList] at hlink
    exact ⟨link, hlink, Ident.ext hsource⟩
  · rintro ⟨link, hlink, rfl⟩
    have hmem : (link, l.index) ∈ (b.links.map LinkSpec.settle).toList.zipIdx := by
      rw [List.mk_mem_zipIdx_iff_getElem?, Array.getElem?_toList]
      exact hlink
    exact ⟨(link, l.index), ⟨hmem, rfl⟩, rfl⟩

end NetworkBuilder

/-! ## A small network

Two roads, there and back.
-/

namespace Commuter

/-- A link of a small network. -/
def road (name : String) (source target : Nat) : LinkSpec :=
  { name, source := ⟨source⟩, target := ⟨target⟩, length := 100, speed := 10, flow := some 1
    storage := some 1 }

/-- What is collected for the small network. -/
def roads : NetworkBuilder :=
  { nodes := #[⟨"west", ⟨0, 0⟩⟩, ⟨"east", ⟨100, 0⟩⟩]
    links := #[road "there" 0 1, road "back" 1 0] }

/-- The small network. -/
def net : Network :=
  .ofParts roads.nodes #[(road "there" 0 1).settle, (road "back" 1 0).settle]

theorem build_roads : roads.build = .ok net := by
  have hnet : Network.ofParts roads.nodes (roads.links.map LinkSpec.settle) = net := by
    simp [net, roads, Network.ofParts]
  rw [← hnet]
  refine NetworkBuilder.build_of_nodup ?_ ?_ ?_ ?_
  · decide
  · decide
  · exact List.forall_mem_cons.2 ⟨rfl, List.forall_mem_singleton.2 rfl⟩
  · exact Network.checkMidpoints_eq_ok_iff.2 (.inl (by decide +kernel))

end Commuter

end TrafficQueue
