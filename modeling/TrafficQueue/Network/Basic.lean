import TrafficQueue.Network.Compressed
import TrafficQueue.Network.Index
import TrafficQueue.Network.Link

/-!
# Road networks

Nodes and directed links with dense numbers.  For every node the links that leave it and the links
that enter it are kept at hand, ascending: the adjacency tables are sorted when the network is put
together.  Nodes and links are found by their names in two indices.

Main results: `Network.leaving_ofParts` and `Network.entering_ofParts`, a row of the adjacency
tables has exactly the links with the given end, in ascending order.
-/

namespace TrafficQueue

/-- Nodes and links with what is needed to find one's way among them. -/
structure Network where
  nodes : Array Node
  links : Array Link
  /-- For each node the links that leave it. -/
  outgoing : Compressed
  /-- For each node the links that enter it. -/
  incoming : Compressed
  nodeIndex : NameIndex .node
  linkIndex : NameIndex .link
deriving Inhabited

namespace Network

/-- The network of the given nodes and links.  They are found by their names unless other indices
are given. -/
def ofParts (nodes : Array Node) (links : Array Link)
    (nodeIndex : NameIndex .node := .ofNames (nodes.toList.map Node.name))
    (linkIndex : NameIndex .link := .ofNames (links.toList.map Link.name)) : Network :=
  { nodes
    links
    nodeIndex
    linkIndex
    outgoing := .sort nodes.size (fun l => l.source.index) links.toList.zipIdx
    incoming := .sort nodes.size (fun l => l.target.index) links.toList.zipIdx }

/-! ## Looking up -/

/-- How many nodes there are. -/
def nodeCount (net : Network) : Nat := net.nodes.size

/-- How many links there are. -/
def linkCount (net : Network) : Nat := net.links.size

/-- The node with a number. -/
def node? (net : Network) (n : NodeId) : Option Node := net.nodes[n.index]?

/-- The link with a number. -/
def link? (net : Network) (l : LinkId) : Option Link := net.links[l.index]?

/-- Whether there is a node with the number. -/
def hasNode (net : Network) (n : NodeId) : Bool := n.index < net.nodeCount

/-- Whether there is a link with the number. -/
def hasLink (net : Network) (l : LinkId) : Bool := l.index < net.linkCount

/-- The numbers of all nodes, ascending. -/
def nodeIds (net : Network) : List NodeId := (List.range net.nodeCount).map Ident.mk

/-- The numbers of all links, ascending. -/
def linkIds (net : Network) : List LinkId := (List.range net.linkCount).map Ident.mk

/-- The links that leave a node; a node outside of the network has no answer. -/
def leaving (net : Network) (n : NodeId) : Option (List LinkId) := net.outgoing.row? n.index

/-- The links that enter a node; a node outside of the network has no answer. -/
def entering (net : Network) (n : NodeId) : Option (List LinkId) := net.incoming.row? n.index

/-- The links that leave a node of a network, ascending. -/
theorem leaving_ofParts {nodes : Array Node} {links : Array Link} {n : NodeId}
    (h : n.index < nodes.size) :
    (ofParts nodes links).leaving n =
      some ((links.toList.zipIdx.filter fun l => l.1.source.index = n.index).map
        fun l => ⟨l.2⟩) :=
  Compressed.row?_sort h

/-- The links that enter a node of a network, ascending. -/
theorem entering_ofParts {nodes : Array Node} {links : Array Link} {n : NodeId}
    (h : n.index < nodes.size) :
    (ofParts nodes links).entering n =
      some ((links.toList.zipIdx.filter fun l => l.1.target.index = n.index).map
        fun l => ⟨l.2⟩) :=
  Compressed.row?_sort h

/-- Whether a vehicle at the end of `a` can turn into `b`; links outside of the network have no
answer. -/
def connects (net : Network) (a b : LinkId) : Option Bool := do
  let first ← net.link? a
  let second ← net.link? b
  return first.target = second.source

/-- The number of the link with a name. -/
def linkNamed (net : Network) (name : String) : Option LinkId := net.linkIndex[name]?

/-- The number of the node with a name. -/
def nodeNamed (net : Network) (name : String) : Option NodeId := net.nodeIndex[name]?

/-- The network in short. -/
def summary (net : Network) : String :=
  "Network \x7b nodes: " ++ toString net.nodeCount ++ ", links: " ++ toString net.linkCount ++
    ", .. \x7d"

/-! ## Places -/

/-- Where a node lies; a node that is not in the network lies at the origin. -/
def position (net : Network) (n : NodeId) : Point :=
  ((net.node? n).map Node.position).getD default

/-- The point half way between the ends of a link. -/
def midpoint (net : Network) (l : Link) : Point :=
  (net.position l.source).midpoint (net.position l.target)

/-- The numbers of the network are those under which there are links. -/
theorem hasLink_iff {net : Network} {l : LinkId} :
    net.hasLink l = true ↔ ∃ link, net.link? l = some link := by
  unfold hasLink link? linkCount
  rw [decide_eq_true_eq]
  constructor
  · intro h
    exact ⟨net.links[l.index], Array.getElem?_eq_getElem h⟩
  · rintro ⟨link, h⟩
    exact (Array.getElem?_eq_some_iff.1 h).1

end Network

end TrafficQueue
