import TrafficQueue.Network.Nearest
import TrafficQueue.Room

/-!
# Building networks

Nodes and links are collected unchecked and numbered in the order of arrival; building checks them
all and settles the capacities.

Main results: `NetworkBuilder.nodeCount_addNode` and `NetworkBuilder.linkCount_addLink`: the numbers
handed out are positions.
-/

namespace TrafficQueue

/-- What has been collected for a network. -/
structure NetworkBuilder where
  nodes : Array Node := #[]
  links : Array LinkSpec := #[]

namespace NetworkBuilder

/-- At first nothing has been collected. -/
instance : Inhabited NetworkBuilder := ⟨{}⟩

/-- Bytes of a collected node, the text of its name apart. -/
def nodeSize : Nat := 40

/-- Nothing collected, but room set aside for so many nodes; there is no builder if no block of
memory holds them. -/
def withRoom? (nodes : Nat) : Option NetworkBuilder :=
  if Room.fits nodes nodeSize then some {} else none

/-- How many nodes have been collected. -/
def nodeCount (b : NetworkBuilder) : Nat := b.nodes.size

/-- How many links have been collected. -/
def linkCount (b : NetworkBuilder) : Nat := b.links.size

/-- Adds a node; its number is returned. -/
def addNode (b : NetworkBuilder) (name : String) (position : Point) : NodeId × NetworkBuilder :=
  (⟨b.nodeCount⟩, { b with nodes := b.nodes.push ⟨name, position⟩ })

/-- Adds a link; its number is returned. -/
def addLink (b : NetworkBuilder) (spec : LinkSpec) : LinkId × NetworkBuilder :=
  (⟨b.linkCount⟩, { b with links := b.links.push spec })

/-- Where a collected node lies. -/
def position? (b : NetworkBuilder) (n : NodeId) : Option Point :=
  b.nodes[n.index]?.map Node.position

/-- Numbers things from `next` on and puts them into an index by their names.  Each of them has to
pass a check and to have a new name; the problem of the first one that does not is given. -/
def enroll {α : Type} {kind : Numbered} (check : α → Except NetworkError Unit) (name : α → String)
    (index : NameIndex kind) (next : Nat) : List α → Except NetworkError (NameIndex kind)
  | [] => .ok index
  | thing :: things =>
    match check thing with
    | .error e => .error e
    | .ok () =>
      if index.contains (name thing) then .error (.duplicateName (name thing))
      else enroll check name (index.insert (name thing) ⟨next⟩) (next + 1) things

/-- The network of what was collected, if all of it is sound and `load` takes its links. -/
def buildWith (load : Network.IndexLoader) (b : NetworkBuilder) : Except NetworkError Network := do
  let nodeIndex ← enroll (fun _ => .ok ()) Node.name ∅ 0 b.nodes.toList
  let linkIndex ← enroll (fun spec => spec.check b.nodeCount) LinkSpec.name ∅ 0 b.links.toList
  let net := Network.ofParts b.nodes (b.links.map LinkSpec.settle) nodeIndex linkIndex
  load net
  return net

/-- The network of what was collected, if all of it is sound and its links can be searched. -/
def build (b : NetworkBuilder) : Except NetworkError Network :=
  b.buildWith Network.checkMidpoints

@[simp] theorem nodeCount_addNode (b : NetworkBuilder) (name : String) (p : Point) :
    (b.addNode name p).1.index = b.nodeCount ∧
      (b.addNode name p).2.nodeCount = b.nodeCount + 1 := by
  simp [addNode, nodeCount]

@[simp] theorem linkCount_addLink (b : NetworkBuilder) (spec : LinkSpec) :
    (b.addLink spec).1.index = b.linkCount ∧ (b.addLink spec).2.linkCount = b.linkCount + 1 := by
  simp [addLink, linkCount]

end NetworkBuilder

end TrafficQueue
