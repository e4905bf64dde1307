import TrafficQueue.Proofs.Network.Enrolment

/-!
# Construction of networks

Nodes and links are handed to a builder in any order, and nothing is checked until the network
is built.  It is built if no name repeats, all links are sound, and the links can be
searched.  Then every node and every link has the number under which it was handed over and is
found under its name and no other.

Main results:

- Definition `NetworkBuilder.after`: a builder that has been handed nodes and links.
- Definitions `LinkSpec.Sound` and `Link.Carries`: links that can be built, and what becomes of
  them.
- Theorem `NetworkBuilder.build_after_eq_ok_iff`: when a network is built.
- Theorem `NetworkBuilder.built_network`: nodes, links and names of the network.
- Theorem `NetworkBuilder.exists_refusal`: the error if none is built.
- Theorem `NetworkBuilder.constructs`: all of it, for any nodes and links.
- Theorem `NetworkBuilder.not_built_nowhere`: links without midpoints.
-/

namespace TrafficQueue

/-! ## Links -/

/-- A positive real number. -/
def IsPositive (x : Float) : Prop := x.isFinite = true ∧ 0 < x

/-- A parameter of a link passes its check just when it is positive. -/
theorem isPositiveNumber_iff {x : Float} : isPositiveNumber x = true ↔ IsPositive x := by
  simp [isPositiveNumber, IsPositive]

/-- A link that can be built between so many nodes. -/
structure LinkSpec.Sound (spec : LinkSpec) (nodeCount : Nat) : Prop where
  source : spec.source.index < nodeCount
  target : spec.target.index < nodeCount
  length : IsPositive spec.length
  speed : IsPositive spec.speed
  lanes : IsPositive spec.lanes
  flow : IsPositive spec.settledFlow
  storage : 1 ≤ spec.settledStorage

/-- The check of a link is passed by exactly the sound specifications. -/
theorem LinkSpec.check_eq_ok_iff_sound {spec : LinkSpec} {nodeCount : Nat} :
    spec.check nodeCount = .ok () ↔ spec.Sound nodeCount := by
  rw [check_eq_ok_iff]
  constructor
  · rintro ⟨hsource, htarget, h⟩
    have hstorage : ¬ spec.settledStorage = 0 := by simpa [has] using h .storage
    exact {
      source := hsource
      target := htarget
      length := isPositiveNumber_iff.1 (by simpa [has] using h .length)
      speed := isPositiveNumber_iff.1 (by simpa [has] using h .speed)
      lanes := isPositiveNumber_iff.1 (by simpa [has] using h .lanes)
      flow := isPositiveNumber_iff.1 (by simpa [has] using h .flow)
      storage := Nat.one_le_iff_ne_zero.2 hstorage }
  · intro h
    refine ⟨h.source, h.target, fun flaw => ?_⟩
    cases flaw with
    | length => simp [has, isPositiveNumber_iff.2 h.length]
    | speed => simp [has, isPositiveNumber_iff.2 h.speed]
    | lanes => simp [has, isPositiveNumber_iff.2 h.lanes]
    | flow => simp [has, isPositiveNumber_iff.2 h.flow]
    | storage => simpa [has] using Nat.one_le_iff_ne_zero.1 h.storage

/-- A link has what was given for it, and what follows from that. -/
structure Link.Carries (link : Link) (spec : LinkSpec) : Prop where
  name : link.name = spec.name
  source : link.source = spec.source
  target : link.target = spec.target
  length : link.length = spec.length
  speed : link.speed = spec.speed
  lanes : link.lanes = spec.lanes
  flowGiven : ∀ flow, spec.flow = some flow → link.flow = flow
  flowDerived : spec.flow = none → link.flow = spec.lanes * 1800 / 3600
  storageGiven : ∀ storage, spec.storage = some storage → link.storage = storage
  storageDerived : spec.storage = none →
    link.storage = max (Decimal.ceil32 (spec.length * spec.lanes / 7.5)) 1

/-- The settled link has what its specification gives. -/
theorem LinkSpec.carries_settle (spec : LinkSpec) : spec.settle.Carries spec := by
  refine ⟨rfl, rfl, rfl, rfl, rfl, rfl, fun flow h => ?_, fun h => ?_, fun storage h => ?_,
    fun h => ?_⟩
  · simp [settle, settledFlow, h]
  · simp only [settle, settledFlow, h]
    rfl
  · simp [settle, settledStorage, h]
  · simp only [settle, settledStorage, h]
    rfl

/-! ## Names -/

/-- Names that do not repeat lead to their things and to nothing else. -/
theorem NameIndex.getElem?_ofNames_eq_some_iff {kind : Numbered} {names : List String}
    (h : names.Nodup) {name : String} {i : Ident kind} :
    (ofNames names : NameIndex kind)[name]? = some i ↔ names[i.index]? = some name := by
  rw [ofNames, getElem?_extend h, Nat.zero_add]
  by_cases hmem : name ∈ names
  · rw [if_pos hmem, Option.some_inj]
    constructor
    · rintro rfl
      exact List.getElem?_idxOf hmem
    · intro hi
      rcases List.getElem?_eq_some_iff.1 hi with ⟨hlt, rfl⟩
      exact Ident.ext (h.idxOf_getElem _ hlt)
  · rw [if_neg hmem]
    exact ⟨fun hi => (by simp at hi), fun hi => (hmem (List.mem_of_getElem? hi)).elim⟩

/-- With distinct names the index leads from a name to the thing that has it, and to nothing
else. -/
theorem NameIndex.getElem?_eq_some_iff_exists {α : Type} {kind : Numbered} {things : Array α}
    {nameOf : α → String} (h : (things.toList.map nameOf).Nodup) {name : String}
    {i : Ident kind} :
    (ofNames (things.toList.map nameOf) : NameIndex kind)[name]? = some i ↔
      ∃ thing, things[i.index]? = some thing ∧ nameOf thing = name := by
  rw [getElem?_ofNames_eq_some_iff h, List.getElem?_map, Array.getElem?_toList,
    Option.map_eq_some_iff]

/-! ## Calls of a builder -/

/-- What a builder is handed. -/
inductive BuilderCall where
  | node (name : String) (position : Point)
  | link (spec : LinkSpec)

namespace BuilderCall

/-- The node that is added by a call. -/
def node? : BuilderCall → Option Node
  | node name position => some ⟨name, position⟩
  | link _ => none

/-- The specification of the link that is added by a call. -/
def spec? : BuilderCall → Option LinkSpec
  | node _ _ => none
  | link spec => some spec

end BuilderCall

/-- The nodes that are handed over in calls. -/
def nodesIn (calls : List BuilderCall) : List Node := calls.filterMap BuilderCall.node?

/-- The links that are handed over in calls. -/
def specsIn (calls : List BuilderCall) : List LinkSpec := calls.filterMap BuilderCall.spec?

namespace NetworkBuilder

/-- A builder after a call. -/
def call (b : NetworkBuilder) : BuilderCall → NetworkBuilder
  | .node name position => (b.addNode name position).2
  | .link spec => (b.addLink spec).2

/-- A new builder after calls, one after the other. -/
def after (calls : List BuilderCall) : NetworkBuilder := calls.foldl call {}

/-- Calls add their nodes and their links at the ends, in order. -/
theorem collected_foldl_call (b : NetworkBuilder) (calls : List BuilderCall) :
    (calls.foldl call b).nodes.toList = b.nodes.toList ++ nodesIn calls ∧
      (calls.foldl call b).links.toList = b.links.toList ++ specsIn calls := by
  induction calls generalizing b with
  | nil => exact ⟨(List.append_nil _).symm, (List.append_nil _).symm⟩
  | cons c calls ih =>
      rcases ih (b.call c) with ⟨hnodes, hlinks⟩
      rw [List.foldl_cons, hnodes, hlinks]
      cases c with
      | node name position => exact ⟨by simp [call, addNode, nodesIn, BuilderCall.node?], rfl⟩
      | link spec => exact ⟨rfl, by simp [call, addLink, specsIn, BuilderCall.spec?]⟩

variable (calls : List BuilderCall)

/-- The nodes of the calls have been collected, in order. -/
@[simp]
theorem nodes_after : (after calls).nodes.toList = nodesIn calls :=
  (collected_foldl_call {} calls).1

/-- The specifications of the calls have been collected, in order. -/
@[simp]
theorem links_after : (after calls).links.toList = specsIn calls :=
  (collected_foldl_call {} calls).2

@[simp]
theorem nodeCount_after : (after calls).nodeCount = (nodesIn calls).length := by
  rw [nodeCount, ← Array.length_toList, nodes_after]

@[simp]
theorem linkCount_after : (after calls).linkCount = (specsIn calls).length := by
  rw [linkCount, ← Array.length_toList, links_after]

/-! ## What is built -/

/-- The links can be searched: there are few of them, or there is a midpoint between the ends of
every one. -/
def Searchable : Prop :=
  (specsIn calls).length ≤ Network.unsortedLinks ∨
    ∀ spec ∈ specsIn calls, ∀ source target,
      (nodesIn calls)[spec.source.index]? = some source →
      (nodesIn calls)[spec.target.index]? = some target →
      (source.position.midpoint target.position).isDefined = true

/-- What has been handed over can be built. -/
structure Buildable : Prop where
  nodes : ((nodesIn calls).map Node.name).Nodup
  links : ((specsIn calls).map LinkSpec.name).Nodup
  sound : ∀ spec ∈ specsIn calls, spec.Sound (nodesIn calls).length

/-- A network with the nodes and links that have been handed over. -/
structure Built (net : Network) : Prop where
  nodeCount : net.nodeCount = (nodesIn calls).length
  linkCount : net.linkCount = (specsIn calls).length
  /-- A node has the number of the nodes before it, which the builder has answered. -/
  node : ∀ before name position since, calls = before ++ .node name position :: since →
    ((after before).addNode name position).1 = ⟨(nodesIn before).length⟩ ∧
      net.node? ⟨(nodesIn before).length⟩ = some ⟨name, position⟩
  link : ∀ before spec since, calls = before ++ .link spec :: since →
    ((after before).addLink spec).1 = ⟨(specsIn before).length⟩ ∧
      ∃ link, net.link? ⟨(specsIn before).length⟩ = some link ∧ link.Carries spec
  /-- A node is found by its name, and nothing by any other name. -/
  nodeNamed : ∀ name id, net.nodeNamed name = some id ↔
    ∃ node, net.node? id = some node ∧ node.name = name
  linkNamed : ∀ name id, net.linkNamed name = some id ↔
    ∃ link, net.link? id = some link ∧ link.name = name

variable {calls} {net : Network}

/-- The network that is built, if any is. -/
def network (calls : List BuilderCall) : Network :=
  .ofParts (after calls).nodes ((after calls).links.map LinkSpec.settle)

/-- A node of the network has the number of its call among those that add nodes. -/
theorem node?_network (id : NodeId) : (network calls).node? id = (nodesIn calls)[id.index]? := by
  rw [← nodes_after, Array.getElem?_toList]
  rfl

/-- A link of the network has the number of its call among those that add links, with its parameters
settled. -/
theorem link?_network (id : LinkId) :
    (network calls).link? id = (specsIn calls)[id.index]?.map LinkSpec.settle := by
  rw [← links_after, Array.getElem?_toList, ← Array.getElem?_map]
  rfl

/-- With distinct names a node is found by its name. -/
theorem nodeNamed_network (h : ((nodesIn calls).map Node.name).Nodup) (name : String)
    (id : NodeId) :
    (network calls).nodeNamed name = some id ↔
      ∃ node, (network calls).node? id = some node ∧ node.name = name := by
  rw [← nodes_after] at h
  exact NameIndex.getElem?_eq_some_iff_exists h

/-- With distinct names a link is found by its name. -/
theorem linkNamed_network (h : ((specsIn calls).map LinkSpec.name).Nodup) (name : String)
    (id : LinkId) :
    (network calls).linkNamed name = some id ↔
      ∃ link, (network calls).link? id = some link ∧ link.name = name := by
  rw [← links_after, ← names_settle] at h
  exact NameIndex.getElem?_eq_some_iff_exists h

/-- All nodes and links have the numbers that the builder has answered, and are found by their
names. -/
theorem built_network (h : Buildable calls) : Built calls (network calls) := by
  refine ⟨?_, ?_, ?_, ?_, nodeNamed_network h.nodes, linkNamed_network h.links⟩
  · rw [← nodes_after, Array.length_toList]
    rfl
  · rw [← links_after, Array.length_toList]
    exact Array.size_map
  · rintro before name position since rfl
    refine ⟨congrArg Ident.mk (nodeCount_after before), ?_⟩
    rw [node?_network]
    simp [nodesIn, List.filterMap_append, BuilderCall.node?]
  · rintro before spec since rfl
    refine ⟨congrArg Ident.mk (linkCount_after before), spec.settle, ?_, spec.carries_settle⟩
    rw [link?_network]
    simp [specsIn, List.filterMap_append, BuilderCall.spec?]

/-- Nodes are enrolled just when their names are distinct. -/
theorem nodesEnrollable_iff {nodes : List Node} :
    NodesEnrollable nodes ↔ (nodes.map Node.name).Nodup :=
  ⟨fun h => h.distinct, fun h => ⟨fun _ _ => rfl, h⟩⟩

/-- Links are enrolled just when they are sound and their names are distinct. -/
theorem linksEnrollable_iff {nodeCount : Nat} {specs : List LinkSpec} :
    LinksEnrollable nodeCount specs ↔
      (∀ spec ∈ specs, spec.Sound nodeCount) ∧ (specs.map LinkSpec.name).Nodup := by
  constructor
  · intro h
    exact ⟨fun spec hspec => LinkSpec.check_eq_ok_iff_sound.1 (h.sound spec hspec), h.distinct⟩
  · rintro ⟨hsound, hdistinct⟩
    exact ⟨fun spec hspec => LinkSpec.check_eq_ok_iff_sound.2 (hsound spec hspec), hdistinct⟩

/-- The calls give a network when their nodes and their links are enrolled. -/
theorem buildable_iff :
    Buildable calls ↔ NodesEnrollable (after calls).nodes.toList ∧
      LinksEnrollable (after calls).nodeCount (after calls).links.toList := by
  rw [nodes_after, links_after, nodeCount_after, nodesEnrollable_iff, linksEnrollable_iff]
  constructor
  · intro h
    exact ⟨h.nodes, h.sound, h.links⟩
  · rintro ⟨hnodes, hsound, hlinks⟩
    exact ⟨hnodes, hlinks, hsound⟩

/-- A link between nodes lies between their positions. -/
theorem midpoint_network {spec : LinkSpec} {source target : Node}
    (hsource : (nodesIn calls)[spec.source.index]? = some source)
    (htarget : (nodesIn calls)[spec.target.index]? = some target) :
    (network calls).midpoint spec.settle = source.position.midpoint target.position := by
  rw [← node?_network] at hsource htarget
  have hends : spec.settle.source = spec.source ∧ spec.settle.target = spec.target := ⟨rfl, rfl⟩
  rw [Network.midpoint, Network.position, Network.position, hends.1, hends.2, hsource, htarget]
  rfl

/-- The links of the network are the settled links of the calls. -/
theorem mem_links_network {link : Link} :
    link ∈ (network calls).links ↔ ∃ spec ∈ specsIn calls, spec.settle = link := by
  have hlinks : (network calls).links = (after calls).links.map LinkSpec.settle := rfl
  rw [hlinks, Array.mem_map, ← links_after]
  simp only [Array.mem_toList_iff]

/-- The midpoints are checked successfully just when the links can be searched. -/
theorem checkMidpoints_network (h : Buildable calls) :
    (network calls).checkMidpoints = .ok () ↔ Searchable calls := by
  rw [Network.checkMidpoints_eq_ok_iff, (built_network h).linkCount, Searchable]
  refine or_congr_right ⟨fun hdefined spec hspec source target hsource htarget => ?_,
    fun hdefined link hlink => ?_⟩
  · rw [← midpoint_network hsource htarget]
    exact hdefined _ (mem_links_network.2 ⟨spec, hspec, rfl⟩)
  · rcases mem_links_network.1 hlink with ⟨spec, hspec, rfl⟩
    have hsound := h.sound spec hspec
    have hsource := List.getElem?_eq_getElem hsound.source
    have htarget := List.getElem?_eq_getElem hsound.target
    rw [midpoint_network hsource htarget]
    exact hdefined spec hspec _ _ hsource htarget

/-- A network is built if what has been handed over can be built and searched. -/
theorem build_after_eq_ok_iff :
    (after calls).build = .ok net ↔ Buildable calls ∧ Searchable calls ∧ net = network calls := by
  rw [build_eq_ok_iff, ← and_assoc, ← buildable_iff]
  refine and_congr_right fun h => and_congr_left' ?_
  exact checkMidpoints_network h

/-! ## What is not built -/

/-- Why nothing is built: the first problem, of the nodes before the links. -/
inductive Refusal (calls : List BuilderCall) : NetworkError → Prop where
  /-- A node has the name of one before it, whatever else there is. -/
  | repeatedNode {before rest : List Node} {node : Node} :
    nodesIn calls = before ++ node :: rest → (before.map Node.name).Nodup →
    node.name ∈ before.map Node.name → Refusal calls (.duplicateName node.name)
  /-- A link is not sound. -/
  | unsoundLink {before rest : List LinkSpec} {spec : LinkSpec} {e : NetworkError} :
    ((nodesIn calls).map Node.name).Nodup → specsIn calls = before ++ spec :: rest →
    (∀ other ∈ before, other.Sound (nodesIn calls).length) → (before.map LinkSpec.name).Nodup →
    spec.check (nodesIn calls).length = .error e → Refusal calls e
  /-- A sound link has the name of one before it. -/
  | repeatedLink {before rest : List LinkSpec} {spec : LinkSpec} :
    ((nodesIn calls).map Node.name).Nodup → specsIn calls = before ++ spec :: rest →
    (∀ other ∈ before, other.Sound (nodesIn calls).length) → (before.map LinkSpec.name).Nodup →
    spec.Sound (nodesIn calls).length → spec.name ∈ before.map LinkSpec.name →
    Refusal calls (.duplicateName spec.name)
  /-- A link has no midpoint, and there are too many links to do without. -/
  | noMidpoint {spec : LinkSpec} {source target : Node} :
    Buildable calls → Network.unsortedLinks < (specsIn calls).length → spec ∈ specsIn calls →
    (nodesIn calls)[spec.source.index]? = some source →
    (nodesIn calls)[spec.target.index]? = some target →
    (source.position.midpoint target.position).isDefined = false →
    Refusal calls (.undefinedMidpoint spec.name)

/-- If a node is not enrolled, the first such node is the reason why there is no network. -/
theorem refusal_of_nodes (h : ¬ NodesEnrollable (after calls).nodes.toList) :
    ∃ e, (after calls).build = .error e ∧ Refusal calls e := by
  rcases exists_obstacle .node h with ⟨before, node, rest, e, hnodes, hbefore, hnode, henroll⟩
  rw [nodes_after] at hnodes
  refine ⟨e, buildWith_of_nodes_error henroll, ?_⟩
  rcases obstacle?_eq_some_iff.1 hnode with hcheck | ⟨-, hrepeated, rfl⟩
  · cases hcheck
  · exact .repeatedNode hnodes hbefore.distinct hrepeated

/-- If the nodes are enrolled and a link is not, the first such link is the reason why there is no
network. -/
theorem refusal_of_links (hnodes : NodesEnrollable (after calls).nodes.toList)
    (h : ¬ LinksEnrollable (after calls).nodeCount (after calls).links.toList) :
    ∃ e, (after calls).build = .error e ∧ Refusal calls e := by
  rcases exists_obstacle .link h with ⟨before, spec, rest, e, hspecs, hbefore, hspec, henroll⟩
  refine ⟨e, buildWith_of_links_error hnodes henroll, ?_⟩
  rw [nodes_after, nodesEnrollable_iff] at hnodes
  rw [links_after] at hspecs
  rw [nodeCount_after] at hbefore hspec
  rcases linksEnrollable_iff.1 hbefore with ⟨hsound, hdistinct⟩
  rcases obstacle?_eq_some_iff.1 hspec with hcheck | ⟨hcheck, hrepeated, rfl⟩
  · exact .unsoundLink hnodes hspecs hsound hdistinct hcheck
  · exact .repeatedLink hnodes hspecs hsound hdistinct
      (LinkSpec.check_eq_ok_iff_sound.1 hcheck) hrepeated

/-- What is refused by the check of the midpoints is refused by the build. -/
theorem build_of_checkMidpoints {e : NetworkError} (hbuildable : Buildable calls)
    (h : (network calls).checkMidpoints = .error e) : (after calls).build = .error e := by
  rcases buildable_iff.1 hbuildable with ⟨hnodes, hlinks⟩
  rw [build, buildWith_of_enrollable hnodes hlinks]
  change (network calls).checkMidpoints >>= _ = _
  rw [h]
  rfl

/-- What the check of the midpoints refuses are links that cannot be searched. -/
theorem refusal_of_checkMidpoints {e : NetworkError} (hbuildable : Buildable calls)
    (h : (network calls).checkMidpoints = .error e) : Refusal calls e := by
  unfold Network.checkMidpoints at h
  split at h
  · cases h
  · rename_i hmany
    rw [(built_network hbuildable).linkCount] at hmany
    split at h
    · rename_i link hfind
      cases h
      have hlink := List.mem_of_find?_eq_some hfind
      rcases mem_links_network.1 (Array.mem_toList_iff.1 hlink) with ⟨spec, hspec, rfl⟩
      have hsound := hbuildable.sound spec hspec
      have hsource := List.getElem?_eq_getElem hsound.source
      have htarget := List.getElem?_eq_getElem hsound.target
      have hundefined := List.find?_some hfind
      rw [midpoint_network hsource htarget, Bool.not_eq_true'] at hundefined
      exact .noMidpoint hbuildable (Nat.lt_of_not_le hmany) hspec hsource htarget hundefined
    · cases h

/-- What cannot be built or searched is refused with the first problem. -/
theorem exists_refusal (h : ¬ (Buildable calls ∧ Searchable calls)) :
    ∃ e, (after calls).build = .error e ∧ Refusal calls e := by
  by_cases hnodes : NodesEnrollable (after calls).nodes.toList
  · by_cases hlinks : LinksEnrollable (after calls).nodeCount (after calls).links.toList
    · have hbuildable := buildable_iff.2 ⟨hnodes, hlinks⟩
      cases hmidpoints : (network calls).checkMidpoints with
      | ok _ => exact (h ⟨hbuildable, (checkMidpoints_network hbuildable).1 hmidpoints⟩).elim
      | error e =>
          exact ⟨e, build_of_checkMidpoints hbuildable hmidpoints,
            refusal_of_checkMidpoints hbuildable hmidpoints⟩
    · exact refusal_of_links hnodes hlinks
  · exact refusal_of_nodes hnodes

/-- What comes of nodes and links that have been handed over. -/
structure Constructs (calls : List BuilderCall) : Prop where
  succeeds : (∃ net, (after calls).build = .ok net) ↔ Buildable calls ∧ Searchable calls
  built : ∀ net, (after calls).build = .ok net → Built calls net
  refused : ∀ e, (after calls).build = .error e → Refusal calls e

/-- Whatever is handed over, the network has it all in its place, or the build fails with the first
problem. -/
theorem constructs (calls : List BuilderCall) : Constructs calls := by
  refine ⟨⟨?_, ?_⟩, ?_, ?_⟩
  · rintro ⟨net, h⟩
    rcases build_after_eq_ok_iff.1 h with ⟨hbuildable, hsearchable, -⟩
    exact ⟨hbuildable, hsearchable⟩
  · rintro ⟨hbuildable, hsearchable⟩
    exact ⟨network calls, build_after_eq_ok_iff.2 ⟨hbuildable, hsearchable, rfl⟩⟩
  · intro net h
    rcases build_after_eq_ok_iff.1 h with ⟨hbuildable, -, rfl⟩
    exact built_network hbuildable
  · intro e h
    have hnot : ¬ (Buildable calls ∧ Searchable calls) := by
      rintro ⟨hbuildable, hsearchable⟩
      rw [build_after_eq_ok_iff.2 ⟨hbuildable, hsearchable, rfl⟩] at h
      cases h
    rcases exists_refusal hnot with ⟨e', hbuild, hrefusal⟩
    rw [h] at hbuild
    cases hbuild
    exact hrefusal

end NetworkBuilder

/-! ## Roads to an undefined place -/

namespace Nowhere

/-- Seven roads that differ in their names only. -/
def roads : List LinkSpec :=
  ["x0", "x1", "x2", "x3", "x4", "x5", "x6"].map fun name =>
    { name, source := ⟨0⟩, target := ⟨1⟩, length := 100, speed := 10 }

/-- The place that the roads lead to has a coordinate that is not a number. -/
def calls : List BuilderCall :=
  .node "a" ⟨0, 0⟩ :: .node "b" ⟨0 / 0, 0⟩ :: roads.map .link

end Nowhere

namespace NetworkBuilder

/-- With an undefined place all names are distinct and all roads are sound. -/
theorem buildable_nowhere : Buildable Nowhere.calls := by
  have hcheck : ∀ spec ∈ specsIn Nowhere.calls,
      spec.check (nodesIn Nowhere.calls).length = .ok () := by decide +kernel
  refine ⟨?_, ?_, fun spec hspec => LinkSpec.check_eq_ok_iff_sound.1 (hcheck spec hspec)⟩
  · decide +kernel
  · decide +kernel

/-- Sound links between nodes, all with names of their own, are not built all the same: they have no
midpoints, and there are seven. -/
theorem not_built_nowhere :
    Buildable Nowhere.calls ∧
      (after Nowhere.calls).build = .error (.undefinedMidpoint "x0") := by
  have hmidpoints : (network Nowhere.calls).checkMidpoints = .error (.undefinedMidpoint "x0") := by
    decide +kernel
  exact ⟨buildable_nowhere, build_of_checkMidpoints buildable_nowhere hmidpoints⟩

end NetworkBuilder

end TrafficQueue
