import TrafficQueue.Proofs.Geometry.Magnitude
import TrafficQueue.Proofs.Network.LeastTime
import TrafficQueue.Proofs.Scenario.Streets
import TrafficQueue.Scenario.Commute

/-!
# Driving on a grid

A grid is built whatever its size and whatever loads its links.  From the first crossing every other
one can be reached along the column and the row, and the first one from there, so that between any
two links there is a path, and whoever commutes on the grid has a route to work and a route back.

Main results:

- Definition `Grid.build`: a grid with the numbers that its links were given.
- Theorems `Grid.network_eq` and `Grid.buildWith_collected`: the grid is built.
- Definition `Network.Reaches` and theorem `Grid.reaches`: from crossing to crossing in
  a time that grows with the size.
- Theorem `Grid.exists_path`: a path between any two links.
- Definition `Commute.Draws.Chooses` and theorem `Commute.drawPopulation_routes`: of a source of
  random choices no more is asked than that it chooses one of the links it is given.
- Theorem `Grid.build_commutable`: the grid and its commuters.
-/

namespace TrafficQueue

/-! ## Nodes and links one by one -/

namespace NetworkBuilder

/-- Adds nodes one by one; their numbers are returned. -/
def addNodes : List Node → NetworkBuilder → List NodeId × NetworkBuilder
  | [], b => ([], b)
  | node :: nodes, b =>
    let (n, b) := b.addNode node.name node.position
    let (ns, b) := addNodes nodes b
    (n :: ns, b)

/-- Adds links one by one; their numbers are returned. -/
def addLinks : List LinkSpec → NetworkBuilder → List LinkId × NetworkBuilder
  | [], b => ([], b)
  | spec :: specs, b =>
    let (l, b) := b.addLink spec
    let (ls, b) := addLinks specs b
    (l :: ls, b)

/-- Nodes are added in order and get the next numbers. -/
theorem addNodes_eq (nodes : List Node) (b : NetworkBuilder) :
    b.addNodes nodes =
      ((List.range' b.nodeCount nodes.length).map Ident.mk,
        { b with nodes := b.nodes ++ nodes.toArray }) := by
  induction nodes generalizing b with
  | nil => simp [addNodes]
  | cons node nodes ih => simp [addNodes, addNode, ih, nodeCount, List.range'_succ]

/-- Links are added in order and get the next numbers. -/
theorem addLinks_eq (specs : List LinkSpec) (b : NetworkBuilder) :
    b.addLinks specs =
      ((List.range' b.linkCount specs.length).map Ident.mk,
        { b with links := b.links ++ specs.toArray }) := by
  induction specs generalizing b with
  | nil => simp [addLinks]
  | cons spec specs ih => simp [addLinks, addLink, ih, linkCount, List.range'_succ]

end NetworkBuilder

/-! ## Reaching a node in time -/

namespace Network

variable {net : Network} {s t : Nat} {a b c : NodeId}

/-- The links lead from one node to another within so many seconds. -/
def Reaches (net : Network) (secs : Nat) (a b : NodeId) : Prop :=
  ∃ ls, net.Chain a ls b ∧ net.duration ls ≤ secs

theorem Reaches.refl (net : Network) (a : NodeId) : net.Reaches 0 a a :=
  ⟨[], .nil, Nat.le_refl _⟩

theorem Reaches.trans (h : net.Reaches s a b) (h' : net.Reaches t b c) :
    net.Reaches (s + t) a c := by
  rcases h with ⟨ls, hls, hs⟩
  rcases h' with ⟨ms, hms, ht⟩
  refine ⟨ls ++ ms, hls.append hms, ?_⟩
  rw [duration_append]
  exact Nat.add_le_add hs ht

/-- There is a path between links if one can be reached from the other in a time that can be
counted. -/
theorem exists_path_of_reaches {l m : LinkId} {origin destination : Link} (hwired : net.Wired)
    (hl : net.link? l = some origin) (hm : net.link? m = some destination) (hs : s < unreached)
    (h : net.Reaches s origin.target destination.source) : ∃ p, net.path l m = .ok p := by
  rcases h with ⟨ls, hls, hduration⟩
  by_cases hne : l = m
  · exact ⟨⟨[], 0⟩, by simp [path, hm, hne]⟩
  · rcases path_cases hwired hl hm hne with ⟨p, hp, -⟩ | ⟨-, hlong⟩
    · exact ⟨p, hp⟩
    · have hle := hlong ls hls
      omega

end Network

namespace Grid

/-- What is collected for a grid. -/
def collected (size : Nat) : NetworkBuilder :=
  { nodes := (crossings size).toArray, links := (streets size).toArray }

/-- The grid with the numbers that its links were given when they were added one by one. -/
def build (size : Nat) : Except NetworkError (Network × List LinkId) := do
  let (_, b) := NetworkBuilder.addNodes (crossings size) {}
  let (ids, b) := b.addLinks (streets size)
  let net ← b.build
  return (net, ids)

/-- The grid that is built. -/
def built (size : Nat) : Network :=
  .ofParts (collected size).nodes ((collected size).links.map LinkSpec.settle)

variable {size : Nat}

/-- The grid has a square of crossings. -/
theorem length_crossings (size : Nat) : (crossings size).length = size * size := by
  simp [crossings]

/-- No two crossings have the same name. -/
theorem nodup_crossings (size : Nat) : ((crossings size).map Node.name).Nodup := by
  rw [crossings, List.map_map]
  refine List.nodup_range.map_on ?_
  intro i hi j hj h
  rcases crossing_name_injective h with ⟨hcolumn, hrow⟩
  rw [← Nat.div_add_mod i size, ← Nat.div_add_mod j size, hcolumn, hrow]

/-- No two streets have the same name. -/
theorem nodup_streets (size : Nat) : ((streets size).map LinkSpec.name).Nodup := by
  rw [streets_eq, List.map_map]
  exact (nodup_allWays size).map fun w v h => Way.name_injective h

/-! ## The grid is built -/

/-- The streets of the grid pass their checks. -/
theorem Way.Within.check {w : Way} (h : w.Within size) :
    (w.spec size).check (size * size) = .ok () := by
  have hnear := h.near_lt
  have hfar := h.far_lt
  refine LinkSpec.check_eq_ok_iff.2 ⟨?_, ?_, ?_⟩
  · change (if w.forward then _ else _) < _
    split <;> assumption
  · change (if w.forward then _ else _) < _
    split <;> assumption
  · have hflow : ∀ fast : Bool,
        isPositiveNumber (if fast then 2 * streetFlow else streetFlow) = true := by
      decide +kernel
    rintro (_ | _ | _ | _ | _)
    · change (!isPositiveNumber blockLength) = false
      decide +kernel
    · change (!isPositiveNumber freeSpeed) = false
      decide +kernel
    · change (!isPositiveNumber 1) = false
      decide +kernel
    · change (!isPositiveNumber (w.flow size)) = false
      rw [Bool.not_eq_false']
      exact hflow _
    · have hone : 1 ≤ (w.spec size).settledStorage := Nat.le_max_right _ _
      simp only [LinkSpec.has, decide_eq_false_iff_not]
      omega

/-- The coordinates of the crossings are magnitudes. -/
theorem isMagnitude_position (hsize : size < 2 ^ 32) (n : NodeId) :
    IsMagnitude ((built size).position n).x ∧ IsMagnitude ((built size).position n).y := by
  have hblock : ∃ m e hm, blockLength.toModel.unpack = .finite .positive m e hm := ⟨_, _, _, rfl⟩
  rcases hblock with ⟨m, e, hm, hblock⟩
  have hzero : IsMagnitude 0 := Rounding.Magnitude.zero
  unfold Network.position
  cases hnode : (built size).node? n with
  | none => exact ⟨hzero, hzero⟩
  | some node =>
      have hnode' : (crossings size)[n.index]? = some node := by
        rw [← hnode, Network.node?]
        simp [built, Network.ofParts, collected]
      have hmem := List.mem_of_getElem? hnode'
      rcases List.mem_map.1 hmem with ⟨i, hi, rfl⟩
      have hi' : i < size * size := List.mem_range.1 hi
      have hpos : 0 < size := Nat.pos_of_ne_zero (by rintro rfl; omega)
      have hx : i % size < size := Nat.mod_lt i hpos
      have hy : i / size < size := Nat.div_lt_of_lt_mul hi'
      have hcolumn : IsMagnitude (i % size).toFloat := isMagnitude_toFloat (by omega)
      have hrow : IsMagnitude (i / size).toFloat := isMagnitude_toFloat (by omega)
      exact ⟨hcolumn.mul hblock, hrow.mul hblock⟩

/-- All ways have midpoints. -/
theorem hasMidpoints_built (hsize : size < 2 ^ 32) : (built size).HasMidpoints := by
  intro l _
  rcases isMagnitude_position hsize l.source with ⟨hsx, hsy⟩
  rcases isMagnitude_position hsize l.target with ⟨htx, hty⟩
  exact Point.isDefined_midpoint hsx hsy htx hty

/-- What is collected for the grid is built. -/
theorem build_collected (hsize : size < 2 ^ 32) : (collected size).build = .ok (built size) := by
  refine NetworkBuilder.build_of_nodup (nodup_crossings size) (nodup_streets size) ?_
    (Network.loads_checkMidpoints _ (hasMidpoints_built hsize))
  intro spec hspec
  have hspec' : spec ∈ streets size := hspec
  rw [streets_eq] at hspec'
  rcases List.mem_map.1 hspec' with ⟨w, hw, rfl⟩
  have hcount : (collected size).nodeCount = size * size := length_crossings size
  rw [hcount]
  exact (mem_allWays.1 hw).check

/-- Every loader that takes networks with midpoints takes the grid. -/
theorem buildWith_collected {load : Network.IndexLoader} (hload : load.Loads)
    (hsize : size < 2 ^ 32) : (collected size).buildWith load = .ok (built size) := by
  rw [NetworkBuilder.buildWith_eq_build hload (hasMidpoints_built hsize)]
  exact build_collected hsize

/-- The network of the grid is the one that is built. -/
theorem network_eq (hsize : size < 2 ^ 32) : network size = .ok (built size) :=
  build_collected hsize

@[simp]
theorem nodeCount_built (size : Nat) : (built size).nodeCount = size * size :=
  length_crossings size

@[simp]
theorem linkCount_built (size : Nat) : (built size).linkCount = 4 * (size * (size - 1)) := by
  simp [built, Network.linkCount, Network.ofParts, collected, streets_eq, length_allWays]

/-- The grid gives its network and all links of it. -/
theorem build_eq (hsize : size < 2 ^ 32) : build size = .ok (built size, (built size).linkIds) := by
  have hcollected : ((NetworkBuilder.addNodes (crossings size) {}).2.addLinks (streets size)).2 =
      collected size := by
    simp [NetworkBuilder.addNodes_eq, NetworkBuilder.addLinks_eq, collected]
  have hids : ((NetworkBuilder.addNodes (crossings size) {}).2.addLinks (streets size)).1 =
      (built size).linkIds := by
    simp [NetworkBuilder.addNodes_eq, NetworkBuilder.addLinks_eq, Network.linkIds,
      NetworkBuilder.linkCount, streets_eq, length_allWays, List.range_eq_range']
  unfold build
  simp only [hcollected, hids, build_collected hsize]
  rfl

/-! ## The ways as links -/

/-- A link of the grid belongs to the way with its number. -/
theorem link?_built (size : Nat) (l : LinkId) :
    (built size).link? l = (allWays size)[l.index]?.map fun w => (w.spec size).settle := by
  simp [built, Network.link?, Network.ofParts, collected, streets_eq, Function.comp_def]

variable {w v : Way} {l : LinkId} {link : Link}

/-- A link of the grid is a way of it. -/
theorem exists_way (h : (built size).link? l = some link) :
    ∃ w, (allWays size)[l.index]? = some w ∧ w.Within size ∧ link = (w.spec size).settle := by
  rw [link?_built, Option.map_eq_some_iff] at h
  rcases h with ⟨w, hw, rfl⟩
  exact ⟨w, hw, mem_allWays.1 (List.mem_of_getElem? hw), rfl⟩

/-- A way of the grid is a link of it. -/
theorem Way.Within.exists_link (h : w.Within size) :
    ∃ l : LinkId, (allWays size)[l.index]? = some w ∧
      (built size).link? l = some (w.spec size).settle := by
  rcases List.getElem?_of_mem (mem_allWays.2 h) with ⟨i, hi⟩
  refine ⟨⟨i⟩, hi, ?_⟩
  rw [link?_built, hi]
  rfl

/-- The opposite way is on the grid as well. -/
theorem Way.Within.opposite (h : w.Within size) : w.opposite.Within size :=
  ⟨h.column, h.row, h.next⟩

/-- The link leads the other way between the same nodes. -/
def Opposes (net : Network) (l m : LinkId) : Prop :=
  ∃ link other, net.link? l = some link ∧ net.link? m = some other ∧
    other.source = link.target ∧ other.target = link.source

/-- Every link has one link that leads the other way. -/
theorem existsUnique_opposes (h : (built size).link? l = some link) :
    ∃! m, Opposes (built size) l m := by
  rcases exists_way h with ⟨w, hw, hin, rfl⟩
  rcases hin.opposite.exists_link with ⟨m, hm, hother⟩
  refine ⟨m, ⟨_, _, h, hother, w.source_opposite size, w.target_opposite size⟩, ?_⟩
  rintro k ⟨_, other, hlink, hk, hsource, htarget⟩
  cases hlink.symm.trans h
  rcases exists_way hk with ⟨v, hv, hvin, rfl⟩
  have heq : v = w.opposite := Way.eq_opposite hin hvin hsource htarget
  have hindex : k.index < (allWays size).length := (List.getElem?_eq_some_iff.1 hv).1
  exact Ident.ext ((List.getElem?_inj hindex (nodup_allWays size)).1 (by rw [hv, hm, heq]))

/-! ## From crossing to crossing -/

/-- Seconds from crossing to crossing. -/
def blockSecs : Nat := 17

/-- A block takes the same time on every street. -/
theorem freeFlow_spec (size : Nat) (w : Way) : (w.spec size).settle.freeFlow = blockSecs := by
  have hsecs : max (Decimal.floor64 (blockLength / freeSpeed)) 1 = blockSecs := by
    decide +kernel
  exact hsecs

/-- Every way leads from its source to its target. -/
theorem Way.Within.reaches (h : w.Within size) :
    (built size).Reaches blockSecs (w.spec size).source (w.spec size).target := by
  rcases h.exists_link with ⟨l, -, hl⟩
  refine ⟨[l], Network.Chain.single hl, ?_⟩
  rw [Network.duration_cons, Network.freeFlow_of_link? hl, freeFlow_spec]
  exact Nat.le_refl _

/-- Two nodes can be reached from each other within so many seconds. -/
def Meets (size secs : Nat) (a b : NodeId) : Prop :=
  (built size).Reaches secs a b ∧ (built size).Reaches secs b a

variable {s t x y : Nat} {a b c : NodeId}

theorem Meets.symm (h : Meets size s a b) : Meets size s b a :=
  ⟨h.2, h.1⟩

theorem Meets.trans (h : Meets size s a b) (h' : Meets size t b c) : Meets size (s + t) a c :=
  ⟨h.1.trans h'.1, Nat.add_comm t s ▸ h'.2.trans h.2⟩

/-- The number of the crossing at `x` and `y`. -/
def crossingId (size x y : Nat) : NodeId := ⟨y * size + x⟩

/-- Neighbours in a row are a block apart. -/
theorem meets_right (hx : x + 1 < size) (hy : y < size) :
    Meets size blockSecs (crossingId size x y) (crossingId size (x + 1) y) := by
  have hthere : (Way.mk x y true true).Within size := ⟨Nat.lt_of_succ_lt hx, hy, hx⟩
  exact ⟨hthere.reaches, hthere.opposite.reaches⟩

/-- Neighbours in a column are a block apart. -/
theorem meets_above (hx : x < size) (hy : y + 1 < size) :
    Meets size blockSecs (crossingId size x y) (crossingId size x (y + 1)) := by
  have hthere : (Way.mk x y false true).Within size := ⟨hx, Nat.lt_of_succ_lt hy, hy⟩
  have hrow : y * size + x + size = (y + 1) * size + x := by ring
  rw [crossingId, crossingId, ← hrow]
  exact ⟨hthere.reaches, hthere.opposite.reaches⟩

/-- Along the row. -/
theorem meets_row (hx : x < size) (hy : y < size) :
    Meets size (x * blockSecs) (crossingId size 0 y) (crossingId size x y) := by
  induction x with
  | zero =>
      rw [Nat.zero_mul]
      exact ⟨.refl _ _, .refl _ _⟩
  | succ x ih =>
      rw [Nat.succ_mul]
      exact (ih (Nat.lt_of_succ_lt hx)).trans (meets_right hx hy)

/-- Along the first column. -/
theorem meets_column (hy : y < size) :
    Meets size (y * blockSecs) (crossingId size 0 0) (crossingId size 0 y) := by
  induction y with
  | zero =>
      rw [Nat.zero_mul]
      exact ⟨.refl _ _, .refl _ _⟩
  | succ y ih =>
      rw [Nat.succ_mul]
      exact (ih (Nat.lt_of_succ_lt hy)).trans (meets_above (Nat.zero_lt_of_lt hy) hy)

/-- Every crossing and the first one. -/
theorem exists_meets_first (ha : a.index < size * size) :
    ∃ s ≤ 2 * size * blockSecs, Meets size s (crossingId size 0 0) a := by
  have hpos : 0 < size := Nat.pos_of_ne_zero (by rintro rfl; omega)
  have hx : a.index % size < size := Nat.mod_lt a.index hpos
  have hy : a.index / size < size := Nat.div_lt_of_lt_mul ha
  have heq : crossingId size (a.index % size) (a.index / size) = a :=
    Ident.ext (by rw [crossingId, Nat.mul_comm, Nat.div_add_mod])
  refine ⟨_, ?_, heq ▸ (meets_column hy).trans (meets_row hx hy)⟩
  rw [← Nat.add_mul]
  exact Nat.mul_le_mul_right _ (by omega)

/-- From any crossing to any other. -/
theorem reaches (ha : a.index < size * size) (hb : b.index < size * size) :
    ∃ s ≤ 4 * size * blockSecs, (built size).Reaches s a b := by
  rcases exists_meets_first ha with ⟨s, hs, hmeets⟩
  rcases exists_meets_first hb with ⟨t, ht, hmeets'⟩
  exact ⟨s + t, by linarith, (hmeets.symm.trans hmeets').1⟩

/-- There is a path between any two links. -/
theorem exists_path {l m : LinkId} (hsize : size < 2 ^ 32) (hl : (built size).hasLink l = true)
    (hm : (built size).hasLink m = true) : ∃ p, (built size).path l m = .ok p := by
  have hwired := NetworkBuilder.wired (build_collected hsize)
  rcases Network.hasLink_iff.1 hl with ⟨origin, hl⟩
  rcases Network.hasLink_iff.1 hm with ⟨destination, hm⟩
  have ha := hwired.target_lt l origin hl
  have hb := hwired.source_lt m destination hm
  rw [nodeCount_built] at ha hb
  rcases reaches ha hb with ⟨s, hs, hreaches⟩
  have hshort : s < unreached := by
    have hlimit : 4 * 2 ^ 32 * blockSecs < unreached := by decide
    have hlong : 4 * size * blockSecs ≤ 4 * 2 ^ 32 * blockSecs :=
      Nat.mul_le_mul_right _ (by omega)
    omega
  exact Network.exists_path_of_reaches hwired hl hm hshort hreaches

end Grid

/-! ## The commuters -/

namespace Commute

variable {σ : Type} {draws : Draws σ} {net : Network} {links : Array LinkId}
  {drawn : Array Person × σ}

/-- What is asked of a source of choices: it chooses one of the links, if there are any. -/
structure Draws.Chooses (draws : Draws σ) : Prop where
  exists_mem : ∀ source links, 0 < links.size →
    ∃ l ∈ links, (draws.choose source links).1 = some l
  eq_none : ∀ source, (draws.choose source #[]).1 = none

/-- The generator of random numbers chooses one of the links. -/
theorem chooses_random : Draws.random.Chooses := by
  refine ⟨fun r links h => ?_, fun r => rfl⟩
  have hlt : (r.below32 links.size).1 < links.size :=
    Random.drawBelow_lt (fun r => (r.nextHalf.1).toNat_lt) h _ _
  refine ⟨links[(r.below32 links.size).1], Array.getElem_mem hlt, ?_⟩
  change (r.position links.size).1.bind (links[·]?) = _
  rw [Random.position, if_neg (Nat.ne_of_gt h)]
  exact Array.getElem?_eq_getElem hlt

/-- The person drives from link to link on a route there and a route back. -/
def HasRoutes (person : Person) : Prop :=
  person.plan.legs.length = 2 ∧ ∀ leg ∈ person.plan.legs, leg.route.isSome = true

/-- With a path there and a path back both legs have a route. -/
theorem hasRoutes_plan {home work : LinkId} {leave : Time} {name : String}
    (hthere : ∃ p, net.path home work = .ok p) (hback : ∃ p, net.path work home = .ok p) :
    HasRoutes ⟨name, plan net home work leave⟩ := by
  rcases hthere with ⟨p, hp⟩
  rcases hback with ⟨q, hq⟩
  have hlegs : (plan net home work leave).legs =
      [⟨.car, some ⟨home, p.links, work⟩⟩, ⟨.car, some ⟨work, q.links, home⟩⟩] := by
    simp only [plan, Network.route?, hp, hq]
    rfl
  constructor
  · rw [hlegs]
    rfl
  · rw [hlegs]
    exact List.forall_mem_cons.2 ⟨rfl, List.forall_mem_singleton.2 rfl⟩

/-- Home and work are among the links. -/
theorem Draws.Chooses.exists_drawPlan (hdraws : draws.Chooses) (net : Network) (source : σ)
    (h : 0 < links.size) :
    ∃ home ∈ links, ∃ work ∈ links, ∃ leave,
      (drawPlan draws net links source).1 = some (plan net home work leave) := by
  rcases hdraws.exists_mem source links h with ⟨home, hhome, hfirst⟩
  rcases hdraws.exists_mem (draws.choose source links).2 links h with ⟨work, hwork, hsecond⟩
  have hfirst' : draws.choose source links = (some home, (draws.choose source links).2) :=
    Prod.ext hfirst rfl
  have hsecond' : draws.choose (draws.choose source links).2 links =
      (some work, (draws.choose (draws.choose source links).2 links).2) := Prod.ext hsecond rfl
  refine ⟨home, hhome, work, hwork,
    firstLeave.offset (draws.delay (draws.choose (draws.choose source links).2 links).2).1, ?_⟩
  unfold drawPlan
  rw [hfirst']
  dsimp only
  rw [hsecond']

/-- Every draw gives a commuter with routes. -/
theorem Draws.Chooses.drawn_routes (hdraws : draws.Chooses) (h : 0 < links.size)
    (hpaths : ∀ a ∈ links, ∀ b ∈ links, ∃ p, net.path a b = .ok p)
    (hdrawn : ∀ person ∈ drawn.1, HasRoutes person) (numbers : List Nat) :
    (numbers.foldl (drawPerson draws net links) drawn).1.size = drawn.1.size + numbers.length ∧
      ∀ person ∈ (numbers.foldl (drawPerson draws net links) drawn).1, HasRoutes person := by
  induction numbers generalizing drawn with
  | nil => exact ⟨rfl, hdrawn⟩
  | cons i numbers ih =>
      rcases hdraws.exists_drawPlan net drawn.2 h with ⟨home, hhome, work, hwork, leave, hplan⟩
      have hnext : (drawPerson draws net links drawn i).1 =
          drawn.1.push ⟨"commuter_" ++ toString i, plan net home work leave⟩ := by
        simp [drawPerson, hplan]
      have hroutes : ∀ person ∈ (drawPerson draws net links drawn i).1, HasRoutes person := by
        rw [hnext]
        intro person hmem
        rcases Array.mem_push.1 hmem with hmem | rfl
        · exact hdrawn person hmem
        · exact hasRoutes_plan (hpaths home hhome work hwork) (hpaths work hwork home hhome)
      rcases ih hroutes with ⟨hsize, hall⟩
      refine ⟨?_, hall⟩
      rw [List.foldl_cons, hsize, hnext, Array.size_push, List.length_cons]
      omega

/-- Without links nobody is drawn. -/
theorem Draws.Chooses.drawn_nobody (hdraws : draws.Chooses) (numbers : List Nat) :
    (numbers.foldl (drawPerson draws net #[]) drawn).1 = drawn.1 := by
  induction numbers generalizing drawn with
  | nil => rfl
  | cons i numbers ih =>
      have hnone : draws.choose drawn.2 #[] = (none, (draws.choose drawn.2 #[]).2) :=
        Prod.ext (hdraws.eq_none drawn.2) rfl
      rw [List.foldl_cons, ih, drawPerson, drawPlan, hnone]
      rfl

/-- If there is a path between any two links, all commuters have routes, and there are as many as
there should be if there are links.  Which links are chosen makes no difference. -/
theorem drawPopulation_routes (hdraws : draws.Chooses)
    (hpaths : ∀ a ∈ net.linkIds, ∀ b ∈ net.linkIds, ∃ p, net.path a b = .ok p) (source : σ) :
    (drawPopulation draws net source).size = (if net.linkCount = 0 then 0 else commuters) ∧
      ∀ person ∈ (drawPopulation draws net source).persons, HasRoutes person := by
  have hlinks : net.linkIds.toArray.size = net.linkCount := by
    simp [Network.linkIds]
  have hpersons : (drawPopulation draws net source).persons =
      ((List.range commuters).foldl (drawPerson draws net net.linkIds.toArray)
        (#[], source)).1 := by
    rw [drawPopulation]
  rw [Population.size, hpersons]
  by_cases hempty : net.linkCount = 0
  · rw [if_pos hempty, Array.eq_empty_of_size_eq_zero (hlinks.trans hempty), hdraws.drawn_nobody]
    exact ⟨rfl, fun _ hmem => absurd hmem (Array.not_mem_empty _)⟩
  · have hpos : 0 < net.linkIds.toArray.size := by omega
    have hpaths' : ∀ a ∈ net.linkIds.toArray, ∀ b ∈ net.linkIds.toArray,
        ∃ p, net.path a b = .ok p := by
      simpa using hpaths
    have hnobody : ∀ person ∈ ((#[], source) : Array Person × σ).1, HasRoutes person :=
      fun _ hmem => absurd hmem (Array.not_mem_empty _)
    rcases hdraws.drawn_routes hpos hpaths' hnobody (List.range commuters) with ⟨hsize, hroutes⟩
    rw [if_neg hempty, hsize, List.length_range]
    exact ⟨Nat.zero_add _, hroutes⟩

end Commute

/-! ## The grid and its commuters -/

namespace Grid

/-- A grid whose crossings and links can be numbered is built: its links are numbered in the order
in which they are added, each has one link that leads the other way, there is a path between any
two of them, and all commuters have routes for both of their legs.  That does not depend on what
loads the links, nor on which links are chosen for the commuters. -/
theorem build_commutable (size : Nat) (hnodes : size * size < Ident.limit - 1)
    (hlinks : 4 * (size * (size - 1)) < Ident.limit - 1) :
    ∃ net ids, build size = .ok (net, ids) ∧ network size = .ok net ∧
      (∀ load : Network.IndexLoader, load.Loads → (collected size).buildWith load = .ok net) ∧
      net.nodeCount = size * size ∧ net.linkCount = 4 * (size * (size - 1)) ∧
      ids = net.linkIds ∧ ids.Pairwise (·.index < ·.index) ∧
      (∀ l ∈ ids, Ident.ofNat l.index = .ok l ∧ l.isAssigned = true) ∧
      (∀ l ∈ ids, ∃! m, Opposes net l m) ∧
      (∀ a ∈ ids, ∀ b ∈ ids, ∃ p, net.path a b = .ok p) ∧
      (∀ (σ : Type) (draws : Commute.Draws σ), draws.Chooses → ∀ source,
        (Commute.drawPopulation draws net source).size =
            (if net.linkCount = 0 then 0 else Commute.commuters) ∧
          ∀ person ∈ (Commute.drawPopulation draws net source).persons,
            Commute.HasRoutes person) ∧
      ∀ seed, (Commute.population net seed).size =
          (if net.linkCount = 0 then 0 else Commute.commuters) ∧
        ∀ person ∈ (Commute.population net seed).persons, Commute.HasRoutes person := by
  have hsize : size < 2 ^ 32 := by
    have hlimit : Ident.limit = 2 ^ 32 := rfl
    by_contra hlarge
    have hsquare : 2 ^ 32 * 2 ^ 32 ≤ size * size := Nat.mul_le_mul (by omega) (by omega)
    omega
  have hmem : ∀ l : LinkId, l ∈ (built size).linkIds ↔ (built size).hasLink l = true := by
    intro l
    rcases l with ⟨i⟩
    simp [Network.linkIds, Network.hasLink]
  have hpaths : ∀ a ∈ (built size).linkIds, ∀ b ∈ (built size).linkIds,
      ∃ p, (built size).path a b = .ok p := fun a ha b hb =>
    exists_path hsize ((hmem a).1 ha) ((hmem b).1 hb)
  refine ⟨built size, _, build_eq hsize, network_eq hsize,
    fun load hload => buildWith_collected hload hsize, nodeCount_built size, linkCount_built size,
    rfl, ?_, ?_, ?_, hpaths,
    fun σ draws hdraws => Commute.drawPopulation_routes hdraws hpaths,
    fun seed => Commute.drawPopulation_routes Commute.chooses_random hpaths (.ofSeed seed)⟩
  · exact List.Pairwise.map Ident.mk (fun _ _ hlt => hlt) List.pairwise_lt_range
  · intro l hl
    have hlt := (hmem l).1 hl
    rw [Network.hasLink, decide_eq_true_eq, linkCount_built] at hlt
    refine ⟨Ident.ofNat_eq_ok_iff.2 ⟨by omega, rfl⟩, decide_eq_true ?_⟩
    rintro rfl
    have hunassigned : (Ident.unassigned : LinkId).index = Ident.limit - 1 := rfl
    omega
  · intro l hl
    rcases Network.hasLink_iff.1 ((hmem l).1 hl) with ⟨link, hlink⟩
    exact existsUnique_opposes hlink

/-- On the grid of the program everybody who commutes has both routes. -/
theorem build_commutable_morning :
    ∃ net ids, build Commute.gridSize = .ok (net, ids) ∧ net.linkCount = 360 ∧
      ∀ seed, (Commute.population net seed).size = 2000 ∧
        ∀ person ∈ (Commute.population net seed).persons, Commute.HasRoutes person := by
  rcases build_commutable Commute.gridSize (by decide) (by decide) with
    ⟨net, ids, hbuild, -, -, -, hcount, -, -, -, -, -, -, hpopulation⟩
  have hlinks : net.linkCount = 360 := hcount
  refine ⟨net, ids, hbuild, hlinks, fun seed => ?_⟩
  rcases hpopulation seed with ⟨hsize, hroutes⟩
  rw [hlinks] at hsize
  exact ⟨hsize, hroutes⟩

end Grid

end TrafficQueue
