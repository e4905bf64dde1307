import TrafficQueue.Network.Basic

/-!
# The nearest link

A link lies at its midpoint.  Coordinates may be infinite or not numbers at all, and so may
distances.  A link at a finite distance is nearer than all others; among links without one, a
distance that is not a number cannot be told from the rest.

To be searched, links are loaded into an index by their midpoints.  All that is asked of a loader is
that it takes a network whose midpoints are numbers; the one that is used here takes others too, as
long as they have few links.

Main results: `Network.loads_checkMidpoints`, what is asked of a loader holds of the one that is
used, `Network.nearest_eq_ok_none_iff`, a network without links and no other has no nearest
link, and `Network.hasLink_of_nearest`, the nearest link belongs to the network.
-/

namespace TrafficQueue

/-- A link and the square of its distance from some place. -/
structure LinkDistance where
  link : LinkId
  squared : Float

/-- The nearest of some links, of equally near ones the first. -/
def LinkDistance.nearest (first : LinkDistance) (others : List LinkDistance) : LinkDistance :=
  others.foldl (fun best d => if d.squared < best.squared then d else best) first

/-- The nearest of some links is one of them. -/
theorem LinkDistance.nearest_mem (first : LinkDistance) (others : List LinkDistance) :
    first.nearest others ∈ first :: others := by
  induction others generalizing first with
  | nil => exact List.mem_singleton_self _
  | cons d others ih =>
    have hstep : first.nearest (d :: others) =
        (if d.squared < first.squared then d else first).nearest others := rfl
    rw [hstep]
    split
    · exact List.mem_cons_of_mem _ (ih d)
    · rcases List.mem_cons.1 (ih first) with h | h
      · exact List.mem_cons.2 (.inl h)
      · exact List.mem_cons_of_mem _ (List.mem_cons_of_mem _ h)

namespace Network

/-! ## Loading links by their midpoints -/

/-- All links have midpoints that are numbers. -/
def HasMidpoints (net : Network) : Prop := ∀ l ∈ net.links, (net.midpoint l).isDefined = true

/-- Loads the links of a network into an index, or fails. -/
abbrev IndexLoader := Network → Except NetworkError Unit

/-- What is asked of a loader: it takes every network whose midpoints are all numbers. -/
def IndexLoader.Loads (load : IndexLoader) : Prop := ∀ net, HasMidpoints net → load net = .ok ()

/-- The links of a network with so many or fewer are not sorted. -/
def unsortedLinks : Nat := 6

/-- Accepts a network whose links can be sorted or need not be, or names one that has no place in
the order. -/
def checkMidpoints (net : Network) : Except NetworkError Unit :=
  if net.linkCount ≤ unsortedLinks then .ok ()
  else
    match net.links.toList.find? fun l => !(net.midpoint l).isDefined with
    | some l => .error (.undefinedMidpoint l.name)
    | none => .ok ()

/-- When a network is loaded: it has few links, or all of them have midpoints. -/
theorem checkMidpoints_eq_ok_iff {net : Network} :
    net.checkMidpoints = .ok () ↔ net.linkCount ≤ unsortedLinks ∨ net.HasMidpoints := by
  unfold checkMidpoints HasMidpoints
  by_cases h : net.linkCount ≤ unsortedLinks
  · simp [h]
  simp only [h, if_false, false_or]
  cases hfind : net.links.toList.find? fun l => !(net.midpoint l).isDefined with
  | some l =>
    refine ⟨fun h => (by cases h), fun h => ?_⟩
    have hdefined := h l (Array.mem_toList_iff.1 (List.mem_of_find?_eq_some hfind))
    simpa [hdefined] using List.find?_some hfind
  | none =>
    refine ⟨fun _ l hl => ?_, fun _ => rfl⟩
    simpa using List.find?_eq_none.1 hfind l (Array.mem_toList_iff.2 hl)

/-- Networks with midpoints are loaded. -/
theorem loads_checkMidpoints : IndexLoader.Loads checkMidpoints := fun _ h =>
  checkMidpoints_eq_ok_iff.2 (.inr h)

/-! ## Searching -/

/-- The links with their distances from a place, ascending by number. -/
def distances (net : Network) (p : Point) : List LinkDistance :=
  net.links.toList.zipIdx.map fun entry => ⟨⟨entry.2⟩, (net.midpoint entry.1).squaredDistance p⟩

/-- The nearest of some links, of equally near ones the first.  A single link is the nearest one
wherever it is; of several, those at a finite distance count, and if none is, all distances have to
be numbers. -/
def nearestOf : List LinkDistance → Except NetworkError (Option LinkId)
  | [] => .ok none
  | [d] => .ok (some d.link)
  | d :: ds =>
    match (d :: ds).filter (·.squared.isFinite), (d :: ds).find? (·.squared.isNaN) with
    | e :: es, _ => .ok (some (e.nearest es).link)
    | [], some e => .error (.undefinedDistance e.link)
    | [], none => .ok (some d.link)

/-- The link whose midpoint is nearest to a place, of equally near ones the lowest; only a network
without links has none. -/
def nearest (net : Network) (p : Point) : Except NetworkError (Option LinkId) :=
  nearestOf (net.distances p)

/-- Where there are links, one is nearest or the distance of one is not a number. -/
theorem nearestOf_cons_ne_none (d : LinkDistance) (ds : List LinkDistance) :
    nearestOf (d :: ds) ≠ .ok none := by
  unfold nearestOf
  split <;> rename_i h
  · cases h
  · simp
  · split <;> simp

/-- The nearest link is one of those at hand. -/
theorem mem_of_nearestOf {ds : List LinkDistance} {l : LinkId} (h : nearestOf ds = .ok (some l)) :
    ∃ d ∈ ds, d.link = l := by
  unfold nearestOf at h
  split at h
  · cases h
  · rename_i d
    cases h
    exact ⟨d, List.mem_singleton_self d, rfl⟩
  · rename_i d ds _
    split at h
    · rename_i e es hfilter
      cases h
      have hmem := LinkDistance.nearest_mem e es
      rw [← hfilter] at hmem
      exact ⟨_, (List.mem_filter.1 hmem).1, rfl⟩
    · cases h
    · cases h
      exact ⟨d, List.mem_cons_self, rfl⟩

/-- Only a network without links has no nearest link. -/
theorem nearest_eq_ok_none_iff {net : Network} {p : Point} :
    net.nearest p = .ok none ↔ net.linkCount = 0 := by
  unfold nearest distances linkCount
  cases hlinks : net.links.toList with
  | nil => simpa [nearestOf] using hlinks
  | cons l ls =>
    have hpos : net.links.size ≠ 0 := by simp [← Array.length_toList, hlinks]
    exact ⟨fun h => absurd h (nearestOf_cons_ne_none _ _), fun h => absurd h hpos⟩

/-- The nearest link belongs to the network. -/
theorem hasLink_of_nearest {net : Network} {p : Point} {l : LinkId}
    (h : net.nearest p = .ok (some l)) : net.hasLink l = true := by
  obtain ⟨d, hd, rfl⟩ := mem_of_nearestOf h
  obtain ⟨entry, hentry, rfl⟩ := List.mem_map.1 hd
  exact decide_eq_true (by simpa [linkCount] using List.snd_lt_of_mem_zipIdx hentry)

end Network

end TrafficQueue
