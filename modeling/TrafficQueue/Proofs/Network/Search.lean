import Mathlib.Tactic.Common
import TrafficQueue.Network.Path
import TrafficQueue.Proofs.Network.Adjacency
import TrafficQueue.Proofs.Network.Chain

/-!
# The search for least-time paths

The search pops one path after the other, in the order of their costs, and settles the node at the
end of a path unless the path is stale.  What is known of a settled node is final: every link that
leaves it has been relaxed, and a link that reaches a node later cannot make it cheaper, since no
link takes less than a second.

Paths are never taken out of the heap when they are improved on.  The cheapest path to a node that
is not settled always is in the heap, so the first one that is popped for a node is no other; what
is left for a settled node is dearer than the node, and that is how it is told to be stale.

Main results:

- Definition `Labels.Sound`: what the labels and the heap say about the network at any time.
- Theorem `Labels.Sound.stale_iff`: a path that is popped is stale exactly if its end is settled.
- Theorems `Labels.Sound.pass` and `Labels.Sound.settle`: passing over a stale path and settling the
  end of another one keep the invariant.
- Theorem `Labels.Sound.search_cases`: the search ends with the cost of its target, or without
  having met it when nothing else can be reached.
-/

namespace TrafficQueue

namespace Labels

variable {net : Network} {s : Labels} {n m source target : NodeId} {l : LinkId} {link : Link}
  {base : Nat} {done : List NodeId} {pending : List LinkId} {p : Reached} {rest : Heap}

/-- The link by which a node was reached. -/
def viaOf (s : Labels) (n : NodeId) : Option LinkId := s.via.getD n.index none

/-! ## Relaxing -/

/-- Relaxing a link compares its target's label with the cost over the link. -/
theorem relax_eq (hlink : net.link? l = some link) (hin : link.target.index < s.cost.size)
    (base : Nat) :
    relax net base s l =
      if min (base + link.freeFlow) unreached < s.costOf link.target then
        s.improve l link.target (min (base + link.freeFlow) unreached)
      else s := by
  simp [relax, hlink, costOf, Array.getD_eq_getD_getElem?, Array.getElem?_eq_getElem hin]

/-- A node is improved, and the costs of the others stay. -/
theorem costOf_improve (hn : n.index < s.cost.size) (l : LinkId) (found : Nat) (m : NodeId) :
    (s.improve l n found).costOf m = if m = n then found else s.costOf m := by
  by_cases hm : m = n
  · subst hm
    simp [improve, costOf, Array.getD_eq_getD_getElem?, hn]
  · have hne : n.index ≠ m.index := fun h => hm (Ident.ext h.symm)
    simp [improve, costOf, Array.getD_eq_getD_getElem?, hm, hne]

/-- The link to the improved node is noted, and those to the others stay. -/
theorem viaOf_improve (hn : n.index < s.via.size) (l : LinkId) (found : Nat) (m : NodeId) :
    (s.improve l n found).viaOf m = if m = n then some l else s.viaOf m := by
  by_cases hm : m = n
  · subst hm
    simp [improve, viaOf, Array.getD_eq_getD_getElem?, hn]
  · have hne : n.index ≠ m.index := fun h => hm (Ident.ext h.symm)
    simp [improve, viaOf, Array.getD_eq_getD_getElem?, hm, hne]

/-! ## The invariant -/

/-- What the labels say about the network when the nodes `done` have been settled and the links
`pending` are still to be relaxed. -/
structure Sound (net : Network) (source : NodeId) (done : List NodeId) (pending : List LinkId)
    (s : Labels) : Prop where
  size_cost : s.cost.size = net.nodeCount
  size_via : s.via.size = net.nodeCount
  bound : ∀ n, s.costOf n ≤ unreached
  /-- No node is settled twice. -/
  nodup_done : done.Nodup
  /-- No path is in the heap twice. -/
  nodup_paths : s.heap.paths.Nodup
  done_lt : ∀ n ∈ done, s.costOf n < unreached
  /-- A path in the heap has led to its end, which may have been reached at a lower cost since. -/
  costOf_le : ∀ p ∈ s.heap.paths, s.costOf p.node ≤ p.cost ∧ p.cost < unreached
  /-- The cheapest path to a node that is not settled is in the heap. -/
  waiting : ∀ n, n ∉ done → s.costOf n < unreached → ⟨s.costOf n, n⟩ ∈ s.heap.paths
  /-- What is left in the heap for a settled node is dearer than the node. -/
  stale : ∀ p ∈ s.heap.paths, p.node ∈ done → s.costOf p.node < p.cost
  source_cost : s.costOf source = 0
  /-- Nodes are settled in the order of their costs. -/
  order : ∀ m ∈ done, ∀ n, n ∉ done → s.costOf m ≤ s.costOf n
  relaxed : ∀ l link, net.link? l = some link → link.source ∈ done → l ∉ pending →
    s.costOf link.target ≤ s.costOf link.source + link.freeFlow
  /-- A node was reached from a settled one, over the link that is kept for it. -/
  via : ∀ n l, s.viaOf n = some l → ∃ link, net.link? l = some link ∧ link.target = n ∧
    link.source ∈ done ∧ s.costOf n = s.costOf link.source + link.freeFlow
  root : ∀ n, s.costOf n < unreached → s.viaOf n = none → n = source

/-- Only nodes of the network have been reached. -/
theorem Sound.index_lt (h : s.Sound net source done pending) (hn : s.costOf n < unreached) :
    n.index < net.nodeCount := by
  by_contra hge
  have hnone : s.cost[n.index]? = none := by
    apply Array.getElem?_eq_none
    rw [h.size_cost]
    omega
  have hcost : s.costOf n = unreached := by
    rw [costOf, Array.getD_eq_getD_getElem?, hnone, Option.getD_none]
  omega

theorem sound_start (hsource : source.index < net.nodeCount) :
    (start net.nodeCount source).Sound net source [] [] := by
  have hcost : ∀ n, (start net.nodeCount source).costOf n =
      if n = source then 0 else unreached := by
    intro n
    by_cases hn : n = source
    · subst hn
      simp [start, costOf, Array.getD_eq_getD_getElem?, hsource]
    · have hne : source.index ≠ n.index := fun h => hn (Ident.ext h.symm)
      by_cases hlt : n.index < net.nodeCount
      · simp [start, costOf, Array.getD_eq_getD_getElem?, hn, hne, hlt]
      · simp [start, costOf, Array.getD_eq_getD_getElem?, hn, hlt]
  have hvia : ∀ n, (start net.nodeCount source).viaOf n = none := by
    intro n
    by_cases hlt : n.index < net.nodeCount <;>
      simp [start, viaOf, Array.getD_eq_getD_getElem?, hlt]
  have hpaths : (start net.nodeCount source).heap.paths = [⟨0, source⟩] := rfl
  have hpos : 0 < unreached := by decide
  have hroot : ∀ n, (start net.nodeCount source).costOf n < unreached → n = source := by
    intro n hn
    by_contra hne
    rw [hcost, if_neg hne] at hn
    omega
  refine ⟨by simp [start], by simp [start], ?_, .nil, ?_, List.forall_mem_nil _, ?_, ?_, ?_, ?_,
    List.forall_mem_nil _, ?_, ?_, fun n hn _ => hroot n hn⟩
  · intro n
    rw [hcost]
    split <;> omega
  · rw [hpaths]
    exact List.nodup_singleton _
  · rw [hpaths, List.forall_mem_singleton, hcost, if_pos rfl]
    exact ⟨Nat.le_refl _, hpos⟩
  · intro n _ hn
    rw [hroot n hn, hcost, if_pos rfl, hpaths]
    exact List.mem_singleton_self _
  · exact fun _ _ hdone => absurd hdone List.not_mem_nil
  · rw [hcost, if_pos rfl]
  · exact fun _ _ _ hdone => absurd hdone List.not_mem_nil
  · intro n l h
    rw [hvia] at h
    cases h

/-! ## Relaxing the links of the last settled node -/

/-- A link that does not improve its target can be struck off. -/
theorem Sound.skip (h : s.Sound net source done (l :: pending)) (hlink : net.link? l = some link)
    (hle : s.costOf link.target ≤ s.costOf link.source + link.freeFlow) :
    s.Sound net source done pending := by
  refine { h with relaxed := ?_ }
  intro l' link' hlink' hsource hpending
  by_cases hl : l' = l
  · subst hl
    cases hlink.symm.trans hlink'
    exact hle
  · exact h.relaxed l' link' hlink' hsource (by simp [hl, hpending])

/-- A link from the node that was settled last improves its target. -/
structure Improving (net : Network) (done : List NodeId) (s : Labels) (l : LinkId) (link : Link) :
    Prop where
  known : net.link? l = some link
  source : link.source ∈ done
  last : ∀ m ∈ done, s.costOf m ≤ s.costOf link.source
  lt : s.costOf link.source + link.freeFlow < s.costOf link.target

/-- The labels after the link was taken up. -/
def takeUp (s : Labels) (l : LinkId) (link : Link) : Labels :=
  s.improve l link.target (s.costOf link.source + link.freeFlow)

namespace Improving

/-- The target is dearer than all that is settled. -/
theorem target_not_mem (hi : Improving net done s l link) : link.target ∉ done := by
  intro hmem
  have hle := hi.last _ hmem
  have hlt := hi.lt
  omega

/-- The end of the link gets the cost of the way over the link, and no other cost changes. -/
theorem costOf_takeUp (hi : Improving net done s l link) (hwired : net.Wired)
    (h : s.Sound net source done pending) (m : NodeId) :
    (s.takeUp l link).costOf m =
      if m = link.target then s.costOf link.source + link.freeFlow else s.costOf m := by
  apply costOf_improve
  rw [h.size_cost]
  exact hwired.target_lt l link hi.known

/-- The end of the link is reached over the link, and nothing else changes. -/
theorem viaOf_takeUp (hi : Improving net done s l link) (hwired : net.Wired)
    (h : s.Sound net source done pending) (m : NodeId) :
    (s.takeUp l link).viaOf m = if m = link.target then some l else s.viaOf m := by
  apply viaOf_improve
  rw [h.size_via]
  exact hwired.target_lt l link hi.known

/-- No settled node gets cheaper. -/
theorem kept (hi : Improving net done s l link) (hwired : net.Wired)
    (h : s.Sound net source done pending) (hm : m ∈ done) :
    (s.takeUp l link).costOf m = s.costOf m := by
  have hne : m ≠ link.target := by
    rintro rfl
    exact hi.target_not_mem hm
  rw [hi.costOf_takeUp hwired h, if_neg hne]

/-- What was relaxed before still is, and so is the link now. -/
theorem relaxed (hi : Improving net done s l link) (hwired : net.Wired)
    (h : s.Sound net source done (l :: pending)) {l' : LinkId} {link' : Link}
    (hlink : net.link? l' = some link') (hsource : link'.source ∈ done) (hl' : l' ∉ pending) :
    (s.takeUp l link).costOf link'.target ≤
      (s.takeUp l link).costOf link'.source + link'.freeFlow := by
  rw [hi.kept hwired h hsource, hi.costOf_takeUp hwired h]
  by_cases hl : l' = l
  · subst hl
    cases hi.known.symm.trans hlink
    exact Nat.le_of_eq (if_pos rfl)
  · have hold := h.relaxed l' link' hlink hsource (by simp [hl, hl'])
    have hlt := hi.lt
    split
    · rename_i htarget
      rw [htarget] at hold
      omega
    · exact hold

/-- The link is kept for its target, and the other nodes were reached as before. -/
theorem via (hi : Improving net done s l link) (hwired : net.Wired)
    (h : s.Sound net source done pending) {n : NodeId} {l' : LinkId}
    (hl' : (s.takeUp l link).viaOf n = some l') :
    ∃ link', net.link? l' = some link' ∧ link'.target = n ∧ link'.source ∈ done ∧
      (s.takeUp l link).costOf n = (s.takeUp l link).costOf link'.source + link'.freeFlow := by
  rw [hi.viaOf_takeUp hwired h] at hl'
  by_cases hn : n = link.target
  · subst hn
    rw [if_pos rfl] at hl'
    cases hl'
    refine ⟨link, hi.known, rfl, hi.source, ?_⟩
    rw [hi.costOf_takeUp hwired h, if_pos rfl, hi.kept hwired h hi.source]
  · rw [if_neg hn] at hl'
    rcases h.via n l' hl' with ⟨link', hlink', htarget', hsource', hn'⟩
    refine ⟨link', hlink', htarget', hsource', ?_⟩
    rw [hi.costOf_takeUp hwired h, if_neg hn, hi.kept hwired h hsource', hn']

end Improving

/-- The heap keeps what it has and takes in the path over the link. -/
theorem mem_paths_takeUp {p : Reached} :
    p ∈ (s.takeUp l link).heap.paths ↔
      p = ⟨s.costOf link.source + link.freeFlow, link.target⟩ ∨ p ∈ s.heap.paths :=
  Heap.mem_push

/-- A path in the heap is not cheaper than what is known of its end, also after the link was
taken up. -/
theorem Improving.costOf_le (hi : Improving net done s l link) (hwired : net.Wired)
    (h : s.Sound net source done (l :: pending)) (hp : p ∈ (s.takeUp l link).heap.paths) :
    (s.takeUp l link).costOf p.node ≤ p.cost ∧ p.cost < unreached := by
  have hlt := hi.lt
  have hbound := h.bound link.target
  rw [hi.costOf_takeUp hwired h]
  rcases mem_paths_takeUp.1 hp with rfl | hp
  · rw [if_pos rfl]
    exact ⟨Nat.le_refl _, by dsimp only; omega⟩
  · rcases h.costOf_le p hp with ⟨hle, hreached⟩
    refine ⟨?_, hreached⟩
    split
    · rename_i htarget
      rw [htarget] at hle
      omega
    · exact hle

/-- The path over the link is new to the heap: what it has for the target is dearer. -/
theorem Improving.not_mem_paths (hi : Improving net done s l link)
    (h : s.Sound net source done pending) :
    ⟨s.costOf link.source + link.freeFlow, link.target⟩ ∉ s.heap.paths := by
  intro hmem
  have hle := (h.costOf_le _ hmem).1
  have hlt := hi.lt
  dsimp only at hle
  omega

/-- A link that improves its target is taken up. -/
theorem Sound.takeUp (hwired : net.Wired) (h : s.Sound net source done (l :: pending))
    (hi : Improving net done s l link) : (s.takeUp l link).Sound net source done pending := by
  have hcost := hi.costOf_takeUp hwired h
  have hvia := hi.viaOf_takeUp hwired h
  have hbound := h.bound link.target
  have hlt := hi.lt
  refine ⟨?_, ?_, ?_, h.nodup_done, ?_, ?_, fun p => hi.costOf_le hwired h, ?_, ?_, ?_, ?_,
    fun l' link' => hi.relaxed hwired h, fun n l' => hi.via hwired h, ?_⟩
  · simp [Labels.takeUp, improve, h.size_cost]
  · simp [Labels.takeUp, improve, h.size_via]
  · intro n
    rw [hcost]
    split
    · omega
    · exact h.bound n
  · exact (Heap.perm_push _ _).nodup_iff.2
      (List.nodup_cons.2 ⟨hi.not_mem_paths h, h.nodup_paths⟩)
  · intro m hm
    rw [hi.kept hwired h hm]
    exact h.done_lt m hm
  · intro n hn
    rw [hcost, mem_paths_takeUp]
    split
    · rename_i htarget
      subst htarget
      exact fun _ => .inl rfl
    · exact fun hreached => .inr (h.waiting n hn hreached)
  · intro p hp hdone
    rw [hi.kept hwired h hdone]
    rcases mem_paths_takeUp.1 hp with rfl | hp
    · exact absurd hdone hi.target_not_mem
    · exact h.stale p hp hdone
  · have hne : source ≠ link.target := by
      rintro rfl
      have hzero := h.source_cost
      omega
    rw [hcost, if_neg hne]
    exact h.source_cost
  · intro m hm n hn
    rw [hi.kept hwired h hm, hcost]
    split
    · have hle := hi.last m hm
      omega
    · exact h.order m hm n hn
  · intro n hn hnone
    rw [hvia] at hnone
    by_cases ht : n = link.target
    · rw [if_pos ht] at hnone
      cases hnone
    · rw [hcost, if_neg ht] at hn
      rw [if_neg ht] at hnone
      exact h.root n hn hnone

/-- Relaxing a link of the node that was settled last. -/
theorem Sound.relax (hwired : net.Wired) (h : s.Sound net source done (l :: pending))
    (hlink : net.link? l = some link) (hsource : link.source ∈ done)
    (hlast : ∀ m ∈ done, s.costOf m ≤ s.costOf link.source) :
    (relax net (s.costOf link.source) s l).Sound net source done pending ∧
      ∀ m ∈ done, (relax net (s.costOf link.source) s l).costOf m = s.costOf m := by
  have hbound := h.bound link.target
  have hin : link.target.index < s.cost.size := by
    rw [h.size_cost]
    exact hwired.target_lt l link hlink
  rw [relax_eq hlink hin]
  split
  · rename_i hlt
    have hi : Improving net done s l link := ⟨hlink, hsource, hlast, by omega⟩
    have hfound : min (s.costOf link.source + link.freeFlow) unreached =
        s.costOf link.source + link.freeFlow := by omega
    rw [hfound]
    exact ⟨h.takeUp hwired hi, fun m hm => hi.kept hwired h hm⟩
  · rename_i hge
    exact ⟨h.skip hlink (by omega), fun _ _ => rfl⟩

/-- Relaxing all links of the node that was settled last. -/
theorem Sound.relaxAll (hwired : net.Wired) (hn : n ∈ done)
    (hpending : ∀ l ∈ pending, ∃ link, net.link? l = some link ∧ link.source = n)
    (h : s.Sound net source done pending) (hbase : s.costOf n = base)
    (hlast : ∀ m ∈ done, s.costOf m ≤ base) :
    (pending.foldl (Labels.relax net base) s).Sound net source done [] := by
  induction pending generalizing s with
  | nil => exact h
  | cons l pending ih =>
      rw [List.forall_mem_cons] at hpending
      rcases hpending with ⟨⟨link, hlink, rfl⟩, hrest⟩
      subst hbase
      rcases h.relax hwired hlink hn hlast with ⟨hnext, hkept⟩
      apply ih hrest hnext (hkept _ hn)
      intro m hm
      rw [hkept m hm]
      exact hlast m hm

/-! ## The path that is popped -/

/-- Whatever has not been settled costs as much as the path that is popped, or more. -/
theorem Sound.le_of_pop (h : s.Sound net source done []) (hpop : s.heap.pop = some (p, rest))
    (hm : m ∉ done) : p.cost ≤ s.costOf m := by
  by_cases hreached : s.costOf m < unreached
  · rcases (Heap.mem_iff_of_pop hpop).1 (h.waiting m hm hreached) with heq | hmem
    · exact Nat.le_of_eq (congrArg Reached.cost heq).symm
    · exact Reached.cost_le (Heap.le_of_pop hpop hmem)
  · have hlt := (h.costOf_le p (Heap.mem_of_pop hpop)).2
    omega

/-- The first path that is popped for a node is the cheapest one that was found. -/
theorem Sound.cost_of_open (h : s.Sound net source done []) (hpop : s.heap.pop = some (p, rest))
    (hopen : p.node ∉ done) : p.cost = s.costOf p.node :=
  Nat.le_antisymm (h.le_of_pop hpop hopen) (h.costOf_le p (Heap.mem_of_pop hpop)).1

/-- The end of a path that is popped has been reached. -/
theorem Sound.reached_of_pop (h : s.Sound net source done []) (hpop : s.heap.pop = some (p, rest)) :
    s.costOf p.node < unreached := by
  rcases h.costOf_le p (Heap.mem_of_pop hpop) with ⟨hle, hlt⟩
  exact Nat.lt_of_le_of_lt hle hlt

/-- A path that is popped is dearer than its end exactly if the end was settled before. -/
theorem Sound.stale_iff (h : s.Sound net source done []) (hpop : s.heap.pop = some (p, rest)) :
    s.costOf p.node < p.cost ↔ p.node ∈ done := by
  refine ⟨fun hlt => ?_, h.stale p (Heap.mem_of_pop hpop)⟩
  by_contra hopen
  have heq := h.cost_of_open hpop hopen
  omega

/-- Passing over a stale path keeps the invariant. -/
theorem Sound.pass (h : s.Sound net source done []) (hpop : s.heap.pop = some (p, rest))
    (hstale : s.costOf p.node < p.cost) :
    Sound net source done [] { s with heap := rest } := by
  have hsub : ∀ q ∈ rest.paths, q ∈ s.heap.paths :=
    fun q hq => (Heap.mem_iff_of_pop hpop).2 (.inr hq)
  refine { h with nodup_paths := ?_, costOf_le := ?_, waiting := ?_, stale := ?_ }
  · have hnodup := h.nodup_paths
    rw [Heap.paths_of_pop hpop] at hnodup
    exact (List.nodup_cons.1 hnodup).2
  · exact fun q hq => h.costOf_le q (hsub q hq)
  · intro n hn hreached
    rcases (Heap.mem_iff_of_pop hpop).1 (h.waiting n hn hreached) with rfl | hmem
    · exact absurd hstale (Nat.lt_irrefl _)
    · exact hmem
  · exact fun q hq => h.stale q (hsub q hq)

/-- The end of a path that is not stale moves to the settled nodes, and its links are to be
relaxed. -/
theorem Sound.take (h : s.Sound net source done []) (hpop : s.heap.pop = some (p, rest))
    (hopen : p.node ∉ done) {ids : List LinkId}
    (hids : ∀ l link, net.link? l = some link → link.source = p.node → l ∈ ids) :
    Sound net source (p.node :: done) ids { s with heap := rest } := by
  have hcost := h.cost_of_open hpop hopen
  have hsub : ∀ q ∈ rest.paths, q ∈ s.heap.paths :=
    fun q hq => (Heap.mem_iff_of_pop hpop).2 (.inr hq)
  have hnodup := h.nodup_paths
  rw [Heap.paths_of_pop hpop, List.nodup_cons] at hnodup
  refine ⟨h.size_cost, h.size_via, h.bound, List.nodup_cons.2 ⟨hopen, h.nodup_done⟩, hnodup.2, ?_,
    fun q hq => h.costOf_le q (hsub q hq), ?_, ?_, h.source_cost, ?_, ?_, ?_, h.root⟩
  · exact List.forall_mem_cons.2 ⟨h.reached_of_pop hpop, h.done_lt⟩
  · intro n hn hreached
    rw [List.mem_cons, not_or] at hn
    rcases (Heap.mem_iff_of_pop hpop).1 (h.waiting n hn.2 hreached) with rfl | hmem
    · exact absurd rfl hn.1
    · exact hmem
  · intro q hq hdone
    rcases List.mem_cons.1 hdone with hend | hdone
    · -- another path to the node that is settled now: no path is in the heap twice
      have hle := (h.costOf_le q (hsub q hq)).1
      have hne : q.cost ≠ p.cost := by
        intro heq
        have hqp : q = p := by
          cases q
          cases p
          cases hend
          cases heq
          rfl
        exact hnodup.1 (hqp ▸ hq)
      change s.costOf q.node < q.cost
      rw [hend] at hle ⊢
      omega
    · exact h.stale q (hsub q hq) hdone
  · rw [List.forall_mem_cons]
    constructor
    · intro m hm
      change s.costOf p.node ≤ s.costOf m
      rw [← hcost]
      exact h.le_of_pop hpop fun hdone => hm (List.mem_cons_of_mem _ hdone)
    · intro k hk m hm
      exact h.order k hk m fun hdone => hm (List.mem_cons_of_mem _ hdone)
  · intro l link hlink hsource hl
    rcases List.mem_cons.1 hsource with hsource | hsource
    · exact absurd (hids l link hlink hsource) hl
    · exact h.relaxed l link hlink hsource List.not_mem_nil
  · intro m l hl
    rcases h.via m l hl with ⟨link, hlink, htarget, hsource, hreached⟩
    exact ⟨link, hlink, htarget, List.mem_cons_of_mem _ hsource, hreached⟩

/-- Settling the end of a path that is not stale keeps the invariant. -/
theorem Sound.settle (hwired : net.Wired) (h : s.Sound net source done [])
    (hpop : s.heap.pop = some (p, rest)) (hopen : p.node ∉ done) :
    (s.settle net p rest).Sound net source (p.node :: done) [] := by
  have hcost := h.cost_of_open hpop hopen
  rcases hwired.leaving p.node (h.index_lt (h.reached_of_pop hpop)) with ⟨ids, hleaving, hids⟩
  have htaken := h.take hpop hopen fun l link hlink hsource => (hids l).2 ⟨link, hlink, hsource⟩
  unfold Labels.settle
  rw [hleaving, Option.getD_some]
  refine htaken.relaxAll hwired List.mem_cons_self (fun l hl => (hids l).1 hl) hcost.symm ?_
  rw [List.forall_mem_cons, hcost]
  exact ⟨Nat.le_refl _, fun k hk => h.order k hk p.node hopen⟩

/-! ## The whole search -/

/-- The search ends in one of two ways: with the cost of its target, which whatever is not settled
does not undercut, or without having met it, and then all that is not settled cannot be reached. -/
theorem Sound.search_cases (hwired : net.Wired) (h : s.Sound net source done [])
    (hopen : target ∉ done) :
    ∃ s' done', s'.Sound net source done' [] ∧ target ∉ done' ∧
      ((search net target s = some (s'.costOf target, s') ∧ s'.costOf target < unreached ∧
          ∀ n, n ∉ done' → s'.costOf target ≤ s'.costOf n) ∨
        (search net target s = none ∧ ∀ n, n ∉ done' → s'.costOf n = unreached)) := by
  fun_induction search net target s generalizing done with
  | case1 s hpop =>
      refine ⟨s, done, h, hopen, .inr ⟨rfl, fun n hn => ?_⟩⟩
      by_contra hne
      have hmem := h.waiting n hn (Nat.lt_of_le_of_ne (h.bound n) hne)
      rw [Heap.pop_eq_none_iff.1 hpop] at hmem
      cases hmem
  | case2 s p rest hpop htarget =>
      -- the path is not checked to be fresh, but the target is not settled
      subst htarget
      have hcost := h.cost_of_open hpop hopen
      refine ⟨s, done, h, hopen, .inl ⟨by rw [hcost], h.reached_of_pop hpop, ?_⟩⟩
      rw [← hcost]
      exact fun n hn => h.le_of_pop hpop hn
  | case3 s p rest hpop htarget hstale ih => exact ih (h.pass hpop hstale) hopen
  | case4 s p rest hpop htarget hfresh ih =>
      have hnew := mt (h.stale_iff hpop).2 hfresh
      refine ih (h.settle hwired hpop hnew) ?_
      rw [List.mem_cons]
      rintro (heq | hdone)
      · exact htarget heq.symm
      · exact hopen hdone

end Labels

end TrafficQueue
