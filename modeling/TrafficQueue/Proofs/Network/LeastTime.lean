import Mathlib.Data.List.Perm.Subperm
import TrafficQueue.Proofs.Network.Search

/-!
# Least-time paths

The path between two links is a chain of links that takes the least time and visits no
node twice.  There is none exactly when every chain takes longer than can be counted.

Main results:

- Theorem `Labels.Sound.le_duration`: no chain undercuts the costs that the search found.
- Theorem `Labels.Sound.exists_trace`: going back over the links by which the nodes were
  reached comes to the source, and the links form a chain that takes what its end costs.
- Theorem `Network.least_time_path`: paths between links are of least time.
-/

namespace TrafficQueue

/-- There are no more different nodes than the network has. -/
theorem Network.length_le_nodeCount {net : Network} {ns : List NodeId} (hnodup : ns.Nodup)
    (hlt : ∀ n ∈ ns, n.index < net.nodeCount) : ns.length ≤ net.nodeCount := by
  have hsub : ns ⊆ net.nodeIds := fun n hn =>
    List.mem_map.2 ⟨n.index, List.mem_range.2 (hlt n hn), rfl⟩
  have hlength := (hnodup.subperm hsub).length_le
  rwa [Network.nodeIds, List.length_map, List.length_range] at hlength

namespace Labels

variable {net : Network} {s : Labels} {n source a b : NodeId} {done seen : List NodeId}
  {ls : List LinkId} {bound unseen : Nat}

/-- A chain takes as long as the costs of its ends differ, unless it leads to where the search has
not been. -/
theorem Sound.le_duration (h : s.Sound net source done [])
    (hbound : ∀ n, n ∉ done → bound ≤ s.costOf n) (hchain : net.Chain a ls b) :
    min (s.costOf b) bound ≤ s.costOf a + net.duration ls := by
  induction hchain with
  | nil =>
      rw [Network.duration_nil]
      omega
  | @cons l link ls b hlink _ ih =>
      rw [Network.duration_cons, Network.freeFlow_of_link? hlink]
      by_cases hdone : link.source ∈ done
      · have hrelaxed := h.relaxed l link hlink hdone List.not_mem_nil
        omega
      · have hopen := hbound link.source hdone
        omega

/-- Nodes of rising costs are different nodes. -/
theorem nodup_of_rising {ns : List NodeId}
    (h : ns.Pairwise fun a b => s.costOf a < s.costOf b) : ns.Nodup := by
  apply h.imp
  rintro a b hlt rfl
  exact Nat.lt_irrefl _ hlt

/-- The links lead from the source to a node over nodes of rising costs, and take as long as the
node costs. -/
structure Leads (net : Network) (s : Labels) (source : NodeId) (ls : List LinkId) (n : NodeId) :
    Prop where
  chain : net.Chain source ls n
  duration : net.duration ls = s.costOf n
  rising : (net.stops source ls).Pairwise fun a b => s.costOf a < s.costOf b
  le : ∀ m ∈ net.stops source ls, s.costOf m ≤ s.costOf n

/-- To the source leads the path without links. -/
theorem leads_source (h : s.costOf source = 0) : s.Leads net source [] source := by
  refine ⟨.nil, ?_, List.pairwise_singleton _ _, ?_⟩
  · rw [h, Network.duration_nil]
  · simp [Network.stops]

/-- The way goes on over a link by which its end was reached. -/
theorem Leads.concat {l : LinkId} {link : Link} (h : s.Leads net source ls link.source)
    (hlink : net.link? l = some link)
    (hcost : s.costOf link.target = s.costOf link.source + link.freeFlow) :
    s.Leads net source (ls ++ [l]) link.target := by
  have hpos := link.one_le_freeFlow
  have hbelow : ∀ m ∈ net.stops source ls, s.costOf m < s.costOf link.target := by
    intro m hm
    have hle := h.le m hm
    omega
  refine ⟨h.chain.append (.single hlink), ?_, ?_, ?_⟩
  · rw [Network.duration_append, Network.duration_cons, Network.duration_nil,
      Network.freeFlow_of_link? hlink, h.duration, hcost, Nat.add_zero]
  · rw [Network.stops_concat hlink, List.pairwise_append]
    refine ⟨h.rising, List.pairwise_singleton _ _, ?_⟩
    intro m hm k hk
    rw [List.mem_singleton.1 hk]
    exact hbelow m hm
  · rw [Network.stops_concat hlink, List.forall_mem_append, List.forall_mem_singleton]
    exact ⟨fun m hm => Nat.le_of_lt (hbelow m hm), Nat.le_refl _⟩

/-- The trace from a node that was reached leads from the source to it, and ends there by itself:
a round for every node that has not been passed is enough, and more make no difference.  `seen` are
the nodes that the trace has passed; they cost more, so none of them comes up again. -/
theorem Sound.exists_trace (h : s.Sound net source done [])
    (hreached : ∀ m ∈ n :: seen, s.costOf m < unreached)
    (hrising : (n :: seen).Pairwise fun a b => s.costOf a < s.costOf b)
    (hunseen : net.nodeCount ≤ unseen + seen.length) :
    ∃ ls, s.Leads net source ls n ∧
      ∀ rest fuel, unseen ≤ fuel → s.trace net n rest fuel = ls ++ rest := by
  induction unseen generalizing n seen with
  | zero =>
      have hlength := Network.length_le_nodeCount (nodup_of_rising hrising)
        fun m hm => h.index_lt (hreached m hm)
      rw [List.length_cons] at hlength
      omega
  | succ unseen ih =>
      cases hvia : s.viaOf n with
      | none =>
          have hroot := h.root n (hreached n List.mem_cons_self) hvia
          subst hroot
          refine ⟨[], leads_source h.source_cost, fun rest fuel hfuel => ?_⟩
          cases fuel with
          | zero => exact absurd hfuel (Nat.not_succ_le_zero _)
          | succ fuel =>
              rw [viaOf] at hvia
              simp only [trace, hvia, List.nil_append]
      | some l =>
          rcases h.via n l hvia with ⟨link, hlink, rfl, hdone, hcost⟩
          have hpos := link.one_le_freeFlow
          have hcheaper : s.costOf link.source < s.costOf link.target := by omega
          have hrising' : (link.source :: link.target :: seen).Pairwise
              fun a b => s.costOf a < s.costOf b := by
            refine List.pairwise_cons.2 ⟨List.forall_mem_cons.2 ⟨hcheaper, ?_⟩, hrising⟩
            intro m hm
            exact Nat.lt_trans hcheaper ((List.pairwise_cons.1 hrising).1 m hm)
          have hreached' : ∀ m ∈ link.source :: link.target :: seen, s.costOf m < unreached :=
            List.forall_mem_cons.2 ⟨h.done_lt _ hdone, hreached⟩
          have hunseen' : net.nodeCount ≤ unseen + (link.target :: seen).length := by
            rw [List.length_cons]
            omega
          rcases ih hreached' hrising' hunseen' with ⟨ls, hleads, htrace⟩
          refine ⟨ls ++ [l], hleads.concat hlink hcost, fun rest fuel hfuel => ?_⟩
          cases fuel with
          | zero => exact absurd hfuel (Nat.not_succ_le_zero _)
          | succ fuel =>
              rw [viaOf] at hvia
              simp only [trace, hvia, hlink]
              rw [htrace _ _ (Nat.le_of_succ_le_succ hfuel), List.append_assoc]
              rfl

end Labels

/-- The path is a chain between the nodes that visits none of them twice and takes the given time,
which no other chain undercuts. -/
structure LinkPath.IsLeast (net : Network) (source target : NodeId) (p : LinkPath) : Prop where
  chain : net.Chain source p.links target
  nodup : (net.stops source p.links).Nodup
  duration : net.duration p.links = p.secs
  secs_lt : p.secs < unreached
  least : ∀ ls, net.Chain source ls target → p.secs ≤ net.duration ls

namespace Network

variable {net : Network} {source target : NodeId}

/-- Staying at a node is a path of least time. -/
theorem isLeast_nil (net : Network) (n : NodeId) : LinkPath.IsLeast net n n ⟨[], 0⟩ :=
  ⟨.nil, List.pairwise_singleton _ _, rfl, by decide, fun _ _ => Nat.zero_le _⟩

/-- The search finds a path of least time, or all chains take too long. -/
theorem pathBetween_cases (hwired : net.Wired) (hsource : source.index < net.nodeCount)
    (target : NodeId) :
    (∃ p, net.pathBetween source target = some p ∧ p.IsLeast net source target) ∨
      (net.pathBetween source target = none ∧
        ∀ ls, net.Chain source ls target → unreached ≤ net.duration ls) := by
  have hstart := Labels.sound_start hsource
  have hopen : target ∉ ([] : List NodeId) := List.not_mem_nil
  rcases hstart.search_cases hwired hopen with
    ⟨s, done, hs, htarget, ⟨hsearch, hreached, hleast⟩ | ⟨hsearch, hclosed⟩⟩
  · -- the target was met: all that is open costs as much, or more
    have hreached' : ∀ m ∈ [target], s.costOf m < unreached :=
      List.forall_mem_singleton.2 hreached
    rcases hs.exists_trace hreached' (List.pairwise_singleton _ _) (Nat.le_add_right _ _) with
      ⟨ls, hleads, htrace⟩
    refine .inl ⟨⟨ls, s.costOf target⟩, ?_, hleads.chain, Labels.nodup_of_rising hleads.rising,
      hleads.duration, hreached, ?_⟩
    · rw [pathBetween, hsearch, Option.map_some, htrace _ _ (Nat.le_refl _), List.append_nil]
    · intro ms hms
      have hle := hs.le_duration hleast hms
      rwa [hs.source_cost, Nat.zero_add, Nat.min_self] at hle
  · -- nothing is left: all that is open has not been reached
    refine .inr ⟨?_, ?_⟩
    · rw [pathBetween, hsearch, Option.map_none]
    · intro ls hls
      have hle := hs.le_duration (fun n hn => Nat.le_of_eq (hclosed n hn).symm) hls
      rwa [hclosed target htarget, hs.source_cost, Nat.zero_add, Nat.min_self] at hle

variable {builder : NetworkBuilder} {a b : LinkId} {origin destination : Link}

/-- Between two links of a built network there is a path of least time, or all chains take too
long. -/
theorem path_cases (hwired : net.Wired) (ha : net.link? a = some origin)
    (hb : net.link? b = some destination) (hne : a ≠ b) :
    (∃ p, net.path a b = .ok p ∧ p.IsLeast net origin.target destination.source) ∨
      (net.path a b = .error (.noPath a b) ∧
        ∀ ls, net.Chain origin.target ls destination.source → unreached ≤ net.duration ls) := by
  simp only [path, ha, hb, hne, false_or]
  by_cases hadjacent : origin.target = destination.source
  · rw [if_pos hadjacent, hadjacent]
    exact .inl ⟨_, rfl, isLeast_nil net _⟩
  · rw [if_neg hadjacent]
    rcases pathBetween_cases hwired (hwired.target_lt a origin ha) destination.source with
      ⟨p, hp, hleast⟩ | ⟨hnone, hlong⟩
    · rw [hp]
      exact .inl ⟨p, rfl, hleast⟩
    · rw [hnone]
      exact .inr ⟨rfl, hlong⟩

/-- A path between two links is of least time from the end of one to the start of the other. -/
theorem exists_isLeast {p : LinkPath} (hwired : net.Wired) (h : net.path a b = .ok p)
    (hne : a ≠ b) :
    ∃ origin destination, net.link? a = some origin ∧ net.link? b = some destination ∧
      p.IsLeast net origin.target destination.source := by
  cases ha : net.link? a with
  | none => simp [path, ha] at h
  | some origin =>
      cases hb : net.link? b with
      | none => simp [path, ha, hb] at h
      | some destination =>
          refine ⟨origin, destination, rfl, rfl, ?_⟩
          rcases path_cases hwired ha hb hne with ⟨least, hleast, his⟩ | ⟨herror, -⟩
          · cases hleast.symm.trans h
            exact his
          · cases herror.symm.trans h

/-- There is no path from the end of a link to the start of another one exactly when no chain
between them takes a time that can be counted; else the path that is found is such a chain, visits
no node twice and takes the least time. -/
theorem least_time_path (hnet : builder.build = .ok net) (ha : net.link? a = some origin)
    (hb : net.link? b = some destination) (hne : a ≠ b) :
    (net.path a b = .error (.noPath a b) ↔
      ¬ ∃ ls, net.Chain origin.target ls destination.source ∧ net.duration ls < unreached) ∧
    (net.path a b ≠ .error (.noPath a b) →
      ∃ p, net.path a b = .ok p ∧ p.IsLeast net origin.target destination.source ∧
        (origin.target = destination.source → p.links = [])) := by
  rcases path_cases (NetworkBuilder.wired hnet) ha hb hne with ⟨p, hp, hleast⟩ | ⟨herror, hlong⟩
  · refine ⟨⟨?_, ?_⟩, fun _ => ⟨p, hp, hleast, ?_⟩⟩
    · intro herror
      rw [hp] at herror
      cases herror
    · intro hnone
      have hshort : net.duration p.links < unreached := by
        rw [hleast.duration]
        exact hleast.secs_lt
      exact absurd ⟨p.links, hleast.chain, hshort⟩ hnone
    · intro hadjacent
      simp only [path, ha, hb, hadjacent, or_true, if_true] at hp
      cases hp
      rfl
  · refine ⟨⟨fun _ => ?_, fun _ => herror⟩, fun hne' => absurd herror hne'⟩
    rintro ⟨ls, hchain, hlt⟩
    have hle := hlong ls hchain
    omega

end Network

/-! ## A way around -/

namespace Detour

/-- A road that lets a share of one pass and has room for one. -/
def road (name : String) (source target : Nat) (length : Float) : LinkSpec :=
  { name, source := ⟨source⟩, target := ⟨target⟩, length, speed := 10, flow := some 1
    storage := some 1 }

/-- From the fork to the join the way over the hill is faster than the direct road. -/
def roads : NetworkBuilder :=
  { nodes := #[⟨"start", ⟨0, 0⟩⟩, ⟨"fork", ⟨100, 0⟩⟩, ⟨"hill", ⟨200, 50⟩⟩, ⟨"join", ⟨300, 0⟩⟩]
    links := #[road "in" 0 1 100, road "direct" 1 3 900, road "up" 1 2 200, road "down" 2 3 300,
      road "out" 3 0 300] }

/-- The network of the roads around the hill. -/
def net : Network := .ofParts roads.nodes (roads.links.map LinkSpec.settle)

theorem build_roads : roads.build = .ok net := by
  refine NetworkBuilder.build_of_nodup ?_ ?_ ?_ ?_
  · decide
  · decide
  · simp only [roads, List.forall_mem_cons]
    exact ⟨rfl, rfl, rfl, rfl, rfl, List.forall_mem_nil _⟩
  · exact Network.checkMidpoints_eq_ok_iff.2 (.inl (by decide +kernel))

end Detour

namespace Network

/-- From the road in to the road out, the path leads from the fork to the join in the least time. -/
theorem least_time_path_detour :
    (Detour.net.path ⟨0⟩ ⟨4⟩ = .error (.noPath ⟨0⟩ ⟨4⟩) ↔
      ¬ ∃ ls, Detour.net.Chain ⟨1⟩ ls ⟨3⟩ ∧ Detour.net.duration ls < unreached) ∧
    (Detour.net.path ⟨0⟩ ⟨4⟩ ≠ .error (.noPath ⟨0⟩ ⟨4⟩) →
      ∃ p, Detour.net.path ⟨0⟩ ⟨4⟩ = .ok p ∧ p.IsLeast Detour.net ⟨1⟩ ⟨3⟩ ∧
        ((⟨1⟩ : NodeId) = ⟨3⟩ → p.links = [])) := by
  have hin : Detour.net.link? ⟨0⟩ = some (Detour.road "in" 0 1 100).settle := by
    simp [Detour.net, Detour.roads, ofParts, link?]
  have hout : Detour.net.link? ⟨4⟩ = some (Detour.road "out" 3 0 300).settle := by
    simp [Detour.net, Detour.roads, ofParts, link?]
  exact least_time_path Detour.build_roads hin hout (by decide)

example : Detour.net.pathBetween ⟨1⟩ ⟨3⟩ = some ⟨[⟨2⟩, ⟨3⟩], 50⟩ := by
  decide +kernel

end Network

end TrafficQueue
