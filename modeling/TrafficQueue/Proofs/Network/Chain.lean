import Mathlib.Tactic.Common
import TrafficQueue.Network.Basic

/-!
# Chains of links

A chain leads from node to node over links of a network, each of which starts where
the one before it ends.  Its duration is the sum of the free-flow times, and its
stops are the nodes that it visits.

Main results:

- Definition `Network.Chain`: chains of links.
- Definitions `Network.duration` and `Network.stops`: how long a chain takes and where
  it leads past.
- Theorem `Network.Chain.append`: a chain goes on where another one ends.
- Theorems `Network.Chain.nodup_links`, `target_ne` and `source_ne`: a chain that visits
  no node twice uses no link twice, does not come back and does not go on.
-/

namespace TrafficQueue

namespace Network

/-- The links lead from one node to another, each from where the one before it ends. -/
inductive Chain (net : Network) : NodeId → List LinkId → NodeId → Prop where
  | nil {a} : Chain net a [] a
  | cons {l link ls b} (hlink : net.link? l = some link) (h : Chain net link.target ls b) :
      Chain net link.source (l :: ls) b

/-- Seconds to travel a link in free flow; a link outside of the network takes no time. -/
def freeFlow (net : Network) (l : LinkId) : Nat := ((net.link? l).map Link.freeFlow).getD 0

/-- Seconds to travel links in free flow, one after the other. -/
def duration (net : Network) : List LinkId → Nat
  | [] => 0
  | l :: ls => net.freeFlow l + net.duration ls

/-- The nodes visited on the way over links: the first one and the end of every link. -/
def stops (net : Network) (a : NodeId) (ls : List LinkId) : List NodeId :=
  a :: ls.filterMap fun l => (net.link? l).map Link.target

variable {net : Network} {a b c : NodeId} {l : LinkId} {link : Link} {ls ms : List LinkId}

@[simp]
theorem freeFlow_of_link? (h : net.link? l = some link) : net.freeFlow l = link.freeFlow := by
  simp [freeFlow, h]

@[simp]
theorem duration_nil (net : Network) : net.duration [] = 0 :=
  rfl

@[simp]
theorem duration_cons (net : Network) (l : LinkId) (ls : List LinkId) :
    net.duration (l :: ls) = net.freeFlow l + net.duration ls :=
  rfl

@[simp]
theorem duration_append (net : Network) (ls ms : List LinkId) :
    net.duration (ls ++ ms) = net.duration ls + net.duration ms := by
  induction ls with
  | nil => simp
  | cons l ls ih => rw [List.cons_append, duration_cons, duration_cons, ih, Nat.add_assoc]

/-- One link more leads to one node more, at the end. -/
theorem stops_concat (h : net.link? l = some link) (a : NodeId) (ls : List LinkId) :
    net.stops a (ls ++ [l]) = net.stops a ls ++ [link.target] := by
  simp [stops, h]

/-- One link more leads to one node more, at the front. -/
theorem stops_cons (h : net.link? l = some link) (a : NodeId) (ls : List LinkId) :
    net.stops a (l :: ls) = a :: net.stops link.target ls := by
  simp [stops, h]

namespace Chain

/-- A link is a chain. -/
theorem single (h : net.link? l = some link) : net.Chain link.source [l] link.target :=
  .cons h .nil

/-- A chain goes on where another one ends. -/
theorem append (h : net.Chain a ls b) (hrest : net.Chain b ms c) : net.Chain a (ls ++ ms) c := by
  induction h with
  | nil => exact hrest
  | cons hlink _ ih => exact .cons hlink (ih hrest)

/-- A chain over no links stays where it is. -/
theorem eq_of_nil (h : net.Chain a [] b) : a = b := by
  cases h
  rfl

/-- A chain begins with a link from its first node, and goes on from there. -/
theorem of_cons (h : net.Chain a (l :: ls) b) :
    ∃ link, net.link? l = some link ∧ link.source = a ∧ net.Chain link.target ls b := by
  cases h with
  | cons hlink h => exact ⟨_, hlink, rfl, h⟩

/-- A chain leads over links of the network. -/
theorem exists_link? (h : net.Chain a ls b) (hl : l ∈ ls) : ∃ link, net.link? l = some link := by
  induction h with
  | nil => cases hl
  | cons hlink _ ih =>
      rcases List.mem_cons.1 hl with rfl | hl
      · exact ⟨_, hlink⟩
      · exact ih hl

/-! ### Chains that visit no node twice -/

/-- A chain stops at its last node. -/
theorem mem_stops (h : net.Chain a ls b) : b ∈ net.stops a ls := by
  induction h with
  | nil => exact List.mem_cons_self
  | cons hlink _ ih =>
      rw [stops_cons hlink]
      exact List.mem_cons_of_mem _ ih

/-- No link of the chain leads back to its start. -/
theorem target_ne (hstops : (net.stops a ls).Nodup) (hl : l ∈ ls)
    (hlink : net.link? l = some link) : link.target ≠ a := by
  intro hback
  apply (List.nodup_cons.1 hstops).1
  rw [List.mem_filterMap]
  exact ⟨l, hl, by rw [hlink, Option.map_some, hback]⟩

/-- No link of the chain starts where the chain ends. -/
theorem source_ne (h : net.Chain a ls b) (hstops : (net.stops a ls).Nodup) (hl : l ∈ ls)
    (hlink : net.link? l = some link) : link.source ≠ b := by
  induction h with
  | nil => cases hl
  | @cons k first ls b hfirst hrest ih =>
      rw [stops_cons hfirst, List.nodup_cons] at hstops
      rcases List.mem_cons.1 hl with heq | hl
      · subst heq
        cases hfirst.symm.trans hlink
        intro hend
        apply hstops.1
        rw [hend]
        exact hrest.mem_stops
      · exact ih hstops.2 hl

/-- The chain uses no link twice. -/
theorem nodup_links (h : net.Chain a ls b) (hstops : (net.stops a ls).Nodup) : ls.Nodup := by
  induction h with
  | nil => exact List.nodup_nil
  | cons hlink hrest ih =>
      rw [stops_cons hlink, List.nodup_cons] at hstops
      rw [List.nodup_cons]
      refine ⟨fun hagain => ?_, ih hstops.2⟩
      exact target_ne hstops.2 hagain hlink rfl

end Chain

end Network

end TrafficQueue
