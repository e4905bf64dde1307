import TrafficQueue.Network.Basic
import TrafficQueue.Network.Heap

/-!
# Least-time paths between links

A path leads from the end of one link to the start of another; it is the list of the links in
between and its cost is the sum of their free-flow times.  The search pops the paths that it has
found in the order of their costs and stops at the target.  A path that is dearer than what is known
of its end has been improved on since it was pushed: it is stale and is passed over.

Main definitions: `Labels.relax`, `Labels.settle`, `Labels.search` and `Network.path`.  The search
ends on every network: a path is popped, or a cost is lowered for each path that is pushed
(`Labels.potential`).
-/

namespace TrafficQueue

/-- The links between an origin and a destination, with their free-flow seconds. -/
structure LinkPath where
  links : List LinkId
  secs : Nat
deriving DecidableEq

/-- The cost of a node that no path has reached; costs do not grow beyond it. -/
def unreached : Nat := UInt64.size - 1

/-- What a search knows: for each node the least cost found and the link by which it was reached,
and the paths that wait to be popped. -/
structure Labels where
  cost : Array Nat
  via : Array (Option LinkId)
  heap : Heap

namespace Labels

/-- The search knows its source only. -/
def start (nodeCount : Nat) (source : NodeId) : Labels :=
  { cost := (Array.replicate nodeCount unreached).setIfInBounds source.index 0
    via := Array.replicate nodeCount none
    heap := ({} : Heap).push ⟨0, source⟩ }

/-- The least cost at which a node has been reached so far. -/
def costOf (s : Labels) (n : NodeId) : Nat := s.cost.getD n.index unreached

/-- The labels after a node was reached over a link at a lower cost. -/
def improve (s : Labels) (l : LinkId) (n : NodeId) (found : Nat) : Labels :=
  { cost := s.cost.setIfInBounds n.index found
    via := s.via.setIfInBounds n.index (some l)
    heap := s.heap.push ⟨found, n⟩ }

/-- A path over link `l` from a node with cost `base` is taken up if it beats what is known.  Links
of a network end at its nodes; no other has a label. -/
def relax (net : Network) (base : Nat) (s : Labels) (l : LinkId) : Labels :=
  match net.link? l with
  | none => s
  | some link =>
    let found := min (base + link.freeFlow) unreached
    match s.cost[link.target.index]? with
    | none => s
    | some known => if found < known then s.improve l link.target found else s

/-- Settles the node at the end of the path that was popped: the links that leave it are relaxed.
-/
def settle (net : Network) (s : Labels) (p : Reached) (rest : Heap) : Labels :=
  ((net.leaving p.node).getD []).foldl (relax net p.cost) { s with heap := rest }

/-! ## The search ends -/

/-- All costs of a list together. -/
def sum (costs : List Nat) : Nat := costs.foldr (fun c total => c + total) 0

/-- Falls with every path that is popped, whatever is pushed for it. -/
def potential (s : Labels) : Nat := s.heap.paths.length + sum s.cost.toList

/-- Lowering one of some costs lowers their sum. -/
theorem sum_set_lt {costs : List Nat} {i known found : Nat} (hknown : costs[i]? = some known)
    (hlt : found < known) : sum (costs.set i found) < sum costs := by
  induction costs generalizing i with
  | nil => cases hknown
  | cons c cs ih =>
    cases i with
    | zero =>
      cases hknown
      simp only [List.set_cons_zero, sum, List.foldr_cons]
      omega
    | succ i =>
      have hrest := ih hknown
      simp only [List.set_cons_succ, sum, List.foldr_cons] at hrest ⊢
      omega

/-- A path is pushed for a cost that is lowered. -/
theorem potential_relax_le (net : Network) (base : Nat) (s : Labels) (l : LinkId) :
    (relax net base s l).potential ≤ s.potential := by
  unfold relax
  split
  · exact Nat.le_refl _
  · dsimp only
    split
    · exact Nat.le_refl _
    · rename_i known hknown
      split
      · rename_i hlt
        rw [← Array.getElem?_toList] at hknown
        have hsum := sum_set_lt hknown hlt
        simp only [potential, improve, Heap.length_push, Array.toList_setIfInBounds]
        omega
      · exact Nat.le_refl _

/-- Relaxing any number of links pushes no more paths than it lowers costs. -/
theorem potential_foldl_relax_le (net : Network) (base : Nat) (ls : List LinkId) (s : Labels) :
    (ls.foldl (relax net base) s).potential ≤ s.potential := by
  induction ls generalizing s with
  | nil => exact Nat.le_refl _
  | cons l ls ih => exact Nat.le_trans (ih _) (potential_relax_le net base s l)

/-- A path that is passed over is gone. -/
theorem potential_rest_lt {s : Labels} {p : Reached} {rest : Heap}
    (hpop : s.heap.pop = some (p, rest)) : { s with heap := rest }.potential < s.potential := by
  simp [potential, Heap.paths_of_pop hpop]

/-- Whatever settling a node pushes, the path to it is gone. -/
theorem potential_settle_lt (net : Network) {s : Labels} {p : Reached} {rest : Heap}
    (hpop : s.heap.pop = some (p, rest)) : (s.settle net p rest).potential < s.potential :=
  Nat.lt_of_le_of_lt (potential_foldl_relax_le net p.cost _ _) (potential_rest_lt hpop)

/-- Pops paths until one ends at the target; the answer is its cost and what is known then.  Stale
paths are passed over, and the ends of the others are settled. -/
def search (net : Network) (target : NodeId) (s : Labels) : Option (Nat × Labels) :=
  match _hpop : s.heap.pop with
  | none => none
  | some (p, rest) =>
    if p.node = target then some (p.cost, s)
    else if s.costOf p.node < p.cost then search net target { s with heap := rest }
    else search net target (s.settle net p rest)
termination_by s.potential
decreasing_by
  · exact potential_rest_lt _hpop
  · exact potential_settle_lt net _hpop

/-- The links by which a node was reached, in the order of travel, put in front of `rest`. -/
def trace (net : Network) (s : Labels) (n : NodeId) (rest : List LinkId) : Nat → List LinkId
  | 0 => rest
  | fuel + 1 =>
    match s.via.getD n.index none with
    | none => rest
    | some l =>
      match net.link? l with
      | none => rest
      | some link => s.trace net link.source (l :: rest) fuel

end Labels

namespace Network

/-- A least-time path between two nodes. -/
def pathBetween (net : Network) (source target : NodeId) : Option LinkPath :=
  (Labels.search net target (.start net.nodeCount source)).map fun found =>
    { links := found.2.trace net target [] net.nodeCount, secs := found.1 }

/-- A least-time path from the end of link `a` to the start of link `b`. -/
def path (net : Network) (a b : LinkId) : Except NetworkError LinkPath :=
  match net.link? a, net.link? b with
  | none, _ => .error (.unknownLink a)
  | _, none => .error (.unknownLink b)
  | some origin, some destination =>
    if a = b ∨ origin.target = destination.source then .ok ⟨[], 0⟩
    else
      match net.pathBetween origin.target destination.source with
      | some p => .ok p
      | none => .error (.noPath a b)

end Network

end TrafficQueue
