import TrafficQueue.Ident

/-!
# Paths in the order of their costs

A search keeps the paths that it has found in a heap, each as its cost and the node at its end.
The cheapest path comes out first, and of paths that cost the same the one to the node with the
least number.  A path that has been improved on stays in the heap until it comes out.

Main results: `Heap.perm_push`, pushing adds one path, and `Heap.le_of_pop`, none that stays comes
before the path that is popped.
-/

namespace TrafficQueue

/-- A path that a search has found: what it costs and where it ends. -/
structure Reached where
  cost : Nat
  node : NodeId
deriving DecidableEq

namespace Reached

variable {p q r : Reached}

/-- Paths come in the order of their costs, and of their ends where they cost the same. -/
instance : LE Reached where
  le p q := p.cost < q.cost ∨ p.cost = q.cost ∧ p.node.index ≤ q.node.index

/-- The order of two paths, by their costs and their ends. -/
theorem le_def : p ≤ q ↔ p.cost < q.cost ∨ p.cost = q.cost ∧ p.node.index ≤ q.node.index :=
  Iff.rfl

/-- Which of two paths comes first is computed. -/
instance (p q : Reached) : Decidable (p ≤ q) := decidable_of_iff _ le_def.symm

/-- Of two paths one comes first. -/
theorem le_of_not_le (h : ¬ p ≤ q) : q ≤ p := by
  rw [le_def] at h ⊢
  omega

/-- The order of paths is transitive. -/
theorem le_trans (hpq : p ≤ q) (hqr : q ≤ r) : p ≤ r := by
  rw [le_def] at *
  omega

/-- A path that comes first is not dearer. -/
theorem cost_le (h : p ≤ q) : p.cost ≤ q.cost := by
  rw [le_def] at h
  omega

end Reached

/-- Paths in the order in which they come out. -/
structure Heap where
  paths : List Reached := []
  sorted : paths.Pairwise (· ≤ ·) := by exact List.Pairwise.nil

namespace Heap

variable {p q : Reached} {ps : List Reached} {h rest : Heap}

/-- Puts a path before the first one that it does not come after. -/
def insert (p : Reached) : List Reached → List Reached
  | [] => [p]
  | q :: qs => if p ≤ q then p :: q :: qs else q :: insert p qs

/-- Inserting adds one path and keeps the others. -/
theorem perm_insert (p : Reached) (ps : List Reached) : (insert p ps).Perm (p :: ps) := by
  induction ps with
  | nil => exact .refl _
  | cons q qs ih =>
    unfold insert
    split
    · exact .refl _
    · exact (ih.cons q).trans (.swap p q qs)

/-- A path is inserted where it keeps the order. -/
theorem sorted_insert (hsorted : ps.Pairwise (· ≤ ·)) (p : Reached) :
    (insert p ps).Pairwise (· ≤ ·) := by
  induction ps with
  | nil => exact List.pairwise_singleton _ _
  | cons q qs ih =>
    rcases List.pairwise_cons.1 hsorted with ⟨hq, hqs⟩
    unfold insert
    split
    · rename_i hle
      refine List.pairwise_cons.2 ⟨fun r hr => ?_, hsorted⟩
      rcases List.mem_cons.1 hr with rfl | hr
      · exact hle
      · exact Reached.le_trans hle (hq r hr)
    · rename_i hgt
      refine List.pairwise_cons.2 ⟨fun r hr => ?_, ih hqs⟩
      rcases List.mem_cons.1 ((perm_insert p qs).mem_iff.1 hr) with rfl | hr
      · exact Reached.le_of_not_le hgt
      · exact hq r hr

/-- Adds a path; what is known of its end already stays. -/
def push (h : Heap) (p : Reached) : Heap :=
  ⟨insert p h.paths, sorted_insert h.sorted p⟩

/-- Takes out the path that comes first. -/
def pop : Heap → Option (Reached × Heap)
  | ⟨[], _⟩ => none
  | ⟨p :: ps, hsorted⟩ => some (p, ⟨ps, (List.pairwise_cons.1 hsorted).2⟩)

/-- Pushing adds one path and keeps the others. -/
theorem perm_push (h : Heap) (p : Reached) : (h.push p).paths.Perm (p :: h.paths) :=
  perm_insert p h.paths

@[simp] theorem mem_push : q ∈ (h.push p).paths ↔ q = p ∨ q ∈ h.paths := by
  rw [(perm_push h p).mem_iff, List.mem_cons]

@[simp] theorem length_push (h : Heap) (p : Reached) :
    (h.push p).paths.length = h.paths.length + 1 :=
  (perm_push h p).length_eq

/-- Nothing is popped only if nothing is there. -/
theorem pop_eq_none_iff : h.pop = none ↔ h.paths = [] := by
  rcases h with ⟨_ | ⟨p, ps⟩, hsorted⟩ <;> simp [pop]

/-- What is popped and what stays is what was there. -/
theorem paths_of_pop (hpop : h.pop = some (p, rest)) : h.paths = p :: rest.paths := by
  rcases h with ⟨_ | ⟨q, qs⟩, hsorted⟩
  · cases hpop
  · cases hpop
    rfl

/-- What was there is popped or stays. -/
theorem mem_iff_of_pop (hpop : h.pop = some (p, rest)) :
    q ∈ h.paths ↔ q = p ∨ q ∈ rest.paths := by
  rw [paths_of_pop hpop, List.mem_cons]

/-- The path that is popped was there. -/
theorem mem_of_pop (hpop : h.pop = some (p, rest)) : p ∈ h.paths :=
  (mem_iff_of_pop hpop).2 (.inl rfl)

/-- The path that is popped comes before all that stay. -/
theorem le_of_pop (hpop : h.pop = some (p, rest)) (hq : q ∈ rest.paths) : p ≤ q := by
  have hsorted := h.sorted
  rw [paths_of_pop hpop] at hsorted
  exact (List.pairwise_cons.1 hsorted).1 q hq

end Heap

end TrafficQueue
