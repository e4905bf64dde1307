import Mathlib.Data.Set.Operations
import Mathlib.Tactic.Common
import TrafficQueue.Plan.Route
import TrafficQueue.Plan.Validation

/-!
# Full sequences and splices

The full sequence of a route starts at its origin and ends at its destination, and the
route is recovered from it.  A splice keeps the sequence up to a position and goes on with
another route, so a position at or before the cut stays where it is.

Main results:

- Theorem `Route.mem_full_iff`: the full sequence has the links that a route names.
- Theorem `Route.full_bijection`: routes and their full sequences correspond, and all
  sequences are full sequences but the empty one and one link given twice.
- Theorem `Route.splice_eq_ok_iff`: when a splice succeeds, and what it is made of.
- Theorem `Route.exists_splice`: a splice onto a route that starts on the pivot and
  goes elsewhere, and the full sequence of its result.
- Theorem `Route.full_splice`: the full sequence of any splice; only a link given twice
  collapses.
-/

namespace TrafficQueue

namespace Route

variable {r s t : Route} {l : LinkId}

/-- A route that is not on a single link goes from its first link over the links between to its
last. -/
theorem full_eq_of_not_sameLink (h : r.isSameLink = false) :
    r.full = r.origin :: (r.via ++ [r.destination]) := by
  simp [full, h]

/-- A route begins with its first link. -/
theorem head?_full (r : Route) : r.full.head? = some r.origin := by
  unfold full
  split <;> rfl

/-- The full sequence consists of the links that the route names. -/
theorem mem_full_iff : l ∈ r.full ↔ l ∈ r.named := by
  unfold full named
  split
  · rename_i h
    rcases isSameLink_iff.1 h with ⟨ho, hv⟩
    simp [← ho, hv]
  · simp only [List.mem_cons, List.mem_append, List.not_mem_nil, or_false]
    rw [or_comm (a := l ∈ r.via)]

/-- A list with links gives a route. -/
theorem exists_ofFull {links : List LinkId} (h : links ≠ []) :
    ∃ r, ofFull links = some r := by
  cases links with
  | nil => exact (h rfl).elim
  | cons first rest =>
      cases hlast : rest.getLast? <;> simp [ofFull, hlast]

/-- The route of a list begins with the first of the list. -/
theorem origin_ofFull {links : List LinkId} (h : ofFull links = some r) :
    links.head? = some r.origin := by
  cases links with
  | nil => cases h
  | cons first rest =>
      simp only [ofFull] at h
      split at h <;> cases h <;> rfl

/-- The route of a list ends with the last of the list. -/
theorem destination_ofFull {links : List LinkId} (h : ofFull links = some r) :
    links.getLast? = some r.destination := by
  cases links with
  | nil => cases h
  | cons first rest =>
      cases hlast : rest.getLast? with
      | none =>
          simp only [ofFull, hlast, Option.some.injEq] at h
          subst h
          simp [List.getLast?_eq_none_iff.1 hlast]
      | some last =>
          simp only [ofFull, hlast, Option.some.injEq] at h
          subst h
          simp [List.getLast?_cons, hlast]

/-- No full sequence is one link given twice: that route stays on its link. -/
theorem full_ne_pair (r : Route) (l : LinkId) : r.full ≠ [l, l] := by
  intro hpair
  cases hsame : r.isSameLink with
  | true => simp [full, hsame] at hpair
  | false =>
      rw [full_eq_of_not_sameLink hsame] at hpair
      rcases List.cons_eq_cons.1 hpair with ⟨ho, hrest⟩
      have hvia : r.via = [] := by
        have hlen := congrArg List.length hrest
        simpa using hlen
      have hd : r.destination = l := by
        rw [hvia] at hrest
        simpa using hrest
      have hsame' := isSameLink_iff.2 ⟨ho.trans hd.symm, hvia⟩
      rw [hsame] at hsame'
      cases hsame'

/-- A sequence of more than one link belongs to a route that leaves its origin, unless it is one
link given twice. -/
theorem not_sameLink_of_full {links : List LinkId} (h : r.full = links) (hlen : 1 < links.length) :
    r.isSameLink = false := by
  cases hsame : r.isSameLink with
  | false => rfl
  | true =>
      subst h
      simp [full, hsame] at hlen

/-! ## Routes and their sequences -/

/-- The route made from a sequence has that sequence, unless it is one link given twice. -/
theorem full_eq_iff {links : List LinkId} (h : ofFull links = some r) :
    r.full = links ↔ ∀ l, links ≠ [l, l] := by
  constructor
  · rintro rfl
    exact r.full_ne_pair
  · intro hpair
    rw [full_ofFull h, if_neg (hpair r.origin)]

/-- One link given twice and that link alone make the same route. -/
theorem ofFull_pair (l : LinkId) : ofFull [l, l] = ofFull [l] :=
  rfl

/-- Routes with the same links are the same. -/
theorem full_injective : Function.Injective full := by
  intro r s h
  apply Option.some.inj
  rw [← ofFull_full r, ← ofFull_full s, h]

/-- The links of a route are any links but none and one link twice. -/
theorem mem_range_full_iff {links : List LinkId} :
    links ∈ Set.range full ↔ links ≠ [] ∧ ∀ l, links ≠ [l, l] := by
  constructor
  · rintro ⟨r, rfl⟩
    exact ⟨r.full_ne_nil, r.full_ne_pair⟩
  · rintro ⟨hne, hpair⟩
    rcases exists_ofFull hne with ⟨r, hr⟩
    exact ⟨r, (full_eq_iff hr).2 hpair⟩

/-- Routes and their full sequences correspond.  Every route is recovered from its sequence; every
sequence of at least one link is recovered from its route, except exactly one link given twice,
which collapses; so no two routes have the same sequence, and all sequences belong to a route but
the empty one and one link given twice. -/
theorem full_bijection :
    (∀ r : Route, ofFull r.full = some r) ∧
      (∀ links : List LinkId, links ≠ [] → ∃ r, ofFull links = some r ∧
        (r.full = links ↔ ∀ l, links ≠ [l, l]) ∧ ∀ l, links = [l, l] → r.full = [l]) ∧
      Function.Injective full ∧
      Set.range full = {links | links ≠ [] ∧ ∀ l, links ≠ [l, l]} := by
  refine ⟨ofFull_full, ?_, full_injective, Set.ext fun links => mem_range_full_iff⟩
  intro links hne
  rcases exists_ofFull hne with ⟨r, hr⟩
  refine ⟨r, hr, full_eq_iff hr, ?_⟩
  rintro l rfl
  have hsame : ofFull [l] = some r := (ofFull_pair l).symm.trans hr
  exact (full_eq_iff hsame).2 fun l' hpair => by simp at hpair

/-- A way there and back again, and one link given twice. -/
theorem full_bijection_there_and_back :
    ([⟨4⟩, ⟨5⟩, ⟨4⟩] : List LinkId) ≠ [] ∧
      (∃ r, ofFull [⟨4⟩, ⟨5⟩, ⟨4⟩] = some r ∧ r.full = [⟨4⟩, ⟨5⟩, ⟨4⟩]) ∧
      ∃ r, ofFull [⟨4⟩, ⟨4⟩] = some r ∧ r.full = [⟨4⟩] := by
  refine ⟨List.cons_ne_nil _ _, ?_, ?_⟩
  · rcases full_bijection.2.1 [⟨4⟩, ⟨5⟩, ⟨4⟩] (List.cons_ne_nil _ _) with ⟨r, hr, hfull, -⟩
    exact ⟨r, hr, hfull.2 fun l hpair => by simp at hpair⟩
  · rcases full_bijection.2.1 [⟨4⟩, ⟨4⟩] (List.cons_ne_nil _ _) with ⟨r, hr, -, hpair⟩
    exact ⟨r, hr, hpair ⟨4⟩ rfl⟩

/-! ## Joining -/

/-- The links of a route up to a position, followed by those of another route without its first
one. -/
def joined (r : Route) (position : Nat) (s : Route) : List LinkId :=
  r.full.take (position + 1) ++ s.full.tail

/-- A route has a first link. -/
theorem full_eq_cons (r : Route) : r.full = r.origin :: r.full.tail := by
  rcases List.head?_eq_some_iff.1 r.head?_full with ⟨rest, hrest⟩
  rw [hrest, List.tail_cons]

/-- A spliced route has links. -/
theorem joined_ne_nil (r : Route) (position : Nat) (s : Route) : r.joined position s ≠ [] := by
  rw [joined, full_eq_cons r, List.take_succ_cons]
  exact List.cons_ne_nil _ _

/-- A splice succeeds if the other route starts on the link at the position, with the route of the
joined links. -/
theorem splice_eq_ok_iff {position : Nat} :
    r.splice position s = .ok t ↔
      r.full[position]? = some s.origin ∧ ofFull (r.joined position s) = some t := by
  rcases exists_ofFull (r.joined_ne_nil position s) with ⟨u, hu⟩
  unfold splice
  cases hpivot : r.full[position]? with
  | none => simp
  | some pivot =>
      by_cases ho : s.origin = pivot
      · have hgetD : (ofFull (r.full.take (position + 1) ++ s.full.tail)).getD s = u := by
          change (ofFull (r.joined position s)).getD s = u
          rw [hu]
          rfl
        simp [ho, hgetD, hu]
      · simp [ho, Ne.symm ho]

/-- Joining yields one link given twice only if a route that comes back at once is cut there and
nothing follows. -/
theorem joined_eq_pair_iff {position : Nat} (hpivot : r.full[position]? = some s.origin) :
    r.joined position s = [l, l] ↔ position = 1 ∧ r.full.take 2 = [l, l] ∧ s.full = [l] := by
  constructor
  · intro hpair
    have hlt := (List.getElem?_eq_some_iff.1 hpivot).1
    have hlength : position + 1 + s.full.tail.length = 2 := by
      have hlen := congrArg List.length hpair
      simpa [joined, Nat.min_eq_left hlt] using hlen
    have hposition : position = 0 ∨ position = 1 := by omega
    rcases hposition with rfl | rfl
    · -- cut at its origin, the route would go on with a sequence that is one link given twice
      rw [full_eq_cons r, List.getElem?_cons_zero, Option.some.injEq] at hpivot
      rw [joined, full_eq_cons r, List.take_succ_cons, List.take_zero, List.singleton_append,
        hpivot, ← full_eq_cons s] at hpair
      exact (s.full_ne_pair l hpair).elim
    · have htail : s.full.tail = [] := List.eq_nil_of_length_eq_zero (by omega)
      rw [joined, htail, List.append_nil] at hpair
      have hl : l = s.origin := by
        have hsecond : (r.full.take 2)[1]? = some s.origin := by
          rw [List.getElem?_take_of_lt (by decide), hpivot]
        rw [hpair] at hsecond
        exact Option.some.inj hsecond
      refine ⟨rfl, hpair, ?_⟩
      rw [full_eq_cons s, htail, hl]
  · rintro ⟨rfl, htake, hfull⟩
    rw [joined, htake, hfull]
    rfl

/-- Splicing a route that starts on the pivot and ends elsewhere succeeds.  The result keeps the
origin and all links up to the cut. -/
theorem exists_splice {position : Nat} {pivot : LinkId} (hpivot : r.full[position]? = some pivot)
    (ho : s.origin = pivot) (hd : s.destination ≠ pivot) :
    ∃ t, r.splice position s = .ok t ∧
      t.full = r.full.take (position + 1) ++ s.full.tail ∧
      t.origin = r.origin ∧ t.destination = s.destination ∧ t.isSameLink = false := by
  subst ho
  have hs : s.isSameLink = false := by
    cases hsame : s.isSameLink with
    | false => rfl
    | true => exact (hd (isSameLink_iff.1 hsame).1.symm).elim
  have htail : s.full.tail = s.via ++ [s.destination] := by
    rw [full_eq_of_not_sameLink hs]
    rfl
  rcases exists_ofFull (r.joined_ne_nil position s) with ⟨t, ht⟩
  have hfull : t.full = r.joined position s := by
    rw [full_ofFull ht, if_neg]
    intro hpair
    rcases (joined_eq_pair_iff hpivot).1 hpair with ⟨-, -, hsingle⟩
    rw [full_eq_cons s, htail] at hsingle
    simp at hsingle
  have horigin : t.origin = r.origin := by
    have h := origin_ofFull ht
    rw [joined, full_eq_cons r, List.take_succ_cons, List.cons_append, List.head?_cons] at h
    exact (Option.some.inj h).symm
  have hdest : t.destination = s.destination := by
    have h := destination_ofFull ht
    rw [joined, htail, ← List.append_assoc, List.getLast?_concat] at h
    exact (Option.some.inj h).symm
  refine ⟨t, splice_eq_ok_iff.2 ⟨hpivot, ht⟩, hfull, horigin, hdest, ?_⟩
  have hlt := (List.getElem?_eq_some_iff.1 hpivot).1
  apply not_sameLink_of_full hfull
  simp only [joined, htail, List.length_append, List.length_take, List.length_singleton]
  omega

/-- A splice succeeds exactly if the other route starts on the link at the position.  The full
sequence of the result is then what is kept followed by what is new, but for one link given twice,
which collapses: a route that comes back at once is cut there, and the other route stays. -/
theorem full_splice (r s : Route) (position : Nat) :
    ((∃ t, r.splice position s = .ok t) ↔
      ∃ h : position < r.full.length, r.full[position] = s.origin) ∧
    ∀ t, r.splice position s = .ok t →
      t.full =
        if position = 1 ∧ r.full.take 2 = [s.origin, s.origin] ∧ s.full = [s.origin] then [s.origin]
        else r.full.take (position + 1) ++ s.full.tail := by
  constructor
  · rw [← List.getElem?_eq_some_iff]
    constructor
    · rintro ⟨t, ht⟩
      exact (splice_eq_ok_iff.1 ht).1
    · intro hpivot
      rcases exists_ofFull (r.joined_ne_nil position s) with ⟨t, ht⟩
      exact ⟨t, splice_eq_ok_iff.2 ⟨hpivot, ht⟩⟩
  · intro t ht
    rcases splice_eq_ok_iff.1 ht with ⟨hpivot, hjoined⟩
    rw [full_ofFull hjoined]
    by_cases hpair : r.joined position s = [s.origin, s.origin]
    · have horigin : t.origin = s.origin := by
        have h := origin_ofFull hjoined
        rw [hpair, List.head?_cons] at h
        exact (Option.some.inj h).symm
      rw [horigin, if_pos hpair, if_pos ((joined_eq_pair_iff hpivot).1 hpair)]
    · have htwice : r.joined position s ≠ [t.origin, t.origin] := by
        intro htwice
        have hsingle := ((joined_eq_pair_iff hpivot).1 htwice).2.2
        rw [full_eq_cons s] at hsingle
        rw [(List.cons_eq_cons.1 hsingle).1] at hpair
        exact hpair htwice
      rw [if_neg htwice, if_neg (mt (joined_eq_pair_iff hpivot).2 hpair)]
      rfl

/-- One link given twice is no full sequence, so a splice does not always keep every link up to the
cut. -/
theorem not_full_splice_joined :
    ¬ ∀ (r s : Route) (position : Nat),
      ((∃ t, r.splice position s = .ok t) ↔
        ∃ h : position < r.full.length, r.full[position] = s.origin) ∧
      ∀ t, r.splice position s = .ok t → t.full = r.full.take (position + 1) ++ s.full.tail := by
  intro h
  have hcut := (h ⟨⟨0⟩, [⟨0⟩], ⟨1⟩⟩ ⟨⟨0⟩, [], ⟨0⟩⟩ 1).2 ⟨⟨0⟩, [], ⟨0⟩⟩ rfl
  exact absurd hcut (by decide)

end Route

end TrafficQueue
