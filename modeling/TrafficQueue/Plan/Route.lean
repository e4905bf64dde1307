import TrafficQueue.Ident

/-!
# Routes

A route is kept the way it is travelled: the link of departure, the links in between and the link of
arrival.  Its *full sequence* lists all of them, and collapses to a single link for a route that
stays where it is.

Main results: `Route.ofFull_full` and `Route.full_ofFull`, the two forms correspond up to that
collapse.
-/

namespace TrafficQueue

/-- A way from link to link. -/
structure Route where
  origin : LinkId
  via : List LinkId
  destination : LinkId
deriving DecidableEq

/-- Why two routes cannot be joined. -/
inductive SpliceError where
  | outOfRange (position length : Nat)
  | mismatch (expected found : LinkId)
deriving DecidableEq

/-- What is told of a splice that is refused. -/
def SpliceError.message : SpliceError → String
  | .outOfRange position length =>
    "cannot splice at position " ++ toString position ++ ": route has " ++ toString length ++
      " links"
  | .mismatch expected found =>
    "sub-route starts on " ++ found.text ++ ", expected " ++ expected.text

namespace Route

/-- Departure and arrival happen on one link, with nothing in between. -/
def isSameLink (r : Route) : Bool := r.origin = r.destination && r.via.isEmpty

/-- All links in the order of travel. -/
def full (r : Route) : List LinkId :=
  if r.isSameLink then [r.origin] else r.origin :: (r.via ++ [r.destination])

/-- The route with the given full sequence; there is none without links. -/
def ofFull : List LinkId → Option Route
  | [] => none
  | first :: rest =>
    match rest.getLast? with
    | none => some ⟨first, [], first⟩
    | some last => some ⟨first, rest.dropLast, last⟩

/-- Keeps the links up to the one at `position` and goes on with `next`, which has to start there.
-/
def splice (r : Route) (position : Nat) (next : Route) : Except SpliceError Route :=
  match r.full[position]? with
  | none => .error (.outOfRange position r.full.length)
  | some pivot =>
    if next.origin = pivot then
      .ok ((ofFull (r.full.take (position + 1) ++ next.full.tail)).getD next)
    else .error (.mismatch pivot next.origin)

/-- A route stays on its link if its ends are one and nothing is in between. -/
theorem isSameLink_iff {r : Route} :
    r.isSameLink = true ↔ r.origin = r.destination ∧ r.via = [] := by
  simp [isSameLink]

/-- A route has a link, whatever it is. -/
theorem full_ne_nil (r : Route) : r.full ≠ [] := by
  unfold full
  split <;> simp

/-- A route is recovered from its full sequence. -/
@[simp] theorem ofFull_full (r : Route) : ofFull r.full = some r := by
  obtain ⟨origin, via, destination⟩ := r
  unfold full
  split
  · rename_i h
    obtain ⟨h₁, h₂⟩ := isSameLink_iff.1 h
    simp only at h₁ h₂
    subst h₁ h₂
    rfl
  · simp [ofFull]

/-- A sequence is recovered from its route, but for one link given twice, which collapses. -/
theorem full_ofFull {links : List LinkId} {r : Route} (h : ofFull links = some r) :
    r.full = if links = [r.origin, r.origin] then [r.origin] else links := by
  cases links with
  | nil => cases h
  | cons first rest =>
    cases hlast : rest.getLast? with
    | none =>
      have hnil : rest = [] := List.getLast?_eq_none_iff.1 hlast
      subst hnil
      simp only [ofFull, List.getLast?_nil, Option.some.injEq] at h
      subst h
      simp [full, isSameLink]
    | some last =>
      obtain ⟨middle, rfl⟩ := List.getLast?_eq_some_iff.1 hlast
      simp only [ofFull, hlast, Option.some.injEq] at h
      subst h
      cases middle with
      | nil =>
        by_cases he : first = last
        · subst he
          simp [full, isSameLink]
        · have he' : last ≠ first := fun h => he h.symm
          simp [full, isSameLink, he, he']
      | cons m ms =>
        have hdrop : (m :: ms ++ [last]).dropLast = m :: ms := List.dropLast_concat
        simp only [full, isSameLink, hdrop]
        simp

end Route

end TrafficQueue
