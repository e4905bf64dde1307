import TrafficQueue.Geometry.Point
import TrafficQueue.Ident
import TrafficQueue.Time

/-!
# Activities

What a person does on a link, and when the person leaves it.

Main result: `Activity.le_departure`, nobody leaves before the activity has started.
-/

namespace TrafficQueue

/-- Something to do at a place. -/
structure Activity where
  /-- A free word such as `home` or `work`. -/
  kind : String
  link : LinkId
  place : Option Point := none
  endTime : Option Time := none
  /-- The longest stay in seconds. -/
  duration : Option Nat := none

namespace Activity

/-- When the activity would end on its own: at its end time or after its duration, whichever comes
first; with neither it does not end. -/
def naturalEnd (a : Activity) (start : Time) : Time :=
  match a.endTime, a.duration with
  | none, none => .never
  | some t, none => t
  | none, some d => start.offset d
  | some t, some d => min t (start.offset d)

/-- When a person who starts the activity leaves it: at its end, and not before its start. -/
def departure (a : Activity) (start : Time) : Time :=
  max (a.naturalEnd start) start

/-- Equality as the parts compare: a place with a coordinate that is not a number differs from
itself. -/
def same (a b : Activity) : Bool :=
  let samePlace := match a.place, b.place with
    | none, none => true
    | some p, some q => p.same q
    | _, _ => false
  a.kind = b.kind && a.link = b.link && samePlace && a.endTime = b.endTime &&
    a.duration = b.duration

/-- Nobody leaves before coming. -/
theorem le_departure (a : Activity) (start : Time) : start ≤ a.departure start := by
  show start ≤ if a.naturalEnd start ≤ start then start else a.naturalEnd start
  split
  · exact Nat.le_refl _
  · rename_i h
    simp only [Time.le_def] at h ⊢
    omega

end Activity

end TrafficQueue
