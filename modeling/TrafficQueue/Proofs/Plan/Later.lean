import Mathlib.Tactic.Common
import TrafficQueue.Config.Basic
import TrafficQueue.Population

/-!
# Plans moved to a later time

A plan is moved by moving the end times of its activities; how long they take stays as
it is.  An activity that starts later by as much is left later by as much, as far as
the range of times goes, and nothing else about the plan changes.

Main results:

- Theorem `Time.offset_le_offset_iff`: times are moved without changing places, as long
  as they stay before the end of the range.
- Definitions `Activity.later`, `Plan.later`, `Population.later` and `Config.later`.
- Theorem `Activity.departure_later`: when a moved activity is left.
- Theorem `Population.validate_later`: a moved population fits where it fitted.
-/

namespace TrafficQueue

/-! ## Times -/

namespace Time

variable {a b : Time} {d : Nat}

@[simp]
theorem secs_min (a b : Time) : (min a b).secs = min a.secs b.secs := by
  change (if a ≤ b then a else b).secs = _
  split <;> rename_i h <;> rw [le_def] at h <;> omega

@[simp]
theorem secs_max (a b : Time) : (max a b).secs = max a.secs b.secs := by
  change (if a ≤ b then b else a).secs = _
  split <;> rename_i h <;> rw [le_def] at h <;> omega

theorem min_offset (a b : Time) (d : Nat) : min (a.offset d) (b.offset d) = (min a b).offset d := by
  ext
  simp only [secs_min, secs_offset]
  omega

/-- The later of two times is moved with them. -/
theorem max_offset (a b : Time) (d : Nat) : max (a.offset d) (b.offset d) = (max a b).offset d := by
  ext
  simp only [secs_max, secs_offset]
  omega

/-- Delays in either order. -/
theorem offset_comm (t : Time) (m n : Nat) : (t.offset m).offset n = (t.offset n).offset m := by
  rw [offset_offset, offset_offset, Nat.add_comm]

/-- A time is moved to a time of day if the sum stays below the largest number. -/
theorem offset_ne_never_iff : a.offset d ≠ never ↔ a.secs + d < never.secs := by
  constructor
  · intro hne
    by_contra hge
    apply hne
    ext
    simp only [secs_offset, secs_never] at hge ⊢
    omega
  · intro hlt hnever
    have hsecs := congrArg secs hnever
    simp only [secs_offset, secs_never] at hlt hsecs
    omega

/-- Among times that stay before the end of the range, moving keeps the order. -/
theorem offset_le_offset_iff (h : b.offset d ≠ never) : a.offset d ≤ b.offset d ↔ a ≤ b := by
  rw [offset_ne_never_iff, secs_never] at h
  simp only [le_def, secs_offset]
  omega

/-- What is not later stays before the end of the range as well. -/
theorem offset_ne_never_of_le (h : b.offset d ≠ never) (hle : a ≤ b) : a.offset d ≠ never := by
  rw [offset_ne_never_iff] at h ⊢
  rw [le_def] at hle
  omega

/-- What is moved to a time of day was one. -/
theorem ne_never_of_offset (h : a.offset d ≠ never) : a ≠ never := by
  rintro rfl
  exact h (never_offset d)

end Time

/-! ## Activities -/

variable (d : Nat)

/-- The activity with its end time moved. -/
def Activity.later (a : Activity) : Activity := { a with endTime := a.endTime.map (·.offset d) }

namespace Activity

/-- A moved activity ends later by as much. -/
theorem naturalEnd_later (a : Activity) (start : Time) :
    (a.later d).naturalEnd (start.offset d) = (a.naturalEnd start).offset d := by
  rcases a with ⟨kind, link, place, endTime, duration⟩
  cases endTime <;> cases duration
  · exact (Time.never_offset d).symm
  · exact Time.offset_comm _ _ _
  · rfl
  · rename_i t secs
    change min (t.offset d) ((start.offset d).offset secs) = (min t (start.offset secs)).offset d
    rw [Time.offset_comm, Time.min_offset]

/-- A moved activity is left later by as much. -/
@[simp]
theorem departure_later (a : Activity) (start : Time) :
    (a.later d).departure (start.offset d) = (a.departure start).offset d := by
  rw [departure, naturalEnd_later, Time.max_offset, departure]

end Activity

/-! ## Plans -/

/-- The element with its end time moved, if it is an activity. -/
def PlanElement.later : PlanElement → PlanElement
  | .activity a => .activity (a.later d)
  | .leg l => .leg l

/-- The plan with the end times of its activities moved. -/
def Plan.later (p : Plan) : Plan := ⟨p.elements.map (PlanElement.later d)⟩

namespace Plan

variable (p : Plan) (i : Nat)

@[simp]
theorem length_later : (p.later d).length = p.length :=
  List.length_map _

@[simp]
theorem element?_later : (p.later d).element? i = (p.element? i).map (PlanElement.later d) :=
  List.getElem?_map

@[simp]
theorem activity?_later : (p.later d).activity? i = (p.activity? i).map (Activity.later d) := by
  rw [activity?, element?_later, activity?]
  rcases p.element? i with _ | _ | _ <;> rfl

@[simp]
theorem leg?_later : (p.later d).leg? i = p.leg? i := by
  rw [leg?, element?_later, leg?]
  rcases p.element? i with _ | _ | _ <;> rfl

/-! ### Fitting a network -/

variable (person : String) (net : Network)

/-- A route of a later plan is checked as that of the plan. -/
theorem routeFault?_later (r : Route) :
    (p.later d).routeFault? person net i r = p.routeFault? person net i r := by
  have hfilter : ∀ (a : Option Activity) (l : LinkId),
      (a.map (Activity.later d)).filter (fun a => a.link ≠ l) =
        (a.filter fun a => a.link ≠ l).map (Activity.later d) := by
    intro a l
    rw [Option.filter_map]
    rfl
  unfold routeFault?
  cases unknownLink? net r with
  | some l => rfl
  | none =>
      simp only [activity?_later, hfilter]
      cases (p.activity? (i - 1)).filter fun a => a.link ≠ r.origin with
      | some a => rfl
      | none => cases (p.activity? (i + 1)).filter fun a => a.link ≠ r.destination <;> rfl

theorem elementFault?_later (e : PlanElement) :
    (p.later d).elementFault? person net i (e.later d) = p.elementFault? person net i e := by
  cases e with
  | activity a => rfl
  | leg l =>
      simp only [PlanElement.later, elementFault?]
      cases l.route with
      | none => rfl
      | some r => rw [Option.bind_some, Option.bind_some, routeFault?_later]

variable {p person net}

/-- A plan that was validated is validated at a later time. -/
theorem validate_later (h : p.validate person net = .ok ()) :
    (p.later d).validate person net = .ok () := by
  rcases validate_eq_ok_iff.1 h with ⟨hodd, helements⟩
  refine validate_eq_ok_iff.2 ⟨by rw [length_later, hodd], fun i moved hmoved => ?_⟩
  rw [element?_later] at hmoved
  rcases Option.map_eq_some_iff.1 hmoved with ⟨e, he, rfl⟩
  rw [elementFault?_later]
  exact helements i e he

end Plan

/-! ## Populations and configurations -/

/-- The person with the plan moved. -/
def Person.later (p : Person) : Person := { p with plan := p.plan.later d }

/-- The population with all plans moved. -/
def Population.later (p : Population) : Population := ⟨p.persons.map (Person.later d)⟩

/-- The configuration with the time window moved. -/
def Config.later (c : Config) : Config :=
  { c with startTime := c.startTime.offset d, endTime := c.endTime.offset d }

variable {d}

/-- A population that was validated is validated at a later time. -/
theorem Population.validate_later {p : Population} {net : Network}
    (h : p.validate net = .ok ()) : (p.later d).validate net = .ok () := by
  refine validate_eq_ok_iff.2 fun moved hmoved => ?_
  rcases Array.mem_map.1 hmoved with ⟨person, hperson, rfl⟩
  exact Plan.validate_later d (validate_eq_ok_iff.1 h person hperson)

/-- A configuration that was validated is validated at a later time. -/
theorem Config.validate_later {c : Config} (h : c.validate = .ok ()) :
    (c.later d).validate = .ok () := by
  have hsound := validate_eq_ok_iff.1 h
  refine validate_eq_ok_iff.2 fun issue => ?_
  cases issue with
  | endBeforeStart =>
      have hle : c.startTime ≤ c.endTime := by
        have horder : ¬ c.endTime < c.startTime := of_decide_eq_false (hsound .endBeforeStart)
        exact Nat.le_of_not_lt horder
      have hmoved := Time.offset_mono hle d
      exact decide_eq_false (Nat.not_lt.2 hmoved)
  | stepNotPositive => exact hsound .stepNotPositive
  | flowFactorNotPositive => exact hsound .flowFactorNotPositive
  | storageFactorNotPositive => exact hsound .storageFactorNotPositive
  | thresholdOutOfRange => exact hsound .thresholdOutOfRange
  | outputIntervalZero => exact hsound .outputIntervalZero
  | noThreads => exact hsound .noThreads

end TrafficQueue
