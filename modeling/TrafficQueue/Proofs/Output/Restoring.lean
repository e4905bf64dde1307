import Mathlib.Tactic.Common
import TrafficQueue.Output.Row
import TrafficQueue.Text.Numeral

/-!
# Events restored from their rows

A row has one text for whatever belongs to an event beside its name, whether this is an activity, a
mode, a vehicle, a list of links or a reason.  The name tells how the text is to be taken, so an
event can be restored from its row, and no two events have the same one.

Main results:

- Definition `EventRow.restore`: the event that a row was made from.
- Theorem `Text.numbersIn_intercalate`: numbers with spaces between them are read back.
- Theorem `EventKind.restore_detail`: name and detail of an event give back what has happened.
- Theorem `EventRow.ofEvent_loses_nothing`: different events have different rows.
-/

namespace TrafficQueue

/-! ## Numbers with spaces between them -/

namespace Text

/-- The numbers of a text with a space between any two. -/
def numbersIn (s : String) : List Nat :=
  if s = "" then [] else (s.toList.splitOn ' ').map value

/-- The digits of a number have no space. -/
theorem space_notMem_digits (n : Nat) : ' ' ∉ digits n := by
  intro hmem
  exact absurd (isDigit_of_mem_digits hmem) (by decide)

/-- Numbers with spaces between them are taken apart at the spaces. -/
theorem splitOn_intercalate_space {ns : List Nat} (h : ns ≠ []) :
    (" ".intercalate (ns.map toString)).toList.splitOn ' ' = ns.map digits := by
  have hdigits : String.toList ∘ toString = digits := funext toList_toString
  have hlist : (" ".intercalate (ns.map toString)).toList = [' '].intercalate (ns.map digits) := by
    rw [String.toList_intercalate, List.map_map, hdigits]
    rfl
  have hspace : ∀ ds ∈ ns.map digits, ' ' ∉ ds := by
    intro ds hmem
    rcases List.mem_map.1 hmem with ⟨n, -, rfl⟩
    exact space_notMem_digits n
  rw [hlist, List.splitOn_intercalate ' ' hspace (by simpa using h)]

/-- Numbers with spaces between them are read back; in particular the empty text has none. -/
theorem numbersIn_intercalate (ns : List Nat) :
    numbersIn (" ".intercalate (ns.map toString)) = ns := by
  cases ns with
  | nil => rfl
  | cons n ns =>
      have hsplit := splitOn_intercalate_space (List.cons_ne_nil n ns)
      have hne : " ".intercalate ((n :: ns).map toString) ≠ "" := by
        intro hempty
        rw [hempty] at hsplit
        exact digits_ne_nil n (List.cons_eq_cons.1 hsplit).1.symm
      have hvalue : value ∘ digits = id := funext value_digits
      rw [numbersIn, if_neg hne, hsplit, List.map_map, hvalue, List.map_id]

end Text

/-! ## Restoring -/

/-- What has happened, from its name and the text that goes with it. -/
def EventKind.restore (name detail : String) : Option EventKind :=
  match name with
  | "actend" => some (.activityEnd detail)
  | "departure" => (Mode.ofName detail).toOption.map .departure
  | "entered link" => some (.linkEnter ⟨Text.value detail.toList⟩)
  | "left link" => some (.linkLeave ⟨Text.value detail.toList⟩)
  | "arrival" => (Mode.ofName detail).toOption.map .arrival
  | "actstart" => some (.activityStart detail)
  | "replan" => some (.replan ((Text.numbersIn detail).map Ident.mk))
  | "stuck" => (StuckReason.all.find? fun reason => reason.text = detail).map .stuck
  | _ => none

/-- The event that a row was made from. -/
def EventRow.restore (r : EventRow) : Option Event :=
  (EventKind.restore r.kind r.detail).map fun kind => ⟨.ofSecs r.time, ⟨r.agent⟩, ⟨r.link⟩, kind⟩

namespace EventKind

/-- Name and detail give back what has happened. -/
theorem restore_detail (kind : EventKind) : restore kind.name kind.detail = some kind := by
  cases kind with
  | activityEnd activity => rfl
  | departure mode =>
      change (Mode.ofName mode.name).toOption.map departure = _
      rw [Mode.ofName_name]
      rfl
  | linkEnter vehicle =>
      change some (linkEnter ⟨Text.value (toString vehicle.index).toList⟩) = _
      rw [Text.value_toString]
  | linkLeave vehicle =>
      change some (linkLeave ⟨Text.value (toString vehicle.index).toList⟩) = _
      rw [Text.value_toString]
  | arrival mode =>
      change (Mode.ofName mode.name).toOption.map arrival = _
      rw [Mode.ofName_name]
      rfl
  | activityStart activity => rfl
  | replan route =>
      have hindices :
          route.map (fun l => toString l.index) = (route.map Ident.index).map toString :=
        (List.map_map ..).symm
      change some (replan ((Text.numbersIn (" ".intercalate
        (route.map fun l => toString l.index))).map Ident.mk)) = _
      rw [hindices, Text.numbersIn_intercalate, List.map_map]
      exact congrArg (fun links => some (replan links)) (List.map_id route)
  | stuck reason => cases reason <;> rfl

/-- Name and detail determine what has happened. -/
theorem name_detail_injective :
    Function.Injective fun kind : EventKind => (kind.name, kind.detail) := by
  intro kind kind' h
  rcases Prod.mk.inj h with ⟨hname, hdetail⟩
  apply Option.some.inj
  rw [← restore_detail kind, ← restore_detail kind', hname, hdetail]

end EventKind

namespace EventRow

/-- The event that a row was made from is restored. -/
theorem restore_ofEvent (e : Event) : (ofEvent e).restore = some e := by
  rw [restore, ofEvent, EventKind.restore_detail, Option.map_some, Time.ofSecs_secs]

/-- Different events have different rows, whatever their times, identifiers and details are; name
and detail by themselves determine what has happened and all that belongs to it. -/
theorem ofEvent_loses_nothing :
    Function.Injective ofEvent ∧
      Function.Injective fun kind : EventKind => (kind.name, kind.detail) := by
  refine ⟨?_, EventKind.name_detail_injective⟩
  intro e e' h
  apply Option.some.inj
  rw [← restore_ofEvent e, ← restore_ofEvent e', h]

/-- The same digits, with the space at another place. -/
example : (EventKind.replan [⟨1⟩, ⟨23⟩]).detail ≠ (EventKind.replan [⟨12⟩, ⟨3⟩]).detail := by
  decide

end EventRow

end TrafficQueue
