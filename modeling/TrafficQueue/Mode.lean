/-!
# Modes of transport

The mode in which a leg is travelled.  Every routed leg moves through the link queues whatever its
mode; the mode is carried for those who read the events.

Main result: `Mode.ofName_eq_ok_iff`, a mode is read from exactly its own name.
-/

namespace TrafficQueue

/-- How somebody gets about. -/
inductive Mode where
  | car | bike | walk | pt | ride
deriving DecidableEq, Inhabited

namespace Mode

/-- All modes. -/
def all : List Mode := [.car, .bike, .walk, .pt, .ride]

/-- The name of a mode, as it is written with a departure. -/
def name : Mode → String
  | .car => "car"
  | .bike => "bike"
  | .walk => "walk"
  | .pt => "pt"
  | .ride => "ride"

/-- No mode has this name. -/
structure Unknown where
  name : String
deriving DecidableEq

/-- What is told of a name that no mode has. -/
def Unknown.message (e : Unknown) : String :=
  "unknown mode `" ++ e.name ++ "`"

/-- The mode with the given name. -/
def ofName (s : String) : Except Unknown Mode :=
  match all.find? fun m => m.name = s with
  | some m => .ok m
  | none => .error ⟨s⟩

/-- The list has all modes. -/
theorem mem_all (m : Mode) : m ∈ all := by
  cases m <;> decide

/-- Modes are told apart by their names. -/
theorem name_injective {a b : Mode} (h : a.name = b.name) : a = b := by
  cases a <;> cases b <;> first | rfl | exact absurd h (by decide)

/-- A mode is found by its name and by nothing else. -/
theorem ofName_eq_ok_iff {s : String} {m : Mode} : ofName s = .ok m ↔ m.name = s := by
  unfold ofName
  constructor
  · intro h
    split at h
    · rename_i m' hfind
      cases h
      simpa using List.find?_some hfind
    · cases h
  · intro h
    split
    · rename_i m' hfind
      have hm' : m'.name = s := by simpa using List.find?_some hfind
      rw [name_injective (h.trans hm'.symm)]
    · rename_i hfind
      have := List.find?_eq_none.1 hfind m (mem_all m)
      simp [h] at this

/-- A mode is read from its name. -/
theorem ofName_name (m : Mode) : ofName m.name = .ok m :=
  ofName_eq_ok_iff.2 rfl

end Mode

end TrafficQueue
