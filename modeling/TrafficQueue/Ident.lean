/-!
# Dense identifiers

Agents, nodes, links and vehicles are numbered from zero in the order in which they are added.  An
identifier is the number together with the kind of thing that it numbers, so identifiers of
different kinds cannot be mixed up.

Main result: `Ident.ofNat_eq_ok_iff`, which numbers are identifiers.
-/

namespace TrafficQueue

/-- The kinds of things that carry dense numbers. -/
inductive Numbered where
  | agent | node | link | vehicle
deriving DecidableEq

/-- The position of a thing among the things of its kind. -/
structure Ident (kind : Numbered) where
  index : Nat
deriving DecidableEq

/-- The number of an agent. -/
abbrev AgentId := Ident .agent
/-- The number of a node. -/
abbrev NodeId := Ident .node
/-- The number of a link. -/
abbrev LinkId := Ident .link
/-- The number of a vehicle. -/
abbrev VehicleId := Ident .vehicle

/-- The word in front of the number when an identifier is written. -/
def Numbered.label : Numbered → String
  | .agent => "AgentId"
  | .node => "NodeId"
  | .link => "LinkId"
  | .vehicle => "VehicleId"

namespace Ident

variable {kind : Numbered}

/-- Identifiers of one kind are known by their numbers. -/
@[ext] theorem ext {a b : Ident kind} (h : a.index = b.index) : a = b := by
  cases a; cases b; cases h; rfl

/-- Identifiers are numbers of 32 bits. -/
def limit : Nat := UInt32.size

/-- The largest identifier stands for a thing that has not been assigned. -/
def unassigned : Ident kind := ⟨limit - 1⟩

/-- Without further notice nothing is numbered. -/
instance : Inhabited (Ident kind) := ⟨unassigned⟩

/-- Whether the identifier stands for a thing. -/
def isAssigned (i : Ident kind) : Bool := i ≠ unassigned

/-- The number does not fit an identifier. -/
inductive RangeError where
  | tooLarge
deriving DecidableEq

/-- What is told of a number that does not fit. -/
def RangeError.message : RangeError → String
  | .tooLarge => "number too large to fit in target type"

/-- The identifier with the given number. -/
def ofNat (n : Nat) : Except RangeError (Ident kind) :=
  if n < limit then .ok ⟨n⟩ else .error .tooLarge

/-- An identifier is written as its kind and its number in parentheses. -/
def text (i : Ident kind) : String :=
  kind.label ++ "(" ++ toString i.index ++ ")"

/-- Identifiers are written with the word for their kind. -/
instance : ToString (Ident kind) := ⟨text⟩

/-- The vehicle of an agent has the agent's number. -/
def vehicle (a : AgentId) : VehicleId := ⟨a.index⟩

@[simp] theorem index_vehicle (a : AgentId) : (vehicle a).index = a.index := rfl

/-- The numbers of 32 bits are identifiers, each of one thing. -/
theorem ofNat_eq_ok_iff {n : Nat} {i : Ident kind} :
    ofNat n = .ok i ↔ n < limit ∧ i.index = n := by
  unfold ofNat
  split
  · rename_i h
    constructor
    · intro he
      cases he
      exact ⟨h, rfl⟩
    · rintro ⟨-, rfl⟩
      rfl
  · rename_i h
    constructor
    · intro he
      cases he
    · exact fun he => absurd he.1 h

end Ident

end TrafficQueue
