import TrafficQueue.Decimal.Whole

/-!
# Flow and storage of a link

The *flow bucket* is a budget for vehicles that leave a link.  A step adds its share and the bucket
holds one share at most; a vehicle may leave while the bucket is open and costs a whole unit, so the
bucket can be overdrawn and later steps pay it back.  The *storage* counts the vehicles on a link.

The arithmetic of the bucket is a parameter: a run uses floating-point numbers, and what holds of
exact numbers can be said of exact numbers.

Main results: `Storage.hasSpace_iff` and `Storage.one_le_capacity_ofVehicles`.
-/

namespace TrafficQueue

/-- What a flow bucket needs to know about its numbers. -/
class FlowNumber (α : Type) where
  add : α → α → α
  least : α → α → α
  /-- One vehicle less. -/
  spend : α → α
  /-- More than the tolerance for rounding is left. -/
  isOpen : α → Bool

/-- Rounding errors up to this size do not open a bucket. -/
def flowTolerance : Float := 1e-9

/-- The smaller number; not-a-number loses against anything. -/
def leastNumber (a b : Float) : Float :=
  if a.isNaN then b else if b.isNaN then a else if a ≤ b then a else b

/-- Numbers in floating point can be counted with. -/
instance : FlowNumber Float where
  add a b := a + b
  least := leastNumber
  spend a := a - 1
  isOpen a := flowTolerance < a

/-- What a link lets out: it is filled in every step and spent by those who leave. -/
structure FlowBucket (α : Type) where
  /-- The share of a step. -/
  perStep : α
  accumulated : α
deriving DecidableEq

namespace FlowBucket

variable {α : Type}

/-- A bucket that starts full. -/
def full (perStep : α) : FlowBucket α := ⟨perStep, perStep⟩

/-- The share of a step of so many seconds, for a flow per second and its scaling. -/
def share (perSecond : Float) (stepSecs : UInt32) (factor : Float) : Float :=
  perSecond * stepSecs.toFloat * factor

variable [FlowNumber α]

/-- The start of a step. -/
def refill (b : FlowBucket α) : FlowBucket α :=
  { b with accumulated := FlowNumber.least (FlowNumber.add b.accumulated b.perStep) b.perStep }

/-- Whether a vehicle may leave. -/
def isOpen (b : FlowBucket α) : Bool := FlowNumber.isOpen b.accumulated

/-- A vehicle leaves. -/
def spend (b : FlowBucket α) : FlowBucket α :=
  { b with accumulated := FlowNumber.spend b.accumulated }

@[simp] theorem perStep_refill (b : FlowBucket α) : b.refill.perStep = b.perStep := rfl
@[simp] theorem perStep_spend (b : FlowBucket α) : b.spend.perStep = b.perStep := rfl

end FlowBucket

/-- Room on a link, in whole vehicles. -/
structure Storage where
  capacity : Nat
  occupied : Nat
deriving DecidableEq

namespace Storage

/-- Empty storage for so many vehicles, scaled, rounded up and at least one. -/
def ofVehicles (vehicles : Nat) (factor : Float) : Storage :=
  ⟨max (Decimal.ceil32 (vehicles.toFloat * factor)) 1, 0⟩

/-- Whether there is room for one more. -/
def hasSpace (s : Storage) : Bool := s.occupied < s.capacity

/-- The vehicles that still fit. -/
def room (s : Storage) : Nat := s.capacity - s.occupied

/-- A vehicle enters. -/
def occupy (s : Storage) : Storage := { s with occupied := s.occupied + 1 }

/-- A vehicle leaves. -/
def release (s : Storage) : Storage := { s with occupied := s.occupied - 1 }

/-- There is room until all places are taken. -/
theorem hasSpace_iff {s : Storage} : s.hasSpace = true ↔ s.occupied < s.capacity := by
  simp [hasSpace]

/-- Every link has room for one vehicle at least. -/
theorem one_le_capacity_ofVehicles (vehicles : Nat) (factor : Float) :
    1 ≤ (ofVehicles vehicles factor).capacity := Nat.le_max_right _ _

@[simp] theorem capacity_occupy (s : Storage) : s.occupy.capacity = s.capacity := rfl
@[simp] theorem capacity_release (s : Storage) : s.release.capacity = s.capacity := rfl
@[simp] theorem occupied_occupy (s : Storage) : s.occupy.occupied = s.occupied + 1 := rfl
@[simp] theorem occupied_release (s : Storage) : s.release.occupied = s.occupied - 1 := rfl

end Storage

end TrafficQueue
