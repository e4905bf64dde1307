import TrafficQueue.Time

/-!
# The clock of a run

A clock starts at a time and advances in equal steps.  It counts its steps, and its time saturates
at `Time.never`.

Main result: `Clock.secs_now_advanceBy`, the time after any number of steps.
-/

namespace TrafficQueue

/-- The time of a simulation, which advances in steps of equal length. -/
structure Clock where
  start : Time
  stepSecs : UInt32
  now : Time
  /-- Completed steps. -/
  steps : Nat
deriving DecidableEq

namespace Clock

/-- A clock at its start. -/
def startingAt (start : Time) (stepSecs : UInt32) : Clock :=
  ⟨start, stepSecs, start, 0⟩

/-- One step later. -/
def advance (c : Clock) : Clock :=
  { c with now := c.now.offset c.stepSecs.toNat, steps := c.steps + 1 }

/-- Seconds since the start. -/
def elapsed (c : Clock) : Nat := c.now.since c.start

/-- The clock in words. -/
def text (c : Clock) : String :=
  c.now.text ++ " (step " ++ toString c.steps ++ ")"

/-- So many steps later. -/
def advanceBy (c : Clock) (n : Nat) : Clock :=
  n.repeat advance c

@[simp] theorem start_advance (c : Clock) : c.advance.start = c.start := rfl
@[simp] theorem stepSecs_advance (c : Clock) : c.advance.stepSecs = c.stepSecs := rfl
@[simp] theorem steps_advance (c : Clock) : c.advance.steps = c.steps + 1 := rfl

@[simp] theorem now_advance (c : Clock) :
    c.advance.now = c.now.offset c.stepSecs.toNat := rfl

/-- Time does not go back. -/
theorem now_le_advance (c : Clock) : c.now ≤ c.advance.now := Time.le_offset _ _

@[simp] theorem advanceBy_zero (c : Clock) : c.advanceBy 0 = c := rfl

@[simp] theorem advanceBy_succ (c : Clock) (n : Nat) :
    c.advanceBy (n + 1) = (c.advanceBy n).advance := rfl

/-- After `n` steps the clock is `n` step sizes further, as far as the range of times goes. -/
theorem secs_now_advanceBy (c : Clock) (n : Nat) :
    (c.advanceBy n).now.secs = min (c.now.secs + n * c.stepSecs.toNat) 0xffffffffffffffff ∧
      (c.advanceBy n).stepSecs = c.stepSecs := by
  induction n with
  | zero =>
    have := c.now.secs_lt
    simp only [advanceBy_zero, Nat.zero_mul, Nat.add_zero, and_true]
    omega
  | succ n ih =>
    obtain ⟨hnow, hstep⟩ := ih
    simp only [advanceBy_succ, now_advance, Time.secs_offset, hnow, hstep, stepSecs_advance,
      and_true, Nat.succ_mul]
    omega

end Clock

end TrafficQueue
