/-!
# Room in memory

Room for a list can be set aside in advance.  It is one block of memory, and no block has 2^63
bytes or more.

Main result: `Room.fits_of_le`, where there is room for a list there is room for a shorter one.
-/

namespace TrafficQueue.Room

/-- The bytes of the largest block. -/
def largestBlock : Nat := 0x7fffffffffffffff

/-- Whether one block can hold so many things of a size in bytes. -/
def fits (count size : Nat) : Bool := count * size ≤ largestBlock

/-- Less room fits where more does. -/
theorem fits_of_le {shorter longer size : Nat} (h : shorter ≤ longer)
    (hfits : fits longer size = true) : fits shorter size = true :=
  decide_eq_true (Nat.le_trans (Nat.mul_le_mul_right size h) (of_decide_eq_true hfits))

end TrafficQueue.Room
