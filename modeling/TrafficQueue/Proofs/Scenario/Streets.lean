import Mathlib.Algebra.BigOperators.Group.List.Basic
import Mathlib.Algebra.BigOperators.Ring.List
import Mathlib.Algebra.Order.Ring.Nat
import Mathlib.Data.List.Nodup
import Mathlib.Tactic.Linarith
import Mathlib.Tactic.Ring
import TrafficQueue.Scenario.Grid
import TrafficQueue.Text.Numeral

/-!
# The streets of a grid

Every link of a grid is one of the two ways of a street, and a street is known by the
crossing to the left of it or below it and by its direction.  So the links can be
counted, and neither their names nor their ends repeat.

Main results:

- Definition `Way` and theorem `streets_eq`: the links of a grid, way by way.
- Theorems `mem_allWays`, `nodup_allWays` and `length_allWays`: which ways there are
  and how many.
- Theorems `crossing_name_injective` and `Way.name_injective`: names do not repeat.
- Theorem `Way.eq_opposite`: no way but the opposite one has the ends the other way
  round.
-/

namespace TrafficQueue.Grid

/-- One of the ways of the street that leads from the crossing at `x` and `y` along the row or along
the column. -/
@[ext]
structure Way where
  x : Nat
  y : Nat
  /-- Along the row. -/
  across : Bool
  /-- From the crossing at `x` and `y`, not to it. -/
  forward : Bool

namespace Way

/-- The name of the street. -/
def name (w : Way) : String :=
  (if w.across then "h" else "v") ++ (toString w.x ++ "_" ++ toString w.y) ++
    if w.forward then "f" else "b"

/-- The number of the crossing at `x` and `y`. -/
def near (size : Nat) (w : Way) : Nat := w.y * size + w.x

/-- The number of the crossing at the other end of the street. -/
def far (size : Nat) (w : Way) : Nat := w.near size + if w.across then 1 else size

/-- The flow of the street. -/
def flow (size : Nat) (w : Way) : Float :=
  if w.across && isArterial size w.y then 2 * streetFlow else streetFlow

/-- The link of the way in a grid. -/
def spec (size : Nat) (w : Way) : LinkSpec :=
  { name := w.name
    source := ⟨if w.forward then w.near size else w.far size⟩
    target := ⟨if w.forward then w.far size else w.near size⟩
    length := blockLength
    speed := freeSpeed
    flow := some (w.flow size) }

/-- The same street in the other direction. -/
def opposite (w : Way) : Way := { w with forward := !w.forward }

/-- Both ends of the street belong to the grid. -/
structure Within (size : Nat) (w : Way) : Prop where
  column : w.x < size
  row : w.y < size
  next : (if w.across then w.x else w.y) + 1 < size

end Way

/-- Both ways of a street. -/
def bothWays (x y : Nat) (across : Bool) : List Way := [⟨x, y, across, true⟩, ⟨x, y, across, false⟩]

/-- The ways of the streets to the right and above, as far as there are any. -/
def waysFrom (size x y : Nat) : List Way :=
  (if x + 1 < size then bothWays x y true else []) ++
    if y + 1 < size then bothWays x y false else []

/-- All ways, crossing by crossing. -/
def allWays (size : Nat) : List Way :=
  (List.range size).flatMap fun y => (List.range size).flatMap fun x => waysFrom size x y

/-! ## The links, way by way -/

/-- The streets from a crossing are those of the ways from it. -/
theorem streetsFrom_eq (size x y : Nat) :
    streetsFrom size x y = (waysFrom size x y).map (Way.spec size) := by
  have hright : ways ("h" ++ (toString x ++ "_" ++ toString y)) (y * size + x) (y * size + x + 1)
      (if isArterial size y then 2 * streetFlow else streetFlow) =
        (bothWays x y true).map (Way.spec size) := by
    rfl
  have habove : ways ("v" ++ (toString x ++ "_" ++ toString y)) (y * size + x)
      (y * size + x + size) streetFlow = (bothWays x y false).map (Way.spec size) := by
    rfl
  unfold streetsFrom waysFrom
  rw [List.map_append, apply_ite (List.map (Way.spec size)), apply_ite (List.map (Way.spec size)),
    ← hright, ← habove]
  rfl

/-- The streets of the grid are those of all ways. -/
theorem streets_eq (size : Nat) : streets size = (allWays size).map (Way.spec size) := by
  simp only [streets, allWays, List.map_flatMap, streetsFrom_eq]

variable {size : Nat} {w v : Way}

/-- Both ways begin at the crossing and go in the direction. -/
theorem mem_bothWays {x y : Nat} {across : Bool} :
    w ∈ bothWays x y across ↔ w.x = x ∧ w.y = y ∧ w.across = across := by
  rcases w with ⟨x', y', across', forward⟩
  cases forward <;> simp [bothWays]

/-- The ways from a crossing go across and up, as far as the grid goes. -/
theorem mem_waysFrom {x y : Nat} :
    w ∈ waysFrom size x y ↔
      w.x = x ∧ w.y = y ∧ (if w.across then w.x else w.y) + 1 < size := by
  have hmem : ∀ across : Bool, ∀ next : Nat,
      w ∈ (if next + 1 < size then bothWays x y across else []) ↔
        (w.x = x ∧ w.y = y ∧ w.across = across) ∧ next + 1 < size := by
    intro across next
    by_cases h : next + 1 < size
    · rw [if_pos h, mem_bothWays, and_iff_left h]
    · rw [if_neg h]
      exact ⟨fun hw => absurd hw List.not_mem_nil, fun hw => absurd hw.2 h⟩
  rw [waysFrom, List.mem_append, hmem, hmem]
  cases hacross : w.across <;> grind

/-- All ways are the ways on the grid. -/
theorem mem_allWays : w ∈ allWays size ↔ w.Within size := by
  simp only [allWays, List.mem_flatMap, List.mem_range, mem_waysFrom]
  constructor
  · rintro ⟨y, hy, x, hx, rfl, rfl, hnext⟩
    exact ⟨hx, hy, hnext⟩
  · intro h
    exact ⟨w.y, h.row, w.x, h.column, rfl, rfl, h.next⟩

/-- Both ways are different ways. -/
theorem nodup_bothWays (x y : Nat) (across : Bool) : (bothWays x y across).Nodup := by
  simp [bothWays]

/-- The ways from a crossing are different ways. -/
theorem nodup_waysFrom (size x y : Nat) : (waysFrom size x y).Nodup := by
  have hnodup : ∀ (across : Bool) (next : Nat),
      (if next + 1 < size then bothWays x y across else []).Nodup := by
    intro across next
    split
    · exact nodup_bothWays x y across
    · exact List.nodup_nil
  refine List.nodup_append.2 ⟨hnodup true x, hnodup false y, ?_⟩
  rintro w hw v hv rfl
  grind [mem_bothWays]

/-- No way is listed twice. -/
theorem nodup_allWays (size : Nat) : (allWays size).Nodup := by
  refine List.nodup_flatMap.2 ⟨fun y _ => List.nodup_flatMap.2 ⟨fun x _ =>
    nodup_waysFrom size x y, ?_⟩, ?_⟩
  · refine List.nodup_range.imp ?_
    intro x x' hne w hw hw'
    exact hne ((mem_waysFrom.1 hw).1.symm.trans (mem_waysFrom.1 hw').1)
  · refine List.nodup_range.imp ?_
    intro y y' hne w hw hw'
    rcases List.mem_flatMap.1 hw with ⟨x, -, hw⟩
    rcases List.mem_flatMap.1 hw' with ⟨x', -, hw'⟩
    exact hne ((mem_waysFrom.1 hw).2.1.symm.trans (mem_waysFrom.1 hw').2.1)

/-! ## How many -/

/-- All but the last of `n` numbers have a next one. -/
theorem sum_interior (n c : Nat) :
    ((List.range n).map fun i => if i + 1 < n then c else 0).sum = (n - 1) * c := by
  cases n with
  | zero => simp
  | succ n =>
      have hinner : ∀ i ∈ List.range n, (if i + 1 < n + 1 then c else 0) = c :=
        fun i hi => if_pos (Nat.succ_lt_succ (List.mem_range.1 hi))
      rw [List.range_succ, List.map_append, List.sum_append, List.map_congr_left hinner]
      simp

/-- From a crossing there are two ways across and two ways up, as far as the grid goes. -/
theorem length_waysFrom (size x y : Nat) :
    (waysFrom size x y).length =
      (if x + 1 < size then 2 else 0) + if y + 1 < size then 2 else 0 := by
  rw [waysFrom, List.length_append, apply_ite List.length, apply_ite List.length]
  rfl

/-- The number of ways on the grid. -/
theorem length_allWays (size : Nat) : (allWays size).length = 4 * (size * (size - 1)) := by
  simp only [allWays, List.length_flatMap, length_waysFrom, List.sum_map_add, sum_interior,
    List.map_const', List.sum_replicate_nat, List.length_range, List.sum_map_mul_left]
  ring

/-! ## Names -/

/-- There is no underscore in the digits of a number. -/
theorem underscore_notMem_digits (n : Nat) : '_' ∉ Text.digits n := by
  intro hmem
  have hdigit := Text.isDigit_of_mem_digits hmem
  revert hdigit
  decide

/-- Two numbers with an underscore between them are known by what is written up to the end. -/
theorem place_injective {x y x' y' : Nat} {cs ds : List Char} (hcs : '_' ∉ cs)
    (hlength : cs.length = ds.length)
    (h : Text.digits x ++ '_' :: (Text.digits y ++ cs) =
      Text.digits x' ++ '_' :: (Text.digits y' ++ ds)) : x = x' ∧ y = y' ∧ cs = ds := by
  have hrow : '_' ∉ Text.digits y ++ cs :=
    List.not_mem_append (underscore_notMem_digits y) hcs
  rcases (List.append_cons_inj_of_notMem (underscore_notMem_digits x) hrow).1 h with ⟨hx, -, hrest⟩
  rcases List.append_inj' hrest hlength with ⟨hy, hend⟩
  exact ⟨Text.digits_injective hx, Text.digits_injective hy, hend⟩

/-- The name of a crossing tells where it is. -/
theorem crossing_name_injective {x y x' y' : Nat}
    (h : (crossing x y).name = (crossing x' y').name) : x = x' ∧ y = y' := by
  have hname : ∀ x y, (crossing x y).name.toList =
      Text.digits x ++ '_' :: (Text.digits y ++ []) := by
    intro x y
    simp [crossing, ← Text.toList_toString]
  have hlist := congrArg String.toList h
  rw [hname, hname] at hlist
  rcases place_injective List.not_mem_nil rfl hlist with ⟨hx, hy, -⟩
  exact ⟨hx, hy⟩

/-- The name of a street tells which way it is. -/
theorem Way.name_injective (h : w.name = v.name) : w = v := by
  have hname : ∀ w : Way, w.name.toList = (if w.across then 'h' else 'v') ::
      (Text.digits w.x ++ '_' :: (Text.digits w.y ++ [if w.forward then 'f' else 'b'])) := by
    rintro ⟨x, y, across, forward⟩
    cases across <;> cases forward <;> simp [name, ← Text.toList_toString]
  have hlist := congrArg String.toList h
  rw [hname, hname] at hlist
  rcases List.cons_eq_cons.1 hlist with ⟨hletter, hrest⟩
  rcases place_injective (by grind) (by rfl) hrest with ⟨hx, hy, hsuffix⟩
  exact Way.ext hx hy (by grind) (by grind)

/-! ## Ends -/

theorem Way.Within.near_lt (h : w.Within size) : w.near size < size * size := by
  have hrow := Nat.mul_le_mul_right size h.row
  have hcolumn := h.column
  rw [near]
  linarith [Nat.succ_mul w.y size]

/-- The far end of a way is a crossing of the grid. -/
theorem Way.Within.far_lt (h : w.Within size) : w.far size < size * size := by
  have hnext := h.next
  have hrow := h.row
  have hcolumn := h.column
  rw [far, near]
  cases hacross : w.across with
  | true =>
      simp only [hacross, if_true] at hnext ⊢
      nlinarith
  | false =>
      simp only [hacross, Bool.false_eq_true, if_false] at hnext ⊢
      nlinarith

theorem Way.Within.near_lt_far (h : w.Within size) : w.near size < w.far size := by
  have hcolumn := h.column
  rw [far]
  split <;> omega

/-- Streets that start and end at the same crossings are the same. -/
theorem Way.Within.eq_of_ends (hw : w.Within size) (hv : v.Within size)
    (hnear : w.near size = v.near size) (hfar : w.far size = v.far size) :
    w.x = v.x ∧ w.y = v.y ∧ w.across = v.across := by
  have hx : w.x = v.x := by
    have hmod := congrArg (· % size) hnear
    simpa [near, Nat.mod_eq_of_lt hw.column, Nat.mod_eq_of_lt hv.column] using hmod
  have hsize : 1 < size := by
    have hnext := hw.next
    omega
  have hy : w.y = v.y := by
    have hrows : w.y * size = v.y * size := by
      rw [near, near, hx] at hnear
      omega
    exact Nat.eq_of_mul_eq_mul_right (by omega) hrows
  refine ⟨hx, hy, ?_⟩
  rw [far, far, hnear] at hfar
  grind

/-- The opposite way begins where the way ends. -/
theorem Way.source_opposite (size : Nat) (w : Way) :
    (w.opposite.spec size).source = (w.spec size).target := by
  cases hforward : w.forward <;> simp [spec, opposite, near, far, hforward]

theorem Way.target_opposite (size : Nat) (w : Way) :
    (w.opposite.spec size).target = (w.spec size).source := by
  cases hforward : w.forward <;> simp [spec, opposite, near, far, hforward]

/-- No way but the opposite one has the ends the other way round. -/
theorem Way.eq_opposite (hw : w.Within size) (hv : v.Within size)
    (hsource : (v.spec size).source = (w.spec size).target)
    (htarget : (v.spec size).target = (w.spec size).source) : v = w.opposite := by
  have hwlt := hw.near_lt_far
  have hvlt := hv.near_lt_far
  simp only [spec, Ident.mk.injEq] at hsource htarget
  -- a way has its ends in the order of the numbers, or is the way back
  cases hforward : w.forward <;> cases hforward' : v.forward <;>
    simp only [hforward, hforward', if_true, Bool.false_eq_true, if_false] at hsource htarget
  · omega
  · rcases hv.eq_of_ends hw hsource htarget with ⟨hx, hy, hacross⟩
    exact Way.ext hx hy hacross (by simp [opposite, hforward, hforward'])
  · rcases hv.eq_of_ends hw htarget hsource with ⟨hx, hy, hacross⟩
    exact Way.ext hx hy hacross (by simp [opposite, hforward, hforward'])
  · omega

end TrafficQueue.Grid
