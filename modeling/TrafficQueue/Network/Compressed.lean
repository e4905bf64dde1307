import TrafficQueue.Ident

/-!
# Rows of links in one column

The links of all rows of a table stand in one column, row after row, and for every row it is known
where it starts.  The column is filled by a counting sort: the links of every row are counted, the
counts are added up to the starts of the rows, and then every link takes the next free place of its
row.

Main results: `Compressed.starts_sort`, where the rows start, and `Compressed.row?_sort`, a row has
the links that belong to it, in their order.
-/

namespace TrafficQueue

/-- The links of all rows in one column. -/
structure Compressed where
  /-- For each row the place at which it starts; the last number is the end of the last row. -/
  starts : Array Nat
  column : Array LinkId
deriving Inhabited

namespace Compressed

variable {α : Type}

/-- The links of a row; a row that is not in the table has no answer. -/
def row? (t : Compressed) (n : Nat) : Option (List LinkId) := do
  let first ← t.starts[n]?
  let last ← t.starts[n + 1]?
  return (t.column.extract first last).toList

/-! ## Counting sort -/

/-- Counts the things of every row; a count stands one place behind its row. -/
def tally (count : Nat) (row : α → Nat) (things : List (α × Nat)) : Array Nat :=
  things.foldl (fun counts thing => counts.modify (row thing.1 + 1) (· + 1))
    (Array.replicate (count + 1) 0)

/-- Adds to the numbers at the first places all those before them. -/
def addUp (count : Nat) (counts : Array Nat) : Array Nat :=
  (List.range count).foldl (fun sums i => sums.modify (i + 1) (sums[i]?.getD 0 + ·)) counts

/-- A thing takes the place at the cursor of its row. -/
def place (row : α → Nat) (filled : Array Nat × Array LinkId) (thing : α × Nat) :
    Array Nat × Array LinkId :=
  match filled.1[row thing.1]? with
  | none => filled
  | some slot =>
    (filled.1.modify (row thing.1) (· + 1), filled.2.setIfInBounds slot ⟨thing.2⟩)

/-- Sorts numbered things into `count` rows; within a row their order is kept. -/
def sort (count : Nat) (row : α → Nat) (things : List (α × Nat)) : Compressed :=
  let starts := addUp count (tally count row things)
  ⟨starts, (things.foldl (place row) (starts, Array.replicate things.length .unassigned)).2⟩

/-! ## The starts of the rows -/

/-- The things of earlier rows. -/
def before (row : α → Nat) (things : List (α × Nat)) (n : Nat) : Nat :=
  things.countP fun thing => row thing.1 < n

/-- The numbers of the things of a row, in their order. -/
def members (row : α → Nat) (things : List (α × Nat)) (n : Nat) : List LinkId :=
  (things.filter fun thing => row thing.1 = n).map fun thing => ⟨thing.2⟩

variable {count n m : Nat} {row : α → Nat} {things : List (α × Nat)}

/-- Up to the next row come the things before a row and those of the row itself. -/
theorem before_succ (row : α → Nat) (things : List (α × Nat)) (n : Nat) :
    before row things (n + 1) = before row things n + (members row things n).length := by
  induction things with
  | nil => rfl
  | cons thing things ih =>
    simp only [before, members, List.countP_cons, List.filter_cons, List.length_map,
      decide_eq_true_eq] at ih ⊢
    rcases Nat.lt_trichotomy (row thing.1) n with hlt | heq | hgt
    · simp only [Nat.lt_succ_of_lt hlt, hlt, Nat.ne_of_lt hlt, if_true, if_false]
      omega
    · simp only [heq, Nat.lt_succ_self, Nat.lt_irrefl, if_true, if_false, List.length_cons]
      omega
    · simp only [Nat.not_lt_of_le hgt, Nat.lt_asymm hgt, Nat.ne_of_gt hgt, if_false]
      omega

/-- The further down a row is, the more things come before it. -/
theorem before_mono (row : α → Nat) (things : List (α × Nat)) (h : n ≤ m) :
    before row things n ≤ before row things m := by
  induction h with
  | refl => exact Nat.le_refl _
  | step _ ih =>
    rw [before_succ]
    omega

/-- No more things come before a row than there are. -/
theorem before_le_length (row : α → Nat) (things : List (α × Nat)) (n : Nat) :
    before row things n ≤ things.length :=
  List.countP_le_length

/-- A row ends where the next one starts. -/
theorem before_add_length_le (row : α → Nat) (things : List (α × Nat)) (h : n < m) :
    before row things n + (members row things n).length ≤ before row things m := by
  rw [← before_succ]
  exact before_mono row things h

@[simp] theorem before_zero (row : α → Nat) (things : List (α × Nat)) :
    before row things 0 = 0 := by
  simp [before]

/-- A thing at the front is the first of its row. -/
theorem members_cons (thing : α × Nat) :
    members row (thing :: things) n =
      if row thing.1 = n then ⟨thing.2⟩ :: members row things n else members row things n := by
  by_cases h : row thing.1 = n <;> simp [members, h]

/-- A thing at the end is the last of its row. -/
theorem members_concat (thing : α × Nat) :
    members row (things ++ [thing]) n =
      if row thing.1 = n then members row things n ++ [⟨thing.2⟩] else members row things n := by
  by_cases h : row thing.1 = n <;> simp [members, h]

/-- A count is the number of the things of the row before it. -/
theorem getElem?_tally (hn : n ≤ count) :
    (tally count row things)[n]? =
      some (if n = 0 then 0 else (members row things (n - 1)).length) := by
  have hfold : ∀ counts : Array Nat,
      (things.foldl (fun counts thing => counts.modify (row thing.1 + 1) (· + 1)) counts)[n]? =
        counts[n]?.map (· + if n = 0 then 0 else (members row things (n - 1)).length) := by
    induction things with
    | nil =>
      intro counts
      cases n <;> simp [members]
    | cons thing things ih =>
      intro counts
      rw [List.foldl_cons, ih, Array.getElem?_modify, members_cons]
      cases n with
      | zero => simp
      | succ n =>
        by_cases h : row thing.1 = n
        · cases counts[n + 1]? <;> simp [h]
          omega
        · simp [h]
  rw [tally, hfold]
  simp [show n < count + 1 by omega]

/-- After so many additions the numbers up to there are sums, and the others are counts yet. -/
theorem getElem?_addUp (row : α → Nat) (things : List (α × Nat)) (hm : m ≤ count)
    (hn : n ≤ count) :
    (addUp m (tally count row things))[n]? =
      if n ≤ m then some (before row things n) else (tally count row things)[n]? := by
  induction m generalizing n with
  | zero =>
    cases n with
    | zero => simp [addUp, getElem?_tally]
    | succ n => simp [addUp]
  | succ m ih =>
    have hstep : addUp (m + 1) (tally count row things) =
        (addUp m (tally count row things)).modify (m + 1)
          ((addUp m (tally count row things))[m]?.getD 0 + ·) := by
      simp [addUp, List.range_succ]
    have hm' : m ≤ count := by omega
    rw [hstep, Array.getElem?_modify, ih hm' hn, ih hm' hm']
    by_cases heq : m + 1 = n
    · subst heq
      simp [getElem?_tally hn, before_succ, show ¬ m + 1 ≤ m by omega]
    · by_cases hle : n ≤ m
      · simp [heq, hle, show n ≤ m + 1 by omega]
      · simp [heq, hle, show ¬ n ≤ m + 1 by omega]

@[simp] theorem size_addUp_tally : (addUp m (tally count row things)).size = count + 1 := by
  have htally : ∀ counts : Array Nat,
      (things.foldl (fun counts thing => counts.modify (row thing.1 + 1) (· + 1)) counts).size =
        counts.size := by
    induction things with
    | nil => exact fun _ => rfl
    | cons thing things ih =>
      intro counts
      rw [List.foldl_cons, ih, Array.size_modify]
  induction m with
  | zero => simp [addUp, tally, htally]
  | succ m ih => simpa [addUp, List.range_succ] using ih

/-- A row starts behind the links of the rows before it. -/
theorem starts_sort (row : α → Nat) (things : List (α × Nat)) (hn : n ≤ count) :
    (sort count row things).starts[n]? = some (before row things n) := by
  have h := getElem?_addUp row things (Nat.le_refl count) hn
  rwa [if_pos hn] at h

/-- Only the rows of the table have an answer. -/
theorem lt_of_row?_sort {ids : List LinkId} (h : (sort count row things).row? n = some ids) :
    n < count := by
  unfold row? at h
  rcases Option.bind_eq_some_iff.1 h with ⟨first, -, h⟩
  rcases Option.bind_eq_some_iff.1 h with ⟨last, hlast, -⟩
  have hlt := (Array.getElem?_eq_some_iff.1 hlast).1
  have hsize : (sort count row things).starts.size = count + 1 := size_addUp_tally
  omega

/-! ## The column -/

/-- The things that are done have taken the first places of their rows, and the cursors point at
the next ones. -/
structure Filling (count : Nat) (row : α → Nat) (things done : List (α × Nat))
    (filled : Array Nat × Array LinkId) : Prop where
  cursors : filled.1.size = count + 1
  places : filled.2.size = things.length
  cursor : ∀ n, n ≤ count →
    filled.1[n]? = some (before row things n + (members row done n).length)
  taken : ∀ n k l, n ≤ count → (members row done n)[k]? = some l →
    filled.2[before row things n + k]? = some l

/-- Before the first thing has taken its place, nothing is filled. -/
theorem filling_start (count : Nat) (row : α → Nat) (things : List (α × Nat)) :
    Filling count row things []
      (addUp count (tally count row things), Array.replicate things.length .unassigned) := by
  refine ⟨size_addUp_tally, by simp, fun n hn => ?_, fun n k l _ hl => by simp [members] at hl⟩
  exact (starts_sort row things hn).trans (by simp [members])

section Placing

variable {rest done : List (α × Nat)} {thing : α × Nat} {filled : Array Nat × Array LinkId}
  {l : LinkId} {k : Nat}

/-- A row has room for those of its things that are done and for the next one. -/
theorem length_members_le (row : α → Nat) (hthings : things = done ++ thing :: rest) (n : Nat) :
    (members row done n).length + (if row thing.1 = n then 1 else 0) ≤
      (members row things n).length := by
  subst hthings
  by_cases heq : row thing.1 = n <;> simp [members, heq]

/-- The place of the next thing is in the column. -/
theorem slot_lt (row : α → Nat) (hthings : things = done ++ thing :: rest) :
    before row things (row thing.1) + (members row done (row thing.1)).length <
      things.length := by
  have hlast := before_le_length row things (row thing.1 + 1)
  have hroom := length_members_le row hthings (row thing.1)
  rw [before_succ] at hlast
  rw [if_pos rfl] at hroom
  omega

/-- The place of the next thing is not taken. -/
theorem slot_ne (hthings : things = done ++ thing :: rest)
    (hk : k < (members row done n).length) :
    before row things (row thing.1) + (members row done (row thing.1)).length ≠
      before row things n + k := by
  have hroom := length_members_le row hthings n
  rcases Nat.lt_trichotomy (row thing.1) n with hlt | rfl | hlt
  · have hend := before_add_length_le row things hlt
    have hroom' := length_members_le row hthings (row thing.1)
    rw [if_pos rfl] at hroom'
    omega
  · omega
  · have hend := before_add_length_le row things hlt
    omega

namespace Filling

/-- A thing of a row that is not in the table takes no place. -/
theorem skip (h : Filling count row things done filled) (hout : count < row thing.1) :
    Filling count row things (done ++ [thing]) filled := by
  have hsame : ∀ n, n ≤ count → members row (done ++ [thing]) n = members row done n := by
    intro n hn
    rw [members_concat, if_neg (by omega)]
  refine ⟨h.cursors, h.places, fun n hn => ?_, fun n k l hn hl => ?_⟩
  · rw [hsame n hn]
    exact h.cursor n hn
  · rw [hsame n hn] at hl
    exact h.taken n k l hn hl

/-- The places that are taken stay so, and the next thing has its own. -/
theorem taken_put (h : Filling count row things done filled)
    (hthings : things = done ++ thing :: rest) (hn : n ≤ count)
    (hl : (members row (done ++ [thing]) n)[k]? = some l) :
    (filled.2.setIfInBounds
      (before row things (row thing.1) + (members row done (row thing.1)).length)
      ⟨thing.2⟩)[before row things n + k]? = some l := by
  have hother : ∀ k', (members row done n)[k']? = some l →
      (filled.2.setIfInBounds
        (before row things (row thing.1) + (members row done (row thing.1)).length)
        ⟨thing.2⟩)[before row things n + k']? = some l := by
    intro k' hl'
    rw [Array.getElem?_setIfInBounds_ne (slot_ne hthings (List.getElem?_eq_some_iff.1 hl').1)]
    exact h.taken n k' l hn hl'
  rw [members_concat] at hl
  split at hl
  · rename_i heq
    subst heq
    rcases Nat.lt_or_ge k (members row done (row thing.1)).length with hk | hk
    · rw [List.getElem?_append_left hk] at hl
      exact hother k hl
    · rw [List.getElem?_append_right hk, List.getElem?_singleton] at hl
      split at hl
      · cases hl
        have hslot : k = (members row done (row thing.1)).length := by omega
        rw [hslot, Array.getElem?_setIfInBounds_self_of_lt (h.places ▸ slot_lt row hthings)]
      · cases hl
  · exact hother k hl

/-- The next thing takes a place of its own. -/
theorem place (h : Filling count row things done filled)
    (hthings : things = done ++ thing :: rest) :
    Filling count row things (done ++ [thing]) (Compressed.place row filled thing) := by
  unfold Compressed.place
  split
  · rename_i hnone
    refine h.skip ?_
    rw [Array.getElem?_eq_none_iff, h.cursors] at hnone
    omega
  · rename_i slot hslot
    have hrow : row thing.1 ≤ count := by
      have hlt := (Array.getElem?_eq_some_iff.1 hslot).1
      rw [h.cursors] at hlt
      omega
    cases hslot.symm.trans (h.cursor _ hrow)
    refine ⟨by simp [h.cursors], by simp [h.places], fun n hn => ?_,
      fun n k l hn hl => h.taken_put hthings hn hl⟩
    rw [Array.getElem?_modify, h.cursor n hn, members_concat]
    by_cases heq : row thing.1 = n
    · simp [heq]
      omega
    · simp [heq]

end Filling

end Placing

/-- When all things have taken their places, every row is filled. -/
theorem filling_sort (count : Nat) (row : α → Nat) (things : List (α × Nat)) :
    Filling count row things things
      (things.foldl (place row)
        (addUp count (tally count row things), Array.replicate things.length .unassigned)) := by
  have hfold : ∀ (rest done : List (α × Nat)) (filled : Array Nat × Array LinkId),
      things = done ++ rest → Filling count row things done filled →
        Filling count row things things (rest.foldl (place row) filled) := by
    intro rest
    induction rest with
    | nil =>
      intro done filled hthings h
      rw [List.append_nil] at hthings
      rwa [hthings] at h ⊢
    | cons thing rest ih =>
      intro done filled hthings h
      exact ih (done ++ [thing]) _ (by simp [hthings]) (h.place hthings)
  exact hfold things [] _ rfl (filling_start count row things)

/-- A row has the links that belong to it, in their order. -/
theorem row?_sort (hn : n < count) :
    (sort count row things).row? n = some (members row things n) := by
  have hfilled := filling_sort count row things
  have hfirst := starts_sort row things (Nat.le_of_lt hn)
  have hlast := starts_sort row things hn
  have hend := before_le_length row things (n + 1)
  unfold row?
  rw [hfirst, hlast]
  refine congrArg some (List.ext_getElem? fun k => ?_)
  rw [Array.getElem?_toList, Array.getElem?_extract]
  rw [before_succ] at hend ⊢
  have hplaces : (sort count row things).column.size = things.length := hfilled.places
  by_cases hk : k < (members row things n).length
  · rw [if_pos (by omega), List.getElem?_eq_getElem hk]
    exact hfilled.taken n k _ (Nat.le_of_lt hn) (List.getElem?_eq_getElem hk)
  · rw [if_neg (by omega), List.getElem?_eq_none (Nat.le_of_not_lt hk)]

end Compressed

end TrafficQueue
