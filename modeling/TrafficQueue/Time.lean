import TrafficQueue.Text.Blank
import TrafficQueue.Text.Numeral

/-!
# Time of the simulated day

Whole seconds from midnight.  Times past 24:00:00 are legal; the largest time stands for *never*,
and every addition saturates there.

Main definitions: `Time.offset` and `Time.since` (saturating), `Time.text` and `Time.read` (the
written form `hh:mm:ss`).
-/

namespace TrafficQueue

/-- A point in time in whole seconds, below two to the 64. -/
structure Time where
  secs : Nat
  secs_lt : secs < 0x10000000000000000
deriving DecidableEq

namespace Time

/-- Times are known by their seconds. -/
@[ext] theorem ext {a b : Time} (h : a.secs = b.secs) : a = b := by
  cases a; cases b; cases h; rfl

/-- The time so many seconds after midnight, or `never` past the end of the range. -/
def ofSecs (secs : Nat) : Time :=
  ⟨min secs 0xffffffffffffffff, by omega⟩

/-- Midnight. -/
def zero : Time := ⟨0, by decide⟩

/-- Later than everything that is scheduled. -/
def never : Time := ⟨0xffffffffffffffff, by decide⟩

/-- Without further notice it is midnight. -/
instance : Inhabited Time := ⟨zero⟩

/-- Whether the time stands for never. -/
def isNever (t : Time) : Bool := t = never

/-- Times are ordered by their seconds. -/
instance : LE Time := ⟨fun a b => a.secs ≤ b.secs⟩
/-- Times are strictly ordered by their seconds. -/
instance : LT Time := ⟨fun a b => a.secs < b.secs⟩

/-- The order of times is that of their seconds. -/
theorem le_def {a b : Time} : a ≤ b ↔ a.secs ≤ b.secs := Iff.rfl
/-- The strict order of times is that of their seconds. -/
theorem lt_def {a b : Time} : a < b ↔ a.secs < b.secs := Iff.rfl

/-- The order of times is computed. -/
instance (a b : Time) : Decidable (a ≤ b) := inferInstanceAs (Decidable (a.secs ≤ b.secs))
/-- The strict order of times is computed. -/
instance (a b : Time) : Decidable (a < b) := inferInstanceAs (Decidable (a.secs < b.secs))

/-- The earlier one of two times. -/
instance : Min Time := ⟨fun a b => if a ≤ b then a else b⟩
/-- The later one of two times. -/
instance : Max Time := ⟨fun a b => if a ≤ b then b else a⟩

/-- The time `secs` seconds later, at most `never`. -/
def offset (t : Time) (secs : Nat) : Time := ofSecs (t.secs + secs)

/-- Seconds from `earlier` to `t`, zero if `earlier` is later. -/
def since (t earlier : Time) : Nat := t.secs - earlier.secs

/-- The time at the given hours, minutes and seconds.  Fields whose seconds do not fit 64 bits are
outside of what is described here: a debug build stops at them and a release build wraps, while here
they give the last moment. -/
def ofClock (hours minutes seconds : Nat) : Time :=
  ofSecs (hours * 3600 + minutes * 60 + seconds)

@[simp] theorem secs_ofSecs (n : Nat) : (ofSecs n).secs = min n 0xffffffffffffffff := rfl

@[simp] theorem ofSecs_secs (t : Time) : ofSecs t.secs = t := by
  have := t.secs_lt
  ext
  simp only [secs_ofSecs]
  omega

@[simp] theorem secs_zero : zero.secs = 0 := rfl
@[simp] theorem secs_never : never.secs = 0xffffffffffffffff := rfl

@[simp] theorem secs_offset (t : Time) (n : Nat) :
    (t.offset n).secs = min (t.secs + n) 0xffffffffffffffff := rfl

/-- No time is later than never. -/
theorem le_never (t : Time) : t ≤ never := by
  have := t.secs_lt
  simp only [le_def, secs_never]
  omega

/-- Nothing is over before it begins. -/
theorem le_offset (t : Time) (n : Nat) : t ≤ t.offset n := by
  have := t.secs_lt
  simp only [le_def, secs_offset]
  omega

/-- One delay after another. -/
theorem offset_offset (t : Time) (m n : Nat) : (t.offset m).offset n = t.offset (m + n) := by
  ext
  simp only [secs_offset]
  omega

/-- The order of times is transitive. -/
theorem le_trans {a b c : Time} (hab : a ≤ b) (hbc : b ≤ c) : a ≤ c := Nat.le_trans hab hbc

/-- Waiting for the same while keeps the order of times. -/
theorem offset_mono {a b : Time} (h : a ≤ b) (n : Nat) : a.offset n ≤ b.offset n := by
  simp only [le_def, secs_offset] at h ⊢
  omega

/-- Any other time is before never. -/
theorem lt_never {t : Time} (h : t ≠ never) : t < never := by
  have hne : t.secs ≠ never.secs := fun heq => h (Time.ext heq)
  have hle := le_never t
  simp only [lt_def, le_def] at hle ⊢
  omega

/-- Before the end of time a delay is noticed. -/
theorem lt_offset {t : Time} (h : t < never) {n : Nat} (hn : 1 ≤ n) : t < t.offset n := by
  simp only [lt_def, secs_offset, secs_never] at h ⊢
  omega

/-- Only never is never. -/
theorem isNever_iff {t : Time} : t.isNever = true ↔ t = never := by
  simp [isNever]

@[simp] theorem never_offset (n : Nat) : never.offset n = never := by
  ext
  simp only [secs_offset, secs_never]
  omega

/-! ## Written form -/

/-- Hours, minutes and seconds with at least two digits each, or the word for `never`. -/
def text (t : Time) : String :=
  if t = never then "never"
  else
    Text.padded 2 (t.secs / 3600) ++ ":" ++ Text.padded 2 (t.secs % 3600 / 60) ++ ":" ++
      Text.padded 2 (t.secs % 60)

/-- Times are written by hours, minutes and seconds. -/
instance : ToString Time := ⟨text⟩

/-- The time named by its numeric fields: seconds, hours and minutes, or all three. -/
def ofFields : List Nat → Option Time
  | [s] => some (ofSecs s)
  | [h, m] => if m < 60 then some (ofClock h m 0) else none
  | [h, m, s] => if m < 60 ∧ s < 60 then some (ofClock h m s) else none
  | _ => none

/-- Reads a trimmed text: the word for `never` in any case, or up to three fields between colons. -/
def readTrimmed (cs : List Char) : Option Time :=
  if cs.map Char.toLower = "never".toList then some never
  else do
    let fields ← (cs.splitOn ':').mapM (Text.readBelow UInt64.size)
    ofFields fields

/-- Why a text is not a time. -/
structure ReadError where
  /-- What is left of the text without blanks at its ends. -/
  trimmed : String
deriving DecidableEq

/-- What is told of a text that is not a time. -/
def ReadError.message (e : ReadError) : String :=
  "cannot parse time `" ++ e.trimmed ++ "`"

/-- Reads a time, with blanks around it allowed. -/
def read (s : String) : Except ReadError Time :=
  let trimmed := Text.trim s.toList
  match readTrimmed trimmed with
  | some t => .ok t
  | none => .error ⟨String.ofList trimmed⟩

end Time

end TrafficQueue
