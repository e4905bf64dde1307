import TrafficQueue.Config.Parameter
import TrafficQueue.Proofs.Decimal.Written
import TrafficQueue.Proofs.Time.Written

/-!
# The fields behind the parameters

Every parameter stands for one field of a configuration, with values of one of four types.  A field
is looked up by `Parameter.value` and replaced by `Parameter.update`; no two parameters stand for
the same field, and the number of threads is behind none of them.

Main results:

- Definitions `Parameter.value` and `Parameter.update`: the field of a parameter.
- Theorems `Parameter.assign_eq` and `Parameter.render_eq`: a parameter is set and shown by way of
  its field and the type of its values.
- Theorem `Parameter.eq_of_values`: a configuration is known by its parameters and its threads.
- Theorem `Parameter.Kind.read_text`: a value is read back from its text.
-/

namespace TrafficQueue.Parameter

/-! ## The types of values -/

/-- The types of the values that parameters have. -/
inductive Kind where
  | time | word32 | word64 | number

namespace Kind

/-- What values of a kind are. -/
def Value : Kind → Type
  | .time => Time
  | .word32 => UInt32
  | .word64 => UInt64
  | .number => Float

/-- Reads a value from a trimmed text. -/
def read : (k : Kind) → List Char → Option k.Value
  | .time => Time.readTrimmed
  | .word32 => readWord32
  | .word64 => readWord64
  | .number => Decimal.read

/-- The text of a value. -/
def text : (k : Kind) → k.Value → String
  | .time => Time.text
  | .word32 => fun n => toString n.toNat
  | .word64 => fun n => toString n.toNat
  | .number => Decimal.text

/-- Not-a-number is no proper value; all others are. -/
def Proper : (k : Kind) → k.Value → Prop
  | .time => fun _ => True
  | .word32 => fun _ => True
  | .word64 => fun _ => True
  | .number => fun x => x.isNaN = false

end Kind

/-- The type of the values of a parameter. -/
def kind : Parameter → Kind
  | .startTime | .endTime => .time
  | .stepSize => .word32
  | .seed | .replanningInterval | .outputInterval => .word64
  | .flowFactor | .storageFactor | .replanningThreshold => .number

/-! ## Fields -/

/-- The field of a parameter. -/
def value : (p : Parameter) → Config → p.kind.Value
  | .startTime => Config.startTime
  | .endTime => Config.endTime
  | .stepSize => Config.stepSecs
  | .seed => Config.seed
  | .flowFactor => Config.flowFactor
  | .storageFactor => Config.storageFactor
  | .replanningInterval => Config.replanningInterval
  | .replanningThreshold => Config.replanningThreshold
  | .outputInterval => Config.outputInterval

/-- The configuration with another value in the field of a parameter. -/
def update : (p : Parameter) → Config → p.kind.Value → Config
  | .startTime => fun c t => { c with startTime := t }
  | .endTime => fun c t => { c with endTime := t }
  | .stepSize => fun c n => { c with stepSecs := n }
  | .seed => fun c n => { c with seed := n }
  | .flowFactor => fun c x => { c with flowFactor := x }
  | .storageFactor => fun c x => { c with storageFactor := x }
  | .replanningInterval => fun c n => { c with replanningInterval := n }
  | .replanningThreshold => fun c x => { c with replanningThreshold := x }
  | .outputInterval => fun c n => { c with outputInterval := n }

variable {p q : Parameter} {c d : Config}

/-- To set a parameter is to read a value and to put it into its field. -/
theorem assign_eq (p : Parameter) (c : Config) (cs : List Char) :
    p.assign c cs = (p.kind.read cs).map (p.update c) := by
  cases p <;> rfl

/-- To write a parameter is to write the value of its field. -/
theorem render_eq (p : Parameter) (c : Config) : p.render c = p.kind.text (p.value c) := by
  cases p <;> rfl

@[simp] theorem value_update_self (p : Parameter) (c : Config) (v : p.kind.Value) :
    p.value (p.update c v) = v := by
  cases p <;> rfl

/-- Different parameters have different fields. -/
theorem value_update_of_ne (h : q ≠ p) (c : Config) (v : p.kind.Value) :
    q.value (p.update c v) = q.value c := by
  cases p <;> cases q <;> first | rfl | exact absurd rfl h

@[simp] theorem threads_update (p : Parameter) (c : Config) (v : p.kind.Value) :
    (p.update c v).threads = c.threads := by
  cases p <;> rfl

/-- There is nothing in a configuration but the fields of its parameters and the number of
threads. -/
theorem eq_of_values (hvalues : ∀ p : Parameter, p.value c = p.value d)
    (hthreads : c.threads = d.threads) : c = d := by
  cases c
  cases d
  have hstart := hvalues .startTime
  have hend := hvalues .endTime
  have hstep := hvalues .stepSize
  have hseed := hvalues .seed
  have hflow := hvalues .flowFactor
  have hstorage := hvalues .storageFactor
  have hinterval := hvalues .replanningInterval
  have hthreshold := hvalues .replanningThreshold
  have houtput := hvalues .outputInterval
  simp only [value] at *
  simp [*]

/-! ## Values and their texts -/

namespace Kind

open Text

/-- A time is read back from its text. -/
theorem readTrimmed_text (t : Time) : Time.readTrimmed (trim t.text.toList) = some t := by
  rw [Time.readTrimmed_eq, Time.written_iff.1 (Time.written_text t), Option.map_some,
    Time.ofSecs_secs]

/-- A number below the limit is read back from its digits. -/
theorem readBelow_toString {n limit : Nat} (h : n < limit) :
    readBelow limit (trim (toString n).toList) = some n := by
  rw [toList_toString, trim_eq_self fun c => (numeral_digits n).not_blank]
  exact readBelow_eq_some_iff.2 ⟨numeral_digits n, h⟩

/-- A written number of 32 bits is read as itself. -/
theorem readWord32_toString (n : UInt32) :
    readWord32 (trim (toString n.toNat).toList) = some n := by
  have hread : readBelow UInt32.size _ = some n.toNat := readBelow_toString n.toNat_lt
  rw [readWord32, hread, Option.map_some, UInt32.ofNat_toNat]

/-- A written number of 64 bits is read as itself. -/
theorem readWord64_toString (n : UInt64) :
    readWord64 (trim (toString n.toNat).toList) = some n := by
  have hread : readBelow UInt64.size _ = some n.toNat := readBelow_toString n.toNat_lt
  rw [readWord64, hread, Option.map_some, UInt64.ofNat_toNat]

/-- A number is read back from its text, unless it is not-a-number. -/
theorem readNumber_text {x : Float} (h : x.isNaN = false) :
    Decimal.read (trim (Decimal.text x).toList) = some x := by
  rw [trim_eq_self (Decimal.not_blank_of_mem_text x), Decimal.read_text h]

/-- A proper value is read back from its text. -/
theorem read_text (k : Kind) {v : k.Value} (h : k.Proper v) :
    k.read (trim (k.text v).toList) = some v := by
  cases k with
  | time => exact readTrimmed_text v
  | word32 => exact readWord32_toString v
  | word64 => exact readWord64_toString v
  | number => exact readNumber_text h

end Kind

/-- A parameter that is set from its own text gets its own value. -/
theorem assign_render (h : p.kind.Proper (p.value c)) (d : Config) :
    p.assign d (Text.trim (p.render c).toList) = some (p.update d (p.value c)) := by
  rw [assign_eq, render_eq, Kind.read_text _ h, Option.map_some]

end TrafficQueue.Parameter
