import TrafficQueue.Config.Basic
import TrafficQueue.Decimal.Reader
import TrafficQueue.Decimal.Shortest

/-!
# Parameters by name

The fields of a configuration that can be set and shown as text, each with its name.

Main results: `Parameter.ofName_eq_some_iff`, a name belongs to one parameter at most, and
`Config.set_eq_ok_iff`, when setting a parameter succeeds.
-/

namespace TrafficQueue

/-- The fields that can be set by name. -/
inductive Parameter where
  | startTime | endTime | stepSize | seed | flowFactor | storageFactor
  | replanningInterval | replanningThreshold | outputInterval
deriving DecidableEq

namespace Parameter

/-- All parameters in the order in which they are listed. -/
def all : List Parameter :=
  [.startTime, .endTime, .stepSize, .seed, .flowFactor, .storageFactor, .replanningInterval,
   .replanningThreshold, .outputInterval]

/-- The name by which a parameter is set. -/
def name : Parameter → String
  | .startTime => "startTime"
  | .endTime => "endTime"
  | .stepSize => "timeStepSize"
  | .seed => "randomSeed"
  | .flowFactor => "flowCapacityFactor"
  | .storageFactor => "storageCapacityFactor"
  | .replanningInterval => "replanningInterval"
  | .replanningThreshold => "replanningThreshold"
  | .outputInterval => "outputInterval"

/-- What a parameter is for, in words. -/
def description : Parameter → String
  | .startTime => "time of the first simulation step"
  | .endTime => "the run stops after this time"
  | .stepSize => "seconds per simulation step"
  | .seed => "seed for scenario generation"
  | .flowFactor => "multiplier on link flow capacities"
  | .storageFactor => "multiplier on link storage capacities"
  | .replanningInterval => "minimum seconds between route changes of one agent"
  | .replanningThreshold => "replanning need at which an agent changes its route"
  | .outputInterval => "steps between observer summaries"

/-- A parameter shown for inspection. -/
def inspect (p : Parameter) : String :=
  "ConfigOption \x7b name: \"" ++ p.name ++ "\" \x7d"

/-- The parameter with the given name. -/
def ofName (s : String) : Option Parameter :=
  all.find? fun p => p.name = s

/-- The value of the parameter as text, in a form that `assign` reads. -/
def render (p : Parameter) (c : Config) : String :=
  match p with
  | .startTime => c.startTime.text
  | .endTime => c.endTime.text
  | .stepSize => toString c.stepSecs.toNat
  | .seed => toString c.seed.toNat
  | .flowFactor => Decimal.text c.flowFactor
  | .storageFactor => Decimal.text c.storageFactor
  | .replanningInterval => toString c.replanningInterval.toNat
  | .replanningThreshold => Decimal.text c.replanningThreshold
  | .outputInterval => toString c.outputInterval.toNat

/-- Reads a number of 32 bits. -/
def readWord32 (cs : List Char) : Option UInt32 :=
  (Text.readBelow UInt32.size cs).map UInt32.ofNat

/-- Reads a number of 64 bits. -/
def readWord64 (cs : List Char) : Option UInt64 :=
  (Text.readBelow UInt64.size cs).map UInt64.ofNat

/-- The configuration with this one field read from a trimmed text. -/
def assign (p : Parameter) (c : Config) (cs : List Char) : Option Config :=
  match p with
  | .startTime => (Time.readTrimmed cs).map fun t => { c with startTime := t }
  | .endTime => (Time.readTrimmed cs).map fun t => { c with endTime := t }
  | .stepSize => (readWord32 cs).map fun n => { c with stepSecs := n }
  | .seed => (readWord64 cs).map fun n => { c with seed := n }
  | .flowFactor => (Decimal.read cs).map fun x => { c with flowFactor := x }
  | .storageFactor => (Decimal.read cs).map fun x => { c with storageFactor := x }
  | .replanningInterval => (readWord64 cs).map fun n => { c with replanningInterval := n }
  | .replanningThreshold => (Decimal.read cs).map fun x => { c with replanningThreshold := x }
  | .outputInterval => (readWord64 cs).map fun n => { c with outputInterval := n }

/-- The list has all parameters. -/
theorem mem_all (p : Parameter) : p ∈ all := by
  cases p <;> decide

/-- Parameters are told apart by their names. -/
theorem name_injective {p q : Parameter} (h : p.name = q.name) : p = q := by
  revert h
  cases p <;> cases q <;> decide

/-- A parameter is found by its name and by nothing else. -/
theorem ofName_eq_some_iff {s : String} {p : Parameter} : ofName s = some p ↔ p.name = s := by
  unfold ofName
  constructor
  · intro h
    simpa using List.find?_some h
  · intro h
    cases hfind : all.find? fun p => p.name = s with
    | none =>
      have := List.find?_eq_none.1 hfind p (mem_all p)
      simp [h] at this
    | some q =>
      have hq : q.name = s := by simpa using List.find?_some hfind
      rw [name_injective (h.trans hq.symm)]

end Parameter

namespace Config

/-- Sets a parameter from its text, with blanks around it allowed. -/
def set (c : Config) (name value : String) : Except ConfigError Config :=
  match Parameter.ofName name with
  | none => .error (.unknownParameter name)
  | some p =>
    match p.assign c (Text.trim value.toList) with
    | none => .error (.unreadableValue p.name value)
    | some c' => .ok c'

/-- The text of a parameter. -/
def get (c : Config) (name : String) : Except ConfigError String :=
  match Parameter.ofName name with
  | none => .error (.unknownParameter name)
  | some p => .ok (p.render c)

/-- Sets every parameter of `target` from the text of the same parameter of `source`. -/
def copyParameters (source target : Config) : Except ConfigError Config :=
  Parameter.all.foldlM (fun c p => c.set p.name (p.render source)) target

/-- To set a parameter there has to be one of that name that can read the value. -/
theorem set_eq_ok_iff {c c' : Config} {name value : String} :
    c.set name value = .ok c' ↔
      ∃ p : Parameter, p.name = name ∧ p.assign c (Text.trim value.toList) = some c' := by
  unfold set
  constructor
  · intro h
    split at h
    · cases h
    · rename_i p hp
      split at h
      · cases h
      · rename_i c'' hc
        cases h
        exact ⟨p, Parameter.ofName_eq_some_iff.1 hp, hc⟩
  · rintro ⟨p, hp, hc⟩
    rw [Parameter.ofName_eq_some_iff.2 hp]
    simp [hc]

end Config

end TrafficQueue
