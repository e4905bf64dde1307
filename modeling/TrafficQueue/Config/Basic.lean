import TrafficQueue.Clock

/-!
# Configuration of a run

The time window, the step size, the scaling of capacities and the rules for replanning, with their
defaults and the constraints between them.

Main result: `Config.validate_eq_ok_iff`, a configuration is accepted exactly when it breaks no
constraint.
-/

namespace TrafficQueue

/-- The parameters of a run. -/
structure Config where
  /-- Time of the first step. -/
  startTime : Time := .zero
  /-- The run stops here: no step is simulated at this time. -/
  endTime : Time := .ofClock 30 0 0
  stepSecs : UInt32 := 1
  /-- Seed for generating scenarios; a run draws no random numbers. -/
  seed : UInt64 := 42
  threads : Option Nat := none
  flowFactor : Float := 1
  storageFactor : Float := 1
  /-- Least number of seconds between two route changes of an agent. -/
  replanningInterval : UInt64 := 0
  /-- Need at which an agent changes its route. -/
  replanningThreshold : Float := 0.5
  /-- Steps from one summary to the next. -/
  outputInterval : UInt64 := 60

/-- A constraint that a configuration can break. -/
inductive Config.Issue where
  | stepNotPositive
  | endBeforeStart
  | flowFactorNotPositive
  | storageFactorNotPositive
  | thresholdOutOfRange
  | outputIntervalZero
  | noThreads
deriving DecidableEq

/-- What is wrong, in words. -/
def Config.Issue.reason : Config.Issue → String
  | .stepNotPositive => "step_secs must be positive"
  | .endBeforeStart => "end_time is before start_time"
  | .flowFactorNotPositive => "flow_capacity_factor must be a positive number"
  | .storageFactorNotPositive => "storage_capacity_factor must be a positive number"
  | .thresholdOutOfRange => "replanning_threshold must lie in [0, 1]"
  | .outputIntervalZero => "output_interval_steps must be at least 1"
  | .noThreads => "num_threads must be at least 1"

/-- What can go wrong with a configuration and its parameters. -/
inductive ConfigError where
  | unknownParameter (name : String)
  | unreadableValue (parameter value : String)
  | invalid (issue : Config.Issue)
deriving DecidableEq

/-- What is told of a configuration that is refused. -/
def ConfigError.message : ConfigError → String
  | .unknownParameter name => "unknown configuration option `" ++ name ++ "`"
  | .unreadableValue parameter value =>
    "invalid value `" ++ value ++ "` for option `" ++ parameter ++ "`"
  | .invalid issue => "invalid configuration: " ++ issue.reason

/-- A positive real number. -/
def isPositiveNumber (x : Float) : Bool := x.isFinite && 0 < x

/-- A number from zero to one. -/
def isUnitFraction (x : Float) : Bool := 0 ≤ x && x ≤ 1

namespace Config

/-- A configuration without further notice is the usual one. -/
instance : Inhabited Config := ⟨{}⟩

/-- The clock at the start of the run. -/
def clock (c : Config) : Clock := .startingAt c.startTime c.stepSecs

/-- Whether the configuration breaks a constraint. -/
def breaks (c : Config) : Issue → Bool
  | .stepNotPositive => c.stepSecs = 0
  | .endBeforeStart => c.endTime < c.startTime
  | .flowFactorNotPositive => !isPositiveNumber c.flowFactor
  | .storageFactorNotPositive => !isPositiveNumber c.storageFactor
  | .thresholdOutOfRange => !isUnitFraction c.replanningThreshold
  | .outputIntervalZero => c.outputInterval = 0
  | .noThreads => c.threads = some 0

/-- The constraints in the order in which they are checked. -/
def Issue.all : List Issue :=
  [.stepNotPositive, .endBeforeStart, .flowFactorNotPositive, .storageFactorNotPositive,
   .thresholdOutOfRange, .outputIntervalZero, .noThreads]

/-- Accepts the configuration or names the first constraint that it breaks. -/
def validate (c : Config) : Except ConfigError Unit :=
  match Issue.all.find? c.breaks with
  | some issue => .error (.invalid issue)
  | none => .ok ()

/-- Equality as the numbers themselves compare: not-a-number differs from itself. -/
def same (a b : Config) : Bool :=
  a.startTime = b.startTime && a.endTime = b.endTime && a.stepSecs = b.stepSecs &&
    a.seed = b.seed && a.threads = b.threads && a.flowFactor == b.flowFactor &&
    a.storageFactor == b.storageFactor && a.replanningInterval = b.replanningInterval &&
    a.replanningThreshold == b.replanningThreshold && a.outputInterval = b.outputInterval

/-- The list has all issues. -/
theorem Issue.mem_all (issue : Issue) : issue ∈ Issue.all := by
  cases issue <;> decide

/-- A configuration is sound if it has none of the issues. -/
theorem validate_eq_ok_iff {c : Config} :
    c.validate = .ok () ↔ ∀ issue, c.breaks issue = false := by
  unfold validate
  constructor
  · intro h issue
    split at h
    · cases h
    · rename_i hfind
      simpa using List.find?_eq_none.1 hfind issue issue.mem_all
  · intro h
    have : Issue.all.find? c.breaks = none := by
      rw [List.find?_eq_none]
      intro issue _
      simp [h issue]
    rw [this]

end Config

end TrafficQueue
