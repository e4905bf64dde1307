import TrafficQueue.Proofs.Config.Fields
import TrafficQueue.Proofs.Program

/-!
# Setting parameters

A parameter is looked up by its name, its value is read from a text, and only then is the field of
the configuration changed.  So setting a parameter changes one field or nothing at all, and setting
all of them from their texts in another configuration, in whatever order, copies that configuration
up to the number of threads.

Main results:

- Definition `Config.setInPlace`: setting a parameter as a program that changes the configuration.
- Theorem `Config.run_setInPlace`: it does what `Config.set` answers.
- Definition `Config.SetEffect`: the three things that setting a parameter can lead to.
- Theorem `Config.foldlM_set_get`: what is left after some parameters have been copied.
- Theorem `Config.parameters_are_set_one_by_one`: a configuration is copied by its parameters, and
  setting a parameter touches no field but its own.
-/

namespace TrafficQueue

/-- A program on a configuration. -/
abbrev ConfigProgram (α : Type) := Program Config ConfigError α

/-! ## Setting in place -/

namespace Parameter

/-- Reads a value of the parameter, with blanks around it allowed. -/
def parse (p : Parameter) (text : String) : Except ConfigError p.kind.Value :=
  match p.kind.read (Text.trim text.toList) with
  | none => .error (.unreadableValue p.name text)
  | some v => .ok v

/-- Reads a value and puts it into the field of the parameter. -/
def store (p : Parameter) (text : String) : ConfigProgram Unit := do
  let v ← ofExcept (p.parse text)
  modify fun c => p.update c v

end Parameter

namespace Config

open Program

variable {c d : Config} {p q : Parameter} {ps : List Parameter} {name text : String}

/-- Sets the parameter with the given name. -/
def setInPlace (name text : String) : ConfigProgram Unit := do
  let some p := Parameter.ofName name | throw (.unknownParameter name)
  p.store text

/-- What setting a parameter leaves is what `set` answers. -/
theorem run_setInPlace (name text : String) (c : Config) :
    (setInPlace name text).run c = outcome c ((c.set name text).map fun c' => ((), c')) := by
  unfold setInPlace set
  cases Parameter.ofName name with
  | none => rfl
  | some p =>
      simp only [Parameter.store, Parameter.parse, run_bind, run_ofExcept, p.assign_eq]
      cases p.kind.read (Text.trim text.toList) with
      | none => rfl
      | some v => rfl

/-- What setting a parameter by its name can lead to: the answer, and the configuration that is
left. -/
inductive SetEffect (c : Config) (name text : String) :
    Except ConfigError Unit → Config → Prop where
  | unknown (h : ∀ p : Parameter, p.name ≠ name) :
      SetEffect c name text (.error (.unknownParameter name)) c
  | unreadable {p : Parameter} (h : p.name = name) :
      SetEffect c name text (.error (.unreadableValue name text)) c
  | stored {p : Parameter} (h : p.name = name) (v : p.kind.Value) :
      SetEffect c name text (.ok ()) (p.update c v)

/-- Setting a parameter in place has one of the effects that are listed. -/
theorem setInPlace_effect (c : Config) (name text : String) :
    SetEffect c name text ((setInPlace name text).run c).1 ((setInPlace name text).run c).2 := by
  rw [run_setInPlace, set]
  cases h : Parameter.ofName name with
  | none =>
      refine .unknown fun p hp => ?_
      rw [Parameter.ofName_eq_some_iff.2 hp] at h
      cases h
  | some p =>
      have hp := Parameter.ofName_eq_some_iff.1 h
      simp only [p.assign_eq]
      cases p.kind.read (Text.trim text.toList) with
      | none =>
          subst hp
          exact .unreadable rfl
      | some v => exact .stored hp v

namespace SetEffect

variable {answer : Except ConfigError Unit}

/-- No parameter changes how many threads there are. -/
theorem threads_eq (h : SetEffect c name text answer d) : d.threads = c.threads := by
  cases h with
  | unknown _ => rfl
  | unreadable _ => rfl
  | stored _ v => exact Parameter.threads_update _ c v

/-- Only the field of the parameter that was named is changed. -/
theorem value_eq (h : SetEffect c name text answer d) (hp : p.name ≠ name) :
    p.value d = p.value c := by
  cases h with
  | unknown _ => rfl
  | unreadable _ => rfl
  | stored hname v =>
      apply Parameter.value_update_of_ne
      rintro rfl
      exact hp hname

/-- A name is answered with its own error exactly if no parameter has it. -/
theorem unknown_iff (h : SetEffect c name text answer d) (unknown : String) :
    answer = .error (.unknownParameter unknown) ↔
      unknown = name ∧ name ∉ Parameter.all.map Parameter.name := by
  have hmem : ∀ {p : Parameter}, p.name = name → name ∈ Parameter.all.map Parameter.name :=
    fun hp => List.mem_map.2 ⟨_, Parameter.mem_all _, hp⟩
  cases h with
  | unknown hnone =>
      have hnotMem : name ∉ Parameter.all.map Parameter.name := by
        intro hname
        rcases List.mem_map.1 hname with ⟨p, -, hp⟩
        exact hnone p hp
      rw [Except.error.injEq, ConfigError.unknownParameter.injEq, eq_comm]
      exact ⟨fun heq => ⟨heq, hnotMem⟩, fun heq => heq.1⟩
  | unreadable hp => exact ⟨nofun, fun heq => absurd (hmem hp) heq.2⟩
  | stored hp v => exact ⟨nofun, fun heq => absurd (hmem hp) heq.2⟩

/-- Where setting fails, nothing changes. -/
theorem eq_of_error {e : ConfigError} (h : SetEffect c name text (.error e) d) : d = c := by
  cases h <;> rfl

end SetEffect

/-! ## Copying -/

/-- Every field has a proper value if the three numbers have. -/
theorem proper_values (hflow : c.flowFactor.isNaN = false)
    (hstorage : c.storageFactor.isNaN = false) (hthreshold : c.replanningThreshold.isNaN = false)
    (p : Parameter) : p.kind.Proper (p.value c) := by
  cases p with
  | flowFactor => exact hflow
  | storageFactor => exact hstorage
  | replanningThreshold => exact hthreshold
  | _ => trivial

/-- A parameter is written with the value of its field. -/
theorem get_name (c : Config) (p : Parameter) : c.get p.name = .ok (p.render c) := by
  rw [get, Parameter.ofName_eq_some_iff.2 rfl]

/-- A parameter is copied by its text. -/
theorem set_render (h : p.kind.Proper (p.value c)) (d : Config) :
    d.set p.name (p.render c) = .ok (p.update d (p.value c)) := by
  rw [set, Parameter.ofName_eq_some_iff.2 rfl]
  simp only [Parameter.assign_render h]

/-- The configuration with the given parameters taken from another one. -/
def withParametersOf (d c : Config) (ps : List Parameter) : Config :=
  ps.foldl (fun d p => p.update d (p.value c)) d

/-- Parameters are copied one after the other by their texts. -/
theorem foldlM_set_get (h : ∀ p : Parameter, p.kind.Proper (p.value c)) (ps : List Parameter)
    (d : Config) :
    (ps.map Parameter.name).foldlM (fun d name => do d.set name (← c.get name)) d =
      Except.ok (d.withParametersOf c ps) := by
  induction ps generalizing d with
  | nil => rfl
  | cons p ps ih =>
      rw [List.map_cons, List.foldlM_cons, get_name]
      change (d.set p.name (p.render c)).bind _ = _
      rw [set_render (h p)]
      exact ih _

/-- Taking parameters over changes nothing about the threads. -/
theorem threads_withParametersOf (d c : Config) (ps : List Parameter) :
    (d.withParametersOf c ps).threads = d.threads := by
  induction ps generalizing d with
  | nil => rfl
  | cons p ps ih => exact (ih _).trans (p.threads_update d _)

/-- A parameter that has its value keeps it while others are copied. -/
theorem value_withParametersOf_of_eq (h : q.value d = q.value c) (ps : List Parameter) :
    q.value (d.withParametersOf c ps) = q.value c := by
  induction ps generalizing d with
  | nil => exact h
  | cons p ps ih =>
      apply ih
      by_cases hq : q = p
      · subst hq
        exact q.value_update_self d _
      · rw [Parameter.value_update_of_ne hq, h]

/-- A parameter that is taken over has the value that it had. -/
theorem value_withParametersOf (h : q ∈ ps) (d : Config) :
    q.value (d.withParametersOf c ps) = q.value c := by
  induction ps generalizing d with
  | nil => cases h
  | cons p ps ih =>
      rcases List.mem_cons.1 h with rfl | hmem
      · exact value_withParametersOf_of_eq (q.value_update_self d _) ps
      · exact ih hmem _

/-- With all parameters everything is copied but the number of threads. -/
theorem withParametersOf_all (h : ∀ p, p ∈ ps) :
    d.withParametersOf c ps = { c with threads := d.threads } := by
  apply Parameter.eq_of_values
  · intro p
    rw [value_withParametersOf (h p)]
    cases p <;> rfl
  · rw [threads_withParametersOf]

/-- Names of parameters in any order. -/
theorem exists_parameters {names : List String}
    (h : names.Perm (Parameter.all.map Parameter.name)) :
    ∃ ps : List Parameter, names = ps.map Parameter.name ∧ ∀ p, p ∈ ps := by
  have hrange : names ∈ Set.range (List.map Parameter.name) := by
    rw [Set.range_list_map]
    intro name hname
    rcases List.mem_map.1 (h.mem_iff.1 hname) with ⟨p, -, rfl⟩
    exact ⟨p, rfl⟩
  rcases hrange with ⟨ps, rfl⟩
  refine ⟨ps, rfl, fun p => ?_⟩
  have hname : p.name ∈ ps.map Parameter.name := h.mem_iff.2 (List.mem_map_of_mem p.mem_all)
  rcases List.mem_map.1 hname with ⟨q, hq, heq⟩
  rwa [← Parameter.name_injective heq]

/-- Setting all parameters from their texts in another configuration copies it up to the number of
threads, unless one of its numbers is not-a-number.  Setting one parameter changes its own field
only, fails for its name only if there is no parameter with that name, and changes nothing if it
fails. -/
theorem parameters_are_set_one_by_one :
    (∀ (c d : Config) (names : List String), c.flowFactor.isNaN = false →
      c.storageFactor.isNaN = false → c.replanningThreshold.isNaN = false →
      names.Perm (Parameter.all.map Parameter.name) →
      names.foldlM (fun d name => do d.set name (← c.get name)) d =
        Except.ok { c with threads := d.threads }) ∧
    ∀ (c : Config) (name text : String) (answer : Except ConfigError Unit) (c' : Config),
      (setInPlace name text).run c = (answer, c') →
        (answer, c') = outcome c ((c.set name text).map fun c' => ((), c')) ∧
        c'.threads = c.threads ∧
        (∀ p : Parameter, p.name ≠ name → p.value c' = p.value c) ∧
        (∀ unknown, answer = .error (.unknownParameter unknown) ↔
          unknown = name ∧ name ∉ Parameter.all.map Parameter.name) ∧
        ∀ e, answer = .error e → c' = c := by
  constructor
  · intro c d names hflow hstorage hthreshold hnames
    rcases exists_parameters hnames with ⟨ps, rfl, hall⟩
    rw [foldlM_set_get (proper_values hflow hstorage hthreshold), withParametersOf_all hall]
  · intro c name text answer c' hrun
    have heffect := setInPlace_effect c name text
    have hanswer := (run_setInPlace name text c).symm.trans hrun
    rw [hrun] at heffect
    refine ⟨hanswer.symm, heffect.threads_eq, fun p => heffect.value_eq, heffect.unknown_iff, ?_⟩
    rintro e rfl
    exact heffect.eq_of_error

/-- A configuration with an end in the morning copied onto one with two threads, backwards; and a
step size that is not read. -/
theorem parameters_are_set_one_by_one_backwards :
    let c : Config := { endTime := .ofClock 7 30 5, flowFactor := 0.25 }
    let d : Config := { threads := some 2 }
    (Parameter.all.reverse.map Parameter.name).foldlM
        (fun d name => do d.set name (← c.get name)) d =
          Except.ok { c with threads := some 2 } ∧
      (setInPlace "timeStepSize" "-3").run c =
        (.error (.unreadableValue "timeStepSize" "-3"), c) ∧
      outcome c ((c.set "timeStepSize" "-3").map fun c' => ((), c')) =
        (.error (.unreadableValue "timeStepSize" "-3"), c) := by
  intro c d
  have hrun : (setInPlace "timeStepSize" "-3").run c =
      (.error (.unreadableValue "timeStepSize" "-3"), c) := rfl
  have hquarter : (0.25 : Float).isNaN = false := by decide +kernel
  have hone : (1 : Float).isNaN = false := by decide +kernel
  have hhalf : (0.5 : Float).isNaN = false := by decide +kernel
  refine ⟨parameters_are_set_one_by_one.1 c d _ hquarter hone hhalf ?_, hrun,
    (parameters_are_set_one_by_one.2 c _ _ _ _ hrun).1.symm⟩
  exact (List.reverse_perm _).map _

end Config

end TrafficQueue
