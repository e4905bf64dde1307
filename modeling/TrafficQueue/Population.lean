import TrafficQueue.Plan.Validation

/-!
# Populations

Persons with one selected plan each.  The position of a person is the number of its agent.

Main result: `Population.validate_eq_ok_iff`, a population is accepted exactly when every plan is.
-/

namespace TrafficQueue

/-- Who has a plan. -/
structure Person where
  name : String
  plan : Plan

/-- The persons of a simulation. -/
structure Population where
  persons : Array Person := #[]

namespace Population

/-- How many persons there are. -/
def size (p : Population) : Nat := p.persons.size

/-- The person with the number of an agent. -/
def person? (p : Population) (a : AgentId) : Option Person := p.persons[a.index]?

/-- Adds a person; the number of its agent is returned. -/
def add (p : Population) (person : Person) : AgentId × Population :=
  (⟨p.size⟩, ⟨p.persons.push person⟩)

/-- The persons with the numbers of their agents. -/
def numbered (p : Population) : List (AgentId × Person) :=
  p.persons.toList.zipIdx.map fun entry => (⟨entry.2⟩, entry.1)

/-- The first problem of a plan of the population. -/
def fault? (p : Population) (net : Network) : Option PlanError :=
  p.persons.toList.findSome? fun person => person.plan.fault? person.name net

/-- Accepts the population or gives its first problem. -/
def validate (p : Population) (net : Network) : Except PlanError Unit :=
  match p.fault? net with
  | some e => .error e
  | none => .ok ()

/-- A population passes if all its plans do. -/
theorem validate_eq_ok_iff {p : Population} {net : Network} :
    p.validate net = .ok () ↔
      ∀ person ∈ p.persons, person.plan.validate person.name net = .ok () := by
  have hone : ∀ person : Person,
      person.plan.validate person.name net = .ok () ↔
        person.plan.fault? person.name net = none := by
    intro person
    unfold Plan.validate
    cases person.plan.fault? person.name net <;> simp
  have hall : p.validate net = .ok () ↔ p.fault? net = none := by
    unfold validate
    cases p.fault? net <;> simp
  rw [hall]
  unfold fault?
  rw [List.findSome?_eq_none_iff]
  constructor
  · intro h person hmem
    exact (hone person).2 (h person (Array.mem_toList_iff.2 hmem))
  · intro h person hmem
    exact (hone person).1 (h person (Array.mem_toList_iff.1 hmem))

end Population

end TrafficQueue
