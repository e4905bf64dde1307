import Mathlib.Data.List.Nodup
import TrafficQueue.Network.Builder

/-!
# Enrolment

When a network is built, its nodes and then its links are enrolled one after the other.  It
goes well if all of them pass their check and have different names; otherwise the first one
that does not fit with those before it gives the error.

Main results:

- Definitions `Enrollable` and `obstacle?`: things that can be enrolled together, and what
  keeps a thing from being enrolled after others.
- Theorems `NetworkBuilder.enroll_eq_ok_iff` and `NetworkBuilder.enroll_eq_error_iff`: when
  an enrolment goes well, and the error if it does not.
- Theorem `NetworkBuilder.buildWith_eq_ok_iff`: when a network is built, and which one,
  whatever loads its links.
- Theorem `NetworkBuilder.buildWith_eq_build`: among networks whose links have midpoints
  the loader makes no difference.
-/

namespace TrafficQueue

namespace NetworkBuilder

section Enrolment

variable {α : Type} {kind : Numbered} (check : α → Except NetworkError Unit) (name : α → String)

/-- Things that pass the check and have different names. -/
structure Enrollable (things : List α) : Prop where
  sound : ∀ thing ∈ things, check thing = .ok ()
  distinct : (things.map name).Nodup

/-- What keeps a thing from being enrolled after others. -/
def obstacle? (before : List α) (thing : α) : Option NetworkError :=
  match check thing with
  | .error e => some e
  | .ok () => if name thing ∈ before.map name then some (.duplicateName (name thing)) else none

variable {check name} {done things : List α} {thing : α}

theorem enrollable_nil : Enrollable check name [] :=
  ⟨List.forall_mem_nil _, List.nodup_nil⟩

theorem Enrollable.of_append (h : Enrollable check name (done ++ things)) :
    Enrollable check name done := by
  have hdistinct := h.distinct
  rw [List.map_append] at hdistinct
  exact ⟨(List.forall_mem_append.1 h.sound).1, hdistinct.of_append_left⟩

theorem obstacle?_eq_none_iff :
    obstacle? check name done thing = none ↔
      check thing = .ok () ∧ name thing ∉ done.map name := by
  rw [obstacle?]
  cases check thing with
  | error e => simp
  | ok _ => simp

/-- A thing is kept out by its check, or else by its name. -/
theorem obstacle?_eq_some_iff {e : NetworkError} :
    obstacle? check name done thing = some e ↔ check thing = .error e ∨
      check thing = .ok () ∧ name thing ∈ done.map name ∧ e = .duplicateName (name thing) := by
  rw [obstacle?]
  cases check thing with
  | error e' => simp
  | ok _ => simp [eq_comm]

/-- A thing more is enrolled if there is no obstacle for it. -/
theorem enrollable_concat_iff :
    Enrollable check name (done ++ [thing]) ↔
      Enrollable check name done ∧ obstacle? check name done thing = none := by
  have hdistinct : ((done ++ [thing]).map name).Nodup ↔
      name thing ∉ done.map name ∧ (done.map name).Nodup := by
    rw [List.map_append, List.map_singleton, List.nodup_append_comm, List.singleton_append,
      List.nodup_cons]
  rw [obstacle?_eq_none_iff]
  constructor
  · intro h
    have hsound := List.forall_mem_append.1 h.sound
    rcases hdistinct.1 h.distinct with ⟨hnew, hdone⟩
    exact ⟨⟨hsound.1, hdone⟩, hsound.2 thing (List.mem_singleton_self thing), hnew⟩
  · rintro ⟨hdone, hthing, hnew⟩
    refine ⟨List.forall_mem_append.2 ⟨hdone.sound, ?_⟩, hdistinct.2 ⟨hnew, hdone.distinct⟩⟩
    exact List.forall_mem_singleton.2 hthing

/-- A thing that is enrollable after others has no obstacle. -/
theorem Enrollable.obstacle?_eq_none (h : Enrollable check name (done ++ thing :: things)) :
    obstacle? check name done thing = none := by
  rw [List.append_cons] at h
  exact (enrollable_concat_iff.1 h.of_append).2

/-- The next thing is enrolled after those that are done, or it has an obstacle. -/
theorem enroll_cons (done things : List α) (thing : α) :
    enroll check name (.ofNames (done.map name) : NameIndex kind) done.length (thing :: things) =
      match obstacle? check name done thing with
      | some e => .error e
      | none => enroll check name (.ofNames ((done ++ [thing]).map name))
          (done ++ [thing]).length things := by
  have hindex : (NameIndex.ofNames ((done ++ [thing]).map name) : NameIndex kind) =
      (NameIndex.ofNames (done.map name)).insert (name thing) ⟨done.length⟩ := by
    rw [List.map_append, List.map_singleton, NameIndex.ofNames_concat, List.length_map]
  rw [enroll, obstacle?, hindex, List.length_append, List.length_singleton]
  cases check thing with
  | error e => rfl
  | ok _ =>
      have hmem : name thing ∈ (.ofNames (done.map name) : NameIndex kind) ↔
          name thing ∈ done.map name := NameIndex.mem_ofNames
      by_cases hname : name thing ∈ done.map name
      · simp only [hname, Std.HashMap.contains_iff_mem.2 (hmem.2 hname), if_true]
      · simp only [hname, Std.HashMap.contains_eq_false_iff_not_mem.2 (mt hmem.1 hname), if_false]
        rfl

/-- Things are enrolled after others if they are enrollable together with them.  The index and the
next number follow from what is done, so the induction carries that along. -/
theorem enroll_after_eq_ok_iff {index : NameIndex kind} (hdone : Enrollable check name done) :
    enroll check name (.ofNames (done.map name)) done.length things = .ok index ↔
      Enrollable check name (done ++ things) ∧
        index = .ofNames ((done ++ things).map name) := by
  induction things generalizing done with
  | nil =>
      rw [enroll, List.append_nil, Except.ok.injEq, eq_comm]
      exact (and_iff_right hdone).symm
  | cons thing things ih =>
      rw [enroll_cons]
      cases hobstacle : obstacle? check name done thing with
      | none =>
          have hnext := ih (enrollable_concat_iff.2 ⟨hdone, hobstacle⟩)
          rwa [← List.append_cons] at hnext
      | some e =>
          refine ⟨fun h => (by cases h), fun h => ?_⟩
          rw [h.1.obstacle?_eq_none] at hobstacle
          cases hobstacle

/-- The first thing that has an obstacle gives the error. -/
theorem enroll_after_eq_error_iff {e : NetworkError} (hdone : Enrollable check name done) :
    enroll check name (.ofNames (done.map name) : NameIndex kind) done.length things = .error e ↔
      ∃ before thing after, things = before ++ thing :: after ∧
        Enrollable check name (done ++ before) ∧
        obstacle? check name (done ++ before) thing = some e := by
  induction things generalizing done with
  | nil => simp [enroll]
  | cons thing things ih =>
      rw [enroll_cons]
      cases hobstacle : obstacle? check name done thing with
      | none =>
          have hnext := enrollable_concat_iff.2 ⟨hdone, hobstacle⟩
          refine (ih hnext).trans ⟨?_, ?_⟩
          · rintro ⟨before, first, after, rfl, hbefore, hfirst⟩
            rw [← List.append_cons] at hbefore hfirst
            exact ⟨thing :: before, first, after, rfl, hbefore, hfirst⟩
          · rintro ⟨before, first, after, hthings, hbefore, hfirst⟩
            cases before with
            | nil =>
                cases hthings
                rw [List.append_nil, hobstacle] at hfirst
                cases hfirst
            | cons _ before =>
                cases hthings
                rw [List.append_cons] at hbefore hfirst
                exact ⟨before, first, after, rfl, hbefore, hfirst⟩
      | some problem =>
          constructor
          · intro h
            cases h
            refine ⟨[], thing, things, rfl, ?_, ?_⟩
            · rwa [List.append_nil]
            · rwa [List.append_nil]
          · rintro ⟨before, first, after, hthings, hbefore, hfirst⟩
            cases before with
            | nil =>
                cases hthings
                rw [List.append_nil, hobstacle] at hfirst
                cases hfirst
                rfl
            | cons _ before =>
                cases hthings
                rw [hbefore.obstacle?_eq_none] at hobstacle
                cases hobstacle

/-- Things are enrolled just when all are sound and their names are distinct, and the index has
their names in order. -/
theorem enroll_eq_ok_iff {index : NameIndex kind} :
    enroll check name ∅ 0 things = .ok index ↔
      Enrollable check name things ∧ index = .ofNames (things.map name) :=
  enroll_after_eq_ok_iff enrollable_nil

/-- The first thing that meets an obstacle decides on the error. -/
theorem enroll_eq_error_iff {e : NetworkError} :
    enroll check name (∅ : NameIndex kind) 0 things = .error e ↔
      ∃ before thing after, things = before ++ thing :: after ∧
        Enrollable check name before ∧ obstacle? check name before thing = some e :=
  enroll_after_eq_error_iff enrollable_nil

/-- Things that are not enrollable have a first one with an obstacle, and it gives the error. -/
theorem exists_obstacle (kind : Numbered) (h : ¬ Enrollable check name things) :
    ∃ before thing after e, things = before ++ thing :: after ∧ Enrollable check name before ∧
      obstacle? check name before thing = some e ∧
      enroll check name (∅ : NameIndex kind) 0 things = .error e := by
  cases henroll : enroll check name (∅ : NameIndex kind) 0 things with
  | ok index => exact (h (enroll_eq_ok_iff.1 henroll).1).elim
  | error e =>
      rcases enroll_eq_error_iff.1 henroll with ⟨before, thing, after, hthings, hbefore, hthing⟩
      exact ⟨before, thing, after, e, hthings, hbefore, hthing, rfl⟩

end Enrolment

/-! ## Building -/

/-- The conditions under which nodes are enrolled. -/
abbrev NodesEnrollable (nodes : List Node) : Prop := Enrollable (fun _ => .ok ()) Node.name nodes

/-- The conditions under which links between so many nodes are enrolled. -/
abbrev LinksEnrollable (nodeCount : Nat) (specs : List LinkSpec) : Prop :=
  Enrollable (fun spec => spec.check nodeCount) LinkSpec.name specs

variable {load : Network.IndexLoader} {b : NetworkBuilder} {net : Network} {e : NetworkError}

/-- The nodes are enrolled, or the build fails with the problem of one of them. -/
theorem buildWith_of_nodes_error
    (h : enroll (fun _ => .ok ()) Node.name (∅ : NameIndex .node) 0 b.nodes.toList = .error e) :
    b.buildWith load = .error e := by
  rw [buildWith, h]
  rfl

/-- Then the links are enrolled, or the build fails with the problem of one of them. -/
theorem buildWith_of_links_error (hnodes : NodesEnrollable b.nodes.toList)
    (h : enroll (fun spec => spec.check b.nodeCount) LinkSpec.name (∅ : NameIndex .link) 0
      b.links.toList = .error e) :
    b.buildWith load = .error e := by
  have hindex : enroll (fun _ => .ok ()) Node.name (∅ : NameIndex .node) 0 b.nodes.toList =
      .ok _ := enroll_eq_ok_iff.2 ⟨hnodes, rfl⟩
  rw [buildWith, hindex, h]
  rfl

/-- Links keep their names when their parameters are settled. -/
theorem names_settle (specs : Array LinkSpec) :
    (specs.map LinkSpec.settle).toList.map Link.name = specs.toList.map LinkSpec.name := by
  rw [Array.toList_map, List.map_map]
  rfl

/-- Enrolled nodes and links make up the network, if its links are loaded. -/
theorem buildWith_of_enrollable (hnodes : NodesEnrollable b.nodes.toList)
    (hlinks : LinksEnrollable b.nodeCount b.links.toList) :
    b.buildWith load = do
      load (.ofParts b.nodes (b.links.map LinkSpec.settle))
      return .ofParts b.nodes (b.links.map LinkSpec.settle) := by
  have hnodeIndex : enroll (fun _ => .ok ()) Node.name (∅ : NameIndex .node) 0 b.nodes.toList =
      .ok _ := enroll_eq_ok_iff.2 ⟨hnodes, rfl⟩
  have hlinkIndex : enroll (fun spec => spec.check b.nodeCount) LinkSpec.name
      (∅ : NameIndex .link) 0 b.links.toList = .ok _ := enroll_eq_ok_iff.2 ⟨hlinks, rfl⟩
  rw [buildWith, hnodeIndex, hlinkIndex, ← names_settle]
  rfl

/-- When a network is built: the loader has a say in whether it is, and none in which one it is. -/
theorem buildWith_eq_ok_iff :
    b.buildWith load = .ok net ↔
      NodesEnrollable b.nodes.toList ∧ LinksEnrollable b.nodeCount b.links.toList ∧
        load (.ofParts b.nodes (b.links.map LinkSpec.settle)) = .ok () ∧
        net = .ofParts b.nodes (b.links.map LinkSpec.settle) := by
  by_cases hnodes : NodesEnrollable b.nodes.toList
  · by_cases hlinks : LinksEnrollable b.nodeCount b.links.toList
    · rw [buildWith_of_enrollable hnodes hlinks]
      cases load (.ofParts b.nodes (b.links.map LinkSpec.settle)) with
      | error e => simp [bind, Except.bind]
      | ok _ => simp [bind, Except.bind, pure, Except.pure, hnodes, hlinks, eq_comm]
    · rcases exists_obstacle .link hlinks with ⟨before, spec, after, e, -, -, -, henroll⟩
      rw [buildWith_of_links_error hnodes henroll]
      exact ⟨fun h => (by cases h), fun h => (hlinks h.2.1).elim⟩
  · rcases exists_obstacle .node hnodes with ⟨before, node, after, e, -, -, -, henroll⟩
    rw [buildWith_of_nodes_error henroll]
    exact ⟨fun h => (by cases h), fun h => (hnodes h.1).elim⟩

/-- When a network is built with the loader that is used. -/
theorem build_eq_ok_iff :
    b.build = .ok net ↔
      NodesEnrollable b.nodes.toList ∧ LinksEnrollable b.nodeCount b.links.toList ∧
        (Network.ofParts b.nodes (b.links.map LinkSpec.settle)).checkMidpoints = .ok () ∧
        net = .ofParts b.nodes (b.links.map LinkSpec.settle) :=
  buildWith_eq_ok_iff

/-- If all links have midpoints, every loader that takes such networks leads to the same outcome. -/
theorem buildWith_eq_build (hload : load.Loads)
    (hmidpoints : (Network.ofParts b.nodes (b.links.map LinkSpec.settle)).HasMidpoints) :
    b.buildWith load = b.build := by
  have hloaded := hload _ hmidpoints
  have hchecked := Network.loads_checkMidpoints _ hmidpoints
  unfold build
  by_cases hnodes : NodesEnrollable b.nodes.toList
  · by_cases hlinks : LinksEnrollable b.nodeCount b.links.toList
    · rw [buildWith_of_enrollable hnodes hlinks, buildWith_of_enrollable hnodes hlinks, hloaded,
        hchecked]
    · rcases exists_obstacle .link hlinks with ⟨before, spec, after, e, -, -, -, henroll⟩
      rw [buildWith_of_links_error hnodes henroll, buildWith_of_links_error hnodes henroll]
  · rcases exists_obstacle .node hnodes with ⟨before, node, after, e, -, -, -, henroll⟩
    rw [buildWith_of_nodes_error henroll, buildWith_of_nodes_error henroll]

end NetworkBuilder

end TrafficQueue
