import TrafficQueue.Agent.Execution
import TrafficQueue.Proofs.Queue.Agreement

/-!
# What an agent touches

An operation of an agent tells of this agent only, and of all the queues it reads and
changes only that of the link on which the agent departs or which it enters.

Main results:

- Definition `Effect.IsOf`: an effect on an agent that tells of it only.
- Theorems `Agent.endActivity_isOf`, `Agent.crossNode_isOf` and `Agent.arrive_isOf`: the
  operations of an agent are its own.
- Theorems `Agent.endActivity_agreeOn` and `Agent.crossNode_agreeOn`: operations on
  networks that agree on the link.
- Theorems `Agent.agree_endActivity` and `Agent.agree_crossNode`: operations on another
  link.
-/

namespace TrafficQueue

/-! ## Whom an effect is about -/

/-- The effect is on the agent with the number, and tells of it only. -/
structure Effect.IsOf {α : Type} (id : AgentId) (e : Effect α) : Prop where
  agent : e.agent.id = id
  events : ∀ event ∈ e.events, event.agent = id

namespace Effect.IsOf

variable {α β : Type} {id : AgentId} {e : Effect α}

/-- Events of the same agent may come before what an operation tells. -/
theorem after {earlier : List Event} (h : e.IsOf id)
    (hearlier : ∀ event ∈ earlier, event.agent = id) : (e.after earlier).IsOf id :=
  ⟨h.agent, List.forall_mem_append.2 ⟨hearlier, h.events⟩⟩

/-- An event of the same agent may come before what an operation tells. -/
theorem after_event {event : Event} (hevent : event.agent = id) (h : e.IsOf id) :
    (e.after [event]).IsOf id :=
  h.after (List.forall_mem_singleton.2 hevent)

/-- What is answered makes no difference to whom an operation concerns. -/
theorem map (h : e.IsOf id) (f : α → β) : (e.map f).IsOf id := ⟨h.agent, h.events⟩

end Effect.IsOf

namespace Agent

variable (a : Agent) (now : Time)

/-- A refusal concerns the agent that is refused. -/
theorem refused_isOf {β : Type} (operation : AgentOperation) :
    (a.refused operation : Effect (Except AgentError β)).IsOf a.id :=
  ⟨rfl, List.forall_mem_nil _⟩

/-- To be removed concerns no other agent. -/
theorem remove_isOf (reason : StuckReason) : (a.remove reason now).IsOf a.id :=
  ⟨rfl, List.forall_mem_singleton.2 rfl⟩

/-- To start an activity concerns no other agent. -/
theorem startActivity_isOf (act : Activity) : (a.startActivity act now).IsOf a.id := by
  unfold startActivity
  split
  · exact ⟨rfl, List.forall_mem_singleton.2 rfl⟩
  · exact ⟨rfl, List.forall_mem_singleton.2 rfl⟩

/-- To be through with a leg concerns no other agent. -/
theorem finishLeg_isOf : (a.finishLeg now).IsOf a.id := by
  unfold finishLeg
  rcases a.leg? with _ | ⟨mode, _ | route⟩
  · exact a.remove_isOf now _
  · exact a.remove_isOf now _
  · by_cases hdest : route.destination = a.link
    · simp only [hdest, if_true]
      cases a.plan.activity? (a.element + 1) with
      | none =>
          apply Effect.IsOf.after_event (by rfl)
          exact remove_isOf { a with element := a.element + 1, memo := {} } now _
      | some act =>
          apply Effect.IsOf.after_event (by rfl)
          exact startActivity_isOf { a with element := a.element + 1, memo := {} } now act
    · simp only [hdest, if_false]
      exact a.remove_isOf now _

/-- To arrive concerns no other agent. -/
theorem arrive_isOf : (a.arrive now).IsOf a.id := by
  unfold arrive
  split
  · exact (finishLeg_isOf { a with state := .arriving } now).map _
  · exact a.refused_isOf _

/-- Who looks for the next link stays the same agent. -/
theorem id_chooseNext {a kept : Agent} {net : Network} {next : NextLink}
    (h : a.chooseNext net = some (next, kept)) : kept.id = a.id := by
  unfold chooseNext at h
  cases hmemo : a.memo.next with
  | some l =>
      rw [hmemo] at h
      cases h
      rfl
  | none =>
      cases hroute : a.route? with
      | none =>
          simp only [hmemo, hroute] at h
          cases h
          rfl
      | some route =>
          simp only [hmemo, hroute, Option.map_eq_some_iff] at h
          rcases h with ⟨choice, -, hkept⟩
          rw [← (Prod.mk.inj hkept).2]
          cases choice <;> rfl

section Queues

open QueueNetwork

variable {α : Type} {roads : LinkId → Prop} {n n' : QueueNetwork α} {next : LinkId}

/-- To start a leg concerns no other agent. -/
theorem startLeg_isOf (queues : QueueNetwork α) : (a.startLeg now queues).1.IsOf a.id := by
  unfold startLeg
  rcases a.leg? with _ | ⟨mode, _ | route⟩
  · exact (a.remove_isOf now _).map _
  · exact (a.remove_isOf now _).map _
  · cases hsame : route.isSameLink with
    | true =>
        simp only [hsame, if_true]
        apply Effect.IsOf.after_event (by rfl)
        exact (finishLeg_isOf
          { a with state := .arriving, routeIndex := 0, memo := ⟨none, some route.via⟩ } now).map _
    | false =>
        simp only [hsame, Bool.false_eq_true, if_false]
        split <;> exact ⟨rfl, List.forall_mem_singleton.2 rfl⟩

/-- To end an activity concerns no other agent. -/
theorem endActivity_isOf (queues : QueueNetwork α) :
    (a.endActivity now queues).1.IsOf a.id := by
  unfold endActivity
  split
  · apply Effect.IsOf.after
    · exact startLeg_isOf { a with element := a.element + 1, state := .departing } now queues
    · intro event hevent
      rcases List.mem_map.1 hevent with ⟨act, -, rfl⟩
      rfl
  · exact a.refused_isOf _

/-- To cross a node concerns no other agent. -/
theorem crossNode_isOf (next : LinkId) (queues : QueueNetwork α) :
    (a.crossNode next now queues).1.IsOf a.id := by
  unfold crossNode
  split
  · simp only []
    split
    · exact ⟨rfl, List.forall_mem_singleton.2 rfl⟩
    · exact ⟨rfl, List.forall_mem_cons.2 ⟨rfl, List.forall_mem_singleton.2 rfl⟩⟩
  · exact a.refused_isOf _

/-! ## Which queues an operation touches -/

/-- Where the queues agree on the link of an agent, it starts its leg alike. -/
theorem startLeg_agreeOn (h : Agree roads n n') (hlink : roads a.link) :
    AgreeOn roads (a.startLeg now n) (a.startLeg now n') := by
  unfold startLeg
  rcases a.leg? with _ | ⟨mode, _ | route⟩
  · exact ⟨rfl, h⟩
  · exact ⟨rfl, h⟩
  · cases hsame : route.isSameLink with
    | true =>
        simp only [hsame, if_true]
        exact ⟨rfl, h⟩
    | false =>
        have hdepart := h.depart hlink a.vehicle now
        simp only [hsame, Bool.false_eq_true, if_false, vehicle] at hdepart ⊢
        generalize n.depart ⟨a.id.vehicle, a.id⟩ a.link now = x at hdepart ⊢
        generalize n'.depart ⟨a.id.vehicle, a.id⟩ a.link now = y at hdepart ⊢
        cases hdepart with
        | error e => exact ⟨rfl, h⟩
        | ok hdone => exact ⟨rfl, hdone.2⟩

/-- Where the queues agree on the link of an agent, it ends its activity alike. -/
theorem endActivity_agreeOn (h : Agree roads n n') (hlink : roads a.link) :
    AgreeOn roads (a.endActivity now n) (a.endActivity now n') := by
  have hstart : AgreeOn roads
      (startLeg { a with element := a.element + 1, state := .departing } now n)
      (startLeg { a with element := a.element + 1, state := .departing } now n') :=
    startLeg_agreeOn { a with element := a.element + 1, state := .departing } now h hlink
  unfold endActivity
  split
  · exact ⟨congrArg (Effect.after _) hstart.1, hstart.2⟩
  · exact ⟨rfl, h⟩

/-- Where the queues agree on the next link, an agent crosses the node alike. -/
theorem crossNode_agreeOn (h : Agree roads n n') (hnext : roads next) :
    AgreeOn roads (a.crossNode next now n) (a.crossNode next now n') := by
  have henter := h.enqueue hnext a.vehicle now
  unfold crossNode
  split
  · simp only []
    generalize n.enqueue a.vehicle next now = x at henter ⊢
    generalize n'.enqueue a.vehicle next now = y at henter ⊢
    cases henter with
    | error e => exact ⟨rfl, h⟩
    | ok hdone => exact ⟨rfl, hdone.2⟩
  · exact ⟨rfl, h⟩

/-- A leg that starts on some other link leaves these links as they are. -/
theorem agree_startLeg (hlink : ¬ roads a.link) : Agree roads n (a.startLeg now n).2 := by
  unfold startLeg
  rcases a.leg? with _ | ⟨mode, _ | route⟩
  · exact Agree.refl n
  · exact Agree.refl n
  · cases hsame : route.isSameLink with
    | true =>
        simp only [hsame, if_true]
        exact Agree.refl n
    | false =>
        simp only [hsame, Bool.false_eq_true, if_false]
        split
        · exact Agree.refl n
        · rename_i hdepart
          exact agree_of_depart hlink hdepart

/-- An activity that ends on some other link leaves these links as they are. -/
theorem agree_endActivity (hlink : ¬ roads a.link) : Agree roads n (a.endActivity now n).2 := by
  unfold endActivity
  split
  · exact agree_startLeg { a with element := a.element + 1, state := .departing } now hlink
  · exact Agree.refl n

/-- Who comes onto some other link leaves these links as they are. -/
theorem agree_crossNode (hnext : ¬ roads next) : Agree roads n (a.crossNode next now n).2 := by
  unfold crossNode
  split
  · simp only []
    split
    · exact Agree.refl n
    · rename_i henter
      exact agree_of_enqueue hnext henter
  · exact Agree.refl n

end Queues

end Agent

end TrafficQueue
