import TrafficQueue.Proofs.Queue.Presence
import TrafficQueue.Proofs.Queue.Schedule
import TrafficQueue.Proofs.Queue.Storage
import TrafficQueue.Proofs.Simulation.Moment

/-!
# Sound moments

In a sound moment the agents have their numbers and are coherent, the storage of
every link is right, and two counts agree with the agents: a vehicle is present on
a link exactly once if its driver is on its way there and not at all otherwise,
and an agent is scheduled exactly once if it is at an activity that it will leave
and not at all otherwise.  Every move keeps a moment sound.

Main results:

- Definition `Moment.Sound`: the invariant.
- Theorem `Claimed.set`: a count that agrees with the agents still does after one of
  them changes, if it changes as that agent's claim does.
- Theorem `Moment.Sound.move`: every move keeps the invariant.
-/

namespace TrafficQueue

/-! ## Counts that agree with the agents -/

section Claimed

variable {κ : Type} {agents : Array Agent} {owner : κ → AgentId} {claims : Agent → κ → Bool}
  {count count' : κ → Nat} {a b : Agent}

/-- A key counts once if the agent to which it belongs claims it, and not at all otherwise. -/
def Claimed (agents : Array Agent) (owner : κ → AgentId) (claims : Agent → κ → Bool)
    (count : κ → Nat) : Prop :=
  ∀ k, count k = if (agents[(owner k).index]?).any (claims · k) then 1 else 0

/-- What counts is claimed. -/
theorem Claimed.exists_of_pos (h : Claimed agents owner claims count) {k : κ}
    (hpos : 0 < count k) : ∃ a, agents[(owner k).index]? = some a ∧ claims a k = true := by
  rw [h k] at hpos
  cases hagent : agents[(owner k).index]? with
  | none => simp [hagent] at hpos
  | some a =>
      refine ⟨a, rfl, ?_⟩
      by_contra hclaim
      simp [hagent, hclaim] at hpos

/-- The count changes as the claim of the one agent that changes. -/
theorem Claimed.set (h : Claimed agents owner claims count)
    (howner : ∀ a k, claims a k = true → owner k = a.id)
    (ha : agents[a.id.index]? = some a) (hid : b.id = a.id)
    (hcount : ∀ k,
      count' k + (if claims a k = true then 1 else 0) =
        count k + if claims b k = true then 1 else 0) :
    Claimed (agents.setIfInBounds b.id.index b) owner claims count' := by
  intro k
  have hold := h k
  have hnew := hcount k
  rw [hid]
  by_cases hk : owner k = a.id
  · have hlt := (Array.getElem?_eq_some_iff.1 ha).1
    rw [hk, ha, Option.any_some] at hold
    rw [hk, Array.getElem?_setIfInBounds_self_of_lt hlt, Option.any_some]
    omega
  · have hindex : a.id.index ≠ (owner k).index := fun heq => hk (Ident.ext heq.symm)
    have hbefore : ¬ claims a k = true := fun hclaim => hk (howner a k hclaim)
    have hafter : ¬ claims b k = true := fun hclaim => hk ((howner b k hclaim).trans hid)
    rw [Array.getElem?_setIfInBounds_ne hindex]
    simp only [hbefore, hafter, Bool.false_eq_true, if_false] at hnew
    omega

/-- A new agent brings its claims with it. -/
theorem Claimed.push (h : Claimed agents owner claims count)
    (howner : ∀ a k, claims a k = true → owner k = a.id) (hid : b.id = ⟨agents.size⟩)
    (hcount : ∀ k, count' k = count k + if claims b k = true then 1 else 0) :
    Claimed (agents.push b) owner claims count' := by
  intro k
  have hold := h k
  have hnew := hcount k
  by_cases hk : owner k = b.id
  · rw [hk, hid, Array.getElem?_size] at hold
    rw [hk, hid, Array.getElem?_push_size, Option.any_some]
    simp only [Option.any_none, Bool.false_eq_true, if_false] at hold
    omega
  · have hne : (owner k).index ≠ agents.size := fun heq => hk (Ident.ext (by rw [heq, hid]))
    have hclaim : ¬ claims b k = true := fun hclaim => hk (howner b k hclaim)
    simp only [hclaim, Bool.false_eq_true, if_false] at hnew
    rw [Array.getElem?_push, if_neg hne]
    omega

end Claimed

/-! ## Claims -/

namespace Agent

variable {a : Agent} {net : Network} {act : Activity} {now time : Time}

/-- Whether the agent is on its way with the vehicle on the link. -/
def isOn (a : Agent) (k : Vehicle × LinkId) : Bool :=
  a.state = .enRoute ∧ a.vehicle = k.1 ∧ a.link = k.2

/-- Whether the agent is at an activity that it leaves, and the entry says when and who. -/
def awaits (a : Agent) (e : Time × AgentId) : Bool :=
  a.state = .atActivity ∧ a.element + 1 < a.plan.length ∧ a.departure ≠ .never ∧
    (a.departure, a.id) = e

/-- Agents drive their own vehicles. -/
theorem driver_of_isOn {k : Vehicle × LinkId} (h : a.isOn k = true) : k.1.driver = a.id := by
  simp only [isOn, decide_eq_true_eq] at h
  rw [← h.2.1]
  rfl

/-- Agents await their own entries. -/
theorem id_of_awaits {e : Time × AgentId} (h : a.awaits e = true) : e.2 = a.id := by
  simp only [awaits, decide_eq_true_eq] at h
  rw [← h.2.2.2]

/-- An agent that is on its way is on its link, with its vehicle. -/
theorem isOn_iff (h : a.state = .enRoute) {k : Vehicle × LinkId} :
    a.isOn k = true ↔ a.vehicle = k.1 ∧ a.link = k.2 := by
  simp [isOn, h]

/-- Who is not on the way is on no link. -/
theorem isOn_of_ne (h : a.state ≠ .enRoute) (k : Vehicle × LinkId) : a.isOn k = false := by
  simp [isOn, h]

/-- Who is at no activity awaits no time. -/
theorem awaits_of_ne (h : a.state ≠ .atActivity) (e : Time × AgentId) : a.awaits e = false := by
  simp [awaits, h]

/-- An agent awaits one time only. -/
theorem awaits_iff (h : a.awaits (time, a.id) = true) {e : Time × AgentId} :
    a.awaits e = true ↔ (time, a.id) = e := by
  simp only [awaits, decide_eq_true_eq, Prod.mk.injEq] at h
  rcases h with ⟨hstate, hlt, hnever, rfl, -⟩
  simp [awaits, hstate, hlt, hnever]

/-- An agent that starts an activity is on no link. -/
theorem isOn_startActivity (a : Agent) (act : Activity) (now : Time) (k : Vehicle × LinkId) :
    (a.startActivity act now).agent.isOn k = false := by
  rcases a.startActivity_cases act now with ⟨-, h⟩ | ⟨-, h⟩ <;> rw [h] <;> rfl

/-- An agent that starts an activity awaits the time for which the answer schedules it. -/
theorem awaits_startActivity (a : Agent) (act : Activity) (now : Time) (e : Time × AgentId) :
    (a.startActivity act now).agent.awaits e = true ↔
      (a.startActivity act now).answer = .scheduled e.1 ∧ a.id = e.2 := by
  rcases a.startActivity_cases act now with ⟨-, h⟩ | ⟨hlt, h⟩
  · rw [h]
    simp [awaits]
  · rw [h]
    by_cases hnever : act.departure now = .never
    · simp [awaits, hnever]
    · simp [awaits, hnever, hlt, Prod.ext_iff]

/-- An activity that is never left is not scheduled. -/
theorem answer_startActivity (a : Agent) (act : Activity) (now : Time) :
    (a.startActivity act now).answer ≠ .scheduled .never := by
  rcases a.startActivity_cases act now with ⟨-, h⟩ | ⟨-, h⟩
  · simp [h]
  · rw [h]
    by_cases hnever : act.departure now = .never
    · simp [hnever]
    · simp [hnever]

end Agent

/-- Settling a transition schedules the agent if the transition says so. -/
theorem Traffic.count_settle {transition : Transition} (h : transition ≠ .scheduled .never)
    (id : AgentId) (t : Traffic) (e : Time × AgentId) :
    (settle id transition t).endQueue.entries.count e =
      t.endQueue.entries.count e +
        if transition = .scheduled e.1 ∧ id = e.2 then 1 else 0 := by
  cases transition with
  | scheduled time =>
      have hnever : time ≠ .never := by
        rintro rfl
        exact h rfl
      have hperm := EndQueue.perm_push (q := t.endQueue) (a := id) hnever
      rw [settle, hperm.count_eq, List.count_cons]
      simp [Prod.ext_iff]
  | resting => simp [settle]
  | enRoute => simp [settle]
  | completed => simp [settle]
  | stuck reason => simp [settle]

/-! ## The invariant -/

namespace Moment

/-- A vehicle is present where its driver is on its way, and nowhere else. -/
def Placed (m : Moment) : Prop :=
  Claimed m.traffic.agents (fun k : Vehicle × LinkId => k.1.driver) Agent.isOn
    fun k => m.traffic.queues.occurrences k.1 k.2

/-- An agent is scheduled for the time at which it leaves, and for no other time. -/
def Listed (m : Moment) : Prop :=
  Claimed m.traffic.agents Prod.snd Agent.awaits m.scheduled.count

/-- What holds at every moment of a simulation. -/
structure Sound (net : Network) (m : Moment) : Prop where
  numbered : ∀ (i : Nat) a, m.traffic.agents[i]? = some a → a.id = ⟨i⟩
  coherent : ∀ (i : Nat) a, m.traffic.agents[i]? = some a → a.Coherent net
  known : m.traffic.queues.links.size = net.linkCount
  stored : m.traffic.queues.Stored
  placed : m.Placed
  listed : m.Listed

end Moment

/-- Who is called awaits the time for which it was scheduled. -/
theorem Moment.Listed.called {past : List Event} {time : Time} {due : List (Time × AgentId)}
    {t : Traffic} {a : Agent} (h : Moment.Listed ⟨past, (time, a.id) :: due, t⟩)
    (hagent : t.agent? a.id = some a) (e : Time × AgentId) :
    a.awaits e = true ↔ (time, a.id) = e := by
  have hpos : 0 < (Moment.scheduled ⟨past, (time, a.id) :: due, t⟩).count (time, a.id) := by
    simp [Moment.scheduled]
  rcases Claimed.exists_of_pos h hpos with ⟨b, hb, hawaits⟩
  have hab : b = a := Option.some.inj (hb.symm.trans hagent)
  subst hab
  exact Agent.awaits_iff hawaits

namespace Move

variable {net : Network} {now : Time} {m m' : Moment}

/-- No move adds or removes links. -/
theorem known (h : Move net now m m') (hm : m.traffic.queues.links.size = net.linkCount) :
    m'.traffic.queues.links.size = net.linkCount := by
  cases h with
  | drain => exact hm
  | strand hagent h => exact hm
  | stay hagent h => simpa using hm
  | depart hagent h hdepart => exact (QueueNetwork.size_depart hdepart).trans hm
  | update => exact (QueueNetwork.size_update _ _).trans hm
  | keep hagent hdue h => exact hm
  | cross hagent h hleave henter =>
      exact (QueueNetwork.size_enqueue henter).trans ((QueueNetwork.size_release hleave).trans hm)
  | arrive hagent h hleave => simpa using (QueueNetwork.size_release hleave).trans hm
  | fail hagent hdue h hleave => exact (QueueNetwork.size_evict hleave).trans hm
  | replan hagent hreplanner h => exact hm

/-- After a move the storages hold the vehicles of the queues. -/
theorem stored (h : Move net now m m') (hm : m.traffic.queues.Stored) :
    m'.traffic.queues.Stored := by
  cases h with
  | drain => exact hm
  | strand hagent h => exact hm
  | stay hagent h => simpa using hm
  | depart hagent h hdepart => exact hm.depart hdepart
  | update => exact hm.update now
  | keep hagent hdue h => exact hm
  | cross hagent h hleave henter => exact (hm.release hleave).enqueue henter
  | arrive hagent h hleave => simpa using hm.release hleave
  | fail hagent hdue h hleave => exact hm.evict hleave
  | replan hagent hreplanner h => exact hm

/-- The vehicle of an agent moves with its driver. -/
theorem placed (h : Move net now m m') (hm : m.Placed) : m'.Placed := by
  have howner : ∀ (a : Agent) (k : Vehicle × LinkId), a.isOn k = true → k.1.driver = a.id :=
    fun a k => Agent.driver_of_isOn
  cases h with
  | drain => exact hm
  | strand hagent h =>
      refine Claimed.set hm howner hagent rfl fun k => ?_
      simp [Agent.isOn_of_ne, h.state, Agent.stranded]
  | stay hagent h =>
      unfold Moment.Placed
      simp only [Traffic.agents_settle, Traffic.queues_settle, Traffic.agents_did,
        Traffic.queues_did]
      refine Claimed.set hm howner hagent (Agent.id_startActivity _ _ _) fun k => ?_
      simp [Agent.isOn_of_ne, h.state, Agent.isOn_startActivity]
  | @depart _ _ _ _ a _ _ r _ _ hagent h hdepart =>
      refine Claimed.set hm howner hagent rfl fun k => ?_
      have hbefore : a.isOn k = false := Agent.isOn_of_ne (by simp [h.state]) k
      have hafter : (a.departed r).isOn k = true ↔ a.vehicle = k.1 ∧ a.link = k.2 :=
        Agent.isOn_iff rfl
      simp only [hbefore, hafter, Bool.false_eq_true, if_false, Nat.add_zero]
      exact QueueNetwork.occurrences_depart hdepart k.1 k.2
  | update =>
      intro k
      exact (QueueNetwork.occurrences_update _ _ _ _).trans (hm k)
  | @keep _ _ a kept _ hagent hdue h =>
      refine Claimed.set hm howner hagent (by rw [h.eq]) fun k => ?_
      have hsame : kept.isOn k = a.isOn k := by
        rw [h.eq]
        rfl
      rw [hsame]
      rfl
  | @cross _ _ a _ l _ _ _ hagent h hleave henter =>
      refine Claimed.set hm howner hagent rfl fun k => ?_
      have hafter : (a.crossed l).isOn k = true ↔ a.vehicle = k.1 ∧ l = k.2 :=
        Agent.isOn_iff (a := a.crossed l) h.state
      have hcount := QueueNetwork.occurrences_release hleave k.1 k.2
      have hcount' := QueueNetwork.occurrences_enqueue henter k.1 k.2
      simp only [Agent.isOn_iff h.state, hafter]
      omega
  | arrive hagent h hleave =>
      unfold Moment.Placed
      simp only [Traffic.agents_settle, Traffic.queues_settle, Traffic.agents_did]
      refine Claimed.set hm howner hagent (Agent.id_startActivity _ _ _) fun k => ?_
      simp only [Agent.isOn_iff h.state, Agent.isOn_startActivity, Bool.false_eq_true, if_false,
        Nat.add_zero]
      exact QueueNetwork.occurrences_release hleave k.1 k.2
  | @fail _ _ a _ reason _ hagent hdue h hleave =>
      refine Claimed.set hm howner hagent rfl fun k => ?_
      have hafter : (a.evicted reason).isOn k = false :=
        Agent.isOn_of_ne (by simp [Agent.evicted]) k
      simp only [Agent.isOn_iff h.state, hafter, Bool.false_eq_true, if_false, Nat.add_zero]
      exact QueueNetwork.occurrences_evict hleave k.1 k.2
  | replan hagent hreplanner h =>
      refine Claimed.set hm howner hagent rfl fun k => ?_
      rfl

/-- Who leaves is no longer scheduled, and who begins an activity is scheduled for its end. -/
theorem listed (h : Move net now m m') (hm : m.Listed) : m'.Listed := by
  have howner : ∀ (a : Agent) (e : Time × AgentId), a.awaits e = true → e.2 = a.id :=
    fun a e => Agent.id_of_awaits
  cases h with
  | @drain past t =>
      have hscheduled : Moment.scheduled ⟨past, t.endQueue.entries.takeWhile fun e => e.1 ≤ now,
          { t with endQueue := (t.endQueue.drain now).2 }⟩ = Moment.scheduled ⟨past, [], t⟩ :=
        EndQueue.append_drain t.endQueue now
      unfold Moment.Listed
      rw [hscheduled]
      exact hm
  | @strand _ _ _ _ a _ hagent h =>
      refine Claimed.set hm howner hagent rfl fun e => ?_
      have hafter : a.stranded.awaits e = false :=
        Agent.awaits_of_ne (by simp [Agent.stranded]) e
      simp only [hm.called hagent e, hafter, Bool.false_eq_true, if_false, Nat.add_zero]
      simp [Moment.scheduled, List.count_cons]
  | stay hagent h =>
      unfold Moment.Listed
      simp only [Traffic.agents_settle, Traffic.agents_did]
      refine Claimed.set hm howner hagent (Agent.id_startActivity _ _ _) fun e => ?_
      simp only [Moment.scheduled, List.count_append,
        Traffic.count_settle (Agent.answer_startActivity _ _ _), hm.called hagent e,
        Agent.awaits_startActivity, Agent.id_stayed, Traffic.endQueue_did, List.count_cons,
        beq_iff_eq]
      omega
  | @depart _ _ _ _ a _ _ r _ _ hagent h hdepart =>
      refine Claimed.set hm howner hagent rfl fun e => ?_
      have hafter : (a.departed r).awaits e = false :=
        Agent.awaits_of_ne (by simp [Agent.departed]) e
      simp only [hm.called hagent e, hafter, Bool.false_eq_true, if_false, Nat.add_zero]
      simp [Moment.scheduled, List.count_cons]
  | update => exact hm
  | @keep _ _ a kept _ hagent hdue h =>
      refine Claimed.set hm howner hagent (by rw [h.eq]) fun e => ?_
      have hsame : kept.awaits e = a.awaits e := by
        rw [h.eq]
        rfl
      rw [hsame]
      rfl
  | cross hagent h hleave henter =>
      refine Claimed.set hm howner hagent rfl fun e => ?_
      rfl
  | @arrive _ _ a _ _ _ _ hagent h hleave =>
      unfold Moment.Listed
      simp only [Traffic.agents_settle, Traffic.agents_did]
      refine Claimed.set hm howner hagent (Agent.id_startActivity _ _ _) fun e => ?_
      have hbefore : a.awaits e = false := Agent.awaits_of_ne (by simp [h.state]) e
      simp only [Moment.scheduled, List.count_append,
        Traffic.count_settle (Agent.answer_startActivity _ _ _), hbefore,
        Agent.awaits_startActivity, Agent.id_landed, Traffic.endQueue_did, Bool.false_eq_true,
        if_false]
      omega
  | @fail _ _ a _ reason _ hagent hdue h hleave =>
      refine Claimed.set hm howner hagent rfl fun e => ?_
      have hbefore : a.awaits e = false := Agent.awaits_of_ne (by simp [h.state]) e
      have hafter : (a.evicted reason).awaits e = false :=
        Agent.awaits_of_ne (by simp [Agent.evicted]) e
      rw [hbefore, hafter]
      rfl
  | @replan _ _ a _ _ _ plan hagent hreplanner h =>
      refine Claimed.set hm howner hagent rfl fun e => ?_
      have hbefore : a.awaits e = false := Agent.awaits_of_ne (by simp [h.state]) e
      have hafter : Agent.awaits { a with plan, memo := {}, lastReplan := now } e = false :=
        Agent.awaits_of_ne (by simp [h.state]) e
      rw [hbefore, hafter]
      rfl

end Move

/-- Every move keeps a moment sound. -/
theorem Moment.Sound.move {net : Network} {now : Time} {m m' : Moment} (hm : m.Sound net)
    (h : Move net now m m') : m'.Sound net := by
  refine ⟨?_, ?_, h.known hm.known, h.stored hm.stored, h.placed hm.placed, h.listed hm.listed⟩
  · intro i b hb
    have hagent : m'.traffic.agent? ⟨i⟩ = some b := hb
    rcases h.of_agent hagent with ⟨a, events, ha, -, ⟨rfl, -⟩ | hdeed⟩
    · exact hm.numbered i _ ha
    · exact hdeed.id_eq.trans (hm.numbered i a ha)
  · intro i b hb
    have hagent : m'.traffic.agent? ⟨i⟩ = some b := hb
    rcases h.of_agent hagent with ⟨a, events, ha, -, ⟨rfl, -⟩ | hdeed⟩
    · exact hm.coherent i _ ha
    · exact hdeed.coherent (hm.coherent i a ha)

/-- Moves keep a moment sound. -/
theorem Moment.Sound.moves {net : Network} {now : Time} {m m' : Moment} (hm : m.Sound net)
    (h : Moves net now m m') : m'.Sound net := by
  induction h with
  | refl => exact hm
  | tail _ hmove ih => exact ih.move hmove

end TrafficQueue
