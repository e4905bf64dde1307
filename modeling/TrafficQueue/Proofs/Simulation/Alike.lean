import TrafficQueue.Proofs.Agent.Footprint
import TrafficQueue.Proofs.Queue.Schedule
import TrafficQueue.Proofs.Simulation.Progress

/-!
# Traffic that is alike for some agents

Two traffics are alike for some of the agents and some of the links if these agents and
the queues of these links are the same, and so are the entries of these agents in the
schedule and the events that tell of them.  What one of these agents does on these links
keeps two traffics alike, and what another agent does on other links leaves a traffic
alike.

Main results:

- Definition `Traffic.Alike`: two traffics that some agents cannot tell apart.
- Theorems `Traffic.Alike.endActivity`, `Alike.moveHead`, `Alike.arriveHead` and
  `Alike.removeHead`: what these agents do.
- Theorems `Traffic.alike_endActivity`, `alike_moveHead`, `alike_arriveHead` and
  `alike_removeHead`: what other agents do.
-/

namespace TrafficQueue

open QueueNetwork (Agree AgreeOn)

/-- The traffics are the same as far as some agents and some links are concerned. -/
structure Traffic.Alike (mine : AgentId → Bool) (roads : LinkId → Prop) (t u : Traffic) : Prop where
  agents : ∀ id, mine id = true → t.agent? id = u.agent? id
  links : Agree roads t.queues u.queues
  schedule : t.endQueue.entries.filter (fun e => mine e.2) =
    u.endQueue.entries.filter fun e => mine e.2
  emitted : t.emitted.toList.filter (fun e => mine e.agent) =
    u.emitted.toList.filter fun e => mine e.agent

namespace Traffic

variable {mine : AgentId → Bool} {roads : LinkId → Prop} {t u w : Traffic} {a b : Agent}
  {id : AgentId} {now : Time} {l next : LinkId}

namespace Alike

theorem refl (t : Traffic) : t.Alike mine roads t := ⟨fun _ _ => rfl, Agree.refl _, rfl, rfl⟩

theorem symm (h : t.Alike mine roads u) : u.Alike mine roads t :=
  ⟨fun id hid => (h.agents id hid).symm, h.links.symm, h.schedule.symm, h.emitted.symm⟩

theorem trans (h : t.Alike mine roads u) (h' : u.Alike mine roads w) : t.Alike mine roads w :=
  ⟨fun id hid => (h.agents id hid).trans (h'.agents id hid), h.links.trans h'.links,
    h.schedule.trans h'.schedule, h.emitted.trans h'.emitted⟩

/-- Forgetting the events of the step before keeps traffics alike. -/
theorem clearEvents (h : t.Alike mine roads u) : t.clearEvents.Alike mine roads u.clearEvents :=
  ⟨h.agents, h.links, h.schedule, rfl⟩

/-! ## What one of the agents brings about -/

/-- One of the agents changes and tells of it, and the queues change alike. -/
theorem did {queues queues' : QueueNetwork Float} (h : t.Alike mine roads u)
    (hmine : mine b.id = true) (hqueues : Agree roads queues queues') (events : List Event)
    (stats stats' : Statistics) :
    Alike mine roads { t.did b events with queues, stats }
      { u.did b events with queues := queues', stats := stats' } := by
  refine ⟨?_, hqueues, h.schedule, ?_⟩
  · intro id hid
    exact getElem?_setIfInBounds_congr (h.agents b.id hmine) (h.agents id hid) b
  · simp only [emitted_did, List.filter_append, h.emitted]

/-- One of the agents changes and the queues change alike, without an event. -/
theorem keep {queues queues' : QueueNetwork Float} (h : t.Alike mine roads u)
    (hmine : mine b.id = true) (hqueues : Agree roads queues queues') :
    Alike mine roads { t with agents := t.agents.setIfInBounds b.id.index b, queues }
      { u with agents := u.agents.setIfInBounds b.id.index b, queues := queues' } := by
  have hdid := h.did hmine hqueues [] t.stats u.stats
  rwa [did_nil, did_nil] at hdid

/-- One of the agents is scheduled or counted out. -/
theorem settle (h : t.Alike mine roads u) (hid : mine id = true) (transition : Transition) :
    Alike mine roads (Traffic.settle id transition t) (Traffic.settle id transition u) := by
  cases transition with
  | scheduled time =>
      refine ⟨h.agents, h.links, ?_, h.emitted⟩
      by_cases hnever : time = .never
      · simp only [Traffic.settle, hnever, EndQueue.push_never]
        exact h.schedule
      · simp only [Traffic.settle]
        rw [EndQueue.filter_push hnever hid, EndQueue.filter_push hnever hid, h.schedule]
  | resting => exact h
  | enRoute => exact h
  | completed => exact ⟨h.agents, h.links, h.schedule, h.emitted⟩
  | stuck reason => exact ⟨h.agents, h.links, h.schedule, h.emitted⟩

/-- One of the agents leaves its activity alike. -/
theorem endActivity (h : t.Alike mine roads u) (hid : mine id = true)
    (hroad : ∀ a, t.agent? id = some a → a.id = id ∧ roads a.link) (now : Time) :
    Both (Alike mine roads) (t.endActivity now id) (u.endActivity now id) := by
  rcases t with ⟨agents, queues, endQueue, replanner, stats, emitted⟩
  rcases u with ⟨agents', queues', endQueue', replanner', stats', emitted'⟩
  have hagents : agents[id.index]? = agents'[id.index]? := h.agents id hid
  simp only [Traffic.endActivity, ← hagents]
  cases hagent : agents[id.index]? with
  | none => exact .error _
  | some a =>
      rcases hroad a hagent with ⟨rfl, hlink⟩
      have hdone : AgreeOn roads (a.endActivity now queues) (a.endActivity now queues') :=
        a.endActivity_agreeOn now h.links hlink
      have hid' := (a.endActivity_isOf now queues).agent
      simp only []
      generalize a.endActivity now queues = x at hdone hid' ⊢
      generalize a.endActivity now queues' = y at hdone ⊢
      rcases x with ⟨⟨b, events, answer⟩, left⟩
      rcases y with ⟨effect, left'⟩
      rcases hdone with ⟨rfl, hlinks⟩
      cases answer with
      | error e => exact .error _
      | ok transition =>
          have hb : b.id = a.id := hid'
          have hdid := h.did (hb.symm ▸ hid) hlinks events (stats.depart transition)
            (stats'.depart transition)
          simp only [Traffic.did, hb] at hdid
          exact .ok (hdid.settle hid transition)

/-- What comes of a turn: the same answer, and traffic that is alike. -/
def Turned (mine : AgentId → Bool) (roads : LinkId → Prop) (x y : Bool × Traffic) : Prop :=
  x.1 = y.1 ∧ x.2.Alike mine roads y.2

theorem moveHead (h : t.Alike mine roads u) (ha : mine a.id = true) (hl : roads l)
    (hnext : roads next) (now : Time) :
    Both (Turned mine roads) (t.moveHead now l next a) (u.moveHead now l next a) := by
  rcases t with ⟨agents, queues, endQueue, replanner, stats, emitted⟩
  rcases u with ⟨agents', queues', endQueue', replanner', stats', emitted'⟩
  have hleave : Both (AgreeOn roads) (queues.release l now (.link next))
      (queues'.release l now (.link next)) :=
    h.links.release hl (fun m hm => Downstream.link.inj hm ▸ hnext) now
  simp only [Traffic.moveHead]
  generalize queues.release l now (.link next) = x at hleave ⊢
  generalize queues'.release l now (.link next) = y at hleave ⊢
  cases hleave with
  | error e => exact .error _
  | @ok x y hdone =>
      rcases x with ⟨v, left⟩
      rcases y with ⟨v', left'⟩
      rcases hdone with ⟨hv, hlinks⟩
      simp only at hv hlinks
      subst hv
      cases v with
      | none => exact .ok ⟨rfl, h.keep ha hlinks⟩
      | some v =>
          have hcross := a.crossNode_agreeOn now hlinks hnext
          have hid := (a.crossNode_isOf now next left).agent
          simp only []
          generalize a.crossNode next now left = x at hcross hid ⊢
          generalize a.crossNode next now left' = y at hcross ⊢
          rcases x with ⟨⟨b, events, answer⟩, entered⟩
          rcases y with ⟨effect, entered'⟩
          rcases hcross with ⟨rfl, hlinks'⟩
          cases answer with
          | error e => exact .error _
          | ok _ =>
              have hb : b.id = a.id := hid
              exact .ok ⟨rfl, h.did (hb.symm ▸ ha) hlinks' events stats stats'⟩

theorem arriveHead (h : t.Alike mine roads u) (ha : mine a.id = true) (hl : roads l)
    (now : Time) :
    Both (Turned mine roads) (t.arriveHead now l a) (u.arriveHead now l a) := by
  rcases t with ⟨agents, queues, endQueue, replanner, stats, emitted⟩
  rcases u with ⟨agents', queues', endQueue', replanner', stats', emitted'⟩
  have hleave : Both (AgreeOn roads) (queues.release l now .exit) (queues'.release l now .exit) :=
    h.links.release hl (fun m hm => by cases hm) now
  simp only [Traffic.arriveHead]
  generalize queues.release l now .exit = x at hleave ⊢
  generalize queues'.release l now .exit = y at hleave ⊢
  cases hleave with
  | error e => exact .error _
  | @ok x y hdone =>
      rcases x with ⟨v, left⟩
      rcases y with ⟨v', left'⟩
      rcases hdone with ⟨hv, hlinks⟩
      simp only at hv hlinks
      subst hv
      cases v with
      | none => exact .ok ⟨rfl, h.keep ha hlinks⟩
      | some v =>
          have hid := (a.arrive_isOf now).agent
          simp only []
          generalize a.arrive now = arrived at hid ⊢
          rcases arrived with ⟨b, events, answer⟩
          cases answer with
          | error e => exact .error _
          | ok transition =>
              have hid' : b.id = a.id := hid
              have hb : mine b.id = true := hid'.symm ▸ ha
              exact .ok ⟨rfl, (h.did hb hlinks events (stats.arrive transition)
                (stats'.arrive transition)).settle hb transition⟩

theorem removeHead (h : t.Alike mine roads u) (ha : mine a.id = true) (hl : roads l)
    (reason : StuckReason) (now : Time) :
    Both (Turned mine roads) (t.removeHead now l a reason) (u.removeHead now l a reason) := by
  rcases t with ⟨agents, queues, endQueue, replanner, stats, emitted⟩
  rcases u with ⟨agents', queues', endQueue', replanner', stats', emitted'⟩
  have hleave : Both (AgreeOn roads) (queues.evict l) (queues'.evict l) := h.links.evict hl
  simp only [Traffic.removeHead]
  generalize queues.evict l = x at hleave ⊢
  generalize queues'.evict l = y at hleave ⊢
  cases hleave with
  | error e => exact .error _
  | ok hdone =>
      have hdid := h.did (b := (a.remove reason now).agent) ha hdone.2
        (a.remove reason now).events stats stats'
      exact .ok ⟨rfl, hdid.settle ha (.stuck reason)⟩

end Alike

/-! ## What another agent brings about -/

/-- Another agent changes and tells of it, and other queues change. -/
theorem alike_did {queues : QueueNetwork Float} {events : List Event} (hother : mine b.id = false)
    (hqueues : Agree roads t.queues queues) (hevents : ∀ e ∈ events, e.agent = b.id)
    (stats : Statistics) : t.Alike mine roads { t.did b events with queues, stats } := by
  refine ⟨?_, hqueues, rfl, ?_⟩
  · intro id hid
    have hne : b.id.index ≠ id.index := by
      intro heq
      rw [Ident.ext heq, hid] at hother
      cases hother
    exact (Array.getElem?_setIfInBounds_ne hne).symm
  · have hnone : events.filter (fun e => mine e.agent) = [] := by
      rw [List.filter_eq_nil_iff]
      intro e he
      simp [hevents e he, hother]
    simp only [emitted_did, List.filter_append, hnone, List.append_nil]

/-- Another agent changes and other queues change, without an event. -/
theorem alike_keep {queues : QueueNetwork Float} (hother : mine b.id = false)
    (hqueues : Agree roads t.queues queues) :
    t.Alike mine roads
      { t with agents := t.agents.setIfInBounds b.id.index b, queues } := by
  have hdid := alike_did hother hqueues (List.forall_mem_nil _) t.stats
  rwa [did_nil] at hdid

/-- Another agent is scheduled or counted out. -/
theorem alike_settle (hother : mine id = false) (transition : Transition) (t : Traffic) :
    t.Alike mine roads (settle id transition t) := by
  cases transition with
  | scheduled time =>
      refine ⟨fun _ _ => rfl, Agree.refl _, ?_, rfl⟩
      exact (EndQueue.filter_push_of_not hother t.endQueue).symm
  | resting => exact Alike.refl t
  | enRoute => exact Alike.refl t
  | completed => exact ⟨fun _ _ => rfl, Agree.refl _, rfl, rfl⟩
  | stuck reason => exact ⟨fun _ _ => rfl, Agree.refl _, rfl, rfl⟩

/-- Another agent leaves its activity without disturbing the roads. -/
theorem alike_endActivity (hid : mine id = false)
    (hroad : ∀ a, t.agent? id = some a → a.id = id ∧ ¬ roads a.link)
    (h : t.endActivity now id = .ok u) : t.Alike mine roads u := by
  rcases t with ⟨agents, queues, endQueue, replanner, stats, emitted⟩
  simp only [endActivity] at h
  cases hagent : agents[id.index]? with
  | none =>
      simp only [hagent] at h
      cases h
  | some a =>
      rcases hroad a hagent with ⟨rfl, hlink⟩
      have hqueues := a.agree_endActivity now (n := queues) hlink
      have hof := a.endActivity_isOf now queues
      simp only [hagent] at h
      generalize a.endActivity now queues = done at h hqueues hof
      rcases done with ⟨⟨b, events, answer⟩, left⟩
      cases answer with
      | error e => cases h
      | ok transition =>
          cases h
          have hb : b.id = a.id := hof.agent
          have hdid := alike_did (t := ⟨agents, queues, endQueue, replanner, stats, emitted⟩)
            (hb.symm ▸ hid) hqueues (fun e he => (hof.events e he).trans hb.symm)
            (stats.depart transition)
          simp only [did, hb] at hdid
          exact hdid.trans (alike_settle hid transition _)

variable {left : Bool}

theorem alike_moveHead (ha : mine a.id = false) (hl : ¬ roads l) (hnext : ¬ roads next)
    (h : t.moveHead now l next a = .ok (left, u)) : t.Alike mine roads u := by
  rcases t with ⟨agents, queues, endQueue, replanner, stats, emitted⟩
  simp only [moveHead] at h
  cases hleave : queues.release l now (.link next) with
  | error e =>
      simp only [hleave] at h
      cases h
  | ok released =>
      rcases released with ⟨v, gone⟩
      have hgone := QueueNetwork.agree_of_release hl hleave
      simp only [hleave] at h
      cases v with
      | none =>
          cases h
          exact alike_keep ha hgone
      | some v =>
          have hentered := a.agree_crossNode now (n := gone) hnext
          have hof := a.crossNode_isOf now next gone
          simp only at h
          generalize a.crossNode next now gone = crossed at h hentered hof
          rcases crossed with ⟨⟨b, events, answer⟩, entered⟩
          cases answer with
          | error e => cases h
          | ok _ =>
              cases h
              have hb : b.id = a.id := hof.agent
              exact alike_did (t := ⟨agents, queues, endQueue, replanner, stats, emitted⟩)
                (hb.symm ▸ ha) (hgone.trans hentered)
                (fun e he => (hof.events e he).trans hb.symm) stats

theorem alike_arriveHead (ha : mine a.id = false) (hl : ¬ roads l)
    (h : t.arriveHead now l a = .ok (left, u)) : t.Alike mine roads u := by
  rcases t with ⟨agents, queues, endQueue, replanner, stats, emitted⟩
  simp only [arriveHead] at h
  cases hleave : queues.release l now .exit with
  | error e =>
      simp only [hleave] at h
      cases h
  | ok released =>
      rcases released with ⟨v, gone⟩
      have hgone := QueueNetwork.agree_of_release hl hleave
      simp only [hleave] at h
      cases v with
      | none =>
          cases h
          exact alike_keep ha hgone
      | some v =>
          have hof := a.arrive_isOf now
          simp only at h
          generalize a.arrive now = arrived at h hof
          rcases arrived with ⟨b, events, answer⟩
          cases answer with
          | error e => cases h
          | ok transition =>
              cases h
              have hb : b.id = a.id := hof.agent
              have hdid := alike_did
                (t := ⟨agents, queues, endQueue, replanner, stats, emitted⟩) (hb.symm ▸ ha) hgone
                (fun e he => (hof.events e he).trans hb.symm) (stats.arrive transition)
              exact hdid.trans (alike_settle (hb.symm ▸ ha) transition _)

theorem alike_removeHead {reason : StuckReason} (ha : mine a.id = false) (hl : ¬ roads l)
    (h : t.removeHead now l a reason = .ok (left, u)) : t.Alike mine roads u := by
  rcases t with ⟨agents, queues, endQueue, replanner, stats, emitted⟩
  simp only [removeHead] at h
  cases hleave : queues.evict l with
  | error e =>
      simp only [hleave] at h
      cases h
  | ok evicted =>
      rcases evicted with ⟨v, gone⟩
      have hgone := QueueNetwork.agree_of_evict hl hleave
      simp only [hleave] at h
      cases h
      have hdid := alike_did (b := (a.remove reason now).agent)
        (t := ⟨agents, queues, endQueue, replanner, stats, emitted⟩) ha hgone
        (a.remove_isOf now reason).events stats
      exact hdid.trans (alike_settle ha _ _)

end Traffic

end TrafficQueue
