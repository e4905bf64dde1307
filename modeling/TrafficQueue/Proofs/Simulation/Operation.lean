import TrafficQueue.Proofs.Queue.Relief
import TrafficQueue.Proofs.Simulation.Sound

/-!
# Operations in sound moments

A step of a simulation is put together from five operations.  In a sound moment
each of them has an answer, and what it does is a sequence of moves.  So none of
the errors that an operation could end with is ever met, and whatever every move
keeps, every operation keeps.

Main results:

- Definition `Operation`: the five operations, as they are carried out.
- Definition `Turn`: what comes of serving the head of a link.
- Theorems `Moment.Sound.endActivity`, `Moment.Sound.serveHead` and
  `Moment.Sound.replanAgent`: the answers.
- Theorem `Moment.Sound.operation`: an operation is a sequence of moves.
-/

namespace TrafficQueue

/-- The operations of a step at a time. -/
inductive Operation (net : Network) (now : Time) : Moment → Moment → Prop where
  | drain {past t} :
      Operation net now ⟨past, [], t⟩
        ⟨past, t.endQueue.entries.takeWhile fun e => e.1 ≤ now,
          { t with endQueue := (t.endQueue.drain now).2 }⟩
  | endActivity {past time id due t t'} (h : t.endActivity now id = .ok t') :
      Operation net now ⟨past, (time, id) :: due, t⟩ ⟨past, due, t'⟩
  | updateLinks {past t} : Operation net now ⟨past, [], t⟩ ⟨past, [], t.updateLinks now⟩
  | serveHead {past t t' l left} (h : t.serveHead net now l = .ok (left, t')) :
      Operation net now ⟨past, [], t⟩ ⟨past, [], t'⟩
  | replanAgent {past t t' a} (hagent : t.agent? a.id = some a)
      (h : t.replanAgent net now a = .ok t') :
      Operation net now ⟨past, [], t⟩ ⟨past, [], t'⟩

namespace Moment.Sound

variable {net : Network} {now : Time} {past : List Event} {due : List (Time × AgentId)}
  {t : Traffic} {time : Time} {id : AgentId} {l : LinkId} {a : Agent}

/-! ## Who is meant -/

/-- Agents stand at their numbers. -/
theorem id_eq {m : Moment} (hm : m.Sound net) (h : m.traffic.agent? id = some a) : a.id = id :=
  hm.numbered id.index a h

/-- An agent that is found stands at its own number. -/
theorem agent_self {m : Moment} (hm : m.Sound net) (h : m.traffic.agent? id = some a) :
    m.traffic.agent? a.id = some a := by
  rwa [hm.id_eq h]

/-- Every agent is found under its number. -/
theorem agent_of_mem {m : Moment} {a : Agent} (hm : m.Sound net)
    (ha : a ∈ m.traffic.agents) : m.traffic.agent? a.id = some a := by
  rcases Array.mem_iff_getElem?.1 ha with ⟨i, hi⟩
  have hagent : m.traffic.agent? ⟨i⟩ = some a := hi
  exact hm.agent_self hagent

/-- Known links have a queue. -/
theorem exists_link? {m : Moment} (hm : m.Sound net) (h : net.hasLink l = true) :
    ∃ q, m.traffic.queues.link? l = some q := by
  rw [QueueNetwork.link?_eq_some_iff_lt, hm.known]
  simpa [Network.hasLink] using h

/-- Only known links have a queue. -/
theorem hasLink_of_link? {m : Moment} {q : LinkQueue Float} (hm : m.Sound net)
    (hq : m.traffic.queues.link? l = some q) : net.hasLink l = true := by
  have hlt := (QueueNetwork.link?_eq_some_iff_lt _ l).1 ⟨q, hq⟩
  rw [hm.known] at hlt
  simpa [Network.hasLink] using hlt

/-- Who is called is at an activity that has a leg after it. -/
theorem exists_called (hm : Moment.Sound net ⟨past, (time, id) :: due, t⟩) :
    ∃ a, t.agent? id = some a ∧ a.id = id ∧ a.state = .atActivity ∧
      a.element + 1 < a.plan.length := by
  have hpos : 0 < (Moment.scheduled ⟨past, (time, id) :: due, t⟩).count (time, id) := by
    simp [Moment.scheduled]
  rcases Claimed.exists_of_pos hm.listed hpos with ⟨a, ha, hawaits⟩
  simp only [Agent.awaits, decide_eq_true_eq] at hawaits
  exact ⟨a, ha, hm.id_eq ha, hawaits.1, hawaits.2.1⟩

/-- The head of a link is the vehicle of an agent on its way there. -/
theorem exists_driver {m : Moment} {e : QueueEntry} (hm : m.Sound net)
    (h : m.traffic.queues.head? l = some e) :
    ∃ a, m.traffic.agent? e.vehicle.driver = some a ∧ a.state = .enRoute ∧
      a.vehicle = e.vehicle ∧ a.link = l := by
  rcases Claimed.exists_of_pos (k := (e.vehicle, l)) hm.placed (QueueNetwork.head_present h) with
    ⟨a, ha, hon⟩
  simp only [Agent.isOn, decide_eq_true_eq] at hon
  exact ⟨a, ha, hon⟩

end Moment.Sound

/-! ## Ending an activity -/

/-- A leg that is over at once counts as a departure and an arrival. -/
theorem Statistics.depart_startActivity (s : Statistics) (a : Agent) (act : Activity)
    (now : Time) :
    s.depart (a.startActivity act now).answer =
      { s with departures := s.departures + 1, arrivals := s.arrivals + 1 } := by
  rcases a.startActivity_cases act now with ⟨-, h⟩ | ⟨-, h⟩
  · rw [h]
    rfl
  · rw [h]
    by_cases hnever : act.departure now = .never <;> simp [hnever, depart]

/-- The end of a leg counts as an arrival. -/
theorem Statistics.arrive_startActivity (s : Statistics) (a : Agent) (act : Activity)
    (now : Time) :
    s.arrive (a.startActivity act now).answer = { s with arrivals := s.arrivals + 1 } := by
  rcases a.startActivity_cases act now with ⟨-, h⟩ | ⟨-, h⟩
  · rw [h]
    rfl
  · rw [h]
    by_cases hnever : act.departure now = .never <;> simp [hnever, arrive]

namespace Traffic

variable {t : Traffic} {now : Time} {id : AgentId} {a b : Agent} {events : List Event}
  {transition : Transition} {queues : QueueNetwork Float}

/-- An activity that is left settles the agent, and the departure is counted. -/
theorem endActivity_eq (hagent : t.agent? id = some a)
    (h : a.endActivity now t.queues = (⟨b, events, .ok transition⟩, queues)) (hid : b.id = id) :
    t.endActivity now id = .ok (settle id transition
      { t.did b events with queues, stats := t.stats.depart transition }) := by
  cases t with
  | mk agents before endQueue replanner stats emitted =>
      have hagent' : agents[id.index]? = some a := hagent
      subst hid
      simp only [endActivity, hagent', h]
      rfl

end Traffic

namespace Moment.Sound

variable {net : Network} {past : List Event} {due : List (Time × AgentId)} {t : Traffic}
  {time : Time} {id : AgentId} {l : LinkId} {a : Agent}

/-- Who is called ends its activity. -/
theorem endActivity (hm : Moment.Sound net ⟨past, (time, id) :: due, t⟩) (now : Time) :
    ∃ t', t.endActivity now id = .ok t' ∧
      Move net now ⟨past, (time, id) :: due, t⟩ ⟨past, due, t'⟩ := by
  rcases hm.exists_called with ⟨a, hagent, rfl, hstate, hlt⟩
  have ha := hm.coherent _ a hagent
  rcases Plan.linkAt_eq_some_iff.1 (ha.place.atActivity hstate) with ⟨act, hact, hlink⟩
  rcases ha.plan.leg_after_activity hact hlt with ⟨⟨mode, route⟩, hleg⟩
  cases route with
  | none =>
      have hroute : a.plan.route? (a.element + 1) = none := by
        rw [Plan.route?, hleg]
        rfl
      have hdone := Agent.endActivity_stranded hstate hact hroute now t.queues
      refine ⟨_, Traffic.endActivity_eq hagent hdone rfl, ?_⟩
      exact .strand hagent ⟨hstate, hact, hlt, hroute⟩
  | some r =>
      have hroute : a.plan.route? (a.element + 1) = some r :=
        Plan.route?_eq_some_iff.2 ⟨_, hleg, rfl⟩
      rcases ha.route_after_activity hstate hroute with ⟨horigin, next, hnext, hend⟩
      cases hsame : r.isSameLink with
      | true =>
          have hdest : r.destination = a.link := by
            rw [← horigin, (Route.isSameLink_iff.1 hsame).1]
          have hdone := Agent.endActivity_stayed hstate hact hleg hsame hdest hnext now t.queues
          rw [Agent.events_startActivity] at hdone
          refine ⟨_, Traffic.endActivity_eq hagent hdone (Agent.id_startActivity _ _ _), ?_⟩
          rw [Statistics.depart_startActivity]
          exact .stay hagent ⟨hstate, hact, hleg, hsame, hnext, hend.trans hdest⟩
      | false =>
          have hknown : net.hasLink a.link = true :=
            ha.plan.hasLink_linkAt (ha.place.atActivity hstate)
          rcases hm.exists_link? hknown with ⟨q, hq⟩
          rcases QueueNetwork.exists_depart hq a.vehicle now with ⟨d, queues, hdepart⟩
          have hdone := Agent.endActivity_departed hstate hact hleg hsame hdepart
          refine ⟨_, Traffic.endActivity_eq hagent hdone rfl, ?_⟩
          exact .depart hagent ⟨hstate, hact, hleg, ha.departed hstate hroute hsame⟩ hdepart

end Moment.Sound

/-! ## Serving the head of a link -/

/-- Where a choice leads; who is stuck goes nowhere. -/
def NextLink.downstream? : NextLink → Option Downstream
  | .link m => some (.link m)
  | .arrive => some .exit
  | .stuck _ => none

/-- What comes of a choice for the head of a link: it is not released, and its driver keeps the
choice, or it leaves. -/
inductive Act (now : Time) (l : LinkId) (a : Agent) (choice : NextLink) (t : Traffic) :
    Bool → Traffic → Prop where
  | stay {d} (hd : choice.downstream? = some d)
      (hstay : t.queues.release l now d = .ok (none, t.queues)) :
      Act now l a choice t false (t.did a [])
  | leave {b t'} (hagents : t'.agents = t.agents.setIfInBounds a.id.index b)
      (hqueues : t.queues.HeadLeft l now t'.queues) : Act now l a choice t true t'

/-- What comes of serving the head of a link: nothing if no head is due, and otherwise what comes of
the choice of its driver. -/
inductive Turn (net : Network) (now : Time) (l : LinkId) (t : Traffic) :
    Bool → Traffic → Prop where
  | idle (h : t.isDue now l = false) : Turn net now l t false t
  | act {e a choice kept left t'} (hhead : t.queues.head? l = some e)
      (hdue : e.earliestExit ≤ now) (hagent : t.agent? e.vehicle.driver = some a)
      (hchoose : a.chooseNext net = some (choice, kept)) (hid : kept.id = a.id)
      (hact : Act now l kept choice t left t') : Turn net now l t left t'

namespace Traffic

variable {net : Network} {t : Traffic} {now : Time} {l next : LinkId} {a b kept : Agent}
  {events : List Event} {transition : Transition} {v : Vehicle} {left queues : QueueNetwork Float}

/-- An agent that has nothing to tell is put in its place. -/
theorem did_nil (t : Traffic) (a : Agent) :
    t.did a [] = { t with agents := t.agents.setIfInBounds a.id.index a } := by
  simp [did]

/-- The agent that acted is found in its place. -/
theorem agent_did (h : t.agent? b.id = some a) (events : List Event) :
    (t.did b events).agent? b.id = some b :=
  Array.getElem?_setIfInBounds_self_of_lt (Array.getElem?_eq_some_iff.1 h).1

/-- Of two changes of an agent the second remains. -/
theorem did_did (h : b.id = a.id) (t : Traffic) (events : List Event) :
    (t.did a []).did b events = t.did b events := by
  simp [did, h, Array.setIfInBounds_setIfInBounds]

/-- If the head is not released onto the next link, it stays. -/
theorem moveHead_blocked (h : t.queues.release l now (.link next) = .ok (none, t.queues)) :
    t.moveHead now l next a = .ok (false, t.did a []) := by
  rw [did_nil]
  cases t
  simp only [moveHead, h]

/-- If the head is released and crosses the node, it has been served. -/
theorem moveHead_crossed (h : t.queues.release l now (.link next) = .ok (some v, left))
    (hcross : a.crossNode next now left = (⟨b, events, .ok ()⟩, queues)) :
    t.moveHead now l next a = .ok (true, { t.did b events with queues }) := by
  cases t
  simp only [moveHead, h, hcross]
  rfl

theorem arriveHead_blocked (h : t.queues.release l now .exit = .ok (none, t.queues)) :
    t.arriveHead now l a = .ok (false, t.did a []) := by
  rw [did_nil]
  cases t
  simp only [arriveHead, h]

theorem arriveHead_landed (h : t.queues.release l now .exit = .ok (some v, queues))
    (harrive : a.arrive now = ⟨b, events, .ok transition⟩) :
    t.arriveHead now l a = .ok (true, settle b.id transition
      { t.did b events with queues, stats := t.stats.arrive transition }) := by
  cases t
  simp only [arriveHead, h, harrive]
  rfl

/-- If the head is evicted, its agent is stuck and counted as lost. -/
theorem removeHead_evicted (reason : StuckReason) (h : t.queues.evict l = .ok (some v, queues)) :
    t.removeHead now l a reason =
      .ok (true,
        { t.did (a.evicted reason) [a.event now (.stuck reason)] with
          queues
          stats := t.stats.settle (.stuck reason) }) := by
  cases t
  simp only [removeHead, h]
  rfl

/-- A link is due just when the exit time of its head has come. -/
theorem isDue_iff :
    t.isDue now l = true ↔ ∃ e, t.queues.head? l = some e ∧ e.earliestExit ≤ now := by
  unfold isDue
  cases t.queues.head? l <;> simp

variable {past : List Event} {r : Route}

/-- A head that is to cross to a link does so, or stays for lack of room or flow. -/
theorem exists_moveHead {m : LinkId} {e : QueueEntry} (hm : Moment.Sound net ⟨past, [], t.did a []⟩)
    (hagent : (t.did a []).agent? a.id = some a) (hhead : t.queues.head? a.link = some e)
    (hvehicle : a.vehicle = e.vehicle) (h : Crosses net a r m) :
    ∃ left t', t.moveHead now a.link m a = .ok (left, t') ∧
      Onwards net now ⟨past, [], t.did a []⟩ ⟨past, [], t'⟩ ∧
      Act now a.link a (.link m) t left t' := by
  have hnext := (h.onRoute.continuation_spec h.choice).1
  have hknown := h.onRoute.hasLink (hm.coherent _ a hagent).plan (List.mem_of_getElem? hnext)
  rcases hm.exists_link? hknown with ⟨next, hnext⟩
  rcases QueueNetwork.head?_eq_some_iff.1 hhead with ⟨q, es, hq, -⟩
  rcases QueueNetwork.exists_release hq ⟨_, QueueNetwork.downstreamRoom_link hnext⟩ now with
    ⟨v, left, hleave⟩
  cases v with
  | none =>
      cases QueueNetwork.eq_of_release_none hleave
      exact ⟨_, _, moveHead_blocked hleave, .refl, .stay rfl hleave⟩
  | some v =>
      have hv : v = a.vehicle := (QueueNetwork.vehicle_of_release hleave hhead).trans hvehicle.symm
      subst hv
      rcases QueueNetwork.exists_enqueue_of_release hleave a.vehicle with ⟨exit, queues, henter⟩
      have hcross := Agent.crossNode_crossed h.state henter
      refine ⟨_, _, moveHead_crossed hleave hcross, ?_,
        .leave rfl (QueueNetwork.headLeft_of_enqueue hleave henter)⟩
      rw [← did_did (Agent.id_crossed a m)]
      exact .single ⟨.cross hagent h hleave henter, rfl, rfl⟩

/-- A head that is to arrive does so, or stays for lack of flow. -/
theorem exists_arriveHead {e : QueueEntry} {mode : Mode} {next : Activity}
    (hagent : (t.did a []).agent? a.id = some a) (hhead : t.queues.head? a.link = some e)
    (hvehicle : a.vehicle = e.vehicle) (h : Arrives net a r mode next) :
    ∃ left t', t.arriveHead now a.link a = .ok (left, t') ∧
      Onwards net now ⟨past, [], t.did a []⟩ ⟨past, [], t'⟩ ∧
      Act now a.link a .arrive t left t' := by
  rcases QueueNetwork.head?_eq_some_iff.1 hhead with ⟨q, es, hq, -⟩
  rcases QueueNetwork.exists_release (d := .exit) hq ⟨true, rfl⟩ now with ⟨v, queues, hleave⟩
  cases v with
  | none =>
      cases QueueNetwork.eq_of_release_none hleave
      exact ⟨_, _, arriveHead_blocked hleave, .refl, .stay rfl hleave⟩
  | some v =>
      have hv : v = a.vehicle := (QueueNetwork.vehicle_of_release hleave hhead).trans hvehicle.symm
      subst hv
      have hdest := h.onRoute.continuation_spec h.choice
      have harrive := Agent.arrive_landed h.state h.leg hdest.symm h.following now
      rw [Agent.events_startActivity] at harrive
      have hid : (a.landed.startActivity next now).agent.id = a.id :=
        Agent.id_startActivity _ _ _
      refine ⟨_, _, arriveHead_landed hleave harrive, ?_, ?_⟩
      · rw [← did_did hid, Statistics.arrive_startActivity, hid]
        exact .single ⟨.arrive hagent h hleave, rfl, rfl⟩
      · refine .leave (b := (a.landed.startActivity next now).agent) ?_ ?_
        · rw [agents_settle, agents_did, hid]
        · rw [queues_settle]
          exact QueueNetwork.headLeft_of_release hleave

/-- A head that cannot go on is removed. -/
theorem exists_removeHead {e : QueueEntry} {reason : StuckReason}
    (hagent : (t.did a []).agent? a.id = some a) (hhead : t.queues.head? a.link = some e)
    (hdue : e.earliestExit ≤ now) (hvehicle : a.vehicle = e.vehicle)
    (h : Fails net a r reason) :
    ∃ left t', t.removeHead now a.link a reason = .ok (left, t') ∧
      Onwards net now ⟨past, [], t.did a []⟩ ⟨past, [], t'⟩ ∧
      Act now a.link a (.stuck reason) t left t' := by
  rcases QueueNetwork.exists_evict hhead with ⟨queues, hleave⟩
  rw [← hvehicle] at hleave
  refine ⟨_, _, removeHead_evicted reason hleave, ?_,
    .leave rfl (QueueNetwork.headLeft_of_evict hleave)⟩
  rw [← did_did (Agent.id_evicted a reason)]
  exact .single ⟨.fail hagent (isDue_iff.2 ⟨e, hhead, hdue⟩) h hleave, rfl, rfl⟩

end Traffic

/-- The head of a link is served: it stays, or its driver keeps a choice and acts on it. -/
theorem Moment.Sound.serveHead {net : Network} {past : List Event} {t : Traffic}
    (hm : Moment.Sound net ⟨past, [], t⟩) (now : Time) (l : LinkId) :
    ∃ left t', t.serveHead net now l = .ok (left, t') ∧
      Onwards net now ⟨past, [], t⟩ ⟨past, [], t'⟩ ∧ Turn net now l t left t' := by
  unfold Traffic.serveHead
  cases hhead : t.queues.head? l with
  | none =>
      refine ⟨_, _, rfl, .refl, .idle ?_⟩
      simp [Traffic.isDue, hhead]
  | some e =>
      by_cases hdue : e.earliestExit ≤ now
      · rcases hm.exists_driver hhead with ⟨a, hagent, hstate, hvehicle, rfl⟩
        have ha := hm.coherent _ a hagent
        rcases ha.place.enRoute hstate with ⟨r, honRoute⟩
        rcases honRoute.exists_chooseNext ha.plan with ⟨choice, kept, hchoose⟩
        rcases honRoute.of_chooseNext hchoose with ⟨heq, hchoice, hkept⟩
        have hkeeps : Keeps net a kept r := ⟨hstate, heq, hkept⟩
        have hmove : Move net now ⟨past, [], t⟩ ⟨past, [], t.did kept []⟩ :=
          .keep (hm.agent_self hagent) (Traffic.isDue_iff.2 ⟨e, hhead, hdue⟩) hkeeps
        have hid : kept.id = a.id := by rw [heq]
        have hstored : (t.did kept []).agent? kept.id = some kept :=
          Traffic.agent_did (hid ▸ hm.agent_self hagent) []
        have hlink : kept.link = a.link := by rw [heq]
        have hvehicle' : kept.vehicle = e.vehicle := by
          rw [← hvehicle, heq]
          rfl
        have hstate' : kept.state = .enRoute := by rw [heq, hstate]
        have hchoice' : kept.continuation net r.via r.destination = some choice := by
          rw [← hchoice, heq]
          rfl
        rw [← hlink] at hhead
        -- what was kept is stored before anything else happens
        suffices hserve : ∃ left t',
            (match choice with
              | .link next => t.moveHead now kept.link next kept
              | .arrive => t.arriveHead now kept.link kept
              | .stuck reason => t.removeHead now kept.link kept reason) = .ok (left, t') ∧
              Onwards net now ⟨past, [], t.did kept []⟩ ⟨past, [], t'⟩ ∧
              Act now kept.link kept choice t left t' by
          rcases hserve with ⟨left, t', hserve, hmoves, hact⟩
          rw [hlink] at hserve hhead hact
          refine ⟨left, t', ?_, .head ⟨hmove, rfl, rfl⟩ hmoves,
            .act hhead hdue hagent hchoose hid hact⟩
          simp only [hdue, if_true, hagent, hchoose]
          rw [← hserve]
          cases choice <;> rfl
        cases choice with
        | link m =>
            exact Traffic.exists_moveHead (hm.move hmove) hstored hhead hvehicle'
              ⟨hstate', hkept, hchoice'⟩
        | arrive =>
            have hplan := ((hm.move hmove).coherent _ kept hstored).plan
            rcases hkept.activity_after hplan with ⟨⟨mode, hleg⟩, next, hnext, hend⟩
            have hdest := hkept.continuation_spec hchoice'
            exact Traffic.exists_arriveHead hstored hhead hvehicle'
              ⟨hstate', hkept, hchoice', hleg, hnext, hend.trans hdest.symm⟩
        | stuck reason =>
            exact Traffic.exists_removeHead hstored hhead hdue hvehicle'
              ⟨hstate', hkept, hchoice'⟩
      · simp only [hdue, if_false]
        refine ⟨_, _, rfl, .refl, .idle ?_⟩
        simp [Traffic.isDue, hhead, hdue]

/-! ## Replanning -/

namespace Traffic

variable {net : Network} {now : Time} {t : Traffic} {a : Agent} {rep : Replanner}

/-- Without a replanner nobody is asked. -/
theorem replanAgent_none (h : t.replanner = none) : t.replanAgent net now a = .ok t := by
  cases t with
  | mk agents queues endQueue replanner stats emitted =>
      cases h
      rfl

/-- An error of the replanner is one of the step. -/
theorem replanAgent_error {e : ReplanError} (hreplanner : t.replanner = some rep)
    (h : rep.replan a net now = .error e) : t.replanAgent net now a = .error (.replanning e) := by
  cases t with
  | mk agents queues endQueue replanner stats emitted =>
      cases hreplanner
      simp only [replanAgent, h]

/-- An agent that keeps its route stays as it is. -/
theorem replanAgent_kept (hreplanner : t.replanner = some rep)
    (h : rep.replan a net now = .ok none) : t.replanAgent net now a = .ok t := by
  cases t with
  | mk agents queues endQueue replanner stats emitted =>
      cases hreplanner
      simp only [replanAgent, h]

/-- An agent that gets a new route is put in its place, and the event is told. -/
theorem replanAgent_replaced {done : Replanned} (hreplanner : t.replanner = some rep)
    (h : rep.replan a net now = .ok (some done)) (hid : done.agent.id = a.id) :
    t.replanAgent net now a =
      .ok { t.did done.agent [done.event] with
        replanner := some done.replanner
        stats := { t.stats with replans := t.stats.replans + 1 } } := by
  cases t with
  | mk agents queues endQueue replanner stats emitted =>
      cases hreplanner
      simp only [replanAgent, h, did, hid]
      simp

end Traffic

/-- An agent gets its chance for another route; the other agents stay as they are. -/
theorem Moment.Sound.replanAgent {net : Network} {past : List Event} {t : Traffic} {a : Agent}
    (hm : Moment.Sound net ⟨past, [], t⟩) (hagent : t.agent? a.id = some a) (now : Time) :
    ∃ t', t.replanAgent net now a = .ok t' ∧ Onwards net now ⟨past, [], t⟩ ⟨past, [], t'⟩ ∧
      ∀ id, id ≠ a.id → t'.agent? id = t.agent? id := by
  cases hreplanner : t.replanner with
  | none => exact ⟨_, Traffic.replanAgent_none hreplanner, .refl, fun _ _ => rfl⟩
  | some rep =>
      have ha := hm.coherent _ a hagent
      rcases Replanner.replan_cases ha rep now with
        hkept | ⟨old, route, plan, hdone, heligible, hold, hwith, hfits, honRoute, htake, hoffer⟩
      · exact ⟨_, Traffic.replanAgent_kept hreplanner hkept, .refl, fun _ _ => rfl⟩
      · refine ⟨_, Traffic.replanAgent_replaced hreplanner hdone rfl, .single ⟨?_, rfl, rfl⟩, ?_⟩
        · exact .replan hagent hreplanner ⟨heligible, hold, hwith, hfits, honRoute, htake, hoffer⟩
        · intro id hid
          exact Array.getElem?_setIfInBounds_ne fun heq => hid (Ident.ext heq).symm

/-! ## Operations are moves -/

/-- What an operation does is a sequence of moves. -/
theorem Moment.Sound.operation {net : Network} {now : Time} {m m' : Moment} (hm : m.Sound net)
    (h : Operation net now m m') : Moves net now m m' := by
  cases h with
  | drain => exact .single .drain
  | endActivity h =>
      rcases hm.endActivity now with ⟨t, ht, hmove⟩
      cases h.symm.trans ht
      exact .single hmove
  | updateLinks => exact .single .update
  | serveHead h =>
      rcases hm.serveHead now _ with ⟨left, t, ht, hmoves, -⟩
      cases h.symm.trans ht
      exact Onward.moves hmoves
  | replanAgent hagent h =>
      rcases hm.replanAgent hagent now with ⟨t, ht, hmoves, -⟩
      cases h.symm.trans ht
      exact Onward.moves hmoves

end TrafficQueue
