import TrafficQueue.Proofs.Replanning.Request
import TrafficQueue.Proofs.Simulation.Declining

/-!
# The replanning phase

A step ends with the replanner: when the links have had their turns, every agent is asked
once, in the order of the numbers, and what it gets depends on itself only.  Until then no
route changes.  So a step tells of the route changes of an agent exactly what the
replanner gives to the agent that the links have left.

Main results:

- Definition `Replanner.told`: what comes of asking an agent.
- Theorem `Traffic.emitted_replanAgents`: what the phase tells.
- Theorem `Moment.Sound.afterNodes`: until then no route changes.
- Theorem `Simulation.exists_phases`: the phases of a step of a recorded run.
-/

namespace TrafficQueue

variable {net : Network} {now : Time} {a : Agent} {rep : Replanner}

/-! ## Route changes -/

/-- The events that tell of a new route. -/
def routeChanges (events : List Event) : List Event := events.filter fun e => e.kind.isReplan

/-- The route changes of events and of more events. -/
@[simp]
theorem routeChanges_append (xs ys : List Event) :
    routeChanges (xs ++ ys) = routeChanges xs ++ routeChanges ys :=
  List.filter_append xs ys

/-- Among some of the events are their route changes. -/
theorem routeChanges_filter (es : List Event) (p : Event → Bool) :
    routeChanges (es.filter p) = (routeChanges es).filter p :=
  List.filter_comm ..

/-- Without a replanner nobody changes its route. -/
theorem Deed.routeChanges_eq_nil {b : Agent} {events : List Event}
    (h : Deed net none now a events b) : routeChanges events = [] := by
  cases h with
  | replan hrep h => cases hrep
  | strand | stay | depart | keep | cross | arrive | fail => rfl

/-- As long as there is no replanner, no route changes. -/
theorem Moves.routeChanges_log {m m' : Moment} (h : Moves net now m m')
    (hnone : m.traffic.replanner = none) :
    m'.traffic.replanner = none ∧ routeChanges m'.log = routeChanges m.log := by
  induction h with
  | refl => exact ⟨hnone, rfl⟩
  | tail _ hmove ih =>
      refine ⟨hmove.replanner_none ih.1, ?_⟩
      rcases hmove.agents_log with ⟨-, ⟨-, hlog⟩ | ⟨a, events, b, -, hdeed, -, hlog⟩⟩
      · rw [hlog, ih.2]
      · rw [ih.1] at hdeed
        rw [hlog, routeChanges_append, hdeed.routeChanges_eq_nil, List.append_nil, ih.2]

/-! ## What comes of asking -/

namespace Replanner

/-- What is told when an agent is asked. -/
def told (rep : Replanner) (net : Network) (now : Time) (a : Agent) : List Event :=
  match rep.replan a net now with
  | .ok (some done) => [done.event]
  | _ => []

/-- The replanner before its first route change. -/
def uncounted (rep : Replanner) : Replanner := { rep with replans := 0 }

/-- A change of route does not depend on how many there were before, except for the count. -/
theorem commit_counted (rep : Replanner) (count : Nat) (a : Agent) (offer : Route) (now : Time) :
    { rep with replans := count }.commit a offer now =
      (rep.commit a offer now).map fun done =>
        { done with replanner := { rep with replans := count + 1 } } := by
  unfold commit
  rcases a.route? with _ | old
  · rfl
  · simp only [bind, Except.bind]
    rcases (old.splice a.routeIndex offer).mapError
        fun e => ReplanError.plan a.id (.splice e) with e | route
    · rfl
    · simp only []
      rcases (a.plan.withRoute a.element route).mapError
        fun e => ReplanError.plan a.id e with e | plan <;> rfl

/-- The count has no say in what an agent gets. -/
theorem replan_counted (rep : Replanner) (count : Nat) (a : Agent) (net : Network) (now : Time) :
    { rep with replans := count }.replan a net now =
      (rep.replan a net now).map (Option.map fun done =>
        { done with replanner := { rep with replans := count + 1 } }) := by
  have hoffer : { rep with replans := count }.offer? a net now = rep.offer? a net now := rfl
  have heligible : { rep with replans := count }.isEligible a now = rep.isEligible a now := rfl
  simp only [replan, hoffer, heligible, commit_counted]
  split
  · cases rep.offer? a net now with
    | none => rfl
    | some offer =>
        simp only []
        cases rep.commit a offer now <;> rfl
  · rfl

/-- Either nothing is told, or the new route of an agent that is granted one. -/
theorem told_cases (rep : Replanner) (net : Network) (now : Time) (a : Agent) :
    (rep.told net now a = [] ∧ ¬ ∃ done, rep.replan a net now = .ok (some done)) ∨
      ∃ done old offer links, rep.replan a net now = .ok (some done) ∧
        rep.Grants a net now old offer ∧ rep.told net now a = [a.event now (.replan links)] := by
  unfold told
  rcases hreplan : rep.replan a net now with e | _ | done
  · exact .inl ⟨rfl, by simp⟩
  · exact .inl ⟨rfl, by simp⟩
  · rcases exists_grants hreplan with ⟨old, offer, hgrants⟩
    rcases hgrants.replan_eq with ⟨mode, route, -, -, hdone⟩
    cases hreplan.symm.trans hdone
    exact .inr ⟨_, old, offer, route.full, rfl, hgrants, rfl⟩

/-- Something is told of an agent if it gets another route. -/
theorem told_ne_nil_iff :
    rep.told net now a ≠ [] ↔ ∃ done, rep.replan a net now = .ok (some done) := by
  rcases rep.told_cases net now a with
    ⟨htold, hnone⟩ | ⟨done, _, _, links, hdone, -, htold⟩
  · exact iff_of_false (fun h => h htold) hnone
  · rw [htold]
    exact iff_of_true (List.cons_ne_nil _ _) ⟨done, hdone⟩

/-- The agent stays who it is. -/
theorem id_of_replan {done : Replanned} (h : rep.replan a net now = .ok (some done)) :
    done.agent.id = a.id := by
  rcases exists_grants h with ⟨old, offer, hgrants⟩
  rcases hgrants.replan_eq with ⟨mode, route, -, -, hdone⟩
  cases h.symm.trans hdone
  rfl

/-- Only the agent who is asked is told of. -/
theorem agent_of_mem_told {e : Event} (he : e ∈ rep.told net now a) : e.agent = a.id := by
  rcases rep.told_cases net now a with ⟨htold, -⟩ | ⟨-, -, -, links, -, -, htold⟩
  · rw [htold] at he
    cases he
  · rw [htold, List.mem_singleton] at he
    rw [he]
    rfl

/-- Nobody changes the route twice in a step. -/
theorem length_told_le (rep : Replanner) (net : Network) (now : Time) (a : Agent) :
    (rep.told net now a).length ≤ 1 := by
  rcases rep.told_cases net now a with ⟨htold, -⟩ | ⟨-, -, -, links, -, -, htold⟩
  · rw [htold]
    exact Nat.zero_le 1
  · rw [htold]
    exact Nat.le_refl 1

/-- Only route changes are told. -/
theorem routeChanges_told (rep : Replanner) (net : Network) (now : Time) (a : Agent) :
    routeChanges (rep.told net now a) = rep.told net now a := by
  rcases rep.told_cases net now a with ⟨htold, -⟩ | ⟨-, -, -, links, -, -, htold⟩ <;>
    rw [htold] <;> rfl

end Replanner

/-! ## What the phase tells -/

/-- Of what is told of all agents, each agent's own part. -/
theorem filter_flatMap_own {f : Agent → List Event} (hf : ∀ a, ∀ e ∈ f a, e.agent = a.id)
    {agents : List Agent} (hpairwise : agents.Pairwise fun a b => a.id ≠ b.id) (ha : a ∈ agents) :
    (agents.flatMap f).filter (fun e => e.agent = a.id) = f a := by
  have hother : ∀ b, b.id ≠ a.id → (f b).filter (fun e => e.agent = a.id) = [] := by
    intro b hb
    rw [List.filter_eq_nil_iff]
    intro e he
    simpa [hf b e he] using hb
  induction agents with
  | nil => cases ha
  | cons b agents ih =>
      rcases List.pairwise_cons.1 hpairwise with ⟨hb, hpairwise'⟩
      rw [List.flatMap_cons, List.filter_append]
      rcases List.mem_cons.1 ha with rfl | ha'
      · have hrest : (agents.flatMap f).filter (fun e => e.agent = a.id) = [] := by
          rw [List.filter_flatMap, List.flatMap_eq_nil_iff]
          exact fun c hc => hother c (hb c hc).symm
        have hown : (f a).filter (fun e => e.agent = a.id) = f a := by
          rw [List.filter_eq_self]
          intro e he
          simpa using hf a e he
        rw [hrest, hown, List.append_nil]
      · rw [hother b (hb a ha'), List.nil_append]
        exact ih hpairwise' ha'

namespace Traffic

/-- Every agent in a list is asked, and what is told comes after what was told before. -/
theorem emitted_foldlM_replanAgent {agents : List Agent} {t u : Traffic} {count : Nat}
    (hrep : t.replanner = some { rep with replans := count })
    (hdone : agents.foldlM (replanAgent net now) t = .ok u) :
    u.emitted.toList = t.emitted.toList ++ agents.flatMap (rep.told net now) := by
  induction agents generalizing t count with
  | nil =>
      cases hdone
      rw [List.flatMap_nil, List.append_nil]
  | cons a agents ih =>
      rw [List.foldlM_cons] at hdone
      rw [List.flatMap_cons]
      have hcounted := rep.replan_counted count a net now
      rcases hreplan : rep.replan a net now with e | _ | done
      · rw [hreplan] at hcounted
        rw [replanAgent_error hrep hcounted] at hdone
        cases hdone
      · rw [hreplan] at hcounted
        rw [replanAgent_kept hrep hcounted] at hdone
        rw [Replanner.told, hreplan]
        exact ih hrep hdone
      · have hid := Replanner.id_of_replan hreplan
        rw [hreplan] at hcounted
        rw [replanAgent_replaced hrep hcounted hid] at hdone
        rw [ih rfl hdone, Replanner.told, hreplan]
        simp

/-- The phase tells what comes of asking every agent in turn. -/
theorem emitted_replanAgents {t u : Traffic} {count : Nat}
    (hrep : t.replanner = some { rep with replans := count })
    (hdone : t.replanAgents net now = .ok u) :
    u.emitted.toList = t.emitted.toList ++ t.agents.toList.flatMap (rep.told net now) := by
  rw [replanAgents, hrep, Option.isNone_some, if_neg Bool.false_ne_true,
    ← Array.foldlM_toList] at hdone
  exact emitted_foldlM_replanAgent hrep hdone

end Traffic

/-! ## The phases of a step -/

/-- With the same strategy only the replanner changes. -/
theorem Traffic.withHook_none (t : Traffic) (replanner : Option Replanner) :
    t.withHook none replanner = { t with replanner } := by
  have hagents : t.agents.map (Agent.withStrategy none) = t.agents := Array.map_id' _
  rw [withHook, hagents]

namespace Moment.Sound

variable {past : List Event} {t served : Traffic}

/-- Until replanning a step succeeds. -/
theorem afterNodes (hm : Moment.Sound net ⟨past, [], t.clearEvents⟩) (now : Time) :
    ∃ served, t.afterNodes net now = .ok served ∧
      Operations net now ⟨past, [], t.clearEvents⟩ ⟨past, [], served⟩ := by
  rcases hm.endActivities now with ⟨ended, hended, hops, -⟩
  have hops' := hops.tail .updateLinks
  rcases (hm.of_operations hops').crossNodes now with ⟨served, hserved, hcross⟩
  refine ⟨served, ?_, hops'.trans hcross.operations⟩
  unfold Traffic.afterNodes
  rw [hended]
  exact hserved

/-- Until replanning no route changes: a step goes the same way without the replanner. -/
theorem routeChanges_afterNodes (hm : Moment.Sound net ⟨past, [], t.clearEvents⟩)
    (hserved : t.afterNodes net now = .ok served) : routeChanges served.emitted.toList = [] := by
  have hplain : Moment.Sound net ⟨past, [], (t.withHook none none).clearEvents⟩ := by
    rw [t.withHook_none]
    exact ⟨hm.numbered, hm.coherent, hm.known, hm.stored, hm.placed, hm.listed⟩
  rcases hplain.afterNodes now with ⟨u, hu, hops⟩
  rw [Traffic.afterNodes_withHook, hserved] at hu
  cases hu
  have hlog := (Moves.routeChanges_log (hplain.operations hops) rfl).2
  simpa [Moment.log, Traffic.clearEvents, Traffic.withHook] using hlog

/-- What the phase tells of an agent is what comes of asking this agent. -/
theorem told_of_agent (hm : Moment.Sound net ⟨past, [], served⟩) (rep : Replanner) (now : Time)
    (id : AgentId) :
    (served.agents.toList.flatMap (rep.told net now)).filter (fun e => e.agent = id) =
      (served.agent? id).elim [] (rep.told net now) := by
  cases ha : served.agent? id with
  | none =>
      refine List.filter_eq_nil_iff.2 fun e he heq => ?_
      rcases List.mem_flatMap.1 he with ⟨a, hmem, htold⟩
      have hagent := hm.agent_of_mem (Array.mem_toList_iff.1 hmem)
      rw [← Replanner.agent_of_mem_told htold, of_decide_eq_true heq] at hagent
      exact nomatch ha.symm.trans hagent
  | some a =>
      have hid := hm.id_eq ha
      subst hid
      refine filter_flatMap_own (fun a e he => Replanner.agent_of_mem_told he) hm.pairwise_id ?_
      exact Array.mem_toList_iff.2 (Array.mem_of_getElem? ha)

end Moment.Sound

namespace Simulation

variable {s : Simulation} {n : Nat} {m : Moment} {r : Run EventLog}

/-- At every moment the replanner is the first one, but for its count. -/
theorem Passes.replanner_eq (hs : s.first.Sound s.network) (hrep : s.traffic.replanner = some rep)
    (hpass : s.Passes n m) : ∃ count, m.traffic.replanner = some { rep with replans := count } := by
  have hsame : m.traffic.replanner.map Replanner.uncounted = some rep.uncounted := by
    refine hpass.invariant
      (P := fun _ m => m.traffic.replanner.map Replanner.uncounted = some rep.uncounted) hs ?_
      (fun n m m' _ hm hmove => ?_) (fun n past t ht => ht)
    · exact congrArg (Option.map _) hrep
    · rw [hmove.replanner_map_eq Replanner.uncounted fun _ _ => rfl, hm]
  rcases Option.map_eq_some_iff.1 hsame with ⟨⟨rule, provider, contentment, count⟩, hm, heq⟩
  cases heq
  exact ⟨count, hm⟩

/-- A step of the traffic makes a step of the simulation. -/
theorem step_of_traffic {t : Traffic} (h : s.traffic.step s.network s.now = .ok t) :
    s.step = .ok ⟨s.config, s.network, s.clock.advance, t⟩ := by
  rcases s with ⟨config, network, clock, traffic⟩
  simp only [now] at h
  simp only [step, h]

/-- A step of a recorded run: the links have their turns, and after that the route of an agent
changes exactly if the replanner gives another one to the agent that the links have left. -/
theorem exists_phases (hs : s.first.Sound s.network) (hrep : s.traffic.replanner = some rep)
    (hr : s.Records n r) :
    ∃ served t, r.simulation.traffic.afterNodes s.network r.simulation.now = .ok served ∧
      r.simulation.step = .ok t ∧
      s.Passes n ⟨r.listeners.events.toList, [], served⟩ ∧
      routeChanges served.emitted.toList = [] ∧
      ∀ id, routeChanges (t.events.filter fun e => e.agent = id) =
        (served.agent? id).elim [] (rep.told s.network r.simulation.now) := by
  have hm := hr.passes.sound hs
  rcases clock_history hr.history with ⟨hclock, -, hnetwork⟩
  rcases hm.afterNodes r.simulation.now with ⟨served, hserved, hops⟩
  have hpass : s.Passes n ⟨r.listeners.events.toList, [], served⟩ := by
    rw [now, hclock] at hops
    exact hr.passes.operations hops
  rcases hpass.replanner_eq hs hrep with ⟨count, hcount⟩
  rcases (hpass.sound hs).replanAgents r.simulation.now with ⟨done, hdone, -⟩
  have hstep : r.simulation.traffic.step r.simulation.network r.simulation.now =
      .ok done.countStep := by
    rw [hnetwork, Traffic.step_eq, hserved, Except.bind, hdone]
    rfl
  have hbefore := hm.routeChanges_afterNodes hserved
  refine ⟨served, _, hserved, step_of_traffic hstep, hpass, hbefore, fun id => ?_⟩
  change routeChanges (done.emitted.toList.filter fun e => e.agent = id) = _
  have hearlier : routeChanges (served.emitted.toList.filter fun e => e.agent = id) = [] := by
    rw [routeChanges_filter, hbefore, List.filter_nil]
  rw [Traffic.emitted_replanAgents hcount hdone, List.filter_append, routeChanges_append, hearlier,
    (hpass.sound hs).told_of_agent, List.nil_append]
  cases served.agent? id with
  | none => rfl
  | some a => exact rep.routeChanges_told _ _ a

end Simulation

end TrafficQueue
