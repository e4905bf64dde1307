import TrafficQueue.Proofs.Agent.Trip
import TrafficQueue.Proofs.Queue.Free
import TrafficQueue.Proofs.Simulation.Lossless
import TrafficQueue.Proofs.Simulation.Occupancy

/-!
# A trip on free roads

Where one agent is alone, all links but its own are free, so it is never in anybody's
way and nobody is in its way.  It departs onto its first link at once, and is due on
every link the free-flow time after it has entered it.  As long as it does not miss the
time at which it is due, it is on time: the moment at which it enters a link is the time
of its departure and the free-flow times of the links behind it.

Main results:

- Definition `Stage`: how far the agent has come, and what has been told of it.
- Theorems `Stage.update`, `depart`, `keep`, `cross` and `arrive`: what can happen to it.
- Definition `Moment.Travels`: the agent is alone and on time.
- Theorem `Moment.Travels.move`: every move keeps it on time.
-/

namespace TrafficQueue

variable {net : Network} {c : Config} {trip : Trip} {now : Time} {m m' : Moment} {a : Agent}
  {l : LinkId} {queues queues' left : QueueNetwork Float} {log : List Event}

/-! ## Free roads -/

/-- Links on which the one agent is not are free. -/
theorem Moment.Sound.free (hm : m.Sound net) (halone : m.traffic.agents = #[a]) (l : LinkId)
    (hoff : a.state = .enRoute → a.link ≠ l) : m.traffic.queues.Free l := by
  apply QueueNetwork.free_of_occurrences
  intro v
  by_contra hpresent
  rcases Claimed.exists_of_pos (k := (v, l)) hm.placed (Nat.pos_of_ne_zero hpresent) with
    ⟨b, hb, hon⟩
  have hba : b = a := by
    have hmem := Array.mem_of_getElem? hb
    rwa [halone, Array.mem_singleton] at hmem
  subst hba
  simp only [Agent.isOn, decide_eq_true_eq] at hon
  exact hoff hon.1 hon.2.2

/-- There is room on every link without a queue. -/
theorem Moment.Sound.roomy (hm : m.Sound net)
    (h : (QueueNetwork.ofNetwork net c).Reached m.traffic.queues) : m.traffic.queues.Roomy := by
  intro l q hq hempty
  rcases Network.hasLink_iff.1 (hm.hasLink_of_link? hq) with ⟨link, hlink⟩
  rcases (h.withinCapacity hlink).counts with ⟨q', hq', hcounts⟩
  cases hq.symm.trans hq'
  rw [hcounts.hasSpace, hempty]
  exact hcounts.positive

/-- Who comes onto a link is due the free-flow time of the link later. -/
theorem QueueNetwork.HasFreeFlow.exit_entry {n : QueueNetwork Float} {q : LinkQueue Float}
    (h : n.HasFreeFlow net) (hq : n.link? l = some q) (v : Vehicle) (now : Time) :
    (q.entry v now).earliestExit = now.offset (net.freeFlow l) := by
  rcases h l q hq with ⟨link, hlink, hfree⟩
  rw [Network.freeFlow_of_link? hlink, ← hfree]
  rfl

/-! ## The rest of the route -/

variable {driven ahead : List LinkId} {r : Route}

/-- Where the route goes on, the next link is the first one ahead. -/
theorem Agent.OnRoute.exists_ahead (h : a.OnRoute net r)
    (hfull : r.full = driven ++ a.link :: ahead) (hindex : a.routeIndex = driven.length)
    (hnext : a.continuation net r.via r.destination = some (.link l)) :
    ∃ rest, ahead = l :: rest := by
  have hposition := (h.continuation_spec hnext).1
  rw [hfull, hindex, List.getElem?_append_right (Nat.le_add_right _ 1), Nat.add_sub_cancel_left,
    List.getElem?_cons_succ, ← List.head?_eq_getElem?] at hposition
  exact List.head?_eq_some_iff.1 hposition

/-- On a route without repetitions the agent's link does not come again. -/
theorem Route.not_mem_ahead (hnodup : r.full.Nodup) (hfull : r.full = driven ++ l :: ahead) :
    l ∉ ahead := by
  rw [hfull, List.nodup_append, List.nodup_cons] at hnodup
  exact hnodup.2.1.1

/-- The destination comes once, so nothing is ahead of it. -/
theorem Route.ahead_eq_nil (hnodup : r.full.Nodup) (hleaves : r.isSameLink = false)
    (hfull : r.full = driven ++ r.destination :: ahead) : ahead = [] := by
  have hlast : r.full.getLast? = some r.destination := by
    rw [Route.full_eq_of_not_sameLink hleaves, ← List.cons_append, List.getLast?_concat]
  have hbehind := not_mem_ahead hnodup hfull
  cases ahead with
  | nil => rfl
  | cons m ms =>
      rw [hfull, List.append_cons, List.getLast?_append_cons] at hlast
      exact absurd (List.mem_of_getLast? hlast) hbehind

/-! ## Stages of a trip -/

/-- How far the agent has come with its trip, where nothing was in its way, and what has been told
of it. -/
inductive Stage (net : Network) (trip : Trip) (now : Time) (queues : QueueNetwork Float)
    (log : List Event) (a : Agent) : Prop where
  | home (hstate : a.state = .atActivity) (hsteady : queues.SteadyOn trip.route.full)
      (hlog : log = [])
  /-- The agent has departed at `t`, has the links `driven` behind it and the links `ahead` before
  it, and has not missed the time at which it is due. -/
  | driving {t driven ahead e} (hstate : a.state = .enRoute) (honRoute : a.OnRoute net trip.route)
      (hfull : trip.route.full = driven ++ a.link :: ahead) (hindex : a.routeIndex = driven.length)
      (hholds : queues.Holds a.link e)
      (hexit : e.earliestExit = t.offset (net.duration (driven ++ [a.link])))
      (htime : now ≤ e.earliestExit) (hsteady : queues.SteadyOn (a.link :: ahead))
      (hlog : log = trip.started a.id t ++ passages net a.id t (driven ++ [a.link]))
  | done {t} (hstate : a.state = .removed .completed) (hlog : log = trip.story net a.id t)

namespace Stage

/-- The start of a step keeps the stage of the trip. -/
theorem update (h : Stage net trip now queues log a) (time : Time) :
    Stage net trip now (queues.update time) log a := by
  cases h with
  | home hstate hsteady hlog => exact .home hstate (hsteady.update time) hlog
  | driving hstate honRoute hfull hindex hholds hexit htime hsteady hlog =>
      exact .driving hstate honRoute hfull hindex (hholds.update time) hexit htime
        (hsteady.update time) hlog
  | done hstate hlog => exact .done hstate hlog

/-- The flow of the agent's link lets it leave. -/
theorem isOpen {q : LinkQueue Float} (h : Stage net trip now queues log a)
    (hstate : a.state = .enRoute) (hq : queues.link? a.link = some q) : q.flow.isOpen = true := by
  cases h with
  | home hhome => cases hhome.symm.trans hstate
  | done hdone => cases hdone.symm.trans hstate
  | driving _ _ _ _ _ _ _ hsteady _ => exact (hsteady a.link List.mem_cons_self q hq).isOpen

/-- The agent goes on to another link. -/
theorem next_ne {kept : Agent} (h : Stage net trip now queues log a) (hruns : trip.Runs net)
    (hstate : a.state = .enRoute) (hchoose : a.chooseNext net = some (.link l, kept)) :
    a.link ≠ l := by
  cases h with
  | home hhome => cases hhome.symm.trans hstate
  | done hdone => cases hdone.symm.trans hstate
  | driving _ honRoute hfull hindex _ _ _ _ _ =>
      have hchoice := (honRoute.of_chooseNext hchoose).2.1
      rcases honRoute.exists_ahead hfull hindex hchoice with ⟨rest, rfl⟩
      rintro rfl
      exact Route.not_mem_ahead hruns.nodup hfull List.mem_cons_self

/-- To choose where to go on does not take the agent anywhere. -/
theorem keep {kept : Agent} (h : Stage net trip now queues log a)
    (hkeeps : Keeps net a kept r) : Stage net trip now queues log kept := by
  rcases hkeeps with ⟨hstate, heq, hkept⟩
  generalize kept.memo = memo at heq
  subst heq
  cases h with
  | home hhome => cases hhome.symm.trans hstate
  | done hdone => cases hdone.symm.trans hstate
  | driving _ honRoute hfull hindex hholds hexit htime hsteady hlog =>
      have hr : r = trip.route := Option.some.inj (hkept.route.symm.trans honRoute.route)
      exact .driving hstate (hr ▸ hkept) hfull hindex hholds hexit htime hsteady hlog

/-- The agent departs onto its first link. -/
theorem depart {act : Activity} {mode : Mode} {d : Departure}
    (h : Stage net trip now queues log a) (hruns : trip.Runs net) (hplan : a.plan = trip.plan)
    (hdeparts : Departs net a act mode r) (hfree : queues.Free a.link) (hroomy : queues.Roomy)
    (hfreeFlow : queues.HasFreeFlow net)
    (hdepart : queues.depart a.vehicle a.link now = .ok (d, queues')) :
    Stage net trip now queues'
      (log ++ [a.event now (.activityEnd act.kind), a.event now (.departure mode)])
      (a.departed r) := by
  cases h with
  | driving hdriving => cases hdriving.symm.trans hdeparts.state
  | done hdone => cases hdone.symm.trans hdeparts.state
  | home hstate hsteady hlog =>
      have hleg := hdeparts.leg
      rw [hplan] at hleg
      rcases Trip.of_leg?_plan hleg with ⟨helement, hleg⟩
      cases hleg
      have hact := hdeparts.activity
      rw [hplan, Nat.succ.inj helement] at hact
      cases hact
      -- the route starts on the agent's link
      have hposition : trip.route.full.head? = some a.link := by
        rw [List.head?_eq_getElem?]
        exact hdeparts.onRoute.position
      rcases List.head?_eq_some_iff.1 hposition with ⟨ahead, hahead⟩
      have hfull : trip.route.full = [] ++ a.link :: ahead := hahead
      have hlink : a.link = trip.home.link := by
        rw [Route.head?_full, Option.some.injEq] at hposition
        exact hposition.symm.trans hruns.starts.symm
      rcases hfree.holds_depart hroomy hdepart with ⟨q, hq, hholds⟩
      have hexit := hfreeFlow.exit_entry hq a.vehicle now
      refine .driving (t := now) rfl hdeparts.onRoute hfull rfl hholds ?_ ?_ ?_ ?_
      · rw [hexit]
        rfl
      · rw [hexit]
        exact Time.le_offset now _
      · rw [hfull] at hsteady
        exact hsteady.depart hdepart
      · rw [hlog, Trip.started, ← hlink]
        rfl

/-- The agent crosses a node when it is due, and enters the next link of its route. -/
theorem cross {v w : Vehicle} {exit : Time} (h : Stage net trip now queues log a)
    (hruns : trip.Runs net) (hcrosses : Crosses net a r l)
    (hfree : ∀ k, k ≠ a.link → queues.Free k) (hfreeFlow : queues.HasFreeFlow net)
    (hleave : queues.release a.link now (.link l) = .ok (some v, left))
    (henter : left.enqueue w l now = .ok (exit, queues')) :
    Stage net trip now queues'
      (log ++ [a.event now (.linkLeave a.vehicle.id),
        (a.crossed l).event now (.linkEnter a.vehicle.id)])
      (a.crossed l) := by
  cases h with
  | home hhome => cases hhome.symm.trans hcrosses.state
  | done hdone => cases hdone.symm.trans hcrosses.state
  | @driving t driven ahead e hstate honRoute hfull hindex hholds hexit htime hsteady hlog =>
      have hr : r = trip.route :=
        Option.some.inj (hcrosses.onRoute.route.symm.trans honRoute.route)
      subst hr
      rcases honRoute.exists_ahead hfull hindex hcrosses.choice with ⟨rest, hahead⟩
      subst hahead
      have hbehind := Route.not_mem_ahead hruns.nodup hfull
      have hne : l ≠ a.link := fun heq => hbehind (heq ▸ List.mem_cons_self)
      -- who leaves is due, and has not been due before
      have hnow : now = t.offset (net.duration (driven ++ [a.link])) := by
        rw [← hexit]
        exact Time.ext (Nat.le_antisymm htime (hholds.exit_le_of_release hleave))
      rcases (hfree l hne).holds_cross hne hleave henter with ⟨q, hq, hholds'⟩
      have hexit' := hfreeFlow.exit_entry hq w now
      have hfull' : trip.route.full = (driven ++ [a.link]) ++ l :: rest := by
        rw [hfull, List.append_assoc]
        rfl
      refine .driving (t := t) hstate (honRoute.crossed hcrosses.choice) hfull' ?_ hholds' ?_ ?_ ?_
        ?_
      · rw [List.length_append, ← hindex]
        rfl
      · rw [hexit', hnow, Time.offset_offset, Network.duration_append net (driven ++ [a.link])]
        rfl
      · rw [hexit']
        exact Time.le_offset now _
      · have hrest := hsteady.mono (List.subset_cons_self a.link (l :: rest))
        exact (hrest.release hbehind hleave).enqueue henter
      · have hconcat := passages_concat net a.id t driven a.link l
        rw [hlog, List.append_assoc, Agent.id_crossed, List.append_assoc driven]
        change _ = trip.started a.id t ++ passages net a.id t (driven ++ [a.link, l])
        rw [hconcat, ← hnow]
        rfl

/-- The agent is on its destination when it is due, and ends its trip. -/
theorem arrive {mode : Mode} {next : Activity} {v : Vehicle}
    (h : Stage net trip now queues log a) (hruns : trip.Runs net) (hplan : a.plan = trip.plan)
    (harrives : Arrives net a r mode next)
    (hleave : queues.release a.link now .exit = .ok (some v, left)) :
    Stage net trip now left
      (log ++ [a.event now (.arrival mode), a.event now (.activityStart next.kind)])
      (a.landed.startActivity next now).agent := by
  cases h with
  | home hhome => cases hhome.symm.trans harrives.state
  | done hdone => cases hdone.symm.trans harrives.state
  | @driving t driven ahead e hstate honRoute hfull hindex hholds hexit htime hsteady hlog =>
      have hleg := harrives.leg
      rw [Agent.leg?, hplan] at hleg
      rcases Trip.of_leg?_plan hleg with ⟨helement, hleg⟩
      cases hleg
      have hact := harrives.following
      rw [hplan, helement] at hact
      cases hact
      have hdest : a.link = trip.route.destination :=
        honRoute.continuation_spec harrives.choice
      have hahead := Route.ahead_eq_nil hruns.nodup hruns.leaves (hdest ▸ hfull)
      subst hahead
      have hnow : now = t.offset (net.duration trip.route.full) := by
        rw [hfull, ← hexit]
        exact Time.ext (Nat.le_antisymm htime (hholds.exit_le_of_release hleave))
      rcases a.landed.startActivity_cases trip.work now with ⟨-, hdone⟩ | ⟨hlt, -⟩
      · rw [hdone]
        refine .done (t := t) rfl ?_
        rw [hlog, ← hfull, List.append_assoc, Trip.story, ← hnow, Trip.finished, List.append_assoc,
          hruns.ends, ← hdest]
        rfl
      · have hlength : a.landed.plan.length = 3 := by
          change a.plan.length = 3
          rw [hplan]
          rfl
        have hlast : a.landed.element = 2 := congrArg (· + 1) helement
        omega

/-- After the time that all links take together, the whole day is told. -/
theorem log_of_departure {e : Event} (h : Stage net trip now queues log a) (he : e ∈ log)
    (hdeparture : e.kind.isDeparture = true)
    (hlate : e.time.offset (net.duration trip.route.full) < now) :
    log = trip.story net e.agent e.time := by
  cases h with
  | home _ _ hlog =>
      rw [hlog] at he
      cases he
  | @driving t driven ahead _ _ _ hfull _ _ hexit htime _ hlog =>
      rw [hlog] at he
      rw [(Trip.of_departure he hdeparture).1, hfull, List.append_cons,
        Network.duration_append, ← Time.offset_offset, ← hexit] at hlate
      have hdue := Time.le_trans htime (Time.le_offset _ (net.duration ahead))
      exact absurd hlate (Nat.not_lt_of_le hdue)
  | done _ hlog =>
      rw [hlog] at he
      rcases Trip.departs_once he hdeparture with ⟨htime, hagent⟩
      rw [hlog, htime, hagent]

end Stage

/-! ## Alone with a trip -/

/-- The agent is alone and on time, and no other route will lead it astray: nobody offers one, or it
does not take one. -/
structure Moment.Travels (net : Network) (c : Config) (trip : Trip) (now : Time) (m : Moment)
    (a : Agent) : Prop where
  sound : m.Sound net
  reached : (QueueNetwork.ofNetwork net c).Reached m.traffic.queues
  alone : m.traffic.agents = #[a]
  plan : a.plan = trip.plan
  loyal : m.traffic.replanner = none ∨ a.strategy = .followRoute
  stage : Stage net trip now m.traffic.queues m.log a

namespace Moment.Travels

variable {b : Agent}

theorem eq_of_agent? (h : m.Travels net c trip now a) {id : AgentId}
    (hb : m.traffic.agent? id = some b) : b = a := by
  have hmem := Array.mem_of_getElem? hb
  rwa [h.alone, Array.mem_singleton] at hmem

theorem id_eq (h : m.Travels net c trip now a) : a.id = ⟨0⟩ := by
  apply h.sound.numbered
  rw [h.alone]
  rfl

/-- The plan of the agent can be driven. -/
theorem drivable (h : m.Travels net c trip now a) (hruns : trip.Runs net) :
    a.plan.Drivable net := by
  intro i leg hleg
  rw [h.plan] at hleg
  rcases Trip.of_leg?_plan hleg with ⟨-, rfl⟩
  exact ⟨trip.route, rfl, hruns.connected⟩

/-- Nobody has another route for the agent. -/
theorem not_eligible (h : m.Travels net c trip now a) {rep : Replanner}
    (hrep : m.traffic.replanner = some rep) (time : Time) : rep.isEligible a time = false := by
  rcases h.loyal with hnone | hfollow
  · cases hnone.symm.trans hrep
  · by_contra heligible
    rw [Bool.not_eq_false, Replanner.isEligible_iff] at heligible
    cases hfollow.symm.trans heligible.1

/-- The agent does something, and its trip has come to another stage. -/
theorem deed (h : m.Travels net c trip now a) (hmove : Move net now m m')
    (hagents : m'.traffic.agents = m.traffic.agents.setIfInBounds a.id.index b)
    (hreplanner : m'.traffic.replanner = m.traffic.replanner) (hplan : b.plan = a.plan)
    (hstrategy : b.strategy = a.strategy)
    (hstage : Stage net trip now m'.traffic.queues m'.log b) :
    m'.Travels net c trip now b := by
  refine ⟨h.sound.move hmove, hmove.reached h.reached, ?_, hplan.trans h.plan, ?_, hstage⟩
  · rw [hagents, h.alone, h.id_eq]
    rfl
  · rw [hreplanner, hstrategy]
    exact h.loyal

/-- Nothing happens to the agent, and its trip is at the same stage. -/
theorem stay (h : m.Travels net c trip now a) (hmove : Move net now m m')
    (hagents : m'.traffic.agents = m.traffic.agents)
    (hreplanner : m'.traffic.replanner = m.traffic.replanner)
    (hstage : Stage net trip now m'.traffic.queues m'.log a) : m'.Travels net c trip now a := by
  refine ⟨h.sound.move hmove, hmove.reached h.reached, hagents.trans h.alone, h.plan, ?_, hstage⟩
  rw [hreplanner]
  exact h.loyal

/-- Every move keeps the agent on time. -/
theorem move (h : m.Travels net c trip now a) (hruns : trip.Runs net)
    (hmove : Move net now m m') : ∃ b, m'.Travels net c trip now b := by
  have hfits := (h.sound.coherent 0 a (by rw [h.alone]; rfl)).plan
  have hfreeFlow := h.sound.freeFlow h.reached
  have hroomy := h.sound.roomy h.reached
  cases hmove with
  | drain => exact ⟨a, h.stay .drain rfl rfl h.stage⟩
  | update => exact ⟨a, h.stay .update rfl rfl (h.stage.update now)⟩
  | strand hagent hstrands =>
      cases h.eq_of_agent? hagent
      exact absurd hstrands ((h.drivable hruns).not_strands hfits)
  | stay hagent hstays =>
      cases h.eq_of_agent? hagent
      have hleg := hstays.leg
      rw [h.plan] at hleg
      rcases Trip.of_leg?_plan hleg with ⟨-, hleg⟩
      cases hleg
      cases hruns.leaves.symm.trans hstays.same
  | depart hagent hdeparts hdepart =>
      cases h.eq_of_agent? hagent
      have hfree := h.sound.free h.alone a.link
        fun hstate => by cases hdeparts.state.symm.trans hstate
      have hstage := h.stage.depart hruns h.plan hdeparts hfree hroomy hfreeFlow hdepart
      refine ⟨_, h.deed (.depart hagent hdeparts hdepart) rfl rfl rfl rfl ?_⟩
      simpa [Moment.log] using hstage
  | @keep past t _ kept r hagent hdue hkeeps =>
      cases h.eq_of_agent? hagent
      have hstage := h.stage.keep hkeeps
      have hid : kept.id = a.id := by rw [hkeeps.eq]
      refine ⟨kept, h.deed (.keep hagent hdue hkeeps) ?_ rfl ?_ ?_ ?_⟩
      · rw [Traffic.agents_did, hid]
      · rw [hkeeps.eq]
      · rw [hkeeps.eq]
      · simpa [Moment.log] using hstage
  | cross hagent hcrosses hleave henter =>
      cases h.eq_of_agent? hagent
      have hstage := h.stage.cross hruns hcrosses
        (fun k hk => h.sound.free h.alone k fun _ => hk.symm) hfreeFlow hleave henter
      refine ⟨_, h.deed (.cross hagent hcrosses hleave henter) rfl rfl rfl rfl ?_⟩
      simpa [Moment.log] using hstage
  | @arrive past t _ r mode next queues hagent harrives hleave =>
      cases h.eq_of_agent? hagent
      have hstage := h.stage.arrive hruns h.plan harrives hleave
      refine ⟨(a.landed.startActivity next now).agent,
        h.deed (.arrive hagent harrives hleave) ?_ ?_ (a.landed.plan_startActivity next now)
          (a.landed.strategy_startActivity next now) ?_⟩
      · simp [Agent.id_startActivity]
      · simp [Traffic.did]
      · simpa [Moment.log] using hstage
  | fail hagent hdue hfails hleave =>
      cases h.eq_of_agent? hagent
      exact absurd hfails (h.drivable hruns).not_fails
  | replan hagent hreplanner hreplans =>
      cases h.eq_of_agent? hagent
      cases (h.not_eligible hreplanner now).symm.trans hreplans.eligible

/-- The agent is on its trip after any moves. -/
theorem moves (h : m.Travels net c trip now a) (hruns : trip.Runs net)
    (hmoves : Moves net now m m') : ∃ b, m'.Travels net c trip now b := by
  induction hmoves with
  | refl => exact ⟨a, h⟩
  | tail _ hmove ih =>
      rcases ih with ⟨b, hb⟩
      exact hb.move hruns hmove

end Moment.Travels

end TrafficQueue
