import TrafficQueue.Proofs.Simulation.Apart
import TrafficQueue.Proofs.Simulation.Drive
import TrafficQueue.Proofs.Simulation.Ending
import TrafficQueue.Proofs.Simulation.Idle

/-!
# A path takes the time that the search promises

Who drives alone over a least-time path is on time in every step.  When a link has its
turn and the vehicle on it is due, the bucket of the link is still full and the next
link is free, so the vehicle leaves in that turn.  No link of the path comes twice, so
no bucket is used twice.  With steps of one second the vehicle is hence released in the
very second in which it is due, and the trip takes the time that the search found.

Main results:

- Theorem `Moment.Travels.serveLink`: a vehicle that is due leaves.
- Theorem `Moment.Travels.step`: after a step nobody is due.
- Theorem `Simulation.exists_travels`: the agent is on time after any number of steps.
- Theorem `Simulation.path_time_delivered`: when the ends of the path are left, entered
  and reached.
-/

namespace TrafficQueue

variable {net : Network} {c : Config} {trip : Trip} {now : Time} {past : List Event}
  {t t' : Traffic} {a : Agent} {l : LinkId} {left : Bool}

/-! ## Nobody is due -/

/-- A link on which nobody is due needs no turns. -/
theorem Traffic.serveHead_of_idle (h : t.isDue now l = false) (net : Network) :
    t.serveHead net now l = .ok (false, t) := by
  unfold serveHead
  cases hhead : t.queues.head? l with
  | none => rfl
  | some e =>
      have hlate : ¬ e.earliestExit ≤ now := by
        intro hdue
        rw [isDue_iff.2 ⟨e, hhead, hdue⟩] at h
        cases h
      simp only [hlate, if_false]

/-- On a link whose head is not due nobody is served. -/
theorem Traffic.serveHeads_of_idle (h : t.isDue now l = false) (net : Network) (turns : Nat) :
    t.serveHeads net now l turns = .ok t := by
  cases turns with
  | zero => rfl
  | succ turns =>
      unfold serveHeads
      rw [serveHead_of_idle h]

/-- A vehicle that is not due has at least a second left. -/
theorem Stage.wait {queues : QueueNetwork Float} {log : List Event}
    (h : Stage net trip now queues log a)
    (hlate : ∀ l e, queues.head? l = some e → now < e.earliestExit) :
    Stage net trip (now.offset 1) queues log a := by
  cases h with
  | home hstate hsteady hlog => exact .home hstate hsteady hlog
  | driving hstate honRoute hfull hindex hholds hexit htime hsteady hlog =>
      refine .driving hstate honRoute hfull hindex hholds hexit ?_ hsteady hlog
      have hlt := hlate _ _ hholds.head
      rw [Time.lt_def] at hlt
      rw [Time.le_def, Time.secs_offset]
      omega
  | done hstate hlog => exact .done hstate hlog

namespace Moment.Travels

/-! ## The turn of the agent -/

/-- The vehicle at the head of a link is that of the agent, which is on its way there. -/
theorem of_head {e : QueueEntry} (h : Moment.Travels net c trip now ⟨past, [], t⟩ a)
    (hhead : t.queues.head? l = some e) : a.state = .enRoute ∧ a.link = l := by
  rcases h.sound.exists_driver hhead with ⟨b, hb, hstate, -, hlink⟩
  cases h.eq_of_agent? hb
  exact ⟨hstate, hlink⟩

/-- Nothing holds the agent back: its bucket is full and there is room on the next link. -/
theorem left_of_due (h : Moment.Travels net c trip now ⟨past, [], t⟩ a) (hruns : trip.Runs net)
    (hturn : Turn net now l t left t') (hdue : t.isDue now l = true) : left = true := by
  cases hturn with
  | idle hidle => cases hidle.symm.trans hdue
  | @act e b choice kept _ _ hhead hexit hagent hchoose hid hact =>
      cases hact with
      | leave hagents hqueues => rfl
      | @stay d hd hstay =>
          cases h.eq_of_agent? hagent
          rcases h.of_head hhead with ⟨hstate, rfl⟩
          rcases QueueNetwork.head?_eq_some_iff.1 hhead with ⟨q, es, hq, -⟩
          rw [QueueNetwork.head?, hq] at hhead
          have hnoRoom := QueueNetwork.downstreamRoom_of_release_none hstay hq hhead hexit
            (h.stage.isOpen hstate hq)
          cases choice with
          | arrive =>
              cases hd
              cases hnoRoom
          | stuck reason => cases hd
          | link m =>
              cases hd
              have hfree := h.sound.free h.alone m fun _ => h.stage.next_ne hruns hstate hchoose
              cases hr : t.queues.link? m with
              | none => simp [QueueNetwork.downstreamRoom, hr] at hnoRoom
              | some r =>
                  have hroom := h.sound.roomy h.reached m r hr (hfree r hr).1
                  rw [QueueNetwork.downstreamRoom_link hr, hroom] at hnoRoom
                  cases hnoRoom

/-- When the agent has left a link, nobody is due anywhere. -/
theorem idle_of_left (h : Moment.Travels net c trip now ⟨past, [], t⟩ a)
    (hm' : Moment.Sound net ⟨past, [], t'⟩) (hnow : now < .never)
    (hturn : Turn net now l t true t') (k : LinkId) : t'.isDue now k = false := by
  by_contra hdue
  rw [Bool.not_eq_false, Traffic.isDue_iff] at hdue
  rcases hdue with ⟨e', hhead', hdue⟩
  rcases QueueNetwork.head?_eq_some_iff.1 hhead' with ⟨q', es, hq', hes⟩
  rcases h.sound.exists_link? (hm'.hasLink_of_link? hq') with ⟨q, hq⟩
  have hdelays := h.sound.delays h.reached
  cases hturn with
  | @act e b choice kept _ _ hhead hexit hagent hchoose hid hact =>
      rcases h.of_head hhead with ⟨hstate, rfl⟩
      by_cases hk : k = a.link
      · -- behind the agent nobody was left on its link
        subst hk
        have hturn : Turn net now a.link t true t' := .act hhead hexit hagent hchoose hid hact
        rcases hturn.queue_of_left hnow hdelays hq with ⟨-, r, late, -, -, hr, hqueue, hlate⟩
        cases hq'.symm.trans hr
        cases h.stage with
        | home hhome => cases hhome.symm.trans hstate
        | done hdone => cases hdone.symm.trans hstate
        | driving _ _ _ _ hholds =>
            rcases hholds with ⟨q₀, hq₀, halone, -⟩
            cases hq.symm.trans hq₀
            rw [halone, List.tail_cons, List.nil_append, hes] at hqueue
            exact Nat.not_lt_of_le hdue (hlate e' (hqueue ▸ List.mem_cons_self))
      · rcases hact.grows hnow hdelays hk hq with ⟨r, hr, hgrows⟩
        cases hq'.symm.trans hr
        have hbefore := hgrows.head_of_due (by rw [hes]; rfl) hdue
        have hfree := h.sound.free h.alone k fun _ => Ne.symm hk
        rw [(hfree q hq).1] at hbefore
        cases hbefore

/-! ## A step -/

/-- A vehicle that is due leaves when its link has its turn. -/
theorem serveLink (h : Moment.Travels net c trip now ⟨past, [], t⟩ a) (hruns : trip.Runs net)
    (hnow : now < .never) (hdue : t.isDue now l = true) :
    ∃ u b, t.serveLink net now l = .ok u ∧ Moment.Travels net c trip now ⟨past, [], u⟩ b ∧
      ∀ k, u.isDue now k = false := by
  have hturns : ∃ turns, t.turns now l = turns + 1 := by
    rcases Traffic.isDue_iff.1 hdue with ⟨e, hhead, -⟩
    rcases QueueNetwork.head?_eq_some_iff.1 hhead with ⟨q, es, hq, hes⟩
    have hnever : now ≠ .never := by
      rintro rfl
      exact Nat.lt_irrefl _ hnow
    refine ⟨es.length, ?_⟩
    simp [Traffic.turns, hnever, hq, LinkQueue.vehicles, hes]
  rcases hturns with ⟨turns, hturns⟩
  rcases h.sound.serveHead now l with ⟨left, u, hu, hmoves, hturn⟩
  have hleft := h.left_of_due hruns hturn hdue
  subst hleft
  rcases h.moves hruns (Onward.moves hmoves) with ⟨b, hb⟩
  have hidle := h.idle_of_left hb.sound hnow hturn
  refine ⟨u, b, ?_, hb, hidle⟩
  rw [Traffic.serveLink, hdue, if_pos rfl, hturns, Traffic.serveHeads, hu]
  exact Traffic.serveHeads_of_idle (hidle l) net turns

/-- When all links have had their turns, nobody is due. -/
theorem crossNodes {builder : NetworkBuilder} (hnet : builder.build = .ok net)
    (h : Moment.Travels net c trip now ⟨past, [], t⟩ a) (hruns : trip.Runs net)
    (hnow : now < .never) :
    ∃ u b, t.crossNodes net now = .ok u ∧ Moment.Travels net c trip now ⟨past, [], u⟩ b ∧
      ∀ k, u.isDue now k = false := by
  rw [Traffic.crossNodes_eq]
  have hfold := exists_foldlM (f := Traffic.serveLink net now)
    (P := fun rest u => (∃ b, Moment.Travels net c trip now ⟨past, [], u⟩ b) ∧
      ∀ k, u.isDue now k = true → k ∈ rest) ?_ net.serviceOrder t ⟨⟨a, h⟩, ?_⟩
  · rcases hfold with ⟨u, hu, ⟨b, hb⟩, hrest⟩
    refine ⟨u, b, hu, hb, fun k => ?_⟩
    by_contra hdue
    exact absurd (hrest k (by simpa using hdue)) List.not_mem_nil
  · intro l rest u hP
    rcases hP with ⟨⟨b, hb⟩, hrest⟩
    cases hdue : u.isDue now l with
    | true =>
        rcases hb.serveLink hruns hnow hdue with ⟨u', b', hu', hb', hidle⟩
        refine ⟨u', hu', ⟨b', hb'⟩, fun k hk => ?_⟩
        cases (hidle k).symm.trans hk
    | false =>
        refine ⟨u, Traffic.serveLink_of_idle hdue net, ⟨b, hb⟩, fun k hk => ?_⟩
        rcases List.mem_cons.1 (hrest k hk) with rfl | hk'
        · cases hdue.symm.trans hk
        · exact hk'
  · intro k hdue
    rcases Traffic.isDue_iff.1 hdue with ⟨e, hhead, -⟩
    rcases QueueNetwork.head?_eq_some_iff.1 hhead with ⟨q, es, hq, -⟩
    exact NetworkBuilder.mem_serviceOrder hnet (h.sound.hasLink_of_link? hq)

/-- After a step nobody is due, and the agent is on time. -/
theorem step {builder : NetworkBuilder} (hnet : builder.build = .ok net)
    (h : Moment.Travels net c trip now ⟨past, [], t.clearEvents⟩ a) (hruns : trip.Runs net)
    (hnow : now < .never) :
    ∃ u b, t.step net now = .ok u.countStep ∧ Moment.Travels net c trip now ⟨past, [], u⟩ b ∧
      ∀ k, u.isDue now k = false := by
  rcases h.sound.endActivities now with ⟨ended, hended, hops, -⟩
  have hupdated := hops.tail .updateLinks
  rcases h.moves hruns (h.sound.operations hupdated) with ⟨a₁, h₁⟩
  rcases h₁.crossNodes hnet hruns hnow with ⟨u, b, hu, hb, hidle⟩
  refine ⟨u, b, Traffic.step_of_phases hended hu ?_, hb, hidle⟩
  apply Traffic.replanAgents_of_kept
  intro rep hrep x hx
  have hxb : x = b := by
    have hmem := hb.alone ▸ hx
    rwa [Array.mem_singleton] at hmem
  subst hxb
  exact Replanner.replan_of_not_eligible (hb.not_eligible hrep now) net

/-- If nobody is due, the agent is still on time a second later. -/
theorem next (h : Moment.Travels net c trip now ⟨past, [], t⟩ a)
    (hidle : ∀ k, t.isDue now k = false) :
    Moment.Travels net c trip (now.offset 1)
      ⟨past ++ t.emitted.toList, [], t.countStep.clearEvents⟩ a := by
  refine ⟨Simulation.sound_next h.sound, h.reached, h.alone, h.plan, h.loyal, ?_⟩
  rw [Simulation.log_next]
  refine Stage.wait h.stage fun l e hhead => ?_
  by_contra hdue
  have hle : e.earliestExit ≤ now := Nat.le_of_not_lt hdue
  cases (hidle l).symm.trans (Traffic.isDue_iff.2 ⟨e, hhead, hle⟩)

end Moment.Travels

/-! ## A day alone -/

namespace Simulation

variable {builder : NetworkBuilder} {name : String} {replanner : Option Replanner}
  {strategy : Option (AgentId → Person → Strategy)} {s : Simulation}

/-- Before the first step the agent is at home and all buckets of its route are full. -/
theorem travels_first
    (h : build c net ⟨#[⟨name, trip.plan⟩]⟩ replanner strategy = .ok s)
    (hkept : replanner = none ∨
      ∀ id person, strategy.getD (defaultStrategy replanner) id person = .followRoute)
    (hflow : ∀ l ∈ trip.route.full, ∀ link, net.link? l = some link →
      flowTolerance < FlowBucket.share link.flow c.stepSecs c.flowFactor) :
    ∃ a, s.first.Travels net c trip now a := by
  have hsound := sound_first h
  have hreached := Passes.first.reached h
  rw [network_of_build h] at hsound
  rcases build_eq_ok_iff.1 h with ⟨-, -, rfl⟩
  have hpopulation : Population.agents ⟨#[⟨name, trip.plan⟩]⟩
      (strategy.getD (defaultStrategy replanner)) =
        #[Agent.ofPerson (strategy.getD (defaultStrategy replanner)) ⟨0⟩ ⟨name, trip.plan⟩] := rfl
  rw [hpopulation] at hsound hreached ⊢
  have hfirst := agents_initialTraffic c net
    #[Agent.ofPerson (strategy.getD (defaultStrategy replanner)) ⟨0⟩ ⟨name, trip.plan⟩] replanner
  rw [List.map_toArray] at hfirst
  refine ⟨_, hsound, hreached, hfirst.1, rfl, ?_, .home rfl ?_ rfl⟩
  · rcases hkept with hnone | hfollow
    · exact .inl (hfirst.2.trans hnone)
    · exact .inr (hfollow _ _)
  · change (initialTraffic c net _ replanner).queues.SteadyOn trip.route.full
    rw [queues_initialTraffic]
    exact QueueNetwork.steadyOn_ofNetwork hflow

/-- With steps of one second the agent is on time after any number of steps. -/
theorem exists_travels (hnet : builder.build = .ok net) (hruns : trip.Runs net)
    (h : build c net ⟨#[⟨name, trip.plan⟩]⟩ replanner strategy = .ok s) (hstep : c.stepSecs = 1)
    (hkept : replanner = none ∨
      ∀ id person, strategy.getD (defaultStrategy replanner) id person = .followRoute)
    (hflow : ∀ l ∈ trip.route.full, ∀ link, net.link? l = some link →
      flowTolerance < FlowBucket.share link.flow c.stepSecs c.flowFactor)
    (n : Nat) (hnow : (s.clock.advanceBy n).now < .never) :
    ∃ t a, s.history n = .ok t ∧ Moment.Travels net c trip (s.clock.advanceBy n).now
      ⟨s.stream n, [], t.traffic.clearEvents⟩ a := by
  have hclock := clock_of_build h
  induction n with
  | zero =>
      rcases travels_first h hkept hflow with ⟨a, ha⟩
      exact ⟨s, a, rfl, ha⟩
  | succ n ih =>
      have hbefore : (s.clock.advanceBy n).now < .never :=
        Nat.lt_of_le_of_lt (s.clock.now_mono (Nat.le_succ n)) hnow
      rcases ih hbefore with ⟨t, a, ht, ha⟩
      rcases ha.step hnet hruns hbefore with ⟨u, b, hu, hb, hidle⟩
      rw [← network_of_build h] at hu
      have hnext := history_succ_of_step ht hu
      have hsecs : (s.clock.advanceBy n).stepSecs = 1 := by
        rw [(s.clock.secs_now_advanceBy n).2, hclock]
        exact hstep
      refine ⟨_, b, hnext, ?_⟩
      rw [stream_succ hnext, Clock.advanceBy_succ, Clock.now_advance, hsecs]
      exact hb.next hidle

/-- When the agent has departed and the time of its trip is over, a run has told of its whole
day. -/
theorem tells_story (hnet : builder.build = .ok net) (hruns : trip.Runs net)
    (h : build c net ⟨#[⟨name, trip.plan⟩]⟩ replanner strategy = .ok s) (hstep : c.stepSecs = 1)
    (hkept : replanner = none ∨
      ∀ id person, strategy.getD (defaultStrategy replanner) id person = .followRoute)
    (hflow : ∀ l ∈ trip.route.full, ∀ link, net.link? l = some link →
      flowTolerance < FlowBucket.share link.flow c.stepSecs c.flowFactor)
    (n : Nat) (hnow : (s.clock.advanceBy n).now < .never) :
    ∃ r, s.recorded n = .ok r ∧
      ∀ e ∈ r.listeners.events.toList, e.kind.isDeparture = true →
        e.time.offset (net.duration trip.route.full) < (s.clock.advanceBy n).now →
          r.listeners.events.toList = trip.story net e.agent e.time := by
  rcases exists_travels hnet hruns h hstep hkept hflow n hnow with ⟨t, a, -, ha⟩
  rcases exists_recorded (sound_first h) n with ⟨r, hr, hrecords⟩
  refine ⟨r, hr, fun e he hdeparture hlate => ?_⟩
  have hstage := ha.stage
  rw [log_clearEvents] at hstage
  rw [hrecords.stream] at he ⊢
  exact hstage.log_of_departure he hdeparture hlate

/-- Who drives alone over a least-time path, and takes no other route, leaves its first link after
the free-flow time of that link, enters the last link after the time of the path as well, and
arrives after the free-flow time of the last link as well.  Steps take a second, and in a second the
bucket of each link on the way gains more than its tolerance. -/
theorem path_time_delivered {a b : LinkId} {path : LinkPath} {home work : Activity} {mode : Mode}
    (hnet : builder.build = .ok net) (hpath : net.path a b = .ok path) (hne : a ≠ b)
    (hhome : home.link = a) (hwork : work.link = b) (hconfig : c.validate = .ok ())
    (hstep : c.stepSecs = 1)
    (hflow : ∀ l ∈ a :: (path.links ++ [b]), ∀ link, net.link? l = some link →
      flowTolerance < FlowBucket.share link.flow c.stepSecs c.flowFactor)
    (hkept : replanner = none ∨
      ∀ id person, strategy.getD (defaultStrategy replanner) id person = .followRoute) :
    ∃ s, build c net ⟨#[⟨name, Trip.plan ⟨home, mode, ⟨a, path.links, b⟩, work⟩⟩]⟩ replanner
        strategy = .ok s ∧
      ∀ n, (s.clock.advanceBy n).now < .never →
        ∃ r, s.recorded n = .ok r ∧
          ∀ e ∈ r.listeners.events.toList, e.kind.isDeparture = true →
            e.time.offset (net.freeFlow a + path.secs + net.freeFlow b) <
              (s.clock.advanceBy n).now →
            r.listeners.events.toList.filter (fun e => e.link = a ∧ e.kind.isLinkLeave) =
                [⟨e.time.offset (net.freeFlow a), e.agent, a, .linkLeave e.agent.vehicle⟩] ∧
              r.listeners.events.toList.filter (fun e => e.link = b ∧ e.kind.isLinkEnter) =
                [⟨e.time.offset (net.freeFlow a + path.secs), e.agent, b,
                  .linkEnter e.agent.vehicle⟩] ∧
              r.listeners.events.toList.filter (fun e => e.kind.isArrival) =
                [⟨e.time.offset (net.freeFlow a + path.secs + net.freeFlow b), e.agent, b,
                  .arrival mode⟩] := by
  have hwired := NetworkBuilder.wired hnet
  have hruns := Trip.runs_of_path hwired hpath hne hhome hwork mode
  have hfull : Route.full ⟨a, path.links, b⟩ = a :: (path.links ++ [b]) :=
    Route.full_of_ne hne path.links
  have hfull' : Route.full ⟨a, path.links, b⟩ = (a :: path.links) ++ [b] := hfull
  -- what the links take together
  have hbefore : net.duration (a :: path.links) = net.freeFlow a + path.secs :=
    congrArg (net.freeFlow a + ·) (Network.duration_path hwired hpath hne)
  have htotal : net.duration (Route.full ⟨a, path.links, b⟩) =
      net.freeFlow a + path.secs + net.freeFlow b := by
    rw [hfull', Network.duration_append, hbefore]
    rfl
  rw [← hfull] at hflow
  have hpeople := hruns.validate_alone name
  refine ⟨_, build_eq_ok_iff.2 ⟨hconfig, hpeople, rfl⟩, fun n hnow => ?_⟩
  rcases tells_story hnet hruns (build_eq_ok_iff.2 ⟨hconfig, hpeople, rfl⟩) hstep hkept hflow n hnow
    with ⟨r, hr, htells⟩
  refine ⟨r, hr, fun e he hdeparture hlate => ?_⟩
  have hleaves := Trip.leaves_once net e.agent e.time hruns.nodup hfull (by simp)
  have henters := Trip.enters_once net e.agent e.time hruns.nodup hfull'
    (List.cons_ne_nil a path.links)
  have harrives := Trip.arrives_once ⟨home, mode, ⟨a, path.links, b⟩, work⟩ net e.agent e.time
  rw [hbefore] at henters
  rw [htotal, hwork] at harrives
  rw [htells e he hdeparture (htotal ▸ hlate)]
  exact ⟨hleaves, henters, harrives⟩

end Simulation

namespace Detour

/-- A day with a drive over the hill. -/
def overHill : Trip :=
  ⟨{ kind := "home", link := ⟨0⟩, endTime := some .zero }, .car, ⟨⟨0⟩, [⟨2⟩, ⟨3⟩], ⟨4⟩⟩,
    { kind := "work", link := ⟨4⟩ }⟩

/-- A person who drives over the hill. -/
def hill : Population := ⟨#[⟨"hilly", overHill.plan⟩]⟩

theorem build_hill : Simulation.build {} Detour.net hill none none = .ok (morning hill) :=
  Simulation.build_eq_ok_iff.2 ⟨rfl, by decide +kernel, rfl⟩

end Detour

/-- Over the hill it takes fifty seconds from the fork to the join, ten seconds to the fork and
thirty on the last road. -/
theorem Simulation.path_time_delivered_detour :
    Detour.roads.build = .ok Detour.net ∧
      Detour.net.path ⟨0⟩ ⟨4⟩ = .ok ⟨[⟨2⟩, ⟨3⟩], 50⟩ ∧
      (⟨0⟩ : LinkId) ≠ ⟨4⟩ ∧ Detour.overHill.home.link = ⟨0⟩ ∧ Detour.overHill.work.link = ⟨4⟩ ∧
      Config.validate {} = .ok () ∧ Config.stepSecs {} = 1 ∧
      (∀ l ∈ [⟨0⟩, ⟨2⟩, ⟨3⟩, ⟨4⟩], ∀ link, Detour.net.link? l = some link →
        flowTolerance < FlowBucket.share link.flow (Config.stepSecs {}) (Config.flowFactor {})) ∧
      ∃ r, (Detour.morning Detour.hill).recorded 100 = .ok r ∧
        r.listeners.events.toList.filter (fun e => e.link = ⟨0⟩ ∧ e.kind.isLinkLeave) =
          [⟨.ofSecs 10, ⟨0⟩, ⟨0⟩, .linkLeave ⟨0⟩⟩] ∧
        r.listeners.events.toList.filter (fun e => e.link = ⟨4⟩ ∧ e.kind.isLinkEnter) =
          [⟨.ofSecs 60, ⟨0⟩, ⟨4⟩, .linkEnter ⟨0⟩⟩] ∧
        r.listeners.events.toList.filter (fun e => e.kind.isArrival) =
          [⟨.ofSecs 90, ⟨0⟩, ⟨4⟩, .arrival .car⟩] := by
  have hpath : Detour.net.path ⟨0⟩ ⟨4⟩ = .ok ⟨[⟨2⟩, ⟨3⟩], 50⟩ := by decide +kernel
  have hhome : Detour.overHill.home.link = ⟨0⟩ := rfl
  have hwork : Detour.overHill.work.link = ⟨4⟩ := rfl
  have hvalid : Config.validate {} = .ok () := by decide +kernel
  have hflow : ∀ l ∈ [⟨0⟩, ⟨2⟩, ⟨3⟩, ⟨4⟩], ∀ link, Detour.net.link? l = some link →
      flowTolerance < FlowBucket.share link.flow (Config.stepSecs {}) (Config.flowFactor {}) := by
    intro l hl link hlink
    have hall : ∀ l ∈ [⟨0⟩, ⟨2⟩, ⟨3⟩, ⟨4⟩], (Detour.net.link? l).all (fun link => decide
        (flowTolerance < FlowBucket.share link.flow (Config.stepSecs {}) (Config.flowFactor {}))) =
          true := by
      decide +kernel
    simpa [hlink] using hall l hl
  rcases path_time_delivered Detour.build_roads hpath (by decide) hhome hwork hvalid rfl hflow
    (.inl rfl) with ⟨s, hs, hdelivers⟩
  cases Detour.build_hill.symm.trans hs
  have hnow : ((Detour.morning Detour.hill).clock.advanceBy 100).now = .ofSecs 100 := by
    decide +kernel
  have hin : Detour.net.freeFlow ⟨0⟩ = 10 := by decide +kernel
  have hout : Detour.net.freeFlow ⟨4⟩ = 30 := by decide +kernel
  rcases hdelivers 100 (hnow ▸ by decide) with ⟨r, hr, htells⟩
  rw [hin, hout, hnow] at htells
  -- the day begins with the departure
  have hdeparture : ⟨.zero, ⟨0⟩, ⟨0⟩, .departure .car⟩ ∈ r.listeners.events.toList := by
    rcases exists_recorded (sound_first Detour.build_hill) 100 with ⟨r', hr', hrecords⟩
    cases hr.symm.trans hr'
    rw [hrecords.stream]
    have hearly : ⟨.zero, ⟨0⟩, ⟨0⟩, .departure .car⟩ ∈ (Detour.morning Detour.hill).stream 1 := by
      decide +kernel
    have hstream := stream_prefix (Detour.morning Detour.hill) (show 1 ≤ 100 by decide)
    exact hstream.subset hearly
  exact ⟨Detour.build_roads, hpath, by decide, hhome, hwork, hvalid, rfl, hflow, r, hr,
    htells _ hdeparture rfl (by decide)⟩

end TrafficQueue
