import TrafficQueue.Proofs.Simulation.Alike
import TrafficQueue.Proofs.Simulation.Idle

/-!
# Agents that share no link

If some agents use some links only, and the other agents use none of them, then the
other agents make no difference to them: two traffics that are alike for these agents and
links are still alike after a step, whatever the other agents in each of them do.

Main results:

- Definition `Plan.Uses`: the links of a plan.
- Definition `Moment.Parted`: some agents use these links and the others do not.
- Theorem `Moment.Parted.operation`: every operation keeps the agents apart.
- Theorem `Moment.Parted.step`: a step keeps two traffics alike.
-/

namespace TrafficQueue

/-- The links of an element of a plan. -/
def PlanElement.links : PlanElement → List LinkId
  | .activity a => [a.link]
  | .leg l => l.route.elim [] Route.named

namespace Plan

variable {p : Plan} {l : LinkId} {i : Nat}

/-- The link is that of an activity of the plan, or one that a route of the plan names. -/
def Uses (p : Plan) (l : LinkId) : Prop := ∃ e ∈ p.elements, l ∈ e.links

/-- It can be decided whether a plan uses a link. -/
instance (p : Plan) (l : LinkId) : Decidable (p.Uses l) :=
  inferInstanceAs (Decidable (∃ e ∈ p.elements, l ∈ e.links))

/-- A plan uses the links of its activities. -/
theorem uses_of_linkAt (h : p.linkAt i = some l) : p.Uses l := by
  rcases linkAt_eq_some_iff.1 h with ⟨act, hact, rfl⟩
  have helement := activity?_eq_some_iff.1 hact
  exact ⟨_, List.mem_of_getElem? helement, List.mem_singleton_self _⟩

/-- A plan uses the links of its routes. -/
theorem uses_of_route {r : Route} (h : p.route? i = some r) (hl : l ∈ r.named) : p.Uses l := by
  rcases Option.bind_eq_some_iff.1 h with ⟨leg, hleg, hroute⟩
  have helement := leg?_eq_some_iff.1 hleg
  refine ⟨_, List.mem_of_getElem? helement, ?_⟩
  simpa [PlanElement.links, hroute] using hl

end Plan

/-! ## The invariant -/

/-- Nobody replans, and of the links some agents use these, and the others use none of these. -/
structure Moment.Parted (mine : AgentId → Bool) (roads : LinkId → Prop) (net : Network)
    (m : Moment) : Prop where
  sound : m.Sound net
  settled : m.traffic.replanner = none
  own : ∀ a ∈ m.traffic.agents, ∀ l, a.plan.Uses l → (roads l ↔ mine a.id = true)

namespace Moment.Parted

variable {mine : AgentId → Bool} {roads : LinkId → Prop} {net : Network} {now : Time}
  {m m' : Moment} {past past' : List Event} {t u : Traffic} {a : Agent} {id : AgentId}
  {l : LinkId}

/-- A move keeps the agents on their own roads. -/
theorem move (hm : m.Parted mine roads net) (h : Move net now m m') :
    m'.Parted mine roads net := by
  refine ⟨hm.sound.move h, h.replanner_none hm.settled, ?_⟩
  intro b hb l hl
  have hb' := (hm.sound.move h).agent_of_mem hb
  rcases h.of_agent hb' with ⟨a, events, ha, -, ⟨rfl, -⟩ | hdeed⟩
  · exact hm.own b (Array.mem_of_getElem? ha) l hl
  · rw [hm.settled] at hdeed
    rw [hdeed.plan_eq] at hl
    rw [hdeed.id_eq]
    exact hm.own a (Array.mem_of_getElem? ha) l hl

/-- Every operation keeps the agents apart. -/
theorem operation (hm : m.Parted mine roads net) (h : Operation net now m m') :
    m'.Parted mine roads net := by
  have hmoves := hm.sound.operation h
  clear h
  induction hmoves with
  | refl => exact hm
  | tail _ hmove ih => exact ih.move hmove

/-! ## Whose links these are -/

/-- An agent at an activity or on its way is on a link that its plan uses. -/
theorem roads_link (hm : m.Parted mine roads net) (hagent : m.traffic.agent? id = some a)
    (hstate : a.state = .atActivity ∨ a.state = .enRoute) :
    roads a.link ↔ mine a.id = true := by
  have ha := hm.sound.coherent _ a hagent
  apply hm.own a (Array.mem_of_getElem? hagent)
  rcases hstate with hstate | hstate
  · exact Plan.uses_of_linkAt (ha.place.atActivity hstate)
  · rcases ha.place.enRoute hstate with ⟨r, honRoute⟩
    exact Plan.uses_of_route honRoute.route (Route.mem_full_iff.1 honRoute.link_mem)

/-- The next link of an agent on its way is one that its plan uses. -/
theorem roads_next (hm : m.Parted mine roads net) (hagent : m.traffic.agent? id = some a)
    (hstate : a.state = .enRoute) {kept : Agent}
    (hchoose : a.chooseNext net = some (.link l, kept)) :
    roads l ↔ mine a.id = true := by
  have ha := hm.sound.coherent _ a hagent
  rcases ha.place.enRoute hstate with ⟨r, honRoute⟩
  rcases honRoute.of_chooseNext hchoose with ⟨-, hchoice, -⟩
  have hnext := (honRoute.continuation_spec hchoice).1
  apply hm.own a (Array.mem_of_getElem? hagent)
  exact Plan.uses_of_route honRoute.route (Route.mem_full_iff.1 (List.mem_of_getElem? hnext))

/-- The vehicles on the links are those of the agents that use them. -/
theorem mine_of_mem_queue (hm : m.Parted mine roads net) {q : LinkQueue Float} {v : Vehicle}
    (hq : m.traffic.queues.link? l = some q) (hv : v ∈ q.vehicles) :
    mine v.driver = true ↔ roads l := by
  have hpos : 0 < m.traffic.queues.occurrences v l := by
    rw [QueueNetwork.occurrences_of_link hq]
    exact List.count_pos_iff.2 (List.mem_append_left _ hv)
  rcases Claimed.exists_of_pos (k := (v, l)) hm.sound.placed hpos with ⟨a, hagent, hon⟩
  simp only [Agent.isOn, decide_eq_true_eq] at hon
  rcases hon with ⟨hstate, rfl, rfl⟩
  exact (hm.roads_link hagent (.inr hstate)).symm

/-! ## The end of activities -/

/-- Who is called is on a link that its plan uses. -/
theorem roads_called {time : Time} {due : List (Time × AgentId)}
    (hm : Moment.Parted mine roads net ⟨past, (time, id) :: due, t⟩) {a : Agent}
    (hagent : t.agent? id = some a) : a.id = id ∧ (roads a.link ↔ mine id = true) := by
  rcases hm.sound.exists_called with ⟨b, hb, hid, hstate, -⟩
  cases hagent.symm.trans hb
  exact ⟨hid, hid ▸ hm.roads_link hagent (.inl hstate)⟩

/-- The same agents are called in both traffics, and others in the first one. -/
theorem endAll {due : List (Time × AgentId)} (hm : Moment.Parted mine roads net ⟨past, due, t⟩)
    (hm' : Moment.Parted mine roads net ⟨past', due.filter fun e => mine e.2, u⟩)
    (h : t.Alike mine roads u) (now : Time) :
    ∃ t' u', due.foldlM (fun v e => v.endActivity now e.2) t = .ok t' ∧
      (due.filter fun e => mine e.2).foldlM (fun v e => v.endActivity now e.2) u = .ok u' ∧
      Moment.Parted mine roads net ⟨past, [], t'⟩ ∧
      Moment.Parted mine roads net ⟨past', [], u'⟩ ∧ t'.Alike mine roads u' := by
  induction due generalizing t u with
  | nil => exact ⟨t, u, rfl, rfl, hm, hm', h⟩
  | cons e due ih =>
      rcases e with ⟨time, id⟩
      rcases hm.sound.endActivity now with ⟨t₁, ht₁, hmove⟩
      cases hid : mine id with
      | true =>
          have hfilter : ((time, id) :: due).filter (fun e => mine e.2) =
              (time, id) :: due.filter fun e => mine e.2 := List.filter_cons_of_pos hid
          rw [hfilter] at hm' ⊢
          rcases hm'.sound.endActivity now with ⟨u₁, hu₁, hmove'⟩
          have hboth := h.endActivity hid
            (fun a ha => ⟨(hm.roads_called ha).1, (hm.roads_called ha).2.2 hid⟩) now
          rw [ht₁, hu₁] at hboth
          cases hboth with
          | ok halike =>
              rcases ih (hm.move hmove) (hm'.move hmove') halike with
                ⟨t', u', ht', hu', hdone⟩
              refine ⟨t', u', ?_, ?_, hdone⟩
              · rw [List.foldlM_cons, ht₁]
                exact ht'
              · rw [List.foldlM_cons, hu₁]
                exact hu'
      | false =>
          have hnot : ¬ mine id = true := by simp [hid]
          have hfilter : ((time, id) :: due).filter (fun e => mine e.2) =
              due.filter fun e => mine e.2 := List.filter_cons_of_neg hnot
          rw [hfilter] at hm' ⊢
          have hskip : t.Alike mine roads t₁ := Traffic.alike_endActivity hid
            (fun a ha => ⟨(hm.roads_called ha).1, fun hl => hnot ((hm.roads_called ha).2.1 hl)⟩) ht₁
          rcases ih (hm.move hmove) hm' (hskip.symm.trans h) with ⟨t', u', ht', hu', hdone⟩
          refine ⟨t', u', ?_, hu', hdone⟩
          rw [List.foldlM_cons, ht₁]
          exact ht'

/-- If everybody in the second traffic is one of the agents, the activities that end there are those
of these agents in the first one. -/
theorem endActivities (hm : Moment.Parted mine roads net ⟨past, [], t⟩)
    (hm' : Moment.Parted mine roads net ⟨past', [], u⟩) (h : t.Alike mine roads u)
    (hall : ∀ a ∈ u.agents, mine a.id = true) (now : Time) :
    ∃ t' u', t.endActivities now = .ok t' ∧ u.endActivities now = .ok u' ∧
      Moment.Parted mine roads net ⟨past, [], t'⟩ ∧
      Moment.Parted mine roads net ⟨past', [], u'⟩ ∧ t'.Alike mine roads u' := by
  have hmine : ∀ e ∈ u.endQueue.entries, mine e.2 = true := by
    intro e he
    have hpos : 0 < (Moment.scheduled ⟨past', [], u⟩).count e := List.count_pos_iff.2 he
    rcases Claimed.exists_of_pos hm'.sound.listed hpos with ⟨a, hagent, hawaits⟩
    rw [Agent.id_of_awaits hawaits]
    exact hall a (Array.mem_of_getElem? hagent)
  have hdue : (u.endQueue.entries.takeWhile fun e => e.1 ≤ now) =
      (t.endQueue.entries.takeWhile fun e => e.1 ≤ now).filter fun e => mine e.2 := by
    rw [EndQueue.filter_due, h.schedule, ← EndQueue.filter_due]
    symm
    rw [List.filter_eq_self]
    exact fun e he => hmine e ((List.takeWhile_prefix _).subset he)
  have hdrained : Traffic.Alike mine roads { t with endQueue := (t.endQueue.drain now).2 }
      { u with endQueue := (u.endQueue.drain now).2 } := by
    refine ⟨h.agents, h.links, ?_, h.emitted⟩
    rw [EndQueue.filter_drain, h.schedule, ← EndQueue.filter_drain]
  have hcalled := hm.operation (Operation.drain : Operation net now _ _)
  have hcalled' := hm'.operation (Operation.drain : Operation net now _ _)
  rw [hdue] at hcalled'
  rcases hcalled.endAll hcalled' hdrained now with ⟨t', u', ht', hu', hdone⟩
  rw [← hdue] at hu'
  exact ⟨t', u', (t.endActivities_eq now).trans ht', (u.endActivities_eq now).trans hu', hdone⟩

/-! ## Turns of links -/

/-- The head of a link that the agents use has the same turn in both traffics. -/
theorem serveHead (hm : Moment.Parted mine roads net ⟨past, [], t⟩) (h : t.Alike mine roads u)
    (hl : roads l) (now : Time) :
    Both (Traffic.Alike.Turned mine roads) (t.serveHead net now l) (u.serveHead net now l) := by
  have hheads : u.queues.head? l = t.queues.head? l := by
    rw [QueueNetwork.head?, QueueNetwork.head?, h.links l hl]
  unfold Traffic.serveHead
  rw [hheads]
  cases hhead : t.queues.head? l with
  | none => exact .ok ⟨rfl, h⟩
  | some e =>
      by_cases hdue : e.earliestExit ≤ now
      · rcases hm.sound.exists_driver hhead with ⟨a, hagent, hstate, -, hlink⟩
        have hmine : mine a.id = true := (hm.roads_link hagent (.inr hstate)).1 (hlink ▸ hl)
        have hagent' : u.agent? e.vehicle.driver = some a := by
          rw [← h.agents _ (hm.sound.id_eq hagent ▸ hmine)]
          exact hagent
        simp only [hdue, if_true, hagent', show t.agent? e.vehicle.driver = some a from hagent]
        cases hchoose : a.chooseNext net with
        | none => exact .error _
        | some choice =>
            rcases choice with ⟨choice, kept⟩
            have hkept : mine kept.id = true := by
              rw [Agent.id_chooseNext hchoose]
              exact hmine
            cases choice with
            | link next =>
                have hnext := (hm.roads_next hagent hstate hchoose).2 hmine
                exact h.moveHead hkept hl hnext now
            | arrive => exact h.arriveHead hkept hl now
            | stuck reason => exact h.removeHead hkept hl reason now
      · simp only [hdue, if_false]
        exact .ok ⟨rfl, h⟩

/-- The turn of the head of another link makes no difference. -/
theorem alike_serveHead {left : Bool} (hm : Moment.Parted mine roads net ⟨past, [], t⟩)
    (hl : ¬ roads l) (h : t.serveHead net now l = .ok (left, u)) : t.Alike mine roads u := by
  unfold Traffic.serveHead at h
  cases hhead : t.queues.head? l with
  | none =>
      rw [hhead] at h
      cases h
      exact .refl t
  | some e =>
      simp only [hhead] at h
      by_cases hdue : e.earliestExit ≤ now
      · rcases hm.sound.exists_driver hhead with ⟨a, hagent, hstate, -, hlink⟩
        have hother : mine a.id = false := by
          rw [Bool.eq_false_iff]
          intro hmine
          exact hl (hlink ▸ (hm.roads_link hagent (.inr hstate)).2 hmine)
        simp only [hdue, if_true, show t.agent? e.vehicle.driver = some a from hagent] at h
        cases hchoose : a.chooseNext net with
        | none =>
            rw [hchoose] at h
            cases h
        | some choice =>
            rcases choice with ⟨choice, kept⟩
            rw [hchoose] at h
            have hkept : mine kept.id = false := by
              rw [Agent.id_chooseNext hchoose]
              exact hother
            cases choice with
            | link next =>
                have hnext : ¬ roads next := by
                  rw [hm.roads_next hagent hstate hchoose, hother]
                  exact Bool.false_ne_true
                exact Traffic.alike_moveHead hkept hl hnext h
            | arrive => exact Traffic.alike_arriveHead hkept hl h
            | stuck reason => exact Traffic.alike_removeHead hkept hl h
      · simp only [hdue, if_false] at h
        cases h
        exact .refl t

/-- So many turns of a link that the agents use. -/
theorem serveHeads (hm : Moment.Parted mine roads net ⟨past, [], t⟩)
    (hm' : Moment.Parted mine roads net ⟨past', [], u⟩) (h : t.Alike mine roads u)
    (hl : roads l) (now : Time) (turns : Nat) :
    ∃ t' u', t.serveHeads net now l turns = .ok t' ∧ u.serveHeads net now l turns = .ok u' ∧
      Moment.Parted mine roads net ⟨past, [], t'⟩ ∧
      Moment.Parted mine roads net ⟨past', [], u'⟩ ∧ t'.Alike mine roads u' := by
  induction turns generalizing t u with
  | zero => exact ⟨t, u, rfl, rfl, hm, hm', h⟩
  | succ turns ih =>
      rcases hm.sound.serveHead now l with ⟨left, t₁, ht₁, -, -⟩
      rcases hm'.sound.serveHead now l with ⟨left', u₁, hu₁, -, -⟩
      have hboth := hm.serveHead h hl now
      rw [ht₁, hu₁] at hboth
      cases hboth with
      | ok hturned =>
          rcases hturned with ⟨hleft, halike⟩
          simp only at hleft halike
          subst hleft
          have hnext := hm.operation (.serveHead ht₁)
          have hnext' := hm'.operation (.serveHead hu₁)
          simp only [Traffic.serveHeads, ht₁, hu₁]
          cases left with
          | false => exact ⟨t₁, u₁, rfl, rfl, hnext, hnext', halike⟩
          | true => exact ih hnext hnext' halike

/-- So many turns of another link. -/
theorem alike_serveHeads (hm : Moment.Parted mine roads net ⟨past, [], t⟩) (hl : ¬ roads l)
    (now : Time) (turns : Nat) :
    ∃ t', t.serveHeads net now l turns = .ok t' ∧
      Moment.Parted mine roads net ⟨past, [], t'⟩ ∧ t.Alike mine roads t' := by
  induction turns generalizing t with
  | zero => exact ⟨t, rfl, hm, .refl t⟩
  | succ turns ih =>
      rcases hm.sound.serveHead now l with ⟨left, t₁, ht₁, -, -⟩
      have hskip := hm.alike_serveHead hl ht₁
      have hnext := hm.operation (.serveHead ht₁)
      simp only [Traffic.serveHeads, ht₁]
      cases left with
      | false => exact ⟨t₁, rfl, hnext, hskip⟩
      | true =>
          rcases ih hnext with ⟨t', ht', hparted, halike⟩
          exact ⟨t', ht', hparted, hskip.trans halike⟩

/-- The heads of a link that the agents use can take as many turns in both traffics. -/
theorem turns_eq (hm : Moment.Parted mine roads net ⟨past, [], t⟩) (h : t.Alike mine roads u)
    (hl : roads l) (now : Time) : t.turns now l = u.turns now l := by
  unfold Traffic.turns
  rw [← h.links l hl]
  cases hq : t.queues.link? l with
  | none => rfl
  | some q =>
      have hturns : q.vehicles.foldr (fun v sum => t.turnsOf v + sum) 0 =
          q.vehicles.foldr (fun v sum => u.turnsOf v + sum) 0 := by
        apply List.foldr_ext
        intro v hv sum
        have hmine := (hm.mine_of_mem_queue hq hv).2 hl
        rw [Traffic.turnsOf, Traffic.turnsOf, h.agents _ hmine]
      simp only [Option.map_some, Option.getD_some, hturns]

/-- A link has its turns in both traffics. -/
theorem serveLink (hm : Moment.Parted mine roads net ⟨past, [], t⟩)
    (hm' : Moment.Parted mine roads net ⟨past', [], u⟩) (h : t.Alike mine roads u) (now : Time)
    (l : LinkId) :
    ∃ t' u', Traffic.serveLink net now t l = .ok t' ∧ Traffic.serveLink net now u l = .ok u' ∧
      Moment.Parted mine roads net ⟨past, [], t'⟩ ∧
      Moment.Parted mine roads net ⟨past', [], u'⟩ ∧ t'.Alike mine roads u' := by
  have hother : ∀ (hl : ¬ roads l) {past : List Event} {t : Traffic},
      Moment.Parted mine roads net ⟨past, [], t⟩ →
      ∃ t', Traffic.serveLink net now t l = .ok t' ∧
        Moment.Parted mine roads net ⟨past, [], t'⟩ ∧ t.Alike mine roads t' := by
    intro hl past t hm
    unfold Traffic.serveLink
    split
    · exact hm.alike_serveHeads hl now _
    · exact ⟨t, rfl, hm, .refl t⟩
  by_cases hl : roads l
  · have hdue : t.isDue now l = u.isDue now l := by
      rw [Traffic.isDue, Traffic.isDue, QueueNetwork.head?, QueueNetwork.head?, h.links l hl]
    unfold Traffic.serveLink
    rw [hdue, hm.turns_eq h hl]
    split
    · exact hm.serveHeads hm' h hl now _
    · exact ⟨t, u, rfl, rfl, hm, hm', h⟩
  · rcases hother hl hm with ⟨t', ht', hparted, halike⟩
    rcases hother hl hm' with ⟨u', hu', hparted', halike'⟩
    exact ⟨t', u', ht', hu', hparted, hparted', (halike.symm.trans h).trans halike'⟩

/-- The nodes are crossed in both traffics. -/
theorem crossNodes (hm : Moment.Parted mine roads net ⟨past, [], t⟩)
    (hm' : Moment.Parted mine roads net ⟨past', [], u⟩) (h : t.Alike mine roads u) (now : Time) :
    ∃ t' u', t.crossNodes net now = .ok t' ∧ u.crossNodes net now = .ok u' ∧
      Moment.Parted mine roads net ⟨past, [], t'⟩ ∧
      Moment.Parted mine roads net ⟨past', [], u'⟩ ∧ t'.Alike mine roads u' := by
  rw [Traffic.crossNodes_eq, Traffic.crossNodes_eq]
  generalize net.serviceOrder = links
  induction links generalizing t u with
  | nil => exact ⟨t, u, rfl, rfl, hm, hm', h⟩
  | cons l links ih =>
      rcases hm.serveLink hm' h now l with ⟨t₁, u₁, ht₁, hu₁, hparted, hparted', halike⟩
      rw [List.foldlM_cons, List.foldlM_cons, ht₁, hu₁]
      exact ih hparted hparted' halike

/-! ## A step -/

/-- The events of a step may be cleared. -/
theorem clearEvents (hm : Moment.Parted mine roads net ⟨past, [], t⟩) (past' : List Event) :
    Moment.Parted mine roads net ⟨past', [], t.clearEvents⟩ :=
  ⟨⟨hm.sound.numbered, hm.sound.coherent, hm.sound.known, hm.sound.stored, hm.sound.placed,
    hm.sound.listed⟩, hm.settled, hm.own⟩

/-- Without a replanner nobody replans. -/
theorem replanAgents (hm : Moment.Parted mine roads net ⟨past, [], t⟩) (now : Time) :
    t.replanAgents net now = .ok t := by
  apply Traffic.replanAgents_of_kept
  intro rep hrep
  rw [show t.replanner = none from hm.settled] at hrep
  cases hrep

/-- A step keeps two traffics alike, and what it tells of. -/
theorem step (hm : Moment.Parted mine roads net ⟨past, [], t⟩)
    (hm' : Moment.Parted mine roads net ⟨past', [], u⟩) (h : t.Alike mine roads u)
    (hall : ∀ a ∈ u.agents, mine a.id = true) (now : Time) :
    ∃ t' u', t.step net now = .ok t' ∧ u.step net now = .ok u' ∧ t'.Alike mine roads u' := by
  rcases (hm.clearEvents past).endActivities (hm'.clearEvents past') h.clearEvents hall now with
    ⟨t₁, u₁, ht₁, hu₁, hm₁, hm₁', h₁⟩
  have hupdated : (t₁.updateLinks now).Alike mine roads (u₁.updateLinks now) :=
    ⟨h₁.agents, h₁.links.update now, h₁.schedule, h₁.emitted⟩
  rcases (hm₁.operation .updateLinks).crossNodes (hm₁'.operation .updateLinks) hupdated now with
    ⟨t₂, u₂, ht₂, hu₂, hm₂, hm₂', h₂⟩
  refine ⟨t₂.countStep, u₂.countStep, ?_, ?_, ⟨h₂.agents, h₂.links, h₂.schedule, h₂.emitted⟩⟩
  · exact Traffic.step_of_phases ht₁ ht₂ (hm₂.replanAgents now)
  · exact Traffic.step_of_phases hu₁ hu₂ (hm₂'.replanAgents now)

end Moment.Parted

end TrafficQueue
