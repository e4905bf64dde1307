import TrafficQueue.Proofs.Network.Order
import TrafficQueue.Proofs.Simulation.Reached

/-!
# Nobody is held back without a cause

Once every link has had its turn, a head that is due and still there has a driver who
knows where to go.  If the flow of its link would let it leave, it waits for room on the
next link of its route: that link is full, or it has its turn later, and the vehicles
that leave it then make room too late.  What holds a head back when its link has had its
turn still does so at the end: the links that are served later only grow at the back, and
other drivers do not change.

Main results:

- Definitions `Agent.HeldAt` and `Traffic.AtRest`: the causes, and a link without a head
  that could go on.
- Theorem `Turn.atRest`: a link whose head does not leave is at rest.
- Definition `Traffic.HeadsServed`: the turns of a link, however many they are.
- Theorem `Simulation.InStep.serveHeads`: before the last moment of time no link has more turns than
  vehicles.
- Theorem `Turn.keeps_atRest`: a turn leaves the links before it at rest.
- Theorem `Simulation.held_with_cause`: all links are at rest when all have had their turn.
-/

namespace TrafficQueue

/-! ## Links at rest -/

/-- The driver of the head of a link waits with cause: it knows where to go on, and if the flow of
the link allows it to leave, it wants onto a link that is full or has its turn later. -/
def Agent.HeldAt (net : Network) (t : Traffic) (l : LinkId) (a : Agent) : Prop :=
  ∃ choice kept, a.chooseNext net = some (choice, kept) ∧ (∀ reason, choice ≠ .stuck reason) ∧
    ∀ q, t.queues.link? l = some q → q.flow.isOpen = true →
      ∃ m, choice = .link m ∧
        ((∃ r, t.queues.link? m = some r ∧ r.hasSpace = false) ∨ net.ServedBefore l m)

namespace Traffic

/-- If the head of the link is due, its driver waits with cause. -/
def AtRest (net : Network) (now : Time) (t : Traffic) (l : LinkId) : Prop :=
  ∀ e, t.queues.head? l = some e → e.earliestExit ≤ now →
    ∃ a, t.agent? e.vehicle.driver = some a ∧ a.HeldAt net t l

variable {net : Network} {now : Time} {t : Traffic} {l : LinkId}

/-- If the head is not due, nobody waits for a cause. -/
theorem atRest_of_not_due (h : t.isDue now l = false) : t.AtRest net now l := by
  intro e hhead hdue
  rw [isDue_iff.2 ⟨e, hhead, hdue⟩] at h
  cases h

end Traffic

namespace Agent

variable {net : Network} {a kept : Agent} {choice : NextLink} {route : Route}

/-- Without a link that was chosen before, the choice follows the route. -/
theorem chooseNext_of_continuation (hmemo : a.memo.next = none) (hroute : a.route? = some route)
    (h : a.continuation net (a.memo.via.getD route.via) route.destination = some choice) :
    a.chooseNext net = some (choice, a.keepChoice (a.memo.via.getD route.via) choice) := by
  simp only [chooseNext, hmemo, hroute, h, Option.map_some]

/-- What was chosen is chosen again. -/
theorem chooseNext_again (h : a.chooseNext net = some (choice, kept)) :
    ∃ again, kept.chooseNext net = some (choice, again) := by
  unfold chooseNext at h
  cases hmemo : a.memo.next with
  | some l =>
      simp only [hmemo, Option.some.injEq, Prod.mk.injEq] at h
      rcases h with ⟨rfl, rfl⟩
      exact ⟨_, chooseNext_kept hmemo net⟩
  | none =>
      cases hroute : a.route? with
      | none =>
          simp only [hmemo, hroute, Option.some.injEq, Prod.mk.injEq] at h
          rcases h with ⟨rfl, rfl⟩
          exact ⟨a, by simp only [chooseNext, hmemo, hroute]⟩
      | some route =>
          simp only [hmemo, hroute] at h
          rcases Option.map_eq_some_iff.1 h with ⟨chosen, hcont, hpair⟩
          simp only [Prod.mk.injEq] at hpair
          rcases hpair with ⟨rfl, rfl⟩
          cases chosen with
          | link m => exact ⟨_, chooseNext_kept rfl net⟩
          | arrive =>
              exact ⟨_, chooseNext_of_continuation (a := a.keepChoice _ .arrive) hmemo hroute hcont⟩
          | stuck reason =>
              exact ⟨_, chooseNext_of_continuation (a := a.keepChoice _ (.stuck reason)) hmemo
                hroute hcont⟩

end Agent

/-! ## Turns -/

section Turns

variable {net : Network} {now : Time} {past : List Event} {t t' : Traffic} {k l : LinkId}
  {a : Agent} {choice : NextLink} {left : Bool}

/-- The heads of two links have different drivers, since a driver is on one link only. -/
theorem Moment.Sound.driver_ne {m : Moment} {e e' : QueueEntry} (hm : m.Sound net)
    (h : m.traffic.queues.head? l = some e) (h' : m.traffic.queues.head? k = some e')
    (hne : k ≠ l) : e.vehicle.driver ≠ e'.vehicle.driver := by
  intro heq
  rcases hm.exists_driver h with ⟨a, ha, -, -, hlink⟩
  rcases hm.exists_driver h' with ⟨b, hb, -, -, hlink'⟩
  rw [← heq, ha] at hb
  cases hb
  exact hne (hlink'.symm.trans hlink)

/-- A head that stays waits with cause. -/
theorem Turn.atRest (h : Turn net now l t false t') (hm : Moment.Sound net ⟨past, [], t⟩) :
    t'.AtRest net now l := by
  cases h with
  | idle h => exact Traffic.atRest_of_not_due h
  | @act e a choice kept _ _ hhead hdue hagent hchoose hid hact =>
      cases hact with
      | @stay d hd hstay =>
          intro e' hhead' _
          cases hhead.symm.trans hhead'
          have hdriver : kept.id = e.vehicle.driver := hid.trans (hm.id_eq hagent)
          have hkept : (t.did kept []).agent? kept.id = some kept :=
            Traffic.agent_did (hdriver ▸ hagent) []
          rw [hdriver] at hkept
          rcases Agent.chooseNext_again hchoose with ⟨again, hagain⟩
          refine ⟨kept, hkept, choice, again, hagain, ?_, ?_⟩
          · rintro reason rfl
            cases hd
          · intro q hq hopen
            rcases QueueNetwork.head?_eq_some_iff.1 hhead with ⟨q', es, hq', hes⟩
            cases hq.symm.trans hq'
            have hroom := QueueNetwork.downstreamRoom_of_release_none hstay hq (by rw [hes]; rfl)
              hdue hopen
            cases choice with
            | link m =>
                cases hd
                refine ⟨m, rfl, .inl ?_⟩
                cases hr : t.queues.link? m with
                | none => simp [QueueNetwork.downstreamRoom, hr] at hroom
                | some r =>
                    rw [QueueNetwork.downstreamRoom_link hr, Except.ok.injEq] at hroom
                    exact ⟨r, hr, hroom⟩
            | arrive =>
                cases hd
                cases hroom
            | stuck reason => cases hd

/-- Only the driver of the head changes. -/
theorem Act.agents (h : Act now l a choice t left t') :
    ∃ b, t'.agents = t.agents.setIfInBounds a.id.index b := by
  cases h with
  | stay hd hstay => exact ⟨a, rfl⟩
  | leave hagents hqueues => exact ⟨_, hagents⟩

/-- Other links grow at most. -/
theorem Act.grows {q : LinkQueue Float} (h : Act now l a choice t left t') (hnow : now < .never)
    (hdelays : t.queues.Delays) (hk : k ≠ l) (hq : t.queues.link? k = some q) :
    ∃ q', t'.queues.link? k = some q' ∧ q.Grows now q' := by
  cases h with
  | stay hd hstay => exact ⟨q, hq, q.grows_self now⟩
  | leave hagents hqueues => exact hqueues.other hnow hdelays hk hq

/-- A turn leaves the links before it at rest. -/
theorem Turn.keeps_atRest (h : Turn net now l t left t') (hm : Moment.Sound net ⟨past, [], t⟩)
    (hnow : now < .never) (hdelays : t.queues.Delays) (hbefore : net.ServedBefore k l)
    (hrest : t.AtRest net now k) : t'.AtRest net now k := by
  cases h with
  | idle h => exact hrest
  | @act e a choice kept _ _ hhead hdue hagent hchoose hid hact =>
      intro e' hhead' hdue'
      rcases QueueNetwork.head?_eq_some_iff.1 hhead' with ⟨q', es, hq', hes⟩
      have hknown : net.hasLink k = true := by
        rcases hbefore with ⟨link, -, hlink, -⟩
        exact Network.hasLink_iff.2 ⟨link, hlink⟩
      rcases hm.exists_link? hknown with ⟨q, hq⟩
      rcases hact.grows hnow hdelays hbefore.ne hq with ⟨r, hr, hgrows⟩
      cases hq'.symm.trans hr
      have hhead₀ : t.queues.head? k = some e' := by
        rw [QueueNetwork.head?, hq]
        exact hgrows.head_of_due (by rw [hes]; rfl) hdue'
      have hother := hm.driver_ne hhead hhead₀ hbefore.ne
      have hsame : t'.agent? e'.vehicle.driver = t.agent? e'.vehicle.driver := by
        rcases hact.agents with ⟨b, hagents⟩
        rw [Traffic.agent?, hagents, hid, hm.id_eq hagent]
        exact Array.getElem?_setIfInBounds_ne fun heq => hother (Ident.ext heq)
      rcases hrest e' hhead₀ hdue' with ⟨a', hagent', choice', kept', hchoose', hknows, hcause⟩
      refine ⟨a', hsame.trans hagent', choice', kept', hchoose', hknows, ?_⟩
      intro r hr hopen
      cases hq'.symm.trans hr
      rw [hgrows.flow] at hopen
      rcases hcause q hq hopen with ⟨m, hnext, ⟨r, hr, hfull⟩ | hlater⟩
      · by_cases hml : m = l
        · exact ⟨m, hnext, .inr (hml ▸ hbefore)⟩
        · rcases hact.grows hnow hdelays hml hr with ⟨r', hr', hgrows'⟩
          exact ⟨m, hnext, .inl ⟨r', hr', hgrows'.full hfull⟩⟩
      · exact ⟨m, hnext, .inr hlater⟩

/-- A turn after which the head is gone leaves the rest of the queue, and what comes later is not
due. -/
theorem Turn.queue_of_left {q : LinkQueue Float} (h : Turn net now l t true t')
    (hnow : now < .never) (hdelays : t.queues.Delays) (hq : t.queues.link? l = some q) :
    ∃ e q' es, q.queue.head? = some e ∧ e.earliestExit ≤ now ∧ t'.queues.link? l = some q' ∧
      q'.queue = q.queue.tail ++ es ∧ ∀ e ∈ es, now < e.earliestExit := by
  cases h with
  | @act e _ _ _ _ _ hhead hdue hagent hchoose hid hact =>
      cases hact with
      | leave hagents hqueues =>
          rcases hqueues.own hnow hdelays hq with ⟨q', es, hq', hqueue, hlate⟩
          rw [QueueNetwork.head?, hq] at hhead
          exact ⟨e, q', es, hhead, hdue, hq', hqueue, hlate⟩

end Turns

/-! ## The links have their turns -/

namespace Traffic

/-- Heads of a link have their turns, however many there are, until one stays. -/
inductive HeadsServed (net : Network) (now : Time) (l : LinkId) : Traffic → Traffic → Prop where
  | stays {t t'} (h : t.serveHead net now l = .ok (false, t')) : HeadsServed net now l t t'
  | left {t u t'} (h : t.serveHead net now l = .ok (true, u)) (rest : HeadsServed net now l u t') :
      HeadsServed net now l t t'

/-- Links have their turns, one link after the other. -/
inductive LinksServed (net : Network) (now : Time) : List LinkId → Traffic → Traffic → Prop where
  | nil {t} : LinksServed net now [] t t
  | cons {l ls t u t'} (h : HeadsServed net now l t u) (rest : LinksServed net now ls u t') :
      LinksServed net now (l :: ls) t t'

/-- The turns of a link are over when its head is not due. -/
theorem headsServed_of_not_due {net : Network} {now : Time} {t : Traffic} {l : LinkId}
    (h : t.isDue now l = false) : HeadsServed net now l t t := by
  refine .stays ?_
  unfold serveHead
  cases hhead : t.queues.head? l with
  | none => rfl
  | some e => exact if_neg fun hdue => by simp [isDue_iff.2 ⟨e, hhead, hdue⟩] at h

end Traffic

/-- The nodes are served link by link. -/
theorem Traffic.crossNodes_eq (t : Traffic) (net : Network) (now : Time) :
    t.crossNodes net now = net.serviceOrder.foldlM (serveLink net now) t := by
  have hrows : ∀ (nodes : List NodeId) (t : Traffic),
      nodes.foldlM (fun t n => ((net.entering n).getD []).foldlM (serveLink net now) t) t =
        (nodes.flatMap fun n => (net.entering n).getD []).foldlM (serveLink net now) t := by
    intro nodes
    induction nodes with
    | nil => exact fun _ => rfl
    | cons n nodes ih =>
        intro t
        rw [List.foldlM_cons, List.flatMap_cons, List.foldlM_append]
        exact bind_congr fun u => ih u
  exact hrows _ t

namespace Simulation

variable {s : Simulation} {c : Config} {net : Network} {people : Population}
  {replanner : Option Replanner} {strategy : Option (AgentId → Person → Strategy)} {n : Nat}
  {t : Traffic} {l : LinkId}

/-- Traffic between two operations of a step. -/
def InStep (s : Simulation) (n : Nat) (t : Traffic) : Prop :=
  ∃ past, s.Passes n ⟨past, [], t⟩

/-- What a link has gained when it has had its turns: it is at rest, and so are the links before
it that were. -/
structure Served (s : Simulation) (n : Nat) (l : LinkId) (t t' : Traffic) : Prop where
  inStep : s.InStep n t'
  rest : t'.AtRest s.network (s.clock.advanceBy n).now l
  before : ∀ k, s.network.ServedBefore k l → t.AtRest s.network (s.clock.advanceBy n).now k →
    t'.AtRest s.network (s.clock.advanceBy n).now k

namespace InStep

/-- It takes at least a second to pass a link. -/
theorem delays (h : build c net people replanner strategy = .ok s) (ht : s.InStep n t) :
    t.queues.Delays := by
  rcases ht with ⟨past, hpass⟩
  have hm := hpass.sound (sound_first h)
  rw [network_of_build h] at hm
  exact hm.delays (hpass.reached h)

/-- The head of any link has its turn. -/
theorem turn (h : build c net people replanner strategy = .ok s) (ht : s.InStep n t) (l : LinkId) :
    ∃ past left u, Moment.Sound s.network ⟨past, [], t⟩ ∧
      t.serveHead s.network (s.clock.advanceBy n).now l = .ok (left, u) ∧
      Turn s.network (s.clock.advanceBy n).now l t left u ∧ s.InStep n u := by
  rcases ht with ⟨past, hpass⟩
  have hm := hpass.sound (sound_first h)
  rcases hm.serveHead (s.clock.advanceBy n).now l with ⟨left, u, hu, -, hturn⟩
  exact ⟨past, left, u, hm, hu, hturn, past, hpass.operation (.serveHead hu)⟩

/-- As many turns as there are entries that can be due are enough for a link: a vehicle that comes
back onto it is not due again. -/
theorem serveHeads (h : build c net people replanner strategy = .ok s)
    (hnow : (s.clock.advanceBy n).now < .never) (turns : Nat) {q : LinkQueue Float}
    {old new : List QueueEntry} (ht : s.InStep n t) (hq : t.queues.link? l = some q)
    (hqueue : q.queue = old ++ new)
    (hlate : ∀ e ∈ new, (s.clock.advanceBy n).now < e.earliestExit)
    (hturns : old.length ≤ turns) :
    ∃ t', t.serveHeads s.network (s.clock.advanceBy n).now l turns = .ok t' ∧
      Traffic.HeadsServed s.network (s.clock.advanceBy n).now l t t' := by
  induction turns generalizing t q old new with
  | zero =>
      have hold : old = [] := List.length_eq_zero_iff.1 (Nat.le_zero.1 hturns)
      rw [hold, List.nil_append] at hqueue
      refine ⟨t, rfl, Traffic.headsServed_of_not_due (Bool.eq_false_iff.2 fun hdue => ?_)⟩
      rcases Traffic.isDue_iff.1 hdue with ⟨e, hhead, hexit⟩
      rw [QueueNetwork.head?, hq] at hhead
      exact Nat.not_lt_of_le hexit (hlate e (hqueue ▸ List.mem_of_head? hhead))
  | succ turns ih =>
      rcases ht.turn h l with ⟨-, left, u, -, hu, hturn, hstep⟩
      unfold Traffic.serveHeads
      rw [hu]
      cases left with
      | false => exact ⟨u, rfl, .stays hu⟩
      | true =>
          rcases hturn.queue_of_left hnow (ht.delays h) hq with
            ⟨e, q', es, hhead, hdue, hq', hrest, hes⟩
          cases old with
          | nil =>
              rw [hqueue, List.nil_append] at hhead
              exact (Nat.not_lt_of_le hdue (hlate e (List.mem_of_head? hhead))).elim
          | cons first old =>
              rw [hqueue, List.cons_append, List.tail_cons, List.append_assoc] at hrest
              rcases ih hstep hq' hrest (List.forall_mem_append.2 ⟨hlate, hes⟩)
                (Nat.le_of_succ_le_succ hturns) with ⟨t', ht', hserved⟩
              exact ⟨t', ht', .left hu hserved⟩

/-- A link has all its turns. -/
theorem serveLink (h : build c net people replanner strategy = .ok s)
    (hnow : (s.clock.advanceBy n).now < .never) (ht : s.InStep n t) (l : LinkId) :
    ∃ t', t.serveLink s.network (s.clock.advanceBy n).now l = .ok t' ∧
      Traffic.HeadsServed s.network (s.clock.advanceBy n).now l t t' := by
  unfold Traffic.serveLink
  split
  · rename_i hdue
    have hnever : (s.clock.advanceBy n).now ≠ .never := by
      intro heq
      rw [heq] at hnow
      exact Nat.lt_irrefl _ hnow
    rcases Traffic.isDue_iff.1 hdue with ⟨e, hhead, -⟩
    rcases QueueNetwork.head?_eq_some_iff.1 hhead with ⟨q, -, hq, -⟩
    refine serveHeads h hnow _ ht hq (List.append_nil _).symm (List.forall_mem_nil _) ?_
    simp [Traffic.turns, hnever, hq, LinkQueue.vehicles]
  · rename_i hdue
    exact ⟨t, rfl, Traffic.headsServed_of_not_due (by simpa using hdue)⟩

/-- A link that has had its turns is at rest, and those before it still are. -/
theorem served (h : build c net people replanner strategy = .ok s)
    (hnow : (s.clock.advanceBy n).now < .never) {t' : Traffic}
    (hserved : Traffic.HeadsServed s.network (s.clock.advanceBy n).now l t t')
    (ht : s.InStep n t) : Served s n l t t' := by
  induction hserved with
  | @stays t t' hstays =>
      rcases ht.turn h l with ⟨past, left, u, hm, hu, hturn, hstep⟩
      cases hstays.symm.trans hu
      exact ⟨hstep, hturn.atRest hm,
        fun k hk hrest => hturn.keeps_atRest hm hnow (ht.delays h) hk hrest⟩
  | @left t u t' hleft _ ih =>
      rcases ht.turn h l with ⟨past, left, u', hm, hu, hturn, hstep⟩
      cases hleft.symm.trans hu
      have hlater := ih hstep
      exact ⟨hlater.inStep, hlater.rest, fun k hk hrest =>
        hlater.before k hk (hturn.keeps_atRest hm hnow (ht.delays h) hk hrest)⟩

/-- Any links have all their turns. -/
theorem serveLinks (h : build c net people replanner strategy = .ok s)
    (hnow : (s.clock.advanceBy n).now < .never) (ht : s.InStep n t) (links : List LinkId) :
    ∃ t', links.foldlM (Traffic.serveLink s.network (s.clock.advanceBy n).now) t = .ok t' ∧
      Traffic.LinksServed s.network (s.clock.advanceBy n).now links t t' ∧ s.InStep n t' := by
  induction links generalizing t with
  | nil => exact ⟨t, rfl, .nil, ht⟩
  | cons l links ih =>
      rcases ht.serveLink h hnow l with ⟨u, hu, hserved⟩
      rcases ih (served h hnow hserved ht).inStep with ⟨t', ht', hrest, hstep⟩
      refine ⟨t', ?_, .cons hserved hrest, hstep⟩
      rw [List.foldlM_cons, hu]
      exact ht'

/-- When all links have had their turns, all of them are at rest. -/
theorem crossNodes {b : NetworkBuilder} (hnet : b.build = .ok net)
    (h : build c net people replanner strategy = .ok s)
    (hnow : (s.clock.advanceBy n).now < .never) (ht : s.InStep n t) :
    ∃ t', t.crossNodes s.network (s.clock.advanceBy n).now = .ok t' ∧ s.InStep n t' ∧
      ∀ l, s.network.hasLink l = true → t'.AtRest s.network (s.clock.advanceBy n).now l := by
  have hnetwork := network_of_build h
  rw [Traffic.crossNodes_eq]
  have hfold := exists_foldlM
    (f := Traffic.serveLink s.network (s.clock.advanceBy n).now)
    (P := fun rest u => s.InStep n u ∧ ∃ done, s.network.serviceOrder = done ++ rest ∧
      ∀ k ∈ done, u.AtRest s.network (s.clock.advanceBy n).now k) ?_
    s.network.serviceOrder t ⟨ht, [], rfl, List.forall_mem_nil _⟩
  · rcases hfold with ⟨t', ht', hstep, done, hdone, hrest⟩
    refine ⟨t', ht', hstep, fun l hl => hrest l ?_⟩
    rw [hnetwork] at hl hdone
    rw [List.append_nil] at hdone
    rw [← hdone]
    exact NetworkBuilder.mem_serviceOrder hnet hl
  · rintro l rest u ⟨hu, done, hdone, hrest⟩
    have horder := NetworkBuilder.pairwise_serviceOrder hnet
    rw [← hnetwork, hdone, List.pairwise_append] at horder
    rcases hu.serveLink h hnow l with ⟨u', hu', hturns⟩
    have hserved := served h hnow hturns hu
    refine ⟨u', hu', hserved.inStep, done ++ [l], by simp [hdone], ?_⟩
    rw [List.forall_mem_append, List.forall_mem_singleton]
    refine ⟨fun k hk => ?_, hserved.rest⟩
    exact hserved.before k (horder.2.2 k hk l List.mem_cons_self) (hrest k hk)

end InStep

end Simulation

/-! ## In every step -/

namespace Simulation

/-- In every step before the last moment of time, when all links have had their turns, a head that
is due has a driver who knows where to go on.  If the flow of its link would let it leave, it wants
onto a link that is full, or that had its turn later: it ends at a later node, or at the same node
and has a larger number. -/
theorem held_with_cause {b : NetworkBuilder} {c : Config} {net : Network} {people : Population}
    {replanner : Option Replanner} {strategy : Option (AgentId → Person → Strategy)}
    {s : Simulation} {n : Nat} (hnet : b.build = .ok net)
    (h : build c net people replanner strategy = .ok s)
    (hnow : (s.clock.advanceBy n).now < .never) :
    ∃ t served, s.history n = .ok t ∧ t.now = (s.clock.advanceBy n).now ∧
      t.traffic.afterNodes net t.now = .ok served ∧
      t.traffic.step net t.now = (served.replanAgents net t.now).map Traffic.countStep ∧
      ∀ l e, served.queues.head? l = some e → e.earliestExit ≤ t.now →
        ∃ a, served.agent? e.vehicle.driver = some a ∧ a.HeldAt net served l := by
  have hs := sound_first h
  have hnetwork := network_of_build h
  rcases exists_recorded hs n with ⟨r, -, hr⟩
  have hclock : r.simulation.now = (s.clock.advanceBy n).now := by
    rw [now, (clock_history hr.history).1]
  rcases (hr.passes.sound hs).endActivities (s.clock.advanceBy n).now with ⟨ended, hended, hops, -⟩
  have hupdated : s.InStep n (ended.updateLinks (s.clock.advanceBy n).now) :=
    ⟨_, (hr.passes.operations hops).operation .updateLinks⟩
  rcases hupdated.crossNodes hnet h hnow with ⟨served, hserved, ⟨past, hpass⟩, hrest⟩
  rw [hnetwork] at hserved hrest
  have hafter : r.simulation.traffic.afterNodes net r.simulation.now = .ok served := by
    rw [hclock]
    unfold Traffic.afterNodes
    rw [hended]
    exact hserved
  refine ⟨r.simulation, served, hr.history, hclock, hafter, ?_, ?_⟩
  · rw [Traffic.step_eq, hafter]
    rfl
  · intro l e hhead hdue
    rcases QueueNetwork.head?_eq_some_iff.1 hhead with ⟨q, -, hq, -⟩
    have hknown : net.hasLink l = true := hnetwork ▸ (hpass.sound hs).hasLink_of_link? hq
    rw [hclock] at hdue
    exact hrest l hknown e hhead hdue

/-- In the jam both commuters are due, and each waits for the road on which the other is. -/
theorem held_with_cause_jam :
    Commuter.roads.build = .ok Commuter.net ∧
      build {} Commuter.net Commuter.pair none none = .ok Commuter.jam ∧
      (Commuter.jam.clock.advanceBy 21).now < .never ∧
      ∃ t served, Commuter.jam.history 21 = .ok t ∧
        t.traffic.afterNodes Commuter.net t.now = .ok served ∧
        (∃ a, served.agent? ⟨1⟩ = some a ∧ a.HeldAt Commuter.net served ⟨0⟩) ∧
        ∃ a, served.agent? ⟨0⟩ = some a ∧ a.HeldAt Commuter.net served ⟨1⟩ := by
  have hnow : (Commuter.jam.clock.advanceBy 21).now < .never := by
    decide
  rcases held_with_cause Commuter.build_roads Commuter.build_jam hnow with
    ⟨t, served, ht, hclock, hserved, -, hheld⟩
  have hheads : ((Commuter.jam.history 21).toOption.bind fun t =>
      (t.traffic.afterNodes Commuter.net t.now).toOption.map fun u =>
        (u.queues.head? ⟨0⟩, u.queues.head? ⟨1⟩)) =
      some (some ⟨⟨⟨1⟩, ⟨1⟩⟩, .ofSecs 11, .ofSecs 21⟩,
        some ⟨⟨⟨0⟩, ⟨0⟩⟩, .ofSecs 10, .ofSecs 20⟩) := by
    decide +kernel
  simp only [ht, hserved, Except.toOption, Option.bind_some, Option.map_some, Option.some.injEq,
    Prod.mk.injEq] at hheads
  have hdue : ∀ secs ≤ 21, Time.ofSecs secs ≤ t.now := by
    rw [hclock]
    decide
  exact ⟨Commuter.build_roads, Commuter.build_jam, hnow, t, served, ht, hserved,
    hheld _ _ hheads.1 (hdue 21 (by decide)), hheld _ _ hheads.2 (hdue 20 (by decide))⟩

end Simulation

end TrafficQueue
