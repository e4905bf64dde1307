import TrafficQueue.Agent.Execution
import TrafficQueue.Proofs.Plan.Fitting
import TrafficQueue.Proofs.Plan.Splicing
import TrafficQueue.Replanning.Replanner

/-!
# The position of an agent

Between the operations of a step an agent is at an activity, on its way or
removed.  At an activity it is on the link of that activity; on its way it is on
the link that the full sequence of its route has at its route index, and what it
keeps from its last choice agrees with the route.

Main results:

- Definition `Agent.Coherent`: the position that every operation keeps.
- Theorem `Agent.OnRoute.exists_chooseNext`: an agent on its way has a choice.
- Theorem `Agent.OnRoute.continuation_spec`: what the choice means on the route.
- Theorem `Replanner.replan_cases`: what a replaced route keeps.
-/

namespace TrafficQueue

namespace Network

variable {net : Network} {a b : LinkId}

/-- Of any two links of a network it is known whether one leads to the other. -/
theorem exists_connects (ha : net.hasLink a = true) (hb : net.hasLink b = true) :
    ∃ reached, net.connects a b = some reached := by
  rcases hasLink_iff.1 ha with ⟨first, hfirst⟩
  rcases hasLink_iff.1 hb with ⟨second, hsecond⟩
  exact ⟨first.target = second.source, by simp [connects, hfirst, hsecond]⟩

end Network

namespace Agent

variable {net : Network} {a kept : Agent} {r : Route} {now : Time}

/-- The agent travels a route and has come as far as its route index says. -/
structure OnRoute (net : Network) (a : Agent) (r : Route) : Prop where
  route : a.route? = some r
  leaves : r.isSameLink = false
  position : r.full[a.routeIndex]? = some a.link
  memo_via : ∀ via, a.memo.via = some via → via = r.via
  memo_next : ∀ l, a.memo.next = some l →
    a.continuation net r.via r.destination = some (.link l)

/-- What the state of an agent says about its position; no operation ends in the states in
between. -/
def InPlace (net : Network) (a : Agent) : Prop :=
  match a.state with
  | .atActivity => a.plan.linkAt a.element = some a.link
  | .enRoute => ∃ r, a.OnRoute net r
  | .removed _ => True
  | .departing => False
  | .arriving => False

/-- The plan of the agent fits the network and the agent is in its place. -/
structure Coherent (net : Network) (a : Agent) : Prop where
  plan : a.plan.Fits net
  place : a.InPlace net

/-- At an activity an agent is on the link of the activity. -/
theorem InPlace.atActivity (h : a.InPlace net) (hstate : a.state = .atActivity) :
    a.plan.linkAt a.element = some a.link := by
  simpa [InPlace, hstate] using h

/-- On the road an agent is on its route. -/
theorem InPlace.enRoute (h : a.InPlace net) (hstate : a.state = .enRoute) :
    ∃ r, a.OnRoute net r := by
  simpa [InPlace, hstate] using h

/-- The three states in which an agent is found. -/
theorem InPlace.state_cases (h : a.InPlace net) :
    a.state = .atActivity ∨ a.state = .enRoute ∨ ∃ how, a.state = .removed how := by
  cases hs : a.state with
  | atActivity => exact .inl rfl
  | enRoute => exact .inr (.inl rfl)
  | removed how => exact .inr (.inr ⟨how, rfl⟩)
  | departing => simp [InPlace, hs] at h
  | arriving => simp [InPlace, hs] at h

/-- Who is out of the simulation is nowhere out of place. -/
theorem coherent_of_removed {how : Removal} (hplan : a.plan.Fits net)
    (hstate : a.state = .removed how) : a.Coherent net :=
  ⟨hplan, by simp [InPlace, hstate]⟩

/-! ## On the route -/

namespace OnRoute

/-- The links of a route that fits are links of the network. -/
theorem hasLink (h : a.OnRoute net r) (hplan : a.plan.Fits net) {l : LinkId}
    (hl : l ∈ r.full) : net.hasLink l = true :=
  (hplan.route a.element r h.route).1 l (Route.mem_full_iff.1 hl)

/-- The agent's link is one of its route. -/
theorem link_mem (h : a.OnRoute net r) : a.link ∈ r.full :=
  List.mem_of_getElem? h.position

/-- The position on a route is that of one of its links. -/
theorem routeIndex_le (h : a.OnRoute net r) : a.routeIndex ≤ r.via.length + 1 := by
  have hlt := (List.getElem?_eq_some_iff.1 h.position).1
  rw [Route.full_eq_of_not_sameLink h.leaves] at hlt
  simp only [List.length_cons, List.length_append, List.length_nil] at hlt
  omega

/-- Past the listed links an agent that is not on its destination is on the last of them. -/
theorem routeIndex_of_ne (h : a.OnRoute net r) (hge : r.via.length ≤ a.routeIndex)
    (hne : a.link ≠ r.destination) : a.routeIndex = r.via.length := by
  have hle := h.routeIndex_le
  by_contra hother
  have hindex : a.routeIndex = r.via.length + 1 := by omega
  have hposition := h.position
  rw [Route.full_eq_of_not_sameLink h.leaves, hindex] at hposition
  simp only [List.getElem?_cons_succ, List.getElem?_concat_length,
    Option.some.injEq] at hposition
  exact hne hposition.symm

/-- The link after the position is the next listed one, or the destination after all of them. -/
theorem full_succ (h : a.OnRoute net r) :
    r.full[a.routeIndex + 1]? = (r.via ++ [r.destination])[a.routeIndex]? := by
  rw [Route.full_eq_of_not_sameLink h.leaves, List.getElem?_cons_succ]

/-- Where the route can go on from the agent's link: to the link after its position, to the end of
the leg on the destination, or nowhere. -/
theorem continuation_spec (h : a.OnRoute net r) {next : NextLink}
    (hnext : a.continuation net r.via r.destination = some next) :
    match next with
    | .link m => r.full[a.routeIndex + 1]? = some m ∧ net.connects a.link m = some true
    | .arrive => a.link = r.destination
    | .stuck reason => reason ≠ .missingRoute := by
  unfold continuation at hnext
  cases hvia : r.via[a.routeIndex]? with
  | some listed =>
      have hlt := (List.getElem?_eq_some_iff.1 hvia).1
      have hfull : r.full[a.routeIndex + 1]? = some listed := by
        rw [h.full_succ, List.getElem?_append_left hlt, hvia]
      simp only [hvia] at hnext
      rcases Option.map_eq_some_iff.1 hnext with ⟨reached, hreached, rfl⟩
      cases reached
      · simp
      · exact ⟨hfull, hreached⟩
  | none =>
      have hge := List.getElem?_eq_none_iff.1 hvia
      simp only [hvia] at hnext
      split at hnext
      · cases hnext
        assumption
      · rename_i hne
        have hlast := h.routeIndex_of_ne hge hne
        have hfull : r.full[a.routeIndex + 1]? = some r.destination := by
          rw [h.full_succ, hlast, List.getElem?_concat_length]
        rcases Option.map_eq_some_iff.1 hnext with ⟨reached, hreached, rfl⟩
        cases reached
        · simp
        · exact ⟨hfull, hreached⟩

/-- The links of a fitting plan are known, so the route goes on somewhere or ends. -/
theorem exists_continuation (h : a.OnRoute net r) (hplan : a.plan.Fits net) :
    ∃ next, a.continuation net r.via r.destination = some next := by
  have hlink := h.hasLink hplan h.link_mem
  have hnamed := (hplan.route a.element r h.route).1
  unfold continuation
  cases hvia : r.via[a.routeIndex]? with
  | some listed =>
      have hlisted : net.hasLink listed = true :=
        hnamed listed (by simp [Route.named, List.mem_of_getElem? hvia])
      rcases Network.exists_connects hlink hlisted with ⟨reached, hreached⟩
      simp [hreached]
  | none =>
      have hdest : net.hasLink r.destination = true := hnamed _ (by simp [Route.named])
      rcases Network.exists_connects hlink hdest with ⟨reached, hreached⟩
      simp only [hreached]
      split <;> exact ⟨_, rfl⟩

/-- Keeping what was chosen does not move the agent, and the choice follows the route. -/
theorem of_chooseNext (h : a.OnRoute net r) {next : NextLink}
    (hchoose : a.chooseNext net = some (next, kept)) :
    kept = { a with memo := kept.memo } ∧
      a.continuation net r.via r.destination = some next ∧ kept.OnRoute net r := by
  unfold chooseNext at hchoose
  cases hmemo : a.memo.next with
  | some l =>
      simp only [hmemo, Option.some.injEq, Prod.mk.injEq] at hchoose
      rcases hchoose with ⟨rfl, rfl⟩
      exact ⟨rfl, h.memo_next l hmemo, h⟩
  | none =>
      have hvia : a.memo.via.getD r.via = r.via := by
        cases hv : a.memo.via with
        | none => rfl
        | some via => exact h.memo_via via hv
      simp only [hmemo, h.route, hvia] at hchoose
      rcases Option.map_eq_some_iff.1 hchoose with ⟨chosen, hcont, hpair⟩
      simp only [Prod.mk.injEq] at hpair
      rcases hpair with ⟨rfl, rfl⟩
      refine ⟨?_, hcont, ?_⟩
      · cases chosen <;> rfl
      · cases chosen with
        | link l =>
            refine ⟨h.route, h.leaves, h.position, ?_, ?_⟩
            · rintro via ⟨⟩
              rfl
            · rintro l' ⟨⟩
              exact hcont
        | arrive =>
            refine ⟨h.route, h.leaves, h.position, ?_, ?_⟩
            · rintro via ⟨⟩
              rfl
            · exact h.memo_next
        | stuck reason =>
            refine ⟨h.route, h.leaves, h.position, ?_, ?_⟩
            · rintro via ⟨⟩
              rfl
            · exact h.memo_next

/-- An agent on its way has a choice. -/
theorem exists_chooseNext (h : a.OnRoute net r) (hplan : a.plan.Fits net) :
    ∃ next kept, a.chooseNext net = some (next, kept) := by
  unfold chooseNext
  cases hmemo : a.memo.next with
  | some l => exact ⟨_, _, rfl⟩
  | none =>
      have hvia : a.memo.via.getD r.via = r.via := by
        cases hv : a.memo.via with
        | none => rfl
        | some via => exact h.memo_via via hv
      rcases h.exists_continuation hplan with ⟨next, hnext⟩
      simp [h.route, hvia, hnext]

end OnRoute

end Agent

/-! ## Another route for the rest of the leg -/

namespace Replanner

variable {net : Network} {a : Agent} {now : Time} {rep : Replanner} {old offer : Route}
  {done : Replanned}

/-- Who may be given another route: it follows a changing plan, is on the way to another link and
has had no other route for long enough. -/
theorem isEligible_iff :
    rep.isEligible a now = true ↔
      a.strategy = .withinDay ∧ a.state = .enRoute ∧
        (∃ d, a.destination? = some d ∧ d ≠ a.link) ∧
        a.lastReplan.offset rep.rule.interval ≤ now := by
  unfold isEligible Strategy.allowsReplanning Agent.isEnRoute ReplanRule.isElapsed
  cases a.destination? <;> simp [and_assoc]

/-- An offer is one that the provider makes and that fits. -/
theorem offer?_eq_some_iff :
    rep.offer? a net now = some offer ↔
      ∃ d, a.destination? = some d ∧ rep.provider a.link d ⟨now, a.id⟩ = some offer ∧
        isFitting net a d offer = true := by
  unfold offer?
  cases a.destination? <;> simp [Option.filter_eq_some_iff]

/-- The outcome of replacing the route of the agent's leg, which is travelled by `mode`. -/
def replaced (rep : Replanner) (a : Agent) (now : Time) (mode : Mode) (route : Route) :
    Replanned where
  replanner := { rep with replans := rep.replans + 1 }
  agent :=
    { a with
      plan := ⟨a.plan.elements.set a.element (.leg ⟨mode, some route⟩)⟩
      memo := {}
      lastReplan := now }
  event := a.event now (.replan route.full)

/-- An offer is committed if the old route can be spliced with it. -/
theorem commit_eq_ok_iff :
    rep.commit a offer now = .ok done ↔
      ∃ mode old route, a.leg? = some ⟨mode, some old⟩ ∧
        old.splice a.routeIndex offer = .ok route ∧ done = rep.replaced a now mode route := by
  unfold commit Agent.route?
  rcases hleg : a.leg? with _ | ⟨mode, _ | old⟩
  · simp
  · simp
  · have hplan : ∀ route, a.plan.withRoute a.element route =
        .ok ⟨a.plan.elements.set a.element (.leg ⟨mode, some route⟩)⟩ :=
      fun route => Plan.withRoute_eq_ok_iff.2 ⟨_, hleg, rfl⟩
    cases hsplice : old.splice a.routeIndex offer with
    | error e => simp [hsplice, Except.mapError, bind, Except.bind]
    | ok route =>
        simp [hsplice, hplan, Except.mapError, bind, Except.bind, pure, Except.pure, replaced,
          Agent.adopt, Agent.markReplanned, eq_comm]

/-- A fitting offer for an agent that is not on its destination can be taken over: the traversed
links stay, and the route keeps its ends. -/
theorem exists_commit (rep : Replanner) (now : Time) (h : a.OnRoute net old)
    (hplan : a.plan.Fits net) (hfit : isFitting net a old.destination offer = true)
    (hne : old.destination ≠ a.link) :
    ∃ route plan,
      rep.commit a offer now = .ok
        { replanner := { rep with replans := rep.replans + 1 }
          agent := { a with plan, memo := {}, lastReplan := now }
          event := a.event now (.replan route.full) } ∧
      a.plan.withRoute a.element route = .ok plan ∧ plan.Fits net ∧
      route.full = old.full.take (a.routeIndex + 1) ++ offer.full.tail ∧
      route.isSameLink = false := by
  rcases isFitting_iff.1 hfit with ⟨ho, hd, hknown⟩
  rcases Route.exists_splice h.position ho (by rwa [hd]) with
    ⟨route, hsplice, hfull, horigin, hdest, hleaves⟩
  rcases Plan.route?_eq_some_iff.1 h.route with ⟨⟨mode, _⟩, hleg, rfl⟩
  have hwith : a.plan.withRoute a.element route =
      .ok ⟨a.plan.elements.set a.element (.leg ⟨mode, some route⟩)⟩ :=
    Plan.withRoute_eq_ok_iff.2 ⟨_, hleg, rfl⟩
  have hnamed : ∀ l ∈ route.named, net.hasLink l = true := by
    intro l hl
    rw [← Route.mem_full_iff, hfull, List.mem_append] at hl
    rcases hl with hl | hl
    · exact h.hasLink hplan (List.mem_of_mem_take hl)
    · exact hknown l (List.mem_of_mem_tail hl)
  have hfits := hplan.withRoute h.route hwith hnamed horigin (hdest.trans hd)
  exact ⟨route, _, commit_eq_ok_iff.2 ⟨mode, old, route, hleg, hsplice, rfl⟩, hwith, hfits, hfull,
    hleaves⟩

/-- Either nothing happens, or the rest of the route is replaced: the agent was allowed to change
it and has come as far on the new route as on the old one.  There is no error. -/
theorem replan_cases (h : a.Coherent net) (rep : Replanner) (now : Time) :
    rep.replan a net now = .ok none ∨
      ∃ old route plan,
        rep.replan a net now = .ok (some
          { replanner := { rep with replans := rep.replans + 1 }
            agent := { a with plan, memo := {}, lastReplan := now }
            event := a.event now (.replan route.full) }) ∧
        rep.isEligible a now = true ∧ a.OnRoute net old ∧
        a.plan.withRoute a.element route = .ok plan ∧ plan.Fits net ∧
        Agent.OnRoute net { a with plan, memo := {}, lastReplan := now } route ∧
        route.full.take (a.routeIndex + 1) = old.full.take (a.routeIndex + 1) ∧
        ∃ offer, rep.offer? a net now = some offer ∧
          route.full = old.full.take (a.routeIndex + 1) ++ offer.full.tail := by
  unfold replan
  split
  · rename_i hmay
    rw [Bool.and_eq_true] at hmay
    rcases isEligible_iff.1 hmay.1 with ⟨-, hstate, ⟨d, hd, hne⟩, -⟩
    rcases h.place.enRoute hstate with ⟨old, hold⟩
    have hdest : d = old.destination := by
      simpa [Agent.destination?, hold.route] using hd.symm
    subst hdest
    split
    · rename_i offer hoffer
      rcases offer?_eq_some_iff.1 hoffer with ⟨d, hd', -, hfit⟩
      cases hd.symm.trans hd'
      rcases exists_commit rep now hold h.plan hfit hne with
        ⟨route, plan, hcommit, hwith, hfits, hfull, hleaves⟩
      have hlt := (List.getElem?_eq_some_iff.1 hold.position).1
      have htake : route.full.take (a.routeIndex + 1) = old.full.take (a.routeIndex + 1) := by
        rw [hfull, List.take_append_of_le_length (by simp; omega), List.take_take, Nat.min_self]
      have hposition : route.full[a.routeIndex]? = some a.link := by
        have hindex := congrArg (·[a.routeIndex]?) htake
        simp only [List.getElem?_take, Nat.lt_succ_self, if_true] at hindex
        exact hindex.trans hold.position
      refine .inr ⟨old, route, plan, ?_, hmay.1, hold, hwith, hfits, ?_, htake, offer, hoffer,
        hfull⟩
      · rw [hcommit]
        rfl
      · refine ⟨Plan.route?_withRoute_self hwith, hleaves, hposition, ?_, ?_⟩
        · rintro via ⟨⟩
        · rintro l ⟨⟩
    · exact .inl rfl
  · exact .inl rfl

end Replanner

end TrafficQueue
