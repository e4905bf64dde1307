import TrafficQueue.Proofs.Agent.Deed
import TrafficQueue.Proofs.Queue.FreeFlow

/-!
# Visits to links

On a leg an agent visits one link after the other.  A visit begins when the agent comes
onto the link, by its departure or by entering, and is over when it goes off the link,
by leaving, arriving or getting stuck.  A leg that stays on its link is over at once and
visits nothing.

Main results:

- Definitions `Visiting` and `Visited`: the visits that go on and those that are over, as
  events tell of them.
- Theorems `visiting_concat` and `visited_concat`: what one event more makes of them.
- Theorem `Deed.dwells`: every deed goes on with visits that take the free-flow time.
-/

namespace TrafficQueue

namespace EventKind

/-- A vehicle leaves a link. -/
def isLinkLeave : EventKind → Bool
  | .linkLeave _ => true
  | _ => false

/-- The agent comes onto the link of the event. -/
def comesOn (k : EventKind) : Bool := k.isDeparture || k.isLinkEnter

/-- The agent goes off the link of the event. -/
def goesOff (k : EventKind) : Bool := k.isLinkLeave || k.isArrival || k.isStuck

end EventKind

/-- Whether the leg at a position stays on one link. -/
def Plan.staysAt (p : Plan) (i : Nat) : Bool := (p.route? i).any Route.isSameLink

/-! ## Visits told of by events -/

section Told

variable {p : Plan} {es : List Event} {e f x : Event}

/-- The event brings its agent onto a link, on a leg that does not stay there.  The legs that
begin stand at the positions one, three and so on of the plan. -/
def ComesOn (p : Plan) (before : List Event) (e : Event) : Prop :=
  e.kind.isLinkEnter = true ∨
    e.kind.isDeparture = true ∧
      p.staysAt (2 * before.countP (fun f => f.kind.isDeparture) + 1) = false

/-- The visit that begins with an event goes on. -/
def Visiting (p : Plan) (es : List Event) (e : Event) : Prop :=
  ∃ before since, es = before ++ e :: since ∧ ComesOn p before e ∧
    ∀ g ∈ since, g.kind.goesOff = false

/-- The visit that begins with the first event is over with the second. -/
def Visited (p : Plan) (es : List Event) (e f : Event) : Prop :=
  ∃ before since after, es = before ++ e :: (since ++ f :: after) ∧ ComesOn p before e ∧
    (∀ g ∈ since, g.kind.goesOff = false) ∧ f.kind.goesOff = true

/-- Who comes onto a link comes on. -/
theorem ComesOn.comesOn {before : List Event} (h : ComesOn p before e) :
    e.kind.comesOn = true := by
  rw [EventKind.comesOn, Bool.or_eq_true]
  rcases h with henter | ⟨hdeparture, -⟩
  · exact .inr henter
  · exact .inl hdeparture

/-- One event more ends the visits that went on, or lets them go on; it may begin another. -/
theorem visiting_concat :
    Visiting p (es ++ [x]) e ↔
      (Visiting p es e ∧ x.kind.goesOff = false) ∨ (e = x ∧ ComesOn p es x) := by
  constructor
  · rintro ⟨before, since, hes, hcomes, hsince⟩
    rcases concat_eq_cases hes with ⟨rfl, rfl, -⟩ | ⟨since, rfl, rfl⟩
    · exact .inr ⟨rfl, hcomes⟩
    · rw [List.forall_mem_append, List.forall_mem_singleton] at hsince
      exact .inl ⟨⟨before, since, rfl, hcomes, hsince.1⟩, hsince.2⟩
  · rintro (⟨⟨before, since, rfl, hcomes, hsince⟩, hx⟩ | ⟨rfl, hcomes⟩)
    · refine ⟨before, since ++ [x], by simp, hcomes, ?_⟩
      rw [List.forall_mem_append, List.forall_mem_singleton]
      exact ⟨hsince, hx⟩
    · exact ⟨es, [], rfl, hcomes, List.forall_mem_nil _⟩

/-- One event more may end a visit that went on. -/
theorem visited_concat :
    Visited p (es ++ [x]) e f ↔
      Visited p es e f ∨ (Visiting p es e ∧ f = x ∧ x.kind.goesOff = true) := by
  constructor
  · rintro ⟨before, since, after, hes, hcomes, hsince, hf⟩
    rw [← List.cons_append, ← List.append_assoc] at hes
    rcases concat_eq_cases hes with ⟨rfl, rfl, -⟩ | ⟨after, rfl, rfl⟩
    · exact .inr ⟨⟨before, since, rfl, hcomes, hsince⟩, rfl, hf⟩
    · exact .inl ⟨before, since, after, by simp, hcomes, hsince, hf⟩
  · rintro (⟨before, since, after, rfl, hcomes, hsince, hf⟩ |
      ⟨⟨before, since, rfl, hcomes, hsince⟩, rfl, hx⟩)
    · exact ⟨before, since, after ++ [x], by simp, hcomes, hsince, hf⟩
    · exact ⟨before, since, [], by simp, hcomes, hsince, hx⟩

end Told

/-! ## Visits take time -/

/-- The visit to a link that lasts from one event to the other takes the free-flow time of the link
at least. -/
structure TakesFreeFlow (net : Network) (e f : Event) : Prop where
  link : f.link = e.link
  time : ∃ link, net.link? e.link = some link ∧ e.time.offset link.freeFlow ≤ f.time

/-- Visits that are over took the free-flow time, and those that go on are as they should be. -/
structure Visits (net : Network) (p : Plan) (es : List Event) (on : Event → Prop) : Prop where
  ended : ∀ e f, Visited p es e f → TakesFreeFlow net e f
  running : ∀ e, Visiting p es e → on e

namespace Visits

variable {net : Network} {p : Plan} {es : List Event} {x : Event} {on on' : Event → Prop}

/-- Nobody has been anywhere before anything has happened. -/
theorem nil : Visits net p [] on := by
  constructor
  · rintro e f ⟨before, since, after, hes, -⟩
    simp at hes
  · rintro e ⟨before, since, hes, -⟩
    simp at hes

/-- Visits may be told of with less of what happens during them. -/
theorem mono (h : Visits net p es on) (hon : ∀ e, on e → on' e) : Visits net p es on' :=
  ⟨h.ended, fun e he => hon e (h.running e he)⟩

/-- The next event by which the agent goes off the link of a visit ends the visit: it goes off no
other link before. -/
theorem ended_of_link {before since after : List Event} {e f : Event} (h : Visits net p es on)
    (hes : es = before ++ e :: (since ++ f :: after)) (hcomes : ComesOn p before e)
    (hoff : f.kind.goesOff = true)
    (hsince : ∀ g ∈ since, g.link = e.link → g.kind.goesOff = false) :
    TakesFreeFlow net e f := by
  cases hfirst : since.find? fun g => g.kind.goesOff with
  | none =>
      rw [List.find?_eq_none] at hfirst
      refine h.ended e f ⟨before, since, after, hes, hcomes, fun g hg => ?_, hoff⟩
      simpa using hfirst g hg
  | some g =>
      rcases List.find?_eq_some_iff_append.1 hfirst with ⟨hg, since, rest, rfl, hbefore⟩
      have hover : TakesFreeFlow net e g := by
        refine h.ended e g ⟨before, since, rest ++ f :: after, by simp [hes], hcomes, ?_, hg⟩
        simpa using hbefore
      rw [hsince g (List.mem_append_right _ List.mem_cons_self) hover.link] at hg
      cases hg

/-- Something happens that is no part of a visit. -/
theorem quiet (h : Visits net p es on) (hon : x.kind.comesOn = false)
    (hoff : x.kind.goesOff = false) : Visits net p (es ++ [x]) on := by
  constructor
  · intro e f hvisit
    rcases visited_concat.1 hvisit with hvisit | ⟨-, -, hx⟩
    · exact h.ended e f hvisit
    · rw [hoff] at hx
      cases hx
  · intro e hvisit
    rcases visiting_concat.1 hvisit with ⟨hvisit, -⟩ | ⟨-, hcomes⟩
    · exact h.running e hvisit
    · rw [hcomes.comesOn] at hon
      cases hon

/-- The agent comes onto a link. -/
theorem comeOn (h : Visits net p es fun _ => False) (hoff : x.kind.goesOff = false) :
    Visits net p (es ++ [x]) fun e => e = x := by
  constructor
  · intro e f hvisit
    rcases visited_concat.1 hvisit with hvisit | ⟨hvisit, -⟩
    · exact h.ended e f hvisit
    · exact (h.running e hvisit).elim
  · intro e hvisit
    rcases visiting_concat.1 hvisit with ⟨hvisit, -⟩ | ⟨rfl, -⟩
    · exact (h.running e hvisit).elim
    · rfl

/-- A departure on a leg that stays on its link begins no visit. -/
theorem stay (h : Visits net p es fun _ => False) (henter : x.kind.isLinkEnter = false)
    (hoff : x.kind.goesOff = false)
    (hstays : p.staysAt (2 * es.countP (fun f => f.kind.isDeparture) + 1) = true) :
    Visits net p (es ++ [x]) fun _ => False := by
  refine ⟨(h.comeOn hoff).ended, fun e hvisit => ?_⟩
  rcases visiting_concat.1 hvisit with ⟨hvisit, -⟩ | ⟨-, henters | ⟨-, hleaves⟩⟩
  · exact h.running e hvisit
  · rw [henter] at henters
    cases henters
  · rw [hstays] at hleaves
    cases hleaves

/-- The agent goes off its link when the free-flow time has passed. -/
theorem goOff (h : Visits net p es on) (hon : x.kind.comesOn = false)
    (hoff : x.kind.goesOff = true) (htime : ∀ e, on e → TakesFreeFlow net e x) :
    Visits net p (es ++ [x]) fun _ => False := by
  constructor
  · intro e f hvisit
    rcases visited_concat.1 hvisit with hbefore | ⟨hrunning, rfl, -⟩
    · exact h.ended e f hbefore
    · exact htime e (h.running e hrunning)
  · intro e hvisit
    rcases visiting_concat.1 hvisit with ⟨-, hx⟩ | ⟨-, hcomes⟩
    · rw [hoff] at hx
      cases hx
    · rw [hcomes.comesOn] at hon
      cases hon

end Visits

/-! ## Deeds -/

section Deeds

variable {net : Network} {replanner : Option Replanner} {now : Time} {p : Plan} {a b c : Agent}
  {es events : List Event} {queues queues' : QueueNetwork Float}

/-- The agent is on the link onto which the event has brought it, and is not due there before the
free-flow time has passed since. -/
structure Agent.OnSince (queues : QueueNetwork Float) (now : Time) (a : Agent) (e : Event) :
    Prop where
  state : a.state = .enRoute
  link : e.link = a.link
  past : e.time ≤ now
  notBefore : queues.NotBefore a.vehicle a.link e.time

/-- The events of an agent tell of visits that take the free-flow time, and of as many departures
as its position in the plan says. -/
structure Agent.Dwells (net : Network) (p : Plan) (queues : QueueNetwork Float) (now : Time)
    (a : Agent) (es : List Event) : Prop where
  /-- The legs to come are those of the plan. -/
  ahead : ∀ i, a.element < i → a.plan.route? i = p.route? i
  resting : a.state = .atActivity → a.element = 2 * es.countP (fun e => e.kind.isDeparture)
  travelling : a.state = .enRoute →
    a.element + 1 = 2 * es.countP (fun e => e.kind.isDeparture)
  visits : Visits net p es (a.OnSince queues now)

namespace Agent.Dwells

/-- Only an agent on its way visits a link. -/
theorem visits_nothing (h : a.Dwells net p queues now es) (hstate : a.state ≠ .enRoute) :
    Visits net p es fun _ => False :=
  h.visits.mono fun _ he => hstate he.state

/-- The visits of an agent go on while it stays where it is. -/
theorem visits_keep (h : a.Dwells net p queues now es)
    (hkeep : ∀ t ≤ now, queues.NotBefore a.vehicle a.link t →
      queues'.NotBefore a.vehicle a.link t)
    (hstate : b.state = a.state) (hlink : b.link = a.link) (hid : b.id = a.id) :
    Visits net p es (b.OnSince queues' now) := by
  have hvehicle : b.vehicle = a.vehicle := by rw [vehicle, hid]; rfl
  refine h.visits.mono fun e he => ⟨hstate.trans he.state, he.link.trans hlink.symm, he.past, ?_⟩
  rw [hvehicle, hlink]
  exact hkeep _ he.past he.notBefore

/-- The operations of others change nothing. -/
theorem keep (h : a.Dwells net p queues now es)
    (hkeep : ∀ t ≤ now, queues.NotBefore a.vehicle a.link t →
      queues'.NotBefore a.vehicle a.link t) : a.Dwells net p queues' now es :=
  ⟨h.ahead, h.resting, h.travelling, h.visits_keep hkeep rfl rfl rfl⟩

/-- Who dwells on a link at a time dwells there later on as well, as long as nothing happens. -/
theorem later {now' : Time} (h : a.Dwells net p queues now es) (hle : now ≤ now') :
    a.Dwells net p queues now' es :=
  ⟨h.ahead, h.resting, h.travelling,
    h.visits.mono fun _ he => ⟨he.state, he.link, Time.le_trans he.past hle, he.notBefore⟩⟩

/-- Who goes off its link in time ends its visit. -/
theorem goOff (h : a.Dwells net p queues now es)
    (hfree : queues.HasFreeFlow net) (hdue : queues.Due a.vehicle a.link now) {kind : EventKind}
    (hon : kind.comesOn = false) (hoff : kind.goesOff = true) :
    Visits net p (es ++ [a.event now kind]) fun _ => False := by
  refine h.visits.goOff hon hoff fun e he => ⟨he.link.symm, ?_⟩
  rcases he.notBefore.offset_le hdue with ⟨q, hq, htime⟩
  rcases hfree a.link q hq with ⟨link, hlink, hsame⟩
  refine ⟨link, he.link ▸ hlink, ?_⟩
  rw [← hsame]
  exact htime

/-- An agent that ends an activity departs once. -/
theorem count_departing (h : a.Dwells net p queues now es) (hstate : a.state = .atActivity)
    (hone : events.countP (fun e => e.kind.isDeparture) = 1) :
    a.element + 2 = 2 * (es ++ events).countP (fun e => e.kind.isDeparture) := by
  rw [List.countP_append, hone, h.resting hstate, Nat.mul_add]

/-- An agent on its way departs no more. -/
theorem count_travelling (h : a.Dwells net p queues now es) (hstate : a.state = .enRoute)
    (hnone : events.countP (fun e => e.kind.isDeparture) = 0) :
    a.element + 1 = 2 * (es ++ events).countP (fun e => e.kind.isDeparture) := by
  rw [List.countP_append, hnone]
  exact h.travelling hstate

/-- A leg that stays on its link visits nothing. -/
theorem visits_stay {act next : Activity} {mode : Mode} {r : Route}
    (h : a.Dwells net p queues now es) (hleg : Stays a act next mode r) :
    Visits net p
      (es ++ [a.event now (.activityEnd act.kind), a.event now (.departure mode),
        a.event now (.arrival mode), a.event now (.activityStart next.kind)])
      fun _ => False := by
  have hroute : p.route? (a.element + 1) = some r := by
    rw [← h.ahead _ (Nat.lt_succ_self _)]
    exact Plan.route?_eq_some_iff.2 ⟨_, hleg.leg, rfl⟩
  have hstays : p.staysAt (2 * (es ++ [a.event now (.activityEnd act.kind)]).countP
      (fun e => e.kind.isDeparture) + 1) = true := by
    rw [List.countP_append]
    change p.staysAt (2 * es.countP (fun e => e.kind.isDeparture) + 1) = true
    rw [← h.resting hleg.state, Plan.staysAt, hroute, Option.any_some, hleg.same]
  have hnothing := h.visits_nothing (by simp [hleg.state])
  have hended := hnothing.quiet (x := a.event now (.activityEnd act.kind)) rfl rfl
  have hdeparted := hended.stay (x := a.event now (.departure mode)) rfl rfl hstays
  have harrived := hdeparted.goOff (x := a.event now (.arrival mode)) rfl rfl fun _ => False.elim
  have hstarted := harrived.quiet (x := a.event now (.activityStart next.kind)) rfl rfl
  simpa only [List.append_assoc, List.cons_append, List.nil_append] using hstarted

end Agent.Dwells

/-- An agent that is removed visits no link any more. -/
theorem Agent.dwells_of_removed {how : Removal}
    (hahead : ∀ i, a.element < i → a.plan.route? i = p.route? i) (hstate : a.state = .removed how)
    (hvisits : Visits net p es fun _ => False) : a.Dwells net p queues now es := by
  refine ⟨hahead, ?_, ?_, hvisits.mono fun _ => False.elim⟩ <;> simp [hstate]

/-- An agent that starts an activity visits no link. -/
theorem Agent.dwells_startActivity
    (hahead : ∀ i, c.element < i → c.plan.route? i = p.route? i)
    (hcount : c.element = 2 * es.countP (fun e => e.kind.isDeparture))
    (hvisits : Visits net p es fun _ => False) (act : Activity) :
    (c.startActivity act now).agent.Dwells net p queues now es := by
  rcases c.startActivity_cases act now with ⟨-, h⟩ | ⟨-, h⟩
  · rw [h]
    exact Agent.dwells_of_removed hahead rfl hvisits
  · rw [h]
    refine ⟨hahead, fun _ => hcount, ?_, hvisits.mono fun _ => False.elim⟩
    simp

/-- The agent comes onto a link on which it is not due before the free-flow time has passed. -/
theorem Agent.visits_comeOn (hvisits : Visits net p es fun _ => False)
    (hstate : a.state = .enRoute) (hcomes : queues.NotBefore a.vehicle a.link now)
    {kind : EventKind} (hoff : kind.goesOff = false) :
    Visits net p (es ++ [a.event now kind]) (a.OnSince queues now) := by
  refine (hvisits.comeOn hoff).mono ?_
  rintro e rfl
  exact ⟨hstate, rfl, Nat.le_refl _, hcomes⟩

/-- Every deed goes on with visits that take the free-flow time, if who goes off a link is due there
and who comes onto one is not due before the free-flow time has passed. -/
theorem Deed.dwells (h : Deed net replanner now a events b)
    (hfree : queues.HasFreeFlow net)
    (hkeep : ∀ t ≤ now, queues.NotBefore a.vehicle a.link t →
      queues'.NotBefore a.vehicle a.link t)
    (hgoes : a.state = .enRoute → (∃ x ∈ events, x.kind.goesOff = true) →
      queues.Due a.vehicle a.link now)
    (hcomes : b.state = .enRoute → (∃ x ∈ events, x.kind.comesOn = true) →
      queues'.NotBefore b.vehicle b.link now)
    (ha : a.Dwells net p queues now es) : b.Dwells net p queues' now (es ++ events) := by
  have hahead : ∀ i, a.element < i → a.plan.route? i = p.route? i := ha.ahead
  cases h with
  | @strand act h =>
      have hnothing := ha.visits_nothing (by simp [h.state])
      rw [List.append_cons]
      refine Agent.dwells_of_removed (fun i hi => hahead i (Nat.lt_of_succ_lt hi)) rfl ?_
      exact (hnothing.quiet rfl rfl).goOff rfl rfl fun _ => False.elim
  | @stay act next mode r h =>
      refine Agent.dwells_startActivity (c := a.stayed)
        (fun i hi => hahead i (Nat.lt_of_succ_lt (Nat.lt_of_succ_lt hi))) ?_ (ha.visits_stay h) next
      exact ha.count_departing h.state rfl
  | @depart act mode r h =>
      have hnothing := ha.visits_nothing (by simp [h.state])
      have hcame := hcomes rfl ⟨_, List.mem_cons_of_mem _ List.mem_cons_self, rfl⟩
      refine ⟨fun i hi => hahead i (Nat.lt_of_succ_lt hi), ?_,
        fun _ => ha.count_departing h.state rfl, ?_⟩
      · simp [Agent.departed]
      · rw [List.append_cons]
        exact Agent.visits_comeOn (a := a.departed r) (hnothing.quiet rfl rfl) rfl hcame rfl
  | keep h =>
      have hplan : b.plan = a.plan ∧ b.element = a.element ∧ b.state = a.state := by
        rw [h.eq]
        exact ⟨rfl, rfl, rfl⟩
      have hplace : b.link = a.link ∧ b.id = a.id := by
        rw [h.eq]
        exact ⟨rfl, rfl⟩
      rw [List.append_nil]
      refine ⟨?_, ?_, ?_, ha.visits_keep hkeep hplan.2.2 hplace.1 hplace.2⟩
      · rw [hplan.1, hplan.2.1]
        exact hahead
      · rw [hplan.2.1, hplan.2.2]
        exact ha.resting
      · rw [hplan.2.1, hplan.2.2]
        exact ha.travelling
  | @cross r l h =>
      have hdue := hgoes h.state ⟨_, List.mem_cons_self, rfl⟩
      have hcame := hcomes h.state ⟨_, List.mem_cons_of_mem _ List.mem_cons_self, rfl⟩
      refine ⟨hahead, ?_, fun _ => ha.count_travelling h.state rfl, ?_⟩
      · simp [Agent.crossed, h.state]
      · rw [List.append_cons]
        exact Agent.visits_comeOn (a := a.crossed l) (ha.goOff hfree hdue rfl rfl) h.state hcame rfl
  | @arrive r mode next h =>
      have hdue := hgoes h.state ⟨_, List.mem_cons_self, rfl⟩
      refine Agent.dwells_startActivity (c := a.landed)
        (fun i hi => hahead i (Nat.lt_of_succ_lt hi)) (ha.count_travelling h.state rfl) ?_ next
      rw [List.append_cons]
      exact (ha.goOff hfree hdue rfl rfl).quiet rfl rfl
  | @fail r reason h =>
      have hdue := hgoes h.state ⟨_, List.mem_cons_self, rfl⟩
      exact Agent.dwells_of_removed hahead rfl (ha.goOff hfree hdue rfl rfl)
  | @replan rep old r plan hrep h =>
      have hkept := ha.visits_keep (b := { a with plan, memo := {}, lastReplan := now }) hkeep rfl
        rfl rfl
      refine ⟨?_, ?_, fun _ => ha.count_travelling h.state rfl, hkept.quiet rfl rfl⟩
      · intro i hi
        have hother : plan.route? i = a.plan.route? i := by
          rw [Plan.route?, Plan.route?, Plan.leg?_withRoute_of_ne h.adopts (Nat.ne_of_lt hi)]
        exact hother.trans (hahead i hi)
      · simp [h.state]

end Deeds

end TrafficQueue
