import Mathlib.Data.List.TakeWhile
import TrafficQueue.Proofs.Agent.Story

/-!
# The plain walk along a route

On a road without other traffic a route would be walked link by link: over the listed
links as long as each begins where the one before ends, and on to the destination.  An
agent that keeps its route does the same, however long it takes: the links that it enters
on a leg are the first links of the walk, and the leg ends where and as the walk ends.

Main results:

- Definition `Network.walk`: the plain walk along a route.
- Theorem `Agent.walkFrom_of_continuation`: the choice at the end of a link is the next step
  of the walk.
- Definitions `Follows` and `Walked`: a leg that follows the walk, and all legs so far.
- Theorem `Deed.walked`: every deed without replanning goes on with the walk.
-/

namespace TrafficQueue

/-! ## Walks -/

/-- What comes of a walk: the links that it enters, and why it ends if not at its destination. -/
structure Walk where
  entered : List LinkId
  failure : Option StuckReason
deriving DecidableEq

namespace Walk

/-- The walk with links entered before its own. -/
def after (links : List LinkId) (w : Walk) : Walk := { w with entered := links ++ w.entered }

/-- The link on which the walk from a link ends. -/
def ends (w : Walk) (start : LinkId) : LinkId := w.entered.getLastD start

/-- Links that come before a walk can be put there one part after the other. -/
theorem after_after (ls ms : List LinkId) (w : Walk) :
    (w.after ms).after ls = w.after (ls ++ ms) := by
  simp [after]

end Walk

namespace Network

variable (net : Network)

/-- The walk from a link over the listed links and on to a destination.  A link can be entered from
the link before if it begins where that one ends. -/
def walkFrom (destination : LinkId) : LinkId → List LinkId → Walk
  | here, next :: listed =>
    if net.connects here next = some true then (walkFrom destination next listed).after [next]
    else ⟨[], some .inconsistentDestination⟩
  | here, [] =>
    if here = destination then ⟨[], none⟩
    else if net.connects here destination = some true then ⟨[destination], none⟩
    else ⟨[], some .routeOverrun⟩

/-- The plain walk along a route. -/
def walk (r : Route) : Walk := net.walkFrom r.destination r.origin r.via

variable {net} {here destination : LinkId} {listed : List LinkId}

/-- A walk that does not fail ends on its destination. -/
theorem ends_walkFrom (h : (net.walkFrom destination here listed).failure = none) :
    (net.walkFrom destination here listed).ends here = destination := by
  induction listed generalizing here with
  | nil =>
      unfold walkFrom at h ⊢
      split
      · assumption
      · split
        · rfl
        · simp_all
  | cons next listed ih =>
      unfold walkFrom at h ⊢
      split
      · rename_i hconnects
        rw [if_pos hconnects] at h
        exact (List.getLastD_cons ..).trans (ih h)
      · rename_i hconnects
        rw [if_neg hconnects] at h
        cases h

end Network

/-- The choice at the end of a link is the next step of the walk. -/
theorem Agent.walkFrom_of_continuation {net : Network} {a : Agent} {via : List LinkId}
    {destination : LinkId} {next : NextLink}
    (h : a.continuation net via destination = some next) :
    net.walkFrom destination a.link (via.drop a.routeIndex) =
      match next with
      | .link l => (net.walkFrom destination l (via.drop (a.routeIndex + 1))).after [l]
      | .arrive => ⟨[], none⟩
      | .stuck reason => ⟨[], some reason⟩ := by
  unfold continuation at h
  cases hvia : via[a.routeIndex]? with
  | some listed =>
      rcases List.getElem?_eq_some_iff.1 hvia with ⟨hlt, rfl⟩
      simp only [hvia] at h
      rcases Option.map_eq_some_iff.1 h with ⟨reached, hreached, rfl⟩
      rw [List.drop_eq_getElem_cons hlt, Network.walkFrom, hreached]
      cases reached <;> simp
  | none =>
      have hge := List.getElem?_eq_none_iff.1 hvia
      simp only [hvia] at h
      rw [List.drop_eq_nil_of_le hge, List.drop_eq_nil_of_le (Nat.le_succ_of_le hge),
        Network.walkFrom]
      split at h
      · rename_i hdest
        cases h
        rw [if_pos hdest]
      · rename_i hdest
        rcases Option.map_eq_some_iff.1 h with ⟨reached, hreached, rfl⟩
        rw [if_neg hdest, hreached]
        cases reached <;> simp [Network.walkFrom, Walk.after]

/-! ## Legs that follow the walk -/

/-- An activity ends. -/
def EventKind.isActivityEnd : EventKind → Bool
  | .activityEnd _ => true
  | _ => false

/-- The links that the events tell to have been entered. -/
def linksEntered (es : List Event) : List LinkId :=
  (es.filter fun e => e.kind.isLinkEnter).map Event.link

/-- What happens on a leg, of all that happens since its departure: everything until the activity
after the leg ends. -/
def onLeg (since : List Event) : List Event := since.takeWhile fun e => !e.kind.isActivityEnd

/-- With these events the whole walk from a link has been made, and it ends on a link for a
reason. -/
structure Walk.Made (w : Walk) (start : LinkId) (es : List Event) (last : LinkId)
    (failure : Option StuckReason) : Prop where
  entered : linksEntered es = w.entered
  last : last = w.ends start
  failure : w.failure = failure

/-- What happens on a leg follows the plain walk along its route: the links that are entered are the
first ones of the walk, and who arrives or gets stuck has made the whole walk and does so where and
as the walk ends. -/
structure Follows (net : Network) (r : Route) (es : List Event) : Prop where
  entered : linksEntered es <+: (net.walk r).entered
  arrives : ∀ before e after, es = before ++ e :: after → e.kind.isArrival = true →
    (net.walk r).Made r.origin before e.link none
  fails : ∀ before e after reason, es = before ++ e :: after → e.kind = .stuck reason →
    (net.walk r).Made r.origin before e.link (some reason)

section Following

variable {net : Network} {p : Plan} {r : Route} {es rest : List Event} {x : Event}
  {on on' : Route → List Event → Prop}

/-- Links are entered part by part. -/
theorem linksEntered_append (es fs : List Event) :
    linksEntered (es ++ fs) = linksEntered es ++ linksEntered fs := by
  simp [linksEntered]

/-- Who has made a whole walk that does not fail is at the destination. -/
theorem Walk.Made.last_eq {last : LinkId} (h : (net.walk r).Made r.origin es last none) :
    last = r.destination :=
  h.last.trans (Network.ends_walkFrom h.failure)

/-- Before anything has happened a leg follows its walk. -/
theorem follows_nil (net : Network) (r : Route) : Follows net r [] := by
  refine ⟨List.nil_prefix, ?_, ?_⟩
  · intro before e after h
    simp at h
  · intro before e after reason h
    simp at h

/-- One event more on a leg. -/
theorem Follows.concat (h : Follows net r es)
    (hentered : linksEntered (es ++ [x]) <+: (net.walk r).entered)
    (harrives : x.kind.isArrival = true → (net.walk r).Made r.origin es x.link none)
    (hfails : ∀ reason, x.kind = .stuck reason →
      (net.walk r).Made r.origin es x.link (some reason)) : Follows net r (es ++ [x]) := by
  refine ⟨hentered, ?_, ?_⟩
  · intro before e after hes he
    rcases concat_eq_cases hes with ⟨rfl, rfl, -⟩ | ⟨after', -, hes'⟩
    · exact harrives he
    · exact h.arrives before e after' hes' he
  · intro before e after reason hes he
    rcases concat_eq_cases hes with ⟨rfl, rfl, -⟩ | ⟨after', -, hes'⟩
    · exact hfails reason he
    · exact h.fails before e after' reason hes' he

/-- An event of which the walk knows nothing. -/
theorem Follows.quiet (h : Follows net r es) (henter : x.kind.isLinkEnter = false)
    (harrival : x.kind.isArrival = false) (hstuck : x.kind.isStuck = false) :
    Follows net r (es ++ [x]) := by
  refine h.concat ?_ ?_ ?_
  · simpa [linksEntered_append, linksEntered, henter] using h.entered
  · simp [harrival]
  · intro reason hx
    simp [hx, EventKind.isStuck] at hstuck

/-! ## All legs so far -/

/-- All legs so far follow the walks along the routes of the plan, and those that may go on are as
they should be.  The legs that begin stand at the positions one, three and so on of the plan. -/
structure Walked (net : Network) (p : Plan) (es : List Event) (on : Route → List Event → Prop) :
    Prop where
  legs : ∀ before d since, es = before ++ d :: since → d.kind.isDeparture = true →
    ∃ r, p.route? (2 * before.countP (fun e => e.kind.isDeparture) + 1) = some r ∧
      (r.isSameLink = false → d.link = r.origin ∧ Follows net r (onLeg since))
  running : ∀ before d since r, es = before ++ d :: since → d.kind.isDeparture = true →
    p.route? (2 * before.countP (fun e => e.kind.isDeparture) + 1) = some r →
    r.isSameLink = false → (∀ e ∈ since, e.kind.isActivityEnd = false) → on r since

/-- As long as no activity ends everything happens on the leg. -/
theorem onLeg_eq_self (h : ∀ e ∈ es, e.kind.isActivityEnd = false) : onLeg es = es := by
  rw [onLeg, List.takeWhile_eq_self_iff]
  intro e he
  simp [h e he]

/-- After the end of the activity nothing belongs to the leg. -/
theorem onLeg_append (h : ¬ ∀ e ∈ es, e.kind.isActivityEnd = false) (fs : List Event) :
    onLeg (es ++ fs) = onLeg es := by
  rw [onLeg, List.takeWhile_append, if_neg]
  · rfl
  · intro hlength
    apply h
    have hself := (List.takeWhile_prefix fun e : Event => !e.kind.isActivityEnd).eq_of_length
      hlength
    rw [List.takeWhile_eq_self_iff] at hself
    simpa using hself

/-- Of the end of an activity nothing belongs to the leg before. -/
theorem onLeg_concat_end (hx : x.kind.isActivityEnd = true) : onLeg (es ++ [x]) = onLeg es := by
  by_cases h : ∀ e ∈ es, e.kind.isActivityEnd = false
  · rw [onLeg_eq_self h, onLeg, List.takeWhile_append_of_pos (by simpa using h)]
    simp [hx]
  · exact onLeg_append h _

namespace Walked

/-- Before anything has happened there is no leg to follow a walk. -/
theorem nil (net : Network) (p : Plan) (on : Route → List Event → Prop) : Walked net p [] on := by
  constructor
  · intro before d since hes
    simp at hes
  · intro before d since r hes
    simp at hes

/-- Legs may be told of with less of what happens on them. -/
theorem mono (h : Walked net p es on) (hon : ∀ r since, on r since → on' r since) :
    Walked net p es on' :=
  ⟨h.legs, fun before d since r hes hd hroute hleaves hsince =>
    hon r since (h.running before d since r hes hd hroute hleaves hsince)⟩

/-- When an activity ends, the leg before it is over. -/
theorem close (h : Walked net p es on) (hx : x.kind.isActivityEnd = true) :
    Walked net p (es ++ [x]) fun _ _ => False := by
  have hx' : x.kind.isDeparture = false := by
    cases hkind : x.kind <;> simp_all [EventKind.isActivityEnd, EventKind.isDeparture]
  constructor
  · intro before d since hes hd
    rcases concat_eq_cases hes with ⟨-, rfl, -⟩ | ⟨since', rfl, hes'⟩
    · rw [hx'] at hd
      cases hd
    · rw [onLeg_concat_end hx]
      exact h.legs before d since' hes' hd
  · intro before d since r hes hd _ _ hsince
    rcases concat_eq_cases hes with ⟨-, rfl, -⟩ | ⟨since', rfl, -⟩
    · rw [hx'] at hd
      cases hd
    · have hlast := hsince x (List.mem_append_right _ List.mem_cons_self)
      rw [hx] at hlast
      cases hlast

/-- When no leg goes on, the next one of the plan can begin. -/
theorem depart (h : Walked net p es fun _ _ => False)
    (hroute : p.route? (2 * es.countP (fun e => e.kind.isDeparture) + 1) = some r)
    (hlink : r.isSameLink = false → x.link = r.origin) :
    Walked net p (es ++ [x]) fun r' since => r' = r ∧ r.isSameLink = false ∧ since = [] := by
  constructor
  · intro before d since hes hd
    rcases concat_eq_cases hes with ⟨rfl, rfl, rfl⟩ | ⟨since', rfl, hes'⟩
    · exact ⟨r, hroute, fun hleaves => ⟨hlink hleaves, follows_nil net r⟩⟩
    · rcases h.legs before d since' hes' hd with ⟨r', hroute', hfollows⟩
      refine ⟨r', hroute', fun hleaves => ?_⟩
      rw [onLeg_append (h.running before d since' r' hes' hd hroute' hleaves)]
      exact hfollows hleaves
  · intro before d since r' hes hd hroute' hleaves hsince
    rcases concat_eq_cases hes with ⟨rfl, rfl, rfl⟩ | ⟨since', rfl, hes'⟩
    · cases hroute.symm.trans hroute'
      exact ⟨rfl, hleaves, rfl⟩
    · exact (h.running before d since' r' hes' hd hroute' hleaves fun e he =>
        hsince e (List.mem_append_left _ he)).elim

/-- Something happens on a leg, as the walk says. -/
theorem go (h : Walked net p es on) (hdeparture : x.kind.isDeparture = false)
    (hend : x.kind.isActivityEnd = false)
    (hfollows : ∀ r since, on r since → Follows net r since → Follows net r (since ++ [x])) :
    Walked net p (es ++ [x]) fun r since => ∃ since', since = since' ++ [x] ∧ on r since' := by
  constructor
  · intro before d since hes hd
    rcases concat_eq_cases hes with ⟨-, rfl, -⟩ | ⟨since', rfl, hes'⟩
    · rw [hdeparture] at hd
      cases hd
    · rcases h.legs before d since' hes' hd with ⟨r, hroute, hleg⟩
      refine ⟨r, hroute, fun hleaves => ⟨(hleg hleaves).1, ?_⟩⟩
      by_cases hsince : ∀ e ∈ since', e.kind.isActivityEnd = false
      · have hon := h.running before d since' r hes' hd hroute hleaves hsince
        have hbefore := (hleg hleaves).2
        rw [onLeg_eq_self hsince] at hbefore
        rw [onLeg_eq_self]
        · exact hfollows r since' hon hbefore
        · rw [List.forall_mem_append, List.forall_mem_singleton]
          exact ⟨hsince, hend⟩
      · rw [onLeg_append hsince]
        exact (hleg hleaves).2
  · intro before d since r hes hd hroute hleaves hsince
    rcases concat_eq_cases hes with ⟨-, rfl, -⟩ | ⟨since', rfl, hes'⟩
    · rw [hdeparture] at hd
      cases hd
    · exact ⟨since', rfl, h.running before d since' r hes' hd hroute hleaves fun e he =>
        hsince e (List.mem_append_left _ he)⟩

end Walked

end Following

/-! ## Deeds -/

section Deeds

variable {net : Network} {now : Time} {a b : Agent} {r : Route} {es since events : List Event}

/-- The agent has made a part of the walk along its route, and the rest of it is ahead. -/
structure Agent.Ahead (net : Network) (a : Agent) (r : Route) (since : List Event) : Prop where
  route : a.route? = some r
  link : a.link = (linksEntered since).getLastD r.origin
  walk : net.walk r =
    (net.walkFrom r.destination a.link (r.via.drop a.routeIndex)).after (linksEntered since)

/-- What should hold of a leg that may go on: while the agent travels, the rest of the walk is
ahead. -/
def Agent.OnWalk (net : Network) (a : Agent) (r : Route) (since : List Event) : Prop :=
  a.state = .enRoute → a.Ahead net r since

/-- Who is not on the road is on no walk. -/
theorem Agent.onWalk_of_ne (h : a.state ≠ .enRoute) (r : Route) (since : List Event) :
    a.OnWalk net r since :=
  fun hstate => (h hstate).elim

/-- Without a part ahead the whole walk has been made. -/
theorem Agent.Ahead.made {failure : Option StuckReason} (h : a.Ahead net r since)
    (hrest : net.walkFrom r.destination a.link (r.via.drop a.routeIndex) = ⟨[], failure⟩) :
    (net.walk r).Made r.origin since a.link failure := by
  have hwalk := h.walk
  rw [hrest] at hwalk
  rw [hwalk]
  refine ⟨?_, ?_, rfl⟩
  · simp [Walk.after]
  · simpa [Walk.after, Walk.ends] using h.link

/-- The next link is the next one of the walk. -/
theorem Agent.Ahead.cross {l : LinkId} {x y : Event} (h : a.Ahead net r since)
    (hchoice : a.continuation net r.via r.destination = some (.link l))
    (hx : x.kind.isLinkEnter = false) (hy : y.kind.isLinkEnter = true) (hlink : y.link = l) :
    (a.crossed l).Ahead net r (since ++ [x] ++ [y]) := by
  have hentered : linksEntered (since ++ [x] ++ [y]) = linksEntered since ++ [l] := by
    simp [linksEntered, hx, hy, hlink]
  refine ⟨h.route, ?_, ?_⟩
  · rw [hentered, List.getLastD_concat]
    rfl
  · rw [h.walk, Agent.walkFrom_of_continuation hchoice, hentered, Walk.after_after]
    rfl

/-- The leg of a trip has just begun. -/
theorem Agent.ahead_departed {act : Activity} {mode : Mode} (h : Departs net a act mode r) :
    (a.departed r).Ahead net r [] := by
  have hlink : a.link = r.origin := by
    have hfull := h.onRoute.position
    change r.full[0]? = some a.link at hfull
    rw [← List.head?_eq_getElem?, Route.head?_full] at hfull
    exact (Option.some.inj hfull).symm
  refine ⟨h.onRoute.route, hlink, ?_⟩
  change net.walk r = (net.walkFrom r.destination a.link r.via).after []
  rw [hlink]
  rfl

/-- The plan has the route of a leg that begins. -/
theorem route?_of_departing {mode : Mode}
    (hleg : a.plan.leg? (a.element + 1) = some ⟨mode, some r⟩)
    (hcount : a.element = 2 * es.countP fun e => e.kind.isDeparture) (kind : String) :
    a.plan.route? (2 * (es ++ [a.event now (.activityEnd kind)]).countP
      (fun e => e.kind.isDeparture) + 1) = some r := by
  have hended : (es ++ [a.event now (.activityEnd kind)]).countP (fun e => e.kind.isDeparture) =
      es.countP fun e => e.kind.isDeparture := by
    simp [List.countP_append, Agent.event, EventKind.isDeparture]
  rw [hended, ← hcount]
  exact Plan.route?_eq_some_iff.2 ⟨_, hleg, rfl⟩

/-- Every deed without replanning goes on with the walks along the routes of the plan. -/
theorem Deed.walked (h : Deed net none now a events b)
    (hcount : a.state = .atActivity → a.element = 2 * es.countP fun e => e.kind.isDeparture)
    (ha : Walked net a.plan es (a.OnWalk net)) :
    Walked net a.plan (es ++ events) (b.OnWalk net) := by
  cases h with
  | @strand act h =>
      rw [List.append_cons]
      have hended := ha.close (x := a.event now (.activityEnd act.kind)) rfl
      refine (hended.go (x := a.event now (.stuck .missingRoute)) rfl rfl ?_).mono ?_
      · exact fun _ _ hon => hon.elim
      · rintro r since ⟨_, -, ⟨⟩⟩
  | @stay act next mode r h =>
      rw [List.append_cons, List.append_cons, List.append_cons]
      have hended := ha.close (x := a.event now (.activityEnd act.kind)) rfl
      have hdeparted := hended.depart (x := a.event now (.departure mode))
        (route?_of_departing h.leg (hcount h.state) act.kind) (by simp [h.same])
      have harrived := hdeparted.go (x := a.event now (.arrival mode)) rfl rfl (by simp [h.same])
      refine (harrived.go (x := a.event now (.activityStart next.kind)) rfl rfl ?_).mono ?_
      · exact fun _ _ _ hfollows => hfollows.quiet rfl rfl rfl
      · exact fun r since _ => Agent.onWalk_of_ne (Agent.state_startActivity _ _ _) r since
  | @depart act mode r h =>
      rw [List.append_cons]
      have hended := ha.close (x := a.event now (.activityEnd act.kind)) rfl
      have hstart := Agent.ahead_departed h
      have hdeparted := hended.depart (x := a.event now (.departure mode))
        (route?_of_departing h.leg (hcount h.state) act.kind) (fun _ => hstart.link)
      refine hdeparted.mono ?_
      rintro r' since ⟨rfl, -, rfl⟩ -
      exact hstart
  | keep h =>
      rw [List.append_nil]
      refine ha.mono fun r since hon _ => ?_
      have hahead := hon h.state
      rw [h.eq]
      exact ⟨hahead.route, hahead.link, hahead.walk⟩
  | @cross r l h =>
      rw [List.append_cons]
      have hchoice : ∀ r', a.route? = some r' →
          a.continuation net r'.via r'.destination = some (.link l) := by
        intro r' hr'
        cases h.onRoute.route.symm.trans hr'
        exact h.choice
      have hleft := ha.go (x := a.event now (.linkLeave a.vehicle.id)) rfl rfl
        fun _ _ _ hfollows => hfollows.quiet rfl rfl rfl
      have hentered := hleft.go (x := (a.crossed l).event now (.linkEnter a.vehicle.id)) rfl rfl ?_
      · refine hentered.mono ?_
        rintro r' since ⟨since', rfl, since'', rfl, hon⟩ -
        exact (hon h.state).cross (hchoice r' (hon h.state).route) rfl rfl rfl
      · rintro r' since ⟨since', rfl, hon⟩ hfollows
        have hahead := (hon h.state).cross (x := a.event now (.linkLeave a.vehicle.id))
          (y := (a.crossed l).event now (.linkEnter a.vehicle.id))
          (hchoice r' (hon h.state).route) rfl rfl rfl
        refine hfollows.concat ?_ (fun hx => by cases hx) (fun reason hx => by cases hx)
        rw [hahead.walk]
        exact List.prefix_append _ _
  | @arrive r mode next h =>
      rw [List.append_cons]
      have harrived := ha.go (x := a.event now (.arrival mode)) rfl rfl ?_
      · refine (harrived.go (x := a.event now (.activityStart next.kind)) rfl rfl ?_).mono ?_
        · exact fun _ _ _ hfollows => hfollows.quiet rfl rfl rfl
        · exact fun r since _ => Agent.onWalk_of_ne (Agent.state_startActivity _ _ _) r since
      · intro r' since hon hfollows
        have hahead := hon h.state
        cases h.onRoute.route.symm.trans hahead.route
        refine hfollows.concat ?_ (fun _ => ?_) (fun reason hx => by cases hx)
        · simpa [linksEntered, Agent.event, EventKind.isLinkEnter] using hfollows.entered
        · exact hahead.made (Agent.walkFrom_of_continuation h.choice)
  | @fail r reason h =>
      refine (ha.go (x := a.event now (.stuck reason)) rfl rfl ?_).mono ?_
      · intro r' since hon hfollows
        have hahead := hon h.state
        cases h.onRoute.route.symm.trans hahead.route
        refine hfollows.concat ?_ (fun hx => by cases hx) (fun reason' hx => ?_)
        · simpa [linksEntered, Agent.event, EventKind.isLinkEnter] using hfollows.entered
        · cases hx
          exact hahead.made (Agent.walkFrom_of_continuation h.choice)
      · exact fun r since _ => Agent.onWalk_of_ne (by simp [Agent.evicted]) r since
  | replan hrep h => cases hrep

/-! ## Failing for good -/

/-- Only agents at an activity or on their way do something. -/
theorem Deed.state_ne {replanner : Option Replanner} (h : Deed net replanner now a events b)
    (how : Removal) : a.state ≠ .removed how := by
  cases h <;> rename_i h <;> simp [h.state]

/-- Who got stuck has been taken out for that reason, on the link where it happened. -/
def Agent.OutIfStuck (a : Agent) (es : List Event) : Prop :=
  ∀ e ∈ es, ∀ reason, e.kind = .stuck reason →
    a.state = .removed (.stuck reason) ∧ e.link = a.link

/-- Every deed leaves those out who got stuck. -/
theorem Deed.outIfStuck {replanner : Option Replanner} (h : Deed net replanner now a events b)
    (ha : a.OutIfStuck es) : b.OutIfStuck (es ++ events) := by
  intro e he reason hreason
  rcases List.mem_append.1 he with he | he
  · exact (h.state_ne _ (ha e he reason hreason).1).elim
  · cases h <;> simp only [List.mem_cons, List.not_mem_nil, or_false] at he
    case strand =>
      rcases he with rfl | rfl
      · cases hreason
      · cases hreason
        exact ⟨rfl, rfl⟩
    case stay => rcases he with rfl | rfl | rfl | rfl <;> cases hreason
    case depart => rcases he with rfl | rfl <;> cases hreason
    case cross => rcases he with rfl | rfl <;> cases hreason
    case arrive => rcases he with rfl | rfl <;> cases hreason
    case fail =>
      subst he
      cases hreason
      exact ⟨rfl, rfl⟩
    case replan =>
      subst he
      cases hreason

end Deeds

end TrafficQueue
