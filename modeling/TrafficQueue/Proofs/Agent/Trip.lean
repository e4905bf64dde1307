import TrafficQueue.Proofs.Agent.Visit
import TrafficQueue.Proofs.Plan.Drivable

/-!
# A trip in free flow

A day with one trip leads from an activity over a route to another activity.  In free
flow every link of the route takes its free-flow time and nothing else takes any, so
the time of departure settles when each link is left and the next one is entered, and
when the trip is over.

Main results:

- Definitions `Trip` and `Trip.plan`: a day with one trip.
- Theorem `Trip.runs_of_path`: a trip over a least-time path can be driven.
- Definitions `passages` and `Trip.story`: the events of a drive and of the whole day.
- Theorem `passages_concat`: a drive goes on over one more link.
- Theorems `Trip.departs_once`, `leaves_once`, `enters_once` and `arrives_once`: what the
  story says about the ends of the trip.
-/

namespace TrafficQueue

/-- One thing to do, a trip and another thing to do. -/
structure Trip where
  home : Activity
  mode : Mode
  route : Route
  work : Activity

/-- The plan of somebody who makes one trip. -/
def Trip.plan (trip : Trip) : Plan :=
  ⟨[.activity trip.home, .leg ⟨trip.mode, some trip.route⟩, .activity trip.work]⟩

/-- A trip on which all links take their free-flow time: when it has come to the last of the links,
each of the others was left at the end of its time, and the next one was entered. -/
def passages (net : Network) (id : AgentId) : Time → List LinkId → List Event
  | t, l :: m :: ls =>
    ⟨t.offset (net.freeFlow l), id, l, .linkLeave id.vehicle⟩ ::
      ⟨t.offset (net.freeFlow l), id, m, .linkEnter id.vehicle⟩ ::
        passages net id (t.offset (net.freeFlow l)) (m :: ls)
  | _, _ => []

namespace Trip

variable (trip : Trip) (net : Network) (id : AgentId) (t : Time)

/-- The trip begins. -/
def started : List Event :=
  [⟨t, id, trip.home.link, .activityEnd trip.home.kind⟩,
    ⟨t, id, trip.home.link, .departure trip.mode⟩]

/-- The trip is over. -/
def finished : List Event :=
  [⟨t, id, trip.work.link, .arrival trip.mode⟩,
    ⟨t, id, trip.work.link, .activityStart trip.work.kind⟩]

/-- All that happens on a day with one trip, if it begins at a time. -/
def story : List Event :=
  trip.started id t ++ passages net id t trip.route.full ++
    trip.finished id (t.offset (net.duration trip.route.full))

end Trip

variable {net : Network} {id : AgentId} {t : Time} {l m : LinkId} {ls : List LinkId} {e : Event}

/-! ## Passages -/

/-- A drive of several links begins on the first of them. -/
theorem passages_cons (net : Network) (id : AgentId) (t : Time) (l : LinkId) (h : ls ≠ []) :
    ∃ m ∈ ls, passages net id t (l :: ls) =
      ⟨t.offset (net.freeFlow l), id, l, .linkLeave id.vehicle⟩ ::
        ⟨t.offset (net.freeFlow l), id, m, .linkEnter id.vehicle⟩ ::
          passages net id (t.offset (net.freeFlow l)) ls := by
  cases ls with
  | nil => exact absurd rfl h
  | cons m ls => exact ⟨m, List.mem_cons_self, rfl⟩

/-- A drive goes on over one more link. -/
theorem passages_concat (net : Network) (id : AgentId) (t : Time) (ls : List LinkId)
    (l m : LinkId) :
    passages net id t (ls ++ [l, m]) =
      passages net id t (ls ++ [l]) ++
        [⟨t.offset (net.duration (ls ++ [l])), id, l, .linkLeave id.vehicle⟩,
          ⟨t.offset (net.duration (ls ++ [l])), id, m, .linkEnter id.vehicle⟩] := by
  induction ls generalizing t with
  | nil => rfl
  | cons first ls ih =>
      have htime : t.offset (net.duration (first :: ls ++ [l])) =
          (t.offset (net.freeFlow first)).offset (net.duration (ls ++ [l])) := by
        rw [Time.offset_offset]
        rfl
      rw [htime]
      cases ls with
      | nil => rfl
      | cons second ls =>
          simp only [List.cons_append, passages, List.cons.injEq, true_and]
          apply ih

/-- A drive leads over its links only, and all that happens is that they are left and entered. -/
theorem of_mem_passages (h : e ∈ passages net id t ls) :
    e.link ∈ ls ∧ (e.kind = .linkLeave id.vehicle ∨ e.kind = .linkEnter id.vehicle) := by
  induction ls generalizing t with
  | nil => cases h
  | cons first ls ih =>
      cases ls with
      | nil => cases h
      | cons second ls =>
          simp only [passages, List.mem_cons] at h
          rcases h with rfl | rfl | h
          · exact ⟨List.mem_cons_self, .inl rfl⟩
          · exact ⟨List.mem_cons_of_mem _ List.mem_cons_self, .inr rfl⟩
          · exact ⟨List.mem_cons_of_mem _ (ih h).1, (ih h).2⟩

namespace Trip

variable {trip : Trip} {a b : LinkId}

/-! ## The plan of a day -/

/-- The plan has two activities with a leg between them. -/
theorem of_element?_plan {i : Nat} {e : PlanElement} (h : trip.plan.element? i = some e) :
    (i = 0 ∧ e = .activity trip.home) ∨ (i = 1 ∧ e = .leg ⟨trip.mode, some trip.route⟩) ∨
      (i = 2 ∧ e = .activity trip.work) := by
  match i with
  | 0 => exact .inl ⟨rfl, (Option.some.inj h).symm⟩
  | 1 => exact .inr (.inl ⟨rfl, (Option.some.inj h).symm⟩)
  | 2 => exact .inr (.inr ⟨rfl, (Option.some.inj h).symm⟩)
  | i + 3 => cases h

/-- There is one leg, and it has the route of the trip. -/
theorem of_leg?_plan {i : Nat} {leg : Leg} (h : trip.plan.leg? i = some leg) :
    i = 1 ∧ leg = ⟨trip.mode, some trip.route⟩ := by
  rcases of_element?_plan (Plan.leg?_eq_some_iff.1 h) with ⟨-, he⟩ | ⟨hi, he⟩ | ⟨-, he⟩
  · cases he
  · cases he
    exact ⟨hi, rfl⟩
  · cases he

/-- The trip leads from the one activity to the other, over links that follow on each other and
none of which comes twice. -/
structure Runs (net : Network) (trip : Trip) : Prop where
  starts : trip.home.link = trip.route.origin
  ends : trip.work.link = trip.route.destination
  leaves : trip.route.isSameLink = false
  known : ∀ l ∈ trip.route.full, net.hasLink l = true
  connected : trip.route.Connected net
  nodup : trip.route.full.Nodup

/-- Such a plan is accepted. -/
theorem Runs.validate_plan (h : trip.Runs net) (person : String) :
    trip.plan.validate person net = .ok () := by
  have hnamed : ∀ l ∈ trip.route.named, net.hasLink l = true :=
    fun l hl => h.known l (Route.mem_full_iff.2 hl)
  have hroute : trip.plan.routeFault? person net 1 trip.route = none := by
    have hunknown : Plan.unknownLink? net trip.route = none := by
      rw [Plan.unknownLink?, List.find?_eq_none]
      intro l hl
      simp [hnamed l hl]
    have hbefore : trip.plan.activity? (1 - 1) = some trip.home := rfl
    have hafter : trip.plan.activity? (1 + 1) = some trip.work := rfl
    simp only [Plan.routeFault?, hunknown, hbefore, hafter]
    simp [Option.filter, h.starts, h.ends]
  have horigin : net.hasLink trip.home.link = true :=
    h.starts ▸ hnamed _ (by simp [Route.named])
  have hdest : net.hasLink trip.work.link = true := h.ends ▸ hnamed _ (by simp [Route.named])
  rw [Plan.validate_eq_ok_iff]
  refine ⟨by simp [plan, Plan.length], fun i e he => ?_⟩
  rcases of_element?_plan he with ⟨rfl, rfl⟩ | ⟨rfl, rfl⟩ | ⟨rfl, rfl⟩
  · simp [Plan.elementFault?, horigin]
  · simp [Plan.elementFault?, hroute]
  · simp [Plan.elementFault?, hdest]

/-- So is the population of one person with such a plan. -/
theorem Runs.validate_alone (h : trip.Runs net) (name : String) :
    Population.validate ⟨#[⟨name, trip.plan⟩]⟩ net = .ok () := by
  rw [Population.validate_eq_ok_iff]
  intro person hperson
  rw [List.mem_toArray, List.mem_singleton] at hperson
  rw [hperson]
  exact h.validate_plan name

/-- A trip over a least-time path to another link leads there. -/
theorem runs_of_path {path : LinkPath} {home work : Activity} (hwired : net.Wired)
    (hpath : net.path a b = .ok path) (hne : a ≠ b) (hhome : home.link = a) (hwork : work.link = b)
    (mode : Mode) : Runs net ⟨home, mode, ⟨a, path.links, b⟩, work⟩ := by
  have hroute : net.route? a b = some ⟨a, path.links, b⟩ :=
    Network.route?_eq_some_iff.2 ⟨path, hpath, rfl⟩
  refine ⟨hhome, hwork, ?_, ?_, Network.connected_route? hwired hroute,
    Network.nodup_full hwired hpath hne⟩
  · simp [Route.isSameLink, hne]
  · rcases Network.exists_isLeast hwired hpath hne with ⟨origin, destination, ha, hb, hleast⟩
    rw [Route.full_of_ne hne]
    simp only [List.forall_mem_cons, List.forall_mem_append, Network.hasLink_iff]
    exact ⟨⟨origin, ha⟩, fun l hl => hleast.chain.exists_link? hl, ⟨destination, hb⟩,
      List.forall_mem_nil _⟩

/-! ## The ends of a trip -/

/-- On the way nobody departs but the agent, when the trip begins. -/
theorem of_departure (h : e ∈ trip.started id t ++ passages net id t ls)
    (he : e.kind.isDeparture = true) : e.time = t ∧ e.agent = id := by
  rcases List.mem_append.1 h with h | h
  · simp only [started, List.mem_cons, List.not_mem_nil, or_false] at h
    rcases h with rfl | rfl <;> exact ⟨rfl, rfl⟩
  · rcases (of_mem_passages h).2 with hkind | hkind <;> rw [hkind] at he <;> cases he

/-- The trip begins once. -/
theorem departs_once (h : e ∈ trip.story net id t) (he : e.kind.isDeparture = true) :
    e.time = t ∧ e.agent = id := by
  rcases List.mem_append.1 h with h | h
  · exact of_departure h he
  · simp only [finished, List.mem_cons, List.not_mem_nil, or_false] at h
    rcases h with rfl | rfl <;> cases he

/-- What neither the start nor the end of the trip tells of, only the drive tells of. -/
theorem filter_story (p : Event → Bool) (hstarted : (trip.started id t).filter p = [])
    (hfinished : ∀ t, (trip.finished id t).filter p = []) :
    (trip.story net id t).filter p = (passages net id t trip.route.full).filter p := by
  rw [story, List.filter_append, List.filter_append, hstarted, hfinished, List.append_nil,
    List.nil_append]

/-- The first link is left once, when its free-flow time is over. -/
theorem leaves_once (net : Network) (id : AgentId) (t : Time) (hnodup : trip.route.full.Nodup)
    (hfull : trip.route.full = a :: ls) (hne : ls ≠ []) :
    (trip.story net id t).filter (fun e => e.link = a ∧ e.kind.isLinkLeave) =
      [⟨t.offset (net.freeFlow a), id, a, .linkLeave id.vehicle⟩] := by
  rw [hfull, List.nodup_cons] at hnodup
  rcases passages_cons net id t a hne with ⟨m, hm, hpassages⟩
  have hrest : (passages net id (t.offset (net.freeFlow a)) ls).filter
      (fun e => e.link = a ∧ e.kind.isLinkLeave) = [] := by
    rw [List.filter_eq_nil_iff]
    intro e he
    have hlink : e.link ≠ a := fun heq => hnodup.1 (heq ▸ (of_mem_passages he).1)
    simp [hlink]
  rw [filter_story _ (by simp [started, EventKind.isLinkLeave])
    (by simp [finished, EventKind.isLinkLeave]), hfull, hpassages,
    List.filter_cons_of_pos (by simp [EventKind.isLinkLeave]),
    List.filter_cons_of_neg (by simp [EventKind.isLinkLeave]), hrest]

/-- The last link is entered once, when the links before it have taken their free-flow time. -/
theorem enters_once (net : Network) (id : AgentId) (t : Time) (hnodup : trip.route.full.Nodup)
    (hfull : trip.route.full = ls ++ [b]) (hne : ls ≠ []) :
    (trip.story net id t).filter (fun e => e.link = b ∧ e.kind.isLinkEnter) =
      [⟨t.offset (net.duration ls), id, b, .linkEnter id.vehicle⟩] := by
  rw [hfull, (List.perm_append_singleton b ls).nodup_iff, List.nodup_cons] at hnodup
  have hrest : (passages net id t ls).filter (fun e => e.link = b ∧ e.kind.isLinkEnter) = [] := by
    rw [List.filter_eq_nil_iff]
    intro e he
    have hlink : e.link ≠ b := fun heq => hnodup.1 (heq ▸ (of_mem_passages he).1)
    simp [hlink]
  have hlast : ∃ l, passages net id t (ls ++ [b]) = passages net id t ls ++
      [⟨t.offset (net.duration ls), id, l, .linkLeave id.vehicle⟩,
        ⟨t.offset (net.duration ls), id, b, .linkEnter id.vehicle⟩] := by
    refine ⟨ls.getLast hne, ?_⟩
    have hconcat := passages_concat net id t ls.dropLast (ls.getLast hne) b
    have hsplit : ls.dropLast ++ [ls.getLast hne, b] = ls ++ [b] := by
      rw [List.append_cons, List.dropLast_concat_getLast]
    rwa [hsplit, List.dropLast_concat_getLast] at hconcat
  rcases hlast with ⟨l, hlast⟩
  rw [filter_story _ (by simp [started, EventKind.isLinkEnter])
    (by simp [finished, EventKind.isLinkEnter]), hfull, hlast, List.filter_append, hrest,
    List.filter_cons_of_neg (by simp [EventKind.isLinkEnter]),
    List.filter_cons_of_pos (by simp [EventKind.isLinkEnter]), List.filter_nil, List.nil_append]

/-- The trip is over once, when all links have taken their free-flow time. -/
theorem arrives_once (trip : Trip) (net : Network) (id : AgentId) (t : Time) :
    (trip.story net id t).filter (fun e => e.kind.isArrival) =
      [⟨t.offset (net.duration trip.route.full), id, trip.work.link, .arrival trip.mode⟩] := by
  have hrest : (passages net id t trip.route.full).filter (fun e => e.kind.isArrival) = [] := by
    rw [List.filter_eq_nil_iff]
    intro e he
    rcases (of_mem_passages he).2 with hkind | hkind <;> simp [hkind, EventKind.isArrival]
  rw [story, List.filter_append, List.filter_append, hrest]
  simp [started, finished, EventKind.isArrival]

end Trip

end TrafficQueue
