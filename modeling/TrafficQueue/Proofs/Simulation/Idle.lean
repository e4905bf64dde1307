import TrafficQueue.Proofs.Simulation.Service

/-!
# Phases in which nothing happens

A phase of a step that finds nothing to do leaves the traffic as it is: nobody is
scheduled, no head is due, or no route is replaced.  When nobody is scheduled or on
the way, a whole step only refills the flow and counts.

Main results:

- Theorems `Traffic.endActivities_of_empty`, `Traffic.crossNodes_of_idle` and
  `Traffic.replanAgents_of_kept`: the phases one by one.
- Theorem `Traffic.Quiet.step`: a step of quiet traffic.
-/

namespace TrafficQueue

/-- A fold whose steps all give back the state gives it back. -/
theorem foldlM_eq_self {ε σ β : Type} {f : σ → β → Except ε σ} {s : σ} {xs : List β}
    (h : ∀ x ∈ xs, f s x = .ok s) : xs.foldlM f s = .ok s := by
  induction xs with
  | nil => rfl
  | cons x xs ih =>
      rw [List.foldlM_cons, h x List.mem_cons_self]
      exact ih fun y hy => h y (List.mem_cons_of_mem x hy)

namespace Traffic

variable {t : Traffic} {net : Network} {now : Time} {l : LinkId}

/-! ## Phases -/

/-- If nobody is scheduled, nobody leaves an activity. -/
theorem endActivities_of_empty (h : t.endQueue.entries = []) (now : Time) :
    t.endActivities now = .ok t := by
  have hstays : (t.endQueue.drain now).2 = t.endQueue := by
    apply EndQueue.ext_entries
    rw [(EndQueue.entries_drain t.endQueue now).2, h]
    rfl
  rw [endActivities_eq, h, hstays]
  rfl

/-- A link is not served if its head is not due. -/
theorem serveLink_of_idle (h : t.isDue now l = false) (net : Network) :
    serveLink net now t l = .ok t := by
  rw [serveLink, h]
  rfl

/-- No node is crossed if no head is due. -/
theorem crossNodes_of_idle (h : ∀ l, t.isDue now l = false) (net : Network) :
    t.crossNodes net now = .ok t := by
  rw [crossNodes_eq]
  exact foldlM_eq_self fun l _ => serveLink_of_idle (h l) net

/-- If nobody gets another route, replanning changes nothing. -/
theorem replanAgents_of_kept
    (h : ∀ rep, t.replanner = some rep → ∀ a ∈ t.agents, rep.replan a net now = .ok none) :
    t.replanAgents net now = .ok t := by
  unfold replanAgents
  cases hreplanner : t.replanner with
  | none => rfl
  | some rep =>
      rw [Option.isNone_some, if_neg Bool.false_ne_true, ← Array.foldlM_toList]
      apply foldlM_eq_self
      intro a ha
      exact replanAgent_kept hreplanner (h rep hreplanner a (Array.mem_toList_iff.1 ha))

/-! ## Quiet traffic -/

/-- Nobody is scheduled or on the way, and there is no vehicle on the roads. -/
structure Quiet (t : Traffic) : Prop where
  schedule : t.endQueue.entries = []
  roads : ∀ l q, t.queues.link? l = some q → q.queue = [] ∧ q.waiting = []
  agents : ∀ a ∈ t.agents, a.isEnRoute = false

end Traffic

namespace Traffic.Quiet

variable {t : Traffic}

/-- The start of a step leaves quiet roads empty. -/
theorem link?_update (h : t.Quiet) (now : Time) (l : LinkId) :
    (t.queues.update now).link? l =
      (t.queues.link? l).map fun q => { q with flow := q.flow.refill } := by
  rw [QueueNetwork.link?_update]
  cases hq : t.queues.link? l with
  | none => rfl
  | some q => exact congrArg some (LinkQueue.update_of_nobody (h.roads l q hq).2 now)

/-- Nobody on quiet roads is due. -/
theorem isDue_eq_false (h : t.Quiet) (now : Time) (l : LinkId) : t.isDue now l = false := by
  unfold isDue QueueNetwork.head?
  cases hq : t.queues.link? l with
  | none => rfl
  | some q => simp [LinkQueue.head?, (h.roads l q hq).1]

/-- Traffic stays quiet at the start of a step. -/
theorem updateLinks (h : t.Quiet) (now : Time) : (t.updateLinks now).Quiet := by
  refine ⟨h.schedule, ?_, h.agents⟩
  intro l q hq
  have hq' : (t.queues.update now).link? l = some q := hq
  rw [h.link?_update, Option.map_eq_some_iff] at hq'
  rcases hq' with ⟨before, hbefore, rfl⟩
  exact h.roads l before hbefore

/-- A step of quiet traffic begins on every link and is counted. -/
theorem step (h : t.Quiet) (net : Network) (now : Time) :
    t.step net now = .ok (t.clearEvents.updateLinks now).countStep := by
  have hcleared : t.clearEvents.Quiet := ⟨h.schedule, h.roads, h.agents⟩
  have hupdated := hcleared.updateLinks now
  have hkept : ∀ rep, (t.clearEvents.updateLinks now).replanner = some rep →
      ∀ a ∈ (t.clearEvents.updateLinks now).agents, rep.replan a net now = .ok none := by
    intro rep _ a ha
    apply Replanner.replan_of_not_eligible
    simp [Replanner.isEligible, hupdated.agents a ha]
  have hafter : t.afterNodes net now = .ok (t.clearEvents.updateLinks now) := by
    unfold afterNodes
    rw [endActivities_of_empty hcleared.schedule]
    exact crossNodes_of_idle (hupdated.isDue_eq_false now) net
  rw [step_eq, hafter, Except.bind, replanAgents_of_kept hkept]
  rfl

end Traffic.Quiet

end TrafficQueue
