import TrafficQueue.Proofs.Simulation.Operation

/-!
# Steps of a simulation succeed

From a sound moment every phase of a step comes to its end: the activities of all
who are due end, the heads of all links are served and all agents get their chance
for another route.  Each phase is a sequence of operations, so a whole step leads
from one sound moment to another.

Main results:

- Theorem `exists_foldlM`: a fold succeeds if each of its steps does.
- Theorem `Moment.Sound.step_phases`: a step has a result, reached by operations; those who are due
  are called first.
-/

namespace TrafficQueue

/-- Any number of operations. -/
abbrev Operations (net : Network) (now : Time) : Moment → Moment → Prop :=
  Relation.ReflTransGen (Operation net now)

/-- A fold succeeds if each step does, given what still has to be done. -/
theorem exists_foldlM {ε σ β : Type} {f : σ → β → Except ε σ} {P : List β → σ → Prop}
    (hstep : ∀ x xs s, P (x :: xs) s → ∃ s', f s x = .ok s' ∧ P xs s') :
    ∀ xs s, P xs s → ∃ s', xs.foldlM f s = .ok s' ∧ P [] s' := by
  intro xs
  induction xs with
  | nil =>
      intro s h
      exact ⟨s, rfl, h⟩
  | cons x xs ih =>
      intro s h
      rcases hstep x xs s h with ⟨next, hnext, hinv⟩
      rcases ih next hinv with ⟨s', hs', hinv'⟩
      refine ⟨s', ?_, hinv'⟩
      rw [List.foldlM_cons, hnext]
      exact hs'

/-- The activities of all who are due end, in the order of the entries. -/
theorem Traffic.endActivities_eq (t : Traffic) (now : Time) :
    t.endActivities now = (t.endQueue.entries.takeWhile fun e => e.1 ≤ now).foldlM
      (fun u e => endActivity now u e.2) { t with endQueue := (t.endQueue.drain now).2 } := by
  refine Eq.trans ?_ List.foldlM_map
  rw [← (EndQueue.entries_drain t.endQueue now).1]
  rfl

/-- A step goes through its phases and counts what they left. -/
theorem Traffic.step_of_phases {net : Network} {now : Time} {t ended served done : Traffic}
    (hended : t.clearEvents.endActivities now = .ok ended)
    (hserved : (ended.updateLinks now).crossNodes net now = .ok served)
    (hdone : served.replanAgents net now = .ok done) : t.step net now = .ok done.countStep := by
  have hafter : t.afterNodes net now = .ok served := by
    unfold afterNodes
    rw [hended]
    exact hserved
  rw [step_eq, hafter, Except.bind, hdone]
  rfl

/-- Operations while nobody is called. -/
structure Rolls (net : Network) (now : Time) (m m' : Moment) : Prop where
  operations : Operations net now m m'
  onwards : Onwards net now m m'

namespace Rolls

variable {net : Network} {now : Time} {m m' m'' : Moment}

theorem refl : Rolls net now m m := ⟨.refl, .refl⟩

/-- What happens while nobody is called can be followed by more of it. -/
theorem trans (h : Rolls net now m m') (h' : Rolls net now m' m'') : Rolls net now m m'' :=
  ⟨h.operations.trans h'.operations, h.onwards.trans h'.onwards⟩

end Rolls

namespace Moment.Sound

variable {net : Network} {now : Time} {m m' : Moment} {past : List Event} {t : Traffic}

/-- What operations do is a sequence of moves. -/
theorem operations (hm : m.Sound net) (h : Operations net now m m') : Moves net now m m' := by
  induction h with
  | refl => exact .refl
  | tail _ hop ih => exact ih.trans ((hm.moves ih).operation hop)

/-- Operations keep a moment sound. -/
theorem of_operations (hm : m.Sound net) (h : Operations net now m m') : m'.Sound net :=
  hm.moves (hm.operations h)

/-! ## The phases of a step -/

/-- Those who are due are called one after the other. -/
theorem endActivities (hm : Moment.Sound net ⟨past, [], t⟩) (now : Time) :
    ∃ t', t.endActivities now = .ok t' ∧
      Operations net now ⟨past, [], t⟩ ⟨past, [], t'⟩ ∧
      Calls net now
        ⟨past, t.endQueue.entries.takeWhile fun e => e.1 ≤ now,
          { t with endQueue := (t.endQueue.drain now).2 }⟩
        ⟨past, [], t'⟩ := by
  have hfold := exists_foldlM (f := fun u (e : Time × AgentId) => Traffic.endActivity now u e.2)
    (P := fun due u => Operations net now ⟨past, [], t⟩ ⟨past, due, u⟩ ∧
      Calls net now
        ⟨past, t.endQueue.entries.takeWhile fun e => e.1 ≤ now,
          { t with endQueue := (t.endQueue.drain now).2 }⟩
        ⟨past, due, u⟩) ?_
    (t.endQueue.entries.takeWhile fun e => e.1 ≤ now)
    { t with endQueue := (t.endQueue.drain now).2 } ⟨.single .drain, .refl⟩
  · rcases hfold with ⟨t', hfold, hdone⟩
    exact ⟨t', (t.endActivities_eq now).trans hfold, hdone⟩
  · rintro ⟨time, id⟩ due u ⟨hops, hcalls⟩
    rcases (hm.of_operations hops).endActivity now with ⟨u', hu', hmove⟩
    exact ⟨u', hu', hops.tail (.endActivity hu'), hcalls.tail ⟨hmove, _, rfl⟩⟩

/-- Some turns of a link succeed. -/
theorem serveHeads (hm : Moment.Sound net ⟨past, [], t⟩) (now : Time) (l : LinkId)
    (turns : Nat) :
    ∃ t', t.serveHeads net now l turns = .ok t' ∧ Rolls net now ⟨past, [], t⟩ ⟨past, [], t'⟩ := by
  induction turns generalizing t with
  | zero => exact ⟨t, rfl, .refl⟩
  | succ turns ih =>
      rcases hm.serveHead now l with ⟨left, u, hu, hmoves, -⟩
      have hrolls : Rolls net now ⟨past, [], t⟩ ⟨past, [], u⟩ := ⟨.single (.serveHead hu), hmoves⟩
      unfold Traffic.serveHeads
      rw [hu]
      cases left with
      | false => exact ⟨u, rfl, hrolls⟩
      | true =>
          rcases ih (hm.of_operations hrolls.operations) with ⟨t', ht', hrolls'⟩
          exact ⟨t', ht', hrolls.trans hrolls'⟩

/-- Serving a link succeeds. -/
theorem serveLink (hm : Moment.Sound net ⟨past, [], t⟩) (now : Time) (l : LinkId) :
    ∃ t', t.serveLink net now l = .ok t' ∧ Rolls net now ⟨past, [], t⟩ ⟨past, [], t'⟩ := by
  unfold Traffic.serveLink
  split
  · exact hm.serveHeads now l _
  · exact ⟨t, rfl, .refl⟩

/-- Crossing all nodes succeeds. -/
theorem crossNodes (hm : Moment.Sound net ⟨past, [], t⟩) (now : Time) :
    ∃ t', t.crossNodes net now = .ok t' ∧ Rolls net now ⟨past, [], t⟩ ⟨past, [], t'⟩ := by
  unfold Traffic.crossNodes
  refine exists_foldlM (P := fun _ u => Rolls net now ⟨past, [], t⟩ ⟨past, [], u⟩) ?_ _ t .refl
  intro n _ u hrolls
  refine exists_foldlM (P := fun _ u => Rolls net now ⟨past, [], t⟩ ⟨past, [], u⟩) ?_ _ u hrolls
  intro l _ u hrolls
  rcases (hm.of_operations hrolls.operations).serveLink now l with ⟨u', hu', hrolls'⟩
  exact ⟨u', hu', hrolls.trans hrolls'⟩

/-- Every agent has a number of its own. -/
theorem pairwise_id (hm : m.Sound net) :
    m.traffic.agents.toList.Pairwise fun a b => a.id ≠ b.id := by
  rw [List.pairwise_iff_getElem]
  intro i j hi hj hij heq
  have h₁ := hm.numbered i m.traffic.agents[i] (Array.getElem?_eq_getElem hi)
  have h₂ := hm.numbered j m.traffic.agents[j] (Array.getElem?_eq_getElem hj)
  simp only [Array.getElem_toList, h₁, h₂, Ident.mk.injEq] at heq
  omega

/-- Each agent is asked as it was at the start of the phase: nobody changes others. -/
theorem replanAgents (hm : Moment.Sound net ⟨past, [], t⟩) (now : Time) :
    ∃ t', t.replanAgents net now = .ok t' ∧ Rolls net now ⟨past, [], t⟩ ⟨past, [], t'⟩ := by
  unfold Traffic.replanAgents
  split
  · exact ⟨t, rfl, .refl⟩
  · rw [← Array.foldlM_toList]
    have hfold := exists_foldlM (f := Traffic.replanAgent net now)
      (P := fun agents u => Rolls net now ⟨past, [], t⟩ ⟨past, [], u⟩ ∧
        (∀ a ∈ agents, u.agent? a.id = some a) ∧ agents.Pairwise fun a b => a.id ≠ b.id) ?_
      t.agents.toList t ⟨.refl, ?_, hm.pairwise_id⟩
    · rcases hfold with ⟨t', hfold, hrolls, -⟩
      exact ⟨t', hfold, hrolls⟩
    · rintro a agents u ⟨hrolls, hagents, hpairwise⟩
      rcases List.pairwise_cons.1 hpairwise with ⟨hother, hpairwise'⟩
      have hagent := hagents a List.mem_cons_self
      rcases (hm.of_operations hrolls.operations).replanAgent hagent now with
        ⟨u', hu', hmoves, hframe⟩
      have hrolls' : Rolls net now ⟨past, [], u⟩ ⟨past, [], u'⟩ :=
        ⟨.single (.replanAgent hagent hu'), hmoves⟩
      refine ⟨u', hu', hrolls.trans hrolls', ?_, hpairwise'⟩
      intro b hb
      rw [hframe b.id (hother b hb).symm]
      exact hagents b (List.mem_cons_of_mem _ hb)
    · intro a ha
      rcases List.mem_iff_getElem?.1 ha with ⟨i, hi⟩
      have hi' : t.agents[i]? = some a := by simpa using hi
      rw [hm.numbered i a hi']
      exact hi'

/-! ## A step -/

/-- A step has a result: those who are due are called, and nobody is called after them. -/
theorem step_phases (hm : Moment.Sound net ⟨past, [], t.clearEvents⟩) (now : Time) :
    ∃ ended t', t.step net now = .ok t'.countStep ∧
      Operations net now ⟨past, [], t.clearEvents⟩ ⟨past, [], t'⟩ ∧
      Calls net now
        ⟨past, t.endQueue.entries.takeWhile fun e => e.1 ≤ now,
          { t.clearEvents with endQueue := (t.endQueue.drain now).2 }⟩
        ⟨past, [], ended⟩ ∧
      Onwards net now ⟨past, [], ended⟩ ⟨past, [], t'⟩ := by
  rcases hm.endActivities now with ⟨ended, hended, hops, hcalls⟩
  have hupdate : Rolls net now ⟨past, [], ended⟩ ⟨past, [], ended.updateLinks now⟩ :=
    ⟨.single .updateLinks, .single ⟨.update, rfl, rfl⟩⟩
  have hops₁ := hops.trans hupdate.operations
  rcases (hm.of_operations hops₁).crossNodes now with ⟨served, hserved, hcross⟩
  have hops₂ := hops₁.trans hcross.operations
  rcases (hm.of_operations hops₂).replanAgents now with ⟨t', ht', hreplan⟩
  exact ⟨ended, t', Traffic.step_of_phases hended hserved ht', hops₂.trans hreplan.operations,
    hcalls, (hupdate.trans (hcross.trans hreplan)).onwards⟩

/-- A step has a result, reached by operations. -/
theorem step (hm : Moment.Sound net ⟨past, [], t.clearEvents⟩) (now : Time) :
    ∃ t', t.step net now = .ok t'.countStep ∧
      Operations net now ⟨past, [], t.clearEvents⟩ ⟨past, [], t'⟩ := by
  rcases hm.step_phases now with ⟨-, t', ht', hops, -, -⟩
  exact ⟨t', ht', hops⟩

end Moment.Sound

end TrafficQueue
