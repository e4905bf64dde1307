import Mathlib.Data.List.ReduceOption
import TrafficQueue.Agent.Execution

/-!
# What an agent keeps from its last choice

An agent keeps the link that it chose last and the listed links of its leg.  Both follow
from its plan and its position, whatever was asked of it before and whatever was refused:
so an agent that forgets them now and then gives the same answers, tells of the same
events and leaves the same queues.

Main results:

- Definitions `Agent.perform` and `AgentHistory.of`: an agent after any calls, what it has
  answered and what it has told of.
- Theorem `Agent.perform_forget`: a call to an agent that has forgotten its memo.
- Theorem `Agent.Remembers.perform`: every call keeps the memo true.
- Theorem `Agent.memo_unseen`: forgetting at any points changes nothing that can be seen.
-/

namespace TrafficQueue

/-! ## Calls -/

/-- What can be asked of an agent, and what others do to the queues meanwhile. -/
inductive AgentCall (α : Type) where
  | schedule (now : Time)
  | endActivity (now : Time)
  | chooseNext
  | crossNode (next : LinkId) (now : Time)
  | arrive (now : Time)
  | remove (reason : StuckReason) (now : Time)
  | adopt (plan : Plan)
  | markReplanned (now : Time)
  | elsewhere (change : QueueNetwork α → QueueNetwork α)

/-- What an agent answers. -/
inductive AgentAnswer where
  | became (answer : Except AgentError Transition)
  /-- There is no choice for a position or a route outside of the network. -/
  | chose (next : Option NextLink)
  | crossed (answer : Except AgentError Unit)
  | done

section Calls

variable {α : Type}

/-- What a call brings about, and the queues after it.  A call that is refused may have changed the
agent and told of events before. -/
def Agent.perform (a : Agent) (net : Network) (queues : QueueNetwork α) :
    AgentCall α → Effect AgentAnswer × QueueNetwork α
  | .schedule now =>
    ({ agent := (a.schedule now).2, answer := .became (.ok (a.schedule now).1) }, queues)
  | .endActivity now =>
    ((a.endActivity now queues).1.map .became, (a.endActivity now queues).2)
  | .chooseNext =>
    match a.chooseNext net with
    | none => ({ agent := a, answer := .chose none }, queues)
    | some (next, kept) => ({ agent := kept, answer := .chose (some next) }, queues)
  | .crossNode next now =>
    ((a.crossNode next now queues).1.map .crossed, (a.crossNode next now queues).2)
  | .arrive now => ((a.arrive now).map .became, queues)
  | .remove reason now => ((a.remove reason now).map fun t => .became (.ok t), queues)
  | .adopt plan => ({ agent := a.adopt plan, answer := .done }, queues)
  | .markReplanned now => ({ agent := a.markReplanned now, answer := .done }, queues)
  | .elsewhere change => ({ agent := a, answer := .done }, change queues)

/-- An agent after calls, the queues, and all that it has told of and answered. -/
structure AgentHistory (α : Type) where
  agent : Agent
  queues : QueueNetwork α
  events : List Event := []
  answers : List AgentAnswer := []

/-- The agent forgets what it keeps from its last choice. -/
def Agent.forget (a : Agent) : Agent := { a with memo := {} }

/-- The effect on an agent that forgets afterwards. -/
def Effect.forget {β : Type} (e : Effect β) : Effect β := { e with agent := e.agent.forget }

namespace AgentHistory

/-- One call more to an agent. -/
def call (net : Network) (h : AgentHistory α) (c : AgentCall α) : AgentHistory α :=
  let done := h.agent.perform net h.queues c
  { agent := done.1.agent
    queues := done.2
    events := h.events ++ done.1.events
    answers := h.answers ++ [done.1.answer] }

/-- The history of an agent after calls. -/
def of (net : Network) (a : Agent) (queues : QueueNetwork α) (calls : List (AgentCall α)) :
    AgentHistory α :=
  calls.foldl (call net) { agent := a, queues }

/-- Without a call the agent forgets. -/
def callOrForget (net : Network) (h : AgentHistory α) : Option (AgentCall α) → AgentHistory α
  | some c => h.call net c
  | none => { h with agent := h.agent.forget }

/-- The history of an agent that forgets between its calls. -/
def forgetful (net : Network) (a : Agent) (queues : QueueNetwork α)
    (steps : List (Option (AgentCall α))) : AgentHistory α :=
  steps.foldl (callOrForget net) { agent := a, queues }

/-- The histories cannot be told apart: they differ at most in what the agent keeps. -/
structure SameSeen (h h' : AgentHistory α) : Prop where
  answers : h.answers = h'.answers
  events : h.events = h'.events
  queues : h.queues = h'.queues
  agent : h.agent.forget = h'.agent.forget

end AgentHistory

end Calls

namespace Agent

variable {net : Network} {a b : Agent} {α : Type} {queues : QueueNetwork α}

/-! ## True memos -/

/-- What the agent keeps follows from its plan and its position. -/
structure Remembers (net : Network) (a : Agent) : Prop where
  via : ∀ via, a.memo.via = some via → ∃ r, a.route? = some r ∧ via = r.via
  next : ∀ l, a.memo.next = some l →
    ∃ r, a.route? = some r ∧ a.continuation net r.via r.destination = some (.link l)

/-- Who keeps nothing keeps nothing wrong. -/
theorem remembers_of_memo (h : a.memo = {}) : a.Remembers net := by
  constructor <;> simp [h]

/-- A true memo of the listed links, and none of the next one. -/
theorem remembers_of_via (hnext : a.memo.next = none)
    (hvia : ∀ via, a.memo.via = some via → ∃ r, a.route? = some r ∧ via = r.via) :
    a.Remembers net :=
  ⟨hvia, by simp [hnext]⟩

/-- The choice of an agent that keeps nothing. -/
def freshChoice (a : Agent) (net : Network) : Option NextLink :=
  match a.route? with
  | none => some (.stuck .missingRoute)
  | some route => a.continuation net route.via route.destination

/-- The listed links are those of the route, kept or not. -/
theorem Remembers.via_getD {r : Route} (h : a.Remembers net) (hroute : a.route? = some r) :
    a.memo.via.getD r.via = r.via := by
  cases hvia : a.memo.via with
  | none => rfl
  | some via =>
      rcases h.via via hvia with ⟨r', hroute', rfl⟩
      cases hroute.symm.trans hroute'
      rfl

/-- A true memo makes no difference to the choice. -/
theorem Remembers.chooseNext_eq (h : a.Remembers net) :
    (a.chooseNext net).map Prod.fst = a.freshChoice net := by
  unfold chooseNext freshChoice
  cases hnext : a.memo.next with
  | some l =>
      rcases h.next l hnext with ⟨r, hroute, hchoice⟩
      simp [hroute, hchoice]
  | none =>
      cases hroute : a.route? with
      | none => rfl
      | some r =>
          simp only [h.via_getD hroute, Option.map_map]
          exact Option.map_id'

/-- What is looked up does not depend on what is kept. -/
theorem freshChoice_forget (a : Agent) (net : Network) :
    a.forget.freshChoice net = a.freshChoice net :=
  rfl

/-- What an agent does when it chooses: nothing, or it keeps where its route goes on. -/
theorem chooseNext_cases {next : NextLink} (h : a.chooseNext net = some (next, b)) :
    b = a ∨
      ∃ r, a.route? = some r ∧
        a.continuation net (a.memo.via.getD r.via) r.destination = some next ∧
        a.memo.next = none ∧ b = a.keepChoice (a.memo.via.getD r.via) next := by
  unfold chooseNext at h
  cases hnext : a.memo.next with
  | some l =>
      simp only [hnext, Option.some.injEq, Prod.mk.injEq] at h
      exact .inl h.2.symm
  | none =>
      cases hroute : a.route? with
      | none =>
          simp only [hnext, hroute, Option.some.injEq, Prod.mk.injEq] at h
          exact .inl h.2.symm
      | some r =>
          simp only [hnext, hroute] at h
          rcases Option.map_eq_some_iff.1 h with ⟨chosen, hchoice, hpair⟩
          simp only [Prod.mk.injEq] at hpair
          rcases hpair with ⟨rfl, rfl⟩
          exact .inr ⟨r, rfl, hchoice, rfl, rfl⟩

/-- To keep the next link changes nothing else. -/
theorem forget_keepChoice (a : Agent) (via : List LinkId) (next : NextLink) :
    (a.keepChoice via next).forget = a.forget := by
  cases next <;> rfl

/-- Choosing does nothing that would not be forgotten. -/
theorem forget_chooseNext {next : NextLink} (h : a.chooseNext net = some (next, b)) :
    b.forget = a.forget := by
  rcases chooseNext_cases h with rfl | ⟨r, -, -, -, rfl⟩
  · rfl
  · exact a.forget_keepChoice _ _

/-- What is kept of a choice is true. -/
theorem Remembers.chooseNext {next : NextLink} (h : a.Remembers net)
    (hchoose : a.chooseNext net = some (next, b)) : b.Remembers net := by
  rcases chooseNext_cases hchoose with rfl | ⟨r, hroute, hchoice, hnext, rfl⟩
  · exact h
  · rw [h.via_getD hroute] at hchoice ⊢
    cases next with
    | link l =>
        refine ⟨?_, ?_⟩
        · rintro via ⟨⟩
          exact ⟨r, hroute, rfl⟩
        · rintro l' ⟨⟩
          exact ⟨r, hroute, hchoice⟩
    | arrive =>
        refine remembers_of_via hnext ?_
        rintro via ⟨⟩
        exact ⟨r, hroute, rfl⟩
    | stuck reason =>
        refine remembers_of_via hnext ?_
        rintro via ⟨⟩
        exact ⟨r, hroute, rfl⟩

/-! ## Calls and memos -/

/-- Ending an activity replaces what the agent keeps, unless it is refused. -/
theorem endActivity_forget (a : Agent) (now : Time) (queues : QueueNetwork α) :
    (a.forget.endActivity now queues).1.forget = (a.endActivity now queues).1.forget ∧
      (a.forget.endActivity now queues).2 = (a.endActivity now queues).2 := by
  by_cases h : a.state = .atActivity
  · have hsame : a.forget.endActivity now queues = a.endActivity now queues := by
      have hforget : a.forget.state = .atActivity := h
      unfold endActivity
      rw [if_pos h, if_pos hforget]
      rfl
    rw [hsame]
    exact ⟨rfl, rfl⟩
  · have hforget : a.forget.state ≠ .atActivity := h
    rw [endActivity_wrongState h, endActivity_wrongState hforget]
    exact ⟨rfl, rfl⟩

/-- Crossing a node drops the next link, and the listed links stay kept or forgotten. -/
theorem crossNode_forget (a : Agent) (next : LinkId) (now : Time) (queues : QueueNetwork α) :
    (a.forget.crossNode next now queues).1.forget = (a.crossNode next now queues).1.forget ∧
      (a.forget.crossNode next now queues).2 = (a.crossNode next now queues).2 := by
  have hstate : a.forget.state = a.state := rfl
  have hvehicle : a.forget.vehicle = a.vehicle := rfl
  unfold crossNode
  rw [hstate, hvehicle]
  by_cases h : a.state = .enRoute
  · rw [if_pos h, if_pos h]
    cases queues.enqueue a.vehicle next now <;> exact ⟨rfl, rfl⟩
  · rw [if_neg h, if_neg h]
    exact ⟨rfl, rfl⟩

/-- To arrive does not depend on what is kept. -/
theorem arrive_forget (a : Agent) (now : Time) :
    (a.forget.arrive now).forget = (a.arrive now).forget := by
  by_cases h : a.state = .enRoute
  · have hforget : a.forget.state = .enRoute := h
    unfold arrive
    rw [if_pos h, if_pos hforget]
    rfl
  · have hforget : a.forget.state ≠ .enRoute := h
    rw [arrive_wrongState h, arrive_wrongState hforget]
    rfl

/-- When an activity ends does not depend on what is kept. -/
theorem schedule_forget (a : Agent) (now : Time) :
    (a.forget.schedule now).1 = (a.schedule now).1 ∧
      (a.forget.schedule now).2.forget = (a.schedule now).2.forget := by
  have hplan : a.forget.plan = a.plan := rfl
  unfold schedule
  rw [hplan]
  cases a.plan.activity? 0 <;> exact ⟨rfl, rfl⟩

/-- Whether an agent with a true memo has forgotten it makes no difference to a call, but for what
it keeps afterwards. -/
theorem perform_forget (h : a.Remembers net) (queues : QueueNetwork α) (c : AgentCall α) :
    (a.forget.perform net queues c).1.forget = (a.perform net queues c).1.forget ∧
      (a.forget.perform net queues c).2 = (a.perform net queues c).2 := by
  cases c with
  | schedule now =>
      have hsame := a.schedule_forget now
      refine ⟨?_, rfl⟩
      simp only [perform, Effect.forget, hsame.1, hsame.2]
  | endActivity now =>
      have hsame := a.endActivity_forget now queues
      exact ⟨congrArg (Effect.map AgentAnswer.became) hsame.1, hsame.2⟩
  | chooseNext =>
      have hfresh : (a.forget.chooseNext net).map Prod.fst = (a.chooseNext net).map Prod.fst := by
        rw [h.chooseNext_eq, (remembers_of_memo rfl).chooseNext_eq, freshChoice_forget]
      simp only [perform]
      cases hchoose : a.chooseNext net with
      | none =>
          rw [hchoose, Option.map_none, Option.map_eq_none_iff] at hfresh
          rw [hfresh]
          exact ⟨rfl, rfl⟩
      | some choice =>
          rw [hchoose, Option.map_some, Option.map_eq_some_iff] at hfresh
          rcases hfresh with ⟨⟨next, b⟩, hforget, rfl⟩
          rw [hforget]
          refine ⟨?_, rfl⟩
          simp only [Effect.forget, forget_chooseNext hchoose, forget_chooseNext hforget]
          rfl
  | crossNode next now =>
      have hsame := a.crossNode_forget next now queues
      exact ⟨congrArg (Effect.map AgentAnswer.crossed) hsame.1, hsame.2⟩
  | arrive now => exact ⟨congrArg (Effect.map AgentAnswer.became) (a.arrive_forget now), rfl⟩
  | remove reason now => exact ⟨rfl, rfl⟩
  | adopt plan => exact ⟨rfl, rfl⟩
  | markReplanned now => exact ⟨rfl, rfl⟩
  | elsewhere change => exact ⟨rfl, rfl⟩

/-! ## Memos stay true -/

/-- Whoever is removed keeps nothing. -/
theorem remembers_remove (a : Agent) (reason : StuckReason) (now : Time) :
    (a.remove reason now).agent.Remembers net :=
  remembers_of_memo rfl

/-- To start an activity replaces nothing that is kept. -/
theorem memo_startActivity (a : Agent) (act : Activity) (now : Time) :
    (a.startActivity act now).agent.memo = a.memo := by
  unfold startActivity
  split <;> rfl

/-- At the end of a leg nothing is kept. -/
theorem remembers_finishLeg (a : Agent) (now : Time) :
    (a.finishLeg now).agent.Remembers net := by
  unfold finishLeg
  split
  · split
    · refine remembers_of_memo ?_
      simp only [Effect.after]
      split
      · exact memo_startActivity _ _ _
      · rfl
    · exact a.remembers_remove _ _
  · exact a.remembers_remove _ _

/-- At the start of a leg its listed links are kept, also if the vehicle cannot depart. -/
theorem remembers_startLeg (a : Agent) (now : Time) (queues : QueueNetwork α) :
    (a.startLeg now queues).1.agent.Remembers net := by
  unfold startLeg
  split
  · rename_i mode route hleg
    have hroute : a.route? = some route := by
      rw [route?, hleg]
      rfl
    split
    · exact remembers_finishLeg _ now
    · have hvia : ∀ state, Remembers net
          { a with state, routeIndex := 0, memo := ⟨none, some route.via⟩ } := by
        intro state
        refine remembers_of_via rfl ?_
        rintro via ⟨⟩
        exact ⟨route, hroute, rfl⟩
      dsimp only
      split
      · exact hvia _
      · exact hvia _
  · exact a.remembers_remove .missingRoute now

/-- Every call keeps the memo true. -/
theorem Remembers.perform (h : a.Remembers net) (queues : QueueNetwork α) (c : AgentCall α) :
    (a.perform net queues c).1.agent.Remembers net := by
  cases c with
  | schedule now =>
      simp only [Agent.perform, schedule]
      cases a.plan.activity? 0 <;> exact ⟨h.via, h.next⟩
  | endActivity now =>
      simp only [Agent.perform, endActivity]
      split
      · exact remembers_startLeg _ now queues
      · exact h
  | chooseNext =>
      simp only [Agent.perform]
      cases hchoose : a.chooseNext net with
      | none => exact h
      | some choice => exact h.chooseNext hchoose
  | crossNode next now =>
      simp only [Agent.perform, crossNode]
      split
      · split <;> exact remembers_of_via rfl h.via
      · exact h
  | arrive now =>
      simp only [Agent.perform, arrive]
      split
      · exact remembers_finishLeg _ now
      · exact h
  | remove reason now => exact a.remembers_remove reason now
  | adopt plan => exact remembers_of_memo rfl
  | markReplanned now => exact ⟨h.via, h.next⟩
  | elsewhere change => exact h

end Agent

/-! ## Histories -/

namespace AgentHistory

variable {net : Network} {α : Type} {h h' : AgentHistory α}

/-- The histories cannot be told apart and both memos are true. -/
structure Matches (net : Network) (h h' : AgentHistory α) : Prop extends SameSeen h h' where
  left : h.agent.Remembers net
  right : h'.agent.Remembers net

/-- The same call to both goes on with the same. -/
theorem Matches.call (hm : Matches net h h') (c : AgentCall α) :
    Matches net (h.call net c) (h'.call net c) := by
  have hleft := Agent.perform_forget hm.left h.queues c
  have hright := Agent.perform_forget hm.right h'.queues c
  rw [hm.agent, hm.queues] at hleft
  have heffect : (h.agent.perform net h'.queues c).1.forget =
      (h'.agent.perform net h'.queues c).1.forget := hleft.1.symm.trans hright.1
  refine ⟨⟨?_, ?_, ?_, ?_⟩, hm.left.perform h.queues c, hm.right.perform h'.queues c⟩
  · have hanswer := congrArg Effect.answer heffect
    simp only [Effect.forget] at hanswer
    simp only [AgentHistory.call, hm.queues, hm.answers, hanswer]
  · have hevents := congrArg Effect.events heffect
    simp only [Effect.forget] at hevents
    simp only [AgentHistory.call, hm.queues, hm.events, hevents]
  · simp only [AgentHistory.call, hm.queues]
    exact hleft.2.symm.trans hright.2
  · simp only [AgentHistory.call, hm.queues]
    exact congrArg Effect.agent heffect

/-- One of them may forget. -/
theorem Matches.forget (hm : Matches net h h') :
    Matches net { h with agent := h.agent.forget } h' :=
  ⟨⟨hm.answers, hm.events, hm.queues, hm.agent⟩, Agent.remembers_of_memo rfl, hm.right⟩

/-- Any calls to both go on with the same, also if one of them forgets in between. -/
theorem Matches.steps (hm : Matches net h h') (steps : List (Option (AgentCall α))) :
    Matches net (steps.foldl (callOrForget net) h)
      (steps.reduceOption.foldl (AgentHistory.call net) h') := by
  induction steps generalizing h h' with
  | nil => exact hm
  | cons step steps ih =>
      cases step with
      | none =>
          rw [List.reduceOption_cons_of_none]
          exact ih hm.forget
      | some c =>
          rw [List.reduceOption_cons_of_some]
          exact ih (hm.call c)

/-- After any calls the memo of an agent is true. -/
theorem remembers_of (net : Network) {a : Agent} (ha : a.Remembers net) (queues : QueueNetwork α)
    (calls : List (AgentCall α)) : (of net a queues calls).agent.Remembers net := by
  have hstart : (AgentHistory.mk a queues [] []).agent.Remembers net := ha
  refine List.foldlRecOn calls (call net) (motive := fun h => h.agent.Remembers net) hstart ?_
  intro h hh c _
  exact hh.perform h.queues c

end AgentHistory

/-- Whatever plan an agent was made for and whatever was asked of it, it chooses as if it had
forgotten what it keeps, and it may forget it at any points: its answers, the events and the queues
are the same. -/
theorem Agent.memo_unseen {α : Type} (net : Network) (strategy : AgentId → Person → Strategy)
    (id : AgentId) (person : Person) (queues : QueueNetwork α) :
    (∀ calls : List (AgentCall α),
        let a := (AgentHistory.of net (ofPerson strategy id person) queues calls).agent
        (a.chooseNext net).map Prod.fst = (a.forget.chooseNext net).map Prod.fst) ∧
      ∀ steps : List (Option (AgentCall α)),
        AgentHistory.SameSeen
          (AgentHistory.forgetful net (ofPerson strategy id person) queues steps)
          (AgentHistory.of net (ofPerson strategy id person) queues steps.reduceOption) := by
  have hnew : (ofPerson strategy id person).Remembers net := remembers_of_memo rfl
  constructor
  · intro calls a
    have hafter := AgentHistory.remembers_of net hnew queues calls
    rw [hafter.chooseNext_eq, (remembers_of_memo rfl).chooseNext_eq, freshChoice_forget]
  · intro steps
    let start : AgentHistory α := ⟨ofPerson strategy id person, queues, [], []⟩
    have hsame : start.Matches net start := ⟨⟨rfl, rfl, rfl, rfl⟩, hnew, hnew⟩
    exact (hsame.steps steps).toSameSeen

end TrafficQueue
