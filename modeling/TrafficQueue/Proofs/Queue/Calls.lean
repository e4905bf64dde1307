import TrafficQueue.Proofs.Queue.Operations

/-!
# Calls to link queues

The queues of a network can be asked to let vehicles in and out, in any order and
with any arguments; a call that is refused changes nothing.  A history follows the
queues through such calls and keeps a ledger for every link: who entered it and
when, who left it, who was given to depart on it and who of them has come onto it.

Main results:

- Theorem `QueueNetwork.perform_effect`: what a call does to the queues is one of nine effects.
- Definition `QueueHistory.of`: the queues and the ledgers after any calls.
- Theorem `QueueHistory.change_call`: what a call does to the queue and the ledger of a
  link is one of seven changes.
- Theorem `QueueHistory.invariant`: what holds first and is kept by the changes holds
  after any calls.
-/

namespace TrafficQueue

/-! ## Calls -/

/-- What can be asked of the queues of a network. -/
inductive QueueCall where
  | enqueue (v : Vehicle) (l : LinkId) (now : Time)
  | depart (v : Vehicle) (l : LinkId) (now : Time)
  | update (now : Time)
  | release (l : LinkId) (now : Time) (d : Downstream)
  | evict (l : LinkId)

/-- What they answer. -/
inductive QueueAnswer where
  | refused (e : QueueError)
  /-- Entered, with the earliest exit. -/
  | entered (exit : Time)
  | departed (d : Departure)
  /-- So many vehicles were admitted. -/
  | updated (admitted : Nat)
  | left (v : Option Vehicle)

/-- The answer to a call and the queues after it; a refused call leaves them as they were. -/
def QueueNetwork.perform {α : Type} [FlowNumber α] (n : QueueNetwork α) :
    QueueCall → QueueAnswer × QueueNetwork α
  | .enqueue v l now =>
    match n.enqueue v l now with
    | .error e => (.refused e, n)
    | .ok (exit, n) => (.entered exit, n)
  | .depart v l now =>
    match n.depart v l now with
    | .error e => (.refused e, n)
    | .ok (d, n) => (.departed d, n)
  | .update now => (.updated n.admissions, n.update now)
  | .release l now d =>
    match n.release l now d with
    | .error e => (.refused e, n)
    | .ok (v, n) => (.left v, n)
  | .evict l =>
    match n.evict l with
    | .error e => (.refused e, n)
    | .ok (v, n) => (.left v, n)

/-- Whether the call is the start of a step. -/
def QueueCall.isUpdate : QueueCall → Bool
  | .update _ => true
  | _ => false

section Effect

variable {α : Type} [FlowNumber α]

/-- What a call can do to the queues, with its answer. -/
inductive CallEffect (n : QueueNetwork α) : QueueCall → QueueAnswer → QueueNetwork α → Prop where
  | refuse {c e} (hcall : c.isUpdate = false) : CallEffect n c (.refused e) n
  | enter {v l now q} (hq : n.link? l = some q) (hspace : q.hasSpace = true) :
      CallEffect n (.enqueue v l now) (.entered (q.entry v now).earliestExit)
        (n.set l (q.push now v))
  | depart {v l now q} (hq : n.link? l = some q) (hspace : q.hasSpace = true)
      (hwaiting : q.waiting = []) :
      CallEffect n (.depart v l now) (.departed (.entered (q.entry v now).earliestExit))
        (n.set l (q.push now v))
  | wait {v l now q} (hq : n.link? l = some q)
      (hfull : ¬ (q.hasSpace = true ∧ q.waiting = [])) :
      CallEffect n (.depart v l now) (.departed .waiting) (n.set l (q.wait v))
  | update {now} : CallEffect n (.update now) (.updated n.admissions) (n.update now)
  | release {l now d q e es} (hq : n.link? l = some q) (hqueue : q.queue = e :: es)
      (hdue : e.earliestExit ≤ now) (hopen : q.flow.isOpen = true)
      (hroom : n.downstreamRoom d = .ok true) :
      CallEffect n (.release l now d) (.left (some e.vehicle))
        (n.set l { q.dropHead with flow := q.flow.spend })
  | stay {l now d} (hstay : n.release l now d = .ok (none, n)) :
      CallEffect n (.release l now d) (.left none) n
  | evict {l q e es} (hq : n.link? l = some q) (hqueue : q.queue = e :: es) :
      CallEffect n (.evict l) (.left (some e.vehicle)) (n.set l q.dropHead)
  | nobody {l q} (hq : n.link? l = some q) (hempty : q.queue = []) :
      CallEffect n (.evict l) (.left none) (n.set l q)

/-- Every call has one of these effects. -/
theorem QueueNetwork.perform_effect (n : QueueNetwork α) (c : QueueCall) :
    CallEffect n c (n.perform c).1 (n.perform c).2 := by
  cases c with
  | enqueue v m now =>
      cases hanswer : n.enqueue v m now with
      | error e =>
          simp only [perform, hanswer]
          exact .refuse rfl
      | ok answer =>
          rcases enqueue_eq_ok_iff.1 hanswer with ⟨q, hq, hspace, hexit, hn⟩
          simp only [perform, hanswer, hexit, hn]
          exact .enter hq hspace
  | depart v m now =>
      cases hanswer : n.depart v m now with
      | error e =>
          simp only [perform, hanswer]
          exact .refuse rfl
      | ok answer =>
          rcases depart_eq_ok_iff.1 hanswer with
            ⟨q, hq, ⟨hspace, hwaiting, hd, hn⟩ | ⟨hfull, hd, hn⟩⟩
          · simp only [perform, hanswer, hd, hn]
            exact .depart hq hspace hwaiting
          · simp only [perform, hanswer, hd, hn]
            exact .wait hq hfull
  | update now => exact .update
  | release m now d =>
      cases hanswer : n.release m now d with
      | error e =>
          simp only [perform, hanswer]
          exact .refuse rfl
      | ok answer =>
          rcases answer with ⟨_ | v, n'⟩
          · cases eq_of_release_none hanswer
            simp only [perform, hanswer]
            exact .stay hanswer
          · rcases release_eq_some_iff.1 hanswer with
              ⟨q, e, es, hq, hqueue, hdue, hopen, hroom, rfl, rfl⟩
            simp only [perform, hanswer]
            exact .release hq hqueue hdue hopen hroom
  | evict m =>
      cases hanswer : n.evict m with
      | error e =>
          simp only [perform, hanswer]
          exact .refuse rfl
      | ok answer =>
          rcases answer with ⟨_ | v, n'⟩
          · rcases evict_eq_none_iff.1 hanswer with ⟨q, hq, hempty, rfl⟩
            simp only [perform, hanswer]
            exact .nobody hq hempty
          · rcases evict_eq_some_iff.1 hanswer with ⟨q, e, es, hq, hqueue, rfl, rfl⟩
            simp only [perform, hanswer]
            exact .evict hq hqueue

end Effect

/-! ## Ledgers -/

/-- A vehicle enters a link. -/
structure Entrance where
  vehicle : Vehicle
  time : Time
  /-- The earliest exit that was answered; an admission from the waiting list has no answer. -/
  answer : Option Time

/-- What has happened on a link, each list in the order of the calls. -/
structure LinkLedger where
  /-- Who entered the queue. -/
  entered : List Entrance := []
  /-- Who was released or evicted. -/
  left : List Vehicle := []
  /-- Who was given to depart. -/
  departing : List Vehicle := []
  /-- Who of them has entered the queue. -/
  started : List Vehicle := []

namespace LinkLedger

/-- A vehicle enters. -/
def enter (h : LinkLedger) (x : Entrance) : LinkLedger := { h with entered := h.entered ++ [x] }

/-- A vehicle leaves. -/
def leave (h : LinkLedger) (v : Vehicle) : LinkLedger := { h with left := h.left ++ [v] }

/-- A vehicle departs onto the link. -/
def depart (h : LinkLedger) (v : Vehicle) : LinkLedger :=
  { h with departing := h.departing ++ [v] }

/-- Who was given to depart begins the trip, in this order. -/
def start (h : LinkLedger) (vs : List Vehicle) : LinkLedger :=
  { h with started := h.started ++ vs }

/-- Those who waited are admitted. -/
def enterAll (h : LinkLedger) (vs : List Vehicle) (now : Time) : LinkLedger :=
  { h.start vs with entered := h.entered ++ vs.map fun v => ⟨v, now, none⟩ }

end LinkLedger

/-- Who has come off the front of the waiting list of a link. -/
def QueueNetwork.admitted {α : Type} (before after : QueueNetwork α) (l : LinkId) :
    List Vehicle :=
  match before.link? l, after.link? l with
  | some q, some q' => q.waiting.take (q.waiting.length - q'.waiting.length)
  | _, _ => []

/-- The ledger of a link after a call, from the answer to the call and from who has come off the
waiting list. -/
def LinkLedger.record (h : LinkLedger) (l : LinkId) (admitted : List Vehicle) :
    QueueCall → QueueAnswer → LinkLedger
  | .enqueue v m now, .entered exit => if m = l then h.enter ⟨v, now, some exit⟩ else h
  | .depart v m now, .departed (.entered exit) =>
    if m = l then ((h.depart v).start [v]).enter ⟨v, now, some exit⟩ else h
  | .depart v m _, .departed .waiting => if m = l then h.depart v else h
  | .update now, _ => h.enterAll admitted now
  | .release m _ _, .left (some v) => if m = l then h.leave v else h
  | .evict m, .left (some v) => if m = l then h.leave v else h
  | _, _ => h

/-- A refused call leaves no trace. -/
theorem LinkLedger.record_refused {c : QueueCall} {e : QueueError} {h : LinkLedger} {l : LinkId}
    {admitted : List Vehicle} (hcall : c.isUpdate = false) :
    h.record l admitted c (.refused e) = h := by
  cases c with
  | update now => cases hcall
  | enqueue | depart | release | evict => rfl

/-! ## Histories -/

/-- Queues with the ledgers of their links. -/
structure QueueHistory (α : Type) where
  queues : QueueNetwork α
  ledger : LinkId → LinkLedger

namespace QueueHistory

variable {α : Type} [FlowNumber α]

/-- Nothing has happened yet. -/
def start (n : QueueNetwork α) : QueueHistory α := ⟨n, fun _ => {}⟩

/-- The history with one call more. -/
def call (h : QueueHistory α) (c : QueueCall) : QueueHistory α :=
  { queues := (h.queues.perform c).2
    ledger := fun l =>
      (h.ledger l).record l (h.queues.admitted (h.queues.perform c).2 l) c
        (h.queues.perform c).1 }

/-- The history of calls to queues in which nothing has happened yet. -/
def of (n : QueueNetwork α) (calls : List QueueCall) : QueueHistory α :=
  calls.foldl call (start n)

end QueueHistory

/-! ## What a call does to one link -/

section Change

variable {α : Type} [FlowNumber α]

/-- What can happen to the queue of a link and its ledger. -/
inductive LinkChange (q : LinkQueue α) (h : LinkLedger) : LinkQueue α → LinkLedger → Prop where
  | idle : LinkChange q h q h
  | enter {v now} (hspace : q.hasSpace = true) :
      LinkChange q h (q.push now v) (h.enter ⟨v, now, some (q.entry v now).earliestExit⟩)
  | depart {v now} (hspace : q.hasSpace = true) (hwaiting : q.waiting = []) :
      LinkChange q h (q.push now v)
        (((h.depart v).start [v]).enter ⟨v, now, some (q.entry v now).earliestExit⟩)
  | wait {v} (hfull : ¬ (q.hasSpace = true ∧ q.waiting = [])) :
      LinkChange q h (q.wait v) (h.depart v)
  | update {now} :
      LinkChange q h (q.update now)
        (h.enterAll (q.waiting.take (q.waiting.length - (q.update now).waiting.length)) now)
  | release {e es now} (hqueue : q.queue = e :: es) (hdue : e.earliestExit ≤ now)
      (hopen : q.flow.isOpen = true) :
      LinkChange q h { q.dropHead with flow := q.flow.spend } (h.leave e.vehicle)
  | evict {e es} (hqueue : q.queue = e :: es) :
      LinkChange q h q.dropHead (h.leave e.vehicle)

/-- A call that changes one link changes no other. -/
theorem change_set {n : QueueNetwork α} {l m : LinkId} {q q₀ q' : LinkQueue α} {h : LinkLedger}
    {f : LinkLedger → LinkLedger} (hq : n.link? l = some q) (hm : n.link? m = some q₀)
    (hchange : ∀ h, LinkChange q₀ h q' (f h)) :
    ∃ r, (n.set m q').link? l = some r ∧ LinkChange q h r (if m = l then f h else h) := by
  by_cases hml : m = l
  · subst hml
    cases hq.symm.trans hm
    refine ⟨q', QueueNetwork.link_set_self hm, ?_⟩
    rw [if_pos rfl]
    exact hchange h
  · refine ⟨q, (QueueNetwork.link_set_of_ne hml).trans hq, ?_⟩
    rw [if_neg hml]
    exact .idle

/-- An effect on the queues is one of the changes to every link. -/
theorem CallEffect.change {n n' : QueueNetwork α} {c : QueueCall} {answer : QueueAnswer}
    {l : LinkId} {q : LinkQueue α} (heffect : CallEffect n c answer n') (hq : n.link? l = some q)
    (h : LinkLedger) :
    ∃ q', n'.link? l = some q' ∧
      LinkChange q h q' (h.record l (n.admitted n' l) c answer) := by
  cases heffect with
  | refuse hcall =>
      rw [LinkLedger.record_refused hcall]
      exact ⟨q, hq, .idle⟩
  | enter hm hspace => exact change_set hq hm fun x => .enter hspace
  | depart hm hspace hwaiting => exact change_set hq hm fun x => .depart hspace hwaiting
  | wait hm hfull => exact change_set hq hm fun x => .wait hfull
  | @update now =>
      have hupdate : (n.update now).link? l = some (q.update now) := by
        rw [QueueNetwork.link?_update, hq]
        rfl
      refine ⟨q.update now, hupdate, ?_⟩
      simp only [LinkLedger.record, QueueNetwork.admitted, hq, hupdate]
      exact .update
  | release hm hqueue hdue hopen hroom =>
      exact change_set hq hm fun x => .release hqueue hdue hopen
  | stay hstay => exact ⟨q, hq, .idle⟩
  | evict hm hqueue => exact change_set hq hm fun x => .evict hqueue
  | nobody hm hempty => simpa [LinkLedger.record] using change_set hq hm fun x => .idle

namespace QueueHistory

variable {h : QueueHistory α} {l : LinkId} {q : LinkQueue α}

/-- A call does one of the changes to every link. -/
theorem change_call (hq : h.queues.link? l = some q) (c : QueueCall) :
    ∃ q', (h.call c).queues.link? l = some q' ∧
      LinkChange q (h.ledger l) q' ((h.call c).ledger l) :=
  (h.queues.perform_effect c).change hq (h.ledger l)

/-- What holds of the queue of a link at first and is kept by every change holds after any
calls. -/
theorem invariant {P : LinkQueue α → LinkLedger → Prop} {n : QueueNetwork α}
    (hq : n.link? l = some q) (hstart : P q {})
    (hchange : ∀ q h q' h', P q h → LinkChange q h q' h' → P q' h')
    (calls : List QueueCall) :
    ∃ q', (of n calls).queues.link? l = some q' ∧ P q' ((of n calls).ledger l) := by
  have hfold : ∀ (calls : List QueueCall) (h : QueueHistory α),
      (∃ q, h.queues.link? l = some q ∧ P q (h.ledger l)) →
        ∃ q, (calls.foldl call h).queues.link? l = some q ∧
          P q ((calls.foldl call h).ledger l) := by
    intro calls
    induction calls with
    | nil => exact fun _ hP => hP
    | cons c calls ih =>
        rintro h ⟨q, hq, hP⟩
        apply ih
        rcases change_call hq c with ⟨q', hq', hstep⟩
        exact ⟨q', hq', hchange _ _ _ _ hP hstep⟩
  exact hfold calls _ ⟨q, hq, hstart⟩

end QueueHistory

end Change

end TrafficQueue
