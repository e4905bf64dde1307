import Mathlib.Data.List.TakeWhile
import TrafficQueue.EndQueue
import TrafficQueue.Proofs.Plan.Later
import TrafficQueue.Queue.Network

/-!
# Queues moved to a later time

In a queue that is moved all times are later by as much.  What is scheduled stays in
order, and whoever would leave at the end of time does not leave any more.  So the
operations on queues come to the same whether the queues are moved before or after,
provided that the current time stays before the end of time where it is looked at.

Main results:

- Definitions `EndQueue.later`, `LinkQueue.later` and `QueueNetwork.later`.
- Theorems `EndQueue.later_push` and `EndQueue.drain_later`: scheduling and what is due.
- Theorems `QueueNetwork.depart_later`, `QueueNetwork.enqueue_later`,
  `QueueNetwork.release_later` and `QueueNetwork.update_later`: the queues of links.
-/

namespace TrafficQueue

variable (d : Nat) {now : Time}

/-! ## Schedules -/

namespace EndQueue

/-- The entry with its time moved. -/
def moved (e : Time × AgentId) : Time × AgentId := (e.1.offset d, e.2)

/-- Whether the entry is still one before the end of time when it is moved. -/
def keeps (e : Time × AgentId) : Bool := e.1.offset d ≠ .never

/-- The entries with their times moved, as far as they are before the end of time. -/
def movedAll (es : List (Time × AgentId)) : List (Time × AgentId) :=
  (es.takeWhile (keeps d)).map (moved d)

/-- The bucket with its time moved. -/
def movedBucket (b : Time × List AgentId) : Time × List AgentId := (b.1.offset d, b.2)

/-- The buckets with their times moved, as far as they are before the end of time. -/
def movedBuckets (bs : List (Time × List AgentId)) : List (Time × List AgentId) :=
  (bs.takeWhile fun b => b.1.offset d ≠ .never).map (movedBucket d)

/-- The moved buckets are in order and have been counted. -/
theorem orderly_movedBuckets (q : EndQueue) :
    Orderly (movedBuckets d q.buckets)
      ((movedBuckets d q.buckets).flatMap Prod.snd).length := by
  have hkept : ∀ b ∈ q.buckets.takeWhile (fun b => b.1.offset d ≠ .never),
      b ∈ q.buckets ∧ b.1.offset d ≠ .never := by
    intro b hb
    have hlater := List.mem_takeWhile_imp hb
    exact ⟨(List.takeWhile_prefix _).subset hb, of_decide_eq_true hlater⟩
  refine ⟨List.pairwise_map.2 ?_, ?_, rfl⟩
  · have hascending := q.orderly.ascending.sublist
      (List.takeWhile_sublist (p := fun b => b.1.offset d ≠ .never))
    refine hascending.imp_of_mem fun hb hc hlt => ?_
    exact Nat.lt_of_not_le fun hle =>
      Nat.not_le_of_lt hlt ((Time.offset_le_offset_iff (hkept _ hb).2).1 hle)
  · intro b hb
    rcases List.mem_map.1 hb with ⟨c, hc, rfl⟩
    exact ⟨(hkept c hc).2, (q.orderly.occupied c (hkept c hc).1).2⟩

/-- The schedule with its times moved; whoever would leave at the end of time is not kept. -/
def later (q : EndQueue) : EndQueue :=
  ⟨movedBuckets d q.buckets, ((movedBuckets d q.buckets).flatMap Prod.snd).length,
    orderly_movedBuckets d q⟩

@[simp] theorem later_empty : ({} : EndQueue).later d = {} := rfl

/-- Moving a schedule moves its entries. -/
theorem entries_later (q : EndQueue) : (q.later d).entries = movedAll d q.entries := by
  rcases entriesOf_span (p := fun t => t.offset d ≠ .never) (r := fun t => t.offset d ≠ .never)
    fun b hb => ⟨(q.orderly.occupied b hb).2, rfl⟩ with ⟨hkept, -⟩
  change entriesOf (movedBuckets d q.buckets) = ((entriesOf q.buckets).takeWhile _).map _
  unfold keeps
  rw [← hkept]
  simp [movedBuckets, movedBucket, entriesOf, moved, List.flatMap_map, List.map_flatMap,
    Function.comp_def]

variable {d} {e entry : Time × AgentId} {es : List (Time × AgentId)}

/-- An entry that stays a time of day is moved. -/
theorem movedAll_cons_of_keeps (h : keeps d e = true) (es : List (Time × AgentId)) :
    movedAll d (e :: es) = moved d e :: movedAll d es := by
  simp [movedAll, h]

/-- Nothing is left from the first entry on that is moved beyond the day. -/
theorem movedAll_cons_of_not (h : ¬ keeps d e = true) (es : List (Time × AgentId)) :
    movedAll d (e :: es) = [] := by
  simp [movedAll, h]

/-- If an entry stays a time of day, so do those that are not later. -/
theorem keeps_of_le (h : keeps d entry = true) (hle : e.1 ≤ entry.1) : keeps d e = true :=
  decide_eq_true (Time.offset_ne_never_of_le (of_decide_eq_true h) hle)

/-- Moving keeps the order of the entries. -/
theorem moved_le_iff (h : keeps d entry = true) :
    (moved d e).1 ≤ (moved d entry).1 ↔ e.1 ≤ entry.1 :=
  Time.offset_le_offset_iff (of_decide_eq_true h)

/-- An entry finds the same place among moved entries. -/
theorem movedAll_insert (h : keeps d entry = true) (es : List (Time × AgentId)) :
    movedAll d (insert entry es) = insert (moved d entry) (movedAll d es) := by
  induction es with
  | nil => exact movedAll_cons_of_keeps h []
  | cons e es ih =>
      by_cases hle : e.1 ≤ entry.1
      · have he := keeps_of_le h hle
        rw [insert, if_pos hle, movedAll_cons_of_keeps he, ih, movedAll_cons_of_keeps he, insert,
          if_pos ((moved_le_iff h).2 hle)]
      · rw [insert, if_neg hle, movedAll_cons_of_keeps h]
        by_cases he : keeps d e = true
        · rw [movedAll_cons_of_keeps he, insert, if_neg (mt (moved_le_iff h).1 hle)]
        · rw [movedAll_cons_of_not he, insert]

/-- An entry that is not kept changes nothing about the moved entries. -/
theorem movedAll_insert_of_not (h : ¬ keeps d entry = true) (es : List (Time × AgentId)) :
    movedAll d (insert entry es) = movedAll d es := by
  induction es with
  | nil => exact movedAll_cons_of_not h []
  | cons e es ih =>
      by_cases hle : e.1 ≤ entry.1
      · rw [insert, if_pos hle]
        by_cases he : keeps d e = true
        · rw [movedAll_cons_of_keeps he, ih, movedAll_cons_of_keeps he]
        · rw [movedAll_cons_of_not he, movedAll_cons_of_not he]
      · have he : ¬ keeps d e = true := by
          intro he
          have hlt : entry.1 ≤ e.1 := Nat.le_of_not_le hle
          exact h (keeps_of_le he hlt)
        rw [insert, if_neg hle, movedAll_cons_of_not h, movedAll_cons_of_not he]

/-- Scheduling before moving is scheduling a moved time. -/
theorem later_push (q : EndQueue) (t : Time) (a : AgentId) :
    (q.push t a).2.later d = ((q.later d).push (t.offset d) a).2 := by
  by_cases hnever : t = .never
  · rw [hnever, Time.never_offset, push_never, push_never]
  · apply ext_entries
    rw [entries_later, entries_push hnever]
    by_cases hmoved : t.offset d = .never
    · have hkeeps : ¬ keeps d (t, a) = true := by simp [keeps, hmoved]
      rw [hmoved, push_never, entries_later, movedAll_insert_of_not hkeeps]
    · have hkeeps : keeps d (t, a) = true := by simp [keeps, hmoved]
      rw [entries_push hmoved, entries_later, movedAll_insert hkeeps]
      rfl

/-- Those who are due among moved entries, and the others. -/
theorem movedAll_due (h : now.offset d ≠ .never) (es : List (Time × AgentId)) :
    ((movedAll d es).takeWhile fun e => e.1 ≤ now.offset d) =
        (es.takeWhile fun e => e.1 ≤ now).map (moved d) ∧
      ((movedAll d es).dropWhile fun e => e.1 ≤ now.offset d) =
        movedAll d (es.dropWhile fun e => e.1 ≤ now) := by
  induction es with
  | nil => exact ⟨rfl, rfl⟩
  | cons e es ih =>
      have hmoved : (moved d e).1 ≤ now.offset d ↔ e.1 ≤ now := Time.offset_le_offset_iff h
      by_cases hle : e.1 ≤ now
      · have he : keeps d e = true := decide_eq_true (Time.offset_ne_never_of_le h hle)
        rw [movedAll_cons_of_keeps he]
        simp only [List.takeWhile_cons, List.dropWhile_cons, hmoved, hle, decide_true, if_true,
          List.map_cons, ih.1, ih.2, and_self]
      · by_cases he : keeps d e = true
        · rw [movedAll_cons_of_keeps he]
          simp [hmoved, hle, movedAll_cons_of_keeps he]
        · rw [movedAll_cons_of_not he]
          simp [hle, movedAll_cons_of_not he]

/-- The same agents are due in a moved schedule. -/
theorem drain_later (h : now.offset d ≠ .never) (q : EndQueue) :
    (q.later d).drain (now.offset d) = ((q.drain now).1, (q.drain now).2.later d) := by
  rcases movedAll_due h q.entries with ⟨hdue, hrest⟩
  rcases entries_drain q now with ⟨hids, hstay⟩
  rcases entries_drain (q.later d) (now.offset d) with ⟨hids', hstay'⟩
  rw [entries_later] at hids' hstay'
  refine Prod.ext ?_ (ext_entries ?_)
  · rw [hids', hids, hdue, List.map_map]
    rfl
  · rw [hstay', entries_later, hstay, hrest]

end EndQueue

/-! ## The queue of a link -/

/-- The entry with its times moved. -/
def QueueEntry.later (e : QueueEntry) : QueueEntry :=
  { e with enqueued := e.enqueued.offset d, earliestExit := e.earliestExit.offset d }

/-- The queue with all its times moved. -/
def LinkQueue.later {α : Type} (q : LinkQueue α) : LinkQueue α :=
  { q with queue := q.queue.map (QueueEntry.later d) }

namespace LinkQueue

variable {α : Type} (q : LinkQueue α) (v : Vehicle) (now : Time)

@[simp]
theorem entry_later : (q.later d).entry v (now.offset d) = (q.entry v now).later d := by
  simp only [entry, QueueEntry.later, QueueEntry.mk.injEq, true_and]
  exact Time.offset_comm _ _ _

theorem push_later : (q.later d).push (now.offset d) v = (q.push now v).later d := by
  simp only [push, entry_later]
  simp [later]

theorem foldl_push_later (vs : List Vehicle) :
    vs.foldl (push (now.offset d)) (q.later d) = (vs.foldl (push now) q).later d := by
  induction vs generalizing q with
  | nil => rfl
  | cons v vs ih => rw [List.foldl_cons, push_later, ih, List.foldl_cons]

theorem admitWaiting_later :
    (q.later d).admitWaiting (now.offset d) = (q.admitWaiting now).later d := by
  have hwaiting : (q.later d).waiting = q.waiting := rfl
  unfold admitWaiting
  rw [hwaiting]
  cases q.waiting with
  | nil => rfl
  | cons v vs => exact foldl_push_later d { q with waiting := (v :: vs).drop q.storage.room } now _

theorem evict_later :
    (q.later d).evict = (q.evict.1, q.evict.2.later d) := by
  rcases q with ⟨id, freeFlow, flow, storage, _ | ⟨e, es⟩, waiting⟩ <;> rfl

variable [FlowNumber α]

/-- A step starts for the moved queue at the moved time. -/
theorem update_later : (q.later d).update (now.offset d) = (q.update now).later d :=
  admitWaiting_later d { q with flow := q.flow.refill } now

theorem release_later :
    (q.later d).release = (q.release.1, q.release.2.later d) := by
  rcases q with ⟨id, freeFlow, flow, storage, _ | ⟨e, es⟩, waiting⟩ <;> rfl

variable {d now}

/-- The head of the moved queue is ready at the moved time, if that is a time of day. -/
theorem headReady_later (h : now.offset d ≠ .never) :
    (q.later d).headReady (now.offset d) = q.headReady now := by
  rcases q with ⟨id, freeFlow, flow, storage, _ | ⟨e, es⟩, waiting⟩
  · rfl
  · simp only [headReady, later, List.map_cons, QueueEntry.later, Time.offset_le_offset_iff h]

end LinkQueue

/-! ## The queues of a network -/

/-- The answer of a departure with its time moved. -/
def Departure.later : Departure → Departure
  | .entered t => .entered (t.offset d)
  | .waiting => .waiting

namespace QueueNetwork

variable {α : Type}

/-- The queues with all their times moved. -/
def later (n : QueueNetwork α) : QueueNetwork α := ⟨n.links.map (LinkQueue.later d)⟩

variable (n : QueueNetwork α) (v : Vehicle) (l : LinkId) (now : Time)

@[simp]
theorem link?_later : (n.later d).link? l = (n.link? l).map (LinkQueue.later d) :=
  Array.getElem?_map

theorem set_later (q : LinkQueue α) : (n.later d).set l (q.later d) = (n.set l q).later d := by
  simp [set, later]

theorem head?_later : (n.later d).head? l = (n.head? l).map (QueueEntry.later d) := by
  rw [head?, link?_later, head?]
  cases n.link? l with
  | none => rfl
  | some q => exact List.head?_map

/-- As many vehicles are on the moved network. -/
theorem traffic_later : (n.later d).traffic = n.traffic := by
  simp only [traffic, later, ← Array.foldl_toList, Array.toList_map, List.foldl_map,
    LinkQueue.later, List.length_map]

/-- A vehicle is taken in on the moved network at the moved time. -/
theorem enqueue_later :
    (n.later d).enqueue v l (now.offset d) =
      (n.enqueue v l now).map fun entered => (entered.1.offset d, entered.2.later d) := by
  unfold enqueue
  rw [link?_later]
  cases n.link? l with
  | none => rfl
  | some q =>
      have hspace : (q.later d).hasSpace = q.hasSpace := rfl
      simp only [Option.map_some, hspace, LinkQueue.entry_later, LinkQueue.push_later, set_later]
      split <;> rfl

theorem depart_later :
    (n.later d).depart v l (now.offset d) =
      (n.depart v l now).map fun gone => (gone.1.later d, gone.2.later d) := by
  unfold depart
  rw [link?_later]
  cases n.link? l with
  | none => rfl
  | some q =>
      have hspace : (q.later d).hasSpace = q.hasSpace := rfl
      have hwaiting : (q.later d).waiting = q.waiting := rfl
      have hwait : (q.later d).wait v = (q.wait v).later d := rfl
      simp only [Option.map_some, hspace, hwaiting, hwait, LinkQueue.entry_later,
        LinkQueue.push_later, set_later]
      split <;> rfl

/-- There is as much room on the moved network. -/
theorem downstreamRoom_later (way : Downstream) :
    (n.later d).downstreamRoom way = n.downstreamRoom way := by
  cases way with
  | exit => rfl
  | link l =>
      simp only [downstreamRoom, link?_later]
      cases n.link? l <;> rfl

theorem evict_later :
    (n.later d).evict l = (n.evict l).map fun left => (left.1, left.2.later d) := by
  unfold evict
  rw [link?_later]
  cases n.link? l with
  | none => rfl
  | some q =>
      simp only [Option.map_some, LinkQueue.evict_later, set_later]
      rfl

variable [FlowNumber α]

/-- A step starts on the moved network at the moved time. -/
theorem update_later : (n.later d).update (now.offset d) = (n.update now).later d := by
  simp only [update, later, Array.map_map, mk.injEq]
  exact Array.map_congr_left fun q _ => LinkQueue.update_later d q now

variable {d now}

theorem release_later (h : now.offset d ≠ .never) (way : Downstream) :
    (n.later d).release l (now.offset d) way =
      (n.release l now way).map fun left => (left.1, left.2.later d) := by
  unfold release
  rw [link?_later]
  cases n.link? l with
  | none => rfl
  | some q =>
      simp only [Option.map_some, LinkQueue.headReady_later q h, downstreamRoom_later,
        LinkQueue.release_later, set_later]
      split
      · cases n.downstreamRoom way with
        | error e => rfl
        | ok room => cases room <;> rfl
      · rfl

end QueueNetwork

end TrafficQueue
