import Mathlib.Order.Bounds.Defs
import TrafficQueue.Proofs.Queue.Schedule

/-!
# Calls to the schedule

Whatever the schedule is asked, and at whatever times, it is a priority queue that keeps the order
in which agents were scheduled.  Every booking of an agent has the number of its call; bookings
stand in line by their times and, for the same time, by these numbers.  Who is due is taken from the
front of the line and does not come back.

Main results:

- Definition `EndQueue.after`: the schedule after the first of some calls.
- Definition `EndQueue.line`: the bookings that stand in line then.
- Theorem `EndQueue.standing_line`: they are the entries of the schedule, in order.
- Theorem `EndQueue.exists_serves`: every call to take out who is due takes out the bookings up to
  its time that no call before took out, in order.
-/

namespace TrafficQueue

/-- What can be asked of the schedule. -/
inductive EndCall where
  | push (t : Time) (a : AgentId)
  | drain (now : Time)

/-- An agent is scheduled to leave at a time, by the call of a number. -/
structure Booking where
  number : Nat
  time : Time
  agent : AgentId

namespace Booking

/-- Bookings for earlier times come first, and for the same time those made earlier. -/
def Before (b c : Booking) : Prop := b.time < c.time ∨ b.time = c.time ∧ b.number < c.number

/-- A booking is made by one of the calls, for a time at which somebody leaves. -/
def IsMade (calls : List EndCall) (b : Booking) : Prop :=
  calls[b.number]? = some (.push b.time b.agent) ∧ b.time ≠ .never

/-- The entry of the schedule. -/
def entry (b : Booking) : Time × AgentId := (b.time, b.agent)

theorem Before.ne {b c : Booking} (h : b.Before c) : b ≠ c := by
  rintro rfl
  rcases h with h | ⟨-, h⟩
  · exact Nat.lt_irrefl _ h
  · exact Nat.lt_irrefl _ h

theorem Before.le {b c : Booking} (h : b.Before c) : b.time ≤ c.time := by
  rcases h with h | ⟨h, -⟩
  · exact Nat.le_of_lt h
  · exact h ▸ Nat.le_refl _

end Booking

namespace EndQueue

/-- The schedule after a call. -/
def call (q : EndQueue) : EndCall → EndQueue
  | .push t a => (q.push t a).2
  | .drain now => (q.drain now).2

/-- The schedule, empty at first, after the first `n` of some calls. -/
def after (calls : List EndCall) (n : Nat) : EndQueue := (calls.take n).foldl call {}

/-- The bookings that stand in line after the first `n` of some calls. -/
def line (calls : List EndCall) : Nat → List Booking
  | 0 => []
  | n + 1 =>
    match calls[n]? with
    | some (.push t a) =>
      if t = .never then line calls n
      else (line calls n).takeWhile (fun b => b.time ≤ t) ++
        ⟨n, t, a⟩ :: (line calls n).dropWhile fun b => b.time ≤ t
    | some (.drain now) => (line calls n).dropWhile fun b => b.time ≤ now
    | none => line calls n

/-- The bookings that a call takes out. -/
def taken (calls : List EndCall) (j : Nat) : List Booking :=
  match calls[j]? with
  | some (.drain now) => (line calls j).takeWhile fun b => b.time ≤ now
  | _ => []

variable {calls : List EndCall} {n j : Nat} {t now : Time} {a : AgentId} {b : Booking}

/-- One more call is made. -/
theorem after_succ (h : calls[n]? = some c) : after calls (n + 1) = (after calls n).call c := by
  rw [after, List.take_add_one, h, Option.toList_some, List.foldl_append]
  rfl

/-- A booking is put behind those that are not later. -/
theorem line_push (h : calls[n]? = some (.push t a)) (ht : t ≠ .never) :
    line calls (n + 1) = (line calls n).takeWhile (fun b => b.time ≤ t) ++
      ⟨n, t, a⟩ :: (line calls n).dropWhile fun b => b.time ≤ t := by
  rw [line, h]
  exact if_neg ht

/-- Nobody is booked for the time that never comes. -/
theorem line_push_never (h : calls[n]? = some (.push .never a)) :
    line calls (n + 1) = line calls n := by
  rw [line, h]
  exact if_pos rfl

/-- Who is due leaves the line. -/
theorem line_drain (h : calls[n]? = some (.drain now)) :
    line calls (n + 1) = (line calls n).dropWhile fun b => b.time ≤ now := by
  rw [line, h]

/-- By a booking nobody is taken out. -/
theorem taken_push (h : calls[j]? = some (.push t a)) : taken calls j = [] := by
  rw [taken, h]

/-- Who is due is taken out, in line. -/
theorem taken_drain (h : calls[j]? = some (.drain now)) :
    taken calls j = (line calls j).takeWhile fun b => b.time ≤ now := by
  rw [taken, h]

/-! ## The line and the schedule -/

/-- A new entry parts those that are not later from the others. -/
theorem insert_eq (entry : Time × AgentId) (es : List (Time × AgentId)) :
    insert entry es = es.takeWhile (fun e => e.1 ≤ entry.1) ++
      entry :: es.dropWhile fun e => e.1 ≤ entry.1 := by
  induction es with
  | nil => rfl
  | cons e es ih =>
    by_cases hle : e.1 ≤ entry.1
    · simp [insert, hle, ih]
    · simp [insert, hle]

/-- The bookings in line are the entries of the schedule, in order. -/
structure Standing (q : EndQueue) (n : Nat) (bs : List Booking) : Prop where
  entries : q.entries = bs.map Booking.entry
  ordered : bs.Pairwise Booking.Before
  earlier : ∀ b ∈ bs, b.number < n

namespace Standing

variable {q : EndQueue} {bs : List Booking}

/-- In line those who are due come first, and the others stay. -/
theorem split (h : q.Standing n bs) (now : Time) :
    (bs.takeWhile fun b => b.time ≤ now) = bs.filter (fun b => b.time ≤ now) ∧
      (bs.dropWhile fun b => b.time ≤ now) = bs.filter fun b => !decide (b.time ≤ now) :=
  split_due Booking.time (h.ordered.imp Booking.Before.le) now

/-- A booking is put in line where its entry is put in the schedule. -/
theorem push (h : q.Standing n bs) (ht : t ≠ .never) (a : AgentId) :
    (q.push t a).2.Standing (n + 1) (bs.takeWhile (fun b => b.time ≤ t) ++
      ⟨n, t, a⟩ :: bs.dropWhile fun b => b.time ≤ t) := by
  refine ⟨?_, ?_, ?_⟩
  · rw [entries_push ht, insert_eq, h.entries, List.takeWhile_map, List.dropWhile_map,
      List.map_append]
    rfl
  · rw [(h.split t).1, (h.split t).2]
    refine List.pairwise_append.2
      ⟨h.ordered.filter _, List.pairwise_cons.2 ⟨?_, h.ordered.filter _⟩, ?_⟩
    · intro c hc
      have hlater : ¬ c.time ≤ t := by simpa using (List.mem_filter.1 hc).2
      exact .inl (Nat.lt_of_not_le hlater)
    · intro b hb c hc
      rcases List.mem_filter.1 hb with ⟨hbs, hle⟩
      have hle : b.time ≤ t := of_decide_eq_true hle
      rcases List.mem_cons.1 hc with rfl | hc
      · rcases Nat.lt_or_eq_of_le hle with hlt | heq
        · exact .inl hlt
        · exact .inr ⟨Time.ext heq, h.earlier b hbs⟩
      · have hlater : ¬ c.time ≤ t := by simpa using (List.mem_filter.1 hc).2
        exact .inl (Nat.lt_of_le_of_lt hle (Nat.lt_of_not_le hlater))
  · intro b hb
    rcases List.mem_append.1 hb with hb | hb
    · exact Nat.lt_succ_of_lt (h.earlier b ((List.takeWhile_prefix _).subset hb))
    · rcases List.mem_cons.1 hb with rfl | hb
      · exact Nat.lt_succ_self n
      · exact Nat.lt_succ_of_lt (h.earlier b ((List.dropWhile_suffix _).subset hb))

/-- Who is due is taken from the line and from the schedule. -/
theorem drain (h : q.Standing n bs) (now : Time) :
    (q.drain now).2.Standing (n + 1) (bs.dropWhile fun b => b.time ≤ now) := by
  have hstay : (bs.dropWhile fun b => b.time ≤ now).Sublist bs := List.dropWhile_sublist _
  refine ⟨?_, h.ordered.sublist hstay, fun b hb => ?_⟩
  · rw [(entries_drain q now).2, h.entries, List.dropWhile_map]
    rfl
  · exact Nat.lt_succ_of_lt (h.earlier b (hstay.subset hb))

theorem mono (h : q.Standing n bs) : q.Standing (n + 1) bs :=
  ⟨h.entries, h.ordered, fun b hb => Nat.lt_succ_of_lt (h.earlier b hb)⟩

/-- Who is taken out are the agents of the bookings up to the time. -/
theorem drained (h : q.Standing n bs) (now : Time) :
    (q.drain now).1 = (bs.takeWhile fun b => b.time ≤ now).map Booking.agent := by
  rw [(entries_drain q now).1, h.entries, List.takeWhile_map, List.map_map]
  rfl

/-- The next agent leaves at the least time in line. -/
theorem nextTime_eq_some_iff (h : q.Standing n bs) :
    q.nextTime = some t ↔ IsLeast { t | ∃ b ∈ bs, b.time = t } t := by
  rw [nextTime_eq, h.entries]
  cases bs with
  | nil =>
    refine ⟨fun hsome => by simp at hsome, ?_⟩
    rintro ⟨⟨b, hb, -⟩, -⟩
    cases hb
  | cons c bs =>
    have hleast : IsLeast { t | ∃ b ∈ c :: bs, b.time = t } c.time := by
      refine ⟨⟨c, List.mem_cons_self, rfl⟩, ?_⟩
      rintro _ ⟨b, hb, rfl⟩
      rcases List.mem_cons.1 hb with rfl | hb
      · exact Nat.le_refl _
      · exact ((List.pairwise_cons.1 h.ordered).1 b hb).le
    constructor
    · rintro hsome
      cases hsome
      exact hleast
    · intro ht
      exact congrArg some (Time.ext (Nat.le_antisymm (hleast.2 ht.1) (ht.2 hleast.1)))

end Standing

/-- After any calls the bookings in line are the entries of the schedule. -/
theorem standing_line (calls : List EndCall) (n : Nat) :
    (after calls n).Standing n (line calls n) := by
  induction n with
  | zero => exact ⟨rfl, List.Pairwise.nil, List.forall_mem_nil _⟩
  | succ n ih =>
    cases hcall : calls[n]? with
    | none =>
      have hsame : after calls (n + 1) = after calls n := by
        rw [after, List.take_add_one, hcall, Option.toList_none, List.append_nil, after]
      rw [hsame, line, hcall]
      exact ih.mono
    | some c =>
      rw [after_succ hcall]
      cases c with
      | push t a =>
        by_cases ht : t = .never
        · subst ht
          rw [line_push_never hcall, call, push_never]
          exact ih.mono
        · rw [line_push hcall ht]
          exact ih.push ht a
      | drain now =>
        rw [line_drain hcall]
        exact ih.drain now

/-- The bookings always stand in order. -/
theorem ordered_line (calls : List EndCall) (n : Nat) :
    (line calls n).Pairwise Booking.Before :=
  (standing_line calls n).ordered

/-! ## The line and the calls -/

/-- A call takes out those in line up to its time. -/
theorem mem_taken_iff (h : calls[j]? = some (.drain now)) :
    b ∈ taken calls j ↔ b ∈ line calls j ∧ b.time ≤ now := by
  rw [taken_drain h, ((standing_line calls j).split now).1, List.mem_filter, decide_eq_true_eq]

/-- Whoever is taken out stood in line. -/
theorem taken_sublist (calls : List EndCall) (j : Nat) :
    (taken calls j).Sublist (line calls j) := by
  unfold taken
  split
  · exact List.takeWhile_sublist _
  · exact List.nil_sublist _

/-- Whoever is taken out was booked before. -/
theorem number_lt_of_mem_taken (h : b ∈ taken calls j) : b.number < j :=
  (standing_line calls j).earlier b ((taken_sublist calls j).subset h)

/-- A call leaves in line whom it does not take out, and may add the booking it makes. -/
theorem mem_line_succ_iff :
    b ∈ line calls (n + 1) ↔
      b ∈ line calls n ∧ b ∉ taken calls n ∨ b.IsMade calls ∧ b.number = n := by
  have hmade : b.IsMade calls ∧ b.number = n ↔
      calls[n]? = some (.push b.time b.agent) ∧ b.time ≠ .never ∧ b.number = n := by
    constructor
    · rintro ⟨⟨hcall, hnever⟩, rfl⟩
      exact ⟨hcall, hnever, rfl⟩
    · rintro ⟨hcall, hnever, rfl⟩
      exact ⟨⟨hcall, hnever⟩, rfl⟩
  rw [hmade]
  cases hcall : calls[n]? with
  | none => simp [line, taken, hcall]
  | some c =>
    cases c with
    | push t a =>
      rw [taken_push hcall]
      by_cases ht : t = .never
      · subst ht
        rw [line_push_never hcall]
        simp +contextual [eq_comm]
      · have hparts : b ∈ (line calls n).takeWhile (fun b => b.time ≤ t) ∨
            b ∈ (line calls n).dropWhile (fun b => b.time ≤ t) ↔ b ∈ line calls n := by
          rw [← List.mem_append, List.takeWhile_append_dropWhile]
        have hnew : b = ⟨n, t, a⟩ ↔
            some (EndCall.push t a) = some (.push b.time b.agent) ∧ b.time ≠ .never ∧
              b.number = n := by
          constructor
          · rintro rfl
            exact ⟨rfl, ht, rfl⟩
          · rcases b with ⟨number, time, agent⟩
            rintro ⟨hsame, -, rfl⟩
            cases hsame
            rfl
        rw [line_push hcall ht, List.mem_append, List.mem_cons, or_left_comm, hparts, hnew, or_comm]
        simp
    | drain now =>
      rw [line_drain hcall, mem_taken_iff hcall, ((standing_line calls n).split now).2,
        List.mem_filter]
      simp +contextual

/-- In line are the bookings made so far that no call has taken out. -/
theorem mem_line_iff :
    b ∈ line calls n ↔ b.IsMade calls ∧ b.number < n ∧ ∀ i < n, b ∉ taken calls i := by
  induction n with
  | zero => simp [line]
  | succ n ih =>
    rw [mem_line_succ_iff, ih]
    constructor
    · rintro (⟨⟨hmade, hlt, hnot⟩, hn⟩ | ⟨hmade, rfl⟩)
      · refine ⟨hmade, Nat.lt_succ_of_lt hlt, fun i hi => ?_⟩
        rcases Nat.lt_succ_iff_lt_or_eq.1 hi with hi | rfl
        · exact hnot i hi
        · exact hn
      · refine ⟨hmade, Nat.lt_succ_self _, fun i hi htaken => ?_⟩
        exact Nat.not_lt_of_le (Nat.le_of_lt_succ hi) (number_lt_of_mem_taken htaken)
    · rintro ⟨hmade, hlt, hnot⟩
      rcases Nat.lt_succ_iff_lt_or_eq.1 hlt with hlt | heq
      · exact .inl ⟨⟨hmade, hlt, fun i hi => hnot i (Nat.lt_succ_of_lt hi)⟩,
          hnot n (Nat.lt_succ_self n)⟩
      · exact .inr ⟨hmade, heq⟩

/-! ## Every call is served in order -/

/-- The bookings that each of some calls takes out. -/
structure Serves (calls : List EndCall) (served : Nat → List Booking) : Prop where
  /-- Their agents are the answer. -/
  answer : ∀ j now, calls[j]? = some (.drain now) →
    ((after calls j).drain now).1 = (served j).map Booking.agent
  /-- They are the bookings up to the time of the call that were made before it and that no call
  before it took out. -/
  due : ∀ j now, calls[j]? = some (.drain now) → ∀ b, b ∈ served j ↔
    b.IsMade calls ∧ b.number < j ∧ b.time ≤ now ∧ ∀ i < j, b ∉ served i
  /-- They come in the order of their times and, for the same time, as they were made. -/
  ordered : ∀ j, (served j).Pairwise Booking.Before
  /-- To make a booking takes nobody out. -/
  nobody : ∀ j t a, calls[j]? = some (.push t a) → served j = []
  /-- The schedule knows how many bookings were made and not taken out, and the least of their
  times. -/
  waiting : ∀ n, ∃ bs : List Booking, bs.Nodup ∧
    (∀ b, b ∈ bs ↔ b.IsMade calls ∧ b.number < n ∧ ∀ i < n, b ∉ served i) ∧
    (after calls n).length = bs.length ∧ ((after calls n).nextTime = none ↔ bs = []) ∧
    ∀ t, (after calls n).nextTime = some t ↔ IsLeast { t | ∃ b ∈ bs, b.time = t } t

/-- The schedule serves any calls in order, whatever their times are. -/
theorem exists_serves (calls : List EndCall) : ∃ served, Serves calls served := by
  refine ⟨taken calls, ⟨fun j now hcall => ?_, fun j now hcall b => ?_, fun j => ?_,
    fun j t a hcall => taken_push hcall, fun n => ?_⟩⟩
  · rw [taken_drain hcall]
    exact (standing_line calls j).drained now
  · rw [mem_taken_iff hcall, mem_line_iff]
    constructor
    · rintro ⟨⟨hmade, hlt, hnot⟩, hle⟩
      exact ⟨hmade, hlt, hle, hnot⟩
    · rintro ⟨hmade, hlt, hle, hnot⟩
      exact ⟨⟨hmade, hlt, hnot⟩, hle⟩
  · exact (ordered_line calls j).sublist (taken_sublist calls j)
  · have hstanding := standing_line calls n
    refine ⟨line calls n, hstanding.ordered.imp Booking.Before.ne, fun b => mem_line_iff, ?_, ?_,
      fun t => hstanding.nextTime_eq_some_iff⟩
    · rw [← length_entries, hstanding.entries, List.length_map]
    · rw [nextTime_eq, hstanding.entries]
      simp

end EndQueue

end TrafficQueue
