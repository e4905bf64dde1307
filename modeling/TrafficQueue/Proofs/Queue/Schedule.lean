import Mathlib.Data.List.Basic
import TrafficQueue.EndQueue

/-!
# Entries of a schedule

Scheduling an agent adds one entry and keeps the others; taking out those who are
due splits the entries in two.

Main results:

- Theorem `EndQueue.perm_push`: what scheduling does to the entries.
- Theorem `EndQueue.pairwise_insert`: scheduling keeps an order of the entries.
- Theorem `EndQueue.append_drain`: what is due followed by what stays.
- Theorem `EndQueue.filter_insert`: scheduling among some of the entries only.
-/

namespace TrafficQueue

namespace EndQueue

variable {q : EndQueue} {t : Time} {a : AgentId}

/-- An insertion adds the entry. -/
theorem perm_insert (entry : Time × AgentId) (es : List (Time × AgentId)) :
    (insert entry es).Perm (entry :: es) := by
  induction es with
  | nil => rfl
  | cons e es ih =>
      unfold insert
      split
      · exact (ih.cons e).trans (List.Perm.swap entry e es)
      · rfl

/-- Whoever leaves at some time gets one entry more. -/
theorem perm_push (h : t ≠ .never) : (q.push t a).2.entries.Perm ((t, a) :: q.entries) := by
  rw [entries_push h]
  exact perm_insert _ _

/-- A new entry keeps an order of the entries if it belongs behind all that are not later and before
all that are. -/
theorem pairwise_insert {R : Time × AgentId → Time × AgentId → Prop} {entry : Time × AgentId}
    {es : List (Time × AgentId)} (h : es.Pairwise R) (hsorted : es.Pairwise fun a b => a.1 ≤ b.1)
    (hbehind : ∀ e ∈ es, e.1 ≤ entry.1 → R e entry)
    (hbefore : ∀ e ∈ es, ¬ e.1 ≤ entry.1 → R entry e) : (insert entry es).Pairwise R := by
  induction es with
  | nil => exact List.pairwise_singleton _ _
  | cons e es ih =>
      rcases List.pairwise_cons.1 h with ⟨hfirst, hrest⟩
      rcases List.pairwise_cons.1 hsorted with ⟨hle, hsorted'⟩
      rw [List.forall_mem_cons] at hbehind hbefore
      unfold insert
      split
      · rename_i hnotlater
        refine List.pairwise_cons.2 ⟨fun x hx => ?_, ih hrest hsorted' hbehind.2 hbefore.2⟩
        rcases List.mem_cons.1 ((perm_insert entry es).mem_iff.1 hx) with rfl | hx
        · exact hbehind.1 hnotlater
        · exact hfirst x hx
      · rename_i hlater
        refine List.pairwise_cons.2 ⟨fun x hx => ?_, h⟩
        rcases List.mem_cons.1 hx with rfl | hx
        · exact hbefore.1 hlater
        · exact hbefore.2 x hx fun hxle => hlater (Time.le_trans (hle x hx) hxle)

/-- The entries that are due are a beginning of the schedule. -/
theorem append_drain (q : EndQueue) (now : Time) :
    (q.entries.takeWhile fun e => e.1 ≤ now) ++ (q.drain now).2.entries = q.entries := by
  rw [(entries_drain q now).2]
  exact List.takeWhile_append_dropWhile

/-- Who is scheduled is counted. -/
theorem length_push (h : t ≠ .never) : (q.push t a).2.length = q.length + 1 := by
  rw [← length_entries, (perm_push h).length_eq, List.length_cons, length_entries]

/-- Who is taken out is counted no longer. -/
theorem length_drain (q : EndQueue) (now : Time) :
    (q.entries.takeWhile fun e => e.1 ≤ now).length + (q.drain now).2.length = q.length := by
  rw [← length_entries, ← List.length_append, append_drain, length_entries]

/-! ## Some of the entries -/

section Filter

variable {p : Time × AgentId → Bool} {entry : Time × AgentId} {es : List (Time × AgentId)}
  {now : Time}

/-- An entry that does not belong to them changes nothing about some of the entries. -/
theorem filter_insert_of_not (h : p entry = false) (es : List (Time × AgentId)) :
    (insert entry es).filter p = es.filter p := by
  induction es with
  | nil => simp [insert, h]
  | cons e es ih =>
      unfold insert
      split
      · rw [List.filter_cons, List.filter_cons, ih]
      · rw [List.filter_cons, h, if_neg Bool.false_ne_true]

/-- An entry that belongs to them finds the same place among some of the entries. -/
theorem filter_insert (h : p entry = true) (hsorted : es.Pairwise fun a b => a.1 ≤ b.1) :
    (insert entry es).filter p = insert entry (es.filter p) := by
  induction es with
  | nil => simp [insert, h]
  | cons e es ih =>
      rcases List.pairwise_cons.1 hsorted with ⟨hfirst, hrest⟩
      by_cases hle : e.1 ≤ entry.1
      · rw [insert, if_pos hle]
        cases hp : p e with
        | true =>
            rw [List.filter_cons_of_pos hp, List.filter_cons_of_pos hp, ih hrest, insert,
              if_pos hle]
        | false =>
            have hnot : ¬ p e = true := by simp [hp]
            rw [List.filter_cons_of_neg hnot, List.filter_cons_of_neg hnot, ih hrest]
      · have hlater : ∀ x ∈ e :: es, ¬ x.1 ≤ entry.1 := by
          intro x hx hxle
          rcases List.mem_cons.1 hx with rfl | hx
          · exact hle hxle
          · exact hle (Time.le_trans (hfirst x hx) hxle)
        rw [insert_of_later hlater, List.filter_cons_of_pos h, insert_of_later]
        intro x hx
        exact hlater x (List.mem_filter.1 hx).1

/-- In order of time those who are due come first, and the others stay. -/
theorem split_due {β : Type} (key : β → Time) {es : List β}
    (hsorted : es.Pairwise fun a b => key a ≤ key b) (now : Time) :
    (es.takeWhile fun e => key e ≤ now) = es.filter (fun e => key e ≤ now) ∧
      (es.dropWhile fun e => key e ≤ now) = es.filter fun e => !decide (key e ≤ now) := by
  induction es with
  | nil => exact ⟨rfl, rfl⟩
  | cons e es ih =>
      rcases List.pairwise_cons.1 hsorted with ⟨hfirst, hrest⟩
      rcases ih hrest with ⟨hdue, hstays⟩
      by_cases hle : key e ≤ now
      · simp only [List.takeWhile_cons, List.dropWhile_cons, List.filter_cons, hle, decide_true,
          if_true, hdue, hstays, Bool.not_true, Bool.false_eq_true, if_false, and_self]
      · have hlater : ∀ x ∈ es, ¬ key x ≤ now :=
          fun x hx hxle => hle (Time.le_trans (hfirst x hx) hxle)
        have hnone : es.filter (fun e => key e ≤ now) = [] := by
          rw [List.filter_eq_nil_iff]
          intro x hx
          simpa using hlater x hx
        have hall : es.filter (fun e => !decide (key e ≤ now)) = es := by
          rw [List.filter_eq_self]
          intro x hx
          simpa using hlater x hx
        simp [hle, hnone, hall]

/-- Some of those who are due are those who are due among some. -/
theorem filter_due (q : EndQueue) (p : Time × AgentId → Bool) (now : Time) :
    (q.entries.takeWhile fun e => e.1 ≤ now).filter p =
      (q.entries.filter p).filter fun e => e.1 ≤ now := by
  rw [(split_due Prod.fst q.sorted_entries now).1]
  exact List.filter_comm _ _ _

/-- Some of those who stay are those who stay among some. -/
theorem filter_drain (q : EndQueue) (p : Time × AgentId → Bool) (now : Time) :
    (q.drain now).2.entries.filter p =
      (q.entries.filter p).filter fun e => !decide (e.1 ≤ now) := by
  rw [(entries_drain q now).2, (split_due Prod.fst q.sorted_entries now).2]
  exact List.filter_comm _ _ _

/-- Scheduling one of some agents adds them among these. -/
theorem filter_push (h : t ≠ .never) {mine : Time × AgentId → Bool} (hmine : mine (t, a) = true)
    (q : EndQueue) :
    (q.push t a).2.entries.filter mine = insert (t, a) (q.entries.filter mine) := by
  rw [entries_push h, filter_insert hmine q.sorted_entries]

/-- Scheduling another agent changes nothing about some of them. -/
theorem filter_push_of_not {mine : Time × AgentId → Bool} (hother : mine (t, a) = false)
    (q : EndQueue) : (q.push t a).2.entries.filter mine = q.entries.filter mine := by
  by_cases h : t = .never
  · rw [h, push_never]
  · rw [entries_push h, filter_insert_of_not hother]

end Filter

end EndQueue

end TrafficQueue
