import TrafficQueue.Ident
import TrafficQueue.Time

/-!
# Agents waiting for the end of their activity

Agents who will leave stand in buckets, one for each time at which somebody leaves, in the order in
which they were scheduled.  The buckets are in the order of their times, and the agents in them are
counted apart.

Main results: `EndQueue.entries_push` and `EndQueue.entries_drain`, read in order the agents form a
list in which a new entry stands behind all that are not later, and who is due is taken from its
front.
-/

namespace TrafficQueue

/-- The buckets are in the order of their times, none of them is empty or for nobody's time, and the
total counts all agents. -/
structure EndQueue.Orderly (buckets : List (Time × List AgentId)) (total : Nat) : Prop where
  ascending : buckets.Pairwise fun a b => a.1 < b.1
  occupied : ∀ b ∈ buckets, b.1 ≠ .never ∧ b.2 ≠ []
  counted : total = (buckets.flatMap Prod.snd).length

/-- Without buckets there is nothing to put in order. -/
theorem EndQueue.orderly_nil : Orderly [] 0 :=
  ⟨List.Pairwise.nil, List.forall_mem_nil _, rfl⟩

/-- The agents who wait, in buckets by the times at which they leave. -/
structure EndQueue where
  /-- Who leaves at which time. -/
  buckets : List (Time × List AgentId) := []
  /-- How many agents wait. -/
  total : Nat := 0
  orderly : EndQueue.Orderly buckets total := by exact EndQueue.orderly_nil
deriving DecidableEq

namespace EndQueue

/-- At first nobody waits. -/
instance : Inhabited EndQueue := ⟨{}⟩

/-! ## Entries -/

/-- The agents of some buckets with their times, in order. -/
def entriesOf (buckets : List (Time × List AgentId)) : List (Time × AgentId) :=
  buckets.flatMap fun b => b.2.map fun a => (b.1, a)

/-- Who leaves at which time, in the order in which they will leave. -/
def entries (q : EndQueue) : List (Time × AgentId) := entriesOf q.buckets

/-- Puts an entry behind all that are not later. -/
def insert (entry : Time × AgentId) : List (Time × AgentId) → List (Time × AgentId)
  | [] => [entry]
  | e :: es => if e.1 ≤ entry.1 then e :: insert entry es else entry :: e :: es

section Buckets

variable {b c : Time × List AgentId} {bs rs : List (Time × List AgentId)} {t : Time} {a : AgentId}
  {e entry : Time × AgentId} {es : List (Time × AgentId)} {total : Nat}

@[simp] theorem entriesOf_cons (b : Time × List AgentId) (bs : List (Time × List AgentId)) :
    entriesOf (b :: bs) = b.2.map (fun a => (b.1, a)) ++ entriesOf bs :=
  List.flatMap_cons

/-- An entry belongs to the bucket of its time. -/
theorem mem_entriesOf : e ∈ entriesOf bs ↔ ∃ b ∈ bs, b.1 = e.1 ∧ e.2 ∈ b.2 := by
  simp only [entriesOf, List.mem_flatMap, List.mem_map, Prod.ext_iff]
  constructor
  · rintro ⟨b, hb, a, ha, htime, rfl⟩
    exact ⟨b, hb, htime, ha⟩
  · rintro ⟨b, hb, htime, ha⟩
    exact ⟨b, hb, e.2, ha, htime, rfl⟩

/-- The agents of the entries are those of the buckets, in the same order. -/
theorem map_snd_entriesOf (bs : List (Time × List AgentId)) :
    (entriesOf bs).map Prod.snd = bs.flatMap Prod.snd := by
  simp [entriesOf, List.map_flatMap, Function.comp_def]

/-- There are as many entries as agents in the buckets. -/
theorem length_entriesOf (bs : List (Time × List AgentId)) :
    (entriesOf bs).length = (bs.flatMap Prod.snd).length := by
  rw [← map_snd_entriesOf, List.length_map]

/-- Before later entries there is room at the front. -/
theorem insert_of_later (h : ∀ e ∈ es, ¬ e.1 ≤ entry.1) : insert entry es = entry :: es := by
  cases es with
  | nil => rfl
  | cons e es => rw [insert, if_neg (h e List.mem_cons_self)]

/-- An entry goes past all that are not later. -/
theorem insert_append (h : ∀ e ∈ es, e.1 ≤ entry.1) (rest : List (Time × AgentId)) :
    insert entry (es ++ rest) = es ++ insert entry rest := by
  induction es with
  | nil => rfl
  | cons e es ih =>
    rw [List.forall_mem_cons] at h
    rw [List.cons_append, insert, if_pos h.1, ih h.2, List.cons_append]

/-! ## Scheduling -/

/-- Adds an agent to the bucket of a time, behind those who are in it. -/
def put (t : Time) (a : AgentId) : List (Time × List AgentId) → List (Time × List AgentId)
  | [] => [(t, [a])]
  | b :: bs =>
    if b.1 < t then b :: put t a bs
    else if b.1 = t then (t, b.2 ++ [a]) :: bs
    else (t, [a]) :: b :: bs

/-- Putting an agent into its bucket changes that bucket and no other. -/
theorem mem_of_mem_put (h : b ∈ put t a bs) : b.1 = t ∧ b.2 ≠ [] ∨ b ∈ bs := by
  induction bs with
  | nil =>
    rw [List.mem_singleton.1 h]
    exact .inl ⟨rfl, List.cons_ne_nil _ _⟩
  | cons c bs ih =>
    unfold put at h
    split at h
    · rcases List.mem_cons.1 h with rfl | h
      · exact .inr List.mem_cons_self
      · exact (ih h).imp_right (List.mem_cons_of_mem c)
    · split at h
      · rcases List.mem_cons.1 h with rfl | h
        · exact .inl ⟨rfl, by simp⟩
        · exact .inr (List.mem_cons_of_mem c h)
      · rcases List.mem_cons.1 h with rfl | h
        · exact .inl ⟨rfl, List.cons_ne_nil _ _⟩
        · exact .inr h

/-- The buckets stay in the order of their times. -/
theorem ascending_put (h : bs.Pairwise fun a b => a.1 < b.1) (t : Time) (a : AgentId) :
    (put t a bs).Pairwise fun a b => a.1 < b.1 := by
  induction bs with
  | nil => exact List.pairwise_singleton _ _
  | cons c bs ih =>
    rcases List.pairwise_cons.1 h with ⟨hc, hbs⟩
    unfold put
    split
    · rename_i hlt
      refine List.pairwise_cons.2 ⟨fun b hb => ?_, ih hbs⟩
      rcases mem_of_mem_put hb with ⟨rfl, -⟩ | hb
      · exact hlt
      · exact hc b hb
    · rename_i hge
      split
      · rename_i heq
        subst heq
        exact List.pairwise_cons.2 ⟨hc, hbs⟩
      · rename_i hne
        have hlt : t < c.1 := by
          have : t.secs ≠ c.1.secs := fun he => hne (Time.ext he.symm)
          simp only [Time.lt_def] at hge ⊢
          omega
        refine List.pairwise_cons.2 ⟨fun b hb => ?_, h⟩
        rcases List.mem_cons.1 hb with rfl | hb
        · exact hlt
        · exact Nat.lt_trans hlt (hc b hb)

/-- One agent more is in the buckets. -/
theorem length_put (t : Time) (a : AgentId) (bs : List (Time × List AgentId)) :
    ((put t a bs).flatMap Prod.snd).length = (bs.flatMap Prod.snd).length + 1 := by
  induction bs with
  | nil => rfl
  | cons c bs ih =>
    unfold put
    split
    · simp only [List.flatMap_cons, List.length_append, ih]
      omega
    · split
      · simp only [List.flatMap_cons, List.length_append, List.length_singleton]
        omega
      · simp only [List.flatMap_cons, List.length_append, List.length_singleton]
        omega

/-- Putting an agent into its bucket keeps the queue in order. -/
theorem Orderly.put (h : Orderly bs total) (ht : t ≠ .never) (a : AgentId) :
    Orderly (put t a bs) (total + 1) := by
  refine ⟨ascending_put h.ascending t a, fun b hb => ?_, ?_⟩
  · rcases mem_of_mem_put hb with ⟨rfl, hsome⟩ | hb
    · exact ⟨ht, hsome⟩
    · exact h.occupied b hb
  · rw [length_put, h.counted]

/-- Putting an agent into its bucket puts its entry behind all that are not later. -/
theorem entriesOf_put (h : bs.Pairwise fun a b => a.1 < b.1) (t : Time) (a : AgentId) :
    entriesOf (put t a bs) = insert (t, a) (entriesOf bs) := by
  induction bs with
  | nil => rfl
  | cons c bs ih =>
    rcases List.pairwise_cons.1 h with ⟨hc, hbs⟩
    have hlater : ∀ e ∈ entriesOf bs, c.1 < e.1 := by
      intro e he
      rcases mem_entriesOf.1 he with ⟨b, hb, htime, -⟩
      exact htime ▸ hc b hb
    have hown : ∀ e ∈ c.2.map (fun a => (c.1, a)), e.1 = c.1 := by
      intro e he
      rcases List.mem_map.1 he with ⟨a, -, rfl⟩
      rfl
    unfold put
    split
    · rename_i hlt
      rw [entriesOf_cons, ih hbs, entriesOf_cons, insert_append]
      intro e he
      rw [hown e he]
      exact Nat.le_of_lt hlt
    · rename_i hge
      split
      · rename_i heq
        subst heq
        rw [entriesOf_cons, entriesOf_cons, insert_append fun e he => (hown e he ▸ Nat.le_refl _),
          insert_of_later fun e he => Nat.not_le_of_lt (hlater e he)]
        simp
      · rename_i hne
        have hlt : t < c.1 := by
          have : t.secs ≠ c.1.secs := fun he => hne (Time.ext he.symm)
          simp only [Time.lt_def] at hge ⊢
          omega
        rw [insert_of_later, entriesOf_cons (t, [a])]
        · rfl
        · intro e he
          rw [entriesOf_cons, List.mem_append] at he
          rcases he with he | he
          · rw [hown e he]
            exact Nat.not_le_of_lt hlt
          · exact Nat.not_le_of_lt (Nat.lt_trans hlt (hlater e he))

/-! ## Taking out who is due -/

/-- Parting the buckets parts the entries, also by another predicate that agrees on their times. -/
theorem entriesOf_span {p r : Time → Bool} (h : ∀ b ∈ bs, b.2 ≠ [] ∧ p b.1 = r b.1) :
    entriesOf (bs.takeWhile fun b => p b.1) = (entriesOf bs).takeWhile (fun e => r e.1) ∧
      entriesOf (bs.dropWhile fun b => p b.1) = (entriesOf bs).dropWhile fun e => r e.1 := by
  induction bs with
  | nil => exact ⟨rfl, rfl⟩
  | cons c bs ih =>
    rw [List.forall_mem_cons] at h
    rcases h with ⟨⟨hsome, hpp⟩, hbs⟩
    cases hp : r c.1 with
    | true =>
      have hown : ∀ e ∈ c.2.map (fun a => (c.1, a)), r e.1 = true := by
        intro e he
        rcases List.mem_map.1 he with ⟨a, -, rfl⟩
        exact hp
      simp only [List.takeWhile_cons, List.dropWhile_cons, hpp, hp, if_true, entriesOf_cons,
        List.takeWhile_append_of_pos hown, List.dropWhile_append_of_pos hown, (ih hbs).1,
        (ih hbs).2, and_self]
    | false =>
      rcases List.exists_cons_of_ne_nil hsome with ⟨a, as, has⟩
      simp [hpp, hp, has, entriesOf]

/-- In ascending buckets those of the first time are the first bucket. -/
theorem entriesOf_first (h : ∀ b ∈ bs, c.1 < b.1) (hsome : ∀ b ∈ c :: bs, b.2 ≠ []) :
    (entriesOf (c :: bs)).takeWhile (fun e => e.1 = c.1) = c.2.map (fun a => (c.1, a)) ∧
      (entriesOf (c :: bs)).dropWhile (fun e => e.1 = c.1) = entriesOf bs := by
  have hlater : ∀ b ∈ bs, (decide (b.1 = c.1)) = false := fun b hb =>
    decide_eq_false fun heq => Nat.lt_irrefl _ (heq ▸ h b hb)
  rcases entriesOf_span (p := fun t => t = c.1) (r := fun t => t = c.1) fun b hb =>
    ⟨hsome b hb, rfl⟩ with ⟨htake, hdrop⟩
  rw [← htake, ← hdrop]
  cases bs with
  | nil => simp [entriesOf]
  | cons b bs => simp [hlater b List.mem_cons_self, entriesOf]

/-- Ascending buckets are told apart by their entries. -/
theorem entriesOf_injective (h : bs.Pairwise fun a b => a.1 < b.1) (hsome : ∀ b ∈ bs, b.2 ≠ [])
    (hr : rs.Pairwise fun a b => a.1 < b.1) (hrsome : ∀ b ∈ rs, b.2 ≠ [])
    (heq : entriesOf bs = entriesOf rs) : bs = rs := by
  induction bs generalizing rs with
  | nil =>
    cases rs with
    | nil => rfl
    | cons r rs =>
      rcases List.exists_cons_of_ne_nil (hrsome r List.mem_cons_self) with ⟨a, as, has⟩
      simp [entriesOf, has] at heq
  | cons b bs ih =>
    rcases List.exists_cons_of_ne_nil (hsome b List.mem_cons_self) with ⟨a, as, has⟩
    cases rs with
    | nil => simp [entriesOf, has] at heq
    | cons r rs =>
      rcases List.exists_cons_of_ne_nil (hrsome r List.mem_cons_self) with ⟨x, xs, hxs⟩
      have htime : b.1 = r.1 := by
        have hhead := congrArg List.head? heq
        simp only [entriesOf_cons, has, hxs, List.map_cons, List.cons_append, List.head?_cons,
          Option.some_inj, Prod.mk.injEq] at hhead
        exact hhead.1
      rcases List.pairwise_cons.1 h with ⟨hb, hbs⟩
      rcases List.pairwise_cons.1 hr with ⟨hrs, hrest⟩
      rcases entriesOf_first hb hsome with ⟨hfirst, hothers⟩
      rcases entriesOf_first hrs hrsome with ⟨hfirst', hothers'⟩
      rw [heq, htime] at hfirst hothers
      have hagents : b.2 = r.2 :=
        List.map_inj_right (fun _ _ h => (Prod.mk.inj h).2) |>.1 (hfirst.symm.trans hfirst')
      rw [Prod.ext htime hagents, ih hbs (List.forall_mem_cons.1 hsome).2 hrest
        (List.forall_mem_cons.1 hrsome).2 (hothers.symm.trans hothers')]

/-- The time after `now` parts the times of buckets as `now` does. -/
theorem lt_offset_one_iff {now : Time} (ht : t ≠ .never) : t < now.offset 1 ↔ t ≤ now := by
  have hne : t.secs ≠ 0xffffffffffffffff := fun he => ht (Time.ext he)
  have := t.secs_lt
  simp only [Time.lt_def, Time.le_def, Time.secs_offset]
  omega

/-- Taking out the first buckets keeps the queue in order. -/
theorem Orderly.drop (h : Orderly bs total) (p : Time → Bool) :
    Orderly (bs.dropWhile fun b => p b.1)
      (total - ((bs.takeWhile fun b => p b.1).flatMap Prod.snd).length) := by
  have hsub : (bs.dropWhile fun b => p b.1).Sublist bs := List.dropWhile_sublist _
  refine ⟨h.ascending.sublist hsub, fun b hb => h.occupied b (hsub.subset hb), ?_⟩
  have hparts := congrArg (fun bs => (List.flatMap Prod.snd bs).length)
    (List.takeWhile_append_dropWhile (p := fun b : Time × List AgentId => p b.1) (l := bs))
  simp only [List.flatMap_append, List.length_append, ← h.counted] at hparts
  omega

end Buckets

/-! ## Operations -/

/-- Schedules an agent to leave at a time; who never leaves is not kept.  The answer says whether
the agent is in the queue now. -/
def push (q : EndQueue) (t : Time) (a : AgentId) : Bool × EndQueue :=
  if h : t = .never then (false, q)
  else (true, ⟨put t a q.buckets, q.total + 1, q.orderly.put h a⟩)

/-- The time at which the next agent leaves. -/
def nextTime (q : EndQueue) : Option Time := q.buckets.head?.map Prod.fst

/-- Takes out the agents that leave at `now` or before: the buckets are parted at the time after
`now`. -/
def drain (q : EndQueue) (now : Time) : List AgentId × EndQueue :=
  if q.nextTime.all (now < ·) then ([], q)
  else
    let due := (q.buckets.takeWhile fun b => b.1 < now.offset 1).flatMap Prod.snd
    (due, ⟨q.buckets.dropWhile fun b => b.1 < now.offset 1, q.total - due.length,
      q.orderly.drop fun t => t < now.offset 1⟩)

/-- How many agents wait. -/
def length (q : EndQueue) : Nat := q.total

/-- Whether nobody waits. -/
def isEmpty (q : EndQueue) : Bool := q.total = 0

/-! ## Operations on the entries -/

variable {q : EndQueue} {t : Time} {a : AgentId}

@[simp] theorem entries_empty : ({} : EndQueue).entries = [] := rfl

/-- As many agents wait as there are entries. -/
theorem length_entries (q : EndQueue) : q.entries.length = q.length := by
  rw [entries, length_entriesOf, ← q.orderly.counted, length]

/-- Nobody waits if there is no entry. -/
theorem isEmpty_iff : q.isEmpty = true ↔ q.entries = [] := by
  rw [isEmpty, decide_eq_true_eq, ← List.length_eq_zero_iff, length_entries, length]

/-- The entries stand in the order of their times. -/
theorem sorted_entries (q : EndQueue) : q.entries.Pairwise fun a b => a.1 ≤ b.1 := by
  refine List.pairwise_flatMap.2 ⟨fun b _ => ?_, ?_⟩
  · exact List.pairwise_map.2 (List.pairwise_of_forall fun _ _ => Nat.le_refl _)
  · refine q.orderly.ascending.imp fun hlt e he f hf => ?_
    rcases List.mem_map.1 he with ⟨_, -, rfl⟩
    rcases List.mem_map.1 hf with ⟨_, -, rfl⟩
    exact Nat.le_of_lt hlt

/-- A queue is known by its entries. -/
theorem ext_entries {r : EndQueue} (h : q.entries = r.entries) : q = r := by
  have hbuckets : q.buckets = r.buckets :=
    entriesOf_injective q.orderly.ascending (fun b hb => (q.orderly.occupied b hb).2)
      r.orderly.ascending (fun b hb => (r.orderly.occupied b hb).2) h
  have htotal : q.total = r.total := by rw [q.orderly.counted, r.orderly.counted, hbuckets]
  cases q
  cases r
  cases hbuckets
  cases htotal
  rfl

/-- Who never leaves is not kept. -/
theorem push_never (q : EndQueue) (a : AgentId) : q.push .never a = (false, q) := by
  rw [push, dif_pos rfl]

/-- Scheduling puts an entry behind all that are not later. -/
theorem entries_push (h : t ≠ .never) (q : EndQueue) (a : AgentId) :
    (q.push t a).2.entries = insert (t, a) q.entries := by
  rw [push, dif_neg h]
  exact entriesOf_put q.orderly.ascending t a

/-- The next agent leaves at the time of the first entry. -/
theorem nextTime_eq (q : EndQueue) : q.nextTime = q.entries.head?.map Prod.fst := by
  unfold nextTime entries
  cases hbuckets : q.buckets with
  | nil => rfl
  | cons b bs =>
    have hsome := (q.orderly.occupied b (hbuckets ▸ List.mem_cons_self)).2
    rcases List.exists_cons_of_ne_nil hsome with ⟨a, as, has⟩
    simp [has]

/-- Who is due is a beginning of the entries, and the others stay. -/
theorem entries_drain (q : EndQueue) (now : Time) :
    (q.drain now).1 = (q.entries.takeWhile fun e => e.1 ≤ now).map Prod.snd ∧
      (q.drain now).2.entries = q.entries.dropWhile fun e => e.1 ≤ now := by
  unfold drain
  split
  · rename_i hnone
    rw [nextTime_eq] at hnone
    cases hentries : q.entries with
    | nil => exact ⟨rfl, rfl⟩
    | cons e es =>
      rw [hentries] at hnone
      have hlater : ¬ e.1 ≤ now := by simpa [Time.lt_def, Time.le_def] using hnone
      simp [hlater]
  · rcases entriesOf_span (p := fun t => t < now.offset 1) (r := fun t => t ≤ now) fun b hb =>
      ⟨(q.orderly.occupied b hb).2,
        decide_eq_decide.2 (lt_offset_one_iff (q.orderly.occupied b hb).1)⟩ with ⟨htake, hdrop⟩
    exact ⟨(map_snd_entriesOf _).symm.trans (congrArg _ htake), hdrop⟩

end EndQueue

end TrafficQueue
