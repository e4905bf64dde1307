import Mathlib.Data.List.Forall2
import TrafficQueue.Proofs.Text.Numeral
import TrafficQueue.Time

/-!
# Times in writing

A time is written as a number of seconds, as hours and minutes, or as hours, minutes and seconds,
with colons between the fields; `never` is written as a word.  The forms are given here without the
reader, which splits a text at its colons and only then looks at the fields.

Main results:

- Definition `Time.Names`: the forms, with the seconds that they stand for.
- Definition `Time.Written`: a form with nothing but blanks around it.
- Theorem `Time.names_iff`: the forms are those whose fields, taken apart at the colons, have
  a value.
- Theorem `Time.read_eq_ok_iff`: what is read, up to the end of time.
- Theorem `Time.reads_as_written`: every time is read back from its text, and a text is read as a
  time exactly if the time is written there.
-/

namespace TrafficQueue.Time

open Text

variable {cs : List Char} {fields : List (List Char)} {ns : List Nat} {c : Char} {m n : Nat}
  {s : String} {t : Time}

/-! ## The forms -/

/-- A word in letters that may be small or capital. -/
def InAnyCase (cs word : List Char) : Prop :=
  List.Forall₂ (fun c letter => c = letter ∨ c = letter.toUpper) cs word

/-- The written forms of times, with the seconds that they stand for. -/
inductive Names : List Char → Nat → Prop where
  | never {cs : List Char} (h : InAnyCase cs "never".toList) : Names cs never.secs
  | seconds {ss : List Char} {s : Nat} (hseconds : Numeral ss s) (hrange : s < UInt64.size) :
      Names ss s
  | minutes {hs ms : List Char} {h m : Nat} (hhours : Numeral hs h) (hrange : h < UInt64.size)
      (hminutes : Numeral ms m) (hlt : m < 60) : Names (hs ++ ':' :: ms) (h * 3600 + m * 60)
  | clock {hs ms ss : List Char} {h m s : Nat} (hhours : Numeral hs h) (hrange : h < UInt64.size)
      (hminutes : Numeral ms m) (hlt : m < 60) (hseconds : Numeral ss s) (hlt' : s < 60) :
      Names (hs ++ ':' :: (ms ++ ':' :: ss)) (h * 3600 + m * 60 + s)

/-- A time is written in a text if its form stands there with nothing but blanks around it. -/
def Written (s : String) (secs : Nat) : Prop :=
  ∃ front core back, s.toList = front ++ (core ++ back) ∧ (∀ c ∈ front, isBlank c = true) ∧
    (∀ c ∈ back, isBlank c = true) ∧ Names core secs

/-! ## Letters -/

/-- What holds of the letters of the word for the end of time. -/
theorem forall_never {p : Char → Prop} (h : p 'n' ∧ p 'e' ∧ p 'v' ∧ p 'r') :
    ∀ letter ∈ "never".toList, p letter := by
  have hletters : "never".toList = ['n', 'e', 'v', 'e', 'r'] := rfl
  rcases h with ⟨hn, he, hv, hr⟩
  simp [hletters, hn, he, hv, hr]

/-- A letter that is changed to a small one is its capital. -/
theorem toLower_cases (c : Char) : c.toLower = c ∨ c.toLower.toUpper = c := by
  unfold Char.toLower
  split
  · rename_i h
    have hrange : 'a'.val ≤ c.val + 32 ∧ c.val + 32 ≤ 'z'.val := by
      grind
    refine .inr ((dif_pos hrange).trans (Char.ext ?_))
    change c.val + 32 + ('A'.val - 'a'.val) = c.val
    grind
  · exact .inl rfl

/-- A word of small letters is recognized by making all letters small. -/
theorem inAnyCase_iff {word : List Char}
    (hsmall : ∀ letter ∈ word, letter.toLower = letter ∧ letter.toUpper.toLower = letter) :
    InAnyCase cs word ↔ cs.map Char.toLower = word := by
  induction word generalizing cs with
  | nil => rw [InAnyCase, List.forall₂_nil_right_iff, List.map_eq_nil_iff]
  | cons letter word ih =>
      rw [List.forall_mem_cons] at hsmall
      have hletter : ∀ c : Char, c = letter ∨ c = letter.toUpper ↔ c.toLower = letter := by
        intro c
        constructor
        · rintro (rfl | rfl)
          · exact hsmall.1.1
          · exact hsmall.1.2
        · rintro rfl
          exact (toLower_cases c).imp Eq.symm Eq.symm
      rw [InAnyCase, List.forall₂_cons_right_iff, List.map_eq_cons_iff]
      constructor
      · rintro ⟨c, cs, hc, hcs, rfl⟩
        exact ⟨c, cs, rfl, (hletter c).1 hc, (ih hsmall.2).1 hcs⟩
      · rintro ⟨c, cs, rfl, hc, hcs⟩
        exact ⟨c, cs, (hletter c).2 hc, (ih hsmall.2).2 hcs, rfl⟩

/-- What holds of small and capital letters of a word holds in any case. -/
theorem InAnyCase.forall {word : List Char} {p : Char → Prop} (h : InAnyCase cs word)
    (hp : ∀ letter ∈ word, p letter ∧ p letter.toUpper) : ∀ c ∈ cs, p c := by
  induction h with
  | nil => exact List.forall_mem_nil _
  | cons hletter _ ih =>
      rw [List.forall_mem_cons] at hp ⊢
      refine ⟨?_, ih hp.2⟩
      rcases hletter with rfl | rfl
      · exact hp.1.1
      · exact hp.1.2

/-! ## Fields -/

/-- The seconds that fields stand for, if they are the fields of a time. -/
def secondsOf : List Nat → Option Nat
  | [s] => some s
  | [h, m] => if m < 60 then some (h * 3600 + m * 60) else none
  | [h, m, s] => if m < 60 ∧ s < 60 then some (h * 3600 + m * 60 + s) else none
  | _ => none

/-- The fields of a time give the seconds that they stand for. -/
theorem ofFields_eq (ns : List Nat) : ofFields ns = (secondsOf ns).map ofSecs := by
  rcases ns with _ | ⟨a, _ | ⟨b, _ | ⟨c, _ | ⟨d, ns⟩⟩⟩⟩
  · rfl
  · rfl
  · rw [ofFields, secondsOf, apply_ite (Option.map ofSecs), Option.map_some, Option.map_none,
      ofClock, Nat.add_zero]
  · rw [ofFields, secondsOf, apply_ite (Option.map ofSecs), Option.map_some, Option.map_none,
      ofClock]
  · rfl

/-- Numerals in the range of times, with their numbers. -/
def Fields (fields : List (List Char)) (ns : List Nat) : Prop :=
  List.Forall₂ (fun field n => Numeral field n ∧ n < UInt64.size) fields ns

/-- The fields are read when all are numerals. -/
theorem mapM_readBelow_eq_some_iff :
    fields.mapM (readBelow UInt64.size) = some ns ↔ Fields fields ns := by
  induction fields generalizing ns with
  | nil =>
      rw [List.mapM_nil, Fields, List.forall₂_nil_left_iff]
      exact Option.some_inj.trans eq_comm
  | cons field fields ih =>
      rw [List.mapM_cons, Fields, List.forall₂_cons_left_iff]
      simp only [Option.bind_eq_bind, Option.bind_eq_some_iff, Option.pure_def, Option.some_inj]
      constructor
      · rintro ⟨n, hn, ms, hms, rfl⟩
        exact ⟨n, ms, readBelow_eq_some_iff.1 hn, ih.1 hms, rfl⟩
      · rintro ⟨n, ms, hn, hms, rfl⟩
        exact ⟨n, readBelow_eq_some_iff.2 hn, ms, ih.2 hms, rfl⟩

theorem Fields.colon_notMem (h : Fields fields ns) : ∀ field ∈ fields, ':' ∉ field := by
  intro field hmem
  induction h with
  | nil => cases hmem
  | cons hfield _ ih =>
      rcases List.mem_cons.1 hmem with rfl | hmem
      · exact hfield.1.colon_notMem
      · exact ih hmem

/-- Taking a text apart at its colons gives the fields that were put together with colons. -/
theorem readFields_eq_some_iff :
    (cs.splitOn ':').mapM (readBelow UInt64.size) = some ns ↔
      ∃ fields, fields ≠ [] ∧ cs = [':'].intercalate fields ∧ Fields fields ns := by
  rw [mapM_readBelow_eq_some_iff]
  constructor
  · exact fun h => ⟨cs.splitOn ':', List.splitOn_ne_nil _ _, (List.intercalate_splitOn ':').symm, h⟩
  · rintro ⟨fields, hne, rfl, h⟩
    rwa [List.splitOn_intercalate ':' h.colon_notMem hne]

/-- A colon stands between two fields. -/
theorem intercalate_colon (field next : List Char) (fields : List (List Char)) :
    [':'].intercalate (field :: next :: fields) =
      field ++ ':' :: [':'].intercalate (next :: fields) := by
  rw [List.intercalate_cons_cons, List.append_assoc, List.singleton_append]

/-- Fields are the fields of a time if they are put together to one of its forms. -/
theorem names_of_fields (h : Fields fields ns) (hn : secondsOf ns = some n) :
    Names ([':'].intercalate fields) n := by
  unfold secondsOf at hn
  split at hn
  · simp only [Fields, List.forall₂_cons_right_iff, List.forall₂_nil_right_iff] at h
    rcases h with ⟨ss, _, ⟨hseconds, hrange⟩, rfl, rfl⟩
    cases hn
    rw [List.intercalate_singleton]
    exact .seconds hseconds hrange
  · simp only [Fields, List.forall₂_cons_right_iff, List.forall₂_nil_right_iff] at h
    rcases h with ⟨hs, _, ⟨hhours, hrange⟩, ⟨ms, _, ⟨hminutes, -⟩, rfl, rfl⟩, rfl⟩
    split at hn
    · rename_i hlt
      cases hn
      rw [intercalate_colon, List.intercalate_singleton]
      exact .minutes hhours hrange hminutes hlt
    · cases hn
  · simp only [Fields, List.forall₂_cons_right_iff, List.forall₂_nil_right_iff] at h
    rcases h with ⟨hs, _, ⟨hhours, hrange⟩, ⟨ms, _, ⟨hminutes, -⟩, ⟨ss, _, ⟨hseconds, -⟩, rfl, rfl⟩,
      rfl⟩, rfl⟩
    split at hn
    · rename_i hlt
      cases hn
      rw [intercalate_colon, intercalate_colon, List.intercalate_singleton]
      exact .clock hhours hrange hminutes hlt.1 hseconds hlt.2
    · cases hn
  · cases hn

/-- The text of a time is the word for never or has fields between colons. -/
theorem fields_of_names (h : Names cs n) :
    InAnyCase cs "never".toList ∧ n = never.secs ∨
      ∃ fields ns, fields ≠ [] ∧ cs = [':'].intercalate fields ∧ Fields fields ns ∧
        secondsOf ns = some n := by
  cases h with
  | never hword => exact .inl ⟨hword, rfl⟩
  | seconds hseconds hrange =>
      exact .inr ⟨[cs], [n], by simp, by simp, .cons ⟨hseconds, hrange⟩ .nil, rfl⟩
  | @minutes hs ms h m hhours hrange hminutes hlt =>
      refine .inr ⟨[hs, ms], [h, m], by simp, by simp, ?_, if_pos hlt⟩
      exact .cons ⟨hhours, hrange⟩ (.cons ⟨hminutes, Nat.lt_trans hlt (by decide)⟩ .nil)
  | @clock hs ms ss h m s hhours hrange hminutes hlt hseconds hlt' =>
      refine .inr ⟨[hs, ms, ss], [h, m, s], by simp, by simp, ?_, if_pos ⟨hlt, hlt'⟩⟩
      exact .cons ⟨hhours, hrange⟩ (.cons ⟨hminutes, Nat.lt_trans hlt (by decide)⟩
        (.cons ⟨hseconds, Nat.lt_trans hlt' (by decide)⟩ .nil))

/-- Numerals are no words. -/
theorem Fields.not_letters (h : Fields fields ns) (hne : fields ≠ []) :
    ¬ InAnyCase ([':'].intercalate fields) "never".toList := by
  intro hword
  have hletters := hword.forall (p := fun c => c ≠ '+' ∧ c.isDigit = false)
    (forall_never (by decide))
  cases h with
  | nil => exact hne rfl
  | @cons field n fields ns hfield _ =>
      rcases List.exists_cons_of_ne_nil hfield.1.ne_nil with ⟨c, cs, rfl⟩
      rw [List.intercalate_cons_cons_left, List.forall_mem_cons] at hletters
      rcases hfield.1.mem List.mem_cons_self with hsign | hdigit
      · exact hletters.1.1 hsign
      · exact absurd hdigit (by simp [hletters.1.2])

/-- The seconds that a text stands for, whether or not a time has so many. -/
def secondsIn (cs : List Char) : Option Nat :=
  if cs.map Char.toLower = "never".toList then some never.secs
  else ((cs.splitOn ':').mapM (readBelow UInt64.size)).bind secondsOf

/-- Trimmed characters are read as the seconds that stand in them. -/
theorem readTrimmed_eq (cs : List Char) : readTrimmed cs = (secondsIn cs).map ofSecs := by
  unfold readTrimmed secondsIn
  split
  · rw [Option.map_some, ofSecs_secs]
  · rw [Option.map_bind]
    exact congrArg _ (funext ofFields_eq)

/-- The forms are the word for the end of time, and what can be taken apart into the fields of a
time. -/
theorem names_iff : Names cs n ↔ secondsIn cs = some n := by
  have hword : InAnyCase cs "never".toList ↔ cs.map Char.toLower = "never".toList :=
    inAnyCase_iff (forall_never (by decide))
  unfold secondsIn
  constructor
  · intro h
    rcases fields_of_names h with ⟨hnever, rfl⟩ | ⟨fields, ns, hne, rfl, hfields, hn⟩
    · exact if_pos (hword.1 hnever)
    · rw [if_neg fun hnever => hfields.not_letters hne (hword.2 hnever), Option.bind_eq_some_iff]
      exact ⟨ns, readFields_eq_some_iff.2 ⟨fields, hne, rfl, hfields⟩, hn⟩
  · intro h
    split at h
    · rename_i hnever
      cases h
      exact .never (hword.2 hnever)
    · rcases Option.bind_eq_some_iff.1 h with ⟨ns, hns, hn⟩
      rcases readFields_eq_some_iff.1 hns with ⟨fields, -, rfl, hfields⟩
      exact names_of_fields hfields hn

/-! ## Blanks around a form -/

/-- The text of a time is not empty and has no blanks. -/
theorem Names.not_blank (h : Names cs n) : cs ≠ [] ∧ ∀ c ∈ cs, isBlank c = false := by
  have hcolon : isBlank ':' = false := rfl
  cases h with
  | never hword =>
      refine ⟨?_, hword.forall (forall_never (by decide))⟩
      rintro rfl
      cases hword
  | seconds hseconds _ => exact ⟨hseconds.ne_nil, fun c => hseconds.not_blank⟩
  | minutes hhours _ hminutes _ =>
      refine ⟨List.append_ne_nil_of_left_ne_nil hhours.ne_nil _, ?_⟩
      simp only [List.forall_mem_append, List.forall_mem_cons]
      exact ⟨fun c => hhours.not_blank, hcolon, fun c => hminutes.not_blank⟩
  | clock hhours _ hminutes _ hseconds _ =>
      refine ⟨List.append_ne_nil_of_left_ne_nil hhours.ne_nil _, ?_⟩
      simp only [List.forall_mem_append, List.forall_mem_cons]
      exact ⟨fun c => hhours.not_blank, hcolon, fun c => hminutes.not_blank, hcolon,
        fun c => hseconds.not_blank⟩

/-- A text stands for seconds just when they stand in it, after trimming. -/
theorem written_iff : Written s n ↔ secondsIn (trim s.toList) = some n := by
  rw [← names_iff]
  constructor
  · rintro ⟨front, core, back, htext, hfront, hback, h⟩
    rwa [htext, trim_surround hfront h.not_blank.1 h.not_blank.2 hback]
  · intro h
    rcases exists_surround_trim s.toList with ⟨front, back, htext, hfront, hback⟩
    exact ⟨front, _, back, htext, hfront, hback, h⟩

/-- What is read is written there, and the end of time stands for what is beyond it. -/
theorem read_eq_ok_iff : read s = .ok t ↔ ∃ secs, Written s secs ∧ t = ofSecs secs := by
  have hread : read s = .ok t ↔ readTrimmed (trim s.toList) = some t := by
    unfold read
    simp only []
    split
    · rename_i t' h
      rw [h, Option.some_inj, Except.ok.injEq]
    · rename_i h
      simp [h]
  rw [hread, readTrimmed_eq, Option.map_eq_some_iff]
  simp only [written_iff, eq_comm]

/-- A text names a time in its own form. -/
theorem written_text (t : Time) : Written t.text t.secs := by
  refine ⟨[], t.text.toList, [], (List.append_nil _).symm, List.forall_mem_nil _,
    List.forall_mem_nil _, ?_⟩
  have hlt := t.secs_lt
  unfold text
  split
  · rename_i hnever
    subst hnever
    exact .never ((inAnyCase_iff (forall_never (by decide))).2 rfl)
  · have hclock : Names _ (t.secs / 3600 * 3600 + t.secs % 3600 / 60 * 60 + t.secs % 60) :=
      .clock (numeral_padded 2 (t.secs / 3600)) (by rw [UInt64.size]; omega)
        (numeral_padded 2 (t.secs % 3600 / 60)) (by omega) (numeral_padded 2 (t.secs % 60))
        (by omega)
    have hsecs : t.secs / 3600 * 3600 + t.secs % 3600 / 60 * 60 + t.secs % 60 = t.secs := by omega
    rw [hsecs] at hclock
    simpa [String.toList_append] using hclock

/-- Every time is read back from its text.  A text in which no time beyond the range is written is
read as a time exactly if that time is written there. -/
theorem reads_as_written :
    (∀ t : Time, read t.text = .ok t) ∧
      ∀ s : String, (∀ secs, Written s secs → secs < UInt64.size) →
        ∀ t : Time, read s = .ok t ↔ Written s t.secs := by
  refine ⟨fun t => read_eq_ok_iff.2 ⟨t.secs, written_text t, (ofSecs_secs t).symm⟩, ?_⟩
  intro s hrange t
  rw [read_eq_ok_iff]
  constructor
  · rintro ⟨secs, hsecs, rfl⟩
    have hlt : secs < 18446744073709551616 := hrange secs hsecs
    have hsame : (ofSecs secs).secs = secs := by
      rw [secs_ofSecs]
      omega
    rwa [hsame]
  · exact fun h => ⟨t.secs, h, (ofSecs_secs t).symm⟩

/-- A time in the morning, with a sign and with blanks around it, and the end of time. -/
theorem reads_as_written_morning :
    (∀ secs, Written " +07:30:05\t" secs → secs < UInt64.size) ∧
      read " +07:30:05\t" = .ok (ofClock 7 30 5) ∧ read "never" = .ok never := by
  have hsecs : secondsIn (trim " +07:30:05\t".toList) = some 27005 := by decide +kernel
  have hrange : ∀ secs, Written " +07:30:05\t" secs → secs < UInt64.size := by
    intro secs h
    cases hsecs.symm.trans (written_iff.1 h)
    decide
  exact ⟨hrange, (reads_as_written.2 _ hrange _).2 (written_iff.2 hsecs), reads_as_written.1 never⟩

end TrafficQueue.Time
