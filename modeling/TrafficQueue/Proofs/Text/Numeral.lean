import Mathlib.Data.List.DropRight
import TrafficQueue.Text.Blank
import TrafficQueue.Text.Numeral

/-!
# Numerals and blanks around them

Which texts are read as a number, and what trimming leaves of a text.  Neither says anything about
how the reader goes about it: a numeral is described by its form, and a trimmed text by what was
around it.

Main results:

- Definition `Text.Numeral`: an optional plus sign and digits, with the number they stand for.
- Theorem `Text.readBelow_eq_some_iff`: what is read as a number below a limit.
- Theorem `Text.numeral_padded`: what is written for a number.
- Theorems `Text.trim_surround` and `Text.exists_surround_trim`: a text without blanks is what is
  left between blanks.
-/

namespace TrafficQueue.Text

variable {cs : List Char} {c : Char} {m n limit : Nat}

/-! ## Numerals -/

/-- An optional plus sign and one or more ASCII digits, with the number that they stand for. -/
inductive Numeral : List Char → Nat → Prop where
  | plain {ds : List Char} (hne : ds ≠ []) (hdigits : ∀ c ∈ ds, c.isDigit = true) :
      Numeral ds (value ds)
  | signed {ds : List Char} (hne : ds ≠ []) (hdigits : ∀ c ∈ ds, c.isDigit = true) :
      Numeral ('+' :: ds) (value ds)

/-- Digits are not signs. -/
theorem dropPlus_eq_self {ds : List Char} (h : ∀ c ∈ ds, c.isDigit = true) : dropPlus ds = ds := by
  cases ds with
  | nil => rfl
  | cons d ds =>
      have hd : d ≠ '+' := by
        rintro rfl
        exact absurd (h '+' List.mem_cons_self) (by decide)
      exact if_neg hd

/-- A text is itself what is left of it without a plus sign, or that behind the sign. -/
theorem dropPlus_cases (cs : List Char) : cs = dropPlus cs ∨ cs = '+' :: dropPlus cs := by
  cases cs with
  | nil => exact .inl rfl
  | cons c cs =>
      by_cases hc : c = '+'
      · subst hc
        exact .inr rfl
      · exact .inl (if_neg hc).symm

/-- A numeral has digits only, at least one, after a plus sign at most. -/
theorem numeral_iff :
    Numeral cs n ↔
      dropPlus cs ≠ [] ∧ (∀ c ∈ dropPlus cs, c.isDigit = true) ∧ value (dropPlus cs) = n := by
  constructor
  · rintro (⟨hne, hdigits⟩ | ⟨hne, hdigits⟩)
    · rw [dropPlus_eq_self hdigits]
      exact ⟨hne, hdigits, rfl⟩
    · exact ⟨hne, hdigits, rfl⟩
  · rintro ⟨hne, hdigits, rfl⟩
    rcases dropPlus_cases cs with h | h
    · rw [← h] at hne hdigits ⊢
      exact .plain hne hdigits
    · rw [h]
      exact .signed hne hdigits

/-- Exactly the numerals of small enough numbers are read. -/
theorem readBelow_eq_some_iff : readBelow limit cs = some n ↔ Numeral cs n ∧ n < limit := by
  have hform : (dropPlus cs).all Char.isDigit = true ↔ ∀ c ∈ dropPlus cs, c.isDigit = true :=
    List.all_eq_true
  rw [numeral_iff, ← hform, readBelow]
  split
  · rename_i h
    rw [Option.some_inj]
    constructor
    · rintro rfl
      exact ⟨⟨h.1, h.2.1, rfl⟩, h.2.2⟩
    · exact fun hn => hn.1.2.2
  · rename_i h
    refine ⟨fun hn => (by cases hn), ?_⟩
    rintro ⟨⟨hne, hdigits, rfl⟩, hlt⟩
    exact absurd ⟨hne, hdigits, hlt⟩ h

/-- Zeros at the front do not change the value. -/
theorem value_replicate_zero (count : Nat) (cs : List Char) :
    value (List.replicate count '0' ++ cs) = value cs := by
  induction count with
  | zero => rfl
  | succ count ih => exact ih

/-- What is written for a number stands for it. -/
theorem numeral_padded (width n : Nat) : Numeral (padded width n).toList n := by
  have hvalue : value (padded width n).toList = n := by
    rw [padded, String.toList_ofList, value_replicate_zero, value_digits]
  have hne : (padded width n).toList ≠ [] := by
    simp [padded, digits_ne_nil]
  have hdigits : ∀ c ∈ (padded width n).toList, c.isDigit = true := by
    intro c hc
    rw [padded, String.toList_ofList, List.mem_append] at hc
    rcases hc with hzero | hdigit
    · rw [List.eq_of_mem_replicate hzero]
      rfl
    · exact isDigit_of_mem_digits hdigit
  have h := Numeral.plain hne hdigits
  rwa [hvalue] at h

/-- The digits of a number are a numeral of it. -/
theorem numeral_digits (n : Nat) : Numeral (digits n) n := by
  have h := Numeral.plain (digits_ne_nil n) fun _ hc => isDigit_of_mem_digits hc
  rwa [value_digits] at h

theorem Numeral.ne_nil (h : Numeral cs n) : cs ≠ [] := by
  cases h with
  | plain hne _ => exact hne
  | signed _ _ => exact List.cons_ne_nil _ _

/-- A numeral has a plus sign and digits only. -/
theorem Numeral.mem (h : Numeral cs n) (hc : c ∈ cs) : c = '+' ∨ c.isDigit = true := by
  cases h with
  | plain _ hdigits => exact .inr (hdigits c hc)
  | signed _ hdigits =>
      rcases List.mem_cons.1 hc with rfl | hc
      · exact .inl rfl
      · exact .inr (hdigits c hc)

theorem Numeral.colon_notMem (h : Numeral cs n) : ':' ∉ cs := by
  intro hc
  rcases h.mem hc with heq | hdigit
  · exact absurd heq (by decide)
  · exact absurd hdigit (by decide)

/-! ## Trimming -/

section Trimming

variable {front core back : List Char}

/-- There are no blanks between the space and the end of the ASCII characters. -/
theorem not_blank_of_ascii (hspace : 0x20 < c.toNat) (hascii : c.toNat < 0x80) :
    isBlank c = false := by
  have houtside : ∀ range ∈ blankRanges, range.2 ≤ 0x20 ∨ 0x80 ≤ range.1 := by decide
  rw [isBlank, List.any_eq_false]
  rintro ⟨first, last⟩ hmem hrange
  rw [Bool.and_eq_true, decide_eq_true_eq, decide_eq_true_eq] at hrange
  rcases houtside _ hmem with h | h
  · exact absurd hrange.2 (by dsimp only at h; omega)
  · exact absurd hrange.1 (by dsimp only at h; omega)

theorem not_blank_of_all (h : cs.all (fun c => !isBlank c) = true) :
    ∀ c ∈ cs, isBlank c = false := by
  simpa using h

theorem not_blank_of_isDigit (h : c.isDigit = true) : isBlank c = false := by
  simp only [Char.isDigit, Bool.and_eq_true, decide_eq_true_eq, ge_iff_le,
    UInt32.le_iff_toNat_le] at h
  change 48 ≤ c.toNat ∧ c.toNat ≤ 57 at h
  exact not_blank_of_ascii (by omega) (by omega)

/-- There is no blank in a numeral. -/
theorem Numeral.not_blank (h : Numeral cs n) (hc : c ∈ cs) : isBlank c = false := by
  rcases h.mem hc with rfl | hdigit
  · rfl
  · exact not_blank_of_isDigit hdigit

/-- Blanks at the front are taken away. -/
theorem trimStart_surround (hfront : ∀ c ∈ front, isBlank c = true) (hne : core ≠ [])
    (hcore : ∀ c ∈ core, isBlank c = false) :
    trimStart (front ++ (core ++ back)) = core ++ back := by
  rw [trimStart, List.dropWhile_append_of_pos hfront]
  cases core with
  | nil => exact absurd rfl hne
  | cons c core => exact trimStart_cons_of_not_blank (hcore c List.mem_cons_self)

/-- Blanks at both ends of a text without blanks are trimmed away. -/
theorem trim_surround (hfront : ∀ c ∈ front, isBlank c = true) (hne : core ≠ [])
    (hcore : ∀ c ∈ core, isBlank c = false) (hback : ∀ c ∈ back, isBlank c = true) :
    trim (front ++ (core ++ back)) = core := by
  have hend : trimStart (back.reverse ++ (core.reverse ++ [])) = core.reverse ++ [] :=
    trimStart_surround (by simpa using hback) (by simpa using hne) (by simpa using hcore)
  rw [trim, trimStart_surround hfront hne hcore, List.reverse_append]
  rw [List.append_nil] at hend
  rw [hend, List.reverse_reverse]

/-- Around what trimming leaves of a text there were blanks. -/
theorem exists_surround_trim (cs : List Char) :
    ∃ front back, cs = front ++ (trim cs ++ back) ∧ (∀ c ∈ front, isBlank c = true) ∧
      ∀ c ∈ back, isBlank c = true := by
  have htrim : trim cs = (cs.dropWhile isBlank).rdropWhile isBlank := rfl
  refine ⟨cs.takeWhile isBlank, (cs.dropWhile isBlank).rtakeWhile isBlank, ?_, ?_, ?_⟩
  · rw [htrim, List.rdropWhile_append_rtakeWhile, List.takeWhile_append_dropWhile]
  · exact fun c hc => List.mem_takeWhile_imp hc
  · exact fun c hc => List.mem_rtakeWhile_imp hc

end Trimming

end TrafficQueue.Text
