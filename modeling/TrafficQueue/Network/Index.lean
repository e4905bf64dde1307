import Std.Data.HashMap
import TrafficQueue.Ident

/-!
# Finding numbered things by their names

Main results: `NameIndex.mem_extend`, which names are in an index, and `NameIndex.getElem?_extend`,
the number that belongs to a name.
-/

namespace TrafficQueue

/-- The numbers of things by their names. -/
abbrev NameIndex (kind : Numbered) := Std.HashMap String (Ident kind)

namespace NameIndex

variable {kind : Numbered}

/-- Puts names into an index; the things that have them are numbered from `next` on.  Of equal names
the last one counts. -/
def extend (index : NameIndex kind) (next : Nat) : List String → NameIndex kind
  | [] => index
  | name :: names => extend (index.insert name ⟨next⟩) (next + 1) names

/-- The index of things that have these names, in order. -/
def ofNames (names : List String) : NameIndex kind := extend ∅ 0 names

/-- Names are numbered one part after the other. -/
theorem extend_append (index : NameIndex kind) (next : Nat) (names more : List String) :
    extend index next (names ++ more) =
      extend (extend index next names) (next + names.length) more := by
  induction names generalizing index next with
  | nil => rfl
  | cons first names ih =>
    rw [List.cons_append, extend, ih, List.length_cons, Nat.add_right_comm]
    rfl

/-- A name at the end gets the next number. -/
theorem ofNames_concat (names : List String) (name : String) :
    (ofNames (names ++ [name]) : NameIndex kind) = (ofNames names).insert name ⟨names.length⟩ := by
  rw [ofNames, extend_append, Nat.zero_add]
  rfl

/-- An extended index has its old names and the new ones. -/
theorem mem_extend {index : NameIndex kind} {next : Nat} {names : List String} {name : String} :
    name ∈ extend index next names ↔ name ∈ names ∨ name ∈ index := by
  induction names generalizing index next with
  | nil => simp [extend]
  | cons first names ih =>
    rw [extend, ih, Std.HashMap.mem_insert, List.mem_cons, beq_iff_eq, eq_comm (a := first)]
    exact or_left_comm.trans or_assoc.symm

/-- An index of names has just these names. -/
theorem mem_ofNames {names : List String} {name : String} :
    name ∈ (ofNames names : NameIndex kind) ↔ name ∈ names := by
  simp [ofNames, mem_extend]

/-- Names that do not repeat have the numbers of their things. -/
theorem getElem?_extend {names : List String} (h : names.Nodup) (index : NameIndex kind)
    (next : Nat) (name : String) :
    (extend index next names)[name]? =
      if name ∈ names then some ⟨next + names.idxOf name⟩ else index[name]? := by
  induction names generalizing index next with
  | nil => rfl
  | cons first names ih =>
    rw [List.nodup_cons] at h
    rw [extend, ih h.2, Std.HashMap.getElem?_insert]
    by_cases hfirst : first = name
    · subst hfirst
      simp [h.1]
    · have hne : (first == name) = false := by simpa using hfirst
      simp only [hne, List.idxOf_cons, List.mem_cons, Ne.symm hfirst, false_or, cond_false,
        Bool.false_eq_true, if_false]
      by_cases hmem : name ∈ names
      · have hnumber : next + 1 + names.idxOf name = next + (names.idxOf name + 1) := by omega
        rw [if_pos hmem, if_pos hmem, hnumber]
      · rw [if_neg hmem, if_neg hmem]

end NameIndex

end TrafficQueue
