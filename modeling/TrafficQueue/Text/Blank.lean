/-!
# Blank characters

The characters with the Unicode property `White_Space`, and trimming at both ends of a text.

Main results: `mem_trim` (trimming invents nothing) and `trim_eq_self` (a text whose ends are
not blank is left alone).
-/

namespace TrafficQueue.Text

/-- The code points with property `White_Space`, as ascending ranges with both ends included. -/
def blankRanges : List (Nat × Nat) :=
  [(0x09, 0x0D), (0x20, 0x20), (0x85, 0x85), (0xA0, 0xA0), (0x1680, 0x1680), (0x2000, 0x200A),
   (0x2028, 0x2029), (0x202F, 0x202F), (0x205F, 0x205F), (0x3000, 0x3000)]

/-- A character that trimming removes from the ends of a text. -/
def isBlank (c : Char) : Bool :=
  blankRanges.any fun (first, last) => first ≤ c.toNat && c.toNat ≤ last

/-- The text without the blanks in front of it. -/
def trimStart (cs : List Char) : List Char :=
  cs.dropWhile isBlank

/-- The text without the blanks at both of its ends. -/
def trim (cs : List Char) : List Char :=
  (trimStart (trimStart cs).reverse).reverse

@[simp] theorem trimStart_nil : trimStart [] = [] := rfl

/-- Nothing is trimmed from a text that does not begin with a blank. -/
theorem trimStart_cons_of_not_blank {c : Char} {cs : List Char} (h : isBlank c = false) :
    trimStart (c :: cs) = c :: cs := by
  simp [trimStart, h]

/-- Trimming adds nothing. -/
theorem mem_trimStart {c : Char} {cs : List Char} (h : c ∈ trimStart cs) : c ∈ cs :=
  (List.dropWhile_suffix _).subset h

/-- Trimming only removes characters. -/
theorem mem_trim {c : Char} {cs : List Char} (h : c ∈ trim cs) : c ∈ cs := by
  have h' := mem_trimStart (List.mem_reverse.1 h)
  exact mem_trimStart (List.mem_reverse.1 h')

/-- Trimming keeps a text in which no character is blank. -/
theorem trim_eq_self {cs : List Char} (h : ∀ c ∈ cs, isBlank c = false) : trim cs = cs := by
  have key : ∀ ds : List Char, (∀ c ∈ ds, isBlank c = false) → trimStart ds = ds := by
    intro ds hds
    cases ds with
    | nil => rfl
    | cons d ds => exact trimStart_cons_of_not_blank (hds d (by simp))
  rw [trim, key cs h, key cs.reverse (by simpa using h), List.reverse_reverse]

end TrafficQueue.Text
