import TrafficQueue.Text.Invisible

/-!
# Quoted texts

A text between quotation marks, in which quotation marks, backslashes and everything that cannot be
seen are escaped.

Main result: `escape_ne_nil`, every character leaves something in the written form.
-/

namespace TrafficQueue.Text

/-- The code point in hexadecimal digits. -/
def codeEscape (c : Char) : List Char :=
  "\\u\x7b".toList ++ Nat.toDigits 16 c.toNat ++ ['\x7d']

/-- How a character is written inside of quotation marks. -/
def escape (c : Char) : List Char :=
  match c with
  | '\x00' => ['\\', '0']
  | '\t' => ['\\', 't']
  | '\n' => ['\\', 'n']
  | '\r' => ['\\', 'r']
  | '"' => ['\\', '"']
  | '\\' => ['\\', '\\']
  | c => if isInvisible c || isExtender c then codeEscape c else [c]

/-- The text in quotation marks. -/
def quote (s : String) : String :=
  String.ofList ('"' :: s.toList.flatMap escape ++ ['"'])

/-- Every character is written somehow. -/
theorem escape_ne_nil (c : Char) : escape c ≠ [] := by
  unfold escape
  split
  all_goals try simp
  split <;> simp [codeEscape]

end TrafficQueue.Text
