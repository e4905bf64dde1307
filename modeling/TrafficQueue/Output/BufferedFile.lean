/-!
# Files with a buffer

What is written to a file is held back in a buffer and reaches the disk when the buffer is full or
the file is synchronized.

Main results: `BufferedFile.bytes_append`, what is written is what was given, and
`BufferedFile.held_append_le`, the buffer does not overflow.
-/

namespace TrafficQueue

/-- A file whose last bytes are still held back. -/
structure BufferedFile where
  /-- Everything that was written. -/
  bytes : ByteArray := .empty
  /-- How many of the bytes have reached the disk; the others are held back. -/
  onDisk : Nat := 0

namespace BufferedFile

/-- Bytes that the buffer can hold. -/
def capacity : Nat := 8192

/-- The number of bytes held back. -/
def held (f : BufferedFile) : Nat := f.bytes.size - f.onDisk

/-- Everything that was held back reaches the disk. -/
def sync : BufferedFile → BufferedFile
  | ⟨bytes, _⟩ => ⟨bytes, bytes.size⟩

/-- Empties the buffer if so many more bytes do not fit. -/
def makeRoom (n : Nat) : BufferedFile → BufferedFile
  | ⟨bytes, onDisk⟩ =>
    if bytes.size - onDisk + n ≤ capacity then ⟨bytes, onDisk⟩ else ⟨bytes, bytes.size⟩

/-- Writes bytes that must not be torn apart by the buffer. -/
def append (f : BufferedFile) (unit : List UInt8) : BufferedFile :=
  match f.makeRoom unit.length with
  | ⟨bytes, onDisk⟩ => ⟨unit.foldl ByteArray.push bytes, onDisk⟩

/-- What a reader of the file sees. -/
def visible (f : BufferedFile) : ByteArray := f.bytes.extract 0 f.onDisk

/-- The text that a reader of the file sees.  A character of which only the first bytes have reached
the disk is shown by the replacement character. -/
def text (f : BufferedFile) : String :=
  match String.fromUTF8? f.visible with
  | some s => s
  | none =>
    let shorter := [1, 2, 3].findSome? fun n => String.fromUTF8? (f.bytes.extract 0 (f.onDisk - n))
    shorter.getD "" ++ "\uFFFD"

/-- Bytes that are pushed one after the other stand behind those that were there. -/
theorem toList_foldl_push (unit : List UInt8) (bytes : ByteArray) :
    (unit.foldl ByteArray.push bytes).data.toList = bytes.data.toList ++ unit := by
  induction unit generalizing bytes with
  | nil => simp
  | cons b unit ih =>
    have hpush : (bytes.push b).data.toList = bytes.data.toList ++ [b] := Array.toList_push
    rw [List.foldl_cons, ih, hpush, List.append_assoc, List.singleton_append]

@[simp] theorem bytes_makeRoom (n : Nat) (f : BufferedFile) : (f.makeRoom n).bytes = f.bytes := by
  simp only [makeRoom]
  split <;> rfl

/-- The buffer only delays: in the end there is what was written. -/
theorem bytes_append (f : BufferedFile) (unit : List UInt8) :
    (f.append unit).bytes.data.toList = f.bytes.data.toList ++ unit := by
  simp only [append, toList_foldl_push, bytes_makeRoom]

/-- No more bytes are held back than fit. -/
theorem held_append_le {f : BufferedFile} {unit : List UInt8} (h : unit.length ≤ capacity) :
    (f.append unit).held ≤ capacity := by
  have hsize : ∀ bytes : ByteArray,
      (unit.foldl ByteArray.push bytes).size = bytes.size + unit.length := by
    intro bytes
    have := congrArg List.length (toList_foldl_push unit bytes)
    simpa using this
  obtain ⟨bytes, onDisk⟩ := f
  simp only [append, makeRoom]
  split
  · rename_i hle
    simp only [held, hsize]
    omega
  · simp only [held, hsize]
    omega

end BufferedFile

end TrafficQueue
