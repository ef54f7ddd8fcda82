import AtmSystem.Model.Text

/-!
`append_formatted` of `database.c` on the memory of its buffer. The reports
use it through `TextBuffer`, which keeps only what stands in front of the
terminating NUL.
-/

namespace AtmSystem.Model

/-- `vsnprintf(memory + offset, size, ...)` where the format gives `piece`: the
memory it leaves, and the number it returns, which counts the whole piece. No
format of the program has a wide character, so the number is not negative. -/
def vsnprintf (memory : Bytes) (offset size : Nat) (piece : Bytes) : Int × Bytes :=
  if size = 0 then (piece.length, memory)
  else
    let written := snprintf size piece ++ [0]
    (piece.length, memory.take offset ++ written ++ memory.drop (offset + written.length))

/-- The bytes of a buffer, and the caller's `used`. -/
structure CharBuffer where
  memory : Bytes
  used : Nat

namespace CharBuffer

/-- `append_formatted`, with the text that the format gives. -/
def appendFormatted (bufferSize : Nat) (buffer : CharBuffer) (piece : Bytes) :
    Bool × CharBuffer :=
  if bufferSize ≤ buffer.used then (false, buffer)
  else
    match vsnprintf buffer.memory buffer.used (bufferSize - buffer.used) piece with
    | (written, memory) =>
        if written < 0 ∨ bufferSize - buffer.used ≤ written.toNat then
          (false, { buffer with memory := memory })
        else (true, ⟨memory, buffer.used + written.toNat⟩)

/-- A sequence of calls, and what each of them returns. -/
def appendAll (bufferSize : Nat) (buffer : CharBuffer) : List Bytes → List Bool × CharBuffer
  | [] => ([], buffer)
  | piece :: rest =>
      match buffer.appendFormatted bufferSize piece with
      | (fits, longer) =>
          match longer.appendAll bufferSize rest with
          | (results, last) => (fits :: results, last)

end CharBuffer

end AtmSystem.Model
