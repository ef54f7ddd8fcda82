import AtmSystem.Model.Buffers
import AtmSystem.Semantics.Reports

/-!
Appending to a buffer. As long as the pieces fit, the buffer holds what they
are put together and `used` is its length; the first piece that does not fit
is cut off, and `used` stays. The text buffer of the reports shows just what
stands in memory in front of the NUL.
-/

namespace AtmSystem.Model

namespace CharBuffer

/-- The memory holds a text behind which a NUL stands. -/
def Holds (buffer : CharBuffer) (text : Bytes) : Prop :=
  ∃ rest, buffer.memory = text ++ 0 :: rest

/-- The memory and the count behind a text buffer. -/
structure Shows (bufferSize : Nat) (buffer : CharBuffer) (shown : TextBuffer) : Prop where
  size : buffer.memory.length = bufferSize
  holds : buffer.Holds shown.text
  used : buffer.used = shown.used
  within : shown.used ≤ shown.text.length

variable {bufferSize : Nat} {buffer : CharBuffer} {shown : TextBuffer}

theorem Shows.short (h : buffer.Shows bufferSize shown) : shown.text.length < bufferSize := by
  obtain ⟨rest, hmemory⟩ := h.holds
  rw [← h.size, hmemory, List.length_append, List.length_cons]
  omega

/-- Appending in memory and appending to the text go together. -/
theorem Shows.append (h : buffer.Shows bufferSize shown) (piece : Bytes) :
    (buffer.appendFormatted bufferSize piece).1 = (Model.appendFormatted bufferSize shown piece).1 ∧
      (buffer.appendFormatted bufferSize piece).2.Shows bufferSize
        (Model.appendFormatted bufferSize shown piece).2 := by
  obtain ⟨memory, used⟩ := buffer
  obtain ⟨text, used'⟩ := shown
  obtain ⟨hsize, ⟨rest, hmemory⟩, rfl, hwithin⟩ := id h
  have hshort := h.short
  simp only at hsize hmemory hwithin hshort
  have hfree : ¬ bufferSize ≤ used := by omega
  have hroom : bufferSize - used ≠ 0 := by omega
  have hkept : memory.take used = text.take used := by
    rw [hmemory, List.take_append_of_le_length hwithin]
  have hprefix : (text.take used).length = used := by
    rw [List.length_take]
    omega
  have hcut : (snprintf (bufferSize - used) piece).length =
      min (bufferSize - used - 1) piece.length := List.length_take
  -- behind the NUL that has been written the memory is as it was
  have hall : memory.take used ++ (snprintf (bufferSize - used) piece ++ ([0] : Bytes)) ++
      memory.drop (used + (snprintf (bufferSize - used) piece ++ ([0] : Bytes)).length) =
      (text.take used ++ snprintf (bufferSize - used) piece) ++
        0 :: memory.drop (used + (snprintf (bufferSize - used) piece ++ ([0] : Bytes)).length) := by
    rw [hkept]
    simp only [List.append_assoc, List.singleton_append]
  have hlength : (memory.take used ++ (snprintf (bufferSize - used) piece ++ ([0] : Bytes)) ++
      memory.drop (used + (snprintf (bufferSize - used) piece ++ ([0] : Bytes)).length)).length =
      bufferSize := by
    simp only [List.length_append, List.length_take, List.length_drop, List.length_singleton, hcut]
    omega
  simp only [appendFormatted, Model.appendFormatted, vsnprintf, hfree, hroom, if_false,
    Int.natCast_nonneg, not_lt.mpr, false_or, Int.toNat_natCast]
  split
  · refine ⟨rfl, hlength, ⟨_, hall⟩, rfl, ?_⟩
    simp only [List.length_append, hprefix]
    omega
  · refine ⟨rfl, hlength, ⟨_, hall⟩, rfl, ?_⟩
    simp only [List.length_append, hprefix, hcut]
    omega

/-- As long as every call returns 1, the memory holds all pieces. -/
theorem shows_appendAll {text : Bytes} (h : buffer.Shows bufferSize (.holding text))
    (pieces : List Bytes) (hfit : ∀ fits ∈ (buffer.appendAll bufferSize pieces).1, fits = true) :
    (buffer.appendAll bufferSize pieces).2.Shows bufferSize (.holding (text ++ pieces.flatten)) := by
  induction pieces generalizing buffer text with
  | nil =>
      rw [List.flatten_nil, List.append_nil]
      exact h
  | cons piece rest ih =>
      obtain ⟨hflag, hnext⟩ := h.append piece
      simp only [appendAll, List.forall_mem_cons] at hfit ⊢
      by_cases hroom : (text ++ piece).length < bufferSize
      · rw [appendFormatted_fits hroom] at hnext
        rw [List.flatten_cons, ← List.append_assoc]
        exact ih hnext hfit.2
      · have hshort : text.length < bufferSize := h.short
        rw [appendFormatted_exceeds hshort (not_lt.mp hroom), hfit.1] at hflag
        cases hflag

/-- In a buffer of any size that starts out as the empty string: while all
calls have returned 1, the buffer holds the pieces put together, with a NUL
behind them, and `used` is their length; the next call returns 0 just if its
piece would bring the length to the size of the buffer, and then `used` stays
and the buffer holds a part of the whole that leaves room for the NUL. -/
theorem appended_exactly (hsize : buffer.memory.length = bufferSize) (hempty : buffer.Holds [])
    (hused : buffer.used = 0) (pieces : List Bytes)
    (hfit : ∀ fits ∈ (buffer.appendAll bufferSize pieces).1, fits = true) :
    let filled := (buffer.appendAll bufferSize pieces).2
    (filled.Holds pieces.flatten ∧ filled.used = pieces.flatten.length ∧
      filled.used < bufferSize) ∧
    ∀ piece, let next := filled.appendFormatted bufferSize piece
      (next.1 = false ↔ bufferSize ≤ (pieces ++ [piece]).flatten.length) ∧
      (next.1 = false → next.2.used = filled.used ∧ ∃ kept, next.2.Holds kept ∧
        kept <+: (pieces ++ [piece]).flatten ∧ kept.length ≤ bufferSize - 1) := by
  intro filled
  have hstart : buffer.Shows bufferSize (.holding []) := ⟨hsize, hempty, hused, le_refl _⟩
  have hfilled : filled.Shows bufferSize (.holding pieces.flatten) :=
    shows_appendAll hstart pieces hfit
  have hshort : pieces.flatten.length < bufferSize := hfilled.short
  refine ⟨⟨hfilled.holds, hfilled.used, hfilled.used.trans_lt hshort⟩, ?_⟩
  intro piece next
  obtain ⟨hflag, hnext⟩ := hfilled.append piece
  have hwhole : (pieces ++ [piece]).flatten = pieces.flatten ++ piece := by simp
  rw [hwhole]
  by_cases hroom : (pieces.flatten ++ piece).length < bufferSize
  · rw [appendFormatted_fits hroom] at hflag
    constructor
    · exact ⟨fun hzero => absurd (hzero.symm.trans hflag) nofun, fun hlong => by omega⟩
    · exact fun hzero => absurd (hzero.symm.trans hflag) nofun
  · rw [appendFormatted_exceeds hshort (not_lt.mp hroom)] at hflag hnext
    refine ⟨⟨fun _ => not_lt.mp hroom, fun _ => hflag⟩, fun _ => ⟨?_, ?_⟩⟩
    · exact hnext.used.trans hfilled.used.symm
    · exact ⟨_, hnext.holds, List.take_prefix _ _, List.length_take_le _ _⟩

/-- Three pieces for a buffer of six bytes: the second fills it, the third is
empty and still fits. -/
theorem appended_exactly_full :
    let filled := (appendAll 6 ⟨[0, 7, 7, 7, 7, 7], 0⟩ [ascii "OK", ascii "abc", []]).2
    filled.Holds (ascii "OKabc") ∧ filled.used = 5 ∧
      (filled.appendFormatted 6 (ascii "d")).1 = false := by
  have hfilled := @appended_exactly 6 ⟨[0, 7, 7, 7, 7, 7], 0⟩ rfl
    ⟨_, rfl⟩ rfl [ascii "OK", ascii "abc", []] (by decide)
  exact ⟨hfilled.1.1, hfilled.1.2.1, (hfilled.2 (ascii "d")).1.mpr (by decide)⟩

end CharBuffer

end AtmSystem.Model
