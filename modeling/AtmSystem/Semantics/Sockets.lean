import AtmSystem.Model.Protocol

/-!
What a program may assume of a stream socket. `SocketAnswers` lets `send` take
and `recv` deliver any piece that is not empty; only the end of the incoming
stream delivers nothing. The rules say what the loops of `protocol.c` make of
such pieces, and how many calls they make at most.
-/

namespace AtmSystem.Model

open Library Program

/-- One end of a connection: the bytes that are yet to arrive, the bytes that
have been sent, and how many calls have been made. -/
structure Socket where
  incoming : Bytes
  outgoing : Bytes
  calls : Nat

def SocketAnswers : Spec SocketOp Socket
  | _, .send bytes, s, written, s' =>
      (bytes ≠ [] → 0 < written.val) ∧
        s' = { s with outgoing := s.outgoing ++ bytes.take written.val, calls := s.calls + 1 }
  | _, .recv length, s, received, s' =>
      (0 < length → s.incoming ≠ [] → received.val ≠ []) ∧
        ∃ rest, s.incoming = received.val ++ rest ∧
          s' = { s with incoming := rest, calls := s.calls + 1 }

/-- Between the two states so much has been received and sent, in no more than
so many calls. -/
structure Moved (s : Socket) (received sent : Bytes) (calls : Nat) (s' : Socket) : Prop where
  incoming : s.incoming = received ++ s'.incoming
  outgoing : s'.outgoing = s.outgoing ++ sent
  calls : s'.calls ≤ s.calls + calls

namespace Moved

variable {s s' s'' : Socket} {received received' sent sent' : Bytes} {calls calls' : Nat}

theorem refl (s : Socket) : Moved s [] [] 0 s := ⟨rfl, by simp, le_refl _⟩

theorem trans (h : Moved s received sent calls s') (h' : Moved s' received' sent' calls' s'') :
    Moved s (received ++ received') (sent ++ sent') (calls + calls') s'' where
  incoming := by rw [h.incoming, h'.incoming, List.append_assoc]
  outgoing := by rw [h'.outgoing, h.outgoing, List.append_assoc]
  calls := by
    have hfirst := h.calls
    have hsecond := h'.calls
    omega

theorem mono (h : Moved s received sent calls s') (hle : calls ≤ calls') :
    Moved s received sent calls' s' := ⟨h.incoming, h.outgoing, h.calls.trans (by omega)⟩

/-- What stands behind the bytes that have been received is still to arrive. -/
theorem behind (h : Moved s received sent calls s') {rest : Bytes}
    (hs : s.incoming = received ++ rest) : s'.incoming = rest :=
  List.append_cancel_left (h.incoming.symm.trans hs)

end Moved

/-- Everything is written, in at most one call a byte. -/
theorem always_writeAll (buffer : Bytes) (s : Socket) :
    Always SocketAnswers (writeAll buffer) s fun written s' =>
      written = true ∧ Moved s [] buffer buffer.length s' := by
  induction hlength : buffer.length using Nat.strong_induction_on generalizing buffer s with
  | _ length ih =>
  subst hlength
  rw [writeAll]
  split
  · rename_i hempty
    subst hempty
    exact ⟨rfl, .refl s⟩
  rename_i hbuffer
  rw [always_bind, always_call]
  rintro ⟨written, hwritten⟩ _ ⟨hsome, rfl⟩
  have hpositive : 0 < written := hsome hbuffer
  simp only [Nat.pos_iff_ne_zero.mp hpositive, dif_neg, not_false_eq_true]
  have hshorter : (buffer.drop written).length + written = buffer.length := by
    rw [List.length_drop]
    omega
  apply (ih _ (by omega) (buffer.drop written) _ rfl).mono
  rintro done s' ⟨hdone, hmoved⟩
  have hfirst : Moved s [] (buffer.take written) written
      { s with outgoing := s.outgoing ++ buffer.take written, calls := s.calls + 1 } :=
    ⟨rfl, rfl, Nat.add_le_add_left hpositive _⟩
  have hboth := hfirst.trans hmoved
  rw [List.take_append_drop] at hboth
  exact ⟨hdone, hboth.mono (by omega)⟩

/-- The buffer is filled with the next bytes of the stream, in at most one call
a byte; a stream that ends before does not fill it. -/
theorem always_readAll (length : Nat) (s : Socket) :
    Always SocketAnswers (readAll length) s fun read s' =>
      read = (if length ≤ s.incoming.length then some (s.incoming.take length) else none) ∧
        Moved s (s.incoming.take length) [] length s' := by
  induction length using Nat.strong_induction_on generalizing s with
  | _ length ih =>
  rw [readAll]
  split
  · rename_i hzero
    subst hzero
    exact ⟨by simp, .refl s⟩
  rename_i hlength
  rw [always_bind, always_call]
  rintro ⟨received, hreceived⟩ _ ⟨hsome, rest, hincoming, rfl⟩
  simp only at hsome hincoming ⊢
  split
  · rename_i hnothing
    have hended : s.incoming = [] := by
      by_contra hmore
      exact hsome (by omega) hmore hnothing
    have hrest : rest = [] := by
      rw [hended] at hincoming
      exact (List.append_eq_nil_iff.mp hincoming.symm).2
    simp only [hended, hrest, List.take_nil, List.length_nil, Nat.le_zero, hlength, if_false]
    refine ⟨rfl, ⟨hended, by simp, ?_⟩⟩
    simp only
    omega
  · rename_i hpiece
    have hpositive := List.length_pos_iff.mpr hpiece
    rw [always_bind]
    apply (ih (length - received.length) (by omega) _).mono
    rintro _ s' ⟨rfl, hmoved⟩
    have hfirst : Moved s received [] received.length
        { s with incoming := rest, calls := s.calls + 1 } :=
      ⟨hincoming, by simp, Nat.add_le_add_left hpositive _⟩
    have htake : s.incoming.take length = received ++ rest.take (length - received.length) := by
      rw [hincoming, List.take_append, List.take_of_length_le hreceived]
    have hboth := hfirst.trans hmoved
    refine ⟨?_, ?_⟩
    · rw [htake, hincoming, List.length_append]
      by_cases henough : length - received.length ≤ rest.length
      · rw [if_pos henough, if_pos (by omega)]
        rfl
      · rw [if_neg henough, if_neg (by omega)]
        rfl
    · rw [htake]
      exact hboth.mono (by omega)

/-- The next bytes of the stream are dropped, chunk by chunk. -/
theorem always_drainBytes (length : Nat) (s : Socket) :
    Always SocketAnswers (drainBytes length) s fun drained s' =>
      drained = decide (length ≤ s.incoming.length) ∧
        Moved s (s.incoming.take length) [] length s' := by
  induction length using Nat.strong_induction_on generalizing s with
  | _ length ih =>
  rw [drainBytes]
  split
  · rename_i hzero
    subst hzero
    exact ⟨by simp, .refl s⟩
  rename_i hlength
  simp only
  have hchunk : min length 512 ≤ length := Nat.min_le_left _ _
  have hpositive : 0 < min length 512 := by omega
  generalize min length 512 = chunkSize at hchunk hpositive
  rw [always_bind]
  apply (always_readAll chunkSize s).mono
  rintro _ s' ⟨rfl, hmoved⟩
  by_cases henough : chunkSize ≤ s.incoming.length
  · simp only [henough, if_true, Option.isNone_some, Bool.false_eq_true, if_false]
    have hrest : s'.incoming = s.incoming.drop chunkSize :=
      hmoved.behind (List.take_append_drop chunkSize s.incoming).symm
    apply (ih (length - chunkSize) (by omega) s').mono
    rintro _ s'' ⟨rfl, hmoved'⟩
    have hboth := hmoved.trans hmoved'
    have htake : s.incoming.take chunkSize ++ s'.incoming.take (length - chunkSize) =
        s.incoming.take length := by
      rw [hrest, ← List.take_add]
      congr 1
      omega
    rw [htake] at hboth
    refine ⟨?_, hboth.mono (by omega)⟩
    rw [hrest, List.length_drop, decide_eq_decide]
    omega
  · simp only [henough, if_false, Option.isNone_none, if_true]
    refine ⟨by simp; omega, ?_⟩
    rw [List.take_of_length_le (by omega)] at hmoved ⊢
    exact hmoved.mono hchunk

/-- The length is read back as it was written. -/
theorem ntohl_htonl {length : Nat} (h : length ≤ uint32Max) : ntohl (htonl length) = length := by
  simp only [uint32Max] at h
  simp only [htonl, ntohl, List.map_cons, List.map_nil, List.foldl_cons, List.foldl_nil,
    UInt8.toNat_ofNat']
  omega

theorem htonl_length (length : Nat) : (htonl length).length = 4 := rfl

end AtmSystem.Model
