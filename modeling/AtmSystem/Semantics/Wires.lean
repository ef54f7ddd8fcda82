import AtmSystem.Library.Duplex
import AtmSystem.Safety.Framing

/-!
What a program may assume of a socket while the other side is at work and the
connection may fail. A call moves any part of what it is asked to move, or
nothing; nothing is also what a failure or the end of the stream looks like. The
rules say what `protocol.c` makes of that: a message that is delivered has
arrived as one frame, and of a message that is sent the beginning has gone out.
-/

namespace AtmSystem.Model

open Library Program

def WireAnswers {σ : Type} : Spec SocketOp (Party UInt8 σ)
  | _, .send bytes, s, written, s' => s' = s.puts (bytes.take written.val)
  | _, .recv _, s, received, s' => s' = s.gets received.val

section rules

variable {σ : Type} {allowed : (β : Type) → SocketOp β → Party UInt8 σ → Prop}

/-- Of the buffer the beginning is sent, and all of it on success. -/
theorem guarded_writeAll (buffer : Bytes) (s : Party UInt8 σ)
    (hsend : ∀ bytes part, part <+: buffer → allowed _ (.send bytes) (s.puts part)) :
    Guarded WireAnswers allowed (writeAll buffer) s fun written s' =>
      ∃ part, part <+: buffer ∧ s' = s.puts part ∧ (written = true → part = buffer) := by
  induction hlength : buffer.length using Nat.strong_induction_on generalizing buffer s with
  | _ length ih =>
  subst hlength
  rw [writeAll]
  split
  · rename_i hempty
    subst hempty
    exact ⟨[], List.nil_prefix, by simp, fun _ => rfl⟩
  rw [guarded_bind, guarded_call]
  have hnow := hsend buffer [] List.nil_prefix
  rw [Party.puts_nil] at hnow
  refine ⟨hnow, ?_⟩
  rintro ⟨written, hwritten⟩ _ rfl
  have hsplit := List.take_append_drop written buffer
  by_cases hnothing : written = 0
  · subst hnothing
    exact ⟨[], List.nil_prefix, by simp, fun hfalse => by cases hfalse⟩
  simp only [hnothing, dif_neg, not_false_eq_true]
  have hshorter : (buffer.drop written).length < buffer.length := by
    rw [List.length_drop]
    omega
  apply (ih _ hshorter (buffer.drop written) (s.puts (buffer.take written)) ?_ rfl).mono
  · rintro done s' ⟨part, hpart, rfl, hall⟩
    refine ⟨buffer.take written ++ part, ?_, by simp, ?_⟩
    · conv => rhs; rw [← hsplit]
      exact (List.prefix_append_right_inj _).mpr hpart
    · intro hdone
      rw [hall hdone, hsplit]
  · intro bytes part hpart
    rw [Party.puts_puts]
    apply hsend
    conv => rhs; rw [← hsplit]
    exact (List.prefix_append_right_inj _).mpr hpart

/-- No more than the buffer holds arrives, and on success as much. -/
theorem guarded_readAll (length : Nat) (s : Party UInt8 σ)
    (hrecv : ∀ size part, part.length < length → allowed _ (.recv size) (s.gets part)) :
    Guarded WireAnswers allowed (readAll length) s fun read s' =>
      ∃ part, part.length ≤ length ∧ s' = s.gets part ∧
        ∀ bytes, read = some bytes → bytes = part ∧ part.length = length := by
  induction length using Nat.strong_induction_on generalizing s with
  | _ length ih =>
  rw [readAll]
  split
  · rename_i hzero
    subst hzero
    refine ⟨[], le_refl _, by simp, ?_⟩
    rintro _ ⟨⟩
    exact ⟨rfl, rfl⟩
  rename_i hlength
  rw [guarded_bind, guarded_call]
  have hnow := hrecv length [] (Nat.pos_of_ne_zero hlength)
  rw [Party.gets_nil] at hnow
  refine ⟨hnow, ?_⟩
  rintro ⟨received, hreceived⟩ _ rfl
  by_cases hnothing : received = []
  · subst hnothing
    refine ⟨[], Nat.zero_le _, by simp, ?_⟩
    intro bytes hnone
    cases hnone
  have hpositive := List.length_pos_iff.mpr hnothing
  simp only [hnothing, dif_neg, not_false_eq_true, guarded_bind]
  apply (ih (length - received.length) (by omega) (s.gets received) ?_).mono
  · rintro read s' ⟨part, hpart, rfl, hall⟩
    refine ⟨received ++ part, ?_, by simp, ?_⟩
    · rw [List.length_append]
      omega
    · intro bytes hbytes
      obtain ⟨rest, hrest, rfl⟩ := Option.map_eq_some_iff.mp hbytes
      obtain ⟨rfl, hfull⟩ := hall rest hrest
      rw [List.length_append]
      exact ⟨rfl, by omega⟩
  · intro size part hpart
    rw [Party.gets_gets]
    apply hrecv
    rw [List.length_append]
    omega

/-- These bytes begin a frame and do not complete it. -/
def Unfinished (part : Bytes) : Prop :=
  part.length < 4 ∨ ∃ header body, part = header ++ body ∧ header.length = 4 ∧
    body.length < ntohl header

/-- The bytes are dropped, or the stream ends before. -/
theorem guarded_drainBytes (length : Nat) (s : Party UInt8 σ)
    (hrecv : ∀ size part, part.length < length → allowed _ (.recv size) (s.gets part)) :
    Guarded WireAnswers allowed (drainBytes length) s fun _ s' => ∃ part, s' = s.gets part := by
  induction length using Nat.strong_induction_on generalizing s with
  | _ length ih =>
  rw [drainBytes]
  split
  · exact ⟨[], by simp⟩
  rename_i hlength
  simp only
  have hchunk : min length 512 ≤ length := Nat.min_le_left _ _
  have hpositive : 0 < min length 512 := by omega
  generalize min length 512 = chunkSize at hchunk hpositive
  rw [guarded_bind]
  apply (guarded_readAll chunkSize s fun size part hpart => hrecv size part (by omega)).mono
  rintro read s' ⟨part, hpart, rfl, hall⟩
  cases read with
  | none => exact ⟨part, rfl⟩
  | some bytes =>
      obtain ⟨-, hfull⟩ := hall bytes rfl
      apply (ih (length - chunkSize) (by omega) (s.gets part) ?_).mono
      · rintro drained s' ⟨part', rfl⟩
        exact ⟨part ++ part', by simp⟩
      · intro size part' hpart'
        rw [Party.gets_gets]
        apply hrecv
        rw [List.length_append]
        omega

theorem ofNat_of_mod {n : Nat} {b : UInt8} (h : n % 256 = b.toNat) : UInt8.ofNat n = b := by
  rw [← UInt8.toNat_inj, UInt8.toNat_ofNat']
  exact h

/-- The length a frame begins with stands in its header. -/
theorem htonl_ntohl {header : Bytes} (h : header.length = 4) : htonl (ntohl header) = header := by
  obtain ⟨a, b, c, d, rfl⟩ := List.length_eq_four.mp h
  have ha := a.toNat_lt
  have hb := b.toNat_lt
  have hc := c.toNat_lt
  have hd := d.toNat_lt
  simp only [htonl, ntohl, List.map_cons, List.map_nil, List.foldl_cons, List.foldl_nil,
    List.cons.injEq, and_true]
  exact ⟨ofNat_of_mod (by omega), ofNat_of_mod (by omega), ofNat_of_mod (by omega),
    ofNat_of_mod (by omega)⟩

/-- A message that is delivered fits the buffer and has arrived as one frame. A
call that waits has not read a whole frame. -/
theorem guarded_receiveMessage (bufferSize : Nat) (s : Party UInt8 σ)
    (hrecv : ∀ size part, Unfinished part → allowed _ (.recv size) (s.gets part)) :
    Guarded WireAnswers allowed (receiveMessage bufferSize) s fun answer s' =>
      ∃ part, s' = s.gets part ∧
        ∀ message, answer = some message → message.length < bufferSize ∧ part = frame message := by
  have hrefused {answer : Option Bytes} {part : Bytes} (hanswer : answer = none) :
      ∃ part', s.gets part = s.gets part' ∧ ∀ message, answer = some message →
        message.length < bufferSize ∧ part' = frame message := by
    refine ⟨part, rfl, ?_⟩
    intro message hmessage
    rw [hanswer] at hmessage
    cases hmessage
  rw [receiveMessage, guarded_ite]
  refine ⟨fun _ => ?_, fun _ => ?_⟩
  · rw [guarded_pure]
    have hnothing := @hrefused none [] rfl
    rwa [Party.gets_nil] at hnothing
  rw [guarded_bind]
  apply (guarded_readAll 4 s fun size part hpart => hrecv size part (.inl hpart)).mono
  rintro read _ ⟨header, -, rfl, hall⟩
  cases read with
  | none => exact hrefused rfl
  | some bytes =>
      obtain ⟨rfl, hheader⟩ := hall bytes rfl
      have hbody (size : Nat) (part : Bytes) (hpart : part.length < ntohl bytes) :
          allowed _ (.recv size) ((s.gets bytes).gets part) := by
        rw [Party.gets_gets]
        exact hrecv size _ (.inr ⟨bytes, part, rfl, hheader, hpart⟩)
      simp only [guarded_ite]
      refine ⟨fun _ => ?_, fun hfits => ⟨fun hzero => ?_, fun _ => ?_⟩⟩
      · rw [guarded_bind]
        apply (guarded_drainBytes _ _ hbody).mono
        rintro drained _ ⟨part, rfl⟩
        rw [Party.gets_gets]
        simp only [guarded_ite, guarded_pure]
        exact ⟨fun _ => hrefused rfl, fun _ => hrefused rfl⟩
      · rw [guarded_pure]
        refine ⟨bytes, rfl, ?_⟩
        rintro _ ⟨⟩
        refine ⟨by rw [List.length_nil]; omega, ?_⟩
        rw [frame, List.append_nil, List.length_nil, ← hzero, htonl_ntohl hheader]
      · apply (guarded_readAll _ _ hbody).mono
        rintro read _ ⟨body, -, rfl, hall'⟩
        rw [Party.gets_gets]
        refine ⟨bytes ++ body, rfl, ?_⟩
        intro message hmessage
        obtain ⟨rfl, hlength⟩ := hall' message hmessage
        rw [frame, hlength, htonl_ntohl hheader]
        exact ⟨by omega, rfl⟩

/-- Of a frame the beginning is sent, and all of it on success. -/
theorem guarded_sendMessage (message : Bytes) (s : Party UInt8 σ)
    (hsend : ∀ bytes part, part <+: frame (message.takeWhile (· ≠ 0)) →
      allowed _ (.send bytes) (s.puts part)) :
    Guarded WireAnswers allowed (sendMessage message) s fun sent s' =>
      ∃ part, part <+: frame (message.takeWhile (· ≠ 0)) ∧ s' = s.puts part ∧
        (sent = true → part = frame (message.takeWhile (· ≠ 0))) := by
  rw [sendMessage]
  generalize message.takeWhile (· ≠ 0) = text at hsend
  have hheader {part : Bytes} (hpart : part <+: htonl text.length) : part <+: frame text :=
    hpart.trans (List.prefix_append _ _)
  have hfailed {part : Bytes} (hpart : part <+: frame text) :
      ∃ part', part' <+: frame text ∧ s.puts part = s.puts part' ∧
        (false = true → part' = frame text) :=
    ⟨part, hpart, rfl, fun hfalse => by cases hfalse⟩
  rw [guarded_ite]
  refine ⟨fun _ => ?_, fun _ => ?_⟩
  · have hnothing := hfailed List.nil_prefix
    rwa [Party.puts_nil] at hnothing
  rw [guarded_bind]
  apply (guarded_writeAll _ s fun bytes part hpart => hsend bytes part (hheader hpart)).mono
  rintro written _ ⟨header, hpart, rfl, hall⟩
  cases written with
  | false => exact hfailed (hheader hpart)
  | true =>
      have hwhole := hall rfl
      subst hwhole
      simp only [Bool.not_true, Bool.false_eq_true, if_false, guarded_ite]
      refine ⟨fun hzero => ?_, fun _ => ?_⟩
      · have hempty := List.eq_nil_of_length_eq_zero hzero
        refine ⟨frame text, List.prefix_refl _, ?_, fun _ => rfl⟩
        rw [frame, hempty, List.append_nil]
      · have hextends {part : Bytes} (hpart : part <+: text) :
            htonl text.length ++ part <+: frame text :=
          (List.prefix_append_right_inj _).mpr hpart
        apply (guarded_writeAll text _ ?_).mono
        · rintro written' _ ⟨body, hbody, rfl, hall'⟩
          refine ⟨_, hextends hbody, by rw [Party.puts_puts], ?_⟩
          intro hwritten
          rw [hall' hwritten, frame]
        · intro bytes part hbody
          rw [Party.puts_puts]
          exact hsend bytes _ (hextends hbody)

end rules

/-! ### Streams of frames -/

theorem stream_append (messages messages' : List Bytes) :
    stream (messages ++ messages') = stream messages ++ stream messages' := by
  rw [stream, stream, stream, List.map_append, List.flatten_append]

theorem stream_singleton (message : Bytes) : stream [message] = frame message := by
  rw [stream_cons]
  exact List.append_nil _

/-- A frame at the beginning of a stream is its first. -/
theorem stream_head {messages : List Bytes} (hfits : ∀ m ∈ messages, Fits m) {message : Bytes}
    (hmessage : Fits message) (h : frame message <+: stream messages) :
    ∃ rest, messages = message :: rest := by
  cases messages with
  | nil =>
      have hlength := h.length_le
      rw [frame, List.length_append, htonl_length] at hlength
      simp [stream] at hlength
  | cons first rest =>
      obtain ⟨behind, hsplit⟩ := h
      rw [stream_cons, frame, frame, List.append_assoc, List.append_assoc] at hsplit
      obtain ⟨hheader, hbody⟩ := List.append_inj hsplit rfl
      have hlength : message.length = first.length := by
        rw [← ntohl_htonl hmessage, hheader, ntohl_htonl (hfits first (List.mem_cons_self ..))]
      obtain ⟨rfl, -⟩ := List.append_inj hbody hlength
      exact ⟨rest, rfl⟩

/-- A stream of whole frames does not leave one unfinished. -/
theorem unfinished_stream {messages : List Bytes} (hfits : ∀ m ∈ messages, Fits m)
    (h : Unfinished (stream messages)) : messages = [] := by
  cases messages with
  | nil => rfl
  | cons first rest =>
      rw [stream_cons, frame, List.append_assoc] at h
      rcases h with hshort | ⟨header, body, hsplit, hheader, hbody⟩
      · rw [List.length_append, htonl_length] at hshort
        omega
      · obtain ⟨rfl, rfl⟩ := List.append_inj hsplit hheader.symm
        rw [ntohl_htonl (hfits first (List.mem_cons_self ..)), List.length_append] at hbody
        omega

end AtmSystem.Model
