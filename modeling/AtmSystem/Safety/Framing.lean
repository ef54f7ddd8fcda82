import AtmSystem.Semantics.Sockets

/-!
Message framing. A frame is a message behind its length, and a stream of frames
is read back frame by frame, however `send` and `recv` cut it up: a message
that does not fit the buffer is refused and dropped as a whole, so that the
next call starts at the next frame, and a frame that the stream ends in is
refused.
-/

namespace AtmSystem.Model

open Library Program

/-- A message as it travels. -/
def frame (message : Bytes) : Bytes := htonl message.length ++ message

/-- The frames of messages, one behind the other. -/
def stream (messages : List Bytes) : Bytes := (messages.map frame).flatten

@[simp] theorem stream_cons (message : Bytes) (rest : List Bytes) :
    stream (message :: rest) = frame message ++ stream rest := rfl

/-- A message whose length fits the header. -/
def Fits (message : Bytes) : Prop := message.length ≤ uint32Max

instance (message : Bytes) : Decidable (Fits message) := inferInstanceAs (Decidable (_ ≤ _))

/-- What a call with this buffer makes of a frame. -/
def delivered (bufferSize : Nat) (message : Bytes) : Option Bytes :=
  if message.length < bufferSize then some message else none

/-- A message is written as one frame, unless it is too long for the header. -/
theorem always_sendMessage {message : Bytes} (hnul : 0 ∉ message) (s : Socket) :
    Always SocketAnswers (sendMessage message) s fun sent s' =>
      sent = decide (Fits message) ∧
        Moved s [] (if Fits message then frame message else []) (frame message).length s' := by
  have hframe : (frame message).length = 4 + message.length := List.length_append
  simp only [sendMessage, takeWhile_of_not_mem hnul]
  by_cases hfits : Fits message
  · have hlong : ¬ uint32Max < message.length := not_lt.mpr hfits
    simp only [hlong, hfits, if_false, if_true, decide_true, always_bind]
    apply (always_writeAll (htonl message.length) s).mono
    rintro _ s' ⟨rfl, hheader⟩
    simp only [Bool.not_true, Bool.false_eq_true, if_false]
    split
    · rename_i hempty
      have hnil := List.eq_nil_of_length_eq_zero hempty
      refine ⟨rfl, ?_⟩
      have hheaderOnly : frame message = htonl message.length := by simp [frame, hnil]
      rw [hheaderOnly]
      exact hheader
    · apply (always_writeAll message s').mono
      rintro _ s'' ⟨rfl, hbody⟩
      refine ⟨rfl, (hheader.trans hbody).mono ?_⟩
      rw [hframe, htonl_length]
  · have hlong : uint32Max < message.length := not_le.mp hfits
    simp only [hlong, hfits, if_true, if_false, decide_false]
    exact ⟨rfl, (Moved.refl s).mono (by omega)⟩

/-- A frame is read as a whole, whether its message is delivered or refused. -/
theorem always_receiveMessage {bufferSize : Nat} (hsize : 0 < bufferSize) {message : Bytes}
    (hfits : Fits message) {rest : Bytes} {s : Socket} (hs : s.incoming = frame message ++ rest) :
    Always SocketAnswers (receiveMessage bufferSize) s fun answer s' =>
      answer = delivered bufferSize message ∧
        Moved s (frame message) [] (frame message).length s' := by
  have hframe : (frame message).length = 4 + message.length := List.length_append
  have hheader : s.incoming = htonl message.length ++ (message ++ rest) := by
    rw [hs, frame, List.append_assoc]
  have hlength := htonl_length message.length
  rw [receiveMessage, if_neg (by omega), always_bind]
  apply (always_readAll 4 s).mono
  rintro _ s' ⟨rfl, hread⟩
  rw [hheader, List.take_left' hlength] at hread ⊢
  have hrest : s'.incoming = message ++ rest := hread.behind hheader
  rw [if_pos (by simp [hlength])]
  simp only [ntohl_htonl hfits]
  have hwhole {s'' : Socket} {calls : Nat}
      (hbody : Moved s' (s'.incoming.take message.length) [] calls s'')
      (hcalls : calls ≤ message.length) : Moved s (frame message) [] (frame message).length s'' := by
    rw [hrest, List.take_left] at hbody
    exact (hread.trans hbody).mono (by omega)
  split
  · rename_i hlarge
    rw [always_bind]
    apply (always_drainBytes message.length s').mono
    rintro drained s'' ⟨-, hbody⟩
    have hrefused : delivered bufferSize message = none := if_neg (by omega)
    rw [hrefused]
    split <;> exact ⟨rfl, hwhole hbody (le_refl _)⟩
  rename_i hsmall
  have hdelivered : delivered bufferSize message = some message := if_pos (by omega)
  rw [hdelivered]
  split
  · rename_i hempty
    have hnil := List.eq_nil_of_length_eq_zero hempty
    refine ⟨by rw [hnil], ?_⟩
    apply hwhole _ (Nat.zero_le _)
    simpa [hempty] using Moved.refl s'
  · apply (always_readAll message.length s').mono
    rintro _ s'' ⟨rfl, hbody⟩
    refine ⟨?_, hwhole hbody (le_refl _)⟩
    rw [hrest, List.take_left, if_pos (by simp)]

/-- A stream that is read to its end is empty. -/
theorem Moved.ended {s s' : Socket} {length calls : Nat} {sent : Bytes}
    (h : Moved s (s.incoming.take length) sent calls s') (hshort : s.incoming.length ≤ length) :
    s'.incoming = [] := by
  have hsplit := h.incoming
  rw [List.take_of_length_le hshort] at hsplit
  exact List.self_eq_append_right.mp hsplit

/-- A frame the stream ends in is refused, and nothing is left of it. -/
theorem always_receiveMessage_truncated {bufferSize : Nat} (hsize : 0 < bufferSize)
    {message part : Bytes} (hfits : Fits message) (hpart : part <+: frame message)
    (hproper : part ≠ frame message) {s : Socket} (hs : s.incoming = part) :
    Always SocketAnswers (receiveMessage bufferSize) s fun answer s' =>
      answer = none ∧ s'.incoming = [] := by
  have hlength := htonl_length message.length
  have hshorter : part.length < 4 + message.length := by
    have hle := hpart.length_le
    have hne : part.length ≠ (frame message).length := fun heq => hproper (hpart.eq_of_length heq)
    rw [frame, List.length_append, hlength] at hle hne
    omega
  rw [receiveMessage, if_neg (by omega), always_bind]
  apply (always_readAll 4 s).mono
  rintro _ s' ⟨rfl, hread⟩
  by_cases hheader : 4 ≤ s.incoming.length
  · rw [hs] at hheader
    obtain ⟨body, rfl⟩ : htonl message.length <+: part :=
      List.prefix_of_prefix_length_le (List.prefix_append _ _) hpart (by omega : 4 ≤ part.length)
    rw [hs, if_pos hheader, List.take_left' hlength]
    rw [hs, List.take_left' hlength] at hread
    have hrest : s'.incoming = body := hread.behind hs
    have hbody : s'.incoming.length < message.length := by
      rw [List.length_append, hlength] at hshorter
      rw [hrest]
      omega
    simp only [ntohl_htonl hfits]
    split
    · rw [always_bind]
      apply (always_drainBytes message.length s').mono
      rintro drained s'' ⟨-, hmoved⟩
      split <;> exact ⟨rfl, hmoved.ended hbody.le⟩
    · rw [if_neg (by omega)]
      apply (always_readAll message.length s').mono
      rintro _ s'' ⟨rfl, hmoved⟩
      exact ⟨if_neg (by omega), hmoved.ended hbody.le⟩
  · rw [if_neg hheader]
    exact ⟨rfl, hread.ended (by omega)⟩

/-- The messages that are sent: the others do not fit the header. -/
def carried (messages : List Bytes) : List Bytes := messages.filter Fits

theorem fits_of_carried {messages : List Bytes} {message : Bytes}
    (h : message ∈ carried messages) : Fits message := by
  simpa using (List.mem_filter.mp h).2

theorem always_sendMessages {messages : List Bytes} (hnul : ∀ message ∈ messages, 0 ∉ message)
    (s : Socket) :
    Always SocketAnswers (each sendMessage messages) s fun sent s' =>
      sent = messages.map (fun message => decide (Fits message)) ∧
        s'.outgoing = s.outgoing ++ stream (carried messages) := by
  -- what has been sent, and what is still to be sent
  refine (always_each (fun rest s' => (∀ message ∈ rest, 0 ∉ message) ∧
      s'.outgoing ++ stream (carried rest) = s.outgoing ++ stream (carried messages))
    (fun message => decide (Fits message)) ?_ ⟨hnul, rfl⟩).mono ?_
  · rintro message rest s' ⟨hclean, hall⟩
    rw [List.forall_mem_cons] at hclean
    apply (always_sendMessage hclean.1 s').mono
    rintro sent s'' ⟨hsent, hmoved⟩
    refine ⟨hsent, hclean.2, ?_⟩
    rw [hmoved.outgoing, ← hall]
    by_cases hfits : Fits message <;> simp [carried, hfits]
  · rintro sent s' ⟨hsent, -, hall⟩
    exact ⟨hsent, (List.append_nil _).symm.trans hall⟩

/-- The frames in front of the stream are read one by one. -/
theorem always_receiveMessages {bufferSize : Nat} (hsize : 0 < bufferSize) {first : List Bytes}
    (hfits : ∀ message ∈ first, Fits message) {rest : Bytes} {s : Socket}
    (hs : s.incoming = stream first ++ rest) :
    Always SocketAnswers (repeated (receiveMessage bufferSize) first.length) s fun answers s' =>
      answers = first.map (delivered bufferSize) ∧ s'.incoming = rest := by
  rw [← each_const]
  refine (always_each (fun left s' => (∀ message ∈ left, Fits message) ∧
    s'.incoming = stream left ++ rest) (delivered bufferSize) ?_ ⟨hfits, hs⟩).mono ?_
  · rintro message left s' ⟨hleft, hincoming⟩
    rw [List.forall_mem_cons] at hleft
    rw [stream_cons, List.append_assoc] at hincoming
    apply (always_receiveMessage hsize hleft.1 hincoming).mono
    rintro answer s'' ⟨hanswer, hmoved⟩
    exact ⟨hanswer, hleft.2, hmoved.behind hincoming⟩
  · rintro answers s' ⟨hanswers, -, hincoming⟩
    exact ⟨hanswers, hincoming⟩

/-- The calls `read_all`, `write_all` and `drain_bytes` make: no more than there
are bytes to move. -/
structure BoundedLoops (s : Socket) : Prop where
  readAll : ∀ length, Always SocketAnswers (readAll length) s fun _ s' =>
    s'.calls ≤ s.calls + length
  writeAll : ∀ buffer, Always SocketAnswers (writeAll buffer) s fun _ s' =>
    s'.calls ≤ s.calls + buffer.length
  drainBytes : ∀ length, Always SocketAnswers (drainBytes length) s fun _ s' =>
    s'.calls ≤ s.calls + length

theorem boundedLoops (s : Socket) : BoundedLoops s where
  readAll length := (always_readAll length s).mono fun _ _ h => h.2.calls
  writeAll buffer := (always_writeAll buffer s).mono fun _ _ h => h.2.calls
  drainBytes length := (always_drainBytes length s).mono fun _ _ h => h.2.calls

/-- However the calls cut the stream: the messages that fit the header are
written as frames; after any number of calls the reader stands at the next
frame and has been given each message that is shorter than its buffer and
nothing for the others; a frame that is cut off by the end of the stream gives
nothing; and the loops end. -/
theorem messages_framed {messages : List Bytes} (hnul : ∀ message ∈ messages, 0 ∉ message)
    {bufferSize : Nat} (hsize : 0 < bufferSize) (s : Socket) :
    Always SocketAnswers (each sendMessage messages) s (fun sent s' =>
      sent = messages.map (fun message => decide (Fits message)) ∧
        s'.outgoing = s.outgoing ++ stream (carried messages)) ∧
    (∀ first rest tail, carried messages = first ++ rest →
      s.incoming = stream (carried messages) ++ tail →
      Always SocketAnswers (repeated (receiveMessage bufferSize) first.length) s
        fun answers s' => answers = first.map (delivered bufferSize) ∧
          s'.incoming = stream rest ++ tail) ∧
    (∀ first message rest part, carried messages = first ++ message :: rest →
      part <+: frame message → part ≠ frame message → s.incoming = stream first ++ part →
      Always SocketAnswers (repeated (receiveMessage bufferSize) (first.length + 1)) s
        fun answers s' => answers = first.map (delivered bufferSize) ++ [none] ∧
          s'.incoming = []) ∧
    BoundedLoops s := by
  refine ⟨always_sendMessages hnul s, ?_, ?_, boundedLoops s⟩
  · intro first rest tail hsplit hs
    rw [hsplit, stream, List.map_append, List.flatten_append, List.append_assoc] at hs
    apply always_receiveMessages hsize _ hs
    intro message hmessage
    exact fits_of_carried (hsplit ▸ List.mem_append_left _ hmessage)
  · intro first message rest part hsplit hpart hproper hs
    have hfits {m : Bytes} (hm : m ∈ first ++ message :: rest) : Fits m :=
      fits_of_carried (hsplit ▸ hm)
    have hfirst : ∀ m ∈ first, Fits m := fun m hm => hfits (List.mem_append_left _ hm)
    apply always_repeated_snoc
    apply (always_receiveMessages hsize hfirst hs).mono
    rintro _ s' ⟨rfl, hincoming⟩
    apply (always_receiveMessage_truncated hsize (hfits (by simp)) hpart hproper hincoming).mono
    rintro _ s'' ⟨rfl, hended⟩
    exact ⟨rfl, hended⟩

/-- Two messages for a buffer of three bytes, the second of which does not fit. -/
theorem messages_framed_oversize :
    Always SocketAnswers (repeated (receiveMessage 3) 3)
      ⟨stream [ascii "OK", ascii "ERR", ascii "up"], [], 0⟩
      fun answers s' => answers = [some (ascii "OK"), none, some (ascii "up")] ∧
        s'.incoming = [] := by
  have hframed := @messages_framed [ascii "OK", ascii "ERR", ascii "up"] (by decide) 3 (by decide)
    ⟨stream [ascii "OK", ascii "ERR", ascii "up"], [], 0⟩
  exact hframed.2.1 [ascii "OK", ascii "ERR", ascii "up"] [] [] (by decide) (by decide)

end AtmSystem.Model
