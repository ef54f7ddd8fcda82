import AtmSystem.Library.Outcomes
import AtmSystem.Model.Exchange
import AtmSystem.Safety.Framing
import AtmSystem.Semantics.Requests

/-!
A request and its answer over one connection. The bytes that one side has sent
are those that arrive at the other, in whatever pieces the calls move them; the
client then makes of the response what the server has put into it, up to the
first NUL.
-/

namespace AtmSystem.Model

open Library Program

/-- The client of a connection with nothing on its way sends a request, the
server takes one turn, and the client has this answer. -/
def Obtains (fp : Rounding) (s : ServerState) (env : Environment) (request : Bytes)
    (answer : Option (Bool × Bytes)) : Prop :=
  ∃ (client server : Socket) (outcome : Bool × ServerState),
    MayEnd SocketAnswers (requestServer request maxMessageSize) ⟨server.outgoing, [], 0⟩ answer
      client ∧
    MayEnd SocketAnswers (serveNext fp s env) ⟨client.outgoing, [], 0⟩ outcome server

/-- Every call into a socket has some answer. -/
theorem exists_socketAnswer (β : Type) (op : SocketOp β) (s : Socket) :
    ∃ answer s', SocketAnswers β op s answer s' := by
  cases op with
  | send bytes => exact ⟨⟨bytes.length, le_refl _⟩, _, List.length_pos_iff.mpr, rfl⟩
  | recv length =>
      refine ⟨⟨s.incoming.take length, List.length_take_le _ _⟩, _, ?_, s.incoming.drop length,
        (List.take_append_drop _ _).symm, rfl⟩
      intro hlength hincoming
      simp [List.take_eq_nil_iff, hincoming, Nat.ne_of_gt hlength]

/-! ### What is sent -/

theorem not_mem_text (message : Bytes) : (0 : UInt8) ∉ message.takeWhile (· ≠ 0) := by
  intro hmem
  simpa using List.mem_takeWhile_imp hmem

/-- Only what stands in front of the first NUL is sent. -/
theorem sendMessage_text (message : Bytes) :
    sendMessage (message.takeWhile (· ≠ 0)) = sendMessage message := by
  simp only [sendMessage, takeWhile_of_not_mem (not_mem_text message)]

theorem readResponse_text (payloadSize : Nat) (response : Bytes) :
    readResponse payloadSize (response.takeWhile (· ≠ 0)) = readResponse payloadSize response := by
  simp only [readResponse, takeWhile_of_not_mem (not_mem_text response)]

/-- `receive_message` sends nothing. -/
theorem always_receiveMessage_silent (bufferSize : Nat) (s : Socket) :
    Always SocketAnswers (receiveMessage bufferSize) s fun _ s' => s'.outgoing = s.outgoing := by
  have hsilent {length : Nat} {s s' : Socket} {received : Bytes}
      (h : Moved s received [] length s') : s'.outgoing = s.outgoing := by
    rw [h.outgoing, List.append_nil]
  rw [receiveMessage, always_ite]
  refine ⟨fun _ => rfl, fun _ => ?_⟩
  rw [always_bind]
  apply (always_readAll 4 s).mono
  rintro header s' ⟨-, hheader⟩
  cases header with
  | none => exact hsilent hheader
  | some netLength =>
      simp only [always_ite, always_bind, always_pure]
      refine ⟨fun _ => ?_, fun _ => ⟨fun _ => hsilent hheader, fun _ => ?_⟩⟩
      · apply (always_drainBytes _ s').mono
        rintro drained s'' ⟨-, hbody⟩
        have hboth := (hsilent hbody).trans (hsilent hheader)
        exact ⟨fun _ => hboth, fun _ => hboth⟩
      · apply (always_readAll _ s').mono
        rintro body s'' ⟨-, hbody⟩
        exact (hsilent hbody).trans (hsilent hheader)

/-! ### Both sides -/

section sides

variable {request : Bytes} (hnul : 0 ∉ request) (hshort : request.length < maxMessageSize)

include hnul hshort

/-- The client sends its request, whatever arrives. -/
theorem always_requestServer (incoming : Bytes) :
    Always SocketAnswers (requestServer request maxMessageSize) ⟨incoming, [], 0⟩
      fun answer client => client.outgoing = frame request ∧
        ∀ response, response.length < maxMessageSize → incoming = frame response →
          answer = readResponse maxMessageSize response := by
  have hfits : Fits request := hshort.le.trans (by decide)
  rw [requestServer, always_bind]
  apply (always_sendMessage hnul _).mono
  rintro sent s' ⟨rfl, hmoved⟩
  rw [if_pos hfits] at hmoved
  have hsent : s'.outgoing = frame request := hmoved.outgoing
  have hincoming : incoming = s'.incoming := hmoved.incoming
  simp only [hfits, decide_true, Bool.not_true, Bool.false_eq_true, if_false, always_bind]
  apply always_iff_mayEnd.mpr
  intro received s'' hends
  have hsilent := (always_receiveMessage_silent maxMessageSize s').at_end hends
  have hread (response : Bytes) (hlength : response.length < maxMessageSize)
      (hin : incoming = frame response) : received = some response := by
    have hframe : s'.incoming = frame response ++ [] := by rw [← hincoming, hin, List.append_nil]
    have hresponse : Fits response := hlength.le.trans (by decide)
    have hreceived := ((always_receiveMessage (by decide) hresponse hframe).at_end hends).1
    rwa [delivered, if_pos hlength] at hreceived
  cases received with
  | none =>
      refine ⟨hsilent.trans hsent, ?_⟩
      intro response hlength hin
      cases hread response hlength hin
  | some text =>
      refine ⟨hsilent.trans hsent, ?_⟩
      intro response hlength hin
      cases hread response hlength hin
      rfl

omit hnul in
/-- The server answers the request that has arrived. -/
theorem always_serveNext (fp : Rounding) (s : ServerState) (env : Environment) :
    Always SocketAnswers (serveNext fp s env) ⟨frame request, [], 0⟩ fun outcome server =>
      outcome = (true, (s.serve fp ⟨request, env⟩).2) ∧ server.outgoing =
        frame ((makeResponse (s.serve fp ⟨request, env⟩).1).takeWhile (· ≠ 0)) := by
  have hfits : Fits request := hshort.le.trans (by decide)
  have harrives : (⟨frame request, [], 0⟩ : Socket).incoming = frame request ++ [] :=
    (List.append_nil _).symm
  rw [serveNext, always_bind]
  apply (always_receiveMessage (by decide) hfits harrives).mono
  rintro answer s' ⟨rfl, hmoved⟩
  simp only [delivered, hshort, if_true]
  generalize s.serve fp ⟨request, env⟩ = turn
  obtain ⟨response, after⟩ := turn
  have hlength : ((makeResponse response).takeWhile (· ≠ 0)).length < maxMessageSize := by
    have hcut := (List.takeWhile_sublist (· ≠ (0 : UInt8)) (l := makeResponse response)).length_le
    have hbuffer : (makeResponse response).length ≤ maxMessageSize - 1 := List.length_take_le _ _
    have hsize : maxMessageSize = 32768 := rfl
    omega
  have hresponse : Fits ((makeResponse response).takeWhile (· ≠ 0)) :=
    hlength.le.trans (by decide)
  simp only [always_bind, ← sendMessage_text (makeResponse response)]
  apply (always_sendMessage (not_mem_text _) s').mono
  rintro sent s'' ⟨rfl, hsent⟩
  rw [if_pos hresponse] at hsent
  refine ⟨by rw [decide_eq_true hresponse], ?_⟩
  rw [hsent.outgoing, hmoved.outgoing]
  rfl

/-- The client has one answer, which it reads out of the response of the
server. -/
theorem obtains_iff {fp : Rounding} {s : ServerState} {env : Environment}
    {answer : Option (Bool × Bytes)} :
    Obtains fp s env request answer ↔
      answer = readResponse maxMessageSize (makeResponse (s.serve fp ⟨request, env⟩).1) := by
  generalize hresponse : makeResponse (s.serve fp ⟨request, env⟩).1 = response
  have hserver (outcome : Bool × ServerState) (server : Socket)
      (h : MayEnd SocketAnswers (serveNext fp s env) ⟨frame request, [], 0⟩ outcome server) :
      server.outgoing = frame (response.takeWhile (· ≠ 0)) :=
    hresponse ▸ ((always_serveNext hshort fp s env).at_end h).2
  have hlength : (response.takeWhile (· ≠ 0)).length < maxMessageSize := by
    have hcut := (List.takeWhile_sublist (· ≠ (0 : UInt8)) (l := response)).length_le
    have hbuffer : response.length ≤ maxMessageSize - 1 := hresponse ▸ List.length_take_le _ _
    have hsize : maxMessageSize = 32768 := rfl
    omega
  have hclient (answer : Option (Bool × Bytes)) (client : Socket)
      (h : MayEnd SocketAnswers (requestServer request maxMessageSize)
        ⟨frame (response.takeWhile (· ≠ 0)), [], 0⟩ answer client) :
      client.outgoing = frame request ∧ answer = readResponse maxMessageSize response := by
    obtain ⟨hsent, hread⟩ := (always_requestServer hnul hshort _).at_end h
    refine ⟨hsent, ?_⟩
    rw [← readResponse_text]
    exact hread _ hlength rfl
  constructor
  · rintro ⟨client, server, outcome, hrequest, hserve⟩
    rw [((always_requestServer hnul hshort _).at_end hrequest).1] at hserve
    rw [hserver outcome server hserve] at hrequest
    exact (hclient answer client hrequest).2
  · rintro rfl
    obtain ⟨outcome, server, hserve⟩ :=
      exists_mayEnd exists_socketAnswer (serveNext fp s env) ⟨frame request, [], 0⟩
    have hsent := hserver outcome server hserve
    obtain ⟨answer, client, hrequest⟩ := exists_mayEnd exists_socketAnswer
      (requestServer request maxMessageSize) ⟨frame (response.takeWhile (· ≠ 0)), [], 0⟩
    obtain ⟨hasked, rfl⟩ := hclient answer client hrequest
    refine ⟨client, server, outcome, ?_, ?_⟩
    · rw [hsent]
      exact hrequest
    · rw [hasked]
      exact hserve

end sides

/-! ### Reading a response -/

/-- A response is read as its status and what fits of its payload. -/
theorem readResponse_status {status : Bytes} (hnewline : newline ∉ status) (hnul : 0 ∉ status)
    (hshort : status.length < 16) (payload : Bytes) :
    readResponse maxMessageSize (snprintf maxMessageSize (status ++ [newline] ++ payload)) =
      some (decide (status = ascii "OK"),
        (payload.take (maxMessageSize - 2 - status.length)).takeWhile (· ≠ 0)) := by
  have hsize : maxMessageSize = 32768 := rfl
  have hcut : snprintf maxMessageSize (status ++ [newline] ++ payload) =
      status ++ newline :: payload.take (maxMessageSize - 2 - status.length) := by
    rw [snprintf, List.append_assoc, List.take_append, List.take_of_length_le (by omega),
      List.singleton_append, List.take_cons (by omega)]
    congr 3
    omega
  have hall : ∀ b ∈ status ++ [newline], decide (b ≠ 0) = true := by
    intro b hb
    rw [decide_eq_true_eq]
    rintro rfl
    rcases List.mem_append.mp hb with hstatus | hlast
    · exact hnul hstatus
    · cases List.mem_singleton.mp hlast
  rw [hcut]
  generalize hrest : payload.take (maxMessageSize - 2 - status.length) = rest
  have hrestLength : rest.length ≤ maxMessageSize - 2 := by
    rw [← hrest, List.length_take]
    omega
  have htext : (status ++ newline :: rest).takeWhile (· ≠ 0) =
      status ++ newline :: rest.takeWhile (· ≠ 0) := by
    rw [List.append_cons, List.takeWhile_append_of_pos hall, ← List.append_cons]
  obtain ⟨hfirst, hbehind⟩ := takeWhile_line hnewline (rest.takeWhile (· ≠ 0))
  have hwhole : snprintf maxMessageSize (rest.takeWhile (· ≠ 0)) = rest.takeWhile (· ≠ 0) := by
    have hprefix := (List.takeWhile_sublist (· ≠ (0 : UInt8)) (l := rest)).length_le
    exact List.take_of_length_le (by omega)
  simp only [readResponse, htext, hfirst, hbehind, hwhole, not_le.mpr hshort, if_false]

theorem readResponse_ok {payload : Bytes} (hnul : 0 ∉ payload) :
    readResponse maxMessageSize (makeResponse ⟨.ok, payload⟩) =
      some (true, payload.take (maxMessageSize - 4)) := by
  have hclean : 0 ∉ payload.take (maxMessageSize - 4) :=
    fun hmem => hnul (List.mem_of_mem_take hmem)
  have hread := @readResponse_status (ascii "OK") (by decide) (by decide) (by decide) payload
  exact hread.trans (congrArg (fun text => some (true, text)) (takeWhile_of_not_mem hclean))

/-- Whatever the payload, a refusal is read as one. -/
theorem readResponse_err (payload : Bytes) :
    ∃ text, readResponse maxMessageSize (makeResponse ⟨.err, payload⟩) = some (false, text) := by
  exact ⟨_, @readResponse_status (ascii "ERR") (by decide) (by decide) (by decide) payload⟩

end AtmSystem.Model
