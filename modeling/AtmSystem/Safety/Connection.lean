import AtmSystem.Safety.StatementsFit
import AtmSystem.Safety.TerminalFlows
import AtmSystem.Semantics.Connection

/-!
The client and the server at work on one connection, step by step in any order,
with bytes under way in both directions and calls that may fail on either side.
Each request that is made is served at most once, in the order they are made; an
answer that is obtained is the response to its own request; what the client
shows is true of what the server has done; and the two never wait for each
other.
-/

namespace AtmSystem.Model

open Library Program Side Terminal Bank

/-- The requests that have been served. -/
def contents (served : List Served) : List Bytes := served.map fun x => x.message.content

/-- The responses that have been sent for them. -/
def texts (fp : Rounding) (served : List Served) : List Bytes := served.map (Served.text fp)

theorem contents_append (served served' : List Served) :
    contents (served ++ served') = contents served ++ contents served' := List.map_append

theorem texts_append (fp : Rounding) (served served' : List Served) :
    texts fp (served ++ served') = texts fp served ++ texts fp served' := List.map_append

@[simp] theorem contents_length (served : List Served) : (contents served).length = served.length :=
  List.length_map _

/-! ### The server -/

/-- What the server has done is what it was asked for. -/
structure Serves (fp : Rounding) (asked : List Bytes) (s : Party UInt8 (List Served)) : Prop where
  requests : contents s.own <+: asked
  linked : Linked fp s.own
  sent : s.sent <+: stream (texts fp s.own)

/-- Every request that was served has been answered. -/
structure Between (fp : Rounding) (asked : List Bytes) (s : Party UInt8 (List Served)) : Prop where
  requests : contents s.own <+: asked
  linked : Linked fp s.own
  sent : s.sent = stream (texts fp s.own)
  received : s.received = stream (contents s.own)

/-- The server waits in the middle of the next request, or in front of it. -/
def ServerWaits (fp : Rounding) (s : Party UInt8 (List Served)) : Prop :=
  s.sent = stream (texts fp s.own) ∧
    ∃ part, Unfinished part ∧ s.received = stream (contents s.own) ++ part

def ServerKeeps (fp : Rounding) (asked : List Bytes) :
    (β : Type) → ServerOp β → Party UInt8 (List Served) → Prop
  | _, .socket (.recv _), s => Serves fp asked s ∧ ServerWaits fp s
  | _, _, s => Serves fp asked s

/-- No more has arrived than these requests. -/
def Arrived (asked : List Bytes) (s : Party UInt8 (List Served)) : Prop :=
  s.received <+: stream asked

section server

variable {fp : Rounding} {asked : List Bytes} {s : Party UInt8 (List Served)}

theorem Between.serves (h : Between fp asked s) : Serves fp asked s :=
  ⟨h.requests, h.linked, h.sent ▸ List.prefix_refl _⟩

theorem serverKeeps_serves {β : Type} {op : ServerOp β} (h : ServerKeeps fp asked β op s) :
    Serves fp asked s := by
  cases op with
  | handleRequest request => exact h
  | socket op =>
      cases op with
      | send bytes => exact h
      | recv length => exact h.1

/-- What arrives behind the requests that are served is the beginning of the
next. -/
theorem next_request {served : List Served} (hasked : ∀ r ∈ asked, Clean r)
    (hrequests : contents served <+: asked) {message : Bytes} (hmessage : Fits message)
    (h : stream (contents served) ++ frame message <+: stream asked) :
    contents served ++ [message] <+: asked := by
  obtain ⟨more, rfl⟩ := hrequests
  rw [stream_append, List.prefix_append_right_inj] at h
  have hfits : ∀ m ∈ more, Fits m := fun m hm => (hasked m (List.mem_append_right _ hm)).fits
  obtain ⟨rest, rfl⟩ := stream_head hfits hmessage h
  exact (List.prefix_append_right_inj _).mpr (List.prefix_append [message] rest)

/-- A turn of the loop serves one request and answers it, or the loop is left. -/
theorem handleClient_turn (hasked : ∀ r ∈ asked, Clean r) (h : Between fp asked s)
    (harrived : Arrived asked s) :
    Guarded (Within (Arrived asked) (ServerAnswers fp)) (ServerKeeps fp asked) handleClient.turn s
      (Restored (fun s' => Between fp asked s' ∧ Arrived asked s')
        fun _ s' => Serves fp asked s') := by
  have hgets (part : Bytes) : Serves fp asked (s.gets part) := ⟨h.requests, h.linked, h.serves.sent⟩
  have hwaits (size : Nat) (part : Bytes) (hpart : Unfinished part) :
      ServerKeeps fp asked _ (.socket (.recv size)) (s.gets part) := by
    refine ⟨hgets part, h.sent, part, hpart, ?_⟩
    rw [Party.gets_received, h.received, Party.gets_own]
  rw [handleClient.turn, guarded_bind]
  apply (guarded_serverSocket (guarded_receiveMessage maxMessageSize s hwaits) harrived).mono
  rintro received _ ⟨⟨part, rfl, hread⟩, hbound⟩
  cases received with
  | none => exact .leaves (hgets part)
  | some request =>
      obtain ⟨hshort, rfl⟩ := hread request rfl
      have hfits : Fits request := hshort.le.trans (by decide)
      rw [Arrived, Party.gets_received, h.received] at hbound
      have hnext := next_request hasked h.requests hfits hbound
      simp only [guarded_bind, guarded_call]
      refine ⟨hgets _, ?_⟩
      rintro response _ ⟨⟨x, hcontent, hsession, hsaved, rfl, rfl⟩, harrived'⟩
      have hcontents : contents (s.own ++ [x]) = contents s.own ++ [request] := by
        rw [contents_append, ← hcontent]
        rfl
      have hrequests : contents (s.own ++ [x]) <+: asked := hcontents ▸ hnext
      have hlinked : Linked fp (s.own ++ [x]) := h.linked.snoc hsession hsaved
      have htexts : stream (texts fp (s.own ++ [x])) = s.sent ++ frame (x.text fp) := by
        rw [texts_append, stream_append, h.sent]
        congr 1
        exact stream_singleton _
      have hserves {part : Bytes} (hpart : part <+: frame (x.text fp)) :
          Serves fp asked (Party.puts ⟨s.received ++ frame request, s.sent, s.own ++ [x]⟩ part) := by
        refine ⟨hrequests, hlinked, ?_⟩
        rw [Party.puts_sent, Party.puts_own, htexts]
        exact (List.prefix_append_right_inj _).mpr hpart
      apply (guarded_serverSocket
        (guarded_sendMessage _ _ fun bytes part hpart => hserves hpart) harrived').mono
      rintro sent _ ⟨⟨part, hpart, rfl, hall⟩, hend⟩
      cases sent with
      | false => exact .leaves (hserves hpart)
      | true =>
          have hwhole := hall rfl
          subst hwhole
          refine .goesOn ⟨⟨hrequests, hlinked, htexts.symm, ?_⟩, hend⟩
          change s.received ++ frame request = stream (contents (s.own ++ [x]))
          rw [hcontents, stream_append, stream_singleton, h.received]

/-- Given what it is asked for, the server does what it is asked for. -/
theorem server_guarded (hasked : ∀ r ∈ asked, Clean r) (fuel : Nat) :
    Guarded (Within (Arrived asked) (ServerAnswers fp)) (ServerKeeps fp asked)
      (handleClient.onSocket fuel) ⟨[], [], []⟩ fun _ s' => Serves fp asked s' := by
  have hstart : Between fp asked ⟨[], [], []⟩ := by
    refine ⟨List.nil_prefix, ?_, rfl, rfl⟩
    intro i x hx
    cases hx
  apply (guarded_loop (fun s' => Between fp asked s' ∧ Arrived asked s')
    (fun _ hbetween => handleClient_turn hasked hbetween.1 hbetween.2) fuel
    ⟨hstart, List.nil_prefix⟩).mono
  intro outcome s' hend
  cases outcome with
  | none => exact (hend.1 rfl).1.serves
  | some done => exact hend.2 done rfl

end server

/-! ### The client -/

/-- The client has got the answers of these requests, and perhaps lost the
connection at the one behind them. -/
structure HasHeard (fp : Rounding) (served answered : List Served) (lost : Bool)
    (answers : List (Option (Bool × Bytes))) : Prop where
  served : answered <+: served
  answers : answers = answered.map (Served.read fp) ++ if lost then [none] else []

/-- What the client has made of the connection, whatever it is at. -/
structure Follows (fp : Rounding) (served : List Served) (s : Party UInt8 Log) : Prop where
  clean : ∀ r ∈ s.own.asked, Clean r
  sent : s.sent <+: stream s.own.asked
  pending : s.own.asked.length ≤ s.own.answers.length + 1
  heard : ∃ answered lost, HasHeard fp served answered lost s.own.answers

/-- The client waits for a response: it has sent its request, and what has
arrived behind the answers is no whole frame. -/
def ClientWaits (fp : Rounding) (served : List Served) (s : Party UInt8 Log) : Prop :=
  s.sent = stream s.own.asked ∧
    ∃ answered part, answered <+: served ∧ s.own.asked.length = answered.length + 1 ∧
      Unfinished part ∧ s.received = stream (texts fp answered) ++ part

/-- The client is honest, and what it says of the server is true of what the
server has served. -/
def Truly (fp : Rounding) (served : List Served) {β : Type} (op : DeskOp β) (log : Log) : Prop :=
  ∃ answered lost, HasHeard fp served answered lost log.answers ∧
    Honest fp β op.toConsole ⟨log.desk.input, log.desk.prompts, remoteAfter fp answered lost⟩

def ClientKeeps (fp : Rounding) (served : List Served) :
    (β : Type) → ClientOp β → Party UInt8 Log → Prop
  | _, .desk op, s => Follows fp served s ∧ Truly fp served op s.own
  | _, .socket (.recv _), s => Follows fp served s ∧ ClientWaits fp served s
  | _, _, s => Follows fp served s

/-- No more has arrived than the responses to what has been served, and no more
is asked than this. -/
structure Expected (fp : Rounding) (served : List Served) (asked : List Bytes)
    (s : Party UInt8 Log) : Prop where
  received : s.received <+: stream (texts fp served)
  asked : s.own.asked <+: asked

/-- The client between two requests, as its own program sees it. -/
structure Stands (fp : Rounding) (served answered : List Served) (lost : Bool) (d : Desk Remote)
    (s : Party UInt8 Log) : Prop where
  heard : HasHeard fp served answered lost s.own.answers
  desk : d = ⟨s.own.desk.input, s.own.desk.prompts, remoteAfter fp answered lost⟩
  clean : ∀ r ∈ s.own.asked, Clean r
  sent : s.sent <+: stream s.own.asked
  settled : s.own.asked.length = s.own.answers.length
  connected : lost = false → s.own.asked = contents answered ∧
    s.received = stream (texts fp answered) ∧ s.sent = stream s.own.asked

section client

variable {fp : Rounding} {served : List Served} {asked : List Bytes} {s : Party UInt8 Log}

theorem Stands.follows {answered : List Served} {lost : Bool} {d : Desk Remote}
    (h : Stands fp served answered lost d s) : Follows fp served s :=
  ⟨h.clean, h.sent, h.settled.le.trans (Nat.le_succ _), answered, lost, h.heard⟩

theorem clientKeeps_follows {β : Type} {op : ClientOp β} (h : ClientKeeps fp served β op s) :
    Follows fp served s := by
  cases op with
  | desk op => exact h.1
  | asks request => exact h
  | answered answer => exact h
  | socket op =>
      cases op with
      | send bytes => exact h
      | recv length => exact h.1

/-- Everything the client asks travels as one message. -/
theorem asked_clean (hprint : ∀ q, Printable (fp.round q)) {request : Bytes}
    (h : Asked fp request) : Clean request := by
  cases h with
  | @word word hword =>
      have hline : Line 64 (ascii word) := by
        simp only [List.mem_cons, List.not_mem_nil, or_false] at hword
        rcases hword with rfl | rfl | rfl | rfl | rfl <;> decide
      have hsent := requestText_sent (le_refl 512) hline (List.forall_mem_nil _) (Nat.zero_le 4)
      exact ⟨hsent.noNul, hsent.length⟩
  | flow hflow hrun =>
      have hsent := (clientFlows_typed hflow hrun).sent
      exact ⟨hsent.noNul, hsent.length⟩
  | amount hflow hrun =>
      obtain ⟨hnumber, line, -, hparse⟩ := amountFlows_typed hflow hrun
      have hsent := amountRequest_sent hnumber (printable_parseDouble hprint hparse)
      exact ⟨hsent.noNul, hsent.length⟩

/-- What the server serves next is what is asked behind what it has served. -/
theorem next_served (hrequests : contents served <+: asked) {answered : List Served} {x : Served}
    {more : List Served} (hserved : served = answered ++ x :: more) {request : Bytes}
    (h : contents answered ++ [request] <+: asked) : x.message.content = request := by
  have hfirst : contents answered ++ [x.message.content] <+: asked := by
    refine List.IsPrefix.trans ?_ hrequests
    rw [hserved, contents_append]
    exact (List.prefix_append_right_inj _).mpr (List.prefix_append _ _)
  have hlength : (contents answered ++ [x.message.content]).length =
      (contents answered ++ [request]).length := by
    rw [List.length_append, List.length_append]
    rfl
  have hsame := (List.prefix_of_prefix_length_le hfirst h hlength.le).eq_of_length hlength
  exact (List.cons.inj (List.append_cancel_left hsame)).1

/-- Behind the answers the client has, a whole message is the next response. -/
theorem next_response {answered : List Served} (hserved : answered <+: served) {message : Bytes}
    (hmessage : Fits message)
    (h : stream (texts fp answered) ++ frame message <+: stream (texts fp served)) :
    ∃ x more, served = answered ++ x :: more ∧ x.text fp = message := by
  obtain ⟨more, rfl⟩ := hserved
  rw [texts_append, stream_append, List.prefix_append_right_inj] at h
  obtain ⟨rest, hrest⟩ := stream_head (texts_fit fp more) hmessage h
  obtain ⟨x, more', rfl, hx, -⟩ := List.map_eq_cons_iff.mp hrest
  exact ⟨x, more', rfl, hx⟩

/-- The calls that are no requests. -/
theorem desk_guarded {β : Type} {op : DeskOp β} {d : Desk Remote}
    (hhonest : Honest fp β op.toConsole d) {answered : List Served} {lost : Bool}
    (h : Stands fp served answered lost d s) :
    Guarded (Within (Expected fp served asked) ClientAnswers) (ClientKeeps fp served)
      (.call (.desk op)) s fun answer s' =>
        ∃ d', ConsoleAnswers (Meets fp) β op.toConsole d answer d' ∧
          (∃ answered lost, Stands fp served answered lost d' s') ∧ Expected fp served asked s' := by
  have hdesk := h.desk
  subst hdesk
  rw [guarded_call]
  refine ⟨⟨h.follows, answered, lost, h.heard, hhonest⟩, ?_⟩
  rintro answer _ ⟨⟨desk, hanswer, rfl⟩, hexpected'⟩
  refine ⟨_, deskAnswers_console hanswer _, ⟨answered, lost, ?_⟩, hexpected'⟩
  exact ⟨h.heard, rfl, h.clean, h.sent, h.settled, h.connected⟩

/-- The client on its way with a request: so much of it has gone out, and so
much has arrived since. -/
def asking (s : Party UInt8 Log) (request out arrived : Bytes) : Party UInt8 Log :=
  ⟨s.received ++ arrived, s.sent ++ out, s.own.asks request⟩

section request

variable {answered : List Served} {d : Desk Remote} {request : Bytes}

theorem Stands.answers (h : Stands fp served answered false d s) :
    s.own.answers = answered.map (Served.read fp) := by
  rw [h.heard.answers]
  exact List.append_nil _

theorem Stands.stream_asks (h : Stands fp served answered false d s) :
    stream (s.own.asks request).asked = s.sent ++ frame request := by
  rw [(h.connected rfl).2.2]
  change stream (s.own.asked ++ [request]) = _
  rw [stream_append, stream_singleton]

theorem Stands.asks_length (h : Stands fp served answered false d s) :
    (s.own.asks request).asked.length = s.own.answers.length + 1 := by
  rw [← h.settled]
  exact List.length_append

theorem Stands.settles (h : Stands fp served answered false d s)
    (answer : Option (Bool × Bytes)) :
    (s.own.asks request).asked.length = ((s.own.asks request).hears answer).answers.length := by
  rw [h.asks_length]
  change _ = (s.own.answers ++ [answer]).length
  rw [List.length_append, List.length_singleton]

/-- A request on its way leaves everything else as it was. -/
theorem Stands.asking_follows (h : Stands fp served answered false d s) (hclean : Clean request)
    {out : Bytes} (hout : out <+: frame request) (arrived : Bytes) :
    Follows fp served (asking s request out arrived) := by
  refine ⟨?_, ?_, h.asks_length.le, answered, false, h.heard⟩
  · intro r hr
    rcases List.mem_append.mp hr with hold | hnew
    · exact h.clean r hold
    · rw [List.mem_singleton.mp hnew]
      exact hclean
  · change s.sent ++ out <+: stream (s.own.asks request).asked
    rw [h.stream_asks]
    exact (List.prefix_append_right_inj _).mpr hout

theorem Stands.asking_waits (h : Stands fp served answered false d s) {part : Bytes}
    (hpart : Unfinished part) :
    ClientWaits fp served (asking s request (frame request) part) := by
  obtain ⟨hcontents, hreceived, hsent⟩ := h.connected rfl
  refine ⟨h.stream_asks.symm, answered, part, h.heard.served, ?_, hpart, ?_⟩
  · rw [← contents_length, ← hcontents, h.settled]
    exact h.asks_length
  · change s.received ++ part = _
    rw [hreceived]

/-- The connection is lost, before or behind the server. -/
theorem Stands.lose (h : Stands fp served answered false d s) (hclean : Clean request)
    {out : Bytes} (hout : out <+: frame request) (arrived : Bytes) :
    Stands fp served answered true { d with remote := remoteAfter fp answered true }
      { asking s request out arrived with own := (s.own.asks request).hears none } := by
  have hfollows := h.asking_follows hclean hout arrived
  refine ⟨⟨h.heard.served, ?_⟩, ?_, hfollows.clean, hfollows.sent, ?_, ?_⟩
  · change s.own.answers ++ [none] = _
    rw [h.answers]
    rfl
  · rw [h.desk]
    rfl
  · exact h.settles _
  · intro hfalse
    cases hfalse

/-- The response is there. -/
theorem Stands.hear (h : Stands fp served answered false d s) (hclean : Clean request) {x : Served}
    (hserved : answered ++ [x] <+: served) (hrequest : x.message.content = request) :
    Stands fp served (answered ++ [x]) false
      { d with remote := remoteAfter fp (answered ++ [x]) false }
      { asking s request (frame request) (frame (x.text fp)) with
        own := (s.own.asks request).hears (x.read fp) } := by
  obtain ⟨hcontents, hreceived, -⟩ := h.connected rfl
  have hfollows := h.asking_follows hclean (List.prefix_refl _) (frame (x.text fp))
  refine ⟨⟨hserved, ?_⟩, ?_, hfollows.clean, hfollows.sent, ?_, fun _ => ⟨?_, ?_, ?_⟩⟩
  · change s.own.answers ++ [x.read fp] = _
    rw [h.answers, List.map_append]
    exact (List.append_nil _).symm
  · rw [h.desk]
    rfl
  · exact h.settles _
  · change s.own.asked ++ [request] = _
    rw [contents_append, hcontents, ← hrequest]
    rfl
  · change s.received ++ frame (x.text fp) = _
    rw [hreceived, texts_append, stream_append]
    congr 1
    exact (stream_singleton _).symm
  · exact h.stream_asks.symm

/-- A request that is allowed is answered as the client's own program expects,
or the connection is lost. -/
theorem request_guarded (hprint : ∀ q, Printable (fp.round q)) (hlinked : Linked fp served)
    (hrequests : contents served <+: asked) {lost : Bool}
    (hhonest : Honest fp _ (.requestServer request) d) (h : Stands fp served answered lost d s) :
    Guarded (Within (Expected fp served asked) ClientAnswers) (ClientKeeps fp served)
      (ClientOp.carryOut _ (.requestServer request)) s fun answer s' =>
        ∃ d', ConsoleAnswers (Meets fp) _ (.requestServer request) d answer d' ∧
          (∃ answered lost, Stands fp served answered lost d' s') ∧ Expected fp served asked s' := by
  have hdesk := h.desk
  obtain ⟨hconnected, hasked, -⟩ := hhonest
  obtain rfl : lost = false := by
    rw [hdesk] at hconnected
    exact hconnected
  have hclean := asked_clean hprint hasked
  rw [ClientOp.carryOut, guarded_bind, guarded_call]
  refine ⟨h.follows, ?_⟩
  rintro _ _ ⟨rfl, hexpected₁⟩
  rw [guarded_bind]
  have hsend (bytes part : Bytes) (hpart : part <+: frame request) :
      ClientKeeps fp served _ (.socket (.send bytes)) (asking s request part []) :=
    h.asking_follows hclean hpart []
  have hwaits (size : Nat) (part : Bytes) (hpart : Unfinished part) :
      ClientKeeps fp served _ (.socket (.recv size)) (asking s request (frame request) part) :=
    ⟨h.asking_follows hclean (List.prefix_refl _) part, h.asking_waits hpart⟩
  simp only [asking, List.append_nil] at hsend
  apply (guarded_clientSocket (guarded_requestServer hclean.noNul _ hsend hwaits) hexpected₁).mono
  rintro answer _ ⟨⟨out, arrived, hout, rfl, hread⟩, hexpected₂⟩
  rw [guarded_bind, guarded_call]
  refine ⟨h.asking_follows hclean hout arrived, ?_⟩
  rintro _ _ ⟨rfl, hexpected₃⟩
  rw [guarded_pure]
  by_cases hanswer : answer = none
  · subst hanswer
    exact ⟨_, ⟨_, .lost rfl, rfl⟩, ⟨answered, true, h.lose hclean hout arrived⟩, hexpected₃⟩
  · obtain ⟨rfl, message, hshort, rfl, rfl⟩ := hread hanswer
    obtain ⟨hcontents, hreceived, -⟩ := h.connected rfl
    have harrived : s.received ++ frame message <+: stream (texts fp served) :=
      hexpected₂.received
    rw [hreceived] at harrived
    obtain ⟨x, more, hserved, rfl⟩ :=
      next_response h.heard.served (hshort.le.trans (by decide)) harrived
    have hrequest : x.message.content = request := by
      apply next_served hrequests hserved
      rw [← hcontents]
      exact hexpected₂.asked
    have hserved' : answered ++ [x] <+: served := by
      rw [hserved]
      exact (List.prefix_append_right_inj _).mpr (List.prefix_append [x] more)
    obtain ⟨hsession, hsaved⟩ := hlinked answered.length x (by rw [hserved]; simp)
    have hbefore : served.take answered.length = answered := by
      rw [hserved, List.take_left]
    have hobtains : Obtains fp x.before x.message.env request (x.read fp) := by
      rw [obtains_iff hclean.noNul hclean.length, Served.read, Served.response, ← hrequest]
    rw [readResponse_read] at hexpected₃ ⊢
    have hmeets : Meets fp request d.remote (x.read fp) (remoteAfter fp (answered ++ [x]) false) := by
      rw [remoteAfter_snoc]
      refine .answered hconnected ?_ hsaved hrequest hobtains
      rw [hsession, hbefore, hdesk]
      rfl
    exact ⟨_, ⟨_, hmeets, rfl⟩, ⟨_, false, h.hear hclean hserved' hrequest⟩, hexpected₃⟩

end request

/-- Whatever arrives of the responses, the client keeps to what it has been
answered. -/
theorem client_guarded (hprint : ∀ q, Printable (fp.round q)) (hlinked : Linked fp served)
    (hrequests : contents served <+: asked) (fuel : Nat) (stdin : Bytes) :
    Guarded (Within (Expected fp served asked) ClientAnswers) (ClientKeeps fp served)
      (connectedClient fp fuel) ⟨[], [], ⟨⟨.more stdin, 0, ()⟩, [], []⟩⟩
      fun _ s' => Follows fp served s' := by
  have hstart : Stands fp served [] false ⟨.more stdin, 0, Session.reset, false, none⟩
      ⟨[], [], ⟨⟨.more stdin, 0, ()⟩, [], []⟩⟩ :=
    ⟨⟨List.nil_prefix, rfl⟩, rfl, List.forall_mem_nil _, List.nil_prefix, rfl,
      fun _ => ⟨rfl, rfl, rfl⟩⟩
  have hcarried (β : Type) (op : ConsoleOp β) (d : Desk Remote) (s : Party UInt8 Log)
      (hhonest : Honest fp β op d)
      (hstands : (∃ answered lost, Stands fp served answered lost d s) ∧
        Expected fp served asked s) :
      Guarded (Within (Expected fp served asked) ClientAnswers) (ClientKeeps fp served)
        (ClientOp.carryOut β op) s fun answer s' =>
          ∃ d', ConsoleAnswers (Meets fp) β op d answer d' ∧
            (∃ answered lost, Stands fp served answered lost d' s') ∧
              Expected fp served asked s' := by
    obtain ⟨⟨answered, lost, h⟩, -⟩ := hstands
    cases op with
    | requestServer request => exact request_guarded hprint hlinked hrequests hhonest h
    | printf notice => exact @desk_guarded fp served asked s _ (.printf notice) d hhonest _ _ h
    | readLine size => exact @desk_guarded fp served asked s _ (.readLine size) d hhonest _ _ h
    | feof => exact @desk_guarded fp served asked s _ .feof d hhonest _ _ h
    | writeFile filename content =>
        exact @desk_guarded fp served asked s _ (.writeFile filename content) d hhonest _ _ h
  apply ((clientMain_honest hprint fuel (.more stdin) 0 none).expand _ hcarried
    ⟨⟨[], false, hstart⟩, List.nil_prefix, List.nil_prefix⟩).mono
  rintro outcome s' ⟨d', -, ⟨answered, lost, h⟩, -⟩
  exact h.follows

end client

/-! ### Both of them -/

/-- A connection that has just been accepted. -/
def accepted (fp : Rounding) (fuel fuel' : Nat) (stdin : Bytes) :
    Link ClientOp ServerOp UInt8 Log (List Served) (Option Unit) (Option Unit) where
  left := ⟨connectedClient fp fuel, ⟨[], [], ⟨⟨.more stdin, 0, ()⟩, [], []⟩⟩⟩
  right := ⟨handleClient.onSocket fuel', ⟨[], [], []⟩⟩

section both

variable {fp : Rounding} {fuel fuel' : Nat} {stdin : Bytes}
  {c : Link ClientOp ServerOp UInt8 Log (List Served) (Option Unit) (Option Unit)}

theorem clientAnswers_backward (served : List Served) (asked : List Bytes) :
    Backward ClientAnswers (Expected fp served asked) := by
  intro β op s answer s' hanswer h
  obtain ⟨hreceived, -, hasked⟩ := clientAnswers_grows hanswer
  exact ⟨hreceived.trans h.received, hasked.trans h.asked⟩

theorem serverAnswers_backward (asked : List Bytes) :
    Backward (ServerAnswers fp) (Arrived asked) := by
  intro β op s answer s' hanswer h
  exact (serverAnswers_grows fp β op s answer s' hanswer).1.trans h

/-- The client has kept its promise, given what the server has served. -/
theorem client_now (hprint : ∀ q, Printable (fp.round q))
    (h : Link.Reached ClientAnswers (ServerAnswers fp) (accepted fp fuel fuel' stdin) c)
    (hwired : c.Wired) (hserves : Serves fp c.left.party.own.asked c.right.party) :
    Guarded (Within (Expected fp c.right.party.own c.left.party.own.asked) ClientAnswers)
      (ClientKeeps fp c.right.party.own) c.left.program c.left.party
      fun _ s' => Follows fp c.right.party.own s' :=
  h.guarded_left (clientAnswers_backward _ _)
    (client_guarded hprint hserves.linked hserves.requests fuel stdin)
    ⟨hwired.toLeft.trans hserves.sent, List.prefix_refl _⟩

theorem follows_now (hprint : ∀ q, Printable (fp.round q))
    (h : Link.Reached ClientAnswers (ServerAnswers fp) (accepted fp fuel fuel' stdin) c)
    (hwired : c.Wired) (hserves : Serves fp c.left.party.own.asked c.right.party) :
    Follows fp c.right.party.own c.left.party :=
  (client_now hprint h hwired hserves).now (fun _ _ => clientKeeps_follows) fun _ hend => hend

/-- The server has kept its promise, given what the client has asked. -/
theorem server_now
    (h : Link.Reached ClientAnswers (ServerAnswers fp) (accepted fp fuel fuel' stdin) c)
    (hwired : c.Wired) (hclean : ∀ r ∈ c.left.party.own.asked, Clean r)
    (hsent : c.left.party.sent <+: stream c.left.party.own.asked) :
    Guarded (Within (Arrived c.left.party.own.asked) (ServerAnswers fp))
      (ServerKeeps fp c.left.party.own.asked) c.right.program c.right.party
      fun _ s' => Serves fp c.left.party.own.asked s' :=
  h.guarded_right (serverAnswers_backward _) (server_guarded hclean fuel') (hwired.toRight.trans hsent)

/-- In whatever order the two take their steps, each has kept its promise. -/
theorem both_keep (hprint : ∀ q, Printable (fp.round q))
    (h : Link.Reached ClientAnswers (ServerAnswers fp) (accepted fp fuel fuel' stdin) c) :
    c.Wired ∧ Follows fp c.right.party.own c.left.party ∧
      Serves fp c.left.party.own.asked c.right.party := by
  have hgrows : Grows ClientAnswers := by
    intro β op s answer s' hanswer
    obtain ⟨hreceived, hsent, -⟩ := clientAnswers_grows hanswer
    exact ⟨hreceived, hsent⟩
  have hwired := h.wired hgrows (serverAnswers_grows fp) ⟨List.nil_prefix, List.nil_prefix⟩
  have hboth := Link.Reached.both
    (fun s => (∀ r ∈ s.own.asked, Clean r) ∧ s.sent <+: stream s.own.asked)
    (fun s t => Serves fp s.own.asked t) ?_ ?_ ?_ hgrows (serverAnswers_grows fp)
    ⟨List.nil_prefix, List.nil_prefix⟩ ⟨List.forall_mem_nil _, List.nil_prefix⟩ h
  · exact ⟨hwired, follows_now hprint h hwired hboth.2, hboth.2⟩
  · intro c hc hwired hserves
    have hfollows := follows_now hprint hc hwired hserves
    exact ⟨hfollows.clean, hfollows.sent⟩
  · rintro c hc hwired ⟨hclean, hsent⟩
    exact (server_now hc hwired hclean hsent).now (fun _ _ => serverKeeps_serves) fun _ hend => hend
  · intro β op s answer s' t hanswer hserves
    obtain ⟨-, -, hasked⟩ := clientAnswers_grows hanswer
    exact ⟨hserves.requests.trans hasked, hserves.linked, hserves.sent⟩

/-! ### What the two can rely on -/

/-- What has become of the requests of the client: the server has served the
first of them, in their order and each once, from one session to the next; at
most one of them is not answered, and an answer is the response to its own
request. -/
structure AtMostOnce (fp : Rounding) (log : Log) (served : List Served) : Prop where
  requests : contents served <+: log.asked
  linked : Linked fp served
  pending : log.asked.length ≤ log.answers.length + 1
  answered : ∀ (i : Nat) answer, log.answers[i]? = some (some answer) →
    ∃ x, served[i]? = some x ∧ x.read fp = some answer

/-- The answers the client has are the responses to the first requests. -/
theorem HasHeard.answered {served answered : List Served} {lost : Bool}
    {answers : List (Option (Bool × Bytes))} (h : HasHeard fp served answered lost answers) {i : Nat}
    {answer : Bool × Bytes} (hanswer : answers[i]? = some (some answer)) :
    ∃ x, served[i]? = some x ∧ x.read fp = some answer := by
  obtain ⟨hserved, rfl⟩ := h
  by_cases hi : i < answered.length
  · rw [List.getElem?_append_left (by rw [List.length_map]; exact hi), List.getElem?_map] at hanswer
    obtain ⟨x, hx, hread⟩ := Option.map_eq_some_iff.mp hanswer
    obtain ⟨more, rfl⟩ := hserved
    exact ⟨x, by rw [List.getElem?_append_left hi, hx], hread⟩
  · rw [List.getElem?_append_right (by rw [List.length_map]; omega)] at hanswer
    have hmem := List.mem_of_getElem? hanswer
    cases lost with
    | false => cases hmem
    | true => cases List.mem_singleton.mp hmem

/-- Whatever the order of the steps and wherever the connection fails, no
request is served twice, none is served that was not made, and none is answered
with what belongs to another. -/
theorem served_at_most_once (hprint : ∀ q, Printable (fp.round q))
    (h : Link.Reached ClientAnswers (ServerAnswers fp) (accepted fp fuel fuel' stdin) c) :
    AtMostOnce fp c.left.party.own c.right.party.own := by
  obtain ⟨-, hfollows, hserves⟩ := both_keep hprint h
  refine ⟨hserves.requests, hserves.linked, hfollows.pending, ?_⟩
  intro i answer hanswer
  obtain ⟨answered, lost, hheard⟩ := hfollows.heard
  exact hheard.answered hanswer

/-- A customer who does not exist tries to log in: the request has been sent. -/
def firstAsked : Link ClientOp ServerOp UInt8 Log (List Served) (Option Unit) (Option Unit) :=
  (accepted overflowing 3 3 (ascii "2\n7\n1234\n4\n")).advanceLeft clientHandler 10

theorem firstAsked_reached :
    Link.Reached ClientAnswers (ServerAnswers overflowing)
      (accepted overflowing 3 3 (ascii "2\n7\n1234\n4\n")) firstAsked :=
  Link.Reached.advanceLeft clientHandler_delivers 10 .refl List.nil_prefix

/-- The request has been served and answered. -/
def firstRequest : Link ClientOp ServerOp UInt8 Log (List Served) (Option Unit) (Option Unit) :=
  (firstAsked.advanceRight (serverHandler overflowing Tables.empty (plain "").env) 5).advanceLeft
    clientHandler 3

theorem firstRequest_reached :
    Link.Reached ClientAnswers (ServerAnswers overflowing)
      (accepted overflowing 3 3 (ascii "2\n7\n1234\n4\n")) firstRequest := by
  have hserver := serverHandler_delivers overflowing Tables.empty (plain "").env
  apply Link.Reached.advanceLeft clientHandler_delivers
  · exact Link.Reached.advanceRight hserver 5 firstAsked_reached List.nil_prefix
  · decide +kernel

theorem served_at_most_once_first :
    firstRequest.right.party.own.length = 1 ∧
      firstRequest.left.party.own.answers =
        [some (false, ascii "Invalid account number or PIN.")] ∧
      AtMostOnce overflowing firstRequest.left.party.own firstRequest.right.party.own :=
  ⟨by decide +kernel, by decide +kernel,
    served_at_most_once printable_overflowing firstRequest_reached⟩

/-- A party that waits for its socket, with nothing on its way to it. -/
def Stuck {Op : Type → Type 1} {σ α : Type} (socket : (β : Type) → SocketOp β → Op β)
    (side : Side Op UInt8 σ α) (arrives : Bytes) : Prop :=
  side.party.received = arrives ∧
    ∃ size rest, side.program = .perform (socket _ (.recv size)) rest

/-- Neither party waits for the other while that waits for it. -/
theorem never_both_stuck (hprint : ∀ q, Printable (fp.round q))
    (h : Link.Reached ClientAnswers (ServerAnswers fp) (accepted fp fuel fuel' stdin) c) :
    ¬ (Stuck (fun _ op => ClientOp.socket op) c.left c.right.party.sent ∧
      Stuck (fun _ op => ServerOp.socket op) c.right c.left.party.sent) := by
  rintro ⟨⟨hleft, size, rest, hclientOp⟩, hright, size', rest', hserverOp⟩
  obtain ⟨hwired, hfollows, hserves⟩ := both_keep hprint h
  have hclient := client_now hprint h hwired hserves
  have hserver := server_now h hwired hfollows.clean hfollows.sent
  rw [hclientOp] at hclient
  rw [hserverOp] at hserver
  obtain ⟨hasked, answered, part, hanswered, hlength, hpart, hreceived⟩ := hclient.1.2
  obtain ⟨htexts, part', hpart', hreceived'⟩ := hserver.1.2
  -- all that was asked has been served
  obtain ⟨more, hmore⟩ := hserves.requests
  rw [hright, hasked, ← hmore, stream_append, List.append_right_inj] at hreceived'
  have hfits : ∀ r ∈ more, Fits r := fun r hr =>
    (hfollows.clean r (hmore ▸ List.mem_append_right _ hr)).fits
  have hserved : more = [] := unfinished_stream hfits (hreceived' ▸ hpart')
  -- all that was served has been answered
  obtain ⟨behind, hbehind⟩ := hanswered
  rw [hleft, htexts, ← hbehind, texts_append, stream_append, List.append_right_inj] at hreceived
  have hnone : texts fp behind = [] := unfinished_stream (texts_fit fp behind) (hreceived ▸ hpart)
  rw [hserved, List.append_nil, ← hbehind, List.map_eq_nil_iff.mp hnone, List.append_nil] at hmore
  rw [← hmore, contents_length] at hlength
  omega

/-- The client waits for the answer to its first request, and the server does not
wait for the client. -/
theorem never_both_stuck_first :
    Stuck (fun _ op => ClientOp.socket op) firstAsked.left firstAsked.right.party.sent ∧
      ¬ Stuck (fun _ op => ServerOp.socket op) firstAsked.right firstAsked.left.party.sent := by
  have hclient : Stuck (fun _ op => ClientOp.socket op) firstAsked.left
      firstAsked.right.party.sent :=
    ⟨by with_unfolding_all rfl, _, _, by with_unfolding_all rfl⟩
  exact ⟨hclient, fun hserver =>
    never_both_stuck printable_overflowing firstAsked_reached ⟨hclient, hserver⟩⟩

end both

end AtmSystem.Model
