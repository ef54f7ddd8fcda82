import AtmSystem.Model.Connection
import AtmSystem.Safety.Remote
import AtmSystem.Semantics.Wires

/-!
The two ends of a connection. The client has its desk, the requests it has made
and the answers it has got; the server has the requests it has served, each from
the session the one before has left, on whatever the database is by then. The
rules say what an end may come to on its own: `request_server`, given what
arrives from the server, and a turn of `handle_client`, given what arrives from
the client.
-/

namespace AtmSystem.Model

open Library Program Terminal

/-! ### What each end keeps -/

/-- What the client knows: its desk, the requests it has made, and what
`request_server` has returned for them. -/
structure Log where
  desk : Desk Unit
  asked : List Bytes
  answers : List (Option (Bool × Bytes))

/-- A request more is made. -/
def Log.asks (log : Log) (request : Bytes) : Log := { log with asked := log.asked ++ [request] }

/-- `request_server` has returned. -/
def Log.hears (log : Log) (answer : Option (Bool × Bytes)) : Log :=
  { log with answers := log.answers ++ [answer] }

/-- What arrives of a response. -/
def Terminal.Served.text (fp : Rounding) (x : Served) : Bytes :=
  (makeResponse (x.response fp)).takeWhile (· ≠ 0)

/-- What the client makes of a response. -/
def Terminal.Served.read (fp : Rounding) (x : Served) : Option (Bool × Bytes) :=
  readResponse maxMessageSize (makeResponse (x.response fp))

/-- The session behind the requests that have been served. -/
def sessionAfter (fp : Rounding) (served : List Served) : Session :=
  served.getLast?.elim Session.reset fun x => (x.after fp).session

@[simp] theorem sessionAfter_snoc (fp : Rounding) (served : List Served) (x : Served) :
    sessionAfter fp (served ++ [x]) = (x.after fp).session := by
  rw [sessionAfter, List.getLast?_concat, Option.elim_some]

/-- Each request was served in the session the one before has left, with no
transaction open. -/
def Linked (fp : Rounding) (served : List Served) : Prop :=
  ∀ i x, served[i]? = some x →
    x.before.session = sessionAfter fp (served.take i) ∧ x.before.store.saved = none

theorem Linked.snoc {fp : Rounding} {served : List Served} (h : Linked fp served) {x : Served}
    (hsession : x.before.session = sessionAfter fp served) (hsaved : x.before.store.saved = none) :
    Linked fp (served ++ [x]) := by
  intro i y hy
  by_cases hi : i < served.length
  · rw [List.getElem?_append_left hi] at hy
    rw [List.take_append_of_le_length hi.le]
    exact h i y hy
  · obtain ⟨hbound, -⟩ := List.getElem?_eq_some_iff.mp hy
    rw [List.length_append, List.length_singleton] at hbound
    obtain rfl : i = served.length := by omega
    rw [List.getElem?_concat_length] at hy
    obtain rfl := Option.some.inj hy
    rw [List.take_left]
    exact ⟨hsession, hsaved⟩

/-- What the client knows of the server behind these answers. -/
def remoteAfter (fp : Rounding) (answered : List Served) (lost : Bool) : Remote :=
  ⟨sessionAfter fp answered, lost, answered.getLast?⟩

@[simp] theorem remoteAfter_snoc (fp : Rounding) (answered : List Served) (x : Served)
    (lost : Bool) :
    remoteAfter fp (answered ++ [x]) lost = ⟨(x.after fp).session, lost, some x⟩ := by
  rw [remoteAfter, sessionAfter_snoc, List.getLast?_concat]

/-! ### Calls -/

def DeskAnswers : Spec DeskOp (Desk Unit)
  | _, .printf _, d, _, d' => d' = d
  | _, .readLine bufferSize, d, line, d' =>
      line = (d.input.readLineStdin bufferSize).1 ∧ d' = d.lineRead bufferSize
  | _, .feof, d, seen, d' => seen = d.input.feof ∧ d' = d
  | _, .writeFile _ _, d, _, d' => d' = d

def ClientAnswers : Spec ClientOp (Party UInt8 Log)
  | β, .desk op, s, answer, s' =>
      ∃ desk, DeskAnswers β op s.own.desk answer desk ∧
        s' = { s with own := { s.own with desk := desk } }
  | β, .socket op, s, answer, s' => WireAnswers β op s answer s'
  | _, .asks request, s, _, s' => s' = { s with own := s.own.asks request }
  | _, .answered answer, s, _, s' => s' = { s with own := s.own.hears answer }

def ServerAnswers (fp : Rounding) : Spec ServerOp (Party UInt8 (List Served))
  | β, .socket op, s, answer, s' => WireAnswers β op s answer s'
  | _, .handleRequest request, s, response, s' =>
      ∃ x : Served, x.message.content = request ∧ x.before.session = sessionAfter fp s.own ∧
        x.before.store.saved = none ∧ response = x.response fp ∧
        s' = { s with own := s.own ++ [x] }

/-- Neither side of the connection takes anything back. -/
theorem wireAnswers_grows {σ β : Type} {op : SocketOp β} {s s' : Party UInt8 σ} {answer : β}
    (h : WireAnswers β op s answer s') :
    s.received <+: s'.received ∧ s.sent <+: s'.sent ∧ s'.own = s.own := by
  cases op with
  | send bytes =>
      rw [show s' = _ from h]
      exact ⟨List.prefix_refl _, List.prefix_append _ _, rfl⟩
  | recv length =>
      rw [show s' = _ from h]
      exact ⟨List.prefix_append _ _, List.prefix_refl _, rfl⟩

theorem clientAnswers_grows {β : Type} {op : ClientOp β} {s s' : Party UInt8 Log} {answer : β}
    (h : ClientAnswers β op s answer s') :
    s.received <+: s'.received ∧ s.sent <+: s'.sent ∧ s.own.asked <+: s'.own.asked := by
  cases op with
  | desk op =>
      obtain ⟨desk, -, rfl⟩ := h
      exact ⟨List.prefix_refl _, List.prefix_refl _, List.prefix_refl _⟩
  | socket op =>
      obtain ⟨hreceived, hsent, hown⟩ := wireAnswers_grows h
      exact ⟨hreceived, hsent, hown ▸ List.prefix_refl _⟩
  | asks request =>
      rw [show s' = _ from h]
      exact ⟨List.prefix_refl _, List.prefix_refl _, List.prefix_append _ _⟩
  | answered answer =>
      rw [show s' = _ from h]
      exact ⟨List.prefix_refl _, List.prefix_refl _, List.prefix_refl _⟩

theorem serverAnswers_grows (fp : Rounding) : Side.Grows (ServerAnswers fp) := by
  intro β op s answer s' h
  cases op with
  | socket op =>
      obtain ⟨hreceived, hsent, -⟩ := wireAnswers_grows h
      exact ⟨hreceived, hsent⟩
  | handleRequest request =>
      obtain ⟨x, -, -, -, -, rfl⟩ := h
      exact ⟨List.prefix_refl _, List.prefix_refl _⟩

/-- A program of a party that only uses its socket. -/
theorem guarded_onSocket {Op : Type → Type 1} {σ α : Type} {spec : Spec Op (Party UInt8 σ)}
    {allowed : (β : Type) → Op β → Party UInt8 σ → Prop} (lift : (β : Type) → SocketOp β → Op β)
    (hlift : ∀ β op s answer s', spec β (lift β op) s answer s' → WireAnswers β op s answer s')
    {net : Net α} {s : Party UInt8 σ} {post : α → Party UInt8 σ → Prop}
    (h : Guarded WireAnswers (fun β op s => allowed β (lift β op) s) net s post) :
    Guarded spec allowed (net.expand fun β op => .call (lift β op)) s post := by
  have hsame (β : Type) (op : SocketOp β) (s t : Party UInt8 σ) (hop : allowed β (lift β op) s)
      (hst : s = t) : Guarded spec allowed (.call (lift β op)) t fun answer t' =>
        ∃ s', WireAnswers β op s answer s' ∧ s' = t' := by
    subst hst
    rw [guarded_call]
    refine ⟨hop, ?_⟩
    intro answer s' hanswer
    exact ⟨s', hlift β op s answer s' hanswer, rfl⟩
  apply (h.expand Eq hsame rfl).mono
  rintro a s' ⟨_, hpost, rfl⟩
  exact hpost

section sockets

variable {α : Type} {net : Net α}

theorem guarded_clientSocket {allowed : (β : Type) → ClientOp β → Party UInt8 Log → Prop}
    {s : Party UInt8 Log} {post : α → Party UInt8 Log → Prop} {bound : Party UInt8 Log → Prop}
    (h : Guarded WireAnswers (fun β op s => allowed β (.socket op) s) net s post) (hs : bound s) :
    Guarded (Side.Within bound ClientAnswers) allowed
      (net.expand fun _ op => .call (.socket op)) s fun a s' => post a s' ∧ bound s' := by
  apply Side.guarded_within _ hs
  exact guarded_onSocket (fun _ op => ClientOp.socket op) (fun _ _ _ _ _ hanswer => hanswer) h

theorem guarded_serverSocket {fp : Rounding}
    {allowed : (β : Type) → ServerOp β → Party UInt8 (List Served) → Prop}
    {s : Party UInt8 (List Served)} {post : α → Party UInt8 (List Served) → Prop}
    {bound : Party UInt8 (List Served) → Prop}
    (h : Guarded WireAnswers (fun β op s => allowed β (.socket op) s) net s post) (hs : bound s) :
    Guarded (Side.Within bound (ServerAnswers fp)) allowed
      (net.expand fun _ op => .call (.socket op)) s fun a s' => post a s' ∧ bound s' := by
  apply Side.guarded_within _ hs
  exact guarded_onSocket (fun _ op => ServerOp.socket op) (fun _ _ _ _ _ hanswer => hanswer) h

end sockets

/-- What happens at the desk does not depend on the other side. -/
theorem deskAnswers_console {σ β : Type} {met : Bytes → σ → Option (Bool × Bytes) → σ → Prop}
    {op : DeskOp β} {desk desk' : Desk Unit} {answer : β} (h : DeskAnswers β op desk answer desk')
    (remote : σ) :
    ConsoleAnswers met β op.toConsole ⟨desk.input, desk.prompts, remote⟩ answer
      ⟨desk'.input, desk'.prompts, remote⟩ := by
  cases op with
  | printf notice =>
      rw [show desk' = desk from h]
      rfl
  | readLine bufferSize =>
      obtain ⟨hline, rfl⟩ := h
      exact ⟨hline, rfl⟩
  | feof =>
      obtain ⟨hseen, rfl⟩ := h
      exact ⟨hseen, rfl⟩
  | writeFile filename content =>
      rw [show desk' = desk from h]
      rfl

/-! ### Requests and responses -/

/-- A text that travels as one message. -/
structure Clean (message : Bytes) : Prop where
  noNul : 0 ∉ message
  length : message.length < maxMessageSize

theorem Clean.fits {message : Bytes} (h : Clean message) : Fits message :=
  h.length.le.trans (by decide)

/-- A response travels as one message. -/
theorem text_clean (fp : Rounding) (x : Served) : Clean (x.text fp) := by
  refine ⟨not_mem_text _, ?_⟩
  have hcut := (List.takeWhile_sublist (· ≠ (0 : UInt8)) (l := makeResponse (x.response fp))).length_le
  have hbuffer : (makeResponse (x.response fp)).length ≤ maxMessageSize - 1 :=
    List.length_take_le _ _
  have hsize : maxMessageSize = 32768 := rfl
  rw [Served.text]
  omega

theorem texts_fit (fp : Rounding) (served : List Served) :
    ∀ m ∈ served.map (Served.text fp), Fits m := by
  intro m hm
  obtain ⟨x, -, rfl⟩ := List.mem_map.mp hm
  exact (text_clean fp x).fits

/-- What the client reads of a response that has arrived. -/
theorem readResponse_read (fp : Rounding) (x : Served) :
    readResponse maxMessageSize (x.text fp) = x.read fp :=
  readResponse_text _ _

/-- `request_server`: the beginning of its request goes out, something comes in,
and an answer is read out of one whole message. -/
theorem guarded_requestServer {σ : Type} {allowed : (β : Type) → SocketOp β → Party UInt8 σ → Prop}
    {request : Bytes} (hnul : 0 ∉ request) (s : Party UInt8 σ)
    (hsend : ∀ bytes part, part <+: frame request → allowed _ (.send bytes) (s.puts part))
    (hrecv : ∀ size part, Unfinished part →
      allowed _ (.recv size) ((s.puts (frame request)).gets part)) :
    Guarded WireAnswers allowed (requestServer request maxMessageSize) s fun answer s' =>
      ∃ out arrived, out <+: frame request ∧ s' = (s.puts out).gets arrived ∧
        (answer ≠ none → out = frame request ∧ ∃ message, message.length < maxMessageSize ∧
          arrived = frame message ∧ answer = readResponse maxMessageSize message) := by
  have htext : request.takeWhile (· ≠ 0) = request := takeWhile_of_not_mem hnul
  rw [requestServer, guarded_bind]
  apply (guarded_sendMessage request s (by rwa [htext])).mono
  rw [htext]
  rintro sent _ ⟨out, hout, rfl, hall⟩
  cases sent with
  | false => exact ⟨out, [], hout, by simp, fun h => absurd rfl h⟩
  | true =>
      have hwhole := hall rfl
      subst hwhole
      simp only [Bool.not_true, Bool.false_eq_true, if_false, guarded_bind]
      apply (guarded_receiveMessage _ _ hrecv).mono
      rintro received _ ⟨arrived, rfl, hread⟩
      cases received with
      | none => exact ⟨_, arrived, List.prefix_refl _, rfl, fun h => absurd rfl h⟩
      | some message =>
          obtain ⟨hshort, rfl⟩ := hread message rfl
          exact ⟨_, _, List.prefix_refl _, rfl, fun _ => ⟨rfl, message, hshort, rfl, rfl⟩⟩

/-! ### A run -/

/-- The desk, if every file can be written. -/
def deskHandler : Handler DeskOp (Desk Unit)
  | _, .printf _, d => ((), d)
  | _, .readLine bufferSize, d => ((d.input.readLineStdin bufferSize).1, d.lineRead bufferSize)
  | _, .feof, d => (d.input.feof, d)
  | _, .writeFile _ _, d => (true, d)

/-- A socket that takes everything and delivers whatever there is. -/
def socketHandler {σ : Type} (arrives : Bytes) : Handler SocketOp (Party UInt8 σ)
  | _, .send bytes, s => (⟨bytes.length, le_refl _⟩, s.puts bytes)
  | _, .recv length, s =>
      (⟨(arrives.drop s.received.length).take length, List.length_take_le _ _⟩,
        s.gets ((arrives.drop s.received.length).take length))

def clientHandler (arrives : Bytes) : Handler ClientOp (Party UInt8 Log)
  | _, .desk op, s =>
      ((deskHandler _ op s.own.desk).1,
        { s with own := { s.own with desk := (deskHandler _ op s.own.desk).2 } })
  | _, .socket op, s => socketHandler arrives _ op s
  | _, .asks request, s => ((), { s with own := s.own.asks request })
  | _, .answered answer, s => ((), { s with own := s.own.hears answer })

/-- The next request, on the tables the last one has left. -/
def serveOn (fp : Rounding) (t : Tables) (env : Environment) (served : List Served)
    (request : Bytes) : Served where
  before :=
    ⟨⟨served.getLast?.elim t fun x => (x.after fp).store.tables, none⟩, sessionAfter fp served⟩
  message := ⟨request, env⟩

/-- A server that is alone with its database, at one moment of its clock. -/
def serverHandler (fp : Rounding) (t : Tables) (env : Environment) (arrives : Bytes) :
    Handler ServerOp (Party UInt8 (List Served))
  | _, .socket op, s => socketHandler arrives _ op s
  | _, .handleRequest request, s =>
      ((serveOn fp t env s.own request).response fp,
        { s with own := s.own ++ [serveOn fp t env s.own request] })

theorem socketHandler_delivers {σ : Type} {arrives : Bytes} {β : Type} (op : SocketOp β)
    {s : Party UInt8 σ} (h : s.received <+: arrives) :
    WireAnswers β op s (socketHandler arrives β op s).1 (socketHandler arrives β op s).2 ∧
      (socketHandler arrives β op s).2.received <+: arrives := by
  cases op with
  | send bytes =>
      refine ⟨?_, h⟩
      change s.puts bytes = s.puts (bytes.take bytes.length)
      rw [List.take_length]
  | recv length =>
      refine ⟨rfl, ?_⟩
      obtain ⟨more, rfl⟩ := h
      change s.received ++ _ <+: s.received ++ more
      rw [List.drop_left, List.prefix_append_right_inj]
      exact List.take_prefix _ _

theorem clientHandler_delivers : Side.Delivers clientHandler ClientAnswers := by
  intro arrives β op s h
  cases op with
  | desk op =>
      refine ⟨⟨_, ?_, rfl⟩, h⟩
      cases op with
      | printf | writeFile => rfl
      | readLine | feof => exact ⟨rfl, rfl⟩
  | socket op => exact socketHandler_delivers op h
  | asks request => exact ⟨rfl, h⟩
  | answered answer => exact ⟨rfl, h⟩

theorem serverHandler_delivers (fp : Rounding) (t : Tables) (env : Environment) :
    Side.Delivers (serverHandler fp t env) (ServerAnswers fp) := by
  intro arrives β op s h
  cases op with
  | socket op => exact socketHandler_delivers op h
  | handleRequest request => exact ⟨⟨_, rfl, rfl, rfl, rfl, rfl⟩, h⟩

end AtmSystem.Model
