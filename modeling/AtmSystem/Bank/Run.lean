import AtmSystem.Library.Machine
import AtmSystem.Bank.Turn

/-!
Runs of the server: clients connect one after another and send requests, in
any number and order. A run is a run of the machine `react`; what every turn
preserves holds at its end.
-/

namespace AtmSystem.Bank

open Library Model

/-- A connection is accepted when the one before it is closed. -/
inductive Event where
  | connect
  | request (message : Message)

/-- The loop of `main` and `handle_client`, one step at a time: a connection
starts with `reset_session`, a request is answered. -/
def react (fp : Rounding) (s : ServerState) : Event → Option Response × ServerState
  | .connect => (none, { s with session := Session.reset })
  | .request message =>
      let (response, s') := s.serve fp message
      (some response, s')

abbrev Exchange := Library.Exchange ServerState Event (Option Response)

/-- The exchanges of a run. -/
def history (fp : Rounding) (s : ServerState) (events : List Event) : List Exchange :=
  Machine.history (react fp) s events

/-- The state a run reaches. -/
def reached (fp : Rounding) (s : ServerState) (events : List Event) : ServerState :=
  Machine.final (react fp) s events

/-- Serving one client is a run that starts with its connection. -/
theorem handleClient_run (fp : Rounding) (s : ServerState) (messages : List Message) :
    handleClient fp s.store messages =
      ((history fp s (.connect :: messages.map .request)).filterMap Exchange.output,
        (reached fp s (.connect :: messages.map .request)).store) := by
  have hloop (messages : List Message) (s : ServerState) :
      handleClient.loop fp s messages =
        ((history fp s (messages.map .request)).filterMap Exchange.output,
          (reached fp s (messages.map .request)).store) := by
    induction messages generalizing s with
    | nil => rfl
    | cons message rest ih =>
        simp only [handleClient.loop, ih]
        rfl
  exact hloop messages ⟨s.store, Session.reset⟩

/-- The command a message carries. -/
def requested (fp : Rounding) (message : Message) : Command :=
  parseRequest fp (message.content.takeWhile (· ≠ 0))

/-- The exchange is a request for this command, answered OK. -/
def AnsweredOk (fp : Rounding) (c : Command) (x : Exchange) : Prop :=
  ∃ message response, x.input = .request message ∧ requested fp message = c ∧
    x.output = some response ∧ response.status = .ok

variable {fp : Rounding}

/-- A request served while no transaction is open is a turn and leaves none
open. -/
theorem serve_turn (fp : Rounding) (s : ServerState) (message : Message)
    (h : s.store.saved = none) :
    (s.serve fp message).2.store.saved = none ∧
      Turn fp message.env s.session s.store.tables (requested fp message)
        (s.serve fp message).1 (s.serve fp message).2.session
        (s.serve fp message).2.store.tables := by
  obtain ⟨⟨tables, saved⟩, session⟩ := s
  subst h
  have htakes : TakesTurn fp message.env session tables _ _ :=
    handleCommand_turn (requested fp message)
  obtain ⟨t', hstore, hturn⟩ := exec_of_always fp message.env _ _ htakes
  simp only [ServerState.serve, handleRequest]
  rw [requested] at hstore hturn
  rw [hstore]
  exact ⟨rfl, hturn⟩

/-- What serving a request leaves, with the turn that led there. -/
theorem serve_cases (fp : Rounding) {s : ServerState} (message : Message)
    (h : s.store.saved = none) :
    ∃ response session' t', s.serve fp message = (response, ⟨⟨t', none⟩, session'⟩) ∧
      Turn fp message.env s.session s.store.tables (requested fp message) response session' t' := by
  obtain ⟨hnext, hturn⟩ := serve_turn fp s message h
  refine ⟨_, _, _, ?_, hturn⟩
  rw [← hnext]

@[simp] theorem exchange_output (s : ServerState) (message : Message) :
    (Machine.exchange (react fp) s (.request message)).output = some (s.serve fp message).1 := rfl

/-- The server as it stands after `db_open` on a new file without legacy
files, whether or not an admin has been seeded: nobody has connected yet and
there are no accounts and no transactions. -/
structure Opened (s : ServerState) : Prop where
  accounts : s.store.tables.accounts = .empty
  transactions : s.store.tables.transactions = .empty
  saved : s.store.saved = none
  session : s.session = Session.reset

theorem Opened.no_account {s : ServerState} (h : Opened s) {k : Int} {row : Account}
    (hrow : s.store.tables.accounts.lookup k = some row) : False := by
  rw [h.accounts] at hrow
  cases hrow

/-- The server right after `db_open` on a new file. -/
def emptyServer : ServerState := ⟨⟨Tables.empty, none⟩, Session.reset⟩

theorem emptyServer_opened : Opened emptyServer := ⟨rfl, rfl, rfl, rfl⟩

/-- A request that is served without failing calls, on New Year's Day. -/
def plain (text : String) : Message where
  content := ascii text
  env := { salt := 7, timestamp := ascii "2024-01-01 00:00:00", yearMonth := ascii "2024-01",
           stack := [], faults := [] }

theorem plain_quiet (text : String) : ¬ (plain text).env.Faulty := by
  simp [plain, Environment.Faulty]

/-- The server right after `db_open` has seeded an admin on a new file. -/
def rootServer : ServerState :=
  ⟨⟨Tables.empty.insertAdmin (seededAdmin (plain "").env (ascii "root") (ascii "letmein99")),
    none⟩, Session.reset⟩

theorem rootServer_opened : Opened rootServer := ⟨rfl, rfl, rfl, rfl⟩

/-! ### What turns preserve, runs preserve -/

/-- A condition on the messages of a run. -/
def Event.Allowed (allowed : Message → Prop) : Event → Prop
  | .connect => True
  | .request message => allowed message

instance (allowed : Message → Prop) [DecidablePred allowed] :
    DecidablePred (Event.Allowed allowed)
  | .connect => .isTrue trivial
  | .request message => inferInstanceAs (Decidable (allowed message))

theorem allowed_all (events : List Event) :
    ∀ event ∈ events, event.Allowed fun _ => True := by
  intro event _
  cases event <;> trivial

section runs

variable {μ : Type} {events : List Event} {s : ServerState}

/-- A monitor over a run. It is enough that what is claimed of monitor,
session and tables survives every connection and every turn. -/
theorem monitored_run (inv : μ → Session → Tables → Prop) {allowed : Message → Prop}
    (watch : μ → Exchange → μ)
    (hconnect : ∀ m x, x.input = .connect → inv m x.before.session x.before.store.tables →
      inv (watch m x) Session.reset x.before.store.tables)
    (hturn : ∀ m x message response, x.input = .request message → x.output = some response →
      allowed message →
      Turn fp message.env x.before.session x.before.store.tables (requested fp message) response
        x.after.session x.after.store.tables →
      inv m x.before.session x.before.store.tables →
      inv (watch m x) x.after.session x.after.store.tables)
    (hallowed : ∀ event ∈ events, event.Allowed allowed) (hsaved : s.store.saved = none)
    {m : μ} (h : inv m s.session s.store.tables) :
    inv ((history fp s events).foldl watch m) (reached fp s events).session
      (reached fp s events).store.tables := by
  have hrun : (reached fp s events).store.saved = none ∧ _ := Machine.monitored
    (fun m (s : ServerState) => s.store.saved = none ∧ inv m s.session s.store.tables)
    (Event.Allowed allowed) watch ?_ hallowed ⟨hsaved, h⟩
  · exact hrun.2
  rintro m s (_ | message) hmessage ⟨hsaved, h⟩
  · exact ⟨hsaved, hconnect m _ rfl h⟩
  · obtain ⟨hnext, hserved⟩ := serve_turn fp s message hsaved
    exact ⟨hnext, hturn m (Machine.exchange (react fp) s (.request message)) message _ rfl rfl
      hmessage hserved h⟩

/-- A turn writes the tables by a login or by an action. -/
theorem Turn.tables (inv : Tables → Prop) {env : Environment} {c : Command}
    {response : Response} {session session' : Session} {t t' : Tables}
    (hturn : Turn fp env session t c response session' t')
    (hlogin : ∀ accountNo failedAttempts isLocked, inv t →
      inv (t.setLoginState accountNo failedAttempts isLocked))
    (hperforms : ∀ a, intended env session c = some a → a.Performs fp t t' → inv t → inv t')
    (h : inv t) : inv t' := by
  cases hturn with
  | refused => exact h
  | reported => exact h
  | loggedIn => exact hlogin _ _ _ h
  | counted => exact hlogin _ _ _ h
  | adminLoggedIn => exact h
  | loggedOut => exact h
  | performed hintended hp => exact hperforms _ hintended hp h

/-- An invariant of the tables that every action of an allowed message and
every change of a login state preserve. -/
theorem tables_invariant (inv : Tables → Prop) {allowed : Message → Prop}
    (hlogin : ∀ t accountNo failedAttempts isLocked, inv t →
      inv (t.setLoginState accountNo failedAttempts isLocked))
    (hperforms : ∀ message session t a t', allowed message →
      intended message.env session (requested fp message) = some a →
      a.Performs fp t t' → inv t → inv t')
    (hallowed : ∀ event ∈ events, event.Allowed allowed) (hsaved : s.store.saved = none)
    (h : inv s.store.tables) : inv (reached fp s events).store.tables := by
  refine monitored_run (fun (_ : Unit) _ t => inv t) (fun _ _ => ())
    (fun _ _ _ h => h) ?_ hallowed hsaved (m := ()) h
  intro _ x message response _ _ hmessage hturn
  exact hturn.tables inv (hlogin _) fun a => hperforms message _ _ a _ hmessage

/-- A run whose exchanges are all good in some way. It is enough that what is
claimed of session and tables survives every connection and every good turn. -/
theorem run_along (inv : Session → Tables → Prop) (good : Exchange → Prop)
    (hconnect : ∀ session t, inv session t → inv Session.reset t)
    (hturn : ∀ x message response, x.input = .request message → x.output = some response →
      good x →
      Turn fp message.env x.before.session x.before.store.tables (requested fp message) response
        x.after.session x.after.store.tables →
      inv x.before.session x.before.store.tables → inv x.after.session x.after.store.tables)
    (hgood : ∀ x ∈ history fp s events, good x) (hsaved : s.store.saved = none)
    (h : inv s.session s.store.tables) :
    inv (reached fp s events).session (reached fp s events).store.tables := by
  have hrun : (reached fp s events).store.saved = none ∧ _ := Machine.along
    (fun s : ServerState => s.store.saved = none ∧ inv s.session s.store.tables) good ?_ hgood
    ⟨hsaved, h⟩
  · exact hrun.2
  rintro s (_ | message) hexchange ⟨hsaved, h⟩
  · exact ⟨hsaved, hconnect _ _ h⟩
  · obtain ⟨hnext, hserved⟩ := serve_turn fp s message hsaved
    exact ⟨hnext, hturn (Machine.exchange (react fp) s (.request message)) message _ rfl rfl
      hexchange hserved h⟩

end runs

/-- No transaction is open between requests, in any run. -/
theorem reached_saved {s : ServerState} (h : s.store.saved = none) (events : List Event) :
    (reached fp s events).store.saved = none := by
  refine Machine.invariant (fun s : ServerState => s.store.saved = none) (fun _ => True) ?_
    (fun _ _ => trivial) h
  intro s event _ hs
  cases event with
  | connect => exact hs
  | request message => exact (serve_turn fp s message hs).1

/-- An exchange is a new connection or a turn. -/
inductive Exchanged (fp : Rounding) (x : Exchange) : Prop where
  | connected (hinput : x.input = .connect)
      (hafter : x.after = { x.before with session := Session.reset })
  | served {message : Message} {response : Response} (hinput : x.input = .request message)
      (houtput : x.output = some response)
      (hturn : Turn fp message.env x.before.session x.before.store.tables
        (requested fp message) response x.after.session x.after.store.tables)

theorem exchanged_step {s : ServerState} (hsaved : s.store.saved = none) (event : Event) :
    Exchanged fp (Machine.exchange (react fp) s event) := by
  cases event with
  | connect => exact .connected rfl rfl
  | request message => exact .served rfl rfl (serve_turn fp s message hsaved).2

/-- Every exchange of a run leads on from the state a shorter run reached. -/
theorem exchanged {s : ServerState} (hsaved : s.store.saved = none) {events : List Event}
    {x : Exchange} (hx : x ∈ history fp s events) :
    (∃ first rest, events = first ++ x.input :: rest ∧ x.before = reached fp s first) ∧
      Exchanged fp x := by
  obtain ⟨first, rest, hevents, hexchange⟩ := Machine.exists_prefix hx
  refine ⟨⟨first, rest, hevents, congrArg Exchange.before hexchange⟩, ?_⟩
  rw [hexchange]
  exact exchanged_step (reached_saved hsaved first) x.input

/-- An exchange that takes a request is a turn. -/
theorem Exchanged.turn {x : Exchange} (h : Exchanged fp x) {message : Message}
    (hinput : x.input = .request message) :
    ∃ response, x.output = some response ∧
      Turn fp message.env x.before.session x.before.store.tables (requested fp message) response
        x.after.session x.after.store.tables := by
  cases h with
  | connected hconnect =>
      rw [hinput] at hconnect
      cases hconnect
  | served hserved houtput hturn =>
      rw [hinput] at hserved
      obtain rfl := Event.request.inj hserved
      exact ⟨_, houtput, hturn⟩

end AtmSystem.Bank
