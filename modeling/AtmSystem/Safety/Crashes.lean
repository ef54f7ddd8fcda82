import AtmSystem.Safety.Ledger
import AtmSystem.Safety.Restarts
import AtmSystem.Semantics.Crash
import Mathlib.Data.List.Forall2

/-!
The server that dies. It may be killed at any call into SQLite, in a request or
while it starts, and be started again on what the file then holds. A request
that dies has had its whole effect or none; and a life with such deaths leaves
the file that a life without them leaves in which only calls fail.
-/

namespace AtmSystem.Bank

open Library Program Model

/-! ### A request that dies -/

/-- Which calls will fail is nothing a program can see. -/
theorem handleCommand_failing (fp : Rounding) (env : Environment) (faults : List (Option Bytes))
    (session : Session) (c : Command) :
    handleCommand fp (env.failing faults) session c = handleCommand fp env session c := by
  cases c with
  | login args => cases args <;> rfl
  | adminLogin args => cases args <;> rfl
  | _ => rfl

/-- The same message, with other calls failing. -/
def failing (message : Message) (faults : List (Option Bytes)) : Message :=
  { message with env := message.env.failing faults }

/-- The file behind so many calls of a request. -/
def diesServing (fp : Rounding) (s : ServerState) (message : Message) (calls : Nat) : Tables :=
  (handleCommand fp message.env s.session (requested fp message)).cut fp message.env calls s.store

/-- It is the file that the request leaves when the calls behind them fail. -/
theorem exists_failing_request (fp : Rounding) (s : ServerState) (message : Message)
    (calls : Nat) : ∃ faults,
      (s.serve fp (failing message faults)).2.store.committed = diesServing fp s message calls := by
  obtain ⟨faults, hfile⟩ := exists_failing fp message.env
    (handleCommand fp message.env s.session (requested fp message)) calls s.store
  refine ⟨faults, ?_⟩
  rw [diesServing, ← hfile]
  simp only [ServerState.serve, handleRequest]
  change ((handleCommand fp (message.env.failing faults) s.session _).exec fp _ s.store).2.committed
    = _
  rw [handleCommand_failing]
  rfl

/-- All that a command may do to the tables: nothing, its action, or what a
login does to the counter of its account. -/
inductive Effect (fp : Rounding) (env : Environment) (session : Session) (t : Tables)
    (c : Command) : Tables → Prop where
  | none : Effect fp env session t c t
  | action {a : Action} {t' : Tables} (hintended : intended env session c = some a)
      (hperforms : a.Performs fp t t') : Effect fp env session t c t'
  | cleared {accountNo pin : Int} {row : Account} (hc : c = .login (some (accountNo, pin)))
      (hchecked : Checked t accountNo pin row) (hmatch : PinMatches row pin) :
      Effect fp env session t c (t.setLoginState accountNo 0 0)
  | counted {accountNo pin : Int} {row : Account} (hc : c = .login (some (accountNo, pin)))
      (hchecked : Checked t accountNo pin row) (hmismatch : ¬ PinMatches row pin) :
      Effect fp env session t c (strike t accountNo row)

theorem effect_turn {fp : Rounding} {env : Environment} {session session' : Session}
    {t t' : Tables} {c : Command} {response : Response}
    (hturn : Turn fp env session t c response session' t') : Effect fp env session t c t' := by
  cases hturn with
  | refused | reported | adminLoggedIn | loggedOut => exact .none
  | loggedIn hchecked hmatch => exact .cleared rfl hchecked hmatch
  | counted hchecked hmismatch => exact .counted rfl hchecked hmismatch
  | performed hintended hperforms => exact .action hintended hperforms

theorem effect_failing {fp : Rounding} {env : Environment} {faults : List (Option Bytes)}
    {session : Session} {t t' : Tables} {c : Command}
    (h : Effect fp (env.failing faults) session t c t') : Effect fp env session t c t' := by
  cases h with
  | none => exact .none
  | action hintended hperforms => exact .action hintended hperforms
  | cleared hc hchecked hmatch => exact .cleared hc hchecked hmatch
  | counted hc hchecked hmismatch => exact .counted hc hchecked hmismatch

/-- Wherever in a request the server dies, and whichever calls have failed by
then, the file holds the whole effect of the request or none. -/
theorem request_crash_atomic (fp : Rounding) (s : ServerState) (message : Message) (calls : Nat)
    (h : s.store.saved = none) :
    Effect fp message.env s.session s.store.tables (requested fp message)
      (diesServing fp s message calls) := by
  obtain ⟨faults, hfile⟩ := exists_failing_request fp s message calls
  obtain ⟨hsaved, hturn⟩ := serve_turn fp s (failing message faults) h
  rw [← hfile, Store.committed, hsaved, Option.getD_none]
  exact effect_failing (effect_turn hturn)

/-- A deposit that dies behind its UPDATE and its INSERT, in front of the
COMMIT. -/
theorem request_crash_atomic_deposit :
    let s := reached .exact emptyServer firstCustomer
    let message := plain "DEPOSIT\n50"
    let file := diesServing .exact s message 7
    file.transactions.rows.length = 2 ∧
      Effect .exact message.env s.session s.store.tables (requested .exact message) file :=
  ⟨by decide +kernel, request_crash_atomic _ _ _ 7 (reached_saved rfl firstCustomer)⟩

/-! ### Lives with deaths -/

/-- An event in the life of a server, which may be its last. -/
inductive Happening where
  | lives (event : LifeEvent)
  /-- The server dies when the event has made so many calls. -/
  | dies (event : LifeEvent) (calls : Nat)

def Happening.event : Happening → LifeEvent
  | .lives event => event
  | .dies event _ => event

namespace Process

/-- The file behind so many calls of an event. -/
def diesIn (fp : Rounding) (files : LegacyFiles) (p : Process) (calls : Nat) : LifeEvent → Tables
  | .start startup => (startServer fp files startup).cut fp startup.env calls ⟨p.tables, none⟩
  | .client .connect => p.tables
  | .client (.request message) =>
      if p.serving then diesServing fp p.server message calls else p.tables

/-- A server that has died is not serving until it is started again. -/
def happen (fp : Rounding) (files : LegacyFiles) (p : Process) :
    Happening → Option Response × Process
  | .lives event => p.live fp files event
  | .dies event calls => (none, offline (p.diesIn fp files calls event))

/-- The other server is where this one is, or this one has died and the other
one holds the same tables. -/
structure StandsFor (p q : Process) : Prop where
  serving : p.serving = true → p = q
  tables : p.tables = q.tables

end Process

def survived (fp : Rounding) (files : LegacyFiles) (p : Process) (happenings : List Happening) :
    Process :=
  Machine.final (Process.happen fp files) p happenings

/-- The same event, with other calls failing. -/
inductive SameBut : LifeEvent → LifeEvent → Prop where
  | refl (event : LifeEvent) : SameBut event event
  | start (startup : Startup) (faults : List (Option Bytes)) :
      SameBut (.start { startup with env := startup.env.failing faults }) (.start startup)
  | request (message : Message) (faults : List (Option Bytes)) :
      SameBut (.client (.request (failing message faults))) (.client (.request message))

theorem SameBut.trans {event event' event'' : LifeEvent} (h : SameBut event'' event')
    (h' : SameBut event' event) : SameBut event'' event := by
  cases h with
  | refl => exact h'
  | start startup faults =>
      cases h' with
      | refl => exact .start startup faults
      | start startup faults' => exact .start startup faults
  | request message faults =>
      cases h' with
      | refl => exact .request message faults
      | request message faults' => exact .request message faults

section lives

variable {fp : Rounding} {files : LegacyFiles} {p q : Process}

theorem Process.StandsFor.refl (p : Process) : p.StandsFor p := ⟨fun _ => rfl, rfl⟩

/-- An event that kills the server leaves the file alone, or leaves what the
same event leaves when calls fail. -/
theorem exists_failing_event (p : Process) (event : LifeEvent) (calls : Nat) :
    p.diesIn fp files calls event = p.tables ∨ ∃ event', SameBut event' event ∧
      (p.live fp files event').2.tables = p.diesIn fp files calls event := by
  cases event with
  | start startup =>
      obtain ⟨faults, hfile⟩ := exists_failing fp startup.env (startServer fp files startup) calls
        ⟨p.tables, none⟩
      exact .inr ⟨_, .start startup faults, hfile⟩
  | client event =>
      cases event with
      | connect => exact .inl rfl
      | request message =>
          cases hserving : p.serving with
          | false =>
              left
              rw [Process.diesIn, hserving]
              rfl
          | true =>
              obtain ⟨faults, hfile⟩ := exists_failing_request fp p.server message calls
              refine .inr ⟨_, .request message faults, ?_⟩
              simp only [Process.diesIn, Process.live, hserving, if_true]
              exact hfile

/-- An event that both survive, or that reaches only the other. -/
theorem standsFor_lives (h : p.StandsFor q) (event : LifeEvent) :
    (p.live fp files event).2.StandsFor q ∨
      (p.live fp files event).2.StandsFor (q.live fp files event).2 := by
  cases event with
  | start startup =>
      right
      have hsame : p.live fp files (.start startup) = q.live fp files (.start startup) := by
        simp only [Process.live, h.tables]
      rw [hsame]
      exact .refl _
  | client event =>
      cases hserving : p.serving with
      | false =>
          left
          have hdeaf : (p.live fp files (.client event)).2 = p := by
            simp [Process.live, hserving]
          rw [hdeaf]
          exact h
      | true =>
          obtain rfl := h.serving hserving
          exact .inr (.refl _)

/-- An event that kills one server and makes calls of the other fail. -/
theorem standsFor_dies (h : p.StandsFor q) (event : LifeEvent) (calls : Nat) :
    (offline (p.diesIn fp files calls event)).StandsFor q ∨
      ∃ event', SameBut event' event ∧
        (offline (p.diesIn fp files calls event)).StandsFor (q.live fp files event').2 := by
  have hdead {q' : Process} (htables : p.diesIn fp files calls event = q'.tables) :
      (offline (p.diesIn fp files calls event)).StandsFor q' :=
    ⟨fun hserving => (by cases hserving), htables⟩
  rcases exists_failing_event p event calls with hidle | ⟨event', hbut, hfile⟩
  · exact .inl (hdead (hidle.trans h.tables))
  · rcases standsFor_lives h event' with hnext | hnext
    · exact .inl (hdead (hfile.symm.trans hnext.tables))
    · exact .inr ⟨event', hbut, hdead (hfile.symm.trans hnext.tables)⟩

/-- For each life with deaths there is one in which nothing worse happens than
that calls fail, and which leaves the same file. Its events are some of those of
the first one, in their order. -/
theorem deaths_are_failures (fp : Rounding) (files : LegacyFiles) (t : Tables)
    (happenings : List Happening) : ∃ events,
      List.SublistForall₂ SameBut events (happenings.map Happening.event) ∧
      (lived fp files (offline t) events).tables =
        (survived fp files (offline t) happenings).tables := by
  have hsimulated (p q : Process) (h : p.StandsFor q) : ∃ events,
      List.SublistForall₂ SameBut events (happenings.map Happening.event) ∧
        (survived fp files p happenings).StandsFor (lived fp files q events) := by
    induction happenings generalizing p q with
    | nil => exact ⟨[], .nil, h⟩
    | cons happening rest ih =>
        have hstep : (p.happen fp files happening).2.StandsFor q ∨ ∃ event',
            SameBut event' happening.event ∧
              (p.happen fp files happening).2.StandsFor (q.live fp files event').2 := by
          cases happening with
          | lives event => exact (standsFor_lives h event).imp_right fun hnext => ⟨_, .refl _, hnext⟩
          | dies event calls => exact standsFor_dies h event calls
        rcases hstep with hnext | ⟨event', hsame, hnext⟩
        · obtain ⟨events, hevents, hend⟩ := ih _ _ hnext
          exact ⟨events, .cons_right hevents, hend⟩
        · obtain ⟨events, hevents, hend⟩ := ih _ _ hnext
          exact ⟨event' :: events, .cons hsame hevents, hend⟩
  obtain ⟨events, hevents, hend⟩ := hsimulated _ _ (.refl (offline t))
  exact ⟨events, hevents, hend.tables.symm⟩

/-! ### What a life with deaths preserves -/

/-- What an event may do to the tables. -/
inductive Moves (fp : Rounding) (files : LegacyFiles) (session : Session) (t : Tables) :
    LifeEvent → Tables → Prop where
  | idle {event : LifeEvent} : Moves fp files session t event t
  | started {startup : Startup} {blocked : Prop} {t' : Tables}
      (himports : Imports fp blocked files startup t t') :
      Moves fp files session t (.start startup) t'
  | served {message : Message} {response : Response} {session' : Session} {t' : Tables}
      (hturn : Turn fp message.env session t (requested fp message) response session' t') :
      Moves fp files session t (.client (.request message)) t'

/-- A server that is serving takes a turn. -/
theorem turn_live (fp : Rounding) (files : LegacyFiles) (hsaved : p.server.store.saved = none)
    (hserving : p.serving = true) (message : Message) : ∃ response,
      (p.live fp files (.client (.request message))).1 = some response ∧
      (p.live fp files (.client (.request message))).2.server.store.saved = none ∧
      Turn fp message.env p.server.session p.tables (requested fp message) response
        (p.live fp files (.client (.request message))).2.server.session
        (p.live fp files (.client (.request message))).2.tables := by
  obtain ⟨hnext, hserved⟩ := serve_turn fp p.server message hsaved
  have htables : p.tables = p.server.store.tables := by
    rw [Process.tables, hsaved, Option.getD_none]
  have hafter : (⟨(p.server.serve fp message).2, true⟩ : Process).tables =
      (p.server.serve fp message).2.store.tables := by
    rw [Process.tables, hnext, Option.getD_none]
  have hlive : p.live fp files (.client (.request message)) =
      (some (p.server.serve fp message).1, ⟨(p.server.serve fp message).2, true⟩) := by
    rw [Process.live, if_pos hserving]
    rfl
  rw [hlive]
  exact ⟨_, rfl, hnext, htables ▸ hafter ▸ hserved⟩

/-- No transaction is open, and the tables have moved as the event may move
them. -/
theorem moves_live (fp : Rounding) (files : LegacyFiles) (hsaved : p.server.store.saved = none)
    (event : LifeEvent) :
    (p.live fp files event).2.server.store.saved = none ∧
      Moves fp files p.server.session p.tables event (p.live fp files event).2.tables := by
  cases event with
  | start startup =>
      obtain ⟨hnext, himports⟩ := started fp files startup p
      exact ⟨hnext, .started himports⟩
  | client event =>
      cases hserving : p.serving with
      | false =>
          simp only [Process.live, hserving]
          exact ⟨hsaved, .idle⟩
      | true =>
          cases event with
          | connect =>
              simp only [Process.live, hserving, if_true]
              exact ⟨hsaved, .idle⟩
          | request message =>
              obtain ⟨response, -, hnext, hturn⟩ := turn_live fp files hsaved hserving message
              exact ⟨hnext, .served hturn⟩

/-- What is true of every event that the server survives, whichever calls fail,
is true of one that kills it. -/
theorem happens_as_lived (fp : Rounding) (files : LegacyFiles) (p : Process)
    (rule : LifeEvent → Tables → Prop) (hidle : ∀ event, rule event p.tables)
    (hlives : ∀ event, rule event (p.live fp files event).2.tables)
    (hbut : ∀ event event' t, SameBut event' event → rule event' t → rule event t)
    (happening : Happening) :
    rule happening.event (p.happen fp files happening).2.tables := by
  cases happening with
  | lives event => exact hlives event
  | dies event calls =>
      change rule event (p.diesIn fp files calls event)
      rcases exists_failing_event p event calls with hfile | ⟨event', hsame, hfile⟩
      · rw [hfile]
        exact hidle event
      · exact hbut event event' _ hsame (hfile ▸ hlives event')

theorem survived_saved (fp : Rounding) (files : LegacyFiles) (hsaved : p.server.store.saved = none)
    (happenings : List Happening) : (survived fp files p happenings).server.store.saved = none := by
  refine Machine.invariant (fun q : Process => q.server.store.saved = none) (fun _ => True) ?_
    (fun _ _ => trivial) hsaved
  rintro q (event | _) - hq
  · exact (moves_live fp files hq event).1
  · rfl

/-- The event, but for the calls that fail, moves the tables. -/
theorem moves_happen (fp : Rounding) (files : LegacyFiles) (hsaved : p.server.store.saved = none)
    (happening : Happening) : ∃ event, SameBut event happening.event ∧
      Moves fp files p.server.session p.tables event (p.happen fp files happening).2.tables := by
  refine happens_as_lived fp files p (fun event t => ∃ event', SameBut event' event ∧
    Moves fp files p.server.session p.tables event' t) ?_ ?_ ?_ happening
  · exact fun event => ⟨event, .refl event, .idle⟩
  · exact fun event => ⟨event, .refl event, (moves_live fp files hsaved event).2⟩
  · rintro event event' t hbut ⟨event'', hbut', hmoves⟩
    exact ⟨event'', hbut'.trans hbut, hmoves⟩

/-- What survives every start and every request, whichever calls fail, survives
deaths. -/
theorem survived_tables (inv : Tables → Prop) {allowed : Message → Prop} {t : Tables}
    (hstart : ∀ startup blocked t t', Imports fp blocked files startup t t' → inv t → inv t')
    (hturn : ∀ message session response session' t t', allowed message →
      Turn fp message.env session t (requested fp message) response session' t' → inv t → inv t')
    (hfailing : ∀ message faults, allowed message → allowed (failing message faults))
    {happenings : List Happening}
    (hallowed : ∀ happening ∈ happenings, happening.event.Allowed allowed) (h : inv t) :
    inv (survived fp files (offline t) happenings).tables := by
  have hall : (survived fp files (offline t) happenings).server.store.saved = none ∧
      inv (survived fp files (offline t) happenings).tables := by
    refine Machine.invariant (fun p : Process => p.server.store.saved = none ∧ inv p.tables)
      (fun happening => happening.event.Allowed allowed) ?_ hallowed ⟨rfl, h⟩
    rintro p happening hgood ⟨hsaved, hinv⟩
    obtain ⟨event, hbut, hmoves⟩ := moves_happen fp files hsaved happening
    refine ⟨survived_saved fp files hsaved [happening], ?_⟩
    generalize (p.happen fp files happening).2.tables = after at hmoves ⊢
    cases hmoves with
    | idle => exact hinv
    | started himports => exact hstart _ _ _ _ himports hinv
    | served hturned =>
        refine hturn _ _ _ _ _ _ ?_ hturned hinv
        generalize happening.event = source at hbut hgood
        cases hbut with
        | refl => exact hgood
        | request message faults => exact hfailing message faults hgood
  exact hall.2

end lives

end AtmSystem.Bank
