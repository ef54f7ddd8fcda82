import AtmSystem.Bank.Opening
import AtmSystem.Bank.Run

/-!
The server over its restarts. The legacy files stay where they are, and every
start imports them again while a count of rows says that the table has none. So
what was imported once is imported again after an admin has deleted every
account, and only then: a start that finds rows in a table leaves it alone.
-/

namespace AtmSystem.Bank

open Library Program Model

/-! ### Lives of a server -/

/-- A start ends what ran before; connections and requests reach a server that
has started. -/
inductive LifeEvent where
  | start (startup : Startup)
  | client (event : Event)

def LifeEvent.isStart : LifeEvent → Bool
  | .start _ => true
  | .client _ => false

structure Process where
  server : ServerState
  serving : Bool

/-- The database between runs of the server. -/
def offline (t : Tables) : Process := ⟨⟨⟨t, none⟩, Session.reset⟩, false⟩

namespace Process

/-- What the database file holds: closing the connection takes an open
transaction back. -/
def tables (p : Process) : Tables := p.server.store.saved.getD p.server.store.tables

/-- One event in the life of a server, with these files in its directory. -/
def live (fp : Rounding) (files : LegacyFiles) (p : Process) :
    LifeEvent → Option Response × Process
  | .start startup =>
      let (started, store) := (startServer fp files startup).exec fp startup.env ⟨p.tables, none⟩
      (none, ⟨⟨store, Session.reset⟩, started⟩)
  | .client event =>
      if p.serving then
        let (response, server) := react fp p.server event
        (response, ⟨server, true⟩)
      else (none, p)

end Process

abbrev LifeExchange := Library.Exchange Process LifeEvent (Option Response)

def lifeHistory (fp : Rounding) (files : LegacyFiles) (p : Process) (events : List LifeEvent) :
    List LifeExchange :=
  Machine.history (Process.live fp files) p events

def lived (fp : Rounding) (files : LegacyFiles) (p : Process) (events : List LifeEvent) : Process :=
  Machine.final (Process.live fp files) p events

/-- The start put rows into the table of accounts. -/
def AddsAccounts (x : LifeExchange) : Prop :=
  x.input.isStart = true ∧
    x.before.tables.accounts.rows.length < x.after.tables.accounts.rows.length

def AddsTransactions (x : LifeExchange) : Prop :=
  x.input.isStart = true ∧
    x.before.tables.transactions.rows.length < x.after.tables.transactions.rows.length

instance : DecidablePred AddsAccounts := fun _ => inferInstanceAs (Decidable (_ ∧ _))
instance : DecidablePred AddsTransactions := fun _ => inferInstanceAs (Decidable (_ ∧ _))

variable {fp : Rounding} {files : LegacyFiles} {startup : Startup} {t t' : Tables}

/-! ### A start and its imports -/

namespace Imports

variable {blocked : Prop}

theorem accounts_of_not_due (h : Imports fp blocked files startup t t') (hdue : ¬ AccountsDue t) :
    t'.accounts = t.accounts := by
  obtain ⟨hrows, -, -, haccounts, -⟩ := h
  rw [dueAccounts, if_neg hdue, List.prefix_nil] at hrows
  rw [haccounts, hrows, KeyedTable.insertAll_nil]

theorem transactions_of_not_due (h : Imports fp blocked files startup t t')
    (hdue : ¬ TransactionsDue t) : t'.transactions = t.transactions := by
  obtain ⟨-, hlines, -, -, htransactions⟩ := h
  rw [dueTransactions, if_neg (show ¬ TransactionsDue (importAccounts t _) from hdue),
    List.prefix_nil] at hlines
  rw [htransactions, hlines]
  rfl

/-- Once the file has been imported as a whole, its numbers are all taken. -/
theorem known_of_due (h : Imports fp False files startup t t') (hdue : AccountsDue t)
    {record : LegacyAccount} (hrecord : record ∈ fileRecords files) :
    (t'.accounts.lookup record.accNo).isSome := by
  obtain ⟨-, -, hwhole, haccounts, -⟩ := h
  rw [haccounts, (hwhole.resolve_left id).1, dueAccounts, if_pos hdue, fileAccounts,
    KeyedTable.lookup_insertAll, Option.isSome_or, Bool.or_eq_true, List.find?_isSome]
  simp only [decide_eq_true_eq]
  exact .inr (mem_legacyAccounts.mpr ⟨record, hrecord, rfl⟩)

theorem accounts_grow (h : Imports fp blocked files startup t t') :
    t.accounts.rows.length ≤ t'.accounts.rows.length := by
  obtain ⟨-, -, -, haccounts, -⟩ := h
  rw [haccounts]
  exact (KeyedTable.rows_prefix_insertAll _ _).length_le

/-! A start on the tables that a start left, if nothing failed in the one
before it: either the table has rows by now, or there was nothing to import. -/

variable {startup' : Startup} {t'' : Tables}

theorem accounts_again (h : Imports fp False files startup t t')
    (h' : Imports fp blocked files startup' t' t'')
    (hdue : t.accounts.rows.length < t'.accounts.rows.length → ¬ AccountsDue t') :
    t''.accounts = t'.accounts := by
  by_cases hdue' : AccountsDue t'
  · have hlength : t'.accounts.rows.length = t.accounts.rows.length :=
      le_antisymm (not_lt.mp fun hlt => hdue hlt hdue') h.accounts_grow
    have hdueBefore : AccountsDue t := by rwa [AccountsDue, hlength] at hdue'
    obtain ⟨hrows, -, -, hinserted, -⟩ := h'
    rw [hinserted]
    apply KeyedTable.insertAll_of_known
    intro row hrow
    rw [dueAccounts, if_pos hdue', fileAccounts] at hrows
    obtain ⟨record, hrecord, hno⟩ := mem_legacyAccounts.mp ⟨row, hrows.subset hrow, rfl⟩
    rw [← hno]
    exact h.known_of_due hdueBefore hrecord
  · exact h'.accounts_of_not_due hdue'

theorem transactions_again (h : Imports fp False files startup t t')
    (h' : Imports fp blocked files startup' t' t'') (haccounts : t''.accounts = t'.accounts)
    (hdue : t.transactions.rows.length < t'.transactions.rows.length → ¬ TransactionsDue t') :
    t''.transactions = t'.transactions := by
  by_cases hdue' : TransactionsDue t'
  · obtain @⟨rows, _, -, -, hwhole, hinserted, hlines⟩ := h
    obtain ⟨-, rfl⟩ := hwhole.resolve_left id
    have hlength : t'.transactions.rows.length = t.transactions.rows.length +
        (dueTransactions fp files (importAccounts t rows)).length := by
      rw [hlines]
      exact importTransactions_length _ _
    have hnone : dueTransactions fp files (importAccounts t rows) = [] := by
      apply List.eq_nil_of_length_eq_zero
      by_contra hsome
      exact hdue (by omega) hdue'
    have hdueBefore : TransactionsDue (importAccounts t rows) := by
      rw [hnone, List.length_nil, Nat.add_zero] at hlength
      rwa [TransactionsDue, hlength] at hdue'
    obtain @⟨rows', _, -, hlines', -, hinserted', htransactions'⟩ := h'
    have hsame : (importAccounts t' rows').accounts = (importAccounts t rows).accounts := by
      rw [importAccounts_accounts, ← hinserted', haccounts, hinserted, importAccounts_accounts]
    rw [dueTransactions_congr fp files hsame hdue' hdueBefore, hnone, List.prefix_nil] at hlines'
    rw [htransactions', hlines']
    rfl
  · exact h'.transactions_of_not_due hdue'

end Imports

/-! ### Lives -/

theorem started (fp : Rounding) (files : LegacyFiles) (startup : Startup) (p : Process) :
    (p.live fp files (.start startup)).2.server.store.saved = none ∧
      Imports fp (startup.env.Faulty ∨ startup.opened ≠ .ok ()) files startup p.tables
        (p.live fp files (.start startup)).2.tables := by
  obtain ⟨hsaved, hstarted⟩ := launched_started fp files startup p.tables
  refine ⟨hsaved, ?_⟩
  have htables : (p.live fp files (.start startup)).2.tables =
      (launched fp files startup p.tables).store.tables := by
    change ((launched fp files startup p.tables).store.saved.getD _) = _
    rw [hsaved, Option.getD_none]
    rfl
  rw [htables]
  exact hstarted.imports

/-- A condition on the requests of a life. -/
def LifeEvent.Allowed (allowed : Message → Prop) : LifeEvent → Prop
  | .start _ => True
  | .client event => event.Allowed allowed

instance (allowed : Message → Prop) [DecidablePred allowed] :
    DecidablePred (LifeEvent.Allowed allowed)
  | .start _ => .isTrue trivial
  | .client event => inferInstanceAs (Decidable (event.Allowed allowed))

/-- An invariant of the tables that every start and every turn of an allowed
message preserve holds all through a life, and no transaction is left open. -/
theorem lived_tables (inv : Tables → Prop) {allowed : Message → Prop}
    (hstart : ∀ startup blocked t t', Imports fp blocked files startup t t' → inv t → inv t')
    (hturn : ∀ message session response session' t t', allowed message →
      Turn fp message.env session t (requested fp message) response session' t' →
      inv t → inv t')
    {events : List LifeEvent} (hallowed : ∀ event ∈ events, event.Allowed allowed) (h : inv t) :
    (lived fp files (offline t) events).server.store.saved = none ∧
      inv (lived fp files (offline t) events).server.store.tables := by
  refine Machine.invariant
    (fun p : Process => p.server.store.saved = none ∧ inv p.server.store.tables)
    (LifeEvent.Allowed allowed) ?_ hallowed ⟨rfl, h⟩
  rintro p (startup | event) hevent ⟨hsaved, h⟩
  · obtain ⟨hnext, himports⟩ := started fp files startup p
    rw [Process.tables, Process.tables, hsaved, hnext] at himports
    exact ⟨hnext, hstart _ _ _ _ himports h⟩
  · simp only [Process.live]
    split
    · cases event with
      | connect => exact ⟨hsaved, h⟩
      | request message =>
          obtain ⟨hnext, hserved⟩ := serve_turn fp p.server message hsaved
          exact ⟨hnext, hturn _ _ _ _ _ _ hevent hserved h⟩
    · exact ⟨hsaved, h⟩

/-- What the two exchanges of a life must not both do: import records into the
table of accounts, or lines into the table of transactions. -/
def ImportsOnce (x y : LifeExchange) : Prop :=
  (AddsAccounts x → ¬ AddsAccounts y) ∧ (AddsTransactions x → ¬ AddsTransactions y)

/-- A start behind one that has filled a table finds rows in it. -/
def FindsRows (x y : LifeExchange) : Prop :=
  y.input.isStart = true →
    (AddsAccounts x → ¬ AccountsDue y.before.tables) ∧
      (AddsTransactions x → ¬ TransactionsDue y.before.tables)

instance (x y : LifeExchange) : Decidable (ImportsOnce x y) := inferInstanceAs (Decidable (_ ∧ _))
instance (x y : LifeExchange) : Decidable (FindsRows x y) := inferInstanceAs (Decidable (_ → _))

/-- A record of accounts.dat and a line of transactions.txt contribute a row in
one start at most: of all starts of a life one at most adds accounts, and one at
most adds transactions. And two starts in a row leave the accounts and the
transactions that the first one leaves. -/
structure MigratesOnce (fp : Rounding) (files : LegacyFiles) (t : Tables)
    (events : List LifeEvent) : Prop where
  once : (lifeHistory fp files (offline t) events).Pairwise ImportsOnce
  again : ∀ first startup startup' rest,
    events = first ++ .start startup :: .start startup' :: rest →
    startup.opened = .ok () → ¬ startup.env.Faulty →
    let p := lived fp files (offline t) (first ++ [.start startup])
    let p' := lived fp files (offline t) (first ++ [.start startup, .start startup'])
    p'.tables.accounts = p.tables.accounts ∧ p'.tables.transactions = p.tables.transactions

theorem importsOnce_of_findsRows {x y : LifeExchange} (hfinds : FindsRows x y)
    (hy : ∃ p, y = Machine.exchange (Process.live fp files) p y.input) : ImportsOnce x y := by
  obtain ⟨p, hy⟩ := hy
  cases hinput : y.input with
  | client event =>
      refine ⟨fun _ h => ?_, fun _ h => ?_⟩
      · simp [AddsAccounts, hinput, LifeEvent.isStart] at h
      · simp [AddsTransactions, hinput, LifeEvent.isStart] at h
  | start startup =>
      have hrows := hfinds (by rw [hinput]; rfl)
      obtain ⟨-, himports⟩ := started fp files startup p
      rw [hinput] at hy
      subst hy
      constructor
      · rintro hx ⟨-, hmore⟩
        have hsame := himports.accounts_of_not_due (hrows.1 hx)
        exact absurd hmore (by simp [Machine.exchange, hsame])
      · rintro hx ⟨-, hmore⟩
        have hsame := himports.transactions_of_not_due (hrows.2 hx)
        exact absurd hmore (by simp [Machine.exchange, hsame])

/-- A life in which no start finds a table empty that a start before it has
filled imports every record and every line once at most. -/
theorem migrates_once (fp : Rounding) (files : LegacyFiles) (t : Tables) {events : List LifeEvent}
    (hfinds : (lifeHistory fp files (offline t) events).Pairwise FindsRows) :
    MigratesOnce fp files t events := by
  constructor
  · apply hfinds.imp_of_mem
    intro x y _ hy hxy
    obtain ⟨first, rest, -, hexchange⟩ := Machine.exists_prefix hy
    exact importsOnce_of_findsRows hxy ⟨_, hexchange⟩
  · rintro first startup startup' rest rfl hopened hquiet
    rw [lifeHistory, Machine.history_append, List.pairwise_append] at hfinds
    obtain ⟨-, hpair, -⟩ := hfinds
    rw [Machine.history_cons, List.pairwise_cons] at hpair
    simp only [lived, Machine.final_append, Machine.final_cons, Machine.final_nil]
    generalize Machine.final (Process.live fp files) (offline t) first = p at hpair ⊢
    have hrows := hpair.1 _ List.mem_cons_self rfl
    obtain ⟨-, himports⟩ := started fp files startup p
    obtain ⟨-, himports'⟩ := started fp files startup' (p.live fp files (.start startup)).2
    have hblocked : (startup.env.Faulty ∨ startup.opened ≠ .ok ()) = False := by
      simp [hquiet, hopened]
    rw [hblocked] at himports
    have haccounts := himports.accounts_again himports' fun hmore => hrows.1 ⟨rfl, hmore⟩
    exact ⟨haccounts, himports.transactions_again himports' haccounts
      fun hmore => hrows.2 ⟨rfl, hmore⟩⟩

/-- A server with the account 7 of Ada in its old files. -/
def adaOnly : LegacyFiles := ⟨some (adaFile [0, 0, 0, 0]), none⟩

/-- The server is started, used and started again. -/
def quietLife : List LifeEvent :=
  [.start plainStartup, .client .connect, .client (.request (plain "LOGIN\n7\n1234")),
    .start plainStartup]

theorem migrates_once_quiet : MigratesOnce .exact adaOnly Tables.empty quietLife :=
  migrates_once .exact adaOnly Tables.empty (by decide +kernel)

/-- An admin deletes the only account, and the next start creates it again. -/
theorem deleted_account_imported_again :
    ¬ MigratesOnce .exact adaOnly Tables.empty
      [.start plainStartup, .client .connect,
        .client (.request (plain "ADMIN_LOGIN\nroot\nletmein99")),
        .client (.request (plain "DELETE_ACCOUNT\n7")), .start plainStartup] := by
  intro h
  have honce := h.once
  revert honce
  decide +kernel

end AtmSystem.Bank
