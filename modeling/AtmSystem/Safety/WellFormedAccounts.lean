import AtmSystem.Bank.Opening
import AtmSystem.Bank.Rows
import AtmSystem.Bank.Run
import AtmSystem.Semantics.Requests

/-!
Account rows are well formed as far as requests write them: creating and
editing an account check its number and its name. The migration of accounts.dat
checks nothing, so the accounts of a database that was opened with such a file
are well formed, in every run, if and only if the records that are imported
are.
-/

namespace AtmSystem.Bank

open Library Model

/-- A number and a name as the checks of `db_create_account` and
`db_edit_account` let them through. -/
structure WellFormed (accountNo : Int) (name : Bytes) : Prop where
  positive : 0 < accountNo
  nonempty : name ≠ []
  length : name.length ≤ 63
  line : newline ∉ name
  trimmed : Trimmed name

def AccountsWellFormed (t : Tables) : Prop :=
  ∀ k row, t.accounts.lookup k = some row → WellFormed row.accountNo row.name

variable {fp : Rounding} {t t' : Tables} {a : Action}

/-- A name that is stored is a trimmed part of what was asked for. -/
theorem wellFormed_storedName {accountNo : Int} {name : Bytes} (hpositive : 0 < accountNo)
    (hname : storedName name ≠ []) (hline : newline ∉ name) :
    WellFormed accountNo (storedName name) where
  positive := hpositive
  nonempty := hname
  length := by
    have hshorter := (trimWhitespace_sublist (snprintf 64 name)).length_le
    have hfits : (snprintf 64 name).length ≤ 63 := by
      rw [snprintf, List.length_take]
      omega
    exact hshorter.trans hfits
  line := fun hmem => hline (List.mem_of_mem_take ((trimWhitespace_sublist _).subset hmem))
  trimmed := trimmed_trimWhitespace _

/-- The name an action stores. -/
def Action.storesLine : Action → Prop
  | .create _ name .. | .edit _ _ name .. => newline ∉ name
  | _ => True

theorem storesLine_of_intended {env : Environment} {session : Session} {c : Command}
    (hc : c.NameIsLine) (h : intended env session c = some a) : a.storesLine := by
  cases asks_of_intended h with
  | create => exact hc
  | edit => exact hc
  | _ => trivial

theorem AccountsWellFormed.performs (h : AccountsWellFormed t) (ha : a.Performs fp t t')
    (hline : a.storesLine) : AccountsWellFormed t' := by
  refine EachAccount.performs ha ?_ ?_ h
  · intro k row hcreates
    cases hcreates with
    | created hpositive hname => exact wellFormed_storedName hpositive hname hline
  · intro k row k' row' _ hbecomes hold
    cases hbecomes with
    | renamed hname => exact wellFormed_storedName hold.positive hname hline
    | renumbered hdistinct hpositive hname => exact wellFormed_storedName hpositive hname hline
    | kept | moved | sent | received | locked | unlocked => exact hold

theorem AccountsWellFormed.setLoginState (h : AccountsWellFormed t)
    (accountNo failedAttempts isLocked : Int) :
    AccountsWellFormed (t.setLoginState accountNo failedAttempts isLocked) := by
  apply EachAccount.setLoginState h
  exact fun _ _ => id

/-- Requests keep the accounts well formed. -/
theorem reached_wellFormed {s : ServerState} (hsaved : s.store.saved = none)
    (h : AccountsWellFormed s.store.tables) (events : List Event) :
    AccountsWellFormed (reached fp s events).store.tables := by
  apply tables_invariant AccountsWellFormed _ _ (allowed_all events) hsaved h
  · intro t accountNo failedAttempts isLocked ht
    exact ht.setLoginState accountNo failedAttempts isLocked
  · intro message session t a t' _ hintended ha ht
    exact ht.performs ha (storesLine_of_intended (parseRequest_nameIsLine fp _) hintended)

/-- In well formed accounts a login that is answered OK opens a session that
`require_customer_session` lets through. -/
theorem login_isCustomer {s : ServerState} (hsaved : s.store.saved = none)
    (h : AccountsWellFormed s.store.tables) {events : List Event} {x : Exchange}
    (hx : x ∈ history fp s events) {accountNo pin : Int}
    (hok : AnsweredOk fp (.login (some (accountNo, pin))) x) :
    x.after.session.isCustomer = true := by
  obtain ⟨⟨first, rest, -, hbefore⟩, hexchanged⟩ := exchanged hsaved hx
  have haccounts : AccountsWellFormed x.before.store.tables := by
    rw [hbefore]
    exact reached_wellFormed hsaved h first
  obtain ⟨message, response, hinput, hrequested, houtput, hstatus⟩ := hok
  obtain ⟨_, hresponse, hturn⟩ := hexchanged.turn hinput
  obtain rfl := Option.some.inj (houtput.symm.trans hresponse)
  rw [hrequested] at hturn
  generalize x.after.session = session' at hturn ⊢
  generalize x.after.store.tables = t' at hturn
  cases hturn with
  | refused => cases hstatus
  | reported hread => cases hread
  | counted => cases hstatus
  | performed hintended => cases hintended
  | loggedIn hchecked =>
      obtain ⟨-, hrow, -⟩ := hchecked
      have hpositive := (haccounts _ _ hrow).positive
      rw [(KeyedTable.lookup_eq_some_iff.mp hrow).2] at hpositive
      simp [Session.isCustomer, customerSession, Session.reset, hpositive]

/-- In every run of a server the accounts stay well formed, and a login that is
answered OK gives a session of a customer. -/
structure KeepsWellFormed (fp : Rounding) (s : ServerState) : Prop where
  accounts : ∀ events, AccountsWellFormed (reached fp s events).store.tables
  logins : ∀ events, ∀ x ∈ history fp s events, ∀ accountNo pin,
    AnsweredOk fp (.login (some (accountNo, pin))) x → x.after.session.isCustomer = true

/-- The records of accounts.dat that are imported: of each number the first. -/
def RecordsWellFormed (files : LegacyFiles) : Prop :=
  ∀ k record, (fileRecords files).find? (fun record => record.accNo = k) = some record →
    WellFormed record.accNo record.name

/-- An account of a database that had none before the start comes from the
first record of its number. -/
theorem started_origin {files : LegacyFiles} {startup : Startup} {faulty : Prop}
    (hempty : t.accounts = .empty) (h : Started fp faulty files startup t t') {k : Int}
    {row : Account} (hrow : t'.accounts.lookup k = some row) :
    ∃ record, (fileRecords files).find? (fun record => record.accNo = k) = some record ∧
      row.accountNo = record.accNo ∧ row.name = record.name := by
  obtain ⟨hrows, -, -, haccounts, -⟩ := h.imports
  have hdue : AccountsDue t := accountsDue_of_empty (by rw [hempty]; rfl)
  rw [haccounts, hempty, KeyedTable.lookup_insertAll, KeyedTable.lookup_empty,
    Option.none_or] at hrow
  rw [dueAccounts, if_pos hdue, fileAccounts] at hrows
  obtain ⟨more, hall⟩ := hrows
  have hfound := find_legacyAccounts startup.stamps 0 (fileRecords files) k
  rw [← hall, List.find?_append, hrow] at hfound
  obtain ⟨record, hrecord, hcolumns⟩ := Option.map_eq_some_iff.mp hfound.symm
  rw [Prod.mk.injEq] at hcolumns
  exact ⟨record, hrecord, hcolumns.1.symm, hcolumns.2.symm⟩

/-- Without failing calls every number of the file has its account. -/
theorem started_fate {files : LegacyFiles} {startup : Startup} (hempty : t.accounts = .empty)
    (hopened : startup.opened = .ok ()) (h : Started fp False files startup t t') {k : Int}
    {record : LegacyAccount}
    (hrecord : (fileRecords files).find? (fun record => record.accNo = k) = some record) :
    ∃ row, t'.accounts.lookup k = some row ∧ row.accountNo = record.accNo ∧
      row.name = record.name := by
  obtain ⟨-, -, hwhole, haccounts, -⟩ := h.imports
  obtain ⟨rfl, -⟩ := hwhole.resolve_left (by simp [hopened])
  have hdue : AccountsDue t := accountsDue_of_empty (by rw [hempty]; rfl)
  have hfound := find_legacyAccounts startup.stamps 0 (fileRecords files) k
  rw [hrecord, Option.map_some, Option.map_eq_some_iff] at hfound
  obtain ⟨row, hrow, hcolumns⟩ := hfound
  rw [Prod.mk.injEq] at hcolumns
  refine ⟨row, ?_, hcolumns⟩
  rw [haccounts, hempty, KeyedTable.lookup_insertAll, KeyedTable.lookup_empty, Option.none_or,
    dueAccounts, if_pos hdue, fileAccounts, hrow]

/-- Whatever is requested, the accounts of a database that was new are well
formed, if the records of accounts.dat that are imported are; and if the start
meets no failing call, only if they are. -/
theorem accounts_wellFormed (fp : Rounding) (files : LegacyFiles) (startup : Startup) {t : Tables}
    (hempty : t.accounts = .empty) :
    (RecordsWellFormed files → KeepsWellFormed fp (launched fp files startup t)) ∧
      (startup.opened = .ok () → ¬ startup.env.Faulty →
        KeepsWellFormed fp (launched fp files startup t) → RecordsWellFormed files) := by
  obtain ⟨hsaved, hstarted⟩ := launched_started fp files startup t
  constructor
  · intro hrecords
    have hlaunched : AccountsWellFormed (launched fp files startup t).store.tables := by
      intro k row hrow
      obtain ⟨record, hrecord, hno, hname⟩ := started_origin hempty hstarted hrow
      rw [hno, hname]
      exact hrecords k record hrecord
    exact ⟨reached_wellFormed hsaved hlaunched,
      fun events x hx accountNo pin hok => login_isCustomer hsaved hlaunched hx hok⟩
  · intro hopened hquiet hkeeps k record hrecord
    rw [eq_false hquiet] at hstarted
    obtain ⟨row, hrow, hno, hname⟩ := started_fate hempty hopened hstarted hrecord
    rw [← hno, ← hname]
    exact hkeeps.accounts [] k row hrow

/-- The record of Ada is well formed. -/
theorem accounts_wellFormed_ada :
    KeepsWellFormed .exact
      (launched .exact ⟨some (adaFile [0, 0, 0, 0]), none⟩ plainStartup Tables.empty) := by
  apply (accounts_wellFormed .exact ⟨some (adaFile [0, 0, 0, 0]), none⟩ plainStartup
    (t := Tables.empty) rfl).1
  have hrecords : fileRecords ⟨some (adaFile [0, 0, 0, 0]), none⟩ = [⟨7, ascii "Ada", 1, 0⟩] := by
    decide +kernel
  intro k record hrecord
  rw [hrecords] at hrecord
  obtain rfl := List.mem_singleton.mp (List.mem_of_find?_eq_some hrecord)
  exact ⟨by decide, by decide, by decide, by decide, by decide +kernel, by decide +kernel⟩

/-- A record of 72 zero bytes becomes an account of number 0 without a name. -/
theorem nameless_account_imported :
    ¬ KeepsWellFormed .exact
      (launched .exact ⟨some (List.replicate 72 0), none⟩ plainStartup Tables.empty) := by
  intro h
  have hrow : ((launched .exact ⟨some (List.replicate 72 0), none⟩ plainStartup
      Tables.empty).store.tables.accounts.lookup 0).isSome := by
    decide +kernel
  obtain ⟨row, hrow⟩ := Option.isSome_iff_exists.mp hrow
  have hpositive := (h.accounts [] 0 row hrow).positive
  rw [(KeyedTable.lookup_eq_some_iff.mp hrow).2] at hpositive
  exact absurd hpositive (lt_irrefl 0)

end AtmSystem.Bank
