import AtmSystem.Model.Legacy
import AtmSystem.Model.Server
import AtmSystem.Bank.Settle

/-!
What `db_open` does to the tables. A legacy file is imported while the count of
its table reads as zero or less: the records of accounts.dat whose number is
new, each with the balance 0, and the lines of transactions.txt up to the first
one that SQLite does not take.
-/

namespace AtmSystem.Bank

open Library Program Model

/-! ### Importing -/

/-- The row that is inserted for a record. -/
def legacyAccount (record : LegacyAccount) (stamp : UInt64 × Bytes) : Account where
  accountNo := record.accNo
  name := record.name
  pinHash := record.pinHash.toInt64
  salt := stamp.1.toInt64
  balance := 0
  failedAttempts := 0
  isLocked := 0
  createdAt := stamp.2

/-- The rows of the records from the `i`-th on. -/
def legacyAccounts (stamps : Nat → UInt64 × Bytes) : Nat → List LegacyAccount → List Account
  | _, [] => []
  | i, record :: rest => legacyAccount record (stamps i) :: legacyAccounts stamps (i + 1) rest

/-- The first row of a number comes from the first record of that number. -/
theorem find_legacyAccounts (stamps : Nat → UInt64 × Bytes) (i : Nat)
    (records : List LegacyAccount) (accountNo : Int) :
    ((legacyAccounts stamps i records).find? fun row => row.accountNo = accountNo).map
        (fun row => (row.accountNo, row.name)) =
      (records.find? fun record => record.accNo = accountNo).map
        fun record => (record.accNo, record.name) := by
  induction records generalizing i with
  | nil => rfl
  | cons record rest ih =>
      rw [legacyAccounts, List.find?_cons, List.find?_cons]
      by_cases hno : record.accNo = accountNo
      · simp [legacyAccount, hno]
      · simpa [legacyAccount, hno] using ih (i + 1)

theorem mem_legacyAccounts {stamps : Nat → UInt64 × Bytes} {records : List LegacyAccount} {i : Nat}
    {accountNo : Int} :
    (∃ row ∈ legacyAccounts stamps i records, row.accountNo = accountNo) ↔
      ∃ record ∈ records, record.accNo = accountNo := by
  induction records generalizing i with
  | nil => simp [legacyAccounts]
  | cons record rest ih =>
      simp only [legacyAccounts, List.exists_mem_cons_iff, ih]
      rfl

def legacyTransaction (line : LegacyTransaction) (id : Nat) : Transaction where
  id := id
  accountNo := line.accountNo
  relatedAccount := none
  type := line.type
  amount := line.amount
  balanceAfter := none
  createdAt := line.timestamp

theorem legacyTransaction_id (line : LegacyTransaction) (id : Nat) :
    (legacyTransaction line id).id = id := rfl

def importAccounts (t : Tables) (rows : List Account) : Tables :=
  { t with accounts := t.accounts.insertAll rows }

def importTransactions (t : Tables) (lines : List LegacyTransaction) : Tables :=
  lines.foldl
    (fun t line => t.insertTransaction (legacyTransaction line) (legacyTransaction_id line)) t

/-- A line that SQLite takes: the account exists, and the amount is no NaN,
which would be bound as NULL. -/
def Accepted (t : Tables) (line : LegacyTransaction) : Prop :=
  (t.accounts.lookup line.accountNo).isSome ∧ line.amount ≠ .nan

instance (t : Tables) : DecidablePred (Accepted t) :=
  fun _ => inferInstanceAs (Decidable (_ ∧ _))

/-- The migration of accounts.dat is due: `sqlite3_column_int` reads the count
of rows as zero or less. -/
def AccountsDue (t : Tables) : Prop := columnInt t.accounts.rows.length ≤ 0

def TransactionsDue (t : Tables) : Prop := columnInt t.transactions.rows.length ≤ 0

instance : DecidablePred AccountsDue := fun _ => inferInstanceAs (Decidable (_ ≤ _))
instance : DecidablePred TransactionsDue := fun _ => inferInstanceAs (Decidable (_ ≤ _))

theorem accountsDue_of_empty {t : Tables} (h : t.accounts.rows = []) : AccountsDue t := by
  rw [AccountsDue, h]
  decide +kernel

theorem transactionsDue_of_empty {t : Tables} (h : t.transactions.rows = []) :
    TransactionsDue t := by
  rw [TransactionsDue, h]
  decide +kernel

/-- The records of accounts.dat, if there is one. -/
def fileRecords (files : LegacyFiles) : List LegacyAccount :=
  (files.accountsDat.map readLegacyAccounts).getD []

def fileAccounts (files : LegacyFiles) (startup : Startup) : List Account :=
  legacyAccounts startup.stamps 0 (fileRecords files)

def fileTransactions (fp : Rounding) (files : LegacyFiles) : List LegacyTransaction :=
  match files.transactionsTxt with
  | none => []
  | some content => (readLines 256 content).filterMap (scanLegacyTransaction fp)

def dueAccounts (files : LegacyFiles) (startup : Startup) (t : Tables) : List Account :=
  if AccountsDue t then fileAccounts files startup else []

/-- The lines that are due and are reached: those in front of the first one
that is not taken. -/
def dueTransactions (fp : Rounding) (files : LegacyFiles) (t : Tables) : List LegacyTransaction :=
  if TransactionsDue t then (fileTransactions fp files).takeWhile (Accepted t) else []

/-- Which lines are reached depends on the accounts alone. -/
theorem dueTransactions_congr (fp : Rounding) (files : LegacyFiles) {t u : Tables}
    (haccounts : t.accounts = u.accounts) (ht : TransactionsDue t) (hu : TransactionsDue u) :
    dueTransactions fp files t = dueTransactions fp files u := by
  have haccepted (line : LegacyTransaction) : Accepted t line ↔ Accepted u line := by
    rw [Accepted, Accepted, haccounts]
  rw [dueTransactions, dueTransactions, if_pos ht, if_pos hu]
  congr 1
  funext line
  exact decide_eq_decide.mpr (haccepted line)

/-- `Opens fp faulty files startup t t'`: on the tables `t` a `db_open` that
answers 1 may leave `t'`. A migration that a SQL call fails in leaves what it
has imported so far. -/
inductive Opens (fp : Rounding) (faulty : Prop) (files : LegacyFiles) (startup : Startup)
    (t : Tables) : Tables → Prop where
  | imported {rows : List Account} {lines : List LegacyTransaction}
      (hrows : rows <+: dueAccounts files startup t)
      (hlines : lines <+: dueTransactions fp files (importAccounts t rows))
      (hwhole : faulty ∨ rows = dueAccounts files startup t ∧
        lines = dueTransactions fp files (importAccounts t rows)) :
      Opens fp faulty files startup t (importTransactions (importAccounts t rows) lines)

/-! ### Each file writes its table -/

section frame

variable (t : Tables) (rows : List Account) (lines : List LegacyTransaction)

@[simp] theorem importAccounts_accounts :
    (importAccounts t rows).accounts = t.accounts.insertAll rows := rfl

@[simp] theorem importAccounts_transactions :
    (importAccounts t rows).transactions = t.transactions := rfl

@[simp] theorem importTransactions_nil : importTransactions t [] = t := rfl

@[simp] theorem importTransactions_cons (line : LegacyTransaction) :
    importTransactions t (line :: lines) =
      importTransactions
        (t.insertTransaction (legacyTransaction line) (legacyTransaction_id line)) lines := rfl

@[simp] theorem importTransactions_accounts :
    (importTransactions t lines).accounts = t.accounts := by
  induction lines generalizing t with
  | nil => rfl
  | cons line rest ih => exact ih _

/-- A transaction but for its number. -/
def unnumbered (r : Transaction) : Transaction := { r with id := 0 }

/-- The lines are added in their order. -/
theorem importTransactions_rows :
    (importTransactions t lines).transactions.rows.map unnumbered =
      t.transactions.rows.map unnumbered ++ lines.map (legacyTransaction · 0) := by
  induction lines generalizing t with
  | nil => simp
  | cons line rest ih =>
      rw [importTransactions_cons, ih, Tables.insertTransaction_rows, List.map_append,
        List.append_assoc, List.map_cons]
      rfl

/-- Every transaction was there before or comes from a line. -/
theorem mem_importTransactions {r : Transaction}
    (hr : r ∈ (importTransactions t lines).transactions.rows) :
    (∃ old ∈ t.transactions.rows, ∃ n, r = { old with id := n }) ∨
      ∃ line ∈ lines, ∃ n, r = legacyTransaction line n := by
  have hmem := List.mem_map_of_mem (f := unnumbered) hr
  rw [importTransactions_rows, List.mem_append, List.mem_map, List.mem_map] at hmem
  rcases hmem with ⟨old, hold, hsame⟩ | ⟨line, hline, hsame⟩
  · exact .inl ⟨old, hold, r.id, (congrArg (fun r' => { r' with id := r.id }) hsame).symm⟩
  · exact .inr ⟨line, hline, r.id, (congrArg (fun r' => { r' with id := r.id }) hsame).symm⟩

theorem importTransactions_length :
    (importTransactions t lines).transactions.rows.length =
      t.transactions.rows.length + lines.length := by
  have hrows := congrArg List.length (importTransactions_rows t lines)
  rwa [List.length_append, List.length_map, List.length_map, List.length_map] at hrows

end frame

/-! ### The migrations -/

section migrate

variable {fp : Rounding} {faulty : Prop} {t : Tables} {rest : Option Tables}

theorem insertLegacyAccounts_imports (stamps : Nat → UInt64 × Bytes)
    (records : List LegacyAccount) (i : Nat) (t : Tables) :
    Always (SqlAnswers fp faulty) (insertLegacyAccounts stamps i records) ⟨t, rest⟩ fun _ s' =>
      ∃ rows, rows <+: legacyAccounts stamps i records ∧
        (faulty ∨ rows = legacyAccounts stamps i records) ∧
        s' = ⟨importAccounts t rows, rest⟩ := by
  induction records generalizing i t with
  | nil => exact ⟨[], List.prefix_refl _, .inr rfl, rfl⟩
  | cons record more ih =>
      simp only [insertLegacyAccounts, always_bind, always_step, Statement.exec, always_setErrmsg,
        always_pure]
      refine ⟨fun hf => ⟨[], List.nil_prefix, .inl hf, rfl⟩, ?_⟩
      apply (ih (i + 1) (t.insertAccount (legacyAccount record (stamps i)))).mono
      rintro _ s' ⟨rows, hprefix, hwhole, rfl⟩
      refine ⟨legacyAccount record (stamps i) :: rows, ?_, ?_, rfl⟩
      · exact List.cons_prefix_cons.mpr ⟨rfl, hprefix⟩
      · rw [legacyAccounts, List.cons.injEq]
        exact hwhole.imp_right fun h => ⟨rfl, h⟩

theorem insertLegacyTransactions_imports (lines : List LegacyTransaction) (t : Tables) :
    Always (SqlAnswers fp faulty) (insertLegacyTransactions lines) ⟨t, rest⟩ fun _ s' =>
      ∃ taken, taken <+: lines.takeWhile (Accepted t) ∧
        (faulty ∨ taken = lines.takeWhile (Accepted t)) ∧
        s' = ⟨importTransactions t taken, rest⟩ := by
  induction lines generalizing t with
  | nil => exact ⟨[], List.prefix_refl _, .inr rfl, rfl⟩
  | cons line more ih =>
      simp only [insertLegacyTransactions, always_bind, always_step, always_setErrmsg, always_pure]
      refine ⟨fun hf => ⟨[], List.nil_prefix, .inl hf, rfl⟩, ?_⟩
      by_cases haccepted : Accepted t line
      · have hexec : (Statement.insertTransaction line.accountNo none line.type line.amount none
            line.timestamp).exec fp t =
            .ok ((), t.insertTransaction (legacyTransaction line)
              (legacyTransaction_id line)) := by
          obtain ⟨row, hrow⟩ := Option.isSome_iff_exists.mp haccepted.1
          simp only [Statement.exec, hrow, bindDouble_of_ne_nan haccepted.2]
          rfl
        simp only [hexec, List.takeWhile_cons, haccepted, decide_true, if_true]
        apply (ih (t.insertTransaction (legacyTransaction line)
          (legacyTransaction_id line))).mono
        rintro _ s' ⟨taken, hprefix, hwhole, rfl⟩
        refine ⟨line :: taken, List.cons_prefix_cons.mpr ⟨rfl, hprefix⟩, ?_, rfl⟩
        rw [List.cons.injEq]
        exact hwhole.imp_right fun h => ⟨rfl, h⟩
      · obtain ⟨message, hexec⟩ : ∃ message, (Statement.insertTransaction line.accountNo none
            line.type line.amount none line.timestamp).exec fp t = .error message := by
          simp only [Statement.exec]
          split
          · exact ⟨_, rfl⟩
          split
          · exact ⟨_, rfl⟩
          rename_i hnumber hsome
          refine absurd ⟨?_, ?_⟩ haccepted
          · simpa [Option.isSome_iff_ne_none] using hsome
          · simpa using hnumber
        simp only [hexec, List.takeWhile_cons, haccepted, decide_false, Bool.false_eq_true, if_false]
        exact ⟨[], List.prefix_refl _, .inr rfl, rfl⟩

/-- A migration counts the rows of its table and imports its file if it is
due. -/
theorem always_migrateLegacy {count : Statement Nat} {n : Nat}
    (hcount : count.exec fp t = .ok (n, t)) {file : Option Bytes} {insert : Bytes → Db Bool}
    {post : Bool → Store → Prop} (hfailed : faulty → post false ⟨t, rest⟩)
    (hnothing : ¬ columnInt n ≤ 0 ∨ file = none → post true ⟨t, rest⟩)
    (himport : columnInt n ≤ 0 → ∀ content, file = some content →
      Always (SqlAnswers fp faulty) (insert content) ⟨t, rest⟩ post) :
    Always (SqlAnswers fp faulty) (migrateLegacy count file insert) ⟨t, rest⟩ post := by
  by_cases hdue : columnInt n ≤ 0
  · simp only [migrateLegacy, dbCountRows, always_bind, always_executeOrReport, hcount,
      always_pure, Option.map_none, Option.map_some, gt_iff_lt, not_lt.mpr hdue, if_false]
    refine ⟨hfailed, ?_⟩
    cases file with
    | none => exact hnothing (.inr rfl)
    | some content =>
        simp only [always_bind, always_prepare, Bool.not_true, Bool.not_false, Bool.false_eq_true,
          if_true, if_false, always_setErrmsg, always_pure]
        exact ⟨hfailed, himport hdue content rfl⟩
  · simp only [migrateLegacy, dbCountRows, always_bind, always_executeOrReport, hcount,
      always_pure, Option.map_none, Option.map_some, gt_iff_lt, not_le.mp hdue, if_true]
    exact ⟨hfailed, hnothing (.inl hdue)⟩

theorem migrateLegacyAccounts_imports (files : LegacyFiles) (startup : Startup) :
    Always (SqlAnswers fp faulty) (migrateLegacyAccounts files.accountsDat startup.stamps)
        ⟨t, rest⟩ fun _ s' =>
      ∃ rows, rows <+: dueAccounts files startup t ∧
        (faulty ∨ rows = dueAccounts files startup t) ∧ s' = ⟨importAccounts t rows, rest⟩ := by
  apply always_migrateLegacy (n := t.accounts.rows.length) rfl
  · intro hf
    exact ⟨[], List.nil_prefix, .inl hf, rfl⟩
  · intro hnothing
    refine ⟨[], List.nil_prefix, .inr ?_, rfl⟩
    rw [dueAccounts]
    split
    · rename_i hdue
      rw [fileAccounts, fileRecords, hnothing.resolve_left (not_not.mpr hdue)]
      rfl
    · rfl
  · intro hdue content hcontent
    rw [dueAccounts, if_pos (show AccountsDue t from hdue), fileAccounts, fileRecords, hcontent]
    exact insertLegacyAccounts_imports _ _ _ _

theorem migrateLegacyTransactions_imports (files : LegacyFiles) :
    Always (SqlAnswers fp faulty) (migrateLegacyTransactions fp files.transactionsTxt)
        ⟨t, rest⟩ fun _ s' =>
      ∃ lines, lines <+: dueTransactions fp files t ∧
        (faulty ∨ lines = dueTransactions fp files t) ∧
        s' = ⟨importTransactions t lines, rest⟩ := by
  apply always_migrateLegacy (n := t.transactions.rows.length) rfl
  · intro hf
    exact ⟨[], List.nil_prefix, .inl hf, rfl⟩
  · intro hnothing
    refine ⟨[], List.nil_prefix, .inr ?_, rfl⟩
    rw [dueTransactions]
    split
    · rename_i hdue
      rw [fileTransactions, hnothing.resolve_left (not_not.mpr hdue)]
      rfl
    · rfl
  · intro hdue content hcontent
    rw [dueTransactions, if_pos (show TransactionsDue t from hdue), fileTransactions, hcontent]
    exact insertLegacyTransactions_imports _ _

/-- How `db_open` ends: it answers 1 and has imported what was due, as far as
its calls went, or it answers 0 and has done nothing. -/
inductive OpenSettled (fp : Rounding) (faulty : Prop) (files : LegacyFiles) (startup : Startup)
    (t : Tables) : Bool → Store → Prop where
  | opened {t' : Tables} (hopened : startup.opened = .ok ())
      (h : Opens fp faulty files startup t t') :
      OpenSettled fp faulty files startup t true ⟨t', none⟩
  | failed (h : faulty ∨ startup.opened ≠ .ok ()) :
      OpenSettled fp faulty files startup t false ⟨t, none⟩

theorem dbOpen_settled (files : LegacyFiles) (startup : Startup) :
    Always (SqlAnswers fp faulty) (dbOpen fp files startup) ⟨t, none⟩
      (OpenSettled fp faulty files startup t) := by
  cases hopened : startup.opened with
  | error message =>
      simp only [dbOpen, hopened, always_bind, always_setError, always_pure]
      exact .failed (.inr (by simp [hopened]))
  | ok done =>
      simp only [dbOpen, hopened, always_bind, always_step, Statement.exec, always_setErrmsg,
        always_pure]
      refine ⟨fun hf => .failed (.inl hf), ?_⟩
      apply (migrateLegacyAccounts_imports files startup).mono
      rintro _ s' ⟨rows, hrows, hall, rfl⟩
      apply (migrateLegacyTransactions_imports files).mono
      rintro _ s'' ⟨lines, hlines, hevery, rfl⟩
      refine .opened hopened (.imported hrows hlines ?_)
      rcases hall with hf | hall
      · exact .inl hf
      · exact hevery.imp_right fun h => ⟨hall, h⟩

/-- What a start leaves: nothing new, or a database that has been opened, to
which an admin may have been added. -/
inductive Started (fp : Rounding) (faulty : Prop) (files : LegacyFiles) (startup : Startup)
    (t : Tables) : Tables → Prop where
  | refused (h : faulty ∨ startup.opened ≠ .ok ()) : Started fp faulty files startup t t
  | opened {t' : Tables} (h : Opens fp faulty files startup t t') :
      Started fp faulty files startup t t'
  | seeded {t' : Tables} (h : Opens fp faulty files startup t t') (row : Admin) :
      Started fp faulty files startup t (t'.insertAdmin row)

theorem startServer_started (files : LegacyFiles) (startup : Startup) :
    Always (SqlAnswers fp faulty) (startServer fp files startup) ⟨t, none⟩ fun _ s' =>
      ∃ t', s' = ⟨t', none⟩ ∧ Started fp faulty files startup t t' := by
  simp only [startServer, always_bind]
  apply (dbOpen_settled files startup).mono
  rintro opened s' hsettled
  cases hsettled with
  | failed h => exact ⟨t, rfl, .refused h⟩
  | opened hopened hopens =>
      apply (dbSeedAdmin_settled startup.env startup.adminUser startup.adminPass).mono
      rintro seeded s'' hseeded
      cases hseeded with
      | present => exact ⟨_, rfl, .opened hopens⟩
      | seeded => exact ⟨_, rfl, .seeded hopens _⟩
      | refused => exact ⟨_, rfl, .opened hopens⟩

variable {files : LegacyFiles} {startup : Startup} {t' : Tables}

/-- A `db_open` that answers 1 without failing calls has imported all that was
due. -/
theorem dbOpen_opens (hquiet : ¬ startup.env.Faulty)
    (hopen : ((dbOpen fp files startup).exec fp startup.env ⟨t, none⟩).1 = true) :
    Opens fp False files startup t
      ((dbOpen fp files startup).exec fp startup.env ⟨t, none⟩).2.tables := by
  have hsettled := exec_of_always fp startup.env _ _ (dbOpen_settled files startup (t := t))
  generalize (dbOpen fp files startup).exec fp startup.env ⟨t, none⟩ = outcome at hsettled hopen ⊢
  obtain ⟨answer, store⟩ := outcome
  cases hsettled with
  | failed => cases hopen
  | opened _ hopens =>
      rw [eq_false hquiet] at hopens
      exact hopens

/-- It answers 1 if SQLite opens the file and no call fails. -/
theorem dbOpen_answers (hquiet : ¬ startup.env.Faulty) (hopened : startup.opened = .ok ()) :
    ((dbOpen fp files startup).exec fp startup.env ⟨t, none⟩).1 = true := by
  have hsettled := exec_of_always fp startup.env _ _ (dbOpen_settled files startup (t := t))
  generalize (dbOpen fp files startup).exec fp startup.env ⟨t, none⟩ = outcome at hsettled ⊢
  obtain ⟨answer, store⟩ := outcome
  cases hsettled with
  | failed hfailed => exact absurd hopened (hfailed.resolve_left hquiet)
  | opened => rfl

/-- What a start imports; all that is due, unless something fails. -/
inductive Imports (fp : Rounding) (blocked : Prop) (files : LegacyFiles) (startup : Startup)
    (t t' : Tables) : Prop where
  | imported {rows : List Account} {lines : List LegacyTransaction}
      (hrows : rows <+: dueAccounts files startup t)
      (hlines : lines <+: dueTransactions fp files (importAccounts t rows))
      (hwhole : blocked ∨ rows = dueAccounts files startup t ∧
        lines = dueTransactions fp files (importAccounts t rows))
      (haccounts : t'.accounts = t.accounts.insertAll rows)
      (htransactions :
        t'.transactions = (importTransactions (importAccounts t rows) lines).transactions)

theorem Opens.imports (h : Opens fp faulty files startup t t') :
    Imports fp (faulty ∨ startup.opened ≠ .ok ()) files startup t t' := by
  cases h with
  | imported hrows hlines hwhole =>
      exact .imported hrows hlines (hwhole.imp_left .inl) (importTransactions_accounts _ _) rfl

theorem Started.imports (h : Started fp faulty files startup t t') :
    Imports fp (faulty ∨ startup.opened ≠ .ok ()) files startup t t' := by
  cases h with
  | refused h => exact .imported List.nil_prefix List.nil_prefix (.inl h) rfl rfl
  | opened h => exact h.imports
  | seeded h admin =>
      obtain ⟨hrows, hlines, hwhole, haccounts, htransactions⟩ := h.imports
      exact .imported hrows hlines hwhole haccounts htransactions

/-- An account that is there behind a start was there or stands in the file. -/
theorem Imports.account_origin {blocked : Prop} (h : Imports fp blocked files startup t t')
    {k : Int} {row : Account} (hfound : t'.accounts.lookup k = some row) :
    t.accounts.lookup k = some row ∨ row ∈ fileAccounts files startup := by
  obtain @⟨rows, -, hrows, -, -, haccounts, -⟩ := h
  rw [haccounts, KeyedTable.lookup_insertAll, Option.or_eq_some_iff] at hfound
  rcases hfound with hold | ⟨-, hnew⟩
  · exact .inl hold
  · have hdue := hrows.subset (List.mem_of_find?_eq_some hnew)
    rw [dueAccounts] at hdue
    split at hdue
    · exact .inr hdue
    · cases hdue

theorem Imports.account_kept {blocked : Prop} (h : Imports fp blocked files startup t t')
    {k : Int} {row : Account} (hrow : t.accounts.lookup k = some row) :
    t'.accounts.lookup k = some row := by
  obtain ⟨-, -, -, haccounts, -⟩ := h
  rw [haccounts, KeyedTable.lookup_insertAll, hrow, Option.some_or]

/-- A transaction that is there behind a start was there, or stands in the file
and is one of an account. -/
theorem Imports.transaction_origin {blocked : Prop} (h : Imports fp blocked files startup t t')
    {r : Transaction} (hr : r ∈ t'.transactions.rows) :
    (∃ old ∈ t.transactions.rows, ∃ n, r = { old with id := n }) ∨
      ∃ line ∈ fileTransactions fp files, (t'.accounts.lookup line.accountNo).isSome ∧
        ∃ n, r = legacyTransaction line n := by
  obtain @⟨rows, lines, -, hlines, -, haccounts, htransactions⟩ := h
  rw [htransactions] at hr
  rcases mem_importTransactions (importAccounts t rows) lines hr with hold | ⟨line, hmem, hline⟩
  · exact .inl hold
  · have hdue := hlines.subset hmem
    rw [dueTransactions] at hdue
    split at hdue
    · have haccepted := List.mem_takeWhile_imp hdue
      rw [decide_eq_true_eq, Accepted, importAccounts_accounts, ← haccounts] at haccepted
      exact .inr ⟨line, List.takeWhile_subset _ hdue, haccepted.1, hline⟩
    · cases hdue

/-- The server as a start leaves it, before the first connection. -/
def launched (fp : Rounding) (files : LegacyFiles) (startup : Startup) (t : Tables) :
    ServerState :=
  ⟨((startServer fp files startup).exec fp startup.env ⟨t, none⟩).2, Session.reset⟩

theorem launched_started (fp : Rounding) (files : LegacyFiles) (startup : Startup) (t : Tables) :
    (launched fp files startup t).store.saved = none ∧
      Started fp startup.env.Faulty files startup t
        (launched fp files startup t).store.tables := by
  obtain ⟨t', hstore, hstarted⟩ := exec_of_always fp startup.env _ ⟨t, none⟩
    (startServer_started files startup)
  rw [launched, hstore]
  exact ⟨rfl, hstarted⟩

end migrate

/-- A start without failing calls, on New Year's Day. -/
def plainStartup : Startup where
  opened := .ok ()
  stamps := fun _ => (7, ascii "2024-01-01 00:00:00")
  adminUser := some (ascii "root")
  adminPass := some (ascii "letmein99")
  env := { salt := 7, timestamp := ascii "2024-01-01 00:00:00", yearMonth := ascii "2024-01",
           stack := [], faults := [] }

/-- An accounts.dat with the account 7 of Ada and this balance. -/
def adaFile (balance : Bytes) : Bytes :=
  [7, 0, 0, 0] ++ ascii "Ada" ++ List.replicate 49 0 ++ [1, 0, 0, 0, 0, 0, 0, 0] ++ balance ++
    [0, 0, 0, 0]

theorem plainStartup_quiet : ¬ plainStartup.env.Faulty := by
  simp [plainStartup, Environment.Faulty]

end AtmSystem.Bank
