import AtmSystem.Safety.Counterparts
import AtmSystem.Safety.Crashes
import AtmSystem.Safety.Ledger
import AtmSystem.Safety.Lockout

/-!
The books over the whole life of a database: the migration of old files, starts,
requests, failing calls and deaths, in any order. The lines of an old file are
rows that show no balance, and an account from an old file starts at 0; so it is
the rows that show one which add up to the balance of their account.
-/

namespace AtmSystem.Bank

open Library Program Model

/-! ### The rows that show a balance -/

/-- The tables without the transactions that come from an old file. -/
def native (t : Tables) : Tables :=
  { t with transactions := t.transactions.filter fun r => r.balanceAfter.isSome }

@[simp] theorem native_accounts (t : Tables) : (native t).accounts = t.accounts := rfl

theorem native_book (t : Tables) (accountNo : Int) (relatedAccount : Option Int)
    (type : TransactionType) (amount newBalance : Double) (createdAt : Bytes) :
    native (book t accountNo relatedAccount type amount newBalance createdAt) =
      book (native t) accountNo relatedAccount type amount newBalance createdAt :=
  congrArg (fun transactions => { t.setBalance accountNo newBalance with transactions })
    (t.transactions.filter_append _ fun _ => rfl)

theorem native_mapTransactions (t : Tables) {f : Transaction → Transaction}
    (hid : ∀ r, (f r).id = r.id) (hf : ∀ r, (f r).balanceAfter = r.balanceAfter) :
    native (t.mapTransactions f hid) = (native t).mapTransactions f hid :=
  congrArg (fun transactions => { t with transactions })
    (t.transactions.filter_map hid fun r => by rw [hf])

theorem native_setRelated (t : Tables) (newRelated : Option Int) (related : Int) :
    native (t.setRelated newRelated related) = (native t).setRelated newRelated related := by
  refine native_mapTransactions t _ fun r => ?_
  split <;> rfl

theorem native_moveTransactions (t : Tables) (newAccountNo accountNo : Int) :
    native (t.moveTransactions newAccountNo accountNo) =
      (native t).moveTransactions newAccountNo accountNo := by
  refine native_mapTransactions t _ fun r => ?_
  split <;> rfl

theorem native_deleteTransactions (t : Tables) (accountNo : Int) :
    native (t.deleteTransactions accountNo) = (native t).deleteTransactions accountNo :=
  congrArg (fun transactions => { t with transactions }) (t.transactions.filter_comm _ _)

theorem native_renumber (t : Tables) (accountNo newAccountNo : Int) (row : Account) :
    native (renumber t accountNo newAccountNo row) =
      renumber (native t) accountNo newAccountNo row := by
  have hinsert : (native t).insertAccount row = native (t.insertAccount row) := rfl
  rw [renumber, renumber, hinsert, ← native_moveTransactions, ← native_setRelated]
  rfl

theorem native_close (t : Tables) (accountNo : Int) :
    native (close t accountNo) = close (native t) accountNo := by
  rw [close, close, ← native_setRelated, ← native_deleteTransactions]
  rfl

/-- What an action does to the rows that show a balance does not depend on the
other ones. -/
theorem performs_native {fp : Rounding} {a : Action} {t t' : Tables} (ha : a.Performs fp t t') :
    a.Performs fp (native t) (native t') := by
  cases ha with
  | create hpositive hpin hname hnew => exact .create hpositive hpin hname hnew
  | move hrow hamount hfunds hnumber =>
      rw [native_book]
      exact .move hrow hamount hfunds hnumber
  | transfer hpositive hdistinct hsource htarget hamount hfunds hsent hreceived =>
      rw [native_book, native_book]
      exact .transfer hpositive hdistinct hsource htarget hamount hfunds hsent hreceived
  | lock hpositive hrow => exact .lock hpositive hrow
  | unlock hpositive hrow => exact .unlock hpositive hrow
  | rename hpositive hname hpin hrow => exact .rename hpositive hname hpin hrow
  | renumber hpositive hnewPositive hname hpin hdistinct hrow hnew hnumber =>
      rw [native_renumber]
      exact .renumber hpositive hnewPositive hname hpin hdistinct hrow hnew hnumber
  | delete hpositive hrow hempty =>
      rw [native_close]
      exact .delete hpositive hrow hempty
  | changePassword huser hlength hrow => exact .changePassword huser hlength hrow

/-- The rows of an account that show a balance, in the order of their ids. -/
def shown (t : Tables) (accountNo : Int) : List Transaction :=
  (entries t accountNo).filter fun r => r.balanceAfter.isSome

theorem entries_native (t : Tables) (accountNo : Int) :
    entries (native t) accountNo = shown t accountNo := by
  simp only [entries, shown, native, SerialTable.filter_rows, List.filter_filter, Bool.and_comm]

/-! ### A migration -/

section imports

variable {fp : Rounding} {blocked : Prop} {files : LegacyFiles} {startup : Startup}
  {t t' : Tables}

/-- A new account of a start comes from the file, with balance 0 and unlocked. -/
theorem mem_fileAccounts {row : Account} (h : row ∈ fileAccounts files startup) :
    ∃ record stamp, row = legacyAccount record stamp := by
  rw [fileAccounts] at h
  generalize fileRecords files = records at h
  generalize 0 = i at h
  induction records generalizing i with
  | nil => cases h
  | cons record rest ih =>
      rcases List.mem_cons.mp h with rfl | hlater
      · exact ⟨record, _, rfl⟩
      · exact ih _ hlater

/-- A line of an old file is a row that shows no balance. -/
theorem importTransactions_native (t : Tables) (lines : List LegacyTransaction) :
    (native (importTransactions t lines)).transactions.rows = (native t).transactions.rows := by
  induction lines generalizing t with
  | nil => rfl
  | cons line rest ih =>
      rw [importTransactions_cons, ih]
      simp [native, legacyTransaction]

/-- The rows of a migration stand behind those that were there, and name no
other account. -/
theorem exists_imported (t : Tables) (lines : List LegacyTransaction) :
    ∃ new, (importTransactions t lines).transactions.rows = t.transactions.rows ++ new ∧
      ∀ r ∈ new, r.relatedAccount = none := by
  induction lines generalizing t with
  | nil => exact ⟨[], (List.append_nil _).symm, List.forall_mem_nil _⟩
  | cons line rest ih =>
      obtain ⟨new, hrows, hnone⟩ := ih (t.insertTransaction _ (legacyTransaction_id line))
      refine ⟨legacyTransaction line (t.transactions.last + 1) :: new, ?_, ?_⟩
      · rw [importTransactions_cons, hrows, Tables.insertTransaction_rows, List.append_assoc,
          List.singleton_append]
      · rw [List.forall_mem_cons]
        exact ⟨rfl, hnone⟩

theorem Imports.exists_new (h : Imports fp blocked files startup t t') :
    ∃ new, t'.transactions.rows = t.transactions.rows ++ new ∧
      ∀ r ∈ new, r.relatedAccount = none := by
  obtain @⟨rows, lines, -, -, -, -, htransactions⟩ := h
  rw [htransactions]
  exact exists_imported (importAccounts t rows) lines

theorem Imports.native_rows (h : Imports fp blocked files startup t t') :
    (native t').transactions.rows = (native t).transactions.rows := by
  obtain @⟨rows, lines, -, -, -, -, htransactions⟩ := h
  have hnative : (native t').transactions =
      (native (importTransactions (importAccounts t rows) lines)).transactions :=
    congrArg (fun transactions => transactions.filter fun r => r.balanceAfter.isSome) htransactions
  rw [hnative, importTransactions_native]
  rfl

theorem Imports.accounts_kept (h : Imports fp blocked files startup t t') (k : Int)
    (hk : (t.accounts.lookup k).isSome) : (t'.accounts.lookup k).isSome := by
  obtain ⟨row, hrow⟩ := Option.isSome_iff_exists.mp hk
  rw [h.account_kept hrow]
  rfl

/-- A row that was not there before is one of a new account. -/
theorem Imports.new_or_kept (h : Imports fp blocked files startup t t') {k : Int} {row : Account}
    (hrow : t'.accounts.lookup k = some row) :
    t.accounts.lookup k = some row ∨
      t.accounts.lookup k = none ∧ ∃ record stamp, row = legacyAccount record stamp := by
  cases hold : t.accounts.lookup k with
  | some old =>
      left
      rw [← hrow, h.account_kept hold]
  | none =>
      right
      rcases h.account_origin hrow with hbefore | hfile
      · rw [hold] at hbefore
        cases hbefore
      · exact ⟨rfl, mem_fileAccounts hfile⟩

theorem Books.imports (hbooks : Books (native t)) (h : Imports fp blocked files startup t t') :
    Books (native t') := by
  have hsame (k : Int) : entries (native t') k = entries (native t) k := by
    rw [entries, entries, h.native_rows]
  refine ⟨hbooks.keys.of_rows h.native_rows h.accounts_kept, ?_⟩
  intro k row hrow
  rw [hsame]
  rcases h.new_or_kept hrow with hold | ⟨hnew, record, stamp, rfl⟩
  · exact hbooks.balanced k row hold
  · rw [hbooks.keys.entries_eq_nil hnew]
    exact .empty

end imports

/-! ### The whole life -/

/-- Every transaction has its account and every row of a transfer its other
side; no lock contradicts its counter. -/
structure InOrder (t : Tables) : Prop where
  keys : ForeignKeys t
  doubleEntry : DoubleEntry t
  locks : ValidLocks t

namespace InOrder

theorem empty : InOrder Tables.empty where
  keys := ⟨fun r hr => (by cases hr)⟩
  doubleEntry := ⟨fun r hr => (by cases hr), fun r hr => (by cases hr)⟩
  locks := fun k row hrow => (by cases hrow)

variable {fp : Rounding} {t t' : Tables}

theorem turn {env : Environment} {session session' : Session} {c : Command} {response : Response}
    (hturn : Turn fp env session t c response session' t') (h : InOrder t) : InOrder t' := by
  have hrows : ForeignKeys t' ∧ DoubleEntry t' := by
    refine hturn.tables (fun t => ForeignKeys t ∧ DoubleEntry t) ?_ ?_ ⟨h.keys, h.doubleEntry⟩
    · intro accountNo failedAttempts isLocked hrows
      exact ⟨hrows.1.setLoginState .., hrows.2.setLoginState ..⟩
    · intro a hintended hperforms hrows
      exact ⟨hrows.1.performs hperforms, hrows.2.performs hperforms hrows.1⟩
  exact ⟨hrows.1, hrows.2, h.locks.turn hturn⟩

theorem imports {blocked : Prop} {files : LegacyFiles} {startup : Startup}
    (himports : Imports fp blocked files startup t t') (h : InOrder t) : InOrder t' := by
  constructor
  · constructor
    intro r hr
    apply Option.isSome_iff_exists.mp
    rcases himports.transaction_origin hr with ⟨old, hold, n, rfl⟩ | ⟨line, -, hline, n, rfl⟩
    · obtain ⟨row, hrow⟩ := h.keys.account old hold
      exact himports.accounts_kept _ (by rw [hrow]; rfl)
    · exact hline
  · obtain ⟨new, hrows, hnone⟩ := himports.exists_new
    have hold {r : Transaction} (hr : r ∈ t'.transactions.rows) (hsome : r.relatedAccount.isSome) :
        r ∈ t.transactions.rows := by
      rw [hrows, List.mem_append] at hr
      apply hr.resolve_right
      intro hnew
      rw [hnone r hnew] at hsome
      cases hsome
    constructor
    · intro r hr other hother
      obtain ⟨hother', hne⟩ := h.doubleEntry.related r (hold hr (by rw [hother]; rfl)) other hother
      exact ⟨himports.accounts_kept other hother', hne⟩
    · intro r hr hsome
      rw [hrows]
      exact (h.doubleEntry.pair (hold hr hsome) hsome).mono (List.subset_append_left _ _)
  · intro k row hrow
    rcases himports.new_or_kept hrow with hold | ⟨-, record, stamp, rfl⟩
    · exact h.locks k row hold
    · exact .cleared

end InOrder

/-- The tables of a database are in order from its first day on, whatever old
files its starts migrate, whichever calls fail and wherever the server dies. -/
theorem inOrder_survives (fp : Rounding) (files : LegacyFiles) (happenings : List Happening) :
    InOrder (survived fp files (offline Tables.empty) happenings).tables := by
  have hall : ∀ happening ∈ happenings, happening.event.Allowed fun _ => True := by
    intro happening _
    cases happening.event with
    | start startup => trivial
    | client event => cases event <;> trivial
  refine survived_tables InOrder ?_ ?_ (fun _ _ _ => trivial) hall .empty
  · intro startup blocked t t' himports h
    exact h.imports himports
  · intro message session response session' t t' _ hturn h
    exact h.turn hturn

theorem native_turn {message : Message} {session session' : Session} {response : Response}
    {t t' : Tables} (hmessage : FiniteAmount .exact message)
    (hturn : Turn .exact message.env session t (requested .exact message) response session' t')
    (h : Books (native t)) : Books (native t') := by
  refine hturn.tables (fun t => Books (native t)) ?_ ?_ h
  · intro accountNo failedAttempts isLocked hbooks
    exact hbooks.setLoginState ..
  · intro a hintended hperforms hbooks
    exact hbooks.performs (performs_native hperforms) (hmessage.action hintended)

/-- In exact arithmetic, and as long as the amounts requested are finite, the
rows of an account that show a balance are positive, each shows the sum of the
changes up to it, and the balance is the sum of them all: whatever old files
were migrated, whichever calls failed and wherever the server died. -/
theorem balances_survive (files : LegacyFiles) {happenings : List Happening}
    (hfinite : ∀ happening ∈ happenings, happening.event.Allowed (FiniteAmount .exact)) :
    let t := (survived .exact files (offline Tables.empty) happenings).tables
    ∀ row ∈ t.accounts.rows,
      (∀ r ∈ shown t row.accountNo, 0 < r.amount) ∧
      (∀ before r rest, shown t row.accountNo = before ++ r :: rest →
        r.balanceAfter = some (.fin ((before ++ [r]).map signedAmount).sum)) ∧
      row.balance = .fin ((shown t row.accountNo).map signedAmount).sum := by
  intro t row hrow
  have hbooks : Books (native t) := by
    refine survived_tables (fun t => Books (native t)) ?_ ?_ (fun _ _ h => h) hfinite
      ⟨InOrder.empty.keys, fun k row hrow => (by cases hrow)⟩
    · intro startup blocked t t' himports h
      exact h.imports himports
    · intro message session response session' t t' hmessage hturn h
      exact native_turn hmessage hturn h
  have hbalanced := hbooks.balanced row.accountNo row (KeyedTable.lookup_of_mem hrow)
  rw [entries_native] at hbalanced
  refine ⟨?_, hbalanced.running, hbalanced.total⟩
  intro r hr
  obtain ⟨q, hq, hamount⟩ := hbalanced.positive r hr
  rw [hamount]
  exact Double.fin_lt_fin.mpr hq

/-- The server dies in the middle of a deposit, and again when it is started;
then it is started once more. -/
def hardDay : List Happening :=
  [.lives (.start plainStartup), .lives (.client .connect),
    .lives (.client (.request (plain "CREATE_ACCOUNT\n8\nBob\n5678"))),
    .lives (.client (.request (plain "LOGIN\n8\n5678"))),
    .lives (.client (.request (plain "DEPOSIT\n100"))),
    .dies (.client (.request (plain "DEPOSIT\n50"))) 6,
    .dies (.start plainStartup) 3, .lives (.start plainStartup)]

theorem balances_survive_hardDay :
    let t := (survived .exact adaOnly (offline Tables.empty) hardDay).tables
    t.accounts.rows.map Account.balance = [0, .fin 100] ∧
      ∀ row ∈ t.accounts.rows,
        row.balance = .fin ((shown t row.accountNo).map signedAmount).sum := by
  refine ⟨by decide +kernel, ?_⟩
  intro row hrow
  exact (balances_survive adaOnly (by decide +kernel) row hrow).2.2

end AtmSystem.Bank
