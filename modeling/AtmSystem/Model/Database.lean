import AtmSystem.Library.Program
import AtmSystem.Library.KeyedTable
import AtmSystem.Library.SerialTable
import AtmSystem.Model.Double
import AtmSystem.Model.Sha256

/-!
The SQLite database of `database.c`: its tables, the statements the server
issues, and the connection they run on. The `db_*` functions of the source are
programs over `SqlOp`, the calls they make into SQLite, so the same program
can be run with every statement succeeding or with any of them failing.

Of SQLite the model takes what its documentation promises: a statement takes
effect as a whole or not at all, PRIMARY KEY, NOT NULL and FOREIGN KEY
constraints are enforced when a statement runs, AUTOINCREMENT gives out
numbers in increasing order, binding NaN binds NULL, and a rollback restores
the contents at BEGIN.
-/

namespace AtmSystem.Model

open Library

/-! ### The schema -/

structure Account where
  accountNo : Int
  name : Bytes
  pinHash : Int64
  salt : Int64
  balance : Double
  failedAttempts : Int
  isLocked : Int
  createdAt : Bytes

/-- The texts the server writes into the column `type`. -/
inductive TransactionType where
  | deposit
  | withdraw
  | transferSent
  | transferReceived
  | adminCredit
  | adminDebit
  | legacy
  deriving DecidableEq

structure Transaction where
  id : Nat
  accountNo : Int
  relatedAccount : Option Int
  type : TransactionType
  amount : Double
  balanceAfter : Option Double
  createdAt : Bytes

structure Admin where
  username : Bytes
  passwordHash : Int64
  passwordSalt : Int64
  createdAt : Bytes

structure Tables where
  accounts : KeyedTable Account.accountNo
  transactions : SerialTable Transaction.id
  admins : KeyedTable Admin.username

/-- The tables as the schema of `db_open` creates them. -/
def Tables.empty : Tables := ⟨.empty, .empty, .empty⟩

namespace Tables

/-- Rewrite one account row, keeping its number. -/
def updateAccount (t : Tables) (accountNo : Int) (f : Account → Account)
    (hf : ∀ a, (f a).accountNo = a.accountNo) : Tables :=
  { t with accounts := t.accounts.modify accountNo f hf }

def setLoginState (t : Tables) (accountNo failedAttempts isLocked : Int) : Tables :=
  t.updateAccount accountNo
    (fun a => { a with failedAttempts := failedAttempts, isLocked := isLocked }) (fun _ => rfl)

def setBalance (t : Tables) (accountNo : Int) (balance : Double) : Tables :=
  t.updateAccount accountNo (fun a => { a with balance := balance }) (fun _ => rfl)

def setIdentity (t : Tables) (accountNo : Int) (name : Bytes) (pinHash salt : Int64) : Tables :=
  t.updateAccount accountNo
    (fun a => { a with name := name, pinHash := pinHash, salt := salt }) (fun _ => rfl)

def insertAccount (t : Tables) (row : Account) : Tables :=
  { t with accounts := t.accounts.insertNew row }

def deleteAccount (t : Tables) (accountNo : Int) : Tables :=
  { t with accounts := t.accounts.erase accountNo }

/-- Add a row under the next number. -/
def insertTransaction (t : Tables) (row : Nat → Transaction)
    (hrow : ∀ n, (row n).id = n) : Tables :=
  { t with transactions := t.transactions.append row hrow }

/-- Rewrite transaction rows, keeping their numbers. -/
def mapTransactions (t : Tables) (f : Transaction → Transaction)
    (hf : ∀ r, (f r).id = r.id) : Tables :=
  { t with transactions := t.transactions.map f hf }

def moveTransactions (t : Tables) (newAccountNo accountNo : Int) : Tables :=
  t.mapTransactions
    (fun r => if r.accountNo = accountNo then { r with accountNo := newAccountNo } else r)
    (fun r => by split <;> rfl)

def setRelated (t : Tables) (newRelated : Option Int) (related : Int) : Tables :=
  t.mapTransactions
    (fun r => if r.relatedAccount = some related
      then { r with relatedAccount := newRelated } else r)
    (fun r => by split <;> rfl)

def deleteTransactions (t : Tables) (accountNo : Int) : Tables :=
  { t with transactions := t.transactions.filter fun r => r.accountNo ≠ accountNo }

def insertAdmin (t : Tables) (row : Admin) : Tables :=
  { t with admins := t.admins.insertNew row }

def setAdminPassword (t : Tables) (username : Bytes)
    (passwordHash passwordSalt : Int64) : Tables :=
  { t with
    admins := t.admins.modify username
      (fun a => { a with passwordHash := passwordHash, passwordSalt := passwordSalt })
      (fun _ => rfl) }

/-! Each operation writes one table. -/

section frame

variable (t : Tables) (accountNo n failedAttempts isLocked : Int) (related : Option Int)
  (balance : Double) (name username : Bytes) (pinHash salt : Int64) (row : Account)
  (mk : Nat → Transaction) (hmk : ∀ n, (mk n).id = n)

@[simp] theorem setLoginState_transactions :
    (t.setLoginState accountNo failedAttempts isLocked).transactions = t.transactions := rfl

@[simp] theorem setLoginState_admins :
    (t.setLoginState accountNo failedAttempts isLocked).admins = t.admins := rfl

@[simp] theorem setBalance_transactions :
    (t.setBalance accountNo balance).transactions = t.transactions := rfl

@[simp] theorem setBalance_admins : (t.setBalance accountNo balance).admins = t.admins := rfl

@[simp] theorem setIdentity_transactions :
    (t.setIdentity accountNo name pinHash salt).transactions = t.transactions := rfl

@[simp] theorem setIdentity_admins :
    (t.setIdentity accountNo name pinHash salt).admins = t.admins := rfl

@[simp] theorem insertAccount_transactions :
    (t.insertAccount row).transactions = t.transactions := rfl

@[simp] theorem insertAccount_admins : (t.insertAccount row).admins = t.admins := rfl

@[simp] theorem deleteAccount_transactions :
    (t.deleteAccount accountNo).transactions = t.transactions := rfl

@[simp] theorem deleteAccount_admins : (t.deleteAccount accountNo).admins = t.admins := rfl

@[simp] theorem insertTransaction_accounts :
    (t.insertTransaction mk hmk).accounts = t.accounts := rfl

@[simp] theorem insertTransaction_admins : (t.insertTransaction mk hmk).admins = t.admins := rfl

@[simp] theorem insertTransaction_rows :
    (t.insertTransaction mk hmk).transactions.rows =
      t.transactions.rows ++ [mk (t.transactions.last + 1)] := rfl

@[simp] theorem moveTransactions_accounts :
    (t.moveTransactions n accountNo).accounts = t.accounts := rfl

@[simp] theorem moveTransactions_admins :
    (t.moveTransactions n accountNo).admins = t.admins := rfl

@[simp] theorem setRelated_accounts : (t.setRelated related accountNo).accounts = t.accounts := rfl

@[simp] theorem setRelated_admins : (t.setRelated related accountNo).admins = t.admins := rfl

@[simp] theorem deleteTransactions_accounts :
    (t.deleteTransactions accountNo).accounts = t.accounts := rfl

@[simp] theorem deleteTransactions_admins :
    (t.deleteTransactions accountNo).admins = t.admins := rfl

@[simp] theorem setAdminPassword_accounts :
    (t.setAdminPassword username pinHash salt).accounts = t.accounts := rfl

@[simp] theorem setAdminPassword_transactions :
    (t.setAdminPassword username pinHash salt).transactions = t.transactions := rfl

end frame

/-! Looking up an account behind each operation on accounts. -/

section lookup

variable (t : Tables) (accountNo k : Int)

@[simp] theorem lookup_setLoginState (failedAttempts isLocked : Int) :
    (t.setLoginState accountNo failedAttempts isLocked).accounts.lookup k =
      if k = accountNo then (t.accounts.lookup accountNo).map
        fun a => { a with failedAttempts := failedAttempts, isLocked := isLocked }
      else t.accounts.lookup k := by
  simp only [setLoginState, updateAccount, KeyedTable.lookup_modify]

theorem lookup_setLoginState_self {row : Account} (hrow : t.accounts.lookup accountNo = some row)
    (failedAttempts isLocked : Int) :
    (t.setLoginState accountNo failedAttempts isLocked).accounts.lookup accountNo =
      some { row with failedAttempts := failedAttempts, isLocked := isLocked } := by
  rw [lookup_setLoginState, if_pos rfl, hrow, Option.map_some]

theorem lookup_setLoginState_other (hk : k ≠ accountNo) (failedAttempts isLocked : Int) :
    (t.setLoginState accountNo failedAttempts isLocked).accounts.lookup k =
      t.accounts.lookup k := by
  rw [lookup_setLoginState, if_neg hk]

/-- A row behind a new login state is a row from before, but for that state. -/
theorem setLoginState_origin {failedAttempts isLocked : Int} {row' : Account}
    (h : (t.setLoginState accountNo failedAttempts isLocked).accounts.lookup k = some row') :
    ∃ row, t.accounts.lookup k = some row ∧
      (row' = row ∨ row' = { row with failedAttempts := failedAttempts, isLocked := isLocked }) := by
  rw [lookup_setLoginState] at h
  split at h
  · obtain ⟨row, hrow, hnew⟩ := Option.map_eq_some_iff.mp h
    exact ⟨row, ‹k = accountNo› ▸ hrow, .inr hnew.symm⟩
  · exact ⟨row', h, .inl rfl⟩

/-- A row lives on behind a new login state. -/
theorem setLoginState_fate {row : Account} (hrow : t.accounts.lookup k = some row)
    (failedAttempts isLocked : Int) :
    ∃ row', (t.setLoginState accountNo failedAttempts isLocked).accounts.lookup k = some row' ∧
      (k ≠ accountNo ∧ row' = row ∨
        k = accountNo ∧ row' = { row with failedAttempts := failedAttempts, isLocked := isLocked }) := by
  by_cases hk : k = accountNo
  · subst hk
    exact ⟨_, lookup_setLoginState_self t k hrow failedAttempts isLocked, .inr ⟨rfl, rfl⟩⟩
  · exact ⟨row, (lookup_setLoginState_other t accountNo k hk _ _).trans hrow, .inl ⟨hk, rfl⟩⟩

@[simp] theorem lookup_setBalance (balance : Double) :
    (t.setBalance accountNo balance).accounts.lookup k =
      if k = accountNo then (t.accounts.lookup accountNo).map
        fun a => { a with balance := balance }
      else t.accounts.lookup k := by
  simp only [setBalance, updateAccount, KeyedTable.lookup_modify]

@[simp] theorem lookup_setIdentity (name : Bytes) (pinHash salt : Int64) :
    (t.setIdentity accountNo name pinHash salt).accounts.lookup k =
      if k = accountNo then (t.accounts.lookup accountNo).map
        fun a => { a with name := name, pinHash := pinHash, salt := salt }
      else t.accounts.lookup k := by
  simp only [setIdentity, updateAccount, KeyedTable.lookup_modify]

theorem lookup_insertAccount (row : Account)
    (hnew : t.accounts.lookup row.accountNo = none) :
    (t.insertAccount row).accounts.lookup k =
      if k = row.accountNo then some row else t.accounts.lookup k :=
  KeyedTable.lookup_insertNew hnew k

@[simp] theorem lookup_deleteAccount :
    (t.deleteAccount accountNo).accounts.lookup k =
      if k = accountNo then none else t.accounts.lookup k := KeyedTable.lookup_erase ..

end lookup

end Tables

/-- `sqlite3_bind_double`: NaN is bound as NULL. -/
def bindDouble (x : Double) : Option Double := if x.isNaN then none else some x

@[simp] theorem bindDouble_eq_none {x : Double} : bindDouble x = none ↔ x = .nan := by
  cases x <;> simp [bindDouble, Double.isNaN]

theorem bindDouble_of_ne_nan {x : Double} (h : x ≠ .nan) : bindDouble x = some x := by
  cases x <;> first | exact absurd rfl h | rfl

/-! ### Statements -/

/-- The aggregates of `db_build_monthly_summary`. -/
structure MonthTotals where
  count : Nat
  deposits : Double
  withdrawals : Double
  transfersSent : Double
  transfersReceived : Double

/-- The aggregates of `db_build_system_summary`. -/
structure SystemTotals where
  totalAccounts : Nat
  lockedAccounts : Nat
  totalBalance : Double
  totalTransactions : Nat
  todaysTransactions : Nat
  totalAdmins : Nat

/-- The SQL statements of the server with their bound values. A statement
that returns rows is typed by what its caller reads from them. -/
inductive Statement : Type → Type 1 where
  | selectAccount (accountNo : Int) : Statement (Option Account)
  | updateLoginState (failedAttempts isLocked accountNo : Int) : Statement Unit
  | updateBalance (balance : Double) (accountNo : Int) : Statement Unit
  | updateIdentity (name : Bytes) (pinHash salt : Int64) (accountNo : Int) : Statement Unit
  | insertAccount (row : Account) : Statement Unit
  | deleteAccount (accountNo : Int) : Statement Unit
  | insertTransaction (accountNo : Int) (relatedAccount : Option Int)
      (type : TransactionType) (amount : Double) (balanceAfter : Option Double)
      (createdAt : Bytes) : Statement Unit
  | updateTransactionAccount (newAccountNo accountNo : Int) : Statement Unit
  | updateRelatedAccount (newRelated : Option Int) (related : Int) : Statement Unit
  | deleteTransactions (accountNo : Int) : Statement Unit
  | countAdmins : Statement Nat
  | insertAdmin (row : Admin) : Statement Unit
  | selectAdmin (username : Bytes) : Statement (Option Admin)
  /-- Answers `sqlite3_changes`. -/
  | updateAdminPassword (passwordHash passwordSalt : Int64) (username : Bytes) : Statement Nat
  | selectStatement (accountNo : Int) (limit : Nat) : Statement (List Transaction)
  | selectMonth (accountNo : Int) (month : Bytes) : Statement MonthTotals
  | selectAccounts : Statement (List Account)
  | selectSystem (today : Bytes) : Statement SystemTotals
  | selectTopAccount : Statement (Option Account)
  | selectRecent (limit : Nat) : Statement (List Transaction)
  /-- `schema_sql`, on a database that has the tables or has nothing. -/
  | createSchema : Statement Unit
  | countAccounts : Statement Nat
  | countTransactions : Statement Nat
  /-- `INSERT OR IGNORE INTO accounts ... VALUES (?, ?, ?, ?, 0, 0, 0, ?)`. -/
  | insertOrIgnoreAccount (accountNo : Int) (name : Bytes) (pinHash salt : Int64)
      (createdAt : Bytes) : Statement Unit

/-- `ORDER BY created_at DESC, id DESC`. -/
def newestFirst (rows : List Transaction) : List Transaction :=
  rows.insertionSort fun a b =>
    b.createdAt < a.createdAt ∨ (a.createdAt = b.createdAt ∧ b.id ≤ a.id)

/-- `ORDER BY account_no ASC`. -/
def byNumber (rows : List Account) : List Account :=
  rows.insertionSort fun a b => a.accountNo ≤ b.accountNo

/-- `ORDER BY balance DESC, account_no ASC`. -/
def richestFirst (rows : List Account) : List Account :=
  rows.insertionSort fun a b =>
    b.balance < a.balance ∨ (a.balance = b.balance ∧ a.accountNo ≤ b.accountNo)

section exec

variable (fp : Rounding)

/-- `COALESCE(SUM(...), 0)`. A sum over both infinities is NaN here; in SQLite it
is NULL and comes out as 0. -/
def sumDoubles (amounts : List Double) : Double := amounts.foldl (Double.add fp) 0

def sumOfType (rows : List Transaction) (type : TransactionType) : Double :=
  sumDoubles fp (rows.map fun t => if t.type = type then t.amount else 0)

/-- Run a statement. An error is a violated constraint and carries SQLite's
text for it; the tables are then as they were. -/
def Statement.exec : {β : Type} → Statement β → Tables → Except Bytes (β × Tables)
  | _, .selectAccount accountNo, t => .ok (t.accounts.lookup accountNo, t)
  | _, .updateLoginState failedAttempts isLocked accountNo, t =>
      .ok ((), t.setLoginState accountNo failedAttempts isLocked)
  | _, .updateBalance balance accountNo, t =>
      if (bindDouble balance).isNone ∧ (t.accounts.lookup accountNo).isSome then
        .error (ascii "NOT NULL constraint failed: accounts.balance")
      else .ok ((), t.setBalance accountNo balance)
  | _, .updateIdentity name pinHash salt accountNo, t =>
      .ok ((), t.setIdentity accountNo name pinHash salt)
  | _, .insertAccount row, t =>
      if (bindDouble row.balance).isNone then
        .error (ascii "NOT NULL constraint failed: accounts.balance")
      else if (t.accounts.lookup row.accountNo).isSome then
        .error (ascii "UNIQUE constraint failed: accounts.account_no")
      else .ok ((), t.insertAccount row)
  | _, .deleteAccount accountNo, t =>
      if (t.accounts.lookup accountNo).isSome ∧
          ∃ r ∈ t.transactions.rows, r.accountNo = accountNo then
        .error (ascii "FOREIGN KEY constraint failed")
      else .ok ((), t.deleteAccount accountNo)
  | _, .insertTransaction accountNo relatedAccount type amount balanceAfter createdAt, t =>
      if (bindDouble amount).isNone then
        .error (ascii "NOT NULL constraint failed: transactions.amount")
      else if (t.accounts.lookup accountNo).isNone then
        .error (ascii "FOREIGN KEY constraint failed")
      else
        .ok ((), t.insertTransaction
          (fun id => ⟨id, accountNo, relatedAccount, type, amount,
            balanceAfter.bind bindDouble, createdAt⟩) (fun _ => rfl))
  | _, .updateTransactionAccount newAccountNo accountNo, t =>
      if (t.accounts.lookup newAccountNo).isNone ∧
          ∃ r ∈ t.transactions.rows, r.accountNo = accountNo then
        .error (ascii "FOREIGN KEY constraint failed")
      else .ok ((), t.moveTransactions newAccountNo accountNo)
  | _, .updateRelatedAccount newRelated related, t =>
      .ok ((), t.setRelated newRelated related)
  | _, .deleteTransactions accountNo, t => .ok ((), t.deleteTransactions accountNo)
  | _, .countAdmins, t => .ok (t.admins.rows.length, t)
  | _, .insertAdmin row, t =>
      if (t.admins.lookup row.username).isSome then
        .error (ascii "UNIQUE constraint failed: admins.username")
      else .ok ((), t.insertAdmin row)
  | _, .selectAdmin username, t => .ok (t.admins.lookup username, t)
  | _, .updateAdminPassword passwordHash passwordSalt username, t =>
      .ok (if (t.admins.lookup username).isSome then 1 else 0,
        t.setAdminPassword username passwordHash passwordSalt)
  | _, .selectStatement accountNo limit, t =>
      let rows := t.transactions.rows.filter fun r => r.accountNo = accountNo
      .ok ((newestFirst rows).take limit, t)
  | _, .selectMonth accountNo month, t =>
      -- the index on account, time and id gives the rows with the newest first
      let rows := newestFirst (t.transactions.rows.filter fun r =>
        r.accountNo = accountNo ∧ r.createdAt.take 7 = month)
      .ok ({ count := rows.length
             deposits := sumOfType fp rows .deposit
             withdrawals := sumOfType fp rows .withdraw
             transfersSent := sumOfType fp rows .transferSent
             transfersReceived := sumOfType fp rows .transferReceived }, t)
  | _, .selectAccounts, t => .ok (byNumber t.accounts.rows, t)
  | _, .selectSystem today, t =>
      .ok ({ totalAccounts := t.accounts.rows.length
             lockedAccounts := (t.accounts.rows.filter fun a => a.isLocked = 1).length
             totalBalance := sumDoubles fp (t.accounts.rows.map Account.balance)
             totalTransactions := t.transactions.rows.length
             todaysTransactions :=
               (t.transactions.rows.filter fun r => r.createdAt.take 10 = today).length
             totalAdmins := t.admins.rows.length }, t)
  | _, .selectTopAccount, t => .ok ((richestFirst t.accounts.rows).head?, t)
  | _, .selectRecent limit, t => .ok ((newestFirst t.transactions.rows).take limit, t)
  | _, .createSchema, t => .ok ((), t)
  | _, .countAccounts, t => .ok (t.accounts.rows.length, t)
  | _, .countTransactions, t => .ok (t.transactions.rows.length, t)
  | _, .insertOrIgnoreAccount accountNo name pinHash salt createdAt, t =>
      .ok ((), t.insertAccount
        { accountNo := accountNo, name := name, pinHash := pinHash, salt := salt, balance := 0,
          failedAttempts := 0, isLocked := 0, createdAt := createdAt })

end exec

/-! ### The connection -/

/-- The contents of the database as the connection sees them, and while a
transaction is open the contents at its BEGIN. -/
structure Store where
  tables : Tables
  saved : Option Tables

/-- How a statement fails, as far as the source tells: it is not prepared, it
violates a constraint, or its step fails otherwise. -/
inductive ResultCode where
  | notPrepared
  | constraint
  | failure
  deriving DecidableEq

/-- The calls a `db_*` function makes: into SQLite, and into the error buffer
its caller handed it. -/
inductive SqlOp : Type → Type 1 where
  /-- `sqlite3_exec` of BEGIN IMMEDIATE or COMMIT; an error carries its text. -/
  | begin : SqlOp (Except Bytes Unit)
  | commit : SqlOp (Except Bytes Unit)
  | rollback : SqlOp Unit
  /-- `sqlite3_prepare_v2`: whether it returned SQLITE_OK. -/
  | prepare : SqlOp Bool
  /-- The first `sqlite3_step` of a statement. -/
  | step {β : Type} (statement : Statement β) : SqlOp (Except ResultCode β)
  /-- A later `sqlite3_step` of a query: whether it did not fail. -/
  | stepAgain : SqlOp Bool
  | errmsg : SqlOp Bytes
  | setError (text : Bytes) : SqlOp Unit
  | readError : SqlOp Bytes

abbrev Db := Program SqlOp

/-- What the process reads outside the database while it serves one request:
`generate_salt`, `current_timestamp`, `current_year_month`, the bytes that
happen to lie in the uninitialised error buffer, and for each SQL call in
order whether it fails and with which text. A call beyond the end of `faults`
does not fail. -/
structure Environment where
  salt : UInt64
  timestamp : Bytes
  yearMonth : Bytes
  stack : Bytes
  faults : List (Option Bytes)

/-- The state a request runs on. -/
structure World where
  store : Store
  errmsg : Bytes
  error : Bytes
  errorSet : Bool
  faults : List (Option Bytes)

def World.start (env : Environment) (store : Store) : World where
  store := store
  errmsg := ascii "not an error"
  error := env.stack
  errorSet := false
  faults := env.faults

namespace World

/-- A call that fails: it has no effect but its message. -/
def failed (w : World) (message : Bytes) : World :=
  { w with errmsg := message, faults := w.faults.tail }

/-- A call that succeeds and leaves the database as `store`. -/
def succeeded (w : World) (store : Store) : World :=
  { w with store := store, errmsg := ascii "not an error", faults := w.faults.tail }

/-- The fault, if any, that hits the next call. -/
def fault (w : World) : Option Bytes := w.faults.head?.join

end World

/-- How SQLite and the error buffer answer the calls. -/
def sqlite (fp : Rounding) : Program.Handler SqlOp World
  | _, .begin, w =>
      match w.fault, w.store.saved with
      | some message, _ => (.error message, w.failed message)
      | none, some _ =>
          let message := ascii "cannot start a transaction within a transaction"
          (.error message, w.failed message)
      | none, none => (.ok (), w.succeeded { w.store with saved := some w.store.tables })
  | _, .commit, w =>
      match w.fault, w.store.saved with
      | some message, _ => (.error message, w.failed message)
      | none, none =>
          let message := ascii "cannot commit - no transaction is active"
          (.error message, w.failed message)
      | none, some _ => (.ok (), w.succeeded { w.store with saved := none })
  | _, .rollback, w =>
      match w.store.saved with
      | none => ((), { w with errmsg := ascii "cannot rollback - no transaction is active" })
      | some tables =>
          ((), { w with store := ⟨tables, none⟩, errmsg := ascii "not an error" })
  | _, .prepare, w =>
      match w.fault with
      | some message => (false, w.failed message)
      | none => (true, w.succeeded w.store)
  | _, .step statement, w =>
      match w.fault, statement.exec fp w.store.tables with
      | some message, _ => (.error .failure, w.failed message)
      | none, .error message => (.error .constraint, w.failed message)
      | none, .ok (answer, tables) => (.ok answer, w.succeeded { w.store with tables := tables })
  | _, .stepAgain, w =>
      match w.fault with
      | some message => (false, w.failed message)
      | none => (true, w.succeeded w.store)
  | _, .errmsg, w => (w.errmsg, w)
  | _, .setError text, w => ((), { w with error := snprintf 256 text, errorSet := true })
  | _, .readError, w => (w.error, w)

/-- Run a `db_*` function on a connection. -/
def Db.exec {α : Type} (fp : Rounding) (env : Environment) (p : Db α) (store : Store) :
    α × Store :=
  let (answer, w) := p.run (sqlite fp) (World.start env store)
  (answer, w.store)

/-! ### Helpers of `database.c` -/

def setError (text : Bytes) : Db Unit := .call (.setError text)

/-- `set_error(error, error_size, "%s", sqlite3_errmsg(db->conn))`. -/
def setErrmsg : Db Unit := do
  setError (← .call .errmsg)

/-- Prepare a statement, bind its values, step it once and finalize it. -/
def execute {β : Type} (statement : Statement β) : Db (Except ResultCode β) := do
  if !(← .call .prepare) then
    return .error .notPrepared
  .call (.step statement)

/-- A statement whose failure is reported as SQLite words it. -/
def executeOrReport {β : Type} (statement : Statement β) : Db (Option β) := do
  match ← execute statement with
  | .ok answer => return some answer
  | .error _ => do
      setErrmsg
      return none

def dbBeginTransaction : Db Bool := do
  match ← .call .begin with
  | .ok () => return true
  | .error message => do
      setError message
      return false

def dbCommitTransaction : Db Bool := do
  match ← .call .commit with
  | .ok () => return true
  | .error message => do
      setError message
      return false

def dbRollbackTransaction : Db Unit := .call .rollback

/-- `sqlite3_column_int` of a count. -/
def columnInt (count : Nat) : Int := toInt32 count

structure AccountInfo where
  accountNo : Int
  name : Bytes
  balance : Double
  isLocked : Int
  failedAttempts : Int

/-- What `db_read_account` copies out of a row. -/
def Account.info (row : Account) (accountNo : Int) : AccountInfo where
  accountNo := accountNo
  name := snprintf 64 row.name
  balance := row.balance
  isLocked := row.isLocked
  failedAttempts := row.failedAttempts

@[simp] theorem Account.info_balance (row : Account) (accountNo : Int) :
    (row.info accountNo).balance = row.balance := rfl

@[simp] theorem Account.info_isLocked (row : Account) (accountNo : Int) :
    (row.info accountNo).isLocked = row.isLocked := rfl

@[simp] theorem Account.info_failedAttempts (row : Account) (accountNo : Int) :
    (row.info accountNo).failedAttempts = row.failedAttempts := rfl

/-- The three ways `db_read_account` ends: it returns 0, it returns 1 with
`found` 0, or it returns 1 with `found` 1. -/
inductive Lookup (α : Type) where
  | failed
  | notFound
  | found (a : α)

/-- `db_read_account`, with the row's `pin_hash` and `salt` read back as
`unsigned long long`. -/
def dbReadAccount (accountNo : Int) : Db (Lookup (AccountInfo × UInt64 × UInt64)) := do
  match ← executeOrReport (.selectAccount accountNo) with
  | none => return .failed
  | some none => return .notFound
  | some (some row) =>
      return .found (row.info accountNo, row.pinHash.toUInt64, row.salt.toUInt64)

def dbUpdateLoginState (accountNo failedAttempts isLocked : Int) : Db Bool := do
  return (← executeOrReport (.updateLoginState failedAttempts isLocked accountNo)).isSome

def dbUpdateBalance (accountNo : Int) (balance : Double) : Db Bool := do
  return (← executeOrReport (.updateBalance balance accountNo)).isSome

def dbInsertTransaction (accountNo : Int) (relatedAccount : Option Int)
    (type : TransactionType) (amount : Double) (balanceAfter : Option Double)
    (timestamp : Bytes) : Db Bool := do
  return (← executeOrReport
    (.insertTransaction accountNo relatedAccount type amount balanceAfter timestamp)).isSome

end AtmSystem.Model
