import AtmSystem.Model.Auth

/-!
The operations of `account.c` that write: the six money operations, locking
and unlocking, editing and deleting an account. Each runs its statements in
the order of the source; every early return rolls back where the source does.
-/

namespace AtmSystem.Model

variable (fp : Rounding) (env : Environment)

/-- `set_error` behind a rollback. -/
def rollbackWith (message : Bytes) : Db Unit := do
  dbRollbackTransaction
  setError message

/-- A statement inside a transaction: on failure roll back, and report what
`sqlite3_errmsg` then says. -/
def executeOrRollback (statement : Statement β) : Db (Option β) := do
  match ← execute statement with
  | .ok answer => return some answer
  | .error _ => do
      dbRollbackTransaction
      setErrmsg
      return none

def applyBalanceTransaction (accountNo : Int) (amount : Double) (isCredit : Bool)
    (transactionType : TransactionType) : Db (Option Double) := do
  if amount ≤ 0 then
    setError (ascii "Amount must be greater than zero.")
    return none
  if !(← dbBeginTransaction) then
    return none
  match ← dbReadAccount accountNo with
  | .failed | .notFound => do
      rollbackWith (ascii "Account not found.")
      return none
  | .found (info, _, _) =>
    if !isCredit ∧ info.balance < amount then
      rollbackWith (ascii "Insufficient balance.")
      return none
    let updatedBalance := if isCredit then info.balance.add fp amount
      else info.balance.sub fp amount
    if !(← dbUpdateBalance accountNo updatedBalance) then
      dbRollbackTransaction
      return none
    if !(← dbInsertTransaction accountNo none transactionType amount
        (some updatedBalance) env.timestamp) then
      dbRollbackTransaction
      return none
    if !(← dbCommitTransaction) then
      dbRollbackTransaction
      return none
    return some updatedBalance

def dbGetBalance (accountNo : Int) : Db (Option Double) := do
  match ← dbReadAccount accountNo with
  | .failed => return none
  | .notFound => do
      setError (ascii "Account not found.")
      return none
  | .found (info, _, _) => return some info.balance

/-- `db_deposit`, `db_withdraw`, `db_admin_credit` and `db_admin_debit`, which
differ in the text of one error and in what they hand on. -/
def checkedBalanceTransaction (notPositive : Bytes) (accountNo : Int) (amount : Double)
    (isCredit : Bool) (transactionType : TransactionType) : Db (Option Double) := do
  if amount ≤ 0 then
    setError notPositive
    return none
  applyBalanceTransaction fp env accountNo amount isCredit transactionType

def dbDeposit (accountNo : Int) (amount : Double) : Db (Option Double) :=
  checkedBalanceTransaction fp env (ascii "Deposit amount must be greater than zero.")
    accountNo amount true .deposit

def dbWithdraw (accountNo : Int) (amount : Double) : Db (Option Double) :=
  checkedBalanceTransaction fp env (ascii "Withdrawal amount must be greater than zero.")
    accountNo amount false .withdraw

def dbAdminCredit (accountNo : Int) (amount : Double) : Db (Option Double) :=
  checkedBalanceTransaction fp env (ascii "Credit amount must be greater than zero.")
    accountNo amount true .adminCredit

def dbAdminDebit (accountNo : Int) (amount : Double) : Db (Option Double) :=
  checkedBalanceTransaction fp env (ascii "Debit amount must be greater than zero.")
    accountNo amount false .adminDebit

def dbTransfer (fromAccount toAccount : Int) (amount : Double) : Db (Option Double) := do
  if toAccount ≤ 0 ∨ toAccount = fromAccount then
    setError (ascii "Receiver account number must be different from your own.")
    return none
  if amount ≤ 0 then
    setError (ascii "Transfer amount must be greater than zero.")
    return none
  if !(← dbBeginTransaction) then
    return none
  match ← dbReadAccount fromAccount with
  | .failed | .notFound => do
      rollbackWith (ascii "Sender account not found.")
      return none
  | .found (sender, _, _) =>
  match ← dbReadAccount toAccount with
  | .failed | .notFound => do
      rollbackWith (ascii "Receiver account not found.")
      return none
  | .found (receiver, _, _) =>
    if sender.balance < amount then
      rollbackWith (ascii "Insufficient balance.")
      return none
    let senderBalance := sender.balance.sub fp amount
    let receiverBalance := receiver.balance.add fp amount
    if !(← dbUpdateBalance fromAccount senderBalance) then
      dbRollbackTransaction
      return none
    if !(← dbUpdateBalance toAccount receiverBalance) then
      dbRollbackTransaction
      return none
    if !(← dbInsertTransaction fromAccount (some toAccount) .transferSent amount
        (some senderBalance) env.timestamp) then
      dbRollbackTransaction
      return none
    if !(← dbInsertTransaction toAccount (some fromAccount) .transferReceived amount
        (some receiverBalance) env.timestamp) then
      dbRollbackTransaction
      return none
    if !(← dbCommitTransaction) then
      dbRollbackTransaction
      return none
    return some senderBalance

/-- `db_lock_account` and `db_unlock_account`, which differ in the two values
they store. -/
def dbSetLock (accountNo failedAttempts isLocked : Int) : Db Bool := do
  if accountNo ≤ 0 then
    setError (ascii "Account number must be positive.")
    return false
  match ← dbReadAccount accountNo with
  | .failed => return false
  | .notFound => do
      setError (ascii "Account not found.")
      return false
  | .found _ =>
    return (← executeOrReport
      (.updateLoginState failedAttempts isLocked accountNo)).isSome

def dbLockAccount (accountNo : Int) : Db Bool := dbSetLock accountNo 3 1

def dbUnlockAccount (accountNo : Int) : Db Bool := dbSetLock accountNo 0 0

/-- The branch of `db_edit_account` that renumbers: insert the new row, move
the history and the references to it, delete the old row. -/
def renumberAccount (currentAccountNo newAccountNo : Int) (row : Account) : Db Bool := do
  match ← execute (.insertAccount row) with
  | .error code => do
      dbRollbackTransaction
      match code with
      | .constraint => setError (ascii "New account number already exists.")
      | _ => setErrmsg
      return false
  | .ok () =>
  if (← executeOrRollback
      (.updateTransactionAccount newAccountNo currentAccountNo)).isNone then
    return false
  if (← executeOrRollback
      (.updateRelatedAccount (some newAccountNo) currentAccountNo)).isNone then
    return false
  return (← executeOrRollback (.deleteAccount currentAccountNo)).isSome

def dbEditAccount (currentAccountNo newAccountNo : Int) (newName : Bytes) (newPin : Int) :
    Db Bool := do
  if currentAccountNo ≤ 0 ∨ newAccountNo ≤ 0 then
    setError (ascii "Account number must be positive.")
    return false
  let trimmedName := trimWhitespace (snprintf 64 newName)
  if trimmedName = [] then
    setError (ascii "Account name is required.")
    return false
  if newPin < 1000 ∨ 9999 < newPin then
    setError (ascii "PIN must be a 4-digit number.")
    return false
  if !(← dbBeginTransaction) then
    return false
  match ← execute (.selectAccount currentAccountNo) with
  | .error .notPrepared => do
      dbRollbackTransaction
      setErrmsg
      return false
  | .error _ | .ok none => do
      rollbackWith (ascii "Account not found.")
      return false
  | .ok (some row) =>
    let newSalt := env.salt
    let pinHash := pinDigest newSalt newPin
    let stored ←
      if currentAccountNo = newAccountNo then do
        pure (← executeOrRollback (.updateIdentity trimmedName pinHash.toInt64
          newSalt.toInt64 currentAccountNo)).isSome
      else
        renumberAccount currentAccountNo newAccountNo
          { accountNo := newAccountNo, name := trimmedName, pinHash := pinHash.toInt64,
            salt := newSalt.toInt64, balance := row.balance,
            failedAttempts := row.failedAttempts, isLocked := row.isLocked,
            createdAt := snprintf 32 row.createdAt }
    if !stored then
      return false
    if !(← dbCommitTransaction) then
      dbRollbackTransaction
      return false
    return true

def dbDeleteAccount (accountNo : Int) : Db Bool := do
  if accountNo ≤ 0 then
    setError (ascii "Account number must be positive.")
    return false
  match ← dbReadAccount accountNo with
  | .failed => return false
  | .notFound => do
      setError (ascii "Account not found.")
      return false
  | .found (info, _, _) =>
    if info.balance ≠ 0 then
      setError (ascii "Account balance must be zero before deletion.")
      return false
    if !(← dbBeginTransaction) then
      return false
    if (← executeOrRollback (.updateRelatedAccount none accountNo)).isNone then
      return false
    if (← executeOrRollback (.deleteTransactions accountNo)).isNone then
      return false
    if (← executeOrRollback (.deleteAccount accountNo)).isNone then
      return false
    if !(← dbCommitTransaction) then
      dbRollbackTransaction
      return false
    return true

end AtmSystem.Model
