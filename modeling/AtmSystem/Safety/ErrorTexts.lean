import AtmSystem.Semantics.ErrorBuffer

/-!
No answer is built from an error buffer that nobody has written. Each function
behind a command has called `set_error` before it returns 0, itself or through
the helper that failed, whichever calls into SQLite fail; so `handle_request`
reads the buffer only after it has been written in the same request.
-/

namespace AtmSystem.Bank

open Library Program Model

/-- Whether a function with an output parameter returns 1. -/
def succeeds {α : Type} (p : Db (Option α)) : Db Bool := do
  return (← p).isSome

/-- The functions that `handle_request` calls, with their arguments. -/
inductive DbCall where
  | createAccount (accountNo : Int) (name : Bytes) (pin : Int)
  | login (accountNo pin : Int)
  | adminLogin (username password : Bytes)
  | getBalance (accountNo : Int)
  | deposit (accountNo : Int) (amount : Double)
  | withdraw (accountNo : Int) (amount : Double)
  | adminCredit (accountNo : Int) (amount : Double)
  | adminDebit (accountNo : Int) (amount : Double)
  | transfer (fromAccount toAccount : Int) (amount : Double)
  | miniStatement (accountNo : Int)
  | monthlySummary (accountNo : Int) (month : Bytes)
  | accountListing
  | accountDetails (accountNo : Int)
  | systemSummary
  | recentTransactions (limit : Int)
  | lockAccount (accountNo : Int)
  | unlockAccount (accountNo : Int)
  | editAccount (accountNo newAccountNo : Int) (name : Bytes) (pin : Int)
  | deleteAccount (accountNo : Int)
  | changeAdminPassword (username newPassword : Bytes)

/-- Whether the function returns 1. -/
def DbCall.returns (fp : Rounding) (env : Environment) : DbCall → Db Bool
  | .createAccount accountNo name pin => dbCreateAccount env accountNo name pin
  | .login accountNo pin => succeeds (dbLogin accountNo pin)
  | .adminLogin username password => dbAdminLogin username password
  | .getBalance accountNo => succeeds (dbGetBalance accountNo)
  | .deposit accountNo amount => succeeds (dbDeposit fp env accountNo amount)
  | .withdraw accountNo amount => succeeds (dbWithdraw fp env accountNo amount)
  | .adminCredit accountNo amount => succeeds (dbAdminCredit fp env accountNo amount)
  | .adminDebit accountNo amount => succeeds (dbAdminDebit fp env accountNo amount)
  | .transfer fromAccount toAccount amount =>
      succeeds (dbTransfer fp env fromAccount toAccount amount)
  | .miniStatement accountNo => succeeds (dbBuildMiniStatement accountNo)
  | .monthlySummary accountNo month => succeeds (dbBuildMonthlySummary fp env accountNo month)
  | .accountListing => succeeds dbBuildAccountListing
  | .accountDetails accountNo => succeeds (dbBuildAccountDetails accountNo)
  | .systemSummary => succeeds (dbBuildSystemSummary env)
  | .recentTransactions limit => succeeds (dbBuildRecentTransactions limit)
  | .lockAccount accountNo => dbLockAccount accountNo
  | .unlockAccount accountNo => dbUnlockAccount accountNo
  | .editAccount accountNo newAccountNo name pin =>
      dbEditAccount env accountNo newAccountNo name pin
  | .deleteAccount accountNo => dbDeleteAccount accountNo
  | .changeAdminPassword username newPassword => dbChangeAdminPassword env username newPassword

/-- Whenever the program refuses, it has written the error buffer. -/
def TellsRefusal {α : Type} (refused : α → Prop) (p : Db α) : Prop :=
  ∀ written, Tells p written fun a written' => refused a → written' = true

/-! ### The functions -/

section functions

variable (fp : Rounding) (env : Environment) (accountNo : Int)

theorem dbCreateAccount_tells (name : Bytes) (pin : Int) :
    TellsRefusal (· = false) (dbCreateAccount env accountNo name pin) := by
  intro written
  simp only [dbCreateAccount, guarded_ite, guarded_bind, guarded_pure, tells_setError,
    tells_execute, implies_true, true_and]
  rintro - - - ((_ | _ | _) | _)
  · exact (tells_setErrmsg _).mpr fun _ => rfl
  · exact (tells_setError _ _).mpr fun _ => rfl
  · exact (tells_setErrmsg _).mpr fun _ => rfl
  · intro h
    cases h

theorem dbLogin_tells (pin : Int) : TellsRefusal (· = none) (dbLogin accountNo pin) := by
  intro written
  simp only [dbLogin, guarded_ite, guarded_bind, guarded_pure, tells_setError, tells_dbReadAccount,
    tells_dbUpdateLoginState]
  simp

theorem dbAdminLogin_tells (username password : Bytes) :
    TellsRefusal (· = false) (dbAdminLogin username password) := by
  intro written
  simp only [dbAdminLogin, guarded_ite, guarded_bind, guarded_pure, tells_setError, tells_execute,
    implies_true, true_and]
  rintro - ((_ | _ | _) | _ | row)
  · exact (tells_setErrmsg _).mpr fun _ => rfl
  · exact (tells_setError _ _).mpr fun _ => rfl
  · exact (tells_setError _ _).mpr fun _ => rfl
  · exact (tells_setError _ _).mpr fun _ => rfl
  · simp

theorem dbGetBalance_tells : TellsRefusal (· = none) (dbGetBalance accountNo) := by
  intro written
  simp [dbGetBalance]

theorem checkedBalanceTransaction_tells (notPositive : Bytes) (amount : Double) (isCredit : Bool)
    (type : TransactionType) :
    TellsRefusal (· = none) (checkedBalanceTransaction fp env notPositive accountNo amount isCredit
      type) := by
  intro written
  simp only [checkedBalanceTransaction, applyBalanceTransaction, guarded_ite, guarded_bind,
    guarded_pure, tells_setError, tells_dbBeginTransaction, tells_dbReadAccount, tells_rollbackWith,
    tells_dbUpdateBalance, tells_dbRollbackTransaction, tells_dbInsertTransaction,
    tells_dbCommitTransaction]
  simp

theorem dbTransfer_tells (receiver : Int) (amount : Double) :
    TellsRefusal (· = none) (dbTransfer fp env accountNo receiver amount) := by
  intro written
  simp only [dbTransfer, guarded_ite, guarded_bind, guarded_pure, tells_setError,
    tells_dbBeginTransaction, tells_dbReadAccount, tells_rollbackWith, tells_dbUpdateBalance,
    tells_dbRollbackTransaction, tells_dbInsertTransaction, tells_dbCommitTransaction]
  simp

theorem dbSetLock_tells (failedAttempts isLocked : Int) :
    TellsRefusal (· = false) (dbSetLock accountNo failedAttempts isLocked) := by
  intro written
  simp [dbSetLock]

theorem dbDeleteAccount_tells : TellsRefusal (· = false) (dbDeleteAccount accountNo) := by
  intro written
  simp only [dbDeleteAccount, guarded_ite, guarded_bind, guarded_pure, tells_setError,
    tells_dbReadAccount, tells_dbBeginTransaction, tells_executeOrRollback,
    tells_dbCommitTransaction, tells_dbRollbackTransaction]
  simp

theorem dbChangeAdminPassword_tells (username newPassword : Bytes) :
    TellsRefusal (· = false) (dbChangeAdminPassword env username newPassword) := by
  intro written
  simp only [dbChangeAdminPassword, guarded_ite, guarded_bind, guarded_pure, tells_setError,
    tells_executeOrReport]
  simp

theorem renumberAccount_tells (newAccountNo : Int) (row : Account) :
    TellsRefusal (· = false) (renumberAccount accountNo newAccountNo row) := by
  intro written
  simp only [renumberAccount, guarded_bind, tells_execute]
  rintro (code | _)
  · simp only [guarded_bind, tells_dbRollbackTransaction]
    cases code with
    | constraint => exact (tells_setError _ _).mpr fun _ => rfl
    | notPrepared => exact (tells_setErrmsg _).mpr fun _ => rfl
    | failure => exact (tells_setErrmsg _).mpr fun _ => rfl
  · simp only [guarded_ite, guarded_bind, guarded_pure, tells_executeOrRollback]
    simp

theorem dbEditAccount_tells (newAccountNo : Int) (name : Bytes) (pin : Int) :
    TellsRefusal (· = false) (dbEditAccount env accountNo newAccountNo name pin) := by
  intro written
  simp only [dbEditAccount, guarded_ite, guarded_bind, guarded_pure, tells_setError,
    tells_dbBeginTransaction, tells_execute, implies_true, true_and]
  intro _ _ _
  refine ⟨by simp, by simp, ?_⟩
  intro _ answer
  rcases answer with (_ | _ | _) | _ | row
  · simp
  · simp
  · simp
  · simp
  simp only [guarded_ite, guarded_bind, guarded_pure, tells_executeOrRollback,
    tells_dbCommitTransaction, tells_dbRollbackTransaction]
  constructor
  · simp
  · intro _
    apply (renumberAccount_tells accountNo newAccountNo _ written).mono
    rintro (_ | _) written' hstored
    · exact ⟨fun _ _ => hstored rfl, by simp⟩
    · simp

end functions

/-! ### The reports -/

section reports

variable (fp : Rounding) (env : Environment) (accountNo : Int)

theorem appendRows_tells {Row : Type} (line : Row → Bytes) (exceeded : Bytes) (rows : List Row)
    (buffer : TextBuffer) : TellsRefusal (· = none) (appendRows line exceeded rows buffer) := by
  intro written
  induction rows generalizing buffer with
  | nil => exact nofun
  | cons row rest ih =>
      rw [appendRows]
      rcases appendFormatted maxMessageSize buffer (line row) with ⟨_ | _, longer⟩
      · exact (tells_setError _ _).mpr fun _ => rfl
      · simp only [guarded_bind, guarded_call, guarded_ite, Writes, ReadsWritten, true_and,
          forall_eq, tells_setErrmsg, guarded_pure]
        intro more
        exact ⟨fun _ _ => trivial, fun _ => ih longer⟩

theorem listingReport_tells {Row : Type} (header : Bytes) (query : Statement (List Row))
    (line : Row → Bytes) (noRows exceeded : Bytes) :
    TellsRefusal (· = none) (listingReport header query line noRows exceeded) := by
  intro written
  rw [listingReport]
  rcases appendFormatted maxMessageSize ⟨[], 0⟩ header with ⟨_ | _, buffer⟩
  · exact (tells_setError _ _).mpr fun _ => rfl
  · simp only [guarded_bind, tells_executeOrReport]
    refine ⟨by simp, ?_⟩
    intro rows
    cases rows with
    | nil =>
        intro h
        cases h
    | cons row rows => exact appendRows_tells line exceeded _ buffer written

theorem dbBuildMiniStatement_tells : TellsRefusal (· = none) (dbBuildMiniStatement accountNo) := by
  intro written
  simp only [dbBuildMiniStatement, guarded_bind, tells_dbReadAccount, tells_setError, guarded_pure,
    implies_true, true_and]
  intro row
  -- the texts are named so that nothing evaluates them
  generalize statementHeader (row.info accountNo) = header
  generalize ascii "Mini statement output exceeded buffer size." = exceeded
  exact listingReport_tells header _ statementLine _ exceeded written

theorem dbBuildMonthlySummary_tells (month : Bytes) :
    TellsRefusal (· = none) (dbBuildMonthlySummary fp env accountNo month) := by
  intro written
  rw [dbBuildMonthlySummary]
  cases resolveMonth env month with
  | none => simp
  | some resolvedMonth => simp

theorem dbBuildAccountDetails_tells :
    TellsRefusal (· = none) (dbBuildAccountDetails accountNo) := by
  intro written
  simp only [dbBuildAccountDetails, guarded_bind, tells_execute]
  intro account
  rcases account with (_ | _ | _) | _ | row
  · simp
  · simp
  · simp
  · simp
  simp only [guarded_bind, tells_execute]
  intro latest
  rcases latest with (_ | _ | _) | _ | ⟨transaction, rows⟩ <;> simp

theorem dbBuildSystemSummary_tells : TellsRefusal (· = none) (dbBuildSystemSummary env) := by
  intro written
  simp only [dbBuildSystemSummary, guarded_bind, tells_executeOrReport, guarded_pure]
  refine ⟨by simp, ?_⟩
  intro totals
  simp only [tells_execute]
  intro top
  rcases top with (_ | _ | _) | _ | row <;> simp

end reports

/-- Whether it is asked for its result or only whether it returned 1. -/
theorem TellsRefusal.succeeds {α : Type} {p : Db (Option α)} (hp : TellsRefusal (· = none) p) :
    TellsRefusal (· = false) (succeeds p) := by
  intro written
  simp only [Bank.succeeds, guarded_bind, guarded_pure]
  apply (hp written).mono
  simp

/-- Each function that `handle_request` calls has written the buffer when it
returns 0. -/
theorem DbCall.returns_tells (fp : Rounding) (env : Environment) (call : DbCall) :
    TellsRefusal (· = false) (call.returns fp env) := by
  cases call with
  | createAccount accountNo name pin => exact dbCreateAccount_tells env accountNo name pin
  | login accountNo pin => exact (dbLogin_tells accountNo pin).succeeds
  | adminLogin username password => exact dbAdminLogin_tells username password
  | getBalance accountNo => exact (dbGetBalance_tells accountNo).succeeds
  | deposit | withdraw | adminCredit | adminDebit =>
      exact (checkedBalanceTransaction_tells fp env _ _ _ _ _).succeeds
  | transfer fromAccount toAccount amount =>
      exact (dbTransfer_tells fp env fromAccount toAccount amount).succeeds
  | miniStatement accountNo => exact (dbBuildMiniStatement_tells accountNo).succeeds
  | monthlySummary accountNo month =>
      exact (dbBuildMonthlySummary_tells fp env accountNo month).succeeds
  | accountListing | recentTransactions => exact (listingReport_tells _ _ _ _ _).succeeds
  | accountDetails accountNo => exact (dbBuildAccountDetails_tells accountNo).succeeds
  | systemSummary => exact (dbBuildSystemSummary_tells env).succeeds
  | lockAccount | unlockAccount => exact dbSetLock_tells _ _ _
  | editAccount accountNo newAccountNo name pin =>
      exact dbEditAccount_tells env accountNo newAccountNo name pin
  | deleteAccount accountNo => exact dbDeleteAccount_tells accountNo
  | changeAdminPassword username newPassword =>
      exact dbChangeAdminPassword_tells env username newPassword

/-! ### The dispatcher -/

/-- The program never reads a buffer that has not been written. -/
def ReadsOwn {α : Type} (p : Db α) : Prop := ∀ written, Tells p written fun _ _ => True

section dispatcher

/-- The buffer is read after a refusal only. -/
theorem answer_readsOwn {α : Type} {refused : α → Prop} {p : Db α} (reply : α → Option Bytes)
    (hp : TellsRefusal refused p) (hreply : ∀ a, reply a = none → refused a) :
    ReadsOwn (do answer (reply (← p))) := by
  intro written
  simp only [guarded_bind]
  apply (hp written).mono
  intro a written' htold
  cases hnone : reply a with
  | some text => trivial
  | none =>
      simp only [answer, guarded_bind, guarded_call, ReadsWritten]
      exact ⟨htold (hreply a hnone), by simp⟩

theorem answerText_readsOwn {p : Db Bool} (text : String) (hp : TellsRefusal (· = false) p) :
    ReadsOwn (do answerText text (← p)) := by
  apply answer_readsOwn (fun done => if done then some (ascii text) else none) hp
  simp

theorem answerAmount_readsOwn {p : Db (Option Double)} (hp : TellsRefusal (· = none) p) :
    ReadsOwn (do answerAmount (← p)) := by
  apply answer_readsOwn (fun amount => amount.map fun x => snprintf 64 (formatAmount x)) hp
  simp

theorem withArgs_readsOwn {α : Type} (args : Option α) (usage : String) {branch : α → Db Response}
    (hbranch : ∀ a, ReadsOwn (branch a)) : ReadsOwn (withArgs args usage branch) := by
  cases args with
  | none => exact fun _ => trivial
  | some a => exact hbranch a

theorem keepsSession_readsOwn {branch : Db Response} (session : Session)
    (hbranch : ReadsOwn branch) : ReadsOwn (do return (session, ← branch)) := by
  intro written
  simp only [guarded_bind, guarded_pure]
  exact hbranch written

theorem asCustomer_readsOwn (session : Session) {branch : Int → Db Response}
    (hbranch : ∀ accountNo, ReadsOwn (branch accountNo)) :
    ReadsOwn (asCustomer session branch) := by
  unfold asCustomer
  split
  · exact keepsSession_readsOwn session (hbranch _)
  · exact fun _ => trivial

theorem asAdmin_readsOwn (session : Session) {branch : Db Response} (hbranch : ReadsOwn branch) :
    ReadsOwn (asAdmin session branch) := by
  unfold asAdmin
  split
  · exact keepsSession_readsOwn session hbranch
  · exact fun _ => trivial

end dispatcher

theorem handleCommand_readsOwn (fp : Rounding) (env : Environment) (session : Session)
    (command : Command) : ReadsOwn (handleCommand fp env session command) := by
  cases command with
  | empty | logout | unknown => exact fun _ => trivial
  | createAccount args =>
      apply keepsSession_readsOwn
      apply withArgs_readsOwn
      rintro ⟨accountNo, name, pin⟩
      exact answerText_readsOwn _ (dbCreateAccount_tells env accountNo name pin)
  | login args =>
      cases args with
      | none => exact fun _ => trivial
      | some args =>
          intro written
          simp only [handleCommand, handleLogin, guarded_bind]
          apply (dbLogin_tells _ _ written).mono
          rintro (_ | info) written' htold
          · simp [answer, ReadsWritten, htold]
          · trivial
  | adminLogin args =>
      cases args with
      | none => exact fun _ => trivial
      | some args =>
          intro written
          simp only [handleCommand, handleAdminLogin, guarded_bind]
          apply (dbAdminLogin_tells _ _ written).mono
          rintro (_ | _) written' htold
          · simp [answer, ReadsWritten, htold]
          · simp
  | balance =>
      rw [handleCommand]
      apply asCustomer_readsOwn
      intro accountNo
      exact answerAmount_readsOwn (dbGetBalance_tells accountNo)
  | deposit amount | withdraw amount =>
      rw [handleCommand]
      apply asCustomer_readsOwn
      intro accountNo
      apply withArgs_readsOwn
      intro amount
      exact answerAmount_readsOwn (checkedBalanceTransaction_tells fp env accountNo _ amount _ _)
  | transfer args =>
      rw [handleCommand]
      apply asCustomer_readsOwn
      intro accountNo
      apply withArgs_readsOwn
      rintro ⟨receiver, amount⟩
      exact answerAmount_readsOwn (dbTransfer_tells fp env accountNo receiver amount)
  | miniStatement =>
      rw [handleCommand]
      apply asCustomer_readsOwn
      intro accountNo
      exact answer_readsOwn id (dbBuildMiniStatement_tells accountNo) fun _ h => h
  | monthlySummary month =>
      rw [handleCommand]
      apply asCustomer_readsOwn
      intro accountNo
      exact answer_readsOwn id (dbBuildMonthlySummary_tells fp env accountNo month) fun _ h => h
  | listAccounts =>
      apply asAdmin_readsOwn
      exact answer_readsOwn id (listingReport_tells _ _ _ _ _) fun _ h => h
  | viewAccountDetails accountNo =>
      apply asAdmin_readsOwn
      apply withArgs_readsOwn
      intro accountNo
      exact answer_readsOwn id (dbBuildAccountDetails_tells accountNo) fun _ h => h
  | viewAccountStatement accountNo =>
      apply asAdmin_readsOwn
      apply withArgs_readsOwn
      intro accountNo
      exact answer_readsOwn id (dbBuildMiniStatement_tells accountNo) fun _ h => h
  | viewAccountSummary args =>
      apply asAdmin_readsOwn
      apply withArgs_readsOwn
      rintro ⟨accountNo, month⟩
      exact answer_readsOwn id (dbBuildMonthlySummary_tells fp env accountNo month) fun _ h => h
  | adminDashboard =>
      apply asAdmin_readsOwn
      exact answer_readsOwn id (dbBuildSystemSummary_tells env) fun _ h => h
  | recentTransactions limit =>
      apply asAdmin_readsOwn
      apply withArgs_readsOwn
      intro limit
      exact answer_readsOwn id (listingReport_tells _ _ _ _ _) fun _ h => h
  | lockAccount accountNo | unlockAccount accountNo =>
      apply asAdmin_readsOwn
      apply withArgs_readsOwn
      intro accountNo
      exact answerText_readsOwn _ (dbSetLock_tells accountNo _ _)
  | adminCredit args | adminDebit args =>
      apply asAdmin_readsOwn
      apply withArgs_readsOwn
      rintro ⟨accountNo, amount⟩
      exact answerAmount_readsOwn (checkedBalanceTransaction_tells fp env accountNo _ amount _ _)
  | editAccount args =>
      apply asAdmin_readsOwn
      apply withArgs_readsOwn
      rintro ⟨accountNo, newAccountNo, name, pin⟩
      exact answerText_readsOwn _ (dbEditAccount_tells env accountNo newAccountNo name pin)
  | deleteAccount accountNo =>
      apply asAdmin_readsOwn
      apply withArgs_readsOwn
      intro accountNo
      exact answerText_readsOwn _ (dbDeleteAccount_tells accountNo)
  | changeAdminPassword newPassword =>
      apply asAdmin_readsOwn
      apply withArgs_readsOwn
      intro newPassword
      exact answerText_readsOwn _ (dbChangeAdminPassword_tells env session.adminUsername newPassword)

/-- Whichever calls into SQLite fail, `handle_request` reads its error buffer
only after it has been written while this request is served, and each function
that it calls has written the buffer when it returns 0. -/
theorem error_buffer_written (fp : Rounding) (env : Environment) (store : Store) :
    (∀ session request w, ⟨Bytes, .readError, w⟩ ∈
      (handleRequest fp env session request).performed (sqlite fp) (.start env store) →
        w.errorSet = true) ∧
    ∀ call : DbCall, ((call.returns fp env).run (sqlite fp) (.start env store)).1 = false →
      ((call.returns fp env).run (sqlite fp) (.start env store)).2.errorSet = true := by
  constructor
  · intro session request w hread
    have hreads := handleCommand_readsOwn fp env session (parseRequest fp request) false
    exact (performed_of_guarded (sqlite fp) World.errorSet (sqlite_writes fp) hreads).1 _ hread
  · intro call hrefused
    have htells := call.returns_tells fp env false
    exact (performed_of_guarded (sqlite fp) World.errorSet (sqlite_writes fp)
      (w := .start env store) htells).2 hrefused

end AtmSystem.Bank
