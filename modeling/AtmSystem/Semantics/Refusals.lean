import AtmSystem.Model.Server
import AtmSystem.Semantics.Errors

/-!
The functions behind the commands of a customer explain every refusal. The
texts they set themselves are taken to be good, and so are SQLite's; that an
account is missing is said only if it is, or if a call fails.
-/

namespace AtmSystem.Model

open Library Program

/-- The texts of a function are good, as the error buffer holds them. -/
def Says (good : Bytes → Prop) (texts : List String) : Prop :=
  ∀ text ∈ texts, good (snprintf 256 (ascii text))

variable {fp : Rounding} {faulty : Prop} {good : Bytes → Prop} {accountNo : Int} {h : Heard}
  (hsqlite : ∀ text, faulty ∨ text ∈ sqliteTexts → good (snprintf 256 text))
  (hmissing : faulty ∨ h.store.tables.accounts.lookup accountNo = none →
    Says good ["Account not found."])

include hsqlite

theorem dbCreateAccount_explains (env : Environment) (name : Bytes) (pin : Int)
    (hown : Says good ["Account number must be positive.", "PIN must be a 4-digit number.",
      "Account name is required.", "Account number already exists."]) :
    Explains fp faulty good (· = false) (dbCreateAccount env accountNo name pin) := by
  simp only [dbCreateAccount]
  split
  · exact explains_setError (hown _ (by simp)) false
  split
  · exact explains_setError (hown _ (by simp)) false
  split
  · exact explains_setError (hown _ (by simp)) false
  apply Explains.after
  rintro ((_ | _ | _) | _)
  · exact explains_setErrmsg hsqlite false
  · exact explains_setError (hown _ (by simp)) false
  · exact explains_setErrmsg hsqlite false
  · exact .pure (by simp)

/-- A login words the number of attempts that remain. -/
theorem dbLogin_explains (accountNo pin : Int)
    (hown : Says good ["PIN must be a 4-digit number.", "Invalid account number or PIN.",
      "Account is locked after 3 failed login attempts. Contact an admin.",
      "Account locked after 3 failed login attempts."])
    (hremaining : ∀ n, good (snprintf 256 (ascii "Invalid account number or PIN. Remaining attempts: " ++
      formatInt n ++ ascii "."))) :
    Explains fp faulty good (· = none) (dbLogin accountNo pin) := by
  have hupdate {rest : Db (Option AccountInfo)} (attempts isLocked : Int)
      (hrest : Explains fp faulty good (· = none) rest) :
      Explains fp faulty good (· = none) (do
        if !(← dbUpdateLoginState accountNo attempts isLocked) then
          return none
        rest) := by
    apply (explains_dbUpdateLoginState hsqlite accountNo attempts isLocked).bind
    · rintro _ h rfl htold
      exact .told htold none
    · rintro (_ | _) hdone
      · exact absurd rfl hdone
      · exact hrest
  simp only [dbLogin]
  split
  · exact explains_setError (hown _ (by simp)) none
  intro h
  apply ExplainsFrom.bind (worded_dbReadAccount hsqlite accountNo h)
  intro answer h' hread
  rcases answer with _ | _ | ⟨info, storedPinHash, salt⟩
  · exact .told hread.2.2 none
  · exact explains_setError (hown _ (by simp)) none h'
  simp only
  split
  · exact explains_setError (hown _ (by simp)) none h'
  split
  · apply hupdate
    split
    · exact explains_setError (hown _ (by simp)) none
    · exact explains_setError (hremaining _) none
  · apply hupdate
    exact .pure (Option.some_ne_none _)

theorem dbAdminLogin_explains (username password : Bytes)
    (hown : Says good ["Admin username and password are required.", "Invalid admin credentials."]) :
    Explains fp faulty good (· = false) (dbAdminLogin username password) := by
  simp only [dbAdminLogin]
  split
  · exact explains_setError (hown _ (by simp)) false
  apply Explains.after
  rintro ((_ | _ | _) | _ | row)
  · exact explains_setErrmsg hsqlite false
  · exact explains_setError (hown _ (by simp)) false
  · exact explains_setError (hown _ (by simp)) false
  · exact explains_setError (hown _ (by simp)) false
  simp only
  split
  · exact explains_setError (hown _ (by simp)) false
  · exact .pure (by simp)

theorem appendRows_explains {Row : Type} (line : Row → Bytes) {exceeded : Bytes}
    (hexceeded : good (snprintf 256 exceeded)) (rows : List Row) (buffer : TextBuffer) :
    Explains fp faulty good (· = none) (appendRows line exceeded rows buffer) := by
  induction rows generalizing buffer with
  | nil => exact .pure (Option.some_ne_none _)
  | cons row rest ih =>
      rw [appendRows]
      rcases appendFormatted maxMessageSize buffer (line row) with ⟨_ | _, longer⟩
      · exact explains_setError hexceeded none
      · apply Explains.after
        rintro (_ | _)
        · exact explains_setErrmsg hsqlite none
        · exact ih longer

theorem listingReport_explains {Row : Type} (header : Bytes) (query : Statement (List Row))
    (line : Row → Bytes) (noRows : Bytes) {exceeded : Bytes}
    (hexceeded : good (snprintf 256 exceeded)) :
    Explains fp faulty good (· = none) (listingReport header query line noRows exceeded) := by
  rw [listingReport]
  rcases appendFormatted maxMessageSize ⟨[], 0⟩ header with ⟨_ | _, buffer⟩
  · exact explains_setError hexceeded none
  · apply (explains_executeOrReport hsqlite query).bind
    · rintro _ h rfl htold
      exact .told htold none
    · rintro (_ | _ | ⟨row, rows⟩) hsome
      · exact absurd rfl hsome
      · exact .pure (Option.some_ne_none _)
      · exact appendRows_explains hsqlite line hexceeded _ buffer

/-- A report about an account that has to exist. -/
theorem accountReport_explains {α : Type}
    {report : Lookup (AccountInfo × UInt64 × UInt64) → Db (Option α)}
    (hmissing : faulty ∨ h.store.tables.accounts.lookup accountNo = none →
      Explains fp faulty good (· = none) (report .notFound))
    (hfailed : report .failed = pure none)
    (hreport : ∀ info, Explains fp faulty good (· = none) (report (.found info))) :
    ExplainsFrom fp faulty good (· = none) h (dbReadAccount accountNo >>= report) := by
  apply ExplainsFrom.bind (worded_dbReadAccount hsqlite accountNo h)
  intro answer h' hread
  cases answer with
  | failed => exact hfailed ▸ .told hread.2.2 none
  | notFound => exact hmissing (.inr hread.2) h'
  | found info => exact hreport info h'

/-- A transaction on an account that has to exist. -/
theorem transaction_explains {α : Type} {body : Lookup (AccountInfo × UInt64 × UInt64) → Db (Option α)}
    (hnotFound : faulty ∨ h.store.tables.accounts.lookup accountNo = none →
      Explains fp faulty good (· = none) (body .notFound))
    (hfailed : faulty → Explains fp faulty good (· = none) (body .failed))
    (hfound : ∀ info, Explains fp faulty good (· = none) (body (.found info))) :
    ExplainsFrom fp faulty good (· = none) h (do
      if !(← dbBeginTransaction) then
        return none
      dbReadAccount accountNo >>= body) := by
  apply ExplainsFrom.bind (worded_dbBeginTransaction hsqlite h)
  rintro (_ | _) h₁ ⟨htables, hbegun⟩
  · exact .told (hbegun rfl) none
  apply ExplainsFrom.bind (worded_dbReadAccount hsqlite accountNo h₁)
  rintro (_ | _ | info) h₂ ⟨-, hread⟩
  · exact hfailed hread.1 h₂
  · exact hnotFound (.inr (htables ▸ hread)) h₂
  · exact hfound info h₂

include hmissing

theorem dbGetBalance_explains : ExplainsFrom fp faulty good (· = none) h (dbGetBalance accountNo) := by
  apply accountReport_explains hsqlite ?_ rfl
  · intro info
    exact .pure (Option.some_ne_none _)
  · exact fun hnone => explains_setError (hmissing hnone _ (by simp)) none

theorem dbBuildMiniStatement_explains
    (hown : Says good ["Mini statement output exceeded buffer size."]) :
    ExplainsFrom fp faulty good (· = none) h (dbBuildMiniStatement accountNo) := by
  apply accountReport_explains hsqlite ?_ rfl
  · intro info
    apply listingReport_explains hsqlite
    exact hown _ (by simp)
  · exact fun hnone => explains_setError (hmissing hnone _ (by simp)) none

theorem dbBuildMonthlySummary_explains (env : Environment) (month : Bytes)
    (hown : Says good ["Month must use YYYY-MM format."]) :
    ExplainsFrom fp faulty good (· = none) h (dbBuildMonthlySummary fp env accountNo month) := by
  simp only [dbBuildMonthlySummary]
  cases resolveMonth env month with
  | none => exact explains_setError (hown _ (by simp)) none h
  | some resolvedMonth =>
  apply accountReport_explains hsqlite ?_ rfl
  · intro info
    apply (explains_executeOrReport hsqlite _).bind
    · rintro _ h rfl htold
      exact .told htold none
    · rintro (_ | totals) hsome
      · exact absurd rfl hsome
      · exact .pure (Option.some_ne_none _)
  · exact fun hnone => explains_setError (hmissing hnone _ (by simp)) none

theorem applyBalanceTransaction_explains (env : Environment) (amount : Double) (isCredit : Bool)
    (type : TransactionType)
    (hown : Says good ["Amount must be greater than zero.", "Insufficient balance."]) :
    ExplainsFrom fp faulty good (· = none) h
      (applyBalanceTransaction fp env accountNo amount isCredit type) := by
  simp only [applyBalanceTransaction]
  split
  · exact explains_setError (hown _ (by simp)) none h
  apply transaction_explains hsqlite
  · exact fun hnone => explains_rollbackWith (hmissing hnone _ (by simp)) none
  · exact fun hf => explains_rollbackWith (hmissing (.inl hf) _ (by simp)) none
  rintro ⟨info, _, _⟩
  simp only
  split
  · exact explains_rollbackWith (hown _ (by simp)) none
  apply Explains.orRollback (explains_dbUpdateBalance hsqlite _ _)
  apply Explains.orRollback (explains_dbInsertTransaction hsqlite _ _ _ _ _ _)
  apply Explains.orRollback (explains_dbCommitTransaction hsqlite)
  exact .pure (Option.some_ne_none _)

theorem checkedBalanceTransaction_explains (env : Environment) {notPositive : Bytes}
    (amount : Double) (isCredit : Bool) (type : TransactionType)
    (hnotPositive : good (snprintf 256 notPositive))
    (hown : Says good ["Amount must be greater than zero.", "Insufficient balance."]) :
    ExplainsFrom fp faulty good (· = none) h
      (checkedBalanceTransaction fp env notPositive accountNo amount isCredit type) := by
  simp only [checkedBalanceTransaction]
  split
  · exact explains_setError hnotPositive none h
  · exact applyBalanceTransaction_explains hsqlite hmissing env amount isCredit type hown

omit hmissing in
/-- Only the sender's account may be reported as the sender's. -/
theorem dbTransfer_explains (env : Environment) (receiver : Int) (amount : Double)
    (hsender : faulty ∨ h.store.tables.accounts.lookup accountNo = none →
      Says good ["Sender account not found."])
    (hown : Says good ["Receiver account number must be different from your own.",
      "Transfer amount must be greater than zero.", "Receiver account not found.",
      "Insufficient balance."]) :
    ExplainsFrom fp faulty good (· = none) h (dbTransfer fp env accountNo receiver amount) := by
  simp only [dbTransfer]
  split
  · exact explains_setError (hown _ (by simp)) none h
  split
  · exact explains_setError (hown _ (by simp)) none h
  apply transaction_explains hsqlite
  · exact fun hnone => explains_rollbackWith (hsender hnone _ (by simp)) none
  · exact fun hf => explains_rollbackWith (hsender (.inl hf) _ (by simp)) none
  rintro ⟨source, _, _⟩
  apply Explains.after
  rintro (_ | _ | ⟨target, _⟩)
  · exact explains_rollbackWith (hown _ (by simp)) none
  · exact explains_rollbackWith (hown _ (by simp)) none
  simp only
  split
  · exact explains_rollbackWith (hown _ (by simp)) none
  apply Explains.orRollback (explains_dbUpdateBalance hsqlite _ _)
  apply Explains.orRollback (explains_dbUpdateBalance hsqlite _ _)
  apply Explains.orRollback (explains_dbInsertTransaction hsqlite _ _ _ _ _ _)
  apply Explains.orRollback (explains_dbInsertTransaction hsqlite _ _ _ _ _ _)
  apply Explains.orRollback (explains_dbCommitTransaction hsqlite)
  exact .pure (Option.some_ne_none _)

/-! ### Answers -/

/-- Started like this, the program answers ERR with good texts only. -/
def AnswersFrom (fp : Rounding) (faulty : Prop) (good : Bytes → Prop) (h : Heard)
    (p : Db Response) : Prop :=
  Always (Worded fp faulty) p h fun response _ => response.status = .err → good response.payload

omit hsqlite hmissing

/-- The error buffer is answered as it was told. -/
theorem answer_told (htold : h.Told good) : AnswersFrom fp faulty good h (answer none) := by
  obtain ⟨told, hset, hgood⟩ := htold
  rintro text h' ⟨hread, -⟩ -
  rw [hread told hset]
  exact hgood

theorem answer_from {α : Type} {refused : α → Prop} {p : Db α} (reply : α → Option Bytes)
    (hp : ExplainsFrom fp faulty good refused h p) (hreply : ∀ a, reply a = none → refused a) :
    AnswersFrom fp faulty good h (do answer (reply (← p))) := by
  simp only [AnswersFrom, always_bind]
  apply hp.always.mono
  intro a h' htold
  cases hnone : reply a with
  | some text => exact fun herr => by cases herr
  | none => exact answer_told (htold (hreply a hnone))

theorem answerText_from {p : Db Bool} (text : String)
    (hp : ExplainsFrom fp faulty good (· = false) h p) :
    AnswersFrom fp faulty good h (do answerText text (← p)) := by
  apply answer_from (fun done => if done then some (ascii text) else none) hp
  simp

theorem answerAmount_from {p : Db (Option Double)}
    (hp : ExplainsFrom fp faulty good (· = none) h p) :
    AnswersFrom fp faulty good h (do answerAmount (← p)) := by
  apply answer_from (fun amount => amount.map fun x => snprintf 64 (formatAmount x)) hp
  simp

theorem withArgs_from {α : Type} (args : Option α) {usage : String} {branch : α → Db Response}
    (husage : good (ascii usage)) (hbranch : ∀ a, AnswersFrom fp faulty good h (branch a)) :
    AnswersFrom fp faulty good h (withArgs args usage branch) := by
  cases args with
  | none => exact fun _ => husage
  | some a => exact hbranch a

/-- The same of a branch of the dispatcher, which also answers a session. -/
def RepliesFrom (fp : Rounding) (faulty : Prop) (good : Bytes → Prop) (h : Heard)
    (p : Db (Session × Response)) : Prop :=
  Always (Worded fp faulty) p h fun outcome _ =>
    outcome.2.status = .err → good outcome.2.payload

theorem errResponse_replies {message : String} (session : Session) (hgood : good (ascii message)) :
    RepliesFrom fp faulty good h (pure (session, errResponse message)) := fun _ => hgood

theorem keepsSession_replies {branch : Db Response} (session : Session)
    (hbranch : AnswersFrom fp faulty good h branch) :
    RepliesFrom fp faulty good h (do return (session, ← branch)) := by
  simp only [RepliesFrom, always_bind]
  exact hbranch

theorem asCustomer_replies {session : Session} {branch : Int → Db Response}
    (hdenied : good (ascii "Customer login required."))
    (hbranch : session.isCustomer = true →
      AnswersFrom fp faulty good h (branch session.customerAccountNo)) :
    RepliesFrom fp faulty good h (asCustomer session branch) := by
  unfold asCustomer
  split
  · exact keepsSession_replies session (hbranch ‹_›)
  · exact errResponse_replies session hdenied

theorem asAdmin_replies {session : Session} {branch : Db Response}
    (hdenied : good (ascii "Admin login required."))
    (hbranch : session.isAdmin = true → AnswersFrom fp faulty good h branch) :
    RepliesFrom fp faulty good h (asAdmin session branch) := by
  unfold asAdmin
  split
  · exact keepsSession_replies session (hbranch ‹_›)
  · exact errResponse_replies session hdenied

theorem handleLogin_replies {session : Session} {accountNo pin : Int}
    (hp : Explains fp faulty good (· = none) (dbLogin accountNo pin)) :
    RepliesFrom fp faulty good h (handleLogin session accountNo pin) := by
  simp only [RepliesFrom, handleLogin, always_bind]
  apply (hp h).always.mono
  rintro (_ | info) h' htold
  · exact keepsSession_replies session (answer_told (htold rfl))
  · exact fun herr => by cases herr

theorem handleAdminLogin_replies {session : Session} {username password : Bytes}
    (hp : Explains fp faulty good (· = false) (dbAdminLogin username password)) :
    RepliesFrom fp faulty good h (handleAdminLogin session username password) := by
  simp only [RepliesFrom, handleAdminLogin, always_bind]
  apply (hp h).always.mono
  rintro (_ | _) h' htold
  · exact keepsSession_replies session (answer_told (htold rfl))
  · exact fun herr => by cases herr

end AtmSystem.Model
