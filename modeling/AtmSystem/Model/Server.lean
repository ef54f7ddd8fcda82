import AtmSystem.Model.Reports

/-!
`server.c`: requests, sessions and the loop over the messages of a client.
`handle_request` is split in two: `parseRequest` reads the command and its
arguments out of the lines of the request, `handleCommand` checks the session
and acts. Reading the arguments has no effect, so it may come before the check
of the session that stands in front of it in the source.
-/

namespace AtmSystem.Model

structure Session where
  customerAccountNo : Int
  isAdmin : Bool
  customerName : Bytes
  adminUsername : Bytes

/-- `reset_session`. -/
def Session.reset : Session := ⟨0, false, [], []⟩

/-- `split_lines`: at most `maxLines` lines; what follows them is dropped. -/
def splitLines (text : Bytes) : Nat → List Bytes
  | 0 => []
  | maxLines + 1 =>
      let line := text.takeWhile (· ≠ newline)
      match text.dropWhile (· ≠ newline) with
      | [] => [line]
      | _ :: rest => line :: splitLines rest maxLines

inductive Status where
  | ok
  | err
  deriving DecidableEq

structure Response where
  status : Status
  payload : Bytes

/-- `make_response`: the text that is sent. -/
def makeResponse (response : Response) : Bytes :=
  snprintf maxMessageSize ((match response.status with
    | .ok => ascii "OK"
    | .err => ascii "ERR") ++ [newline] ++ response.payload)

/-! ### Requests -/

/-- A request by its command word, with the arguments its branch reads.
Arguments are `none` when they are missing or do not parse. -/
inductive Command where
  | empty
  | createAccount (args : Option (Int × Bytes × Int))
  | login (args : Option (Int × Int))
  | adminLogin (args : Option (Bytes × Bytes))
  | logout
  | balance
  | deposit (amount : Option Double)
  | withdraw (amount : Option Double)
  | transfer (args : Option (Int × Double))
  | miniStatement
  | monthlySummary (month : Bytes)
  | listAccounts
  | viewAccountDetails (accountNo : Option Int)
  | viewAccountStatement (accountNo : Option Int)
  | viewAccountSummary (args : Option (Int × Bytes))
  | adminDashboard
  | recentTransactions (limit : Option Int)
  | lockAccount (accountNo : Option Int)
  | unlockAccount (accountNo : Option Int)
  | adminCredit (args : Option (Int × Double))
  | adminDebit (args : Option (Int × Double))
  | editAccount (args : Option (Int × Int × Bytes × Int))
  | deleteAccount (accountNo : Option Int)
  | changeAdminPassword (newPassword : Option Bytes)
  | unknown
  deriving DecidableEq

section parse

variable (fp : Rounding)

def intLine (lines : List Bytes) (i : Nat) : Option Int := lines[i]?.bind parseInt

def doubleLine (lines : List Bytes) (i : Nat) : Option Double := lines[i]?.bind (parseDouble fp)

/-- An account number and an amount, in lines 1 and 2. -/
def accountAndAmount (lines : List Bytes) : Option (Int × Double) := do
  return (← intLine lines 1, ← doubleLine fp lines 2)

/-- The dispatch of `handle_request` on the first line. -/
def parseRequest (request : Bytes) : Command :=
  let lines := splitLines request 10
  let command := lines.headD []
  if command = [] then .empty
  else if command = ascii "CREATE_ACCOUNT" then
    .createAccount do return (← intLine lines 1, ← lines[2]?, ← intLine lines 3)
  else if command = ascii "LOGIN" then
    .login do return (← intLine lines 1, ← intLine lines 2)
  else if command = ascii "ADMIN_LOGIN" then
    .adminLogin do return (← lines[1]?, ← lines[2]?)
  else if command = ascii "LOGOUT" then .logout
  else if command = ascii "BALANCE" then .balance
  else if command = ascii "DEPOSIT" then .deposit (doubleLine fp lines 1)
  else if command = ascii "WITHDRAW" then .withdraw (doubleLine fp lines 1)
  else if command = ascii "TRANSFER" then .transfer (accountAndAmount fp lines)
  else if command = ascii "MINI_STATEMENT" then .miniStatement
  else if command = ascii "MONTHLY_SUMMARY" then .monthlySummary (lines[1]?.getD [])
  else if command = ascii "LIST_ACCOUNTS" then .listAccounts
  else if command = ascii "VIEW_ACCOUNT_DETAILS" then .viewAccountDetails (intLine lines 1)
  else if command = ascii "VIEW_ACCOUNT_STATEMENT" then .viewAccountStatement (intLine lines 1)
  else if command = ascii "VIEW_ACCOUNT_SUMMARY" then
    .viewAccountSummary do return (← intLine lines 1, lines[2]?.getD [])
  else if command = ascii "ADMIN_DASHBOARD" then .adminDashboard
  else if command = ascii "RECENT_TRANSACTIONS" then
    .recentTransactions (lines[1]?.elim (some 10) parseInt)
  else if command = ascii "LOCK_ACCOUNT" then .lockAccount (intLine lines 1)
  else if command = ascii "UNLOCK_ACCOUNT" then .unlockAccount (intLine lines 1)
  else if command = ascii "ADMIN_CREDIT" then .adminCredit (accountAndAmount fp lines)
  else if command = ascii "ADMIN_DEBIT" then .adminDebit (accountAndAmount fp lines)
  else if command = ascii "EDIT_ACCOUNT" then
    .editAccount do
      return (← intLine lines 1, ← intLine lines 2, ← lines[3]?, ← intLine lines 4)
  else if command = ascii "DELETE_ACCOUNT" then .deleteAccount (intLine lines 1)
  else if command = ascii "CHANGE_ADMIN_PASSWORD" then .changeAdminPassword lines[1]?
  else .unknown

end parse

/-! ### Handling a request -/

/-- The test of `require_customer_session`. -/
def Session.isCustomer (session : Session) : Bool :=
  0 < session.customerAccountNo ∧ ¬ session.isAdmin

def errResponse (message : String) : Response := ⟨.err, ascii message⟩

/-- OK with the payload, or ERR with what the error buffer holds. -/
def answer (payload : Option Bytes) : Db Response := do
  match payload with
  | some text => return ⟨.ok, text⟩
  | none => return ⟨.err, ← .call .readError⟩

/-- OK with a fixed text, or ERR with what the error buffer holds. -/
def answerText (text : String) (done : Bool) : Db Response :=
  answer (if done then some (ascii text) else none)

/-- OK with an amount printed into `payload[64]`. -/
def answerAmount (amount : Option Double) : Db Response :=
  answer (amount.map fun x => snprintf 64 (formatAmount x))

/-- A branch behind `require_customer_session`. -/
def asCustomer (session : Session) (branch : Int → Db Response) : Db (Session × Response) := do
  if session.isCustomer then
    return (session, ← branch session.customerAccountNo)
  return (session, errResponse "Customer login required.")

/-- A branch behind `require_admin_session`. -/
def asAdmin (session : Session) (branch : Db Response) : Db (Session × Response) := do
  if session.isAdmin then
    return (session, ← branch)
  return (session, errResponse "Admin login required.")

/-- Arguments that did not parse are answered with the usage of the command. -/
def withArgs {α : Type} (args : Option α) (usage : String) (branch : α → Db Response) :
    Db Response :=
  match args with
  | none => return errResponse usage
  | some a => branch a

variable (fp : Rounding) (env : Environment)

def handleLogin (session : Session) (accountNo pin : Int) : Db (Session × Response) := do
  match ← dbLogin accountNo pin with
  | none => return (session, ← answer none)
  | some info =>
    let name := snprintf 64 info.name
    return ({ Session.reset with customerAccountNo := info.accountNo, customerName := name },
      ⟨.ok, name⟩)

def handleAdminLogin (session : Session) (username password : Bytes) :
    Db (Session × Response) := do
  if !(← dbAdminLogin username password) then
    return (session, ← answer none)
  return ({ Session.reset with isAdmin := true, adminUsername := snprintf 64 username },
    ⟨.ok, ascii "Admin login successful."⟩)

def handleCommand (session : Session) : Command → Db (Session × Response)
  | .empty => return (session, errResponse "Empty request.")
  | .createAccount args => do
      return (session, ← withArgs args
        "CREATE_ACCOUNT requires account number, name, and 4-digit PIN."
        fun (accountNo, name, pin) => do
          answerText "Account created successfully." (← dbCreateAccount env accountNo name pin))
  | .login none => return (session, errResponse "LOGIN requires account number and PIN.")
  | .login (some (accountNo, pin)) => handleLogin session accountNo pin
  | .adminLogin none =>
      return (session, errResponse "ADMIN_LOGIN requires username and password.")
  | .adminLogin (some (username, password)) => handleAdminLogin session username password
  | .logout => return (Session.reset, ⟨.ok, ascii "Logged out."⟩)
  | .balance => asCustomer session fun accountNo => do
      answerAmount (← dbGetBalance accountNo)
  | .deposit amount => asCustomer session fun accountNo =>
      withArgs amount "DEPOSIT requires a numeric amount." fun amount => do
        answerAmount (← dbDeposit fp env accountNo amount)
  | .withdraw amount => asCustomer session fun accountNo =>
      withArgs amount "WITHDRAW requires a numeric amount." fun amount => do
        answerAmount (← dbWithdraw fp env accountNo amount)
  | .transfer args => asCustomer session fun accountNo =>
      withArgs args "TRANSFER requires receiver account number and amount."
        fun (receiver, amount) => do
          answerAmount (← dbTransfer fp env accountNo receiver amount)
  | .miniStatement => asCustomer session fun accountNo => do
      answer (← dbBuildMiniStatement accountNo)
  | .monthlySummary month => asCustomer session fun accountNo => do
      answer (← dbBuildMonthlySummary fp env accountNo month)
  | .listAccounts => asAdmin session do answer (← dbBuildAccountListing)
  | .viewAccountDetails accountNo => asAdmin session do
      withArgs accountNo "VIEW_ACCOUNT_DETAILS requires an account number." fun accountNo => do
        answer (← dbBuildAccountDetails accountNo)
  | .viewAccountStatement accountNo => asAdmin session do
      withArgs accountNo "VIEW_ACCOUNT_STATEMENT requires an account number."
        fun accountNo => do answer (← dbBuildMiniStatement accountNo)
  | .viewAccountSummary args => asAdmin session do
      withArgs args "VIEW_ACCOUNT_SUMMARY requires an account number."
        fun (accountNo, month) => do answer (← dbBuildMonthlySummary fp env accountNo month)
  | .adminDashboard => asAdmin session do answer (← dbBuildSystemSummary env)
  | .recentTransactions limit => asAdmin session do
      withArgs limit "RECENT_TRANSACTIONS limit must be numeric." fun limit => do
        answer (← dbBuildRecentTransactions limit)
  | .lockAccount accountNo => asAdmin session do
      withArgs accountNo "LOCK_ACCOUNT requires an account number." fun accountNo => do
        answerText "Account locked." (← dbLockAccount accountNo)
  | .unlockAccount accountNo => asAdmin session do
      withArgs accountNo "UNLOCK_ACCOUNT requires an account number." fun accountNo => do
        answerText "Account unlocked." (← dbUnlockAccount accountNo)
  | .adminCredit args => asAdmin session do
      withArgs args "ADMIN_CREDIT requires account number and amount."
        fun (accountNo, amount) => do answerAmount (← dbAdminCredit fp env accountNo amount)
  | .adminDebit args => asAdmin session do
      withArgs args "ADMIN_DEBIT requires account number and amount."
        fun (accountNo, amount) => do answerAmount (← dbAdminDebit fp env accountNo amount)
  | .editAccount args => asAdmin session do
      withArgs args ("EDIT_ACCOUNT requires current account number, " ++
          "new account number, new name, and new 4-digit PIN.")
        fun (accountNo, newAccountNo, name, pin) => do
          answerText "Account updated successfully."
            (← dbEditAccount env accountNo newAccountNo name pin)
  | .deleteAccount accountNo => asAdmin session do
      withArgs accountNo "DELETE_ACCOUNT requires an account number." fun accountNo => do
        answerText "Account deleted." (← dbDeleteAccount accountNo)
  | .changeAdminPassword newPassword => asAdmin session do
      withArgs newPassword "CHANGE_ADMIN_PASSWORD requires a new password."
        fun newPassword => do
          answerText "Admin password updated."
            (← dbChangeAdminPassword env session.adminUsername newPassword)
  | .unknown => return (session, errResponse "Unknown command.")

def handleRequest (session : Session) (request : Bytes) : Db (Session × Response) :=
  handleCommand fp env session (parseRequest fp request)

/-! ### Serving clients -/

/-- A message as it arrives, with what the process reads while serving it. -/
structure Message where
  content : Bytes
  env : Environment

structure ServerState where
  store : Store
  session : Session

/-- One turn of the loop of `handle_client`. The message is a C string, which
ends at its first NUL. -/
def ServerState.serve (s : ServerState) (message : Message) : Response × ServerState :=
  let request := message.content.takeWhile (· ≠ 0)
  let ((session, response), store) :=
    (handleRequest fp message.env s.session request).exec fp message.env s.store
  (response, ⟨store, session⟩)

/-- `handle_client` on the messages of one connection: the responses sent and
the database it leaves. -/
def handleClient (store : Store) (messages : List Message) : List Response × Store :=
  let rec loop : ServerState → List Message → List Response × Store
    | s, [] => ([], s.store)
    | s, message :: rest =>
        let (response, s') := s.serve fp message
        let (responses, store) := loop s' rest
        (response :: responses, store)
  loop ⟨store, Session.reset⟩ messages

end AtmSystem.Model
