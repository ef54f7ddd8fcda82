import AtmSystem.Model.Reports

/-!
`client.c`, and the readers of `utils.c` it uses: what a user types becomes a
request. A reader takes a line off the standard input, which it hands on; a
flow that gives up, because a line is missing or not what it asks for, sends no
request. Prompts, menus and what is done with the answer are left out.
-/

namespace AtmSystem.Model

/-! ### Reading lines -/

def discardRemainingStdinLine (stdin : Bytes) : Bytes :=
  (stdin.dropWhile (· ≠ newline)).drop 1

def isLineEnd (b : UInt8) : Bool := b == newline || b == 13

/-- `trim_newline`: without the newlines and carriage returns at its end. -/
def trimNewline (text : Bytes) : Bytes := (text.reverse.dropWhile isLineEnd).reverse

/-- A reader: what it answers, unless it fails, and the input it leaves. -/
abbrev Stdin := StateT Bytes Option

def readLineStdin (bufferSize : Nat) : Stdin Bytes := fun stdin =>
  match fgets bufferSize stdin with
  | none => none
  | some (buffer, rest) =>
      let text := buffer.takeWhile (· ≠ 0)
      let rest := if text ≠ [] ∧ text.getLast? ≠ some newline
        then discardRemainingStdinLine rest else rest
      some (trimNewline text, rest)

def readRequiredTextStdin (bufferSize : Nat) : Stdin Bytes := do
  let trimmed := trimWhitespace (← readLineStdin bufferSize)
  guard (trimmed ≠ [])
  return trimmed

def readIntStdin : Stdin Int := do
  let text ← readLineStdin 128
  StateT.lift (parseInt text)

def readDoubleStdin (fp : Rounding) : Stdin Double := do
  let text ← readLineStdin 128
  StateT.lift (parseDouble fp text)

/-! ### Requests -/

/-- What a flow asks of the server. -/
inductive ClientRequest where
  | createAccount (accountNo : Int) (name : Bytes) (pin : Int)
  | login (accountNo pin : Int)
  | adminLogin (username password : Bytes)
  | monthlySummary (month : Bytes)
  | viewAccountDetails (accountNo : Int)
  | viewAccountStatement (accountNo : Int)
  | viewAccountSummary (accountNo : Int) (month : Bytes)
  | lockAccount (accountNo : Int)
  | unlockAccount (accountNo : Int)
  | editAccount (currentAccountNo newAccountNo : Int) (newName : Bytes) (newPin : Int)
  | deleteAccount (accountNo : Int)
  | recentTransactions (limit : Int)
  | changeAdminPassword (newPassword : Bytes)
  deriving DecidableEq

/-- `snprintf(request, sizeof(request), "COMMAND\n...\n...", ...)`: the fields
behind the command, each on a line of its own. -/
def requestText (command : String) (fields : List Bytes) : Bytes :=
  snprintf maxMessageSize (ascii command ++ (fields.map (newline :: ·)).flatten)

/-- The request as it is sent; numbers are printed with `%d`. -/
def ClientRequest.text : ClientRequest → Bytes
  | .createAccount accountNo name pin =>
      requestText "CREATE_ACCOUNT" [formatInt accountNo, name, formatInt pin]
  | .login accountNo pin => requestText "LOGIN" [formatInt accountNo, formatInt pin]
  | .adminLogin username password => requestText "ADMIN_LOGIN" [username, password]
  | .monthlySummary month => requestText "MONTHLY_SUMMARY" [month]
  | .viewAccountDetails accountNo => requestText "VIEW_ACCOUNT_DETAILS" [formatInt accountNo]
  | .viewAccountStatement accountNo => requestText "VIEW_ACCOUNT_STATEMENT" [formatInt accountNo]
  | .viewAccountSummary accountNo month =>
      requestText "VIEW_ACCOUNT_SUMMARY" [formatInt accountNo, month]
  | .lockAccount accountNo => requestText "LOCK_ACCOUNT" [formatInt accountNo]
  | .unlockAccount accountNo => requestText "UNLOCK_ACCOUNT" [formatInt accountNo]
  | .editAccount currentAccountNo newAccountNo newName newPin =>
      requestText "EDIT_ACCOUNT"
        [formatInt currentAccountNo, formatInt newAccountNo, newName, formatInt newPin]
  | .deleteAccount accountNo => requestText "DELETE_ACCOUNT" [formatInt accountNo]
  | .recentTransactions limit => requestText "RECENT_TRANSACTIONS" [formatInt limit]
  | .changeAdminPassword newPassword => requestText "CHANGE_ADMIN_PASSWORD" [newPassword]

/-! ### Flows -/

/-- `read_int_stdin` followed by the check `account_no <= 0`. -/
def readAccountNo : Stdin Int := do
  let accountNo ← readIntStdin
  guard (0 < accountNo)
  return accountNo

def createAccountFlow : Stdin ClientRequest := do
  let accountNo ← readAccountNo
  let name ← readRequiredTextStdin 64
  let pin ← readIntStdin
  return .createAccount accountNo name pin

def customerLoginFlow : Stdin ClientRequest := do
  let accountNo ← readAccountNo
  let pin ← readIntStdin
  return .login accountNo pin

def adminLoginFlow : Stdin ClientRequest := do
  let username ← readLineStdin 64
  let password ← readLineStdin 64
  return .adminLogin username password

/-- Choice 5 of the customer menu. -/
def monthlySummaryFlow : Stdin ClientRequest := do
  return .monthlySummary (← readLineStdin 16)

/-- `admin_request_for_account_and_print`, for four commands. -/
def adminRequestForAccount (request : Int → ClientRequest) : Stdin ClientRequest := do
  return request (← readAccountNo)

def adminViewAccountSummaryFlow : Stdin ClientRequest := do
  let accountNo ← readAccountNo
  let month ← readLineStdin 16
  return .viewAccountSummary accountNo month

def adminEditAccountFlow : Stdin ClientRequest := do
  let currentAccountNo ← readAccountNo
  let newAccountNo ← readAccountNo
  let newName ← readRequiredTextStdin 64
  let newPin ← readIntStdin
  return .editAccount currentAccountNo newAccountNo newName newPin

def adminDeleteAccountFlow : Stdin ClientRequest := do
  let accountNo ← readAccountNo
  let confirm ← readLineStdin 16
  guard (confirm = ascii "DELETE")
  return .deleteAccount accountNo

def adminRecentTransactionsFlow : Stdin ClientRequest := do
  let limitText ← readLineStdin 16
  let limit ← StateT.lift (if limitText = [] then some 10 else parseInt limitText)
  return .recentTransactions limit

def adminChangePasswordFlow : Stdin ClientRequest := do
  let newPassword ← readRequiredTextStdin 64
  let confirmPassword ← readRequiredTextStdin 64
  guard (newPassword = confirmPassword)
  return .changeAdminPassword newPassword

/-- The flows that build a request from what is typed. -/
def clientFlows : List (Stdin ClientRequest) :=
  [createAccountFlow, customerLoginFlow, adminLoginFlow, monthlySummaryFlow,
   adminRequestForAccount .viewAccountDetails, adminRequestForAccount .viewAccountStatement,
   adminRequestForAccount .lockAccount, adminRequestForAccount .unlockAccount,
   adminViewAccountSummaryFlow, adminEditAccountFlow, adminDeleteAccountFlow,
   adminRecentTransactionsFlow, adminChangePasswordFlow]

/-! ### Amounts -/

/-- What a flow with an amount asks of the server. -/
inductive AmountRequest where
  | deposit (amount : Double)
  | withdraw (amount : Double)
  | transfer (receiverAccount : Int) (amount : Double)
  | adminCredit (accountNo : Int) (amount : Double)
  | adminDebit (accountNo : Int) (amount : Double)
  deriving DecidableEq

/-- The request as it is sent; amounts are printed with `%.2f`. -/
def AmountRequest.text : AmountRequest → Bytes
  | .deposit amount => requestText "DEPOSIT" [formatAmount amount]
  | .withdraw amount => requestText "WITHDRAW" [formatAmount amount]
  | .transfer receiverAccount amount =>
      requestText "TRANSFER" [formatInt receiverAccount, formatAmount amount]
  | .adminCredit accountNo amount =>
      requestText "ADMIN_CREDIT" [formatInt accountNo, formatAmount amount]
  | .adminDebit accountNo amount =>
      requestText "ADMIN_DEBIT" [formatInt accountNo, formatAmount amount]

section flows

variable (fp : Rounding)

/-- Choice 2 of the customer menu. -/
def depositFlow : Stdin AmountRequest := do
  return .deposit (← readDoubleStdin fp)

/-- Choice 3 of the customer menu. -/
def withdrawFlow : Stdin AmountRequest := do
  return .withdraw (← readDoubleStdin fp)

/-- Choice 4 of the customer menu. -/
def transferFlow : Stdin AmountRequest := do
  let receiverAccount ← readAccountNo
  let amount ← readDoubleStdin fp
  return .transfer receiverAccount amount

/-- `admin_adjust_account_flow`, for two commands. -/
def adminAdjustAccountFlow (request : Int → Double → AmountRequest) : Stdin AmountRequest := do
  let accountNo ← readAccountNo
  let amount ← readDoubleStdin fp
  return request accountNo amount

/-- The flows that ask for an amount. -/
def amountFlows : List (Stdin AmountRequest) :=
  [depositFlow fp, withdrawFlow fp, transferFlow fp, adminAdjustAccountFlow fp .adminCredit,
   adminAdjustAccountFlow fp .adminDebit]

end flows

example : (createAccountFlow.run (ascii "7\n  Ada\r\n1234\n")).map Prod.fst =
    some (.createAccount 7 (ascii "Ada") 1234) := by decide

end AtmSystem.Model
