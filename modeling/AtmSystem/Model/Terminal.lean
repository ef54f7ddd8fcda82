import AtmSystem.Library.Loop
import AtmSystem.Model.Client

/-!
The client as it runs: `main` of `client.c` from the connection on, with its
menus, its flows and the readers of `utils.c`, as programs over the calls they
make. `AtmSystem.Model.Client` has the flows as far as they say what is asked
for; here stand also the prompts, what is printed and written, and what becomes
of the input when a line is missing. A loop is run on fuel.
-/

namespace AtmSystem.Model

open Library

/-! ### The standard input -/

/-- What is still to be read, or that the end has been seen: `feof(stdin)`. -/
inductive Input where
  | more (bytes : Bytes)
  | ended

namespace Input

def rest : Input → Bytes
  | .more bytes => bytes
  | .ended => []

def feof : Input → Bool
  | .more _ => false
  | .ended => true

/-- `fgets`. It sees the end when it looks for a byte that is not there. -/
def fgets (size : Nat) : Input → Option Bytes × Input
  | .ended => (none, .ended)
  | .more bytes =>
      match Model.fgets size bytes with
      | none => (none, .ended)
      | some (buffer, rest) =>
          if buffer.getLast? ≠ some newline ∧ buffer.length < size - 1 then (some buffer, .ended)
          else (some buffer, .more rest)

def discardRemainingStdinLine : Input → Input
  | .ended => .ended
  | .more bytes =>
      match bytes.dropWhile (· ≠ newline) with
      | [] => .ended
      | _ :: rest => .more rest

/-- `read_line_stdin` behind its prompt. -/
def readLineStdin (bufferSize : Nat) (input : Input) : Option Bytes × Input :=
  match input.fgets bufferSize with
  | (none, input') => (none, input')
  | (some buffer, input') =>
      let text := buffer.takeWhile (· ≠ 0)
      (some (trimNewline text),
        if text ≠ [] ∧ text.getLast? ≠ some newline then input'.discardRemainingStdinLine
        else input')

end Input

/-! ### What is printed -/

/-- The texts the client prints: a prompt or a complaint, what the server has
sent, a menu, or a result. -/
inductive Notice where
  | text (content : String)
  | payload (content : Bytes)
  | mainMenu
  | customerMenu (customerName : Bytes) (accountNo : Int)
  | adminMenu
  | welcome (name : Bytes)
  | balance (amount : Bytes)
  | newBalance (actionLabel : String) (amount : Bytes)
  | statementWritten (filename : Bytes)
  | statementNotWritten (filename : Bytes)

def Notice.shown : Notice → Bytes
  | .text content => ascii content
  | .payload content => content ++ [newline]
  | .mainMenu => ascii ("\n==== MINI ATM CLIENT ====\n1. Create Account\n2. Customer Login\n" ++
      "3. Admin Login\n4. Exit\n")
  | .customerMenu customerName accountNo =>
      ascii "\n==== CUSTOMER MENU ====\nLogged in as " ++ customerName ++ ascii " (Acc:" ++
        formatInt accountNo ++ ascii (")\n1. Check Balance\n2. Deposit\n3. Withdraw\n" ++
          "4. Transfer\n5. Monthly Transaction Summary\n6. Print Mini Statement\n7. Logout\n")
  | .adminMenu => ascii ("\n==== ADMIN MENU ====\n1. View All Accounts\n" ++
      "2. View Account Details\n3. View Customer Mini Statement\n" ++
      "4. View Customer Monthly Summary\n5. Lock Account\n6. Unlock Account\n" ++
      "7. Credit Account\n8. Debit Account\n9. Edit Account\n10. Delete Account\n" ++
      "11. Admin Dashboard\n12. Recent Transactions\n13. Change Admin Password\n14. Logout\n")
  | .welcome name => ascii "Login successful. Welcome, " ++ name ++ ascii ".\n"
  | .balance amount => ascii "Balance: " ++ amount ++ [newline]
  | .newBalance actionLabel amount =>
      ascii actionLabel ++ ascii " successful. New balance: " ++ amount ++ [newline]
  | .statementWritten filename =>
      ascii "Mini statement written to " ++ filename ++ [newline]
  | .statementNotWritten filename =>
      ascii "Mini statement generated, but failed to write " ++ filename ++ ascii ".\n"

/-! ### Calls -/

inductive ConsoleOp : Type → Type where
  | printf (notice : Notice) : ConsoleOp Unit
  /-- `read_line_stdin` behind its prompt: nothing at the end of the input. -/
  | readLine (bufferSize : Nat) : ConsoleOp (Option Bytes)
  | feof : ConsoleOp Bool
  /-- `request_server`: nothing for -1, or whether the status is OK, with the payload. -/
  | requestServer (request : Bytes) : ConsoleOp (Option (Bool × Bytes))
  /-- A file opened for writing, written and closed: whether it could be opened. -/
  | writeFile (filename content : Bytes) : ConsoleOp Bool

abbrev Console := Program ConsoleOp

namespace Terminal

def printf (notice : Notice) : Console Unit := .call (.printf notice)

/-! ### Reading lines -/

def readLineStdin (prompt : String) (bufferSize : Nat) : Console (Option Bytes) := do
  printf (.text prompt)
  .call (.readLine bufferSize)

/-- What a reader makes of the line. -/
def readWith {α : Type} (prompt : String) (bufferSize : Nat) (read : Bytes → Option α) :
    Console (Option α) := do
  return (← readLineStdin prompt bufferSize).bind read

/-- The test of `read_required_text_stdin`. -/
def requiredText (line : Bytes) : Option Bytes :=
  let trimmed := trimWhitespace line
  if trimmed = [] then none else some trimmed

def readRequiredTextStdin (prompt : String) (bufferSize : Nat) : Console (Option Bytes) :=
  readWith prompt bufferSize requiredText

def readIntStdin (prompt : String) : Console (Option Int) := readWith prompt 128 parseInt

def readDoubleStdin (fp : Rounding) (prompt : String) : Console (Option Double) :=
  readWith prompt 128 (parseDouble fp)

/-- `parse_int` and the check `account_no <= 0`. -/
def positiveInt (line : Bytes) : Option Int := do
  let accountNo ← parseInt line
  if 0 < accountNo then some accountNo else none

def readAccountNo (prompt : String) : Console (Option Int) := readWith prompt 128 positiveInt

/-- What is asked for, or a complaint and `otherwise`. -/
def ask {α β : Type} (reader : Console (Option α)) (complaint : String) (otherwise : β)
    (next : α → Console β) : Console β := do
  match ← reader with
  | none =>
      printf (.text complaint)
      return otherwise
  | some a => next a

/-! ### Requests -/

/-- `request_server`, and `lost` when it answers -1. -/
def withAnswer {β : Type} (request : Bytes) (lost : β) (next : Bool → Bytes → Console β) :
    Console β := do
  match ← .call (.requestServer request) with
  | none => return lost
  | some (ok, payload) => next ok payload

/-- `admin_request_and_print`, and the end of the flows that print the payload
whatever the status is. -/
def requestAndPrint (request : Bytes) : Console Bool :=
  withAnswer request false fun _ payload => do
    printf (.payload payload)
    return true

/-- The end of a choice of the customer menu that names its result. -/
def requestAndShow (request : Bytes) (success : Bytes → Notice) : Console (Option Bool) :=
  withAnswer request (some false) fun ok payload => do
    printf (if ok then success payload else .payload payload)
    return none

/-! ### Flows -/

def createAccountFlow : Console Bool :=
  ask (readAccountNo "Enter Account Number: ") "Invalid account number.\n" true fun accountNo =>
  ask (readRequiredTextStdin "Enter Name: " 64) "Name cannot be empty.\n" true fun name =>
  ask (readIntStdin "Set 4-digit PIN: ") "Invalid PIN.\n" true fun pin =>
  requestAndPrint (ClientRequest.createAccount accountNo name pin).text

/-- `admin_request_for_account_and_print`. -/
def adminRequestForAccount (request : Int → ClientRequest) (prompt : String) : Console Bool :=
  ask (readAccountNo prompt) "Invalid account number.\n" true fun accountNo =>
  requestAndPrint (request accountNo).text

def monthPrompt : String := "Enter month (YYYY-MM) or press Enter for current month: "

def adminViewAccountSummaryFlow : Console Bool :=
  ask (readAccountNo "Enter account number: ") "Invalid account number.\n" true fun accountNo =>
  ask (readLineStdin monthPrompt 16) "Invalid month.\n" true fun month =>
  requestAndPrint (ClientRequest.viewAccountSummary accountNo month).text

/-- `admin_adjust_account_flow`. -/
def adminAdjustAccountFlow (fp : Rounding) (request : Int → Double → AmountRequest)
    (actionLabel : String) : Console Bool :=
  ask (readAccountNo "Enter account number: ") "Invalid account number.\n" true fun accountNo =>
  ask (readDoubleStdin fp "Enter amount: ") "Invalid amount.\n" true fun amount =>
  withAnswer (request accountNo amount).text false fun ok payload => do
    if ok then
      printf (.newBalance actionLabel payload)
      return true
    printf (.payload payload)
    return true

def adminEditAccountFlow : Console Bool :=
  ask (readAccountNo "Enter current account number: ") "Invalid current account number.\n" true
    fun currentAccountNo =>
  ask (readAccountNo "Enter new account number: ") "Invalid new account number.\n" true
    fun newAccountNo =>
  ask (readRequiredTextStdin "Enter new name: " 64) "Name cannot be empty.\n" true fun newName =>
  ask (readIntStdin "Enter new 4-digit PIN/password: ") "Invalid PIN.\n" true fun newPin =>
  requestAndPrint (ClientRequest.editAccount currentAccountNo newAccountNo newName newPin).text

/-- The line that has to be typed before an account is deleted. -/
def confirmed (line : Bytes) : Option Unit := if line = ascii "DELETE" then some () else none

def adminDeleteAccountFlow : Console Bool :=
  ask (readAccountNo "Enter account number to delete: ") "Invalid account number.\n" true
    fun accountNo =>
  ask (readWith "Type DELETE to confirm: " 16 confirmed) "Delete cancelled.\n" true fun _ =>
  requestAndPrint (ClientRequest.deleteAccount accountNo).text

/-- Nothing typed is 10. -/
def limitOf (limitText : Bytes) : Option Int :=
  if limitText = [] then some 10 else parseInt limitText

def adminRecentTransactionsFlow : Console Bool :=
  ask (readLineStdin "Enter number of recent transactions (default 10): " 16) "Invalid value.\n"
    true fun limitText =>
  ask (return limitOf limitText) "Invalid limit.\n" true fun limit =>
  requestAndPrint (ClientRequest.recentTransactions limit).text

def adminChangePasswordFlow : Console Bool :=
  ask (readRequiredTextStdin "Enter new admin password: " 64) "Password cannot be empty.\n" true
    fun newPassword =>
  ask (readRequiredTextStdin "Confirm new admin password: " 64)
    "Password confirmation cannot be empty.\n" true fun confirmPassword =>
  ask (return if newPassword = confirmPassword then some () else none)
    "Passwords do not match.\n" true fun _ =>
  requestAndPrint (ClientRequest.changeAdminPassword newPassword).text

/-! ### Menus -/

/-- The head of the three loops: the menu is printed and a choice is read. At
the end of the input the loop is left. -/
def choose {α : Type} (menu : Notice) (atEnd : α) (branch : Int → Console (Option α)) :
    Console (Option α) := do
  printf menu
  match ← readIntStdin "Choose: " with
  | none =>
      if ← .call .feof then
        return some atEnd
      printf (.text "Invalid menu option.\n")
      return none
  | some choice => branch choice

def invalidOption {α : Type} : Console (Option α) := do
  printf (.text "Invalid menu option.\n")
  return none

/-- A flow that answers 0 ends the loop, which then returns 0. -/
def unlessLost (flow : Console Bool) : Console (Option Bool) := do
  return if ← flow then none else some false

/-- Choice 6: the statement is printed and written to a file. -/
def printMiniStatement (accountNo : Int) : Console (Option Bool) :=
  withAnswer (requestText "MINI_STATEMENT" []) (some false) fun ok payload => do
    printf (.payload payload)
    if !ok then
      return none
    let filename := snprintf 64 (ascii "mini_statement_" ++ formatInt accountNo ++ ascii ".txt")
    if ← .call (.writeFile filename (payload ++ [newline])) then
      printf (.statementWritten filename)
    else
      printf (.statementNotWritten filename)
    return none

/-- One turn of the loop of `customer_menu`: nothing to go on, or what the
function returns. -/
def customerMenu.turn (fp : Rounding) (accountNo : Int) (customerName : Bytes) :
    Console (Option Bool) :=
  choose (.customerMenu customerName accountNo) false fun choice =>
    if choice = 1 then
      requestAndShow (requestText "BALANCE" []) .balance
    else if choice = 2 then
      ask (readDoubleStdin fp "Enter amount to deposit: ") "Invalid amount.\n" none fun amount =>
      requestAndShow (AmountRequest.deposit amount).text (.newBalance "Deposit")
    else if choice = 3 then
      ask (readDoubleStdin fp "Enter amount to withdraw: ") "Invalid amount.\n" none fun amount =>
      requestAndShow (AmountRequest.withdraw amount).text (.newBalance "Withdrawal")
    else if choice = 4 then
      ask (readAccountNo "Enter Receiver Account Number: ") "Invalid receiver account number.\n"
        none fun receiverAccount =>
      ask (readDoubleStdin fp "Enter Amount: ") "Invalid amount.\n" none fun amount =>
      requestAndShow (AmountRequest.transfer receiverAccount amount).text (.newBalance "Transfer")
    else if choice = 5 then
      ask (readLineStdin monthPrompt 16) "Invalid month.\n" none fun month =>
      unlessLost (requestAndPrint (ClientRequest.monthlySummary month).text)
    else if choice = 6 then
      printMiniStatement accountNo
    else if choice = 7 then do
      return some (← requestAndPrint (requestText "LOGOUT" []))
    else invalidOption

/-- `customer_menu`; nothing when the fuel is used up. -/
def customerMenu (fp : Rounding) (fuel : Nat) (accountNo : Int) (customerName : Bytes) :
    Console (Option Bool) :=
  .loop (customerMenu.turn fp accountNo customerName) fuel

/-- One turn of the loop of `admin_menu`. -/
def adminMenu.turn (fp : Rounding) : Console (Option Bool) :=
  choose .adminMenu false fun choice =>
    if choice = 1 then unlessLost (requestAndPrint (requestText "LIST_ACCOUNTS" []))
    else if choice = 2 then
      unlessLost (adminRequestForAccount .viewAccountDetails "Enter account number: ")
    else if choice = 3 then
      unlessLost (adminRequestForAccount .viewAccountStatement "Enter account number: ")
    else if choice = 4 then unlessLost adminViewAccountSummaryFlow
    else if choice = 5 then
      unlessLost (adminRequestForAccount .lockAccount "Enter account number to lock: ")
    else if choice = 6 then
      unlessLost (adminRequestForAccount .unlockAccount "Enter account number to unlock: ")
    else if choice = 7 then unlessLost (adminAdjustAccountFlow fp .adminCredit "Credit")
    else if choice = 8 then unlessLost (adminAdjustAccountFlow fp .adminDebit "Debit")
    else if choice = 9 then unlessLost adminEditAccountFlow
    else if choice = 10 then unlessLost adminDeleteAccountFlow
    else if choice = 11 then unlessLost (requestAndPrint (requestText "ADMIN_DASHBOARD" []))
    else if choice = 12 then unlessLost adminRecentTransactionsFlow
    else if choice = 13 then unlessLost adminChangePasswordFlow
    else if choice = 14 then do
      return some (← requestAndPrint (requestText "LOGOUT" []))
    else invalidOption

def adminMenu (fp : Rounding) (fuel : Nat) : Console (Option Bool) :=
  .loop (adminMenu.turn fp) fuel

/-- `customer_login_flow`, with the menu behind the login. -/
def customerLoginFlow (fp : Rounding) (fuel : Nat) : Console (Option Bool) :=
  ask (readAccountNo "Enter Account Number: ") "Invalid account number.\n" (some true)
    fun accountNo =>
  ask (readIntStdin "Enter PIN: ") "Invalid PIN.\n" (some true) fun pin =>
  withAnswer (ClientRequest.login accountNo pin).text (some false) fun ok payload => do
    if !ok then
      printf (.payload payload)
      return some true
    printf (.welcome payload)
    customerMenu fp fuel accountNo payload

/-- `admin_login_flow`, with the menu behind the login. -/
def adminLoginFlow (fp : Rounding) (fuel : Nat) : Console (Option Bool) :=
  ask (readLineStdin "Enter admin username: " 64) "Invalid username.\n" (some true)
    fun username =>
  ask (readLineStdin "Enter admin password: " 64) "Invalid password.\n" (some true)
    fun password =>
  withAnswer (ClientRequest.adminLogin username password).text (some false) fun ok payload => do
    if !ok then
      printf (.payload payload)
      return some true
    printf (.payload payload)
    adminMenu fp fuel

/-- How the loop of `main` goes on behind a flow: a flow that answers 0 is
where it breaks, a flow without fuel leaves it without an end. -/
def afterFlow (flow : Console (Option Bool)) : Console (Option (Option Unit)) := do
  match ← flow with
  | none => return some none
  | some true => return none
  | some false => return some (some ())

/-- One turn of the loop of `main`. -/
def mainTurn (fp : Rounding) (fuel : Nat) : Console (Option (Option Unit)) :=
  choose .mainMenu (some ()) fun choice =>
    if choice = 1 then afterFlow (do return some (← createAccountFlow))
    else if choice = 2 then afterFlow (customerLoginFlow fp fuel)
    else if choice = 3 then afterFlow (adminLoginFlow fp fuel)
    else if choice = 4 then return some (some ())
    else invalidOption

/-- `main` from the connection on. It says nothing when the fuel is used up. -/
def clientMain (fp : Rounding) (fuel : Nat) : Console (Option Unit) := do
  match ← Program.loop (mainTurn fp fuel) fuel with
  | some (some ()) =>
      printf (.text "Disconnected from ATM server.\n")
      return some ()
  | _ => return none

end Terminal

end AtmSystem.Model
