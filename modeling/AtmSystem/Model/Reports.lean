import AtmSystem.Model.Account

/-!
The reports of `account.c`: they read tables and format text into the payload
buffer of the server, 32768 bytes long. `append_formatted` keeps the buffer
and the count of bytes used; the reports that loop over rows stop with an
error as soon as a line does not fit.
-/

namespace AtmSystem.Model

/-- `ATM_MAX_MESSAGE_SIZE`. -/
def maxMessageSize : Nat := 32768

/-! ### Formatting -/

/-- A text buffer under `append_formatted`: its contents up to the NUL, and
the caller's `used`. -/
structure TextBuffer where
  text : Bytes
  used : Nat

/-- `append_formatted` with a formatted piece; a piece that does not fit is
cut off at the end of the buffer and not counted. -/
def appendFormatted (bufferSize : Nat) (buffer : TextBuffer) (piece : Bytes) :
    Bool × TextBuffer :=
  if bufferSize ≤ buffer.used then (false, buffer)
  else
    let room := bufferSize - buffer.used
    let text := buffer.text.take buffer.used ++ snprintf room piece
    if room ≤ piece.length then (false, { buffer with text := text })
    else (true, { text := text, used := buffer.used + piece.length })

def displayType : TransactionType → Bytes
  | .deposit => ascii "Deposit"
  | .withdraw => ascii "Withdraw"
  | .transferSent => ascii "Transfer Sent"
  | .transferReceived => ascii "Transfer Received"
  | .adminCredit => ascii "Admin Credit"
  | .adminDebit => ascii "Admin Debit"
  | .legacy => ascii "Legacy"

/-- The `details` field of a transaction line. -/
def relatedText (relatedAccount : Option Int) : Bytes :=
  match relatedAccount with
  | none => ascii "-"
  | some other => snprintf 64 (ascii "Other: " ++ formatInt other)

def yesOrNo (flag : Int) : Bytes := if flag ≠ 0 then ascii "Yes" else ascii "No"

def space : Bytes := [32]

/-- The loop over the rows of a query: format one line per row and step to the
next, until a line does not fit or a step fails. -/
def appendRows {Row : Type} (line : Row → Bytes) (exceeded : Bytes) :
    List Row → TextBuffer → Db (Option Bytes)
  | [], buffer => return some buffer.text
  | row :: rest, buffer =>
      match appendFormatted maxMessageSize buffer (line row) with
      | (false, _) => do
          setError exceeded
          return none
      | (true, longer) => do
          if !(← .call .stepAgain) then
            setErrmsg
            return none
          appendRows line exceeded rest longer

/-- A report that lists rows: a header, then one line per row of the query, or
one line saying that there is none. -/
def listingReport {Row : Type} (header : Bytes) (query : Statement (List Row))
    (line : Row → Bytes) (noRows exceeded : Bytes) : Db (Option Bytes) := do
  match appendFormatted maxMessageSize ⟨[], 0⟩ header with
  | (false, _) => do
      setError exceeded
      return none
  | (true, buffer) =>
    match ← executeOrReport query with
    | none => return none
    | some [] => return some (appendFormatted maxMessageSize buffer noRows).2.text
    | some rows => appendRows line exceeded rows buffer

/-! ### Customer reports -/

def statementHeader (info : AccountInfo) : Bytes :=
  ascii "MINI STATEMENT\nAccount Number: " ++ formatInt info.accountNo ++
    ascii "\nAccount Name  : " ++ info.name ++
    ascii "\nCurrent Balance: " ++ formatAmount info.balance ++ ascii "\n\n" ++
    padRight 19 (ascii "Timestamp") ++ space ++ padRight 18 (ascii "Type") ++ space ++
    padRight 12 (ascii "Amount") ++ space ++ padRight 12 (ascii "Balance") ++ space ++
    ascii "Details\n"

def statementLine (row : Transaction) : Bytes :=
  let balanceText := match row.balanceAfter with
    | none => ascii "n/a"
    | some balance => snprintf 32 (formatAmount balance)
  padRight 19 row.createdAt ++ space ++ padRight 18 (displayType row.type) ++ space ++
    padRight 12 (formatAmount row.amount) ++ space ++ padRight 12 balanceText ++ space ++
    relatedText row.relatedAccount ++ [newline]

def dbBuildMiniStatement (accountNo : Int) : Db (Option Bytes) := do
  match ← dbReadAccount accountNo with
  | .failed => return none
  | .notFound => do
      setError (ascii "Account not found.")
      return none
  | .found (info, _, _) =>
    listingReport (statementHeader info) (.selectStatement accountNo 5) statementLine
      (ascii "No transactions found.\n") (ascii "Mini statement output exceeded buffer size.")

/-- `resolve_month`, with what `current_year_month` gives for an empty text. -/
def resolveMonth (env : Environment) (input : Bytes) : Option Bytes :=
  if input = [] then some (snprintf 8 env.yearMonth)
  else if input.length ≠ 7 ∨ input.getD 4 0 ≠ 45 then none
  else if ((input.take 4) ++ (input.drop 5)).all isdigit then some input
  else none

def monthlySummary (fp : Rounding) (info : AccountInfo) (month : Bytes)
    (totals : MonthTotals) : Bytes :=
  let netChange := (((totals.deposits.add fp totals.transfersReceived).sub fp
    totals.withdrawals).sub fp totals.transfersSent)
  snprintf maxMessageSize
    (ascii "MONTHLY SUMMARY\nAccount Number   : " ++ formatInt info.accountNo ++
      ascii "\nAccount Name     : " ++ info.name ++
      ascii "\nPeriod           : " ++ month ++
      ascii "\nTransactions     : " ++ formatInt (columnInt totals.count) ++
      ascii "\nDeposits         : " ++ formatAmount totals.deposits ++
      ascii "\nWithdrawals      : " ++ formatAmount totals.withdrawals ++
      ascii "\nTransfers Sent   : " ++ formatAmount totals.transfersSent ++
      ascii "\nTransfers Received: " ++ formatAmount totals.transfersReceived ++
      ascii "\nNet Change       : " ++ formatAmount netChange ++
      ascii "\nCurrent Balance  : " ++ formatAmount info.balance ++ [newline])

def dbBuildMonthlySummary (fp : Rounding) (env : Environment) (accountNo : Int)
    (month : Bytes) : Db (Option Bytes) := do
  match resolveMonth env month with
  | none => do
      setError (ascii "Month must use YYYY-MM format.")
      return none
  | some resolvedMonth =>
  match ← dbReadAccount accountNo with
  | .failed => return none
  | .notFound => do
      setError (ascii "Account not found.")
      return none
  | .found (info, _, _) =>
    match ← executeOrReport (.selectMonth accountNo resolvedMonth) with
    | none => return none
    | some totals => return some (monthlySummary fp info resolvedMonth totals)

/-! ### Admin reports -/

def listingHeader : Bytes :=
  ascii "ALL ACCOUNTS\n\n" ++ padRight 10 (ascii "Acc No") ++ space ++
    padRight 24 (ascii "Name") ++ space ++ padRight 12 (ascii "Balance") ++ space ++
    padRight 10 (ascii "Locked") ++ space ++ ascii "Failed Attempts\n"

def listingLine (row : Account) : Bytes :=
  padRight 10 (formatInt row.accountNo) ++ space ++ padRight 24 (row.name.take 24) ++ space ++
    padRight 12 (formatAmount row.balance) ++ space ++ padRight 10 (yesOrNo row.isLocked) ++
    space ++ formatInt row.failedAttempts ++ [newline]

def dbBuildAccountListing : Db (Option Bytes) :=
  listingReport listingHeader .selectAccounts listingLine (ascii "No accounts found.\n")
    (ascii "Account listing output exceeded buffer size.")

def accountDetails (accountNo : Int) (row : Account) (latestActivity : Bytes) : Bytes :=
  snprintf maxMessageSize
    (ascii "ACCOUNT DETAILS\nAccount Number : " ++ formatInt accountNo ++
      ascii "\nName           : " ++ snprintf 64 row.name ++
      ascii "\nBalance        : " ++ formatAmount row.balance ++
      ascii "\nLocked         : " ++ yesOrNo row.isLocked ++
      ascii "\nFailed Attempts: " ++ formatInt row.failedAttempts ++
      ascii "\nCreated At     : " ++ snprintf 32 row.createdAt ++
      ascii "\nLatest Activity: " ++ latestActivity ++ [newline])

/-- The step of the second query is not checked: without a row, whatever the
reason, the report says that there are no transactions. -/
def dbBuildAccountDetails (accountNo : Int) : Db (Option Bytes) := do
  match ← execute (.selectAccount accountNo) with
  | .error .notPrepared => do
      setErrmsg
      return none
  | .error _ | .ok none => do
      setError (ascii "Account not found.")
      return none
  | .ok (some row) =>
    match ← execute (.selectStatement accountNo 1) with
    | .error .notPrepared => do
        setErrmsg
        return none
    | .error _ | .ok [] =>
        return some (accountDetails accountNo row (ascii "No transactions yet"))
    | .ok (t :: _) =>
        return some (accountDetails accountNo row (snprintf 128
          (t.createdAt ++ ascii " | " ++ displayType t.type ++ ascii " | " ++
            formatAmount t.amount)))

def systemSummary (totals : SystemTotals) (topAccountNo : Int) (topName : Bytes)
    (topBalance : Double) : Bytes :=
  snprintf maxMessageSize
    (ascii "ADMIN DASHBOARD\nTotal Accounts     : " ++ formatInt (columnInt totals.totalAccounts) ++
      ascii "\nLocked Accounts    : " ++ formatInt (columnInt totals.lockedAccounts) ++
      ascii "\nTotal Bank Balance : " ++ formatAmount totals.totalBalance ++
      ascii "\nTotal Transactions : " ++ formatInt (columnInt totals.totalTransactions) ++
      ascii "\nToday's Transactions: " ++ formatInt (columnInt totals.todaysTransactions) ++
      ascii "\nAdmin Users        : " ++ formatInt (columnInt totals.totalAdmins) ++
      ascii "\nHighest Balance    : " ++ formatInt topAccountNo ++ ascii " | " ++ topName ++
      ascii " | " ++ formatAmount topBalance ++ [newline])

def dbBuildSystemSummary (env : Environment) : Db (Option Bytes) := do
  match ← executeOrReport (.selectSystem (env.timestamp.take 10)) with
  | none => return none
  | some totals =>
    match ← execute .selectTopAccount with
    | .error .notPrepared => do
        setErrmsg
        return none
    | .error _ | .ok none => return some (systemSummary totals 0 (ascii "N/A") 0)
    | .ok (some row) =>
        return some (systemSummary totals row.accountNo (snprintf 64 row.name) row.balance)

def recentHeader : Bytes :=
  ascii "RECENT TRANSACTIONS\n\n" ++ padRight 19 (ascii "Timestamp") ++ space ++
    padRight 10 (ascii "Acc No") ++ space ++ padRight 18 (ascii "Type") ++ space ++
    padRight 12 (ascii "Amount") ++ space ++ ascii "Details\n"

def recentLine (row : Transaction) : Bytes :=
  padRight 19 row.createdAt ++ space ++ padRight 10 (formatInt row.accountNo) ++ space ++
    padRight 18 (displayType row.type) ++ space ++ padRight 12 (formatAmount row.amount) ++
    space ++ relatedText row.relatedAccount ++ [newline]

/-- `limit` clamped to 1..25, 10 standing for anything below. -/
def clampLimit (limit : Int) : Nat :=
  if limit ≤ 0 then 10 else if 25 < limit then 25 else limit.toNat

def dbBuildRecentTransactions (limit : Int) : Db (Option Bytes) :=
  listingReport recentHeader (.selectRecent (clampLimit limit)) recentLine
    (ascii "No transactions found.\n") (ascii "Recent transaction output exceeded buffer size.")

end AtmSystem.Model
