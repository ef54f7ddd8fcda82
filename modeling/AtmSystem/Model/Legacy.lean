import AtmSystem.Model.Auth

/-!
The start of the server: `db_open` with the migration of the two files an
older version left behind, and `db_seed_admin`. What is read out of a legacy
file is read before the statements here; the source reads one record or line
and then inserts it, and stops at the first insertion that fails.
-/

namespace AtmSystem.Model

/-! ### accounts.dat -/

/-- The number whose bytes these are, the lowest one first. -/
def littleEndian (bytes : Bytes) : Nat := bytes.foldr (fun b value => b.toNat + 256 * value) 0

/-- The value of a `float` with these bits. -/
def floatValue (bits : Nat) : Double :=
  let negative : Bool := bits / 2 ^ 31 % 2 = 1
  let exponent : Nat := bits / 2 ^ 23 % 2 ^ 8
  let fraction : Nat := bits % 2 ^ 23
  if exponent = 255 then
    if fraction ≠ 0 then .nan else if negative then .negInf else .posInf
  else
    let magnitude : ℚ :=
      if exponent = 0 then mkRat fraction (2 ^ 149)
      else mkRat ((2 ^ 23 + fraction) * 2 ^ exponent) (2 ^ 150)
    .fin (if negative then -magnitude else magnitude)

structure LegacyAccount where
  accNo : Int
  name : Bytes
  pinHash : UInt64
  balance : Double
  deriving DecidableEq

/-- `sizeof(LegacyAccount)` where an `int` and a `float` have four bytes, a
`long` has eight, and each lies at a multiple of its size. -/
def legacyAccountSize : Nat := 72

/-- A record as it lies in memory; `name` has a NUL among its 50 bytes. -/
def LegacyAccount.ofBytes (record : Bytes) : LegacyAccount where
  accNo := toInt32 (littleEndian (record.take 4))
  name := ((record.drop 4).take 50).takeWhile (· ≠ 0)
  pinHash := UInt64.ofNat (littleEndian ((record.drop 56).take 8))
  balance := floatValue (littleEndian ((record.drop 64).take 4))

/-- What the calls of `fread` deliver until one is short. -/
def readLegacyAccounts (file : Bytes) : List LegacyAccount :=
  (List.range (file.length / legacyAccountSize)).map fun i =>
    .ofBytes ((file.drop (i * legacyAccountSize)).take legacyAccountSize)

/-! ### transactions.txt -/

/-- The calls of `fgets` until the end of the file; each takes a byte at
least. -/
def readLines (size : Nat) (file : Bytes) : List Bytes :=
  let rec loop : Nat → Bytes → List Bytes
    | 0, _ => []
    | calls + 1, file =>
        match fgets size file with
        | none => []
        | some (line, rest) => line :: loop calls rest
  loop file.length file

/-! The directives of `sscanf`, as the C standard gives them. -/

/-- `%<width>[^|]`. -/
def scanField (width : Nat) (text : Bytes) : Option (Bytes × Bytes) :=
  let field := (text.take width).takeWhile (· ≠ 124)
  if field = [] then none else some (field, text.drop field.length)

/-- White space, then the word itself. -/
def scanWord (word : String) (text : Bytes) : Option Bytes :=
  let text := text.dropWhile isspace
  if text.take (ascii word).length = ascii word then some (text.drop (ascii word).length) else none

/-- `%d`. Of a number that is no `int` the low bits are stored. -/
def scanInt (text : Bytes) : Option (Int × Bytes) :=
  (strtol text).map fun (parsed, rest) => (toInt32 parsed, rest)

/-- Whether a number goes on behind where `strtod` stops, as in `1e` or `infi`,
and breaks off: `scanf` has then read more than a number, which ISO C calls a
matching failure. (glibc does not in every case: it takes `1e`, `0x1p` and
`nan(` for the number in front.) -/
def breaksOff (body : Bytes) : Bool :=
  let continues (letter : UInt8) (rest : Bytes) : Bool := rest.head?.map lower = some letter
  let stops (letter : UInt8) (rest : Bytes) : Bool :=
    continues letter rest ∧ (readExponent letter rest).2 = rest
  if let some rest := stripWord (ascii "inf") body then
    continues 105 rest ∧ (stripWord (ascii "infinity") body).isNone
  else if let some rest := stripWord (ascii "nan") body then
    continues 40 rest ∧ ((rest.drop 1).dropWhile isNanChar).head? ≠ some 41
  else if let some rest := stripWord (ascii "0x") body then
    match readMantissa 16 isxdigit hexDigitValue rest with
    | none => true
    | some (_, _, rest) => stops 112 rest
  else
    match readMantissa 10 isdigit digitValue body with
    | none => false
    | some (_, _, rest) => stops 101 rest

section scan

variable (fp : Rounding)

/-- `%lf`, by the rule of ISO C for a number that breaks off. -/
def scanDouble (text : Bytes) : Option Double :=
  if breaksOff (readSign (text.dropWhile isspace)).2 then none
  else (strtod fp text).map Prod.fst

/-- `normalize_legacy_type`. -/
def normalizeLegacyType (input : Bytes) : TransactionType :=
  if input = ascii "Deposit" then .deposit
  else if input = ascii "Withdraw" then .withdraw
  else if input = ascii "Transfer Sent" then .transferSent
  else if input = ascii "Transfer Received" then .transferReceived
  else .legacy

/-- What is inserted for a line. -/
structure LegacyTransaction where
  timestamp : Bytes
  accountNo : Int
  type : TransactionType
  amount : Double
  deriving DecidableEq

/-- `sscanf(line, " %31[^|] | Acc:%d | %63[^|] | Amount: %lf", ...)`, on the
line as a C string. -/
def scanLegacyTransaction (line : Bytes) : Option LegacyTransaction := do
  let text := line.takeWhile (· ≠ 0)
  let (timestamp, rest) ← scanField 31 (text.dropWhile isspace)
  let rest ← scanWord "|" rest
  let rest ← scanWord "Acc:" rest
  let (accountNo, rest) ← scanInt rest
  let rest ← scanWord "|" rest
  let (rawType, rest) ← scanField 63 (rest.dropWhile isspace)
  let rest ← scanWord "|" rest
  let rest ← scanWord "Amount:" rest
  let amount ← scanDouble fp rest
  return ⟨timestamp, accountNo, normalizeLegacyType (trimWhitespace rawType), amount⟩

end scan

/-! ### Migration -/

/-- The files in the working directory; `none` is a file that `fopen` does not
open. -/
structure LegacyFiles where
  accountsDat : Option Bytes
  transactionsTxt : Option Bytes

/-- What a start finds outside the database and the files: what `sqlite3_open`
answers, the salt and the time for each record of accounts.dat, and the two
environment variables. -/
structure Startup where
  opened : Except Bytes Unit
  stamps : Nat → UInt64 × Bytes
  adminUser : Option Bytes
  adminPass : Option Bytes
  env : Environment

/-- `db_count_rows`, on the table of the statement. -/
def dbCountRows (statement : Statement Nat) : Db (Option Int) := do
  return (← executeOrReport statement).map columnInt

/-- The loop over the records, with one prepared statement. -/
def insertLegacyAccounts (stamps : Nat → UInt64 × Bytes) :
    Nat → List LegacyAccount → Db Bool
  | _, [] => return true
  | i, account :: rest => do
      let (salt, timestamp) := stamps i
      match ← .call (.step (.insertOrIgnoreAccount account.accNo account.name
        account.pinHash.toInt64 salt.toInt64 timestamp)) with
      | .error _ => do
          setErrmsg
          return false
      | .ok () => insertLegacyAccounts stamps (i + 1) rest

/-- `migrate_legacy_accounts` and `migrate_legacy_transactions`: unless the
table has rows, prepare the statement and insert what the file holds. -/
def migrateLegacy (count : Statement Nat) (file : Option Bytes) (insert : Bytes → Db Bool) :
    Db Bool := do
  match ← dbCountRows count with
  | none => return false
  | some rows =>
    if rows > 0 then
      return true
    match file with
    | none => return true
    | some content =>
      if !(← .call .prepare) then
        setErrmsg
        return false
      insert content

def migrateLegacyAccounts (accountsDat : Option Bytes) (stamps : Nat → UInt64 × Bytes) : Db Bool :=
  migrateLegacy .countAccounts accountsDat fun content =>
    insertLegacyAccounts stamps 0 (readLegacyAccounts content)

/-- The loop over the lines, with one prepared statement; a line that does not
match is passed over. -/
def insertLegacyTransactions : List LegacyTransaction → Db Bool
  | [] => return true
  | line :: rest => do
      match ← .call (.step (.insertTransaction line.accountNo none line.type line.amount none
        line.timestamp)) with
      | .error _ => do
          setErrmsg
          return false
      | .ok () => insertLegacyTransactions rest

def migrateLegacyTransactions (fp : Rounding) (transactionsTxt : Option Bytes) : Db Bool :=
  migrateLegacy .countTransactions transactionsTxt fun content =>
    insertLegacyTransactions ((readLines 256 content).filterMap (scanLegacyTransaction fp))

/-- `db_open`. What the migrations answer is not looked at. -/
def dbOpen (fp : Rounding) (files : LegacyFiles) (startup : Startup) : Db Bool := do
  match startup.opened with
  | .error message => do
      setError message
      return false
  | .ok () =>
    match ← .call (.step .createSchema) with
    | .error _ => do
        setErrmsg
        return false
    | .ok () =>
      let _ ← migrateLegacyAccounts files.accountsDat startup.stamps
      let _ ← migrateLegacyTransactions fp files.transactionsTxt
      return true

/-- `main` up to the first connection: whether it gets there. -/
def startServer (fp : Rounding) (files : LegacyFiles) (startup : Startup) : Db Bool := do
  if !(← dbOpen fp files startup) then
    return false
  dbSeedAdmin startup.env startup.adminUser startup.adminPass

example : scanLegacyTransaction .exact
    (ascii "2024-01-05 10:00 | Acc:7 | Transfer Sent | Amount: 12.50\n") =
    some ⟨ascii "2024-01-05 10:00 ", 7, .transferSent, .fin (25 / 2)⟩ := by decide +kernel

end AtmSystem.Model
