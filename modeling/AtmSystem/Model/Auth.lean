import AtmSystem.Model.Database

/-!
`auth.c`: account creation, customer and admin login, and the admin password.
A function that returns an `int` is a program answering `Bool`; where it also
fills an output parameter on success it answers an `Option`. The checks of the
source for a missing handle or a NULL string are left out: no caller passes
either.
-/

namespace AtmSystem.Model

/-- One step of the assembly of `hash_input[512]`: a piece that does not fit
behind what is already there is skipped. -/
def appendIfFits (input piece : Bytes) : Bytes :=
  if input.length + piece.length ≤ 512 then input ++ piece else input

/-- The bytes that are hashed, assembled from their pieces in order. -/
def hashInput (pieces : List Bytes) : Bytes := pieces.foldl appendIfFits []

/-- The salt always fits. -/
theorem hashInput_salt (salt : UInt64) (piece : Bytes) :
    hashInput [wordBytes salt, piece] = appendIfFits (wordBytes salt) piece := rfl

/-- The first eight digest bytes as an `unsigned long long`. -/
def digest64 (input : Bytes) : UInt64 := wordOfBytes (sha256 input)

/-- `pin_str`. -/
def pinText (pin : Int) : Bytes := snprintf 16 (formatInt pin)

/-- The hash of a PIN, as account creation, login and edit compute it. -/
def pinDigest (salt : UInt64) (pin : Int) : UInt64 :=
  digest64 (hashInput [wordBytes salt, pinText pin])

/-- The hash of an admin password, as seeding, login and change compute it. -/
def adminDigest (salt : UInt64) (username password : Bytes) : UInt64 :=
  digest64 (hashInput [wordBytes salt, username, password])

/-- `seed_default_admin`, with the two environment variables it reads. -/
def seedDefaultAdmin (env : Environment) (adminUser adminPass : Option Bytes) : Db Bool := do
  match ← executeOrReport .countAdmins with
  | none => return false
  | some count =>
    if count > 0 then
      return true
    let user := adminUser.getD []
    let pass := adminPass.getD []
    if user = [] ∨ pass = [] then
      setError (ascii ("ATM_ADMIN_USERNAME and ATM_ADMIN_PASSWORD environment " ++
        "variables must be set on first run."))
      return false
    if pass.length < 8 then
      setError (ascii "Admin password must be at least 8 characters.")
      return false
    let salt := env.salt
    let passwordHash := adminDigest salt user pass
    return (← executeOrReport (.insertAdmin
      { username := user, passwordHash := passwordHash.toInt64,
        passwordSalt := salt.toInt64, createdAt := env.timestamp })).isSome

def dbSeedAdmin (env : Environment) (adminUser adminPass : Option Bytes) : Db Bool :=
  seedDefaultAdmin env adminUser adminPass

def dbCreateAccount (env : Environment) (accountNo : Int) (name : Bytes) (pin : Int) :
    Db Bool := do
  if accountNo ≤ 0 then
    setError (ascii "Account number must be positive.")
    return false
  if pin < 1000 ∨ 9999 < pin then
    setError (ascii "PIN must be a 4-digit number.")
    return false
  let trimmedName := trimWhitespace (snprintf 64 name)
  if trimmedName = [] then
    setError (ascii "Account name is required.")
    return false
  let salt := env.salt
  let pinHash := pinDigest salt pin
  match ← execute (.insertAccount
    { accountNo := accountNo, name := trimmedName, pinHash := pinHash.toInt64,
      salt := salt.toInt64, balance := 0, failedAttempts := 0, isLocked := 0,
      createdAt := env.timestamp }) with
  | .ok () => return true
  | .error .constraint => do
      setError (ascii "Account number already exists.")
      return false
  | .error _ => do
      setErrmsg
      return false

def dbLogin (accountNo pin : Int) : Db (Option AccountInfo) := do
  if pin < 1000 ∨ 9999 < pin then
    setError (ascii "PIN must be a 4-digit number.")
    return none
  match ← dbReadAccount accountNo with
  | .failed => return none
  | .notFound => do
      setError (ascii "Invalid account number or PIN.")
      return none
  | .found (info, storedPinHash, salt) =>
    if info.isLocked ≠ 0 then
      setError (ascii "Account is locked after 3 failed login attempts. Contact an admin.")
      return none
    if storedPinHash ≠ pinDigest salt pin then
      let failedAttempts := info.failedAttempts + 1
      let isLocked : Int := if 3 ≤ failedAttempts then 1 else 0
      if !(← dbUpdateLoginState accountNo failedAttempts isLocked) then
        return none
      if isLocked ≠ 0 then
        setError (ascii "Account locked after 3 failed login attempts.")
      else
        setError (ascii "Invalid account number or PIN. Remaining attempts: " ++
          formatInt (3 - failedAttempts) ++ ascii ".")
      return none
    if !(← dbUpdateLoginState accountNo 0 0) then
      return none
    return some { info with failedAttempts := 0, isLocked := 0 }

def dbAdminLogin (username password : Bytes) : Db Bool := do
  if username = [] ∨ password = [] then
    setError (ascii "Admin username and password are required.")
    return false
  match ← execute (.selectAdmin username) with
  | .error .notPrepared => do
      setErrmsg
      return false
  | .error _ | .ok none => do
      setError (ascii "Invalid admin credentials.")
      return false
  | .ok (some row) =>
    let storedHash := row.passwordHash.toUInt64
    let storedSalt := row.passwordSalt.toUInt64
    if storedHash ≠ adminDigest storedSalt username password then
      setError (ascii "Invalid admin credentials.")
      return false
    return true

def dbChangeAdminPassword (env : Environment) (username newPassword : Bytes) : Db Bool := do
  if username = [] then
    setError (ascii "Admin username is required.")
    return false
  let trimmedPassword := trimWhitespace (snprintf 128 newPassword)
  if trimmedPassword = [] then
    setError (ascii "New admin password is required.")
    return false
  if trimmedPassword.length < 8 then
    setError (ascii "New admin password must be at least 8 characters.")
    return false
  let newSalt := env.salt
  let passwordHash := adminDigest newSalt username trimmedPassword
  match ← executeOrReport
    (.updateAdminPassword passwordHash.toInt64 newSalt.toInt64 username) with
  | none => return false
  | some changes =>
    if changes = 0 then
      setError (ascii "Admin account not found.")
      return false
    return true

end AtmSystem.Model
