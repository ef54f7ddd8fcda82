import AtmSystem.Model.Auth

/-!
What the server is for, without statements, failures and messages: the actions
on a bank and the states they lead to. `Action.Performs` is the specification
that the `db_*` functions are compared with. Each constructor states one way
an action can be performed, the conditions under which it is and the tables it
leaves; an action that no constructor covers is refused.
-/

namespace AtmSystem.Bank

open Library Model

/-- The operations on one balance. -/
inductive Movement where
  | deposit
  | withdraw
  | adminCredit
  | adminDebit
  deriving DecidableEq

namespace Movement

def isCredit : Movement → Bool
  | .deposit | .adminCredit => true
  | .withdraw | .adminDebit => false

/-- The type under which the movement is recorded. -/
def type : Movement → TransactionType
  | .deposit => .deposit
  | .withdraw => .withdraw
  | .adminCredit => .adminCredit
  | .adminDebit => .adminDebit

def newBalance (fp : Rounding) (kind : Movement) (balance amount : Double) : Double :=
  if kind.isCredit then balance.add fp amount else balance.sub fp amount

/-- A movement that is covered adds the amount or takes off no more than the
balance. -/
theorem newBalance_cases {fp : Rounding} {kind : Movement} {balance amount : Double}
    (P : Double → Prop) (hfunds : kind.isCredit = true ∨ amount ≤ balance)
    (hadd : kind.isCredit = true → P (balance.add fp amount))
    (hsub : amount ≤ balance → P (balance.sub fp amount)) :
    P (kind.newBalance fp balance amount) := by
  cases hcredit : kind.isCredit with
  | true =>
      simp only [newBalance, hcredit, if_true]
      exact hadd hcredit
  | false =>
      simp only [hcredit, Bool.false_eq_true, false_or] at hfunds
      simp only [newBalance, hcredit, Bool.false_eq_true, if_false]
      exact hsub hfunds

end Movement

/-- Set a balance and record the transaction that led to it. -/
def book (t : Tables) (accountNo : Int) (relatedAccount : Option Int)
    (type : TransactionType) (amount newBalance : Double) (createdAt : Bytes) : Tables :=
  (t.setBalance accountNo newBalance).insertTransaction
    (fun id => ⟨id, accountNo, relatedAccount, type, amount, some newBalance, createdAt⟩)
    (fun _ => rfl)

/-- The name an account is given. -/
def storedName (name : Bytes) : Bytes := trimWhitespace (snprintf 64 name)

/-- The password an admin is given by a change. -/
def storedPassword (newPassword : Bytes) : Bytes := trimWhitespace (snprintf 128 newPassword)

def newAccount (accountNo : Int) (name : Bytes) (pin : Int) (salt : UInt64)
    (createdAt : Bytes) : Account where
  accountNo := accountNo
  name := storedName name
  pinHash := (pinDigest salt pin).toInt64
  salt := salt.toInt64
  balance := 0
  failedAttempts := 0
  isLocked := 0
  createdAt := createdAt

/-- The row that takes the place of `row` under a new number. -/
def renumbered (row : Account) (newAccountNo : Int) (name : Bytes) (pin : Int)
    (salt : UInt64) : Account :=
  { row with
    accountNo := newAccountNo
    name := storedName name
    pinHash := (pinDigest salt pin).toInt64
    salt := salt.toInt64
    createdAt := snprintf 32 row.createdAt }

@[simp] theorem newAccount_accountNo (accountNo : Int) (name : Bytes) (pin : Int)
    (salt : UInt64) (createdAt : Bytes) :
    (newAccount accountNo name pin salt createdAt).accountNo = accountNo := rfl

/-- Put `row` in the place of an account and let its history follow. -/
def renumber (t : Tables) (accountNo newAccountNo : Int) (row : Account) : Tables :=
  (((t.insertAccount row).moveTransactions newAccountNo accountNo).setRelated
    (some newAccountNo) accountNo).deleteAccount accountNo

/-- Take an account and its history out of the tables. -/
def close (t : Tables) (accountNo : Int) : Tables :=
  ((t.setRelated none accountNo).deleteTransactions accountNo).deleteAccount accountNo

inductive Action where
  | create (accountNo : Int) (name : Bytes) (pin : Int) (salt : UInt64) (createdAt : Bytes)
  | move (kind : Movement) (accountNo : Int) (amount : Double) (createdAt : Bytes)
  | transfer (sender receiver : Int) (amount : Double) (createdAt : Bytes)
  | lock (accountNo : Int)
  | unlock (accountNo : Int)
  | edit (accountNo newAccountNo : Int) (name : Bytes) (pin : Int) (salt : UInt64)
  | delete (accountNo : Int)
  | changePassword (username newPassword : Bytes) (salt : UInt64)

def ValidPin (pin : Int) : Prop := 1000 ≤ pin ∧ pin ≤ 9999

/-- `a.Performs fp t t'`: on the tables `t` the action `a` can be performed, and
`t'` are the tables it leaves. -/
inductive Action.Performs (fp : Rounding) : Action → Tables → Tables → Prop where
  | create {t : Tables} {accountNo : Int} {name : Bytes} {pin : Int} {salt : UInt64}
      {createdAt : Bytes} (hpositive : 0 < accountNo) (hpin : ValidPin pin)
      (hname : storedName name ≠ []) (hnew : t.accounts.lookup accountNo = none) :
      Performs fp (.create accountNo name pin salt createdAt) t
        (t.insertAccount (newAccount accountNo name pin salt createdAt))
  | move {t : Tables} {kind : Movement} {accountNo : Int} {amount : Double}
      {createdAt : Bytes} {row : Account} (hrow : t.accounts.lookup accountNo = some row)
      (hamount : 0 < amount) (hfunds : kind.isCredit = true ∨ amount ≤ row.balance)
      (hnumber : kind.newBalance fp row.balance amount ≠ .nan) :
      Performs fp (.move kind accountNo amount createdAt) t
        (book t accountNo none kind.type amount (kind.newBalance fp row.balance amount)
          createdAt)
  | transfer {t : Tables} {sender receiver : Int} {amount : Double} {createdAt : Bytes}
      {source target : Account} (hpositive : 0 < receiver) (hdistinct : receiver ≠ sender)
      (hsource : t.accounts.lookup sender = some source)
      (htarget : t.accounts.lookup receiver = some target)
      (hamount : 0 < amount) (hfunds : amount ≤ source.balance)
      (hsent : source.balance.sub fp amount ≠ .nan)
      (hreceived : target.balance.add fp amount ≠ .nan) :
      Performs fp (.transfer sender receiver amount createdAt) t
        (book (book t sender (some receiver) .transferSent amount
            (source.balance.sub fp amount) createdAt)
          receiver (some sender) .transferReceived amount (target.balance.add fp amount)
          createdAt)
  | lock {t : Tables} {accountNo : Int} {row : Account} (hpositive : 0 < accountNo)
      (hrow : t.accounts.lookup accountNo = some row) :
      Performs fp (.lock accountNo) t (t.setLoginState accountNo 3 1)
  | unlock {t : Tables} {accountNo : Int} {row : Account} (hpositive : 0 < accountNo)
      (hrow : t.accounts.lookup accountNo = some row) :
      Performs fp (.unlock accountNo) t (t.setLoginState accountNo 0 0)
  | rename {t : Tables} {accountNo : Int} {name : Bytes} {pin : Int} {salt : UInt64}
      {row : Account} (hpositive : 0 < accountNo) (hname : storedName name ≠ [])
      (hpin : ValidPin pin) (hrow : t.accounts.lookup accountNo = some row) :
      Performs fp (.edit accountNo accountNo name pin salt) t
        (t.setIdentity accountNo (storedName name) (pinDigest salt pin).toInt64 salt.toInt64)
  | renumber {t : Tables} {accountNo newAccountNo : Int} {name : Bytes} {pin : Int}
      {salt : UInt64} {row : Account} (hpositive : 0 < accountNo)
      (hnewPositive : 0 < newAccountNo) (hname : storedName name ≠ []) (hpin : ValidPin pin)
      (hdistinct : accountNo ≠ newAccountNo)
      (hrow : t.accounts.lookup accountNo = some row)
      (hnew : t.accounts.lookup newAccountNo = none) (hnumber : row.balance ≠ .nan) :
      Performs fp (.edit accountNo newAccountNo name pin salt) t
        (Bank.renumber t accountNo newAccountNo (renumbered row newAccountNo name pin salt))
  | delete {t : Tables} {accountNo : Int} {row : Account} (hpositive : 0 < accountNo)
      (hrow : t.accounts.lookup accountNo = some row) (hempty : row.balance = 0) :
      Performs fp (.delete accountNo) t
        (close t accountNo)
  | changePassword {t : Tables} {username newPassword : Bytes} {salt : UInt64} {row : Admin}
      (huser : username ≠ []) (hlength : 8 ≤ (storedPassword newPassword).length)
      (hrow : t.admins.lookup username = some row) :
      Performs fp (.changePassword username newPassword salt) t
        (t.setAdminPassword username
          (adminDigest salt username (storedPassword newPassword)).toInt64 salt.toInt64)

/-- An action that cannot be performed. -/
def Action.Refused (fp : Rounding) (a : Action) (t : Tables) : Prop := ∀ t', ¬ a.Performs fp t t'

/-- The balance an account holds, if it exists. -/
def balanceOf (t : Tables) (accountNo : Int) : Option Double :=
  (t.accounts.lookup accountNo).map Account.balance

end AtmSystem.Bank
