import AtmSystem.Model.Server
import AtmSystem.Semantics.Reports
import AtmSystem.Bank.Settle
import AtmSystem.Bank.Login

/-!
What one request can do. `Turn` lists the ways a request can end: refused,
answered by a report, logged in or out, a failed login counted, or an action
performed. It says who may do what (`intended` and `mayRead` look at the
session only), and it is what `handleCommand` does, whichever of its SQL calls
fail.
-/

namespace AtmSystem.Bank

open Library Program Model

/-- The action a command asks for, in a session that may ask for it. -/
def intended (env : Environment) (session : Session) : Command → Option Action
  | .createAccount (some (accountNo, name, pin)) =>
      some (.create accountNo name pin env.salt env.timestamp)
  | .deposit (some amount) =>
      if session.isCustomer then
        some (.move .deposit session.customerAccountNo amount env.timestamp)
      else none
  | .withdraw (some amount) =>
      if session.isCustomer then
        some (.move .withdraw session.customerAccountNo amount env.timestamp)
      else none
  | .transfer (some (receiver, amount)) =>
      if session.isCustomer then
        some (.transfer session.customerAccountNo receiver amount env.timestamp)
      else none
  | .adminCredit (some (accountNo, amount)) =>
      if session.isAdmin then some (.move .adminCredit accountNo amount env.timestamp) else none
  | .adminDebit (some (accountNo, amount)) =>
      if session.isAdmin then some (.move .adminDebit accountNo amount env.timestamp) else none
  | .lockAccount (some accountNo) => if session.isAdmin then some (.lock accountNo) else none
  | .unlockAccount (some accountNo) => if session.isAdmin then some (.unlock accountNo) else none
  | .editAccount (some (accountNo, newAccountNo, name, pin)) =>
      if session.isAdmin then some (.edit accountNo newAccountNo name pin env.salt) else none
  | .deleteAccount (some accountNo) => if session.isAdmin then some (.delete accountNo) else none
  | .changeAdminPassword (some newPassword) =>
      if session.isAdmin then some (.changePassword session.adminUsername newPassword env.salt)
      else none
  | _ => none

/-- `Asks env session c a`: in this session the command asks for the action.
This is `intended` read backwards. -/
inductive Asks (env : Environment) (session : Session) : Command → Action → Prop where
  | create {accountNo : Int} {name : Bytes} {pin : Int} :
      Asks env session (.createAccount (some (accountNo, name, pin)))
        (.create accountNo name pin env.salt env.timestamp)
  | deposit {amount : Double} (hcustomer : session.isCustomer = true) :
      Asks env session (.deposit (some amount))
        (.move .deposit session.customerAccountNo amount env.timestamp)
  | withdraw {amount : Double} (hcustomer : session.isCustomer = true) :
      Asks env session (.withdraw (some amount))
        (.move .withdraw session.customerAccountNo amount env.timestamp)
  | transfer {receiver : Int} {amount : Double} (hcustomer : session.isCustomer = true) :
      Asks env session (.transfer (some (receiver, amount)))
        (.transfer session.customerAccountNo receiver amount env.timestamp)
  | adminCredit {accountNo : Int} {amount : Double} (hadmin : session.isAdmin = true) :
      Asks env session (.adminCredit (some (accountNo, amount)))
        (.move .adminCredit accountNo amount env.timestamp)
  | adminDebit {accountNo : Int} {amount : Double} (hadmin : session.isAdmin = true) :
      Asks env session (.adminDebit (some (accountNo, amount)))
        (.move .adminDebit accountNo amount env.timestamp)
  | lock {accountNo : Int} (hadmin : session.isAdmin = true) :
      Asks env session (.lockAccount (some accountNo)) (.lock accountNo)
  | unlock {accountNo : Int} (hadmin : session.isAdmin = true) :
      Asks env session (.unlockAccount (some accountNo)) (.unlock accountNo)
  | edit {accountNo newAccountNo : Int} {name : Bytes} {pin : Int}
      (hadmin : session.isAdmin = true) :
      Asks env session (.editAccount (some (accountNo, newAccountNo, name, pin)))
        (.edit accountNo newAccountNo name pin env.salt)
  | delete {accountNo : Int} (hadmin : session.isAdmin = true) :
      Asks env session (.deleteAccount (some accountNo)) (.delete accountNo)
  | changePassword {newPassword : Bytes} (hadmin : session.isAdmin = true) :
      Asks env session (.changeAdminPassword (some newPassword))
        (.changePassword session.adminUsername newPassword env.salt)

theorem asks_of_intended {env : Environment} {session : Session} {c : Command} {a : Action}
    (h : intended env session c = some a) : Asks env session c a := by
  unfold intended at h
  split at h <;> (try split at h) <;> cases h
  all_goals
    constructor
    try assumption

/-- The reports, and the sessions that may have them. -/
def mayRead (session : Session) : Command → Prop
  | .balance | .miniStatement | .monthlySummary _ => session.isCustomer
  | .listAccounts | .viewAccountDetails _ | .viewAccountStatement _ | .viewAccountSummary _
  | .adminDashboard | .recentTransactions _ => session.isAdmin
  | _ => False

/-- The payload of a performed action: a fixed text, or the new balance. -/
def receipt (t' : Tables) : Action → Bytes
  | .create .. => ascii "Account created successfully."
  | .move _ accountNo _ _ | .transfer accountNo _ _ _ =>
      ((balanceOf t' accountNo).map fun x => snprintf 64 (formatAmount x)).getD []
  | .lock _ => ascii "Account locked."
  | .unlock _ => ascii "Account unlocked."
  | .edit .. => ascii "Account updated successfully."
  | .delete _ => ascii "Account deleted."
  | .changePassword .. => ascii "Admin password updated."

/-- The session a customer login opens. -/
def customerSession (accountNo : Int) (row : Account) : Session :=
  { Session.reset with
    customerAccountNo := accountNo
    customerName := snprintf 64 (snprintf 64 row.name) }

/-- The session an admin login opens. -/
def adminSession (username : Bytes) : Session :=
  { Session.reset with isAdmin := true, adminUsername := snprintf 64 username }

/-- A command other than a report that does not end in a refusal, unless a SQL
call fails. -/
def Acceptable (fp : Rounding) (env : Environment) (session : Session) (t : Tables) :
    Command → Prop
  | .login (some (accountNo, pin)) => ∃ row, Checked t accountNo pin row
  | .adminLogin (some (username, password)) => AdminMatches t username password
  | .logout => True
  | c => ∃ a t', intended env session c = some a ∧ a.Performs fp t t'

inductive Turn (fp : Rounding) (env : Environment) (session : Session) (t : Tables) :
    Command → Response → Session → Tables → Prop where
  | refused {c : Command} {message : Bytes}
      (h : env.Faulty ∨ ¬ Acceptable fp env session t c) :
      Turn fp env session t c ⟨.err, message⟩ session t
  | reported {c : Command} {text : Bytes} (hread : mayRead session c) :
      Turn fp env session t c ⟨.ok, text⟩ session t
  | loggedIn {accountNo pin : Int} {row : Account} (hchecked : Checked t accountNo pin row)
      (hmatch : PinMatches row pin) :
      Turn fp env session t (.login (some (accountNo, pin)))
        ⟨.ok, (customerSession accountNo row).customerName⟩ (customerSession accountNo row)
        (t.setLoginState accountNo 0 0)
  | counted {accountNo pin : Int} {row : Account} {message : Bytes}
      (hchecked : Checked t accountNo pin row) (hmismatch : ¬ PinMatches row pin) :
      Turn fp env session t (.login (some (accountNo, pin))) ⟨.err, message⟩ session
        (strike t accountNo row)
  | adminLoggedIn {username password : Bytes} (hmatch : AdminMatches t username password) :
      Turn fp env session t (.adminLogin (some (username, password)))
        ⟨.ok, ascii "Admin login successful."⟩ (adminSession username) t
  | loggedOut :
      Turn fp env session t .logout ⟨.ok, ascii "Logged out."⟩ Session.reset t
  | performed {c : Command} {a : Action} {t' : Tables} (hintended : intended env session c = some a)
      (hperforms : a.Performs fp t t') :
      Turn fp env session t c ⟨.ok, receipt t' a⟩ session t'

/-- What a turn does to the session: nothing, a logout, or a login that found
its hash. -/
inductive SessionChange (t : Tables) (c : Command) (status : Status) (session : Session) :
    Session → Prop where
  | same : SessionChange t c status session session
  | reset : SessionChange t c status session Session.reset
  | customer {accountNo pin : Int} {row : Account} (hc : c = .login (some (accountNo, pin)))
      (hchecked : Checked t accountNo pin row) (hmatch : PinMatches row pin)
      (hstatus : status = .ok) :
      SessionChange t c status session (customerSession accountNo row)
  | admin {username password : Bytes} (hc : c = .adminLogin (some (username, password)))
      (hmatch : AdminMatches t username password) (hstatus : status = .ok) :
      SessionChange t c status session (adminSession username)

theorem Turn.sessionChange {fp : Rounding} {env : Environment} {session session' : Session}
    {t t' : Tables} {c : Command} {response : Response}
    (hturn : Turn fp env session t c response session' t') :
    SessionChange t c response.status session session' := by
  cases hturn with
  | refused => exact .same
  | reported => exact .same
  | loggedIn hchecked hmatch => exact .customer rfl hchecked hmatch rfl
  | counted => exact .same
  | adminLoggedIn hmatch => exact .admin rfl hmatch rfl
  | loggedOut => exact .reset
  | performed => exact .same

/-! ### The server takes turns -/

section handle

variable {fp : Rounding} {env : Environment} {session : Session} {t : Tables}

/-- A program that ends in a turn and leaves no transaction open. -/
def TakesTurn (fp : Rounding) (env : Environment) (session : Session) (t : Tables) (c : Command)
    (p : Db (Session × Response)) : Prop :=
  Always (SqlAnswers fp env.Faulty) p ⟨t, none⟩ fun outcome s' =>
    ∃ t', s' = ⟨t', none⟩ ∧ Turn fp env session t c outcome.2 outcome.1 t'

/-- A branch that keeps the session. -/
def BranchTakesTurn (fp : Rounding) (env : Environment) (session : Session) (t : Tables)
    (c : Command) (branch : Db Response) : Prop :=
  TakesTurn fp env session t c (do return (session, ← branch))

theorem errResponse_turn {c : Command} (h : ¬ Acceptable fp env session t c) (message : String) :
    TakesTurn fp env session t c (pure (session, errResponse message)) :=
  ⟨t, rfl, .refused (.inr h)⟩

theorem withArgs_turn {α : Type} {c : Option α → Command} (args : Option α) (usage : String)
    {branch : α → Db Response} (hnone : ¬ Acceptable fp env session t (c none))
    (hbranch : ∀ a, BranchTakesTurn fp env session t (c (some a)) (branch a)) :
    BranchTakesTurn fp env session t (c args) (withArgs args usage branch) := by
  cases args with
  | none => exact errResponse_turn hnone usage
  | some a => exact hbranch a

theorem asCustomer_turn {c : Command} {branch : Int → Db Response}
    (hdenied : session.isCustomer = false → ¬ Acceptable fp env session t c)
    (hbranch : session.isCustomer = true →
      BranchTakesTurn fp env session t c (branch session.customerAccountNo)) :
    TakesTurn fp env session t c (asCustomer session branch) := by
  cases hcustomer : session.isCustomer with
  | false =>
      simpa only [asCustomer, hcustomer, Bool.false_eq_true, if_false] using
        errResponse_turn (hdenied hcustomer) _
  | true => simpa only [asCustomer, hcustomer, if_true, BranchTakesTurn] using hbranch hcustomer

theorem asAdmin_turn {c : Command} {branch : Db Response}
    (hdenied : session.isAdmin = false → ¬ Acceptable fp env session t c)
    (hbranch : session.isAdmin = true → BranchTakesTurn fp env session t c branch) :
    TakesTurn fp env session t c (asAdmin session branch) := by
  cases hadmin : session.isAdmin with
  | false =>
      simpa only [asAdmin, hadmin, Bool.false_eq_true, if_false] using
        errResponse_turn (hdenied hadmin) _
  | true => simpa only [asAdmin, hadmin, if_true, BranchTakesTurn] using hbranch hadmin

/-- A report is answered or fails, and either way nothing changes. -/
theorem report_turn {c : Command} {α : Type} {p : Db α} {reply : α → Option Bytes}
    (hp : Observes fp env.Faulty p) (hread : mayRead session c)
    (hother : ¬ Acceptable fp env session t c) :
    BranchTakesTurn fp env session t c (do answer (reply (← p))) := by
  simp only [BranchTakesTurn, TakesTurn, always_bind]
  apply (hp.keeps _).mono
  rintro a _ rfl
  cases reply a with
  | some text => exact ⟨t, rfl, .reported hread⟩
  | none =>
      simp only [answer, always_bind, always_readError]
      exact fun message => ⟨t, rfl, .refused (.inr hother)⟩

theorem acceptable_iff {c : Command} {a : Action} (h : intended env session c = some a) :
    Acceptable fp env session t c ↔ ∃ t', a.Performs fp t t' := by
  unfold Acceptable
  split
  · cases h
  · cases h
  · cases h
  · simp only [h, Option.some.injEq]
    exact ⟨fun ⟨_, t', heq, hp⟩ => ⟨t', heq ▸ hp⟩, fun ⟨t', hp⟩ => ⟨a, t', rfl, hp⟩⟩

/-- A function that settles an action takes the turn of a command that asks
for it. -/
theorem settled_turn {c : Command} {a : Action} {β : Type} {p : Db β} {done : Tables → β}
    {refusal : β} {reply : β → Option Bytes}
    (hp : Always (SqlAnswers fp env.Faulty) p ⟨t, none⟩
      (Settled fp env.Faulty a done refusal t))
    (hintended : intended env session c = some a)
    (hreply : ∀ t', a.Performs fp t t' → reply (done t') = some (receipt t' a))
    (hrefusal : reply refusal = none) :
    BranchTakesTurn fp env session t c (do answer (reply (← p))) := by
  simp only [BranchTakesTurn, TakesTurn, always_bind]
  apply hp.mono
  rintro result s' (⟨t', hperforms, rfl, rfl⟩ | ⟨hrefused, rfl, rfl⟩)
  · rw [hreply t' hperforms]
    exact ⟨t', rfl, .performed hintended hperforms⟩
  · simp only [hrefusal, answer, always_bind, always_readError]
    refine fun message => ⟨t, rfl, .refused (hrefused.imp_right fun h => ?_)⟩
    rw [acceptable_iff hintended]
    rintro ⟨t', hperforms⟩
    exact h t' hperforms

/-- The account of a performed operation has a balance to report. -/
theorem balanceOf_of_move {kind : Movement} {accountNo : Int} {amount : Double}
    {createdAt : Bytes} {t' : Tables}
    (h : (Action.move kind accountNo amount createdAt).Performs fp t t') :
    ∃ balance, balanceOf t' accountNo = some balance := by
  cases h with
  | move hrow => exact ⟨_, by simp [balanceOf, book, hrow]; rfl⟩

theorem balanceOf_of_transfer {sender receiver : Int} {amount : Double} {createdAt : Bytes}
    {t' : Tables} (h : (Action.transfer sender receiver amount createdAt).Performs fp t t') :
    ∃ balance, balanceOf t' sender = some balance := by
  cases h with
  | transfer _ hdistinct hsource =>
      exact ⟨_, by simp [balanceOf, book, hsource, Ne.symm hdistinct]; rfl⟩

theorem handleLogin_turn (accountNo pin : Int) :
    TakesTurn fp env session t (.login (some (accountNo, pin)))
      (handleLogin session accountNo pin) := by
  simp only [TakesTurn, handleLogin, always_bind]
  apply (dbLogin_settled accountNo pin).mono
  rintro outcome s' hsettled
  cases hsettled with
  | opened hchecked hmatch => exact ⟨_, rfl, .loggedIn hchecked hmatch⟩
  | counted hchecked hmismatch =>
      simp only [answer, always_bind, always_readError]
      exact fun message => ⟨_, rfl, .counted hchecked hmismatch⟩
  | refused h =>
      simp only [answer, always_bind, always_readError]
      refine fun message => ⟨_, rfl, .refused (h.imp_right fun hnone => ?_)⟩
      rintro ⟨row, hchecked⟩
      exact hnone row hchecked

theorem handleAdminLogin_turn (username password : Bytes) :
    TakesTurn fp env session t (.adminLogin (some (username, password)))
      (handleAdminLogin session username password) := by
  simp only [TakesTurn, handleAdminLogin, always_bind]
  apply (dbAdminLogin_settled username password).mono
  rintro outcome s' ⟨rfl, ⟨rfl, hmatch⟩ | ⟨rfl, hdenied⟩⟩
  · exact ⟨_, rfl, .adminLoggedIn hmatch⟩
  · simp only [answer, Bool.not_false, if_true, always_bind, always_readError]
    exact fun message => ⟨_, rfl, .refused hdenied⟩

theorem answerText_turn {c : Command} {a : Action} {p : Db Bool} {text : String}
    (hp : Always (SqlAnswers fp env.Faulty) p ⟨t, none⟩
      (Settled fp env.Faulty a (fun _ => true) false t))
    (hintended : intended env session c = some a)
    (hreceipt : ∀ t', receipt t' a = ascii text) :
    BranchTakesTurn fp env session t c (do answerText text (← p)) :=
  settled_turn hp hintended (fun t' _ => by rw [hreceipt t']; rfl) rfl

theorem answerAmount_turn {c : Command} {a : Action} {accountNo : Int} {p : Db (Option Double)}
    (hp : Always (SqlAnswers fp env.Faulty) p ⟨t, none⟩
      (Settled fp env.Faulty a (fun t' => balanceOf t' accountNo) none t))
    (hintended : intended env session c = some a)
    (hbalance : ∀ t', a.Performs fp t t' → ∃ balance, balanceOf t' accountNo = some balance)
    (hreceipt : ∀ t', receipt t' a =
      ((balanceOf t' accountNo).map fun x => snprintf 64 (formatAmount x)).getD []) :
    BranchTakesTurn fp env session t c (do answerAmount (← p)) := by
  refine settled_turn hp hintended (fun t' hperforms => ?_) rfl
  obtain ⟨balance, hbalance⟩ := hbalance t' hperforms
  simp only [hreceipt, hbalance, Option.map_some, Option.getD_some]

theorem move_turn {c : Command} (kind : Movement) {accountNo : Int} {amount : Double}
    (notPositive : Bytes)
    (hintended : intended env session c = some (.move kind accountNo amount env.timestamp)) :
    BranchTakesTurn fp env session t c (do
      answerAmount (← checkedBalanceTransaction fp env notPositive accountNo amount
        kind.isCredit kind.type)) :=
  answerAmount_turn (checkedBalanceTransaction_settled env notPositive kind accountNo amount)
    hintended (fun _ => balanceOf_of_move) fun _ => rfl

theorem customerArgs_turn {α : Type} {c : Option α → Command} {args : Option α} {usage : String}
    {branch : Int → α → Db Response} (hnone : ¬ Acceptable fp env session t (c none))
    (hdenied : session.isCustomer = false → ∀ a, ¬ Acceptable fp env session t (c (some a)))
    (hbranch : session.isCustomer = true → ∀ a,
      BranchTakesTurn fp env session t (c (some a)) (branch session.customerAccountNo a)) :
    TakesTurn fp env session t (c args)
      (asCustomer session fun accountNo => withArgs args usage (branch accountNo)) := by
  refine asCustomer_turn (fun h => ?_) fun h => withArgs_turn args usage hnone (hbranch h)
  cases args with
  | none => exact hnone
  | some a => exact hdenied h a

theorem adminArgs_turn {α : Type} {c : Option α → Command} {args : Option α} {usage : String}
    {branch : α → Db Response} (hnone : ¬ Acceptable fp env session t (c none))
    (hdenied : session.isAdmin = false → ∀ a, ¬ Acceptable fp env session t (c (some a)))
    (hbranch : session.isAdmin = true → ∀ a,
      BranchTakesTurn fp env session t (c (some a)) (branch a)) :
    TakesTurn fp env session t (c args) (asAdmin session (withArgs args usage branch)) := by
  refine asAdmin_turn (fun h => ?_) fun h => withArgs_turn args usage hnone (hbranch h)
  cases args with
  | none => exact hnone
  | some a => exact hdenied h a

/-- Whatever the command and whichever calls fail, the request is a turn. -/
theorem handleCommand_turn (c : Command) :
    TakesTurn fp env session t c (handleCommand fp env session c) := by
  cases c with
  | empty => exact errResponse_turn (by simp [Acceptable, intended]) _
  | unknown => exact errResponse_turn (by simp [Acceptable, intended]) _
  | logout => exact ⟨t, rfl, .loggedOut⟩
  | createAccount args =>
      apply withArgs_turn args _ (by simp [Acceptable, intended])
      rintro ⟨accountNo, name, pin⟩
      exact answerText_turn (dbCreateAccount_settled env accountNo name pin) rfl fun _ => rfl
  | login args =>
      cases args with
      | none => exact errResponse_turn (by simp [Acceptable, intended]) _
      | some args => exact handleLogin_turn args.1 args.2
  | adminLogin args =>
      cases args with
      | none => exact errResponse_turn (by simp [Acceptable, intended]) _
      | some args => exact handleAdminLogin_turn args.1 args.2
  | balance =>
      rw [handleCommand]
      apply asCustomer_turn (by simp [Acceptable, intended])
      intro h
      exact report_turn (dbGetBalance_observes _) h (by simp [Acceptable, intended])
  | miniStatement =>
      rw [handleCommand]
      apply asCustomer_turn (by simp [Acceptable, intended])
      intro h
      exact report_turn (dbBuildMiniStatement_observes _) h (by simp [Acceptable, intended])
  | monthlySummary month =>
      rw [handleCommand]
      apply asCustomer_turn (by simp [Acceptable, intended])
      intro h
      exact report_turn (dbBuildMonthlySummary_observes _ _ _) h (by simp [Acceptable, intended])
  | listAccounts =>
      apply asAdmin_turn (by simp [Acceptable, intended])
      intro h
      exact report_turn dbBuildAccountListing_observes h (by simp [Acceptable, intended])
  | adminDashboard =>
      apply asAdmin_turn (by simp [Acceptable, intended])
      intro h
      exact report_turn (dbBuildSystemSummary_observes _) h (by simp [Acceptable, intended])
  | viewAccountDetails args =>
      refine adminArgs_turn (c := .viewAccountDetails) (by simp [Acceptable, intended])
        (by simp [Acceptable, intended]) fun h accountNo => ?_
      exact report_turn (dbBuildAccountDetails_observes _) h (by simp [Acceptable, intended])
  | viewAccountStatement args =>
      refine adminArgs_turn (c := .viewAccountStatement) (by simp [Acceptable, intended])
        (by simp [Acceptable, intended]) fun h accountNo => ?_
      exact report_turn (dbBuildMiniStatement_observes _) h (by simp [Acceptable, intended])
  | viewAccountSummary args =>
      refine adminArgs_turn (c := .viewAccountSummary) (by simp [Acceptable, intended])
        (by simp [Acceptable, intended]) fun h (accountNo, month) => ?_
      exact report_turn (dbBuildMonthlySummary_observes _ _ _) h (by simp [Acceptable, intended])
  | recentTransactions args =>
      refine adminArgs_turn (c := .recentTransactions) (by simp [Acceptable, intended])
        (by simp [Acceptable, intended]) fun h limit => ?_
      exact report_turn (dbBuildRecentTransactions_observes _) h (by simp [Acceptable, intended])
  | deposit args =>
      rw [handleCommand]
      refine customerArgs_turn (c := .deposit) (by simp [Acceptable, intended])
        (fun h => by simp [Acceptable, intended, h]) fun h amount => ?_
      exact move_turn .deposit _ (by simp [intended, h])
  | withdraw args =>
      rw [handleCommand]
      refine customerArgs_turn (c := .withdraw) (by simp [Acceptable, intended])
        (fun h => by simp [Acceptable, intended, h]) fun h amount => ?_
      exact move_turn .withdraw _ (by simp [intended, h])
  | transfer args =>
      rw [handleCommand]
      refine customerArgs_turn (c := .transfer) (by simp [Acceptable, intended])
        (fun h => by simp [Acceptable, intended, h]) fun h (receiver, amount) => ?_
      exact answerAmount_turn (dbTransfer_settled env _ receiver amount) (by simp [intended, h])
        (fun _ => balanceOf_of_transfer) fun _ => rfl
  | adminCredit args =>
      refine adminArgs_turn (c := .adminCredit) (by simp [Acceptable, intended])
        (fun h => by simp [Acceptable, intended, h]) fun h (accountNo, amount) => ?_
      exact move_turn .adminCredit _ (by simp [intended, h])
  | adminDebit args =>
      refine adminArgs_turn (c := .adminDebit) (by simp [Acceptable, intended])
        (fun h => by simp [Acceptable, intended, h]) fun h (accountNo, amount) => ?_
      exact move_turn .adminDebit _ (by simp [intended, h])
  | lockAccount args =>
      refine adminArgs_turn (c := .lockAccount) (by simp [Acceptable, intended])
        (fun h => by simp [Acceptable, intended, h]) fun h accountNo => ?_
      exact answerText_turn (dbLockAccount_settled accountNo) (by simp [intended, h]) fun _ => rfl
  | unlockAccount args =>
      refine adminArgs_turn (c := .unlockAccount) (by simp [Acceptable, intended])
        (fun h => by simp [Acceptable, intended, h]) fun h accountNo => ?_
      exact answerText_turn (dbUnlockAccount_settled accountNo) (by simp [intended, h])
        fun _ => rfl
  | editAccount args =>
      refine adminArgs_turn (c := .editAccount) (by simp [Acceptable, intended])
        (fun h => by simp [Acceptable, intended, h]) fun h (accountNo, newAccountNo, name, pin) => ?_
      exact answerText_turn (dbEditAccount_settled env accountNo newAccountNo name pin)
        (by simp [intended, h]) fun _ => rfl
  | deleteAccount args =>
      refine adminArgs_turn (c := .deleteAccount) (by simp [Acceptable, intended])
        (fun h => by simp [Acceptable, intended, h]) fun h accountNo => ?_
      exact answerText_turn (dbDeleteAccount_settled accountNo) (by simp [intended, h])
        fun _ => rfl
  | changeAdminPassword args =>
      refine adminArgs_turn (c := .changeAdminPassword) (by simp [Acceptable, intended])
        (fun h => by simp [Acceptable, intended, h]) fun h newPassword => ?_
      exact answerText_turn (dbChangeAdminPassword_settled env _ newPassword)
        (by simp [intended, h]) fun _ => rfl

end handle

end AtmSystem.Bank
