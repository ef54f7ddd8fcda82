import AtmSystem.Safety.Ledger

/-!
Conservation of money. The money in the bank is what was paid in less what was
paid out: it changes by the amounts of the deposits, withdrawals, credits and
debits that are answered OK, and by nothing else. A transfer takes from one
account what it gives another, renumbering carries the balance over, and only
an empty account is deleted.
-/

namespace AtmSystem.Bank

open Library Model

/-- The sum of all balances. -/
def totalBalance (t : Tables) : ℚ := t.accounts.total fun row => row.balance.value

/-- What a command pays into the bank once it is answered. -/
def commandPaidIn : Command → Status → ℚ
  | .deposit (some amount), .ok | .adminCredit (some (_, amount)), .ok => amount.value
  | .withdraw (some amount), .ok | .adminDebit (some (_, amount)), .ok => -amount.value
  | _, _ => 0

/-- A command that is refused pays nothing in. -/
theorem commandPaidIn_err (c : Command) : commandPaidIn c .err = 0 := by
  unfold commandPaidIn
  split <;> first | contradiction | rfl

/-- What an exchange pays into the bank. -/
def paidIn (fp : Rounding) (x : Exchange) : ℚ :=
  match x.input, x.output with
  | .request message, some response => commandPaidIn (requested fp message) response.status
  | _, _ => 0

/-- What an action pays into the bank. -/
def Action.paidIn : Action → ℚ
  | .move kind _ amount _ => if kind.isCredit then amount.value else -amount.value
  | _ => 0

section total

variable {t : Tables} {accountNo : Int} {row : Account}

theorem totalBalance_book (hrow : t.accounts.lookup accountNo = some row)
    (relatedAccount : Option Int) (type : TransactionType) (amount newBalance : Double)
    (createdAt : Bytes) :
    totalBalance (book t accountNo relatedAccount type amount newBalance createdAt) =
      totalBalance t + (newBalance.value - row.balance.value) := by
  have htotal := KeyedTable.total_modify (fun row : Account => row.balance.value) hrow
    (fun a => { a with balance := newBalance }) fun _ => rfl
  have hbook : totalBalance (book t accountNo relatedAccount type amount newBalance createdAt) +
      row.balance.value = totalBalance t + newBalance.value := htotal
  linarith

theorem totalBalance_updateAccount (accountNo : Int) (f : Account → Account)
    (hf : ∀ a, (f a).accountNo = a.accountNo) (hbalance : ∀ a, (f a).balance = a.balance) :
    totalBalance (t.updateAccount accountNo f hf) = totalBalance t := by
  cases hrow : t.accounts.lookup accountNo with
  | none =>
      simp only [totalBalance, Tables.updateAccount, KeyedTable.modify_of_lookup_none hrow]
  | some row =>
      have htotal := KeyedTable.total_modify (fun row : Account => row.balance.value) hrow f hf
      rw [hbalance] at htotal
      exact add_right_cancel htotal

theorem totalBalance_setLoginState (accountNo failedAttempts isLocked : Int) :
    totalBalance (t.setLoginState accountNo failedAttempts isLocked) = totalBalance t := by
  apply totalBalance_updateAccount
  intro a
  rfl

theorem totalBalance_setIdentity (accountNo : Int) (name : Bytes) (pinHash salt : Int64) :
    totalBalance (t.setIdentity accountNo name pinHash salt) = totalBalance t := by
  apply totalBalance_updateAccount
  intro a
  rfl

theorem totalBalance_insertAccount (hnew : t.accounts.lookup row.accountNo = none) :
    totalBalance (t.insertAccount row) = totalBalance t + row.balance.value :=
  KeyedTable.total_insertNew (fun row : Account => row.balance.value) hnew

theorem totalBalance_deleteAccount (hrow : t.accounts.lookup accountNo = some row) :
    totalBalance (t.deleteAccount accountNo) = totalBalance t - row.balance.value := by
  have htotal := KeyedTable.total_erase (fun row : Account => row.balance.value) hrow
  have hsum : totalBalance (t.deleteAccount accountNo) + row.balance.value = totalBalance t :=
    htotal
  linarith

/-- The new row is in before the old row is out. -/
theorem totalBalance_renumber {newAccountNo : Int} {newRow : Account}
    (hrow : t.accounts.lookup accountNo = some row) (hno : newRow.accountNo = newAccountNo)
    (hbalance : newRow.balance = row.balance) (hdistinct : accountNo ≠ newAccountNo)
    (hnew : t.accounts.lookup newAccountNo = none) :
    totalBalance (renumber t accountNo newAccountNo newRow) = totalBalance t := by
  subst hno
  have hold : (t.insertAccount newRow).accounts.lookup accountNo = some row := by
    rw [Tables.lookup_insertAccount _ _ _ hnew, if_neg hdistinct, hrow]
  have hinserted := totalBalance_insertAccount hnew
  have hdeleted := totalBalance_deleteAccount hold
  rw [hinserted, hbalance, add_sub_cancel_right] at hdeleted
  exact hdeleted

end total

/-- An action changes the total by what it pays in. -/
theorem totalBalance_performs {a : Action} {t t' : Tables} (ha : a.Performs .exact t t')
    (hfinite : ∀ x, a.amount = some x → x.isFinite) (h : Books t) :
    totalBalance t' = totalBalance t + a.paidIn := by
  have hbalance (k : Int) (row : Account) (hrow : t.accounts.lookup k = some row) :
      ∃ b, row.balance = .fin b := ⟨_, (h.balanced k row hrow).total⟩
  cases ha with
  | create hpositive hpin hname hnew => exact totalBalance_insertAccount hnew
  | @move _ kind accountNo amount createdAt row hrow =>
      obtain ⟨q, rfl⟩ := finite_amount (hfinite amount rfl)
      obtain ⟨b, hb⟩ := hbalance accountNo row hrow
      rw [totalBalance_book hrow, hb]
      cases kind with
      | deposit | adminCredit => 
          change totalBalance t + (b + q - b) = totalBalance t + q
          ring
      | withdraw | adminDebit =>
          change totalBalance t + (b - q - b) = totalBalance t + -q
          ring
  | @transfer _ sender receiver amount createdAt source target hpositive hdistinct hsource
      htarget =>
      obtain ⟨q, rfl⟩ := finite_amount (hfinite amount rfl)
      obtain ⟨b, hb⟩ := hbalance sender source hsource
      obtain ⟨c, hc⟩ := hbalance receiver target htarget
      have htarget' := (lookup_book t sender receiver (some receiver) .transferSent (.fin q)
        (source.balance.sub .exact (.fin q)) createdAt).trans ((if_neg hdistinct).trans htarget)
      rw [totalBalance_book htarget', totalBalance_book hsource, hb, hc]
      change totalBalance t + (b - q - b) + (c + q - c) = totalBalance t + 0
      ring
  | lock | unlock => exact (totalBalance_setLoginState ..).trans (add_zero _).symm
  | rename => exact (totalBalance_setIdentity ..).trans (add_zero _).symm
  | renumber hpositive hnewPositive hname hpin hdistinct hrow hnew =>
      refine Eq.trans (totalBalance_renumber hrow ?_ ?_ hdistinct hnew) (add_zero _).symm
      · rfl
      · rfl
  | delete hpositive hrow hempty =>
      have hdeleted := totalBalance_deleteAccount hrow
      rw [hempty] at hdeleted
      exact hdeleted.trans (sub_eq_add_neg _ _)
  | changePassword => exact (add_zero _).symm

/-- An action pays in what the command that asks for it does. -/
theorem paidIn_of_intended {env : Environment} {session : Session} {c : Command} {a : Action}
    (h : intended env session c = some a) : commandPaidIn c .ok = a.paidIn := by
  cases asks_of_intended h <;> rfl

theorem totalBalance_turn {message : Message} {session session' : Session} {t t' : Tables}
    {response : Response}
    (hturn : Turn .exact message.env session t (requested .exact message) response session' t')
    (hfinite : FiniteAmount .exact message) (h : Books t) :
    totalBalance t' =
      totalBalance t + commandPaidIn (requested .exact message) response.status := by
  generalize hc : requested .exact message = c at hturn
  cases hturn with
  | refused => exact (congrArg _ (commandPaidIn_err c)).trans (add_zero _) |>.symm
  | reported hread => cases c <;> first | exact (add_zero _).symm | exact hread.elim
  | loggedIn => exact (totalBalance_setLoginState ..).trans (add_zero _).symm
  | counted => exact (totalBalance_setLoginState ..).trans (add_zero _).symm
  | adminLoggedIn => exact (add_zero _).symm
  | loggedOut => exact (add_zero _).symm
  | performed hintended hperforms =>
      rw [paidIn_of_intended hintended]
      exact totalBalance_performs hperforms (hfinite.action (hc ▸ hintended)) h

/-- In every run of requests with finite amounts, every exchange changes the
money in the bank by what it pays in: nothing, unless it is a deposit, a
withdrawal, a credit or a debit that is answered OK. So the balances add up to
all that was paid in. -/
theorem money_conserved {s : ServerState} (hopened : Opened s) {events : List Event}
    (hfinite : ∀ event ∈ events, event.Allowed (FiniteAmount .exact)) :
    (∀ row ∈ (reached .exact s events).store.tables.accounts.rows, row.balance.isFinite) ∧
      (∀ x ∈ history .exact s events, totalBalance x.after.store.tables =
        totalBalance x.before.store.tables + paidIn .exact x) ∧
      totalBalance (reached .exact s events).store.tables =
        ((history .exact s events).map (paidIn .exact)).sum := by
  have hstart : totalBalance s.store.tables = 0 := by
    rw [totalBalance, hopened.accounts]
    rfl
  have hexchange (x : Exchange) (hx : x ∈ history .exact s events) :
      totalBalance x.after.store.tables =
        totalBalance x.before.store.tables + paidIn .exact x := by
    obtain ⟨⟨first, rest, hevents, hbefore⟩, hstep⟩ := exchanged hopened.saved hx
    rw [hevents, List.forall_mem_append, List.forall_mem_cons] at hfinite
    obtain ⟨hfirst, hinput, -⟩ := hfinite
    have hbooks : Books x.before.store.tables := hbefore ▸ books_of_run hopened hfirst
    cases hstep with
    | connected hconnect hafter =>
        simp only [paidIn, hconnect, hafter, add_zero]
    | served hrequest houtput hturn =>
        rw [hrequest] at hinput
        rw [totalBalance_turn hturn hinput hbooks]
        simp only [paidIn, hrequest, houtput]
  refine ⟨?_, hexchange, ?_⟩
  · intro row hrow
    have hbooks := books_of_run hopened hfinite
    rw [(hbooks.balanced row.accountNo row (KeyedTable.lookup_of_mem hrow)).total]
    rfl
  · have hsum := Machine.telescope (fun s : ServerState => totalBalance s.store.tables)
      (paidIn .exact) hexchange
    rw [hstart, zero_add] at hsum
    exact hsum

theorem money_conserved_firstCustomer :
    ((history .exact emptyServer firstCustomer).map (paidIn .exact)).sum = 60 ∧
      totalBalance (reached .exact emptyServer firstCustomer).store.tables = 60 := by
  have hpaid : ((history .exact emptyServer firstCustomer).map (paidIn .exact)).sum = 60 := by
    decide +kernel
  refine ⟨hpaid, ?_⟩
  rw [(money_conserved emptyServer_opened (by decide +kernel)).2.2, hpaid]

end AtmSystem.Bank
