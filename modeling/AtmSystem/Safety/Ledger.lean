import AtmSystem.Library.RunningTotal
import AtmSystem.Bank.Rows
import AtmSystem.Bank.Run

/-!
The ledger. In exact arithmetic, and as long as the amounts requested are
finite, the transactions of an account are a running total of its balance:
each shows the balance it led to, and the last total is the balance stored.
Renumbering an account moves its history as a whole, and a fresh number starts
with none.
-/

namespace AtmSystem.Bank

open Library Model

/-- By how much a transaction changes the balance of its account. -/
def signedAmount (r : Transaction) : ℚ :=
  match r.type with
  | .deposit | .transferReceived | .adminCredit => r.amount.value
  | .withdraw | .transferSent | .adminDebit => -r.amount.value
  | .legacy => 0

/-- A transaction shows a total as its `balance_after`. -/
def ShowsTotal (r : Transaction) (total : ℚ) : Prop := r.balanceAfter = some (.fin total)

/-- The history `rows` accounts for the balance. -/
structure Balanced (rows : List Transaction) (balance : Double) : Prop where
  positive : ∀ r ∈ rows, ∃ q : ℚ, 0 < q ∧ r.amount = .fin q
  running : RunningTotal signedAmount ShowsTotal rows
  total : balance = .fin (rows.map signedAmount).sum

namespace Balanced

theorem empty : Balanced [] 0 where
  positive := by simp
  running := .nil
  total := rfl

/-- One more transaction that leads from the balance to `newBalance`. -/
theorem append {rows : List Transaction} {balance newBalance : Double} {r : Transaction}
    (h : Balanced rows balance) {q : ℚ} (hq : 0 < q) (hamount : r.amount = .fin q)
    (hnew : newBalance = .fin (balance.value + signedAmount r))
    (hshown : r.balanceAfter = some newBalance) : Balanced (rows ++ [r]) newBalance := by
  have htotal : balance.value = (rows.map signedAmount).sum := by
    rw [h.total]
    rfl
  rw [htotal] at hnew
  constructor
  · intro x hx
    rcases List.mem_append.mp hx with hold | hlast
    · exact h.positive x hold
    · rw [List.mem_singleton.mp hlast]
      exact ⟨q, hq, hamount⟩
  · apply h.running.append_singleton
    rw [ShowsTotal, hshown, hnew]
  · rw [hnew]
    simp

/-- Nothing but types, amounts and balances matters. -/
theorem map {rows : List Transaction} {balance : Double} {f : Transaction → Transaction}
    (h : Balanced rows balance) (hf : ∀ r, (f r).type = r.type ∧ (f r).amount = r.amount ∧
      (f r).balanceAfter = r.balanceAfter) : Balanced (rows.map f) balance := by
  have hsigned (r : Transaction) : signedAmount (f r) = signedAmount r := by
    obtain ⟨htype, hamount, -⟩ := hf r
    simp only [signedAmount, htype, hamount]
  constructor
  · intro x hx
    obtain ⟨r, hr, rfl⟩ := List.mem_map.mp hx
    rw [(hf r).2.1]
    exact h.positive r hr
  · have hshown (r : Transaction) (total : ℚ) (hr : ShowsTotal r total) :
        ShowsTotal (f r) total := by
      rw [ShowsTotal, (hf r).2.2]
      exact hr
    exact h.running.map hsigned hshown
  · rw [h.total, List.map_map]
    have hcomp : signedAmount ∘ f = signedAmount := funext hsigned
    rw [hcomp]

end Balanced

/-- Every account is accounted for by its history, and only accounts have
histories. -/
structure Books (t : Tables) : Prop where
  keys : ForeignKeys t
  balanced : ∀ k row, t.accounts.lookup k = some row → Balanced (entries t k) row.balance

/-- The amount of an action that has one. -/
def Action.amount : Action → Option Double
  | .move _ _ amount _ | .transfer _ _ amount _ => some amount
  | _ => none

theorem finite_amount {x : Double} (h : x.isFinite) : ∃ q, x = .fin q := by
  cases x with
  | fin q => exact ⟨q, rfl⟩
  | nan | negInf | posInf => cases h

namespace Books

variable {t : Tables}

theorem setLoginState (h : Books t) (accountNo failedAttempts isLocked : Int) :
    Books (t.setLoginState accountNo failedAttempts isLocked) := by
  refine ⟨h.keys.setLoginState .., ?_⟩
  apply EachAccount.setLoginState h.balanced
  exact fun _ _ => id

/-- Booking a positive amount keeps the books if the new balance is the old
one changed by the amount as its type says. -/
theorem book (h : Books t) {accountNo : Int} {account : Account}
    (haccount : t.accounts.lookup accountNo = some account) (relatedAccount : Option Int)
    (type : TransactionType) {q : ℚ} (hq : 0 < q) {newBalance : Double} (createdAt : Bytes)
    (hnew : newBalance = .fin (account.balance.value +
      signedAmount ⟨0, accountNo, relatedAccount, type, .fin q, some newBalance, createdAt⟩)) :
    Books (book t accountNo relatedAccount type (.fin q) newBalance createdAt) := by
  refine ⟨h.keys.book ⟨_, haccount⟩ .., ?_⟩
  intro k row hrow
  rw [lookup_book, haccount] at hrow
  rw [entries_book]
  by_cases hk : k = accountNo
  · rw [if_pos hk] at hrow ⊢
    obtain rfl : { account with balance := newBalance } = row := by simpa using hrow
    have hbalanced := h.balanced k account (hk ▸ haccount)
    exact hbalanced.append hq rfl hnew rfl
  · rw [if_neg hk] at hrow ⊢
    exact h.balanced k row hrow

theorem renumber (h : Books t) {accountNo newAccountNo : Int} {row newRow : Account}
    (hrow : t.accounts.lookup accountNo = some row) (hno : newRow.accountNo = newAccountNo)
    (hbalance : newRow.balance = row.balance) (hdistinct : accountNo ≠ newAccountNo)
    (hnew : t.accounts.lookup newAccountNo = none) :
    Books (renumber t accountNo newAccountNo newRow) := by
  refine ⟨h.keys.renumber hno hdistinct hnew, ?_⟩
  intro k found hfound
  rw [lookup_renumber k newRow hno hnew] at hfound
  rw [entries_renumber k newRow hdistinct (h.keys.entries_eq_nil hnew)]
  have hkeeps (r : Transaction) := redirect_keeps (some newAccountNo) accountNo
    (rehome newAccountNo accountNo r)
  have hmap {rows : List Transaction} {balance : Double} (hb : Balanced rows balance) :=
    hb.map fun r => ⟨(hkeeps r).1.trans (rehome_keeps newAccountNo accountNo r).1,
      (hkeeps r).2.1.trans (rehome_keeps newAccountNo accountNo r).2.1,
      (hkeeps r).2.2.trans (rehome_keeps newAccountNo accountNo r).2.2⟩
  by_cases hold : k = accountNo
  · rw [if_pos hold] at hfound
    cases hfound
  rw [if_neg hold] at hfound ⊢
  by_cases hk : k = newAccountNo
  · rw [if_pos hk] at hfound ⊢
    obtain rfl : newRow = found := by simpa using hfound
    rw [hbalance]
    exact hmap (h.balanced accountNo row hrow)
  · rw [if_neg hk] at hfound ⊢
    exact hmap (h.balanced k found hfound)

theorem close (h : Books t) (accountNo : Int) : Books (close t accountNo) := by
  refine ⟨h.keys.close accountNo, ?_⟩
  intro k row hrow
  rw [lookup_close] at hrow
  rw [entries_close]
  by_cases hk : k = accountNo
  · rw [if_pos hk] at hrow
    cases hrow
  · rw [if_neg hk] at hrow ⊢
    exact (h.balanced k row hrow).map (redirect_keeps none accountNo)

/-- A finite balance after an exact movement. -/
theorem newBalance_exact (kind : Movement) (accountNo : Int) (balance q : ℚ)
    (newBalance : Double) (createdAt : Bytes) :
    kind.newBalance .exact (.fin balance) (.fin q) = .fin (balance +
      signedAmount ⟨0, accountNo, none, kind.type, .fin q, some newBalance, createdAt⟩) := by
  cases kind with
  | deposit => rfl
  | adminCredit => rfl
  | withdraw => exact congrArg Double.fin (sub_eq_add_neg balance q)
  | adminDebit => exact congrArg Double.fin (sub_eq_add_neg balance q)

/-- Every action with a finite amount keeps the books. -/
theorem performs {a : Action} {t' : Tables} (ha : a.Performs .exact t t')
    (hfinite : ∀ x, a.amount = some x → x.isFinite) (h : Books t) : Books t' := by
  have hkeys := h.keys.performs ha
  have hbalance (k : Int) (row : Account) (hrow : t.accounts.lookup k = some row) :
      ∃ b, row.balance = .fin b := ⟨_, (h.balanced k row hrow).total⟩
  cases ha with
  | create hpositive hpin hname hnew =>
      refine ⟨hkeys, ?_⟩
      intro k row hrow
      rw [Tables.lookup_insertAccount _ _ _ hnew] at hrow
      change Balanced (entries t k) row.balance
      split at hrow
      · rename_i hk
        obtain rfl := Option.some.inj hrow
        have hnil := h.keys.entries_eq_nil hnew
        simp only [hk, newAccount, hnil]
        exact .empty
      · exact h.balanced k row hrow
  | @move _ kind accountNo amount createdAt row hrow hamount =>
      obtain ⟨q, rfl⟩ := finite_amount (hfinite amount rfl)
      obtain ⟨b, hb⟩ := hbalance accountNo row hrow
      apply h.book hrow none kind.type (Double.fin_lt_fin.mp hamount) createdAt
      rw [hb]
      exact newBalance_exact ..
  | @transfer _ sender receiver amount createdAt source target hpositive hdistinct hsource
      htarget hamount =>
      obtain ⟨q, rfl⟩ := finite_amount (hfinite amount rfl)
      obtain ⟨b, hb⟩ := hbalance sender source hsource
      obtain ⟨c, hc⟩ := hbalance receiver target htarget
      have hq : 0 < q := Double.fin_lt_fin.mp hamount
      have hsent := h.book hsource (some receiver) .transferSent hq createdAt
        (show source.balance.sub .exact (.fin q) = .fin (source.balance.value + _) by
          rw [hb]
          exact congrArg Double.fin (sub_eq_add_neg b q))
      have htarget' := (lookup_book t sender receiver (some receiver) .transferSent (.fin q)
        (source.balance.sub .exact (.fin q)) createdAt).trans ((if_neg hdistinct).trans htarget)
      apply hsent.book htarget' (some sender) .transferReceived hq createdAt
      rw [hc]
      rfl
  | lock => exact h.setLoginState ..
  | unlock => exact h.setLoginState ..
  | rename hpositive hname hpin hrow =>
      refine ⟨hkeys, ?_⟩
      intro k row hfound
      rw [Tables.lookup_setIdentity] at hfound
      change Balanced (entries t k) row.balance
      split at hfound
      · rename_i hk
        obtain ⟨old, hold, rfl⟩ := Option.map_eq_some_iff.mp hfound
        exact h.balanced k old (hk ▸ hold)
      · exact h.balanced k row hfound
  | renumber hpositive hnewPositive hname hpin hdistinct hrow hnew =>
      exact h.renumber hrow rfl rfl hdistinct hnew
  | delete => exact h.close _
  | changePassword => exact ⟨hkeys, h.balanced⟩

end Books

/-! ### Runs -/

/-- The amount a command carries. -/
def commandAmount : Command → Option Double
  | .deposit amount | .withdraw amount => amount
  | .transfer args | .adminCredit args | .adminDebit args => args.map Prod.snd
  | _ => none

/-- The message carries no amount but finite ones. -/
def FiniteAmount (fp : Rounding) (message : Message) : Prop :=
  (commandAmount (requested fp message)).all Double.isFinite

instance (fp : Rounding) : DecidablePred (FiniteAmount fp) := fun message =>
  inferInstanceAs (Decidable ((commandAmount (requested fp message)).all Double.isFinite = true))

/-- An action takes its amount from the command. -/
theorem intended_amount {env : Environment} {session : Session} {c : Command} {a : Action}
    (h : intended env session c = some a) : commandAmount c = a.amount := by
  cases asks_of_intended h <;> rfl

theorem FiniteAmount.action {fp : Rounding} {message : Message} (h : FiniteAmount fp message)
    {session : Session} {a : Action}
    (ha : intended message.env session (requested fp message) = some a) :
    ∀ x, a.amount = some x → x.isFinite := by
  intro x hx
  rw [FiniteAmount, intended_amount ha, hx] at h
  exact h

theorem Opened.books {s : ServerState} (h : Opened s) : Books s.store.tables := by
  refine ⟨⟨?_⟩, ?_⟩
  · intro r hr
    rw [h.transactions] at hr
    cases hr
  · intro k row hrow
    exact (h.no_account hrow).elim

theorem books_of_run {s : ServerState} (hopened : Opened s) {events : List Event}
    (hfinite : ∀ event ∈ events, event.Allowed (FiniteAmount .exact)) :
    Books (reached .exact s events).store.tables := by
  refine tables_invariant Books ?_ ?_ hfinite hopened.saved hopened.books
  · intro t accountNo failedAttempts isLocked h
    exact h.setLoginState ..
  · intro message session t a t' hmessage hintended hperforms h
    exact h.performs hperforms (hmessage.action hintended)

/-- In every state that requests with finite amounts lead to, the
transactions of an account in order of their ids are positive, each shows the
sum of the changes up to it, and the balance is the sum of them all. -/
theorem balance_after_running_total {s : ServerState} (hopened : Opened s) {events : List Event}
    (hfinite : ∀ event ∈ events, event.Allowed (FiniteAmount .exact)) :
    let t := (reached .exact s events).store.tables
    ∀ row ∈ t.accounts.rows,
      (entries t row.accountNo).Pairwise (fun r r' => r.id < r'.id) ∧
      (∀ r ∈ entries t row.accountNo, 0 < r.amount) ∧
      (∀ before r rest, entries t row.accountNo = before ++ r :: rest →
        r.balanceAfter = some (.fin ((before ++ [r]).map signedAmount).sum)) ∧
      row.balance = .fin ((entries t row.accountNo).map signedAmount).sum := by
  intro t row hrow
  have hbooks : Books t := books_of_run hopened hfinite
  have hbalanced := hbooks.balanced row.accountNo row (KeyedTable.lookup_of_mem hrow)
  have hsorted : (entries t row.accountNo).Pairwise (fun r r' => r.id < r'.id) :=
    t.transactions.increasing.sublist List.filter_sublist
  refine ⟨hsorted, ?_, hbalanced.running, hbalanced.total⟩
  intro r hr
  obtain ⟨q, hq, hamount⟩ := hbalanced.positive r hr
  rw [hamount]
  exact Double.fin_lt_fin.mpr hq

/-- A customer opens an account, logs in, deposits 100 and withdraws 40. -/
def firstCustomer : List Event :=
  [.connect, .request (plain "CREATE_ACCOUNT\n7\nAda\n1234"), .request (plain "LOGIN\n7\n1234"),
    .request (plain "DEPOSIT\n100"), .request (plain "WITHDRAW\n40")]

theorem balance_after_running_total_firstCustomer :
    let t := (reached .exact emptyServer firstCustomer).store.tables
    t.accounts.rows.map Account.balance = [.fin 60] ∧
      ∀ row ∈ t.accounts.rows,
        row.balance = .fin ((entries t row.accountNo).map signedAmount).sum := by
  refine ⟨by decide +kernel, ?_⟩
  intro row hrow
  exact (balance_after_running_total emptyServer_opened (by decide +kernel) row hrow).2.2.2

end AtmSystem.Bank
