import AtmSystem.Bank.Action

/-!
The transactions of one account, and what each action does to them. An account
number that is not in use has no transactions: the foreign key keeps it so,
and this is what lets an account be created or renumbered under a fresh number
without inheriting a history.
-/

namespace AtmSystem.Bank

open Library Model

/-- The transactions of an account, in increasing order of their ids. -/
def entries (t : Tables) (accountNo : Int) : List Transaction :=
  t.transactions.rows.filter fun r => r.accountNo = accountNo

/-- Every transaction belongs to an account. -/
structure ForeignKeys (t : Tables) : Prop where
  account : ∀ r ∈ t.transactions.rows, ∃ row, t.accounts.lookup r.accountNo = some row

theorem ForeignKeys.entries_eq_nil {t : Tables} (h : ForeignKeys t) {accountNo : Int}
    (hnone : t.accounts.lookup accountNo = none) : entries t accountNo = [] := by
  rw [entries, List.filter_eq_nil_iff]
  intro r hr
  obtain ⟨row, hrow⟩ := h.account r hr
  simp only [decide_eq_true_eq]
  rintro rfl
  rw [hnone] at hrow
  cases hrow

/-- A transaction as it stands when the account `related` is renamed in it. -/
def redirect (newRelated : Option Int) (related : Int) (r : Transaction) : Transaction :=
  if r.relatedAccount = some related then { r with relatedAccount := newRelated } else r

/-- A transaction as it stands when it is moved to another account. -/
def rehome (newAccountNo accountNo : Int) (r : Transaction) : Transaction :=
  if r.accountNo = accountNo then { r with accountNo := newAccountNo } else r

@[simp] theorem redirect_accountNo (newRelated : Option Int) (related : Int) (r : Transaction) :
    (redirect newRelated related r).accountNo = r.accountNo := by
  unfold redirect
  split <;> rfl

theorem rehome_accountNo (newAccountNo accountNo : Int) (r : Transaction) :
    (rehome newAccountNo accountNo r).accountNo =
      if r.accountNo = accountNo then newAccountNo else r.accountNo := by
  unfold rehome
  split <;> rfl

theorem redirect_keeps (newRelated : Option Int) (related : Int) (r : Transaction) :
    (redirect newRelated related r).type = r.type ∧
      (redirect newRelated related r).amount = r.amount ∧
      (redirect newRelated related r).balanceAfter = r.balanceAfter := by
  unfold redirect
  split <;> exact ⟨rfl, rfl, rfl⟩

theorem rehome_keeps (newAccountNo accountNo : Int) (r : Transaction) :
    (rehome newAccountNo accountNo r).type = r.type ∧
      (rehome newAccountNo accountNo r).amount = r.amount ∧
      (rehome newAccountNo accountNo r).balanceAfter = r.balanceAfter := by
  unfold rehome
  split <;> exact ⟨rfl, rfl, rfl⟩

section actions

variable (t : Tables) (accountNo k : Int)

theorem entries_book (relatedAccount : Option Int) (type : TransactionType)
    (amount newBalance : Double) (createdAt : Bytes) :
    entries (book t accountNo relatedAccount type amount newBalance createdAt) k =
      if k = accountNo then
        entries t k ++ [⟨t.transactions.last + 1, accountNo, relatedAccount, type, amount,
          some newBalance, createdAt⟩]
      else entries t k := by
  simp only [entries, book, Tables.insertTransaction_rows, Tables.setBalance_transactions,
    List.filter_append]
  by_cases hk : k = accountNo
  · simp [hk]
  · simp [hk, Ne.symm hk]

@[simp] theorem lookup_book (relatedAccount : Option Int) (type : TransactionType)
    (amount newBalance : Double) (createdAt : Bytes) :
    (book t accountNo relatedAccount type amount newBalance createdAt).accounts.lookup k =
      if k = accountNo then (t.accounts.lookup accountNo).map
        fun a => { a with balance := newBalance }
      else t.accounts.lookup k := Tables.lookup_setBalance t accountNo k newBalance

variable {t accountNo}

theorem renumber_rows (t : Tables) (accountNo newAccountNo : Int) (row : Account) :
    (renumber t accountNo newAccountNo row).transactions.rows =
      t.transactions.rows.map fun r =>
        redirect (some newAccountNo) accountNo (rehome newAccountNo accountNo r) := by
  simp only [renumber, Tables.deleteAccount_transactions, Tables.setRelated,
    Tables.moveTransactions, Tables.mapTransactions, Tables.insertAccount_transactions,
    SerialTable.map_rows, List.map_map]
  rfl

theorem lookup_renumber {newAccountNo : Int} (row : Account) (hno : row.accountNo = newAccountNo)
    (hnew : t.accounts.lookup newAccountNo = none) :
    (renumber t accountNo newAccountNo row).accounts.lookup k =
      if k = accountNo then none
      else if k = newAccountNo then some row else t.accounts.lookup k := by
  subst hno
  simp only [renumber, Tables.lookup_deleteAccount, Tables.setRelated_accounts,
    Tables.moveTransactions_accounts, Tables.lookup_insertAccount _ _ _ hnew]

theorem lookup_renumbered {newAccountNo : Int} (row : Account) (name : Bytes) (pin : Int)
    (salt : UInt64) (hnew : t.accounts.lookup newAccountNo = none) :
    (renumber t accountNo newAccountNo
        (renumbered row newAccountNo name pin salt)).accounts.lookup k =
      if k = accountNo then none
      else if k = newAccountNo then some (renumbered row newAccountNo name pin salt)
      else t.accounts.lookup k :=
  lookup_renumber k _ rfl hnew

/-- The history moves as a whole, and only references change elsewhere. -/
theorem entries_renumber {newAccountNo : Int} (row : Account)
    (hdistinct : accountNo ≠ newAccountNo) (hnew : entries t newAccountNo = []) :
    entries (renumber t accountNo newAccountNo row) k =
      if k = accountNo then []
      else (entries t (if k = newAccountNo then accountNo else k)).map fun r =>
        redirect (some newAccountNo) accountNo (rehome newAccountNo accountNo r) := by
  have hfresh (r : Transaction) (hr : r ∈ t.transactions.rows) : r.accountNo ≠ newAccountNo := by
    simpa using List.filter_eq_nil_iff.mp hnew r hr
  rw [entries, renumber_rows, List.filter_map]
  by_cases hold : k = accountNo
  · rw [if_pos hold, List.map_eq_nil_iff, List.filter_eq_nil_iff]
    intro r _
    simp only [Function.comp_apply, redirect_accountNo, rehome_accountNo, decide_eq_true_eq]
    split <;> omega
  · rw [if_neg hold, entries]
    congr 1
    apply List.filter_congr
    intro r hr
    have := hfresh r hr
    simp only [Function.comp_apply, redirect_accountNo, rehome_accountNo, decide_eq_decide]
    split <;> split <;> omega

theorem close_rows (t : Tables) (accountNo : Int) :
    (close t accountNo).transactions.rows =
      (t.transactions.rows.map (redirect none accountNo)).filter fun r =>
        r.accountNo ≠ accountNo := rfl

theorem lookup_close :
    (close t accountNo).accounts.lookup k =
      if k = accountNo then none else t.accounts.lookup k := by
  simp only [close, Tables.lookup_deleteAccount, Tables.deleteTransactions_accounts,
    Tables.setRelated_accounts]

theorem entries_close :
    entries (close t accountNo) k =
      if k = accountNo then [] else (entries t k).map (redirect none accountNo) := by
  rw [entries, close_rows, List.filter_filter, List.filter_map]
  by_cases hold : k = accountNo
  · rw [if_pos hold, List.map_eq_nil_iff, List.filter_eq_nil_iff]
    intro r _
    simp [hold]
  · rw [if_neg hold, entries]
    congr 1
    apply List.filter_congr
    intro r _
    simp only [Function.comp_apply, redirect_accountNo, Bool.and_eq_decide]
    grind

end actions

/-! ### The foreign key -/

theorem ForeignKeys.of_rows {t t' : Tables} (h : ForeignKeys t)
    (hrows : t'.transactions.rows = t.transactions.rows)
    (hkeep : ∀ k, (t.accounts.lookup k).isSome → (t'.accounts.lookup k).isSome) :
    ForeignKeys t' := by
  refine ⟨fun r hr => ?_⟩
  obtain ⟨row, hrow⟩ := h.account r (hrows ▸ hr)
  exact Option.isSome_iff_exists.mp (hkeep _ (by simp [hrow]))

theorem ForeignKeys.setLoginState {t : Tables} (h : ForeignKeys t)
    (accountNo failedAttempts isLocked : Int) :
    ForeignKeys (t.setLoginState accountNo failedAttempts isLocked) := by
  refine h.of_rows rfl fun k hk => ?_
  rw [Tables.lookup_setLoginState]
  split <;> simp_all

theorem ForeignKeys.book {t : Tables} (h : ForeignKeys t) {accountNo : Int}
    (hrow : ∃ row, t.accounts.lookup accountNo = some row) (relatedAccount : Option Int)
    (type : TransactionType) (amount newBalance : Double) (createdAt : Bytes) :
    ForeignKeys (book t accountNo relatedAccount type amount newBalance createdAt) := by
  obtain ⟨row, hrow⟩ := hrow
  refine ⟨fun r hr => ?_⟩
  rw [lookup_book]
  by_cases hno : r.accountNo = accountNo
  · exact ⟨_, by rw [if_pos hno, hrow]; rfl⟩
  · rw [if_neg hno]
    rcases List.mem_append.mp hr with hold | hlast
    · exact h.account r hold
    · rw [List.mem_singleton.mp hlast] at hno
      exact absurd rfl hno

theorem ForeignKeys.renumber {t : Tables} (h : ForeignKeys t) {accountNo newAccountNo : Int}
    {row : Account} (hno : row.accountNo = newAccountNo) (hdistinct : accountNo ≠ newAccountNo)
    (hnew : t.accounts.lookup newAccountNo = none) :
    ForeignKeys (renumber t accountNo newAccountNo row) := by
  refine ⟨fun r hr => ?_⟩
  rw [renumber_rows, List.mem_map] at hr
  obtain ⟨x, hx, rfl⟩ := hr
  rw [lookup_renumber _ row hno hnew, redirect_accountNo, rehome_accountNo]
  by_cases hmoved : x.accountNo = accountNo
  · exact ⟨row, by simp [hmoved, Ne.symm hdistinct]⟩
  · obtain ⟨old, hold⟩ := h.account x hx
    have hne : x.accountNo ≠ newAccountNo := by
      rintro heq
      rw [heq, hnew] at hold
      cases hold
    exact ⟨old, by simp [hmoved, hne, hold]⟩

theorem ForeignKeys.close {t : Tables} (h : ForeignKeys t) (accountNo : Int) :
    ForeignKeys (close t accountNo) := by
  refine ⟨fun r hr => ?_⟩
  rw [close_rows, List.mem_filter, List.mem_map] at hr
  obtain ⟨⟨x, hx, rfl⟩, hne⟩ := hr
  obtain ⟨old, hold⟩ := h.account x hx
  exact ⟨old, by simpa [lookup_close, hold] using hne⟩

/-- No statement leaves a transaction without its account: SQLite checks the
constraint when the statement runs. -/
theorem ForeignKeys.exec {fp : Rounding} {β : Type} {statement : Statement β} {t t' : Tables}
    {answer : β} (hexec : statement.exec fp t = .ok (answer, t')) (h : ForeignKeys t) :
    ForeignKeys t' := by
  have hinserted (row : Account) (k : Int) (hk : (t.accounts.lookup k).isSome) :
      ((t.insertAccount row).accounts.lookup k).isSome := by
    cases hfound : t.accounts.lookup row.accountNo with
    | some other =>
        rw [Tables.insertAccount, KeyedTable.insertNew_of_lookup hfound]
        exact hk
    | none =>
        rw [Tables.lookup_insertAccount _ _ _ hfound]
        split
        · rfl
        · exact hk
  have hmodified (accountNo : Int) (f : Account → Account)
      (hf : ∀ a, (f a).accountNo = a.accountNo) (k : Int) (hk : (t.accounts.lookup k).isSome) :
      ((t.updateAccount accountNo f hf).accounts.lookup k).isSome := by
    rw [Tables.updateAccount, KeyedTable.lookup_modify]
    split <;> simp_all
  cases statement with
  | selectAccount | countAdmins | selectAdmin | selectStatement | selectMonth | selectAccounts
  | selectSystem | selectTopAccount | selectRecent | createSchema | countAccounts
  | countTransactions =>
      cases hexec
      exact h
  | updateLoginState failedAttempts isLocked accountNo =>
      cases hexec
      exact h.of_rows rfl (hmodified _ _ _)
  | updateIdentity name pinHash salt accountNo =>
      cases hexec
      exact h.of_rows rfl (hmodified _ _ _)
  | updateBalance balance accountNo =>
      simp only [Statement.exec] at hexec
      split at hexec
      · cases hexec
      · cases hexec
        exact h.of_rows rfl (hmodified _ _ _)
  | insertAccount row =>
      simp only [Statement.exec] at hexec
      split_ifs at hexec
      cases hexec
      exact h.of_rows rfl (hinserted row)
  | insertOrIgnoreAccount =>
      cases hexec
      exact h.of_rows rfl (hinserted _)
  | insertAdmin row =>
      simp only [Statement.exec] at hexec
      split_ifs at hexec
      cases hexec
      exact h.of_rows rfl fun _ hk => hk
  | updateAdminPassword =>
      cases hexec
      exact h.of_rows rfl fun _ hk => hk
  | deleteAccount accountNo =>
      simp only [Statement.exec] at hexec
      split_ifs at hexec with hused
      cases hexec
      refine ⟨fun r hr => ?_⟩
      obtain ⟨row, hrow⟩ := h.account r hr
      rw [Tables.lookup_deleteAccount]
      by_cases hno : r.accountNo = accountNo
      · refine absurd ⟨?_, r, hr, hno⟩ hused
        rw [← hno, hrow]
        rfl
      · exact ⟨row, by rw [if_neg hno, hrow]⟩
  | insertTransaction accountNo relatedAccount type amount balanceAfter createdAt =>
      simp only [Statement.exec] at hexec
      split_ifs at hexec with hamount hmissing
      cases hexec
      refine ⟨fun r hr => ?_⟩
      rcases List.mem_append.mp hr with hold | hnew
      · exact h.account r hold
      · rw [List.mem_singleton.mp hnew]
        exact Option.ne_none_iff_exists'.mp (by simpa using hmissing)
  | updateTransactionAccount newAccountNo accountNo =>
      simp only [Statement.exec] at hexec
      split_ifs at hexec with hmissing
      cases hexec
      refine ⟨fun r' hr' => ?_⟩
      obtain ⟨r, hr, rfl⟩ := List.mem_map.mp hr'
      by_cases hno : r.accountNo = accountNo
      · have hfound : (t.accounts.lookup newAccountNo).isSome := by
          by_contra hnone
          exact hmissing ⟨by simpa using hnone, r, hr, hno⟩
        simpa [hno, Option.isSome_iff_exists] using hfound
      · simpa [hno] using h.account r hr
  | updateRelatedAccount newRelated related =>
      cases hexec
      refine ⟨fun r' hr' => ?_⟩
      obtain ⟨r, hr, rfl⟩ := List.mem_map.mp hr'
      have hno : (if r.relatedAccount = some related
          then { r with relatedAccount := newRelated } else r).accountNo = r.accountNo := by
        split <;> rfl
      rw [hno]
      exact h.account r hr
  | deleteTransactions accountNo =>
      cases hexec
      exact ⟨fun r hr => h.account r (List.mem_filter.mp hr).1⟩

/-- No action leaves a transaction without its account. -/
theorem ForeignKeys.performs {fp : Rounding} {a : Action} {t t' : Tables}
    (ha : a.Performs fp t t') (h : ForeignKeys t) : ForeignKeys t' := by
  cases ha with
  | create hpositive hpin hname hnew =>
      refine h.of_rows rfl fun k hk => ?_
      rw [Tables.lookup_insertAccount _ _ _ hnew]
      split <;> simp_all
  | move hrow => exact h.book ⟨_, hrow⟩ ..
  | transfer hpositive hdistinct hsource htarget =>
      refine (h.book ⟨_, hsource⟩ ..).book ?_ ..
      rw [lookup_book, if_neg hdistinct]
      exact ⟨_, htarget⟩
  | lock => exact h.setLoginState ..
  | unlock => exact h.setLoginState ..
  | rename hpositive hname hpin hrow =>
      refine h.of_rows rfl fun k hk => ?_
      rw [Tables.lookup_setIdentity]
      split <;> simp_all
  | renumber hpositive hnewPositive hname hpin hdistinct hrow hnew =>
      exact h.renumber rfl hdistinct hnew
  | delete => exact h.close _
  | changePassword => exact h.of_rows rfl fun k hk => hk

end AtmSystem.Bank
