import AtmSystem.Bank.Entries

/-!
What an action does to one account row. `Becomes` follows an account through an
action, also to a new number; every row behind an action was created by it or
came from a row before it, and every row before it lives on unless the action
deletes the account.
-/

namespace AtmSystem.Bank

open Library Model

/-- The account numbers an action names. -/
def Action.names : Action → List Int
  | .create accountNo .. | .move _ accountNo _ _ | .lock accountNo | .unlock accountNo
  | .delete accountNo => [accountNo]
  | .transfer sender receiver _ _ => [sender, receiver]
  | .edit accountNo newAccountNo _ _ _ => [accountNo, newAccountNo]
  | .changePassword .. => []

/-- `Becomes fp a k row k' row'`: through the action `a`, the account `k` with
row `row` becomes the account `k'` with row `row'`. -/
inductive Becomes (fp : Rounding) : Action → Int → Account → Int → Account → Prop where
  | kept {a : Action} {k : Int} {row : Account} (hother : k ∉ a.names) : Becomes fp a k row k row
  | moved {kind : Movement} {k : Int} {amount : Double} {createdAt : Bytes} {row : Account}
      (hamount : 0 < amount) (hfunds : kind.isCredit = true ∨ amount ≤ row.balance)
      (hnumber : kind.newBalance fp row.balance amount ≠ .nan) :
      Becomes fp (.move kind k amount createdAt) k row k
        { row with balance := kind.newBalance fp row.balance amount }
  | sent {k receiver : Int} {amount : Double} {createdAt : Bytes} {row : Account}
      (hdistinct : receiver ≠ k) (hamount : 0 < amount) (hfunds : amount ≤ row.balance)
      (hnumber : row.balance.sub fp amount ≠ .nan) :
      Becomes fp (.transfer k receiver amount createdAt) k row k
        { row with balance := row.balance.sub fp amount }
  | received {sender k : Int} {amount : Double} {createdAt : Bytes} {row : Account}
      (hdistinct : k ≠ sender) (hamount : 0 < amount)
      (hnumber : row.balance.add fp amount ≠ .nan) :
      Becomes fp (.transfer sender k amount createdAt) k row k
        { row with balance := row.balance.add fp amount }
  | locked {k : Int} {row : Account} :
      Becomes fp (.lock k) k row k { row with failedAttempts := 3, isLocked := 1 }
  | unlocked {k : Int} {row : Account} :
      Becomes fp (.unlock k) k row k { row with failedAttempts := 0, isLocked := 0 }
  | renamed {k : Int} {name : Bytes} {pin : Int} {salt : UInt64} {row : Account}
      (hname : storedName name ≠ []) (hpin : ValidPin pin) :
      Becomes fp (.edit k k name pin salt) k row k
        { row with name := storedName name, pinHash := (pinDigest salt pin).toInt64,
                   salt := salt.toInt64 }
  | renumbered {k k' : Int} {name : Bytes} {pin : Int} {salt : UInt64} {row : Account}
      (hdistinct : k ≠ k') (hpositive : 0 < k') (hname : storedName name ≠ [])
      (hpin : ValidPin pin) :
      Becomes fp (.edit k k' name pin salt) k row k' (renumbered row k' name pin salt)

/-- The row an action creates. -/
inductive Creates : Action → Int → Account → Prop where
  | created {k : Int} {name : Bytes} {pin : Int} {salt : UInt64} {createdAt : Bytes}
      (hpositive : 0 < k) (hname : storedName name ≠ []) (hpin : ValidPin pin) :
      Creates (.create k name pin salt createdAt) k (newAccount k name pin salt createdAt)

variable {fp : Rounding} {a : Action} {t t' : Tables}

/-- The row was created, or came from a row before. -/
def HasOrigin (fp : Rounding) (a : Action) (t : Tables) (k' : Int) (row' : Account) : Prop :=
  Creates a k' row' ∨ ∃ k row, t.accounts.lookup k = some row ∧ Becomes fp a k row k' row'

/-- The row lives on. -/
def HasFate (fp : Rounding) (a : Action) (t' : Tables) (k : Int) (row : Account) : Prop :=
  ∃ k' row', t'.accounts.lookup k' = some row' ∧ Becomes fp a k row k' row'

/-- An action that writes the row of one account and names no other. -/
structure Updates (fp : Rounding) (a : Action) (t t' : Tables) (k : Int) (row new : Account) :
    Prop where
  names : a.names ⊆ [k]
  found : t.accounts.lookup k = some row
  written : ∀ j, t'.accounts.lookup j = if j = k then some new else t.accounts.lookup j
  becomes : Becomes fp a k row k new

namespace Updates

variable {k : Int} {row new : Account}

theorem kept (h : Updates fp a t t' k row new) {j : Int} (hj : j ≠ k) (other : Account) :
    Becomes fp a j other j other := by
  apply Becomes.kept
  intro hmem
  exact hj (List.mem_singleton.mp (h.names hmem))

theorem origin (h : Updates fp a t t' k row new) {k' : Int} {row' : Account}
    (hrow' : t'.accounts.lookup k' = some row') : HasOrigin fp a t k' row' := by
  rw [h.written, ite_eq_iff] at hrow'
  rcases hrow' with ⟨rfl, hnew⟩ | ⟨hk, hold⟩
  · obtain rfl := Option.some.inj hnew
    exact .inr ⟨_, row, h.found, h.becomes⟩
  · exact .inr ⟨k', row', hold, h.kept hk row'⟩

theorem fate (h : Updates fp a t t' k row new) {j : Int} {old : Account}
    (hold : t.accounts.lookup j = some old) : HasFate fp a t' j old := by
  by_cases hj : j = k
  · subst hj
    obtain rfl : row = old := Option.some.inj (h.found.symm.trans hold)
    exact ⟨j, new, by rw [h.written, if_pos rfl], h.becomes⟩
  · exact ⟨j, old, by rw [h.written, if_neg hj, hold], h.kept hj old⟩

end Updates

theorem updates_move {kind : Movement} {accountNo : Int} {amount : Double} {createdAt : Bytes}
    {row : Account} (hrow : t.accounts.lookup accountNo = some row) (hamount : 0 < amount)
    (hfunds : kind.isCredit = true ∨ amount ≤ row.balance)
    (hnumber : kind.newBalance fp row.balance amount ≠ .nan) :
    Updates fp (.move kind accountNo amount createdAt) t
      (book t accountNo none kind.type amount (kind.newBalance fp row.balance amount) createdAt)
      accountNo row { row with balance := kind.newBalance fp row.balance amount } where
  names := List.Subset.refl _
  found := hrow
  written j := by rw [lookup_book, hrow, Option.map_some]
  becomes := .moved hamount hfunds hnumber

theorem updates_loginState {accountNo failedAttempts isLocked : Int} {row : Account}
    (hrow : t.accounts.lookup accountNo = some row) (hnames : a.names ⊆ [accountNo])
    (hbecomes : Becomes fp a accountNo row accountNo
      { row with failedAttempts := failedAttempts, isLocked := isLocked }) :
    Updates fp a t (t.setLoginState accountNo failedAttempts isLocked) accountNo row
      { row with failedAttempts := failedAttempts, isLocked := isLocked } where
  names := hnames
  found := hrow
  written j := by rw [Tables.lookup_setLoginState, hrow, Option.map_some]
  becomes := hbecomes

theorem updates_rename {accountNo : Int} {name : Bytes} {pin : Int} {salt : UInt64}
    {row : Account} (hname : storedName name ≠ []) (hpin : ValidPin pin)
    (hrow : t.accounts.lookup accountNo = some row) :
    Updates fp (.edit accountNo accountNo name pin salt) t
      (t.setIdentity accountNo (storedName name) (pinDigest salt pin).toInt64 salt.toInt64)
      accountNo row
      { row with name := storedName name, pinHash := (pinDigest salt pin).toInt64,
                 salt := salt.toInt64 } where
  names := by simp [Action.names]
  found := hrow
  written j := by rw [Tables.lookup_setIdentity, hrow, Option.map_some]
  becomes := .renamed hname hpin

/-- Every row behind an action was created or came from a row before it. -/
theorem origin (ha : a.Performs fp t t') {k' : Int} {row' : Account}
    (hrow' : t'.accounts.lookup k' = some row') : HasOrigin fp a t k' row' := by
  cases ha with
  | create hpositive hpin hname hnew =>
      rw [Tables.lookup_insertAccount _ _ _ hnew, ite_eq_iff] at hrow'
      rcases hrow' with ⟨rfl, hcreated⟩ | ⟨hk, hold⟩
      · obtain rfl := Option.some.inj hcreated
        exact .inl (.created hpositive hname hpin)
      · exact .inr ⟨k', row', hold, .kept (by simpa [Action.names] using hk)⟩
  | move hrow hamount hfunds hnumber =>
      exact (updates_move hrow hamount hfunds hnumber).origin hrow'
  | transfer hpositive hdistinct hsource htarget hamount hfunds hsent hreceived =>
      rw [lookup_book, lookup_book, lookup_book, if_neg hdistinct, htarget, hsource,
        ite_eq_iff, ite_eq_iff] at hrow'
      rcases hrow' with ⟨rfl, hnew⟩ | ⟨hk, ⟨rfl, hnew⟩ | ⟨hk', hold⟩⟩
      · obtain rfl := Option.some.inj hnew
        exact .inr ⟨_, _, htarget, .received hdistinct hamount hreceived⟩
      · obtain rfl := Option.some.inj hnew
        exact .inr ⟨_, _, hsource, .sent hdistinct hamount hfunds hsent⟩
      · exact .inr ⟨k', row', hold, .kept (by simp [Action.names, hk, hk'])⟩
  | lock hpositive hrow =>
      exact (updates_loginState hrow (List.Subset.refl _) .locked).origin hrow'
  | unlock hpositive hrow =>
      exact (updates_loginState hrow (List.Subset.refl _) .unlocked).origin hrow'
  | rename hpositive hname hpin hrow => exact (updates_rename hname hpin hrow).origin hrow'
  | renumber hpositive hnewPositive hname hpin hdistinct hrow hnew =>
      rw [lookup_renumbered _ _ _ _ _ hnew, ite_eq_iff, ite_eq_iff] at hrow'
      rcases hrow' with ⟨_, hnone⟩ | ⟨hk, ⟨rfl, hnew'⟩ | ⟨hk', hold⟩⟩
      · cases hnone
      · obtain rfl := Option.some.inj hnew'
        exact .inr ⟨_, _, hrow, .renumbered hdistinct hnewPositive hname hpin⟩
      · exact .inr ⟨k', row', hold, .kept (by simp [Action.names, hk, hk'])⟩
  | delete hpositive hrow hempty =>
      rw [lookup_close, ite_eq_iff] at hrow'
      rcases hrow' with ⟨_, hnone⟩ | ⟨hk, hold⟩
      · cases hnone
      · exact .inr ⟨k', row', hold, .kept (by simpa [Action.names] using hk)⟩
  | changePassword => exact .inr ⟨k', row', hrow', .kept (by simp [Action.names])⟩

/-- Every row before an action lives on behind it, unless the action deletes
the account, which it does only if the balance is zero. -/
theorem fate (ha : a.Performs fp t t') {k : Int} {row : Account}
    (hrow : t.accounts.lookup k = some row) :
    (a = .delete k ∧ row.balance = 0) ∨ HasFate fp a t' k row := by
  cases ha with
  | @create _ accountNo name pin salt createdAt hpositive hpin hname hnew =>
      have hk : k ≠ accountNo := by
        rintro rfl
        simp [hnew] at hrow
      refine .inr ⟨k, row, ?_, .kept (by simpa [Action.names] using hk)⟩
      rw [Tables.lookup_insertAccount _ _ _ hnew, ← hrow]
      exact if_neg hk
  | move hfound hamount hfunds hnumber =>
      exact .inr ((updates_move hfound hamount hfunds hnumber).fate hrow)
  | @transfer _ sender receiver amount createdAt source target hpositive hdistinct hsource htarget
      hamount hfunds hsent hreceived =>
      by_cases hk : k = receiver
      · subst hk
        obtain rfl : target = row := Option.some.inj (htarget.symm.trans hrow)
        refine .inr ⟨k, _, ?_, .received hdistinct hamount hreceived⟩
        rw [lookup_book, if_pos rfl, lookup_book, if_neg hdistinct, htarget, Option.map_some]
      by_cases hk' : k = sender
      · subst hk'
        obtain rfl : source = row := Option.some.inj (hsource.symm.trans hrow)
        refine .inr ⟨k, _, ?_, .sent hdistinct hamount hfunds hsent⟩
        rw [lookup_book, if_neg hk, lookup_book, if_pos rfl, hsource, Option.map_some]
      · refine .inr ⟨k, row, ?_, .kept (by simp [Action.names, hk, hk'])⟩
        rw [lookup_book, if_neg hk, lookup_book, if_neg hk', hrow]
  | lock hpositive hfound =>
      exact .inr ((updates_loginState hfound (List.Subset.refl _) .locked).fate hrow)
  | unlock hpositive hfound =>
      exact .inr ((updates_loginState hfound (List.Subset.refl _) .unlocked).fate hrow)
  | rename hpositive hname hpin hfound => exact .inr ((updates_rename hname hpin hfound).fate hrow)
  | @renumber _ accountNo newAccountNo name pin salt old hpositive hnewPositive hname hpin
      hdistinct hfound hnew =>
      by_cases hk : k = accountNo
      · subst hk
        obtain rfl : old = row := Option.some.inj (hfound.symm.trans hrow)
        refine .inr ⟨newAccountNo, _, ?_, .renumbered hdistinct hnewPositive hname hpin⟩
        rw [lookup_renumbered _ _ _ _ _ hnew, if_neg (Ne.symm hdistinct), if_pos rfl]
      · have hk' : k ≠ newAccountNo := by
          rintro rfl
          simp [hnew] at hrow
        refine .inr ⟨k, row, ?_, .kept (by simp [Action.names, hk, hk'])⟩
        rw [lookup_renumbered _ _ _ _ _ hnew, if_neg hk, if_neg hk', hrow]
  | @delete _ accountNo old hpositive hfound hempty =>
      by_cases hk : k = accountNo
      · subst hk
        obtain rfl : old = row := Option.some.inj (hfound.symm.trans hrow)
        exact .inl ⟨rfl, hempty⟩
      · refine .inr ⟨k, row, ?_, .kept (by simpa [Action.names] using hk)⟩
        rw [lookup_close, if_neg hk, hrow]
  | changePassword => exact .inr ⟨k, row, hrow, .kept (by simp [Action.names])⟩

/-! ### What holds of every account -/

def EachAccount (P : Int → Account → Prop) (t : Tables) : Prop :=
  ∀ k row, t.accounts.lookup k = some row → P k row

namespace EachAccount

variable {P P' : Int → Account → Prop}

/-- A login writes the counter and the flag of one row. -/
theorem setLoginState (h : EachAccount P t) (accountNo : Int) {failedAttempts isLocked : Int}
    (hlogin : ∀ k row, P k row →
      P k { row with failedAttempts := failedAttempts, isLocked := isLocked }) :
    EachAccount P (t.setLoginState accountNo failedAttempts isLocked) := by
  intro k row hrow
  obtain ⟨old, hold, rfl | rfl⟩ := Tables.setLoginState_origin _ _ _ hrow
  · exact h k row hold
  · exact hlogin k old (h k old hold)

/-- It is enough to look at the row an action creates and at what it makes of
the others. -/
theorem performs (ha : a.Performs fp t t') (hcreates : ∀ k row, Creates a k row → P' k row)
    (hbecomes : ∀ {k row k' row'}, t.accounts.lookup k = some row →
      Becomes fp a k row k' row' → P k row → P' k' row')
    (h : EachAccount P t) : EachAccount P' t' := by
  intro k' row' hrow'
  rcases origin ha hrow' with hcreated | ⟨k, row, hrow, hbecame⟩
  · exact hcreates k' row' hcreated
  · exact hbecomes hrow hbecame (h k row hrow)

end EachAccount

/-! ### Transactions -/

/-- The rows an action adds, with the balances they lead to. -/
inductive Records (fp : Rounding) (t : Tables) : Action → Transaction → Prop where
  | moved {kind : Movement} {k : Int} {amount : Double} {createdAt : Bytes} {row : Account}
      {n : Nat} (hrow : t.accounts.lookup k = some row) (hamount : 0 < amount)
      (hfunds : kind.isCredit = true ∨ amount ≤ row.balance) :
      Records fp t (.move kind k amount createdAt)
        ⟨n, k, none, kind.type, amount, some (kind.newBalance fp row.balance amount), createdAt⟩
  | sent {sender receiver : Int} {amount : Double} {createdAt : Bytes} {source : Account}
      {n : Nat} (hsource : t.accounts.lookup sender = some source) (hamount : 0 < amount)
      (hfunds : amount ≤ source.balance) :
      Records fp t (.transfer sender receiver amount createdAt)
        ⟨n, sender, some receiver, .transferSent, amount, some (source.balance.sub fp amount),
          createdAt⟩
  | received {sender receiver : Int} {amount : Double} {createdAt : Bytes}
      {source target : Account} {n : Nat} (hdistinct : receiver ≠ sender)
      (hsource : t.accounts.lookup sender = some source)
      (htarget : t.accounts.lookup receiver = some target) (hamount : 0 < amount)
      (hfunds : amount ≤ source.balance) :
      Records fp t (.transfer sender receiver amount createdAt)
        ⟨n, receiver, some sender, .transferReceived, amount, some (target.balance.add fp amount),
          createdAt⟩

/-- Every transaction behind an action was recorded by it or was there before,
but for the accounts it names. -/
theorem transaction_origin (ha : a.Performs fp t t') {r' : Transaction}
    (hr' : r' ∈ t'.transactions.rows) :
    Records fp t a r' ∨ ∃ r ∈ t.transactions.rows, r'.type = r.type ∧ r'.amount = r.amount ∧
      r'.balanceAfter = r.balanceAfter := by
  have hkept (h : r' ∈ t.transactions.rows) : Records fp t a r' ∨ ∃ r ∈ t.transactions.rows,
      r'.type = r.type ∧ r'.amount = r.amount ∧ r'.balanceAfter = r.balanceAfter :=
    .inr ⟨r', h, rfl, rfl, rfl⟩
  cases ha with
  | move hrow hamount hfunds =>
      rcases List.mem_append.mp hr' with hold | hnew
      · exact hkept hold
      · rw [List.mem_singleton.mp hnew]
        exact .inl (.moved hrow hamount hfunds)
  | transfer hpositive hdistinct hsource htarget hamount hfunds =>
      rcases List.mem_append.mp hr' with hfirst | hreceived
      · rcases List.mem_append.mp hfirst with hold | hsent
        · exact hkept hold
        · rw [List.mem_singleton.mp hsent]
          exact .inl (.sent hsource hamount hfunds)
      · rw [List.mem_singleton.mp hreceived]
        exact .inl (.received hdistinct hsource htarget hamount hfunds)
  | renumber =>
      rw [renumber_rows] at hr'
      obtain ⟨r, hr, rfl⟩ := List.mem_map.mp hr'
      obtain ⟨htype, hamount, hbalance⟩ := redirect_keeps _ _ (rehome _ _ r)
      obtain ⟨htype', hamount', hbalance'⟩ := rehome_keeps _ _ r
      exact .inr ⟨r, hr, htype.trans htype', hamount.trans hamount', hbalance.trans hbalance'⟩
  | delete =>
      rw [close_rows] at hr'
      obtain ⟨r, hr, rfl⟩ := List.mem_map.mp (List.mem_filter.mp hr').1
      exact .inr ⟨r, hr, redirect_keeps _ _ r⟩
  | create => exact hkept hr'
  | lock => exact hkept hr'
  | unlock => exact hkept hr'
  | rename => exact hkept hr'
  | changePassword => exact hkept hr'

/-- Balances and amounts that are all good in some way. -/
structure Sums (goodBalance goodAmount : Double → Prop) (t : Tables) : Prop where
  balance : ∀ k row, t.accounts.lookup k = some row → goodBalance row.balance
  amount : ∀ r ∈ t.transactions.rows, goodAmount r.amount
  shown : ∀ r ∈ t.transactions.rows, ∀ x, r.balanceAfter = some x → goodBalance x

namespace Sums

variable {goodBalance goodAmount : Double → Prop}

theorem setLoginState (h : Sums goodBalance goodAmount t)
    (accountNo failedAttempts isLocked : Int) :
    Sums goodBalance goodAmount (t.setLoginState accountNo failedAttempts isLocked) := by
  refine ⟨?_, h.amount, h.shown⟩
  apply EachAccount.setLoginState h.balance
  exact fun _ _ => id

/-- It is enough to look at the rows an action adds: the balances they show are
the balances it writes. -/
theorem performs (ha : a.Performs fp t t') (hzero : goodBalance 0)
    (hrecords : ∀ r, Records fp t a r →
      goodAmount r.amount ∧ ∀ x, r.balanceAfter = some x → goodBalance x)
    (h : Sums goodBalance goodAmount t) : Sums goodBalance goodAmount t' := by
  constructor
  · refine EachAccount.performs ha ?_ ?_ h.balance
    · rintro _ _ ⟨⟩
      exact hzero
    · intro k row k' row' hrow hbecomes hkept
      cases hbecomes with
      | moved hamount hfunds => exact (hrecords _ (.moved (n := 0) hrow hamount hfunds)).2 _ rfl
      | sent hdistinct hamount hfunds =>
          exact (hrecords _ (.sent (n := 0) hrow hamount hfunds)).2 _ rfl
      | @received sender _ amount _ _ hdistinct hamount =>
          obtain ⟨source, hsource, hfunds⟩ : ∃ source, t.accounts.lookup sender = some source ∧
              amount ≤ source.balance := by
            cases ha with
            | transfer _ _ hsource _ _ hfunds => exact ⟨_, hsource, hfunds⟩
          exact (hrecords _ (.received (n := 0) hdistinct hsource hrow hamount hfunds)).2 _ rfl
      | kept | locked | unlocked | renamed | renumbered => exact hkept
  · intro r' hr'
    rcases transaction_origin ha hr' with hrecorded | ⟨r, hr, -, hsame, -⟩
    · exact (hrecords r' hrecorded).1
    · exact hsame ▸ h.amount r hr
  · intro r' hr' x hx
    rcases transaction_origin ha hr' with hrecorded | ⟨r, hr, -, -, hsame⟩
    · exact (hrecords r' hrecorded).2 x hx
    · exact h.shown r hr x (hsame ▸ hx)

end Sums

end AtmSystem.Bank
