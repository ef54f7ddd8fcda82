import AtmSystem.Semantics.Calls
import AtmSystem.Bank.Action

/-!
Every `db_*` function that writes performs its action as a whole or changes
nothing, and it refuses an action that could be performed only when a call
fails. Either way no transaction is left open.
-/

namespace AtmSystem.Bank

open Library Program Model

/-- A function that carries out `a` ends with the action performed and its
answer read from the new tables, or refused with everything as it was. -/
def Settled {β : Type} (fp : Rounding) (faulty : Prop) (a : Action) (done : Tables → β)
    (refused : β) (t : Tables) (answer : β) (s : Store) : Prop :=
  (∃ t', a.Performs fp t t' ∧ answer = done t' ∧ s = ⟨t', none⟩) ∨
    ((faulty ∨ a.Refused fp t) ∧ answer = refused ∧ s = ⟨t, none⟩)

variable {fp : Rounding} {faulty : Prop} {t : Tables}

section Settled

variable {β : Type} {a : Action} {done : Tables → β} {refusal : β}

theorem Settled.performed {t' : Tables} {answer : β} (h : a.Performs fp t t')
    (hanswer : answer = done t') : Settled fp faulty a done refusal t answer ⟨t', none⟩ :=
  .inl ⟨t', h, hanswer, rfl⟩

theorem Settled.failed (h : faulty) : Settled fp faulty a done refusal t refusal ⟨t, none⟩ :=
  .inr ⟨.inl h, rfl, rfl⟩

theorem Settled.refused (h : a.Refused fp t) :
    Settled fp faulty a done refusal t refusal ⟨t, none⟩ :=
  .inr ⟨.inr h, rfl, rfl⟩

end Settled

/-! ### Money -/

theorem newBalance_ne_nan {kind : Movement} {balance amount : Double}
    (h : kind.newBalance fp balance amount ≠ .nan) : amount ≠ .nan := by
  cases hcredit : kind.isCredit with
  | true => exact (Double.add_ne_nan fp (by simpa [Movement.newBalance, hcredit] using h)).2
  | false => exact (Double.sub_ne_nan fp (by simpa [Movement.newBalance, hcredit] using h)).2

/-- An amount that passes `amount <= 0` and is a number is positive. -/
theorem pos_of_not_le {amount : Double} (h : ¬ amount ≤ 0) (hnumber : amount ≠ .nan) :
    0 < amount :=
  (Double.not_le_iff_lt hnumber Double.zero_ne_nan).mp h

theorem applyBalanceTransaction_settled (env : Environment) (kind : Movement) (accountNo : Int)
    (amount : Double) (hpositive : ¬ amount ≤ 0) :
    Always (SqlAnswers fp faulty)
      (applyBalanceTransaction fp env accountNo amount kind.isCredit kind.type) ⟨t, none⟩
      (Settled fp faulty (.move kind accountNo amount env.timestamp)
        (fun t' => balanceOf t' accountNo) none t) := by
  cases hrow : t.accounts.lookup accountNo with
  | none =>
      have hrefused : Action.Refused fp (.move kind accountNo amount env.timestamp) t := by
        rintro t' ⟨⟩
        simp_all
      simpa [applyBalanceTransaction, hpositive, hrow] using
        ⟨Settled.failed, Settled.refused hrefused⟩
  | some row =>
      by_cases hfunds : kind.isCredit = false ∧ row.balance < amount
      · have hrefused : Action.Refused fp (.move kind accountNo amount env.timestamp) t := by
          rintro t' ⟨⟩
          simp_all [Double.not_lt_of_le]
        simpa [applyBalanceTransaction, hpositive, hrow, hfunds] using
          ⟨Settled.failed, Settled.refused hrefused⟩
      by_cases hnan : kind.newBalance fp row.balance amount = .nan
      · have hrefused : Action.Refused fp (.move kind accountNo amount env.timestamp) t := by
          rintro t' ⟨⟩
          simp_all
        simp only [Movement.newBalance] at hnan
        simpa [applyBalanceTransaction, hpositive, hrow, hfunds, always_dbUpdateBalance hrow,
          hnan] using ⟨Settled.failed, Settled.refused hrefused⟩
      have hnumber := newBalance_ne_nan hnan
      have hlookup : (t.setBalance accountNo (kind.newBalance fp row.balance amount)).accounts.lookup
          accountNo = some { row with balance := kind.newBalance fp row.balance amount } := by
        simp [hrow]
      have henough : kind.isCredit = true ∨ amount ≤ row.balance := by
        cases hcredit : kind.isCredit with
        | true => exact .inl rfl
        | false =>
            have hbalance : row.balance ≠ .nan :=
              (Double.sub_ne_nan fp (by simpa [Movement.newBalance, hcredit] using hnan)).1
            exact .inr ((Double.not_lt_iff_le hbalance hnumber).mp
              (fun hlt => hfunds ⟨hcredit, hlt⟩))
      have hperformed : Action.Performs fp (.move kind accountNo amount env.timestamp) t _ :=
        .move hrow (pos_of_not_le hpositive hnumber) henough hnan
      have hdone : Settled fp faulty _ (fun t' => balanceOf t' accountNo) none t
          (some (kind.newBalance fp row.balance amount)) _ :=
        Settled.performed hperformed (by simp [balanceOf, book, hrow])
      simp only [Movement.newBalance, book] at hnan hlookup hdone
      simpa [applyBalanceTransaction, hpositive, hrow, hfunds, always_dbUpdateBalance hrow, hnan,
        always_dbInsertTransaction hlookup hnumber hnan] using ⟨Settled.failed, hdone⟩

/-- The four operations on one balance differ in nothing but the text of one
error. -/
theorem checkedBalanceTransaction_settled (env : Environment) (notPositive : Bytes)
    (kind : Movement) (accountNo : Int) (amount : Double) :
    Always (SqlAnswers fp faulty)
      (checkedBalanceTransaction fp env notPositive accountNo amount kind.isCredit kind.type)
      ⟨t, none⟩
      (Settled fp faulty (.move kind accountNo amount env.timestamp)
        (fun t' => balanceOf t' accountNo) none t) := by
  by_cases hpositive : amount ≤ 0
  · have hrefused : Action.Refused fp (.move kind accountNo amount env.timestamp) t := by
      rintro t' (_ | ⟨_, hamount, _, _⟩)
      exact Double.not_lt_of_le hpositive hamount
    simpa [checkedBalanceTransaction, hpositive] using Settled.refused hrefused
  · simpa [checkedBalanceTransaction, hpositive] using
      applyBalanceTransaction_settled env kind accountNo amount hpositive

theorem dbTransfer_settled (env : Environment) (sender receiver : Int) (amount : Double) :
    Always (SqlAnswers fp faulty) (dbTransfer fp env sender receiver amount) ⟨t, none⟩
      (Settled fp faulty (.transfer sender receiver amount env.timestamp)
        (fun t' => balanceOf t' sender) none t) := by
  by_cases hreceiver : receiver ≤ 0 ∨ receiver = sender
  · have hrefused : Action.Refused fp (.transfer sender receiver amount env.timestamp) t := by
      rintro t' ⟨⟩
      rcases hreceiver with hle | heq
      · omega
      · contradiction
    simpa [dbTransfer, hreceiver] using Settled.refused hrefused
  by_cases hpositive : amount ≤ 0
  · have hrefused : Action.Refused fp (.transfer sender receiver amount env.timestamp) t := by
      rintro t' ⟨⟩
      exact Double.not_lt_of_le hpositive ‹0 < amount›
    simpa [dbTransfer, hreceiver, hpositive] using Settled.refused hrefused
  cases hsource : t.accounts.lookup sender with
  | none =>
      have hrefused : Action.Refused fp (.transfer sender receiver amount env.timestamp) t := by
        rintro t' ⟨⟩
        simp_all
      simpa [dbTransfer, hreceiver, hpositive, hsource] using
        ⟨Settled.failed, Settled.refused hrefused⟩
  | some source =>
  cases htarget : t.accounts.lookup receiver with
  | none =>
      have hrefused : Action.Refused fp (.transfer sender receiver amount env.timestamp) t := by
        rintro t' ⟨⟩
        simp_all
      simpa [dbTransfer, hreceiver, hpositive, hsource, htarget] using
        ⟨Settled.failed, Settled.refused hrefused⟩
  | some target =>
  by_cases hfunds : source.balance < amount
  · have hrefused : Action.Refused fp (.transfer sender receiver amount env.timestamp) t := by
      rintro t' ⟨⟩
      simp_all [Double.not_lt_of_le]
    simpa [dbTransfer, hreceiver, hpositive, hsource, htarget, hfunds] using
      ⟨Settled.failed, Settled.refused hrefused⟩
  by_cases hsent : source.balance.sub fp amount = .nan
  · have hrefused : Action.Refused fp (.transfer sender receiver amount env.timestamp) t := by
      rintro t' ⟨⟩
      simp_all
    simpa [dbTransfer, hreceiver, hpositive, hsource, htarget, hfunds,
      always_dbUpdateBalance hsource, hsent] using ⟨Settled.failed, Settled.refused hrefused⟩
  obtain ⟨hpositive', hdistinct⟩ : 0 < receiver ∧ receiver ≠ sender := by omega
  have htarget' : (t.setBalance sender (source.balance.sub fp amount)).accounts.lookup receiver =
      some target := by simp [hdistinct, htarget]
  by_cases hreceived : target.balance.add fp amount = .nan
  · have hrefused : Action.Refused fp (.transfer sender receiver amount env.timestamp) t := by
      rintro t' ⟨⟩
      simp_all
    simpa [dbTransfer, hreceiver, hpositive, hsource, htarget, hfunds,
      always_dbUpdateBalance hsource, hsent, always_dbUpdateBalance htarget', hreceived] using
      ⟨Settled.failed, Settled.refused hrefused⟩
  obtain ⟨hbalance, hnumber⟩ := Double.sub_ne_nan fp hsent
  have hperformed : Action.Performs fp (.transfer sender receiver amount env.timestamp) t _ :=
    .transfer hpositive' hdistinct hsource htarget (pos_of_not_le hpositive hnumber)
      ((Double.not_lt_iff_le hbalance hnumber).mp hfunds) hsent hreceived
  have hdone : Settled fp faulty _ (fun t' => balanceOf t' sender) none t
      (some (source.balance.sub fp amount)) _ :=
    Settled.performed hperformed (by simp [balanceOf, book, hsource, Ne.symm hdistinct])
  -- the two balances are written before the two transactions are
  have hfrom : ((t.setBalance sender (source.balance.sub fp amount)).setBalance receiver
      (target.balance.add fp amount)).accounts.lookup sender =
      some { source with balance := source.balance.sub fp amount } := by
    simp [hsource, Ne.symm hdistinct]
  have hto (mk : Nat → Transaction) (hmk : ∀ n, (mk n).id = n) :
      (((t.setBalance sender (source.balance.sub fp amount)).setBalance receiver
      (target.balance.add fp amount)).insertTransaction mk hmk).accounts.lookup receiver =
      some { target with balance := target.balance.add fp amount } := by
    simp [htarget, hdistinct]
  simpa [dbTransfer, hreceiver, hpositive, hsource, htarget, hfunds,
    always_dbUpdateBalance hsource, hsent, always_dbUpdateBalance htarget', hreceived,
    always_dbInsertTransaction hfrom hnumber hsent,
    always_dbInsertTransaction (hto _ _) hnumber hreceived] using ⟨Settled.failed, hdone⟩

/-! ### Accounts -/

theorem dbCreateAccount_settled (env : Environment) (accountNo : Int) (name : Bytes) (pin : Int) :
    Always (SqlAnswers fp faulty) (dbCreateAccount env accountNo name pin) ⟨t, none⟩
      (Settled fp faulty (.create accountNo name pin env.salt env.timestamp)
        (fun _ => true) false t) := by
  by_cases hpositive : accountNo ≤ 0
  · have hrefused : Action.Refused fp (.create accountNo name pin env.salt env.timestamp) t := by
      rintro t' ⟨⟩
      omega
    simpa [dbCreateAccount, hpositive] using Settled.refused hrefused
  by_cases hpin : pin < 1000 ∨ 9999 < pin
  · have hrefused : Action.Refused fp (.create accountNo name pin env.salt env.timestamp) t := by
      rintro t' ⟨_, hvalid, _, _⟩
      have := hvalid.1
      have := hvalid.2
      omega
    simpa [dbCreateAccount, hpositive, hpin] using Settled.refused hrefused
  by_cases hname : storedName name = []
  · have hrefused : Action.Refused fp (.create accountNo name pin env.salt env.timestamp) t := by
      rintro t' ⟨⟩
      contradiction
    simp only [storedName] at hname
    simpa [dbCreateAccount, hpositive, hpin, hname] using Settled.refused hrefused
  have hnumber : bindDouble 0 = some 0 := bindDouble_of_ne_nan Double.zero_ne_nan
  cases hrow : t.accounts.lookup accountNo with
  | some row =>
      have hrefused : Action.Refused fp (.create accountNo name pin env.salt env.timestamp) t := by
        rintro t' ⟨⟩
        simp_all
      simp only [storedName] at hname
      simpa [dbCreateAccount, hpositive, hpin, hname, always_execute, Statement.exec, hnumber, hrow]
        using ⟨Settled.failed, Settled.refused hrefused⟩
  | none =>
      have hvalid : ValidPin pin := by unfold ValidPin; omega
      have hperformed :
          Action.Performs fp (.create accountNo name pin env.salt env.timestamp) t _ :=
        .create (not_le.mp hpositive) hvalid hname hrow
      have hdone : Settled fp faulty _ (fun _ => true) false t true _ :=
        Settled.performed hperformed rfl
      simp only [storedName, newAccount] at hname hdone
      simpa [dbCreateAccount, hpositive, hpin, hname, always_execute, Statement.exec, hnumber, hrow]
        using ⟨Settled.failed, hdone⟩

/-- Locking and unlocking need nothing but an existing account. -/
theorem dbSetLock_settled {a : Action} {accountNo failedAttempts isLocked : Int}
    (hperforms : ∀ row, 0 < accountNo → t.accounts.lookup accountNo = some row →
      a.Performs fp t (t.setLoginState accountNo failedAttempts isLocked))
    (hrefused : accountNo ≤ 0 ∨ t.accounts.lookup accountNo = none → a.Refused fp t) :
    Always (SqlAnswers fp faulty) (dbSetLock accountNo failedAttempts isLocked) ⟨t, none⟩
      (Settled fp faulty a (fun _ => true) false t) := by
  by_cases hpositive : accountNo ≤ 0
  · simpa [dbSetLock, hpositive] using Settled.refused (hrefused (.inl hpositive))
  cases hrow : t.accounts.lookup accountNo with
  | none =>
      simpa [dbSetLock, hpositive, hrow] using
        ⟨Settled.failed, Settled.refused (hrefused (.inr hrow))⟩
  | some row =>
      have hdone : Settled fp faulty a (fun _ => true) false t true _ :=
        Settled.performed (hperforms row (not_le.mp hpositive) hrow) rfl
      simpa [dbSetLock, hpositive, hrow, always_executeOrReport, Statement.exec] using
        ⟨Settled.failed, hdone⟩

theorem dbLockAccount_settled (accountNo : Int) :
    Always (SqlAnswers fp faulty) (dbLockAccount accountNo) ⟨t, none⟩
      (Settled fp faulty (.lock accountNo) (fun _ => true) false t) := by
  apply dbSetLock_settled
  · exact fun row hpositive hrow => .lock hpositive hrow
  · rintro hmissing t' ⟨hpositive, hrow⟩
    rcases hmissing with hle | hnone
    · omega
    · simp_all

theorem dbUnlockAccount_settled (accountNo : Int) :
    Always (SqlAnswers fp faulty) (dbUnlockAccount accountNo) ⟨t, none⟩
      (Settled fp faulty (.unlock accountNo) (fun _ => true) false t) := by
  apply dbSetLock_settled
  · exact fun row hpositive hrow => .unlock hpositive hrow
  · rintro hmissing t' ⟨hpositive, hrow⟩
    rcases hmissing with hle | hnone
    · omega
    · simp_all

/-- Behind the move no transaction names the old number. -/
theorem moved_accountNo (t : Tables) {newAccountNo accountNo : Int} (related : Option Int)
    (hdistinct : accountNo ≠ newAccountNo) :
    ¬ ∃ r ∈ ((t.moveTransactions newAccountNo accountNo).setRelated related
      accountNo).transactions.rows, r.accountNo = accountNo := by
  simp only [Tables.setRelated, Tables.moveTransactions, Tables.mapTransactions,
    SerialTable.map_rows, List.map_map, List.mem_map, Function.comp_apply]
  rintro ⟨_, ⟨r, _, rfl⟩, hno⟩
  by_cases hr : r.accountNo = accountNo
  · simp only [hr, if_true] at hno
    split at hno <;> exact hdistinct hno.symm
  · simp only [hr, if_false] at hno
    split at hno <;> exact hr hno

theorem dbEditAccount_settled (env : Environment) (accountNo newAccountNo : Int) (name : Bytes)
    (pin : Int) :
    Always (SqlAnswers fp faulty) (dbEditAccount env accountNo newAccountNo name pin) ⟨t, none⟩
      (Settled fp faulty (.edit accountNo newAccountNo name pin env.salt)
        (fun _ => true) false t) := by
  by_cases hpositive : accountNo ≤ 0 ∨ newAccountNo ≤ 0
  · have hrefused : Action.Refused fp (.edit accountNo newAccountNo name pin env.salt) t := by
      rintro t' ⟨⟩ <;> omega
    simpa [dbEditAccount, hpositive] using Settled.refused hrefused
  by_cases hname : storedName name = []
  · have hrefused : Action.Refused fp (.edit accountNo newAccountNo name pin env.salt) t := by
      rintro t' ⟨⟩ <;> contradiction
    simp only [storedName] at hname
    simpa [dbEditAccount, hpositive, hname] using Settled.refused hrefused
  by_cases hpin : pin < 1000 ∨ 9999 < pin
  · have hrefused : Action.Refused fp (.edit accountNo newAccountNo name pin env.salt) t := by
      rintro t' ⟨⟩ <;> · unfold ValidPin at *; omega
    simp only [storedName] at hname
    simpa [dbEditAccount, hpositive, hname, hpin] using Settled.refused hrefused
  obtain ⟨hold, hnew⟩ : 0 < accountNo ∧ 0 < newAccountNo := by omega
  have hvalid : ValidPin pin := by unfold ValidPin; omega
  cases hrow : t.accounts.lookup accountNo with
  | none =>
      have hrefused : Action.Refused fp (.edit accountNo newAccountNo name pin env.salt) t := by
        rintro t' ⟨⟩ <;> simp_all
      simp only [storedName] at hname
      simpa [dbEditAccount, hpositive, hname, hpin, always_execute, Statement.exec, hrow] using
        ⟨Settled.failed, Settled.refused hrefused⟩
  | some row =>
  by_cases hsame : accountNo = newAccountNo
  · subst hsame
    have hperformed : Action.Performs fp (.edit accountNo accountNo name pin env.salt) t _ :=
      .rename hold hname hvalid hrow
    have hdone : Settled fp faulty _ (fun _ => true) false t true _ :=
      Settled.performed hperformed rfl
    simp only [storedName] at hname hdone
    simpa [dbEditAccount, not_le.mpr hold, hname, hpin, always_execute, Statement.exec, hrow,
      always_executeOrRollback] using ⟨Settled.failed, hdone⟩
  by_cases hnan : row.balance = .nan
  · have hrefused : Action.Refused fp (.edit accountNo newAccountNo name pin env.salt) t := by
      rintro t' ⟨⟩ <;> simp_all
    simp only [storedName] at hname
    simpa [dbEditAccount, renumberAccount, hpositive, hname, hpin, always_execute,
      Statement.exec, hrow, hsame, hnan] using ⟨Settled.failed, Settled.refused hrefused⟩
  cases htaken : t.accounts.lookup newAccountNo with
  | some other =>
      have hrefused : Action.Refused fp (.edit accountNo newAccountNo name pin env.salt) t := by
        rintro t' ⟨⟩ <;> simp_all
      simp only [storedName] at hname
      simpa [dbEditAccount, renumberAccount, hpositive, hname, hpin, always_execute,
        Statement.exec, hrow, hsame, htaken, hnan] using ⟨Settled.failed, Settled.refused hrefused⟩
  | none =>
  have hperformed : Action.Performs fp (.edit accountNo newAccountNo name pin env.salt) t _ :=
    .renumber hold hnew hname hvalid hsame hrow htaken hnan
  have hdone : Settled fp faulty _ (fun _ => true) false t true _ :=
    Settled.performed hperformed rfl
  let row' := renumbered row newAccountNo name pin env.salt
  have hmoved := moved_accountNo (t.insertAccount row') (some newAccountNo) hsame
  have hinserted := t.lookup_insertAccount newAccountNo row' htaken
  simp only [storedName, row', renumbered, renumber] at hname hdone hmoved hinserted
  simpa [dbEditAccount, renumberAccount, hpositive, hname, hpin, always_execute, Statement.exec,
    hrow, hsame, htaken, hnan, always_executeOrRollback, hmoved, hinserted] using
    ⟨Settled.failed, hdone⟩

theorem dbDeleteAccount_settled (accountNo : Int) :
    Always (SqlAnswers fp faulty) (dbDeleteAccount accountNo) ⟨t, none⟩
      (Settled fp faulty (.delete accountNo) (fun _ => true) false t) := by
  by_cases hpositive : accountNo ≤ 0
  · have hrefused : Action.Refused fp (.delete accountNo) t := by
      rintro t' ⟨⟩
      omega
    simpa [dbDeleteAccount, hpositive] using Settled.refused hrefused
  cases hrow : t.accounts.lookup accountNo with
  | none =>
      have hrefused : Action.Refused fp (.delete accountNo) t := by
        rintro t' ⟨⟩
        simp_all
      simpa [dbDeleteAccount, hpositive, hrow] using ⟨Settled.failed, Settled.refused hrefused⟩
  | some row =>
  by_cases hempty : row.balance = 0
  · have hdone : Settled fp faulty _ (fun _ => true) false t true _ :=
      Settled.performed (.delete (not_le.mp hpositive) hrow hempty) rfl
    have hnone : ¬ ∃ r ∈ ((t.setRelated none accountNo).deleteTransactions
        accountNo).transactions.rows, r.accountNo = accountNo := by
      rintro ⟨r, hr, hno⟩
      simpa [hno] using (List.mem_filter.mp hr).2
    simpa [dbDeleteAccount, hpositive, hrow, hempty, always_executeOrRollback, Statement.exec,
      hnone] using ⟨Settled.failed, hdone⟩
  · have hrefused : Action.Refused fp (.delete accountNo) t := by
      rintro t' ⟨⟩
      simp_all
    simpa [dbDeleteAccount, hpositive, hrow, hempty] using
      ⟨Settled.failed, Settled.refused hrefused⟩

/-! ### Admins -/

/-- The row the first admin gets. -/
def seededAdmin (env : Environment) (user pass : Bytes) : Admin where
  username := user
  passwordHash := (adminDigest env.salt user pass).toInt64
  passwordSalt := env.salt.toInt64
  createdAt := env.timestamp

/-- How seeding ends: an admin was there, the first one has been created, or
the environment does not name an acceptable one. -/
inductive SeedSettled (faulty : Prop) (env : Environment) (adminUser adminPass : Option Bytes)
    (t : Tables) : Bool → Store → Prop where
  | present (hsome : t.admins.rows ≠ []) :
      SeedSettled faulty env adminUser adminPass t true ⟨t, none⟩
  | seeded {user pass : Bytes} (hnone : t.admins.rows = []) (huser : adminUser = some user)
      (hpass : adminPass = some pass) (hnonempty : user ≠ []) (hlength : 8 ≤ pass.length) :
      SeedSettled faulty env adminUser adminPass t true
        ⟨t.insertAdmin (seededAdmin env user pass), none⟩
  | refused (h : faulty ∨ t.admins.rows = [] ∧ ∀ user pass, adminUser = some user →
      adminPass = some pass → user = [] ∨ pass.length < 8) :
      SeedSettled faulty env adminUser adminPass t false ⟨t, none⟩

theorem dbSeedAdmin_settled (env : Environment) (adminUser adminPass : Option Bytes) :
    Always (SqlAnswers fp faulty) (dbSeedAdmin env adminUser adminPass) ⟨t, none⟩
      (SeedSettled faulty env adminUser adminPass t) := by
  have hfailed (hf : faulty) : SeedSettled faulty env adminUser adminPass t false ⟨t, none⟩ :=
    .refused (.inl hf)
  by_cases hrows : t.admins.rows = []
  · have hnew (username : Bytes) : t.admins.lookup username = none := by
      rw [KeyedTable.lookup_eq_none_iff]
      simp [hrows]
    by_cases hacceptable : ∃ user pass, adminUser = some user ∧ adminPass = some pass ∧
        user ≠ [] ∧ 8 ≤ pass.length
    · obtain ⟨user, pass, rfl, rfl, hnonempty, hlength⟩ := hacceptable
      have hseeded : SeedSettled faulty env (some user) (some pass) t true _ :=
        .seeded hrows rfl rfl hnonempty hlength
      have hpass : pass ≠ [] := by
        rintro rfl
        simp at hlength
      simp only [seededAdmin] at hseeded
      simpa [dbSeedAdmin, seedDefaultAdmin, always_executeOrReport, Statement.exec, hrows, hnew,
        hnonempty, hpass, not_lt.mpr hlength] using ⟨hfailed, hseeded⟩
    · have hrefused : SeedSettled faulty env adminUser adminPass t false ⟨t, none⟩ := by
        refine .refused (.inr ⟨hrows, ?_⟩)
        intro user pass huser hpass
        by_contra h
        obtain ⟨hnonempty, hlength⟩ := not_or.mp h
        exact hacceptable ⟨user, pass, huser, hpass, hnonempty, not_lt.mp hlength⟩
      simp only [dbSeedAdmin, seedDefaultAdmin, always_bind, always_executeOrReport,
        Statement.exec, hrows, List.length_nil, lt_irrefl, if_false]
      refine ⟨hfailed, ?_⟩
      by_cases hblank : adminUser.getD [] = [] ∨ adminPass.getD [] = []
      · simpa only [hblank, if_true, always_bind, always_setError, always_pure] using hrefused
      · have hshort : (adminPass.getD []).length < 8 := by
          cases adminUser <;> cases adminPass <;> simp_all
        simpa only [hblank, hshort, if_true, if_false, always_bind, always_setError,
          always_pure] using hrefused
  · have hpresent : SeedSettled faulty env adminUser adminPass t true ⟨t, none⟩ := .present hrows
    have hcount : 0 < t.admins.rows.length := List.length_pos_iff.mpr hrows
    simp only [dbSeedAdmin, seedDefaultAdmin, always_bind, always_executeOrReport,
      Statement.exec, gt_iff_lt, hcount, if_true, always_pure]
    exact ⟨hfailed, hpresent⟩

theorem dbChangeAdminPassword_settled (env : Environment) (username newPassword : Bytes) :
    Always (SqlAnswers fp faulty) (dbChangeAdminPassword env username newPassword) ⟨t, none⟩
      (Settled fp faulty (.changePassword username newPassword env.salt)
        (fun _ => true) false t) := by
  by_cases huser : username = []
  · have hrefused : Action.Refused fp (.changePassword username newPassword env.salt) t := by
      rintro t' ⟨⟩
      contradiction
    simpa [dbChangeAdminPassword, huser] using Settled.refused hrefused
  by_cases hnonempty : storedPassword newPassword = []
  · have hrefused : Action.Refused fp (.changePassword username newPassword env.salt) t := by
      rintro t' ⟨⟩
      simp_all
    simp only [storedPassword] at hnonempty
    simpa [dbChangeAdminPassword, huser, hnonempty] using Settled.refused hrefused
  by_cases hlength : (storedPassword newPassword).length < 8
  · have hrefused : Action.Refused fp (.changePassword username newPassword env.salt) t := by
      rintro t' ⟨⟩
      omega
    simp only [storedPassword] at hlength hnonempty
    simpa [dbChangeAdminPassword, huser, hlength, hnonempty] using Settled.refused hrefused
  cases hrow : t.admins.lookup username with
  | none =>
      have hrefused : Action.Refused fp (.changePassword username newPassword env.salt) t := by
        rintro t' ⟨⟩
        simp_all
      have hsame (passwordHash passwordSalt : Int64) :
          t.setAdminPassword username passwordHash passwordSalt = t := by
        simp only [Tables.setAdminPassword, KeyedTable.modify_of_lookup_none hrow]
      simp only [storedPassword] at hlength hnonempty
      simpa [dbChangeAdminPassword, huser, hlength, hnonempty, always_executeOrReport,
        Statement.exec, hrow, hsame] using ⟨Settled.failed, Settled.refused hrefused⟩
  | some row =>
      have hperformed : Action.Performs fp (.changePassword username newPassword env.salt) t _ :=
        .changePassword huser (not_lt.mp hlength) hrow
      have hdone : Settled fp faulty _ (fun _ => true) false t true _ :=
        Settled.performed hperformed rfl
      simp only [storedPassword] at hlength hnonempty hdone
      simpa [dbChangeAdminPassword, huser, hlength, hnonempty, always_executeOrReport,
        Statement.exec, hrow] using ⟨Settled.failed, hdone⟩

end AtmSystem.Bank
