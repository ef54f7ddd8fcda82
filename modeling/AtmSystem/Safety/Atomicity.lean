import AtmSystem.Bank.Turn

/-!
All or nothing. An operation may have any of its SQL calls fail, with any
text. It then either commits its whole effect and says so, or it answers 0
and the tables are what they were; and it never leaves a transaction open for
the next operation to stumble over.
-/

namespace AtmSystem.Bank

open Library Program Model

/-- The two ways an operation may end: it returns 1 with the action committed,
or 0 with nothing changed. No transaction is open in either. -/
inductive AllOrNothing (fp : Rounding) (a : Action) (t : Tables) : Bool → Store → Prop where
  | committed {t' : Tables} (hperforms : a.Performs fp t t') : AllOrNothing fp a t true ⟨t', none⟩
  | unchanged : AllOrNothing fp a t false ⟨t, none⟩

/-- `p` carries out `a` as a whole or not at all on every database without an
open transaction, and a BEGIN that follows succeeds unless it fails itself. -/
def Atomic (fp : Rounding) (env : Environment) (p : Db Bool) (a : Action) : Prop :=
  ∀ t, AllOrNothing fp a t (p.exec fp env ⟨t, none⟩).1 (p.exec fp env ⟨t, none⟩).2 ∧
    ∀ env', ¬ env'.Faulty →
      (dbBeginTransaction.exec fp env' (p.exec fp env ⟨t, none⟩).2).1 = true

/-- Whether a function with an output parameter returns 1. -/
def returned {α : Type} (p : Db (Option α)) : Db Bool := do
  return (← p).isSome

section atomic

variable {fp : Rounding} {env : Environment} {a : Action}

theorem begin_after (fp : Rounding) (t : Tables) {env' : Environment} (h : ¬ env'.Faulty) :
    (dbBeginTransaction.exec fp env' ⟨t, none⟩).1 = true := by
  have hbegin : Always (SqlAnswers fp env'.Faulty) dbBeginTransaction ⟨t, none⟩
      (fun answer _ => answer = true) := by
    rw [always_dbBeginTransaction]
    exact ⟨fun hfaulty => absurd hfaulty h, rfl⟩
  exact exec_of_always fp env' dbBeginTransaction ⟨t, none⟩ hbegin

theorem atomic_of_always {p : Db Bool}
    (hp : ∀ t, Always (SqlAnswers fp env.Faulty) p ⟨t, none⟩ (AllOrNothing fp a t)) :
    Atomic fp env p a := by
  intro t
  have hended := exec_of_always fp env p ⟨t, none⟩ (hp t)
  refine ⟨hended, ?_⟩
  intro env' hquiet
  generalize (p.exec fp env ⟨t, none⟩).1 = answer at hended
  generalize (p.exec fp env ⟨t, none⟩).2 = s at hended
  cases hended with
  | committed hperforms => exact begin_after fp _ hquiet
  | unchanged => exact begin_after fp t hquiet

theorem atomic_of_settled {p : Db Bool}
    (hp : ∀ t, Always (SqlAnswers fp env.Faulty) p ⟨t, none⟩
      (Settled fp env.Faulty a (fun _ => true) false t)) : Atomic fp env p a := by
  apply atomic_of_always
  intro t
  apply (hp t).mono
  intro answer s hsettled
  rcases hsettled with ⟨t', hperforms, rfl, rfl⟩ | ⟨_, rfl, rfl⟩
  · exact .committed hperforms
  · exact .unchanged

/-- An operation that hands back the new balance of an account. -/
theorem returned_settled {faulty : Prop} {t : Tables} {p : Db (Option Double)} {accountNo : Int}
    (hp : Always (SqlAnswers fp faulty) p ⟨t, none⟩
      (Settled fp faulty a (fun t' => balanceOf t' accountNo) none t))
    (hbalance : ∀ t', a.Performs fp t t' → ∃ balance, balanceOf t' accountNo = some balance) :
    Always (SqlAnswers fp faulty) (returned p) ⟨t, none⟩
      (Settled fp faulty a (fun _ => true) false t) := by
  rw [returned, always_bind]
  apply hp.mono
  intro answer s hsettled
  rcases hsettled with ⟨t', hperforms, rfl, rfl⟩ | ⟨hrefused, rfl, rfl⟩
  · obtain ⟨balance, hsome⟩ := hbalance t' hperforms
    simp only [hsome]
    exact .performed hperforms rfl
  · exact .inr ⟨hrefused, rfl, rfl⟩

theorem atomic_of_balance {p : Db (Option Double)} {accountNo : Int}
    (hp : ∀ t, Always (SqlAnswers fp env.Faulty) p ⟨t, none⟩
      (Settled fp env.Faulty a (fun t' => balanceOf t' accountNo) none t))
    (hbalance : ∀ t t', a.Performs fp t t' → ∃ balance, balanceOf t' accountNo = some balance) :
    Atomic fp env (returned p) a :=
  atomic_of_settled fun t => returned_settled (hp t) (hbalance t)

theorem atomic_move (notPositive : Bytes) (kind : Movement) (accountNo : Int) (amount : Double) :
    Atomic fp env (returned (checkedBalanceTransaction fp env notPositive accountNo amount
      kind.isCredit kind.type)) (.move kind accountNo amount env.timestamp) :=
  atomic_of_balance (fun _ => checkedBalanceTransaction_settled ..) fun _ _ => balanceOf_of_move

end atomic

/-- On every database without an open transaction, for all arguments and
whichever statements fail, each operation that writes returns 1 with its
effect committed or 0 with all tables as they were, and leaves no transaction
open. -/
theorem operations_atomic (fp : Rounding) (env : Environment) :
    (∀ accountNo amount, Atomic fp env (returned (dbDeposit fp env accountNo amount))
      (.move .deposit accountNo amount env.timestamp)) ∧
    (∀ accountNo amount, Atomic fp env (returned (dbWithdraw fp env accountNo amount))
      (.move .withdraw accountNo amount env.timestamp)) ∧
    (∀ accountNo amount, Atomic fp env (returned (dbAdminCredit fp env accountNo amount))
      (.move .adminCredit accountNo amount env.timestamp)) ∧
    (∀ accountNo amount, Atomic fp env (returned (dbAdminDebit fp env accountNo amount))
      (.move .adminDebit accountNo amount env.timestamp)) ∧
    (∀ sender receiver amount, Atomic fp env (returned (dbTransfer fp env sender receiver amount))
      (.transfer sender receiver amount env.timestamp)) ∧
    (∀ accountNo newAccountNo name pin,
      Atomic fp env (dbEditAccount env accountNo newAccountNo name pin)
        (.edit accountNo newAccountNo name pin env.salt)) ∧
    (∀ accountNo, Atomic fp env (dbDeleteAccount accountNo) (.delete accountNo)) ∧
    (∀ accountNo name pin, Atomic fp env (dbCreateAccount env accountNo name pin)
      (.create accountNo name pin env.salt env.timestamp)) ∧
    (∀ accountNo, Atomic fp env (dbLockAccount accountNo) (.lock accountNo)) ∧
    (∀ accountNo, Atomic fp env (dbUnlockAccount accountNo) (.unlock accountNo)) ∧
    (∀ username newPassword, Atomic fp env (dbChangeAdminPassword env username newPassword)
      (.changePassword username newPassword env.salt)) := by
  refine ⟨?_, ?_, ?_, ?_, ?_, ?_, ?_, ?_, ?_, ?_, ?_⟩
  · exact atomic_move _ .deposit
  · exact atomic_move _ .withdraw
  · exact atomic_move _ .adminCredit
  · exact atomic_move _ .adminDebit
  · intro sender receiver amount
    exact atomic_of_balance (fun _ => dbTransfer_settled ..) fun _ _ => balanceOf_of_transfer
  · exact fun _ _ _ _ => atomic_of_settled fun _ => dbEditAccount_settled ..
  · exact fun _ => atomic_of_settled fun _ => dbDeleteAccount_settled _
  · exact fun _ _ _ => atomic_of_settled fun _ => dbCreateAccount_settled ..
  · exact fun _ => atomic_of_settled fun _ => dbLockAccount_settled _
  · exact fun _ => atomic_of_settled fun _ => dbUnlockAccount_settled _
  · exact fun _ _ => atomic_of_settled fun _ => dbChangeAdminPassword_settled ..

end AtmSystem.Bank
