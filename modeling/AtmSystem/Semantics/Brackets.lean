import AtmSystem.Semantics.Calls

/-!
How a `db_*` function brackets its statements. A function is at first outside
a transaction, where a single statement commits by itself and BEGIN leads
inside; COMMIT and ROLLBACK end its work, and no statement may follow. The
answers are arbitrary here, so that what is said of a function holds on any
database and whoever else changes it.
-/

namespace AtmSystem.Model

open Library Program

/-- How far a function has come. -/
inductive Phase where
  | outside
  | inside
  /-- The work is done, and whether it has been committed. -/
  | over (committed : Bool)
  /-- A call that does not belong where it was made. -/
  | broken

/-- Where a call leads. -/
def Phase.next : Phase → (β : Type) → SqlOp β → β → Phase
  | φ, _, .prepare, _ | φ, _, .errmsg, _ | φ, _, .setError _, _ | φ, _, .readError, _ => φ
  | .outside, _, .begin, answer => if answer.isOk then .inside else .outside
  | .outside, _, .step _, answer => .over answer.isOk
  | .inside, _, .step _, _ => .inside
  | .inside, _, .commit, answer => if answer.isOk then .over true else .inside
  | .inside, _, .rollback, _ => .over false
  | _, _, _, _ => .broken

/-- The phases of a function whatever its calls answer. -/
def Bracketed : Spec SqlOp Phase := fun β op φ answer φ' => φ' = φ.next β op answer

/-- A function returns 1 if and only if its work has been committed. -/
def Ends (answer : Bool) (φ : Phase) : Prop :=
  φ = .over answer ∨ φ = .outside ∧ answer = false

theorem Phase.next_broken {β : Type} (op : SqlOp β) (answer : β) :
    Phase.next .broken β op answer = .broken := by
  cases op <;> rfl

/-- Nothing mends a broken function. -/
theorem not_always_broken {p : Db Bool} : ¬ Always Bracketed p .broken Ends := by
  refine not_always_of_trap (fun φ => φ = .broken) ?_ ?_ rfl
  · intro β op φ hφ
    obtain ⟨answer⟩ := exists_answer op
    exact ⟨answer, _, rfl, by rw [hφ, Phase.next_broken]⟩
  · rintro answer φ rfl (h | ⟨h, -⟩)
    · cases h
    · cases h

/-- A call in a phase where it does not belong. -/
theorem not_always_misplaced {β : Type} {op : SqlOp β} {k : β → Db Bool} {φ : Phase}
    (hop : ∀ answer, φ.next β op answer = .broken) : ¬ Always Bracketed (.perform op k) φ Ends := by
  intro h
  obtain ⟨answer⟩ := exists_answer op
  exact not_always_broken (h answer .broken (hop answer).symm)

/-! ### Rules of the helpers -/

section rules

variable {φ : Phase} {β : Type}

theorem bracketed_call (op : SqlOp β) (post : β → Phase → Prop) :
    Always Bracketed (call op) φ post ↔ ∀ answer, post answer (φ.next β op answer) := by
  simp only [always_call, Bracketed, forall_eq]

@[simp] theorem bracketed_setError (text : Bytes) (post : Unit → Phase → Prop) :
    Always Bracketed (setError text) φ post ↔ post () φ := by
  rw [setError, bracketed_call]
  exact ⟨fun h => h (), fun h _ => h⟩

@[simp] theorem bracketed_setErrmsg (post : Unit → Phase → Prop) :
    Always Bracketed setErrmsg φ post ↔ post () φ := by
  simp only [setErrmsg, always_bind, bracketed_call, bracketed_setError, Phase.next]
  exact ⟨fun h => h [], fun h _ => h⟩

@[simp] theorem bracketed_dbBeginTransaction (post : Bool → Phase → Prop) :
    Always Bracketed dbBeginTransaction .outside post ↔ post false .outside ∧ post true .inside := by
  simp only [dbBeginTransaction, always_bind, bracketed_call, Phase.next]
  constructor
  · intro h
    exact ⟨(bracketed_setError ..).mp (h (.error [])), h (.ok ())⟩
  · intro h answer
    cases answer with
    | ok => exact h.2
    | error message => exact (bracketed_setError ..).mpr h.1

@[simp] theorem bracketed_dbCommitTransaction (post : Bool → Phase → Prop) :
    Always Bracketed dbCommitTransaction .inside post ↔
      post false .inside ∧ post true (.over true) := by
  simp only [dbCommitTransaction, always_bind, bracketed_call, Phase.next]
  constructor
  · intro h
    exact ⟨(bracketed_setError ..).mp (h (.error [])), h (.ok ())⟩
  · intro h answer
    cases answer with
    | ok => exact h.2
    | error message => exact (bracketed_setError ..).mpr h.1

@[simp] theorem bracketed_dbRollbackTransaction (post : Unit → Phase → Prop) :
    Always Bracketed dbRollbackTransaction .inside post ↔ post () (.over false) := by
  rw [dbRollbackTransaction, bracketed_call]
  exact ⟨fun h => h (), fun h _ => h⟩

variable (statement : Statement β)

/-- A statement by itself. -/
theorem bracketed_alone (post : Except ResultCode β → Phase → Prop) :
    Always Bracketed (execute statement) .outside post ↔
      post (.error .notPrepared) .outside ∧ ∀ answer, post answer (.over answer.isOk) := by
  simp only [execute, always_bind, bracketed_call, Phase.next, Bool.forall_bool, Bool.not_true,
    Bool.not_false, Bool.false_eq_true, if_true, if_false, always_pure]

@[simp] theorem bracketed_execute (post : Except ResultCode β → Phase → Prop) :
    Always Bracketed (execute statement) .inside post ↔ ∀ answer, post answer .inside := by
  simp only [execute, always_bind, bracketed_call, Phase.next, Bool.forall_bool, Bool.not_true,
    Bool.not_false, Bool.false_eq_true, if_true, if_false, always_pure]
  exact ⟨And.right, fun h => ⟨h _, h⟩⟩

@[simp] theorem bracketed_executeOrReport (post : Option β → Phase → Prop) :
    Always Bracketed (executeOrReport statement) .inside post ↔
      post none .inside ∧ ∀ answer, post (some answer) .inside := by
  simp only [executeOrReport, always_bind, bracketed_execute]
  constructor
  · intro h
    exact ⟨(bracketed_setErrmsg _).mp (h (.error .failure)), fun answer => h (.ok answer)⟩
  · intro h answer
    cases answer with
    | ok answer => exact h.2 answer
    | error code => exact (bracketed_setErrmsg _).mpr h.1

@[simp] theorem bracketed_executeOrRollback (post : Option β → Phase → Prop) :
    Always Bracketed (executeOrRollback statement) .inside post ↔
      post none (.over false) ∧ ∀ answer, post (some answer) .inside := by
  simp only [executeOrRollback, always_bind, bracketed_execute]
  constructor
  · intro h
    have hfail := h (.error .failure)
    simp only [always_bind, bracketed_dbRollbackTransaction, bracketed_setErrmsg] at hfail
    exact ⟨hfail, fun answer => h (.ok answer)⟩
  · intro h answer
    cases answer with
    | ok answer => exact h.2 answer
    | error code =>
        simp only [always_bind, bracketed_dbRollbackTransaction, bracketed_setErrmsg]
        exact h.1

@[simp] theorem bracketed_rollbackWith (message : Bytes) (post : Unit → Phase → Prop) :
    Always Bracketed (rollbackWith message) .inside post ↔ post () (.over false) := by
  simp only [rollbackWith, always_bind, bracketed_dbRollbackTransaction, bracketed_setError]

@[simp] theorem bracketed_dbReadAccount (accountNo : Int)
    (post : Lookup (AccountInfo × UInt64 × UInt64) → Phase → Prop) :
    Always Bracketed (dbReadAccount accountNo) .inside post ↔
      post .failed .inside ∧ post .notFound .inside ∧
        ∀ row : Account, post (.found (row.info accountNo, row.pinHash.toUInt64,
          row.salt.toUInt64)) .inside := by
  simp only [dbReadAccount, always_bind, bracketed_executeOrReport, Option.forall, always_pure]

@[simp] theorem bracketed_dbUpdateBalance (accountNo : Int) (balance : Double)
    (post : Bool → Phase → Prop) :
    Always Bracketed (dbUpdateBalance accountNo balance) .inside post ↔
      post false .inside ∧ post true .inside := by
  simp [dbUpdateBalance]

@[simp] theorem bracketed_dbInsertTransaction (accountNo : Int) (relatedAccount : Option Int)
    (type : TransactionType) (amount : Double) (balanceAfter : Option Double) (timestamp : Bytes)
    (post : Bool → Phase → Prop) :
    Always Bracketed
        (dbInsertTransaction accountNo relatedAccount type amount balanceAfter timestamp)
        .inside post ↔
      post false .inside ∧ post true .inside := by
  simp [dbInsertTransaction]

end rules

/-! ### The functions -/

section functions

variable (fp : Rounding) (env : Environment)

theorem bracketed_checkedBalanceTransaction (notPositive : Bytes) (accountNo : Int)
    (amount : Double) (isCredit : Bool) (type : TransactionType) :
    Always Bracketed (checkedBalanceTransaction fp env notPositive accountNo amount isCredit type)
      .outside fun answer φ => Ends answer.isSome φ := by
  simp only [checkedBalanceTransaction, applyBalanceTransaction, always_ite, always_bind,
    always_pure, bracketed_setError, bracketed_dbBeginTransaction, bracketed_dbReadAccount,
    bracketed_rollbackWith, bracketed_dbUpdateBalance, bracketed_dbInsertTransaction,
    bracketed_dbRollbackTransaction, bracketed_dbCommitTransaction]
  simp [Ends]

theorem bracketed_dbTransfer (fromAccount toAccount : Int) (amount : Double) :
    Always Bracketed (dbTransfer fp env fromAccount toAccount amount) .outside
      fun answer φ => Ends answer.isSome φ := by
  simp only [dbTransfer, always_ite, always_bind, always_pure, bracketed_setError,
    bracketed_dbBeginTransaction, bracketed_dbReadAccount, bracketed_rollbackWith,
    bracketed_dbUpdateBalance, bracketed_dbInsertTransaction, bracketed_dbRollbackTransaction,
    bracketed_dbCommitTransaction]
  simp [Ends]

theorem bracketed_dbCreateAccount (accountNo : Int) (name : Bytes) (pin : Int) :
    Always Bracketed (dbCreateAccount env accountNo name pin) .outside Ends := by
  simp only [dbCreateAccount, always_ite, always_bind, always_pure, bracketed_setError,
    bracketed_alone, bracketed_setErrmsg]
  refine ⟨fun _ => .inr ⟨rfl, rfl⟩, fun _ => ⟨fun _ => .inr ⟨rfl, rfl⟩, fun _ =>
    ⟨fun _ => .inr ⟨rfl, rfl⟩, fun _ => ⟨.inr ⟨rfl, rfl⟩, ?_⟩⟩⟩⟩
  intro answer
  cases answer with
  | ok => exact .inl rfl
  | error code =>
      cases code <;>
        · simp only [always_bind, bracketed_setError, bracketed_setErrmsg, always_pure]
          exact .inl rfl

/-- The branch that renumbers rolls back if it fails. -/
theorem bracketed_renumberAccount (accountNo newAccountNo : Int) (row : Account) :
    Always Bracketed (renumberAccount accountNo newAccountNo row) .inside
      fun stored φ => φ = if stored then .inside else .over false := by
  simp only [renumberAccount, always_bind, bracketed_execute]
  intro answer
  cases answer with
  | ok =>
      simp only [always_ite, always_bind, always_pure, bracketed_executeOrRollback]
      simp
  | error code =>
      cases code <;>
        simp only [always_bind, bracketed_dbRollbackTransaction, bracketed_setError,
          bracketed_setErrmsg, always_pure] <;> rfl

/-- The end of `db_edit_account`. -/
theorem bracketed_finish {stored : Bool} {φ : Phase} (hφ : φ = if stored then .inside else .over false) :
    Always Bracketed
      (if (!stored) = true then pure false
        else do
          if !(← dbCommitTransaction) then
            dbRollbackTransaction
            return false
          return true) φ Ends := by
  rw [hφ]
  cases stored with
  | false => exact .inl rfl
  | true =>
      simp only [Bool.not_true, Bool.false_eq_true, if_false, if_true, always_bind,
        bracketed_dbCommitTransaction, always_ite, bracketed_dbRollbackTransaction, always_pure]
      simp [Ends]

theorem bracketed_dbEditAccount (accountNo newAccountNo : Int) (name : Bytes) (pin : Int) :
    Always Bracketed (dbEditAccount env accountNo newAccountNo name pin) .outside Ends := by
  have hrefused : Ends false .outside := .inr ⟨rfl, rfl⟩
  simp only [dbEditAccount, always_ite, always_bind, always_pure, bracketed_setError,
    bracketed_dbBeginTransaction, bracketed_execute]
  refine ⟨fun _ => hrefused, fun _ => ⟨fun _ => hrefused, fun _ => ⟨fun _ => hrefused, fun _ =>
    ⟨by simpa using hrefused, by simp, ?_⟩⟩⟩⟩
  intro _ answer
  cases answer with
  | error code =>
      cases code with
      | notPrepared =>
          simp only [always_bind, bracketed_dbRollbackTransaction, bracketed_setErrmsg, always_pure]
          exact .inl rfl
      | constraint =>
          simp only [always_bind, bracketed_rollbackWith, always_pure]
          exact .inl rfl
      | failure =>
          simp only [always_bind, bracketed_rollbackWith, always_pure]
          exact .inl rfl
  | ok found =>
      cases found with
      | none =>
          simp only [always_bind, bracketed_rollbackWith, always_pure]
          exact .inl rfl
      | some row =>
          rw [always_ite]
          constructor
          · intro _
            simp only [always_bind, bracketed_executeOrRollback, always_pure]
            exact ⟨bracketed_finish rfl, fun _ => bracketed_finish rfl⟩
          · intro _
            rw [always_bind]
            exact (bracketed_renumberAccount accountNo newAccountNo _).mono
              fun stored φ hφ => bracketed_finish hφ

end functions

end AtmSystem.Model
