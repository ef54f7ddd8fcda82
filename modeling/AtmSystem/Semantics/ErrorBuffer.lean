import AtmSystem.Library.Guarded
import AtmSystem.Model.Server

/-!
Who writes the error buffer. `handle_request` does not initialise it, so it may
be read only once a function has written it. Here the calls into SQLite may
answer anything at all; what is followed is whether `set_error` has been
called.
-/

namespace AtmSystem.Model

open Library Program

/-- Whether the error buffer has been written. -/
def Writes : Spec SqlOp Bool
  | _, .setError _, _, _, written' => written' = true
  | _, _, written, _, written' => written' = written

/-- The error buffer is read only when it has been written. -/
def ReadsWritten : (β : Type) → SqlOp β → Bool → Prop
  | _, .readError, written => written = true
  | _, _, _ => True

theorem sqlite_writes (fp : Rounding) (β : Type) (op : SqlOp β) (w : World) :
    Writes β op w.errorSet (sqlite fp β op w).1 (sqlite fp β op w).2.errorSet := by
  cases op with
  | begin | commit =>
      cases hf : w.fault <;> cases hs : w.store.saved <;>
        simp [Writes, sqlite, hf, hs, World.failed, World.succeeded]
  | rollback => cases hs : w.store.saved <;> simp [Writes, sqlite, hs]
  | prepare | stepAgain =>
      cases hf : w.fault <;> simp [Writes, sqlite, hf, World.failed, World.succeeded]
  | step statement =>
      cases hf : w.fault <;> cases he : statement.exec fp w.store.tables <;>
        simp [Writes, sqlite, hf, he, World.failed, World.succeeded]
  | errmsg => rfl
  | setError text => rfl
  | readError => rfl

/-- Started with the buffer written or not, the program reads only what has
been written, and ends like this. -/
abbrev Tells {α : Type} (p : Db α) (written : Bool) (post : α → Bool → Prop) : Prop :=
  Guarded Writes ReadsWritten p written post

/-! ### Rules of the helpers -/

section rules

variable {written : Bool} {β : Type} (statement : Statement β)

@[simp] theorem tells_setError (text : Bytes) (post : Unit → Bool → Prop) :
    Tells (setError text) written post ↔ post () true := by
  simp only [setError, guarded_call, Writes, ReadsWritten, true_and, forall_eq]
  exact ⟨fun h => h (), fun h _ => h⟩

@[simp] theorem tells_setErrmsg (post : Unit → Bool → Prop) :
    Tells setErrmsg written post ↔ post () true := by
  simp only [setErrmsg, guarded_bind, guarded_call, tells_setError, Writes, ReadsWritten, true_and,
    forall_eq]
  exact ⟨fun h => h [], fun h _ => h⟩

@[simp] theorem tells_execute (post : Except ResultCode β → Bool → Prop) :
    Tells (execute statement) written post ↔ ∀ answer, post answer written := by
  simp only [execute, guarded_bind, guarded_call, guarded_ite, guarded_pure, Writes, ReadsWritten,
    true_and, forall_eq]
  constructor
  · intro h
    exact (h true).2 (by simp)
  · intro h prepared
    exact ⟨fun _ => h _, fun _ => h⟩

@[simp] theorem tells_executeOrReport (post : Option β → Bool → Prop) :
    Tells (executeOrReport statement) written post ↔
      post none true ∧ ∀ answer, post (some answer) written := by
  simp only [executeOrReport, guarded_bind, tells_execute]
  constructor
  · intro h
    exact ⟨(tells_setErrmsg _).mp (h (.error .failure)), fun answer => h (.ok answer)⟩
  · rintro ⟨hfailed, hdone⟩ answer
    cases answer with
    | ok answer => exact hdone answer
    | error code => exact (tells_setErrmsg _).mpr hfailed

@[simp] theorem tells_dbBeginTransaction (post : Bool → Bool → Prop) :
    Tells dbBeginTransaction written post ↔ post false true ∧ post true written := by
  simp only [dbBeginTransaction, guarded_bind, guarded_call, Writes, ReadsWritten, true_and,
    forall_eq]
  constructor
  · intro h
    exact ⟨(tells_setError _ _).mp (h (.error [])), h (.ok ())⟩
  · rintro ⟨hfailed, hdone⟩ answer
    cases answer with
    | ok => exact hdone
    | error message => exact (tells_setError _ _).mpr hfailed

@[simp] theorem tells_dbCommitTransaction (post : Bool → Bool → Prop) :
    Tells dbCommitTransaction written post ↔ post false true ∧ post true written := by
  simp only [dbCommitTransaction, guarded_bind, guarded_call, Writes, ReadsWritten, true_and,
    forall_eq]
  constructor
  · intro h
    exact ⟨(tells_setError _ _).mp (h (.error [])), h (.ok ())⟩
  · rintro ⟨hfailed, hdone⟩ answer
    cases answer with
    | ok => exact hdone
    | error message => exact (tells_setError _ _).mpr hfailed

@[simp] theorem tells_dbRollbackTransaction (post : Unit → Bool → Prop) :
    Tells dbRollbackTransaction written post ↔ post () written := by
  simp only [dbRollbackTransaction, guarded_call, Writes, ReadsWritten, true_and, forall_eq]
  exact ⟨fun h => h (), fun h _ => h⟩

@[simp] theorem tells_rollbackWith (message : Bytes) (post : Unit → Bool → Prop) :
    Tells (rollbackWith message) written post ↔ post () true := by
  simp [rollbackWith]

@[simp] theorem tells_executeOrRollback (post : Option β → Bool → Prop) :
    Tells (executeOrRollback statement) written post ↔
      post none true ∧ ∀ answer, post (some answer) written := by
  simp only [executeOrRollback, guarded_bind, tells_execute]
  constructor
  · intro h
    have hfailed := h (.error .failure)
    simp only [guarded_bind, tells_dbRollbackTransaction, tells_setErrmsg, guarded_pure] at hfailed
    exact ⟨hfailed, fun answer => h (.ok answer)⟩
  · rintro ⟨hfailed, hdone⟩ answer
    cases answer with
    | ok answer => exact hdone answer
    | error code =>
        simp only [guarded_bind, tells_dbRollbackTransaction, tells_setErrmsg, guarded_pure]
        exact hfailed

/-- Reading an account tells why it fails, but not that there is none. -/
@[simp] theorem tells_dbReadAccount (accountNo : Int)
    (post : Lookup (AccountInfo × UInt64 × UInt64) → Bool → Prop) :
    Tells (dbReadAccount accountNo) written post ↔
      post .failed true ∧ post .notFound written ∧
        ∀ row : Account, post (.found (row.info accountNo, row.pinHash.toUInt64,
          row.salt.toUInt64)) written := by
  simp only [dbReadAccount, guarded_bind, tells_executeOrReport, guarded_pure]
  apply and_congr_right
  intro _
  constructor
  · intro h
    exact ⟨h none, fun row => h (some row)⟩
  · rintro ⟨hmissing, hfound⟩ answer
    cases answer with
    | none => exact hmissing
    | some row => exact hfound row

/-- The functions that run one statement and tell whether it failed. -/
theorem tells_isSome (post : Bool → Bool → Prop) :
    Tells (do return (← executeOrReport statement).isSome) written post ↔
      post false true ∧ (β → post true written) := by
  simp only [guarded_bind, tells_executeOrReport, guarded_pure, Option.isSome_none,
    Option.isSome_some]

@[simp] theorem tells_dbUpdateLoginState (accountNo failedAttempts isLocked : Int)
    (post : Bool → Bool → Prop) :
    Tells (dbUpdateLoginState accountNo failedAttempts isLocked) written post ↔
      post false true ∧ post true written := by
  rw [dbUpdateLoginState, tells_isSome, forall_const]

@[simp] theorem tells_dbUpdateBalance (accountNo : Int) (balance : Double)
    (post : Bool → Bool → Prop) :
    Tells (dbUpdateBalance accountNo balance) written post ↔
      post false true ∧ post true written := by
  rw [dbUpdateBalance, tells_isSome, forall_const]

@[simp] theorem tells_dbInsertTransaction (accountNo : Int) (relatedAccount : Option Int)
    (type : TransactionType) (amount : Double) (balanceAfter : Option Double) (timestamp : Bytes)
    (post : Bool → Bool → Prop) :
    Tells (dbInsertTransaction accountNo relatedAccount type amount balanceAfter timestamp)
      written post ↔ post false true ∧ post true written := by
  rw [dbInsertTransaction, tells_isSome, forall_const]

end rules

end AtmSystem.Model
