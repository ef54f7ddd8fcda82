import AtmSystem.Model.Account

/-!
What a program may assume of the calls it makes into SQLite. `SqlAnswers`
lists, for each call, the answers it can give and the store it leaves: any
call but ROLLBACK may fail when `faulty` holds, and a call that fails changes
nothing. The handler `sqlite` obeys it, so whatever is proved of a program
under `SqlAnswers` holds of its executions. The rules below say the same for
the helpers the `db_*` functions are written with.
-/

namespace AtmSystem.Model

open Library Program

/-- Some SQL call of the request fails. -/
def Environment.Faulty (env : Environment) : Prop := ∃ message, some message ∈ env.faults

instance (env : Environment) : Decidable env.Faulty :=
  decidable_of_iff (∃ fault ∈ env.faults, fault.isSome) <| by
    simp only [Environment.Faulty, Option.isSome_iff_exists]
    exact ⟨fun ⟨_, hmem, m, hm⟩ => ⟨m, hm ▸ hmem⟩, fun ⟨m, hmem⟩ => ⟨_, hmem, m, rfl⟩⟩

/-- Every call has some answer. -/
theorem exists_answer {β : Type} (op : SqlOp β) : Nonempty β := by
  cases op with
  | begin => exact ⟨.ok ()⟩
  | commit => exact ⟨.ok ()⟩
  | rollback => exact ⟨()⟩
  | prepare => exact ⟨true⟩
  | step statement => exact ⟨.error .failure⟩
  | stepAgain => exact ⟨true⟩
  | errmsg => exact ⟨[]⟩
  | setError text => exact ⟨()⟩
  | readError => exact ⟨[]⟩

/-- The answers of the calls on a store, failures only if `faulty`. -/
def SqlAnswers (fp : Rounding) (faulty : Prop) : Spec SqlOp Store
  | _, .begin, s, answer, s' =>
      match s.saved with
      | none => (answer.isOk ∧ s' = ⟨s.tables, some s.tables⟩) ∨ (faulty ∧ ¬ answer.isOk ∧ s' = s)
      | some _ => ¬ answer.isOk ∧ s' = s
  | _, .commit, s, answer, s' =>
      match s.saved with
      | none => ¬ answer.isOk ∧ s' = s
      | some _ => (answer.isOk ∧ s' = ⟨s.tables, none⟩) ∨ (faulty ∧ ¬ answer.isOk ∧ s' = s)
  | _, .rollback, s, _, s' => s' = ⟨s.saved.getD s.tables, none⟩
  | _, .prepare, s, answer, s' => (answer = true ∨ (faulty ∧ answer = false)) ∧ s' = s
  | _, .step statement, s, answer, s' =>
      (faulty ∧ answer = .error .failure ∧ s' = s) ∨
        match statement.exec fp s.tables with
        | .ok (result, tables) => answer = .ok result ∧ s' = ⟨tables, s.saved⟩
        | .error _ => answer = .error .constraint ∧ s' = s
  | _, .stepAgain, s, answer, s' => (answer = true ∨ (faulty ∧ answer = false)) ∧ s' = s
  | _, .errmsg, s, _, s' | _, .setError _, s, _, s' | _, .readError, s, _, s' => s' = s

/-- The fewer failures, the fewer answers. -/
theorem SqlAnswers.mono {fp : Rounding} {faulty faulty' : Prop} (himp : faulty → faulty')
    {β : Type} {op : SqlOp β} {s s' : Store} {answer : β}
    (h : SqlAnswers fp faulty β op s answer s') : SqlAnswers fp faulty' β op s answer s' := by
  obtain ⟨tables, saved⟩ := s
  cases op with
  | begin | commit =>
      cases saved with
      | none => first | exact h | exact h.imp_right fun hfail => ⟨himp hfail.1, hfail.2⟩
      | some t => first | exact h | exact h.imp_right fun hfail => ⟨himp hfail.1, hfail.2⟩
  | prepare | stepAgain => exact ⟨h.1.imp_right fun hfail => ⟨himp hfail.1, hfail.2⟩, h.2⟩
  | step statement => exact h.imp_left fun hfail => ⟨himp hfail.1, hfail.2⟩
  | rollback => exact h
  | errmsg => exact h
  | setError text => exact h
  | readError => exact h

/-- A statement leaves the transaction as it is, and a statement that fails
leaves the tables as well. -/
theorem SqlAnswers.step_cases {fp : Rounding} {faulty : Prop} {β : Type} {statement : Statement β}
    {t : Tables} {saved : Option Tables} {answer : Except ResultCode β} {s' : Store}
    (h : SqlAnswers fp faulty _ (.step statement) ⟨t, saved⟩ answer s') :
    ∃ t', s' = ⟨t', saved⟩ ∧ (¬ answer.isOk → t' = t) := by
  rcases h with ⟨-, -, rfl⟩ | hrun
  · exact ⟨t, rfl, fun _ => rfl⟩
  · cases hexec : statement.exec fp t with
    | ok result =>
        rw [hexec] at hrun
        obtain ⟨rfl, rfl⟩ := hrun
        exact ⟨_, rfl, fun hfailed => absurd rfl hfailed⟩
    | error message =>
        rw [hexec] at hrun
        exact ⟨t, hrun.2, fun _ => rfl⟩

/-- A statement does the same in a transaction and outside. -/
theorem SqlAnswers.step_anywhere {fp : Rounding} {faulty : Prop} {β : Type}
    {statement : Statement β} {t t' : Tables} {saved : Option Tables}
    {answer : Except ResultCode β}
    (h : SqlAnswers fp faulty _ (.step statement) ⟨t, saved⟩ answer ⟨t', saved⟩)
    (saved' : Option Tables) :
    SqlAnswers fp faulty _ (.step statement) ⟨t, saved'⟩ answer ⟨t', saved'⟩ := by
  rcases h with ⟨hf, hanswer, hsame⟩ | hrun
  · cases hsame
    exact .inl ⟨hf, hanswer, rfl⟩
  · right
    cases hexec : statement.exec fp t with
    | ok result =>
        rw [hexec] at hrun
        obtain ⟨hanswer, hsame⟩ := hrun
        cases hsame
        exact ⟨hanswer, rfl⟩
    | error message =>
        rw [hexec] at hrun
        obtain ⟨hanswer, hsame⟩ := hrun
        cases hsame
        exact ⟨hanswer, rfl⟩

/-- A call uses up at most the first fault. -/
theorem sqlite_faults (fp : Rounding) {β : Type} (op : SqlOp β) (w : World)
    (fault : Option Bytes) (hfault : fault ∈ (sqlite fp β op w).2.faults) :
    fault ∈ w.faults := by
  have htail (h : fault ∈ w.faults.tail) : fault ∈ w.faults := List.mem_of_mem_tail h
  cases op with
  | begin | commit =>
      cases hf : w.fault <;> cases hs : w.store.saved <;>
        simp only [sqlite, hf, hs, World.failed, World.succeeded] at hfault <;> exact htail hfault
  | prepare | stepAgain =>
      cases hf : w.fault <;>
        simp only [sqlite, hf, World.failed, World.succeeded] at hfault <;> exact htail hfault
  | step statement =>
      cases hf : w.fault <;> cases he : statement.exec fp w.store.tables <;>
        simp only [sqlite, hf, he, World.failed, World.succeeded] at hfault <;> exact htail hfault
  | rollback => cases hs : w.store.saved <;> simpa only [sqlite, hs] using hfault
  | errmsg => exact hfault
  | setError text => exact hfault
  | readError => exact hfault

/-- A call hit by a fault fails without effect, and any other call does what
SQLite documents. -/
theorem sqlite_answers (fp : Rounding) (faulty : Prop) {β : Type} (op : SqlOp β) (w : World)
    (hfaults : (∃ message, some message ∈ w.faults) → faulty) :
    SqlAnswers fp faulty β op w.store (sqlite fp β op w).1 (sqlite fp β op w).2.store := by
  have hfault (message : Bytes) (h : w.fault = some message) : faulty := by
    apply hfaults
    refine ⟨message, ?_⟩
    cases hlist : w.faults with
    | nil => simp [World.fault, hlist] at h
    | cons first rest => simp_all [World.fault]
  cases op with
  | begin | commit =>
      cases hf : w.fault <;> cases hs : w.store.saved <;>
        simp_all [sqlite, SqlAnswers, World.failed, World.succeeded, Except.isOk, Except.toBool]
  | rollback =>
      obtain ⟨⟨tables, saved⟩, _, _, _, _⟩ := w
      cases saved <;> rfl
  | prepare | stepAgain =>
      cases hf : w.fault <;> simp_all [sqlite, SqlAnswers, World.failed, World.succeeded]
  | step statement =>
      cases hf : w.fault <;> cases he : statement.exec fp w.store.tables <;>
        simp_all [sqlite, SqlAnswers, World.failed, World.succeeded]
  | errmsg => rfl
  | setError text => rfl
  | readError => rfl

/-- What holds of a program under `SqlAnswers` holds of its executions. -/
theorem exec_of_always {α : Type} (fp : Rounding) (env : Environment) (p : Db α) (s : Store)
    {post : α → Store → Prop} (h : Always (SqlAnswers fp env.Faulty) p s post) :
    post (p.exec fp env s).1 (p.exec fp env s).2 :=
  run_of_always (sqlite fp) World.store (w := World.start env s)
    (fun w => (∃ message, some message ∈ w.faults) → env.Faulty)
    (fun _ op w hw => ⟨sqlite_answers fp env.Faulty op w hw, fun ⟨message, hmem⟩ =>
      hw ⟨message, sqlite_faults fp op w _ hmem⟩⟩) id h

/-! ### Rules of the helpers -/

section rules

variable {fp : Rounding} {faulty : Prop} {t saved : Tables} {rest : Option Tables}

@[simp] theorem always_setError (text : Bytes) (s : Store) (post : Unit → Store → Prop) :
    Always (SqlAnswers fp faulty) (setError text) s post ↔ post () s := by
  simp only [setError, always_call, SqlAnswers, forall_eq]
  exact ⟨fun h => h (), fun h _ => h⟩

@[simp] theorem always_setErrmsg (s : Store) (post : Unit → Store → Prop) :
    Always (SqlAnswers fp faulty) setErrmsg s post ↔ post () s := by
  simp [setErrmsg, SqlAnswers]

@[simp] theorem always_readError (s : Store) (post : Bytes → Store → Prop) :
    Always (SqlAnswers fp faulty) (call .readError) s post ↔ ∀ text, post text s := by
  simp [SqlAnswers]

@[simp] theorem always_dbRollbackTransaction (post : Unit → Store → Prop) :
    Always (SqlAnswers fp faulty) dbRollbackTransaction ⟨t, some saved⟩ post ↔
      post () ⟨saved, none⟩ := by
  simp only [dbRollbackTransaction, always_call, SqlAnswers, forall_eq]
  exact ⟨fun h => h (), fun h _ => h⟩

@[simp] theorem always_rollbackWith (message : Bytes) (post : Unit → Store → Prop) :
    Always (SqlAnswers fp faulty) (rollbackWith message) ⟨t, some saved⟩ post ↔
      post () ⟨saved, none⟩ := by
  simp [rollbackWith]

theorem always_prepare (post : Bool → Store → Prop) (s : Store) :
    Always (SqlAnswers fp faulty) (call .prepare) s post ↔
      (faulty → post false s) ∧ post true s := by
  simp only [always_call, SqlAnswers]
  constructor
  · intro h
    exact ⟨fun hf => h false s ⟨.inr ⟨hf, rfl⟩, rfl⟩, h true s ⟨.inl rfl, rfl⟩⟩
  · rintro ⟨hfail, hdone⟩ answer _ ⟨rfl | ⟨hf, rfl⟩, rfl⟩
    · exact hdone
    · exact hfail hf

/-- A statement that has been prepared before. -/
theorem always_step {β : Type} (statement : Statement β)
    (post : Except ResultCode β → Store → Prop) :
    Always (SqlAnswers fp faulty) (call (.step statement)) ⟨t, rest⟩ post ↔
      (faulty → post (.error .failure) ⟨t, rest⟩) ∧
        match statement.exec fp t with
        | .ok (answer, t') => post (.ok answer) ⟨t', rest⟩
        | .error _ => post (.error .constraint) ⟨t, rest⟩ := by
  simp only [always_call, SqlAnswers]
  cases he : statement.exec fp t with
  | ok result =>
      constructor
      · intro h
        exact ⟨fun hf => h _ _ (.inl ⟨hf, rfl, rfl⟩), h _ _ (.inr ⟨rfl, rfl⟩)⟩
      · rintro ⟨hfail, hdone⟩ answer s' (⟨hf, rfl, rfl⟩ | ⟨rfl, rfl⟩)
        · exact hfail hf
        · exact hdone
  | error message =>
      constructor
      · intro h
        exact ⟨fun hf => h _ _ (.inl ⟨hf, rfl, rfl⟩), h _ _ (.inr ⟨rfl, rfl⟩)⟩
      · rintro ⟨hfail, hdone⟩ answer s' (⟨hf, rfl, rfl⟩ | ⟨rfl, rfl⟩)
        · exact hfail hf
        · exact hdone

theorem always_execute {β : Type} (statement : Statement β)
    (post : Except ResultCode β → Store → Prop) :
    Always (SqlAnswers fp faulty) (execute statement) ⟨t, rest⟩ post ↔
      (faulty → post (.error .notPrepared) ⟨t, rest⟩ ∧ post (.error .failure) ⟨t, rest⟩) ∧
        match statement.exec fp t with
        | .ok (answer, t') => post (.ok answer) ⟨t', rest⟩
        | .error _ => post (.error .constraint) ⟨t, rest⟩ := by
  simp only [execute, always_bind, always_prepare, Bool.not_true, Bool.not_false,
    Bool.false_eq_true, if_true, if_false, always_pure, always_step, imp_and, and_assoc]

theorem always_executeOrReport {β : Type} (statement : Statement β)
    (post : Option β → Store → Prop) :
    Always (SqlAnswers fp faulty) (executeOrReport statement) ⟨t, rest⟩ post ↔
      (faulty → post none ⟨t, rest⟩) ∧
        match statement.exec fp t with
        | .ok (answer, t') => post (some answer) ⟨t', rest⟩
        | .error _ => post none ⟨t, rest⟩ := by
  simp only [executeOrReport, always_bind, always_execute, always_setErrmsg, always_pure, and_self]

theorem always_executeOrRollback {β : Type} (statement : Statement β)
    (post : Option β → Store → Prop) :
    Always (SqlAnswers fp faulty) (executeOrRollback statement) ⟨t, some saved⟩ post ↔
      (faulty → post none ⟨saved, none⟩) ∧
        match statement.exec fp t with
        | .ok (answer, t') => post (some answer) ⟨t', some saved⟩
        | .error _ => post none ⟨saved, none⟩ := by
  simp only [executeOrRollback, always_bind, always_execute, always_dbRollbackTransaction,
    always_setErrmsg, always_pure, and_self]

@[simp] theorem always_dbBeginTransaction (post : Bool → Store → Prop) :
    Always (SqlAnswers fp faulty) dbBeginTransaction ⟨t, none⟩ post ↔
      (faulty → post false ⟨t, none⟩) ∧ post true ⟨t, some t⟩ := by
  simp only [dbBeginTransaction, always_bind, always_call, SqlAnswers]
  constructor
  · intro h
    refine ⟨fun hf => ?_, h (.ok ()) _ (.inl ⟨rfl, rfl⟩)⟩
    simpa using h (.error []) _ (.inr ⟨hf, by decide, rfl⟩)
  · rintro ⟨hfail, hdone⟩ answer s' (⟨hok, rfl⟩ | ⟨hf, herr, rfl⟩)
    · cases answer with
      | ok => exact hdone
      | error message => cases hok
    · cases answer with
      | ok => exact absurd rfl herr
      | error message => simpa using hfail hf

@[simp] theorem always_dbCommitTransaction (post : Bool → Store → Prop) :
    Always (SqlAnswers fp faulty) dbCommitTransaction ⟨t, some saved⟩ post ↔
      (faulty → post false ⟨t, some saved⟩) ∧ post true ⟨t, none⟩ := by
  simp only [dbCommitTransaction, always_bind, always_call, SqlAnswers]
  constructor
  · intro h
    refine ⟨fun hf => ?_, h (.ok ()) _ (.inl ⟨rfl, rfl⟩)⟩
    simpa using h (.error []) _ (.inr ⟨hf, by decide, rfl⟩)
  · rintro ⟨hfail, hdone⟩ answer s' (⟨hok, rfl⟩ | ⟨hf, herr, rfl⟩)
    · cases answer with
      | ok => exact hdone
      | error message => cases hok
    · cases answer with
      | ok => exact absurd rfl herr
      | error message => simpa using hfail hf

/-- Reading an account answers its row, or nothing is learned. -/
@[simp] theorem always_dbReadAccount (accountNo : Int)
    (post : Lookup (AccountInfo × UInt64 × UInt64) → Store → Prop) :
    Always (SqlAnswers fp faulty) (dbReadAccount accountNo) ⟨t, rest⟩ post ↔
      (faulty → post .failed ⟨t, rest⟩) ∧
        match t.accounts.lookup accountNo with
        | none => post .notFound ⟨t, rest⟩
        | some row => post (.found (row.info accountNo, row.pinHash.toUInt64, row.salt.toUInt64))
            ⟨t, rest⟩ := by
  simp only [dbReadAccount, always_bind, always_executeOrReport, Statement.exec, always_pure]
  cases t.accounts.lookup accountNo <;> rfl

@[simp] theorem always_dbUpdateLoginState (accountNo failedAttempts isLocked : Int)
    (post : Bool → Store → Prop) :
    Always (SqlAnswers fp faulty) (dbUpdateLoginState accountNo failedAttempts isLocked)
        ⟨t, rest⟩ post ↔
      (faulty → post false ⟨t, rest⟩) ∧
        post true ⟨t.setLoginState accountNo failedAttempts isLocked, rest⟩ := by
  simp only [dbUpdateLoginState, always_bind, always_executeOrReport, Statement.exec, always_pure,
    Option.isSome_none, Option.isSome_some]

/-- A NaN is bound as NULL, which the column `balance` does not take. -/
theorem always_dbUpdateBalance {accountNo : Int} {balance : Double} {row : Account}
    (hrow : t.accounts.lookup accountNo = some row) (post : Bool → Store → Prop) :
    Always (SqlAnswers fp faulty) (dbUpdateBalance accountNo balance) ⟨t, rest⟩ post ↔
      (faulty → post false ⟨t, rest⟩) ∧
        if balance = .nan then post false ⟨t, rest⟩
        else post true ⟨t.setBalance accountNo balance, rest⟩ := by
  simp only [dbUpdateBalance, always_bind, always_executeOrReport, Statement.exec, hrow,
    always_pure, Option.isNone_iff_eq_none, bindDouble_eq_none, Option.isSome_some, and_true]
  by_cases hnan : balance = .nan <;> simp [hnan]

theorem always_dbInsertTransaction {accountNo : Int} {relatedAccount : Option Int}
    {type : TransactionType} {amount balanceAfter : Double} {timestamp : Bytes} {row : Account}
    (hrow : t.accounts.lookup accountNo = some row) (hamount : amount ≠ .nan)
    (hbalance : balanceAfter ≠ .nan) (post : Bool → Store → Prop) :
    Always (SqlAnswers fp faulty)
        (dbInsertTransaction accountNo relatedAccount type amount (some balanceAfter) timestamp)
        ⟨t, rest⟩ post ↔
      (faulty → post false ⟨t, rest⟩) ∧
        post true ⟨t.insertTransaction
          (fun id => ⟨id, accountNo, relatedAccount, type, amount, some balanceAfter, timestamp⟩)
          (fun _ => rfl), rest⟩ := by
  simp only [dbInsertTransaction, always_bind, always_executeOrReport, Statement.exec, hrow,
    always_pure, Option.isNone_iff_eq_none, bindDouble_eq_none, hamount, if_false,
    Option.isNone_some, Bool.false_eq_true, Option.bind_some, bindDouble_of_ne_nan hbalance,
    Option.isSome_none, Option.isSome_some]

end rules

end AtmSystem.Model
