import AtmSystem.Semantics.Connections

/-!
A function that reads an account by itself and then writes. Other processes
may work between the two, so what it writes to need not be what it has read:
the tables at the SELECT, and those at the BEGIN or the single statement
behind it, are unrelated here.
-/

namespace AtmSystem.Model

open Library Program

/-- What a SELECT of one account has shown. -/
abbrev Reading := Int × Option Account

/-- What an answered call has shown of an account. -/
def reading : Call SqlOp → Option Reading
  | ⟨.step (.selectAccount accountNo), .ok row⟩ => some (accountNo, row)
  | _ => none

/-- What the first SELECT of an account has shown. -/
def seenIn (heard : List (Call SqlOp)) : Option Reading := heard.findSome? reading

theorem seenIn_append {heard : List (Call SqlOp)} {seen : Reading} (h : seenIn heard = some seen)
    (call : Call SqlOp) : seenIn (heard ++ [call]) = some seen := by
  rw [seenIn, List.findSome?_append, ← seenIn, h, Option.some_or]

theorem seenIn_snoc {heard : List (Call SqlOp)} (h : seenIn heard = none) (call : Call SqlOp) :
    seenIn (heard ++ [call]) = reading call := by
  rw [seenIn, List.findSome?_append, ← seenIn, h, Option.none_or, List.findSome?_singleton]

/-- How far the function has come. -/
inductive Stage where
  | asking
  | told (seen : Reading)
  /-- In a transaction on `t`, whose contents are now `work`. -/
  | inside (seen : Reading) (t work : Tables)
  /-- The transaction on `t` has committed `t'`. -/
  | closed (seen : Reading) (t t' : Tables)
  /-- A single statement has led from `t` to `t'`. -/
  | wrote (seen : Reading) (t t' : Tables)
  /-- Nothing has been changed, and nothing will be. -/
  | undone
  /-- A call that does not belong where it was made. -/
  | broken

/-- The SELECT that the function starts with. -/
def Stage.ask : {β : Type} → Statement β → Except ResultCode β → Stage
  | _, .selectAccount accountNo, .ok row => .told (accountNo, row)
  | _, .selectAccount _, .error _ => .undone
  | _, _, _ => .broken

/-- The calls of a function among those of others; they fail only if
`faulty`. -/
def Interrupted (fp : Rounding) (faulty : Prop) : Spec SqlOp Stage
  | _, .prepare, s, answer, s' => (answer = true ∨ faulty ∧ answer = false) ∧ s' = s
  | _, .errmsg, s, _, s' | _, .setError _, s, _, s' | _, .readError, s, _, s' => s' = s
  | _, .begin, s, answer, s' =>
      match s with
      | .told seen => answer.isOk ∧ (∃ t, s' = .inside seen t t) ∨
          faulty ∧ ¬ answer.isOk ∧ s' = .told seen
      | _ => s' = .broken
  | _, .commit, s, answer, s' =>
      match s with
      | .inside seen t work => answer.isOk ∧ s' = .closed seen t work ∨
          faulty ∧ ¬ answer.isOk ∧ s' = .inside seen t work
      | _ => s' = .broken
  | _, .rollback, s, _, s' =>
      match s with
      | .inside .. => s' = .undone
      | _ => s' = .broken
  | _, .step statement, s, answer, s' =>
      match s with
      | .asking => (answer.isOk ∨ faulty ∨ Stage.ask statement answer = .broken) ∧
          s' = .ask statement answer
      | .told seen => ∃ t store, SqlAnswers fp faulty _ (.step statement) ⟨t, none⟩ answer store ∧
          s' = if answer.isOk then .wrote seen t store.tables else .undone
      | .inside seen t work => ∃ store,
          SqlAnswers fp faulty _ (.step statement) ⟨work, some t⟩ answer store ∧
            s' = .inside seen t store.tables
      | _ => s' = .broken
  | _, .stepAgain, _, _, s' => s' = .broken

/-- The function has nothing left to do. -/
def Stage.Final : Stage → Prop
  | .closed .. | .wrote .. | .undone => True
  | .asking | .told _ | .inside .. | .broken => False

/-- The function has begun a transaction, or is broken. -/
def Stage.InTransaction : Stage → Prop
  | .inside .. | .closed .. | .undone | .broken => True
  | .asking | .told _ | .wrote .. => False

section ends

variable {fp : Rounding} {faulty : Prop} {α : Type} {rest rest' : Db α}
  {post : α → Stage → Prop}

/-- A transaction that has begun ends as one. -/
theorem exists_interrupted {β : Type} (op : SqlOp β) {s : Stage} (hs : s.InTransaction) :
    ∃ answer s', Interrupted fp faulty β op s answer s' ∧ s'.InTransaction ∧
      (s = .broken → s' = .broken) := by
  have hbroken (answer : β) (h : Interrupted fp faulty β op s answer .broken) :
      ∃ answer s', Interrupted fp faulty β op s answer s' ∧ s'.InTransaction ∧
        (s = .broken → s' = .broken) := ⟨answer, .broken, h, trivial, fun _ => rfl⟩
  cases op with
  | prepare => exact ⟨true, s, ⟨.inl rfl, rfl⟩, hs, id⟩
  | errmsg => exact ⟨[], s, rfl, hs, id⟩
  | setError text => exact ⟨(), s, rfl, hs, id⟩
  | readError => exact ⟨[], s, rfl, hs, id⟩
  | stepAgain => exact hbroken true rfl
  | begin => cases s <;> first | exact hs.elim | exact hbroken (.ok ()) rfl
  | commit =>
      cases s with
      | inside seen t work =>
          exact ⟨.ok (), .closed seen t work, .inl ⟨rfl, rfl⟩, trivial, fun h => by cases h⟩
      | _ => first | exact hs.elim | exact hbroken (.ok ()) rfl
  | rollback =>
      cases s with
      | inside seen t work => exact ⟨(), .undone, rfl, trivial, fun h => by cases h⟩
      | _ => first | exact hs.elim | exact hbroken () rfl
  | step statement =>
      cases s with
      | inside seen t work =>
          obtain ⟨answer, store, hstore⟩ : ∃ answer store,
              SqlAnswers fp faulty _ (.step statement) ⟨work, some t⟩ answer store := by
            cases hexec : statement.exec fp work with
            | ok result =>
                refine ⟨.ok result.1, ⟨result.2, some t⟩, .inr ?_⟩
                rw [hexec]
                exact ⟨rfl, rfl⟩
            | error message =>
                refine ⟨.error .constraint, ⟨work, some t⟩, .inr ?_⟩
                rw [hexec]
                exact ⟨rfl, rfl⟩
          exact ⟨answer, _, ⟨store, hstore, rfl⟩, trivial, fun h => by cases h⟩
      | _ => first | exact hs.elim | exact hbroken (.error .failure) rfl

/-- Nothing mends a broken function. -/
theorem not_interrupted_broken (hpost : ∀ a, ¬ post a .broken) :
    ¬ Always (Interrupted fp faulty) rest .broken post := by
  refine not_always_of_trap (fun s => s = .broken) ?_ ?_ rfl
  · intro β op s hs
    obtain ⟨answer, s', hanswer, -, hs'⟩ := exists_interrupted op (hs ▸ trivial : s.InTransaction)
    exact ⟨answer, s', hanswer, hs' hs⟩
  · intro a s hs
    rw [hs]
    exact hpost a

/-- A function that must not use a transaction does not begin one. -/
theorem not_interrupted_inside (hpost : ∀ a s, s.InTransaction → ¬ post a s) {s : Stage}
    (hs : s.InTransaction) : ¬ Always (Interrupted fp faulty) rest s post := by
  refine not_always_of_trap Stage.InTransaction ?_ hpost hs
  intro β op s hs
  obtain ⟨answer, s', hanswer, hs', -⟩ := exists_interrupted op hs
  exact ⟨answer, s', hanswer, hs'⟩

/-- A call that does not belong where it is made. -/
theorem not_interrupted_misplaced (hpost : ∀ a, ¬ post a .broken) {β : Type} {op : SqlOp β}
    {k : β → Db α} {s : Stage} (hop : ∀ answer, Interrupted fp faulty β op s answer .broken) :
    ¬ Always (Interrupted fp faulty) (.perform op k) s post := by
  intro h
  obtain ⟨answer⟩ := exists_answer op
  exact not_interrupted_broken hpost (h answer .broken (hop answer))

/-- Quiet calls keep the stage. -/
theorem interrupted_proceeds {p : ℕ} {shared : Shared} (hblocked : shared.Blocked p → faulty)
    {s : Stage} (h : Always (Interrupted fp faulty) rest s post)
    (hrest : Proceeds SqlOp.isQuiet (Connected fp faulty p) shared rest rest') :
    Always (Interrupted fp faulty) rest' s post := by
  apply hrest.always _ h
  intro β op answer hquiet hanswer
  have hsame := hanswer.quiet hblocked hquiet ⟨.empty, none⟩
  induction β, op, hquiet using SqlOp.quiet_cases with
  | prepare => exact ⟨hsame.1, rfl⟩
  | errmsg => rfl
  | setError text => rfl
  | readError => rfl

/-- A function that has nothing left to do makes no call that others notice. -/
theorem done_of_final (hpost : ∀ a, ¬ post a .broken) {p : ℕ} {shared : Shared}
    (hblocked : shared.Blocked p → faulty) {s : Stage} (hfinal : s.Final)
    (h : Always (Interrupted fp faulty) rest s post)
    (hrest : Proceeds SqlOp.isQuiet (Connected fp faulty p) shared rest rest') :
    ∃ a, rest' = .done a ∧ post a s := by
  have hends := interrupted_proceeds hblocked h hrest
  cases rest' with
  | done a => exact ⟨a, rfl, hends⟩
  | @perform β op k =>
      have hnoticed := hrest.noticed rfl
      refine absurd hends (not_interrupted_misplaced hpost fun answer => ?_)
      induction β, op, hnoticed using SqlOp.noticed_cases with
      | begin => cases s <;> first | rfl | exact hfinal.elim
      | commit => cases s <;> first | rfl | exact hfinal.elim
      | rollback => cases s <;> first | rfl | exact hfinal.elim
      | step β statement => cases s <;> first | rfl | exact hfinal.elim
      | stepAgain => rfl

end ends

/-! ### Rules of the helpers -/

section rules

variable {fp : Rounding} {faulty : Prop} {s : Stage} {seen : Reading} {t work : Tables}

@[simp] theorem interrupted_setError (text : Bytes) (post : Unit → Stage → Prop) :
    Always (Interrupted fp faulty) (setError text) s post ↔ post () s := by
  simp only [setError, always_call, Interrupted, forall_eq]
  exact ⟨fun h => h (), fun h _ => h⟩

@[simp] theorem interrupted_setErrmsg (post : Unit → Stage → Prop) :
    Always (Interrupted fp faulty) setErrmsg s post ↔ post () s := by
  simp only [setErrmsg, always_bind, always_call, interrupted_setError, Interrupted, forall_eq]
  exact ⟨fun h => h [], fun h _ => h⟩

theorem interrupted_prepare (post : Bool → Stage → Prop) :
    Always (Interrupted fp faulty) (call .prepare) s post ↔
      (faulty → post false s) ∧ post true s := by
  simp only [always_call, Interrupted]
  constructor
  · intro h
    exact ⟨fun hf => h false s ⟨.inr ⟨hf, rfl⟩, rfl⟩, h true s ⟨.inl rfl, rfl⟩⟩
  · rintro ⟨hfail, hdone⟩ answer _ ⟨rfl | ⟨hf, rfl⟩, rfl⟩
    · exact hdone
    · exact hfail hf

@[simp] theorem interrupted_dbBeginTransaction (post : Bool → Stage → Prop) :
    Always (Interrupted fp faulty) dbBeginTransaction (.told seen) post ↔
      (faulty → post false (.told seen)) ∧ ∀ t, post true (.inside seen t t) := by
  simp only [dbBeginTransaction, always_bind, always_call, Interrupted]
  constructor
  · intro h
    constructor
    · intro hf
      exact (interrupted_setError ..).mp (h (.error []) _ (.inr ⟨hf, by decide, rfl⟩))
    · intro t
      exact h (.ok ()) _ (.inl ⟨rfl, t, rfl⟩)
  · rintro ⟨hfail, hdone⟩ answer s' (⟨hok, t, rfl⟩ | ⟨hf, herr, rfl⟩)
    · cases answer with
      | ok => exact hdone t
      | error message => cases hok
    · cases answer with
      | ok => exact absurd rfl herr
      | error message => exact (interrupted_setError ..).mpr (hfail hf)

@[simp] theorem interrupted_dbCommitTransaction (post : Bool → Stage → Prop) :
    Always (Interrupted fp faulty) dbCommitTransaction (.inside seen t work) post ↔
      (faulty → post false (.inside seen t work)) ∧ post true (.closed seen t work) := by
  simp only [dbCommitTransaction, always_bind, always_call, Interrupted]
  constructor
  · intro h
    constructor
    · intro hf
      exact (interrupted_setError ..).mp (h (.error []) _ (.inr ⟨hf, by decide, rfl⟩))
    · exact h (.ok ()) _ (.inl ⟨rfl, rfl⟩)
  · rintro ⟨hfail, hdone⟩ answer s' (⟨hok, rfl⟩ | ⟨hf, herr, rfl⟩)
    · cases answer with
      | ok => exact hdone
      | error message => cases hok
    · cases answer with
      | ok => exact absurd rfl herr
      | error message => exact (interrupted_setError ..).mpr (hfail hf)

@[simp] theorem interrupted_dbRollbackTransaction (post : Unit → Stage → Prop) :
    Always (Interrupted fp faulty) dbRollbackTransaction (.inside seen t work) post ↔
      post () .undone := by
  simp only [dbRollbackTransaction, always_call, Interrupted, forall_eq]
  exact ⟨fun h => h (), fun h _ => h⟩

variable {β : Type} (statement : Statement β)

theorem interrupted_execute (post : Except ResultCode β → Stage → Prop) :
    Always (Interrupted fp faulty) (execute statement) s post ↔
      (faulty → post (.error .notPrepared) s) ∧
        Always (Interrupted fp faulty) (call (.step statement)) s post := by
  simp only [execute, always_bind, interrupted_prepare, Bool.not_true, Bool.not_false,
    Bool.false_eq_true, if_true, if_false, always_pure]

/-- A statement in the transaction sees what the function has done so far. -/
theorem interrupted_step_inside (post : Except ResultCode β → Stage → Prop) :
    Always (Interrupted fp faulty) (call (.step statement)) (.inside seen t work) post ↔
      Always (SqlAnswers fp faulty) (call (.step statement)) ⟨work, some t⟩
        fun answer store => post answer (.inside seen t store.tables) := by
  simp only [always_call, Interrupted]
  constructor
  · intro h answer store hstore
    exact h answer _ ⟨store, hstore, rfl⟩
  · rintro h answer _ ⟨store, hstore, rfl⟩
    exact h answer store hstore

/-- A statement by itself runs on any tables. -/
theorem interrupted_step_told (post : Except ResultCode β → Stage → Prop) :
    Always (Interrupted fp faulty) (call (.step statement)) (.told seen) post ↔
      ∀ t, Always (SqlAnswers fp faulty) (call (.step statement)) ⟨t, none⟩
        fun answer store => post answer
          (if answer.isOk then .wrote seen t store.tables else .undone) := by
  simp only [always_call, Interrupted]
  constructor
  · intro h t answer store hstore
    exact h answer _ ⟨t, store, hstore, rfl⟩
  · rintro h answer _ ⟨t, store, hstore, rfl⟩
    exact h t answer store hstore

theorem interrupted_executeOrRollback (post : Option β → Stage → Prop) :
    Always (Interrupted fp faulty) (executeOrRollback statement) (.inside seen t work) post ↔
      (faulty → post none .undone) ∧
        match statement.exec fp work with
        | .ok (answer, work') => post (some answer) (.inside seen t work')
        | .error _ => post none .undone := by
  cases hexec : statement.exec fp work with
  | ok result =>
      simp only [executeOrRollback, always_bind, interrupted_execute, interrupted_step_inside,
        always_step, interrupted_dbRollbackTransaction, interrupted_setErrmsg, always_pure, hexec,
        ← and_assoc, and_self]
  | error code =>
      simp only [executeOrRollback, always_bind, interrupted_execute, interrupted_step_inside,
        always_step, interrupted_dbRollbackTransaction, interrupted_setErrmsg, always_pure, hexec,
        ← and_assoc, and_self]

/-- The account read may hold anything. -/
@[simp] theorem interrupted_dbReadAccount (accountNo : Int)
    (post : Lookup (AccountInfo × UInt64 × UInt64) → Stage → Prop) :
    Always (Interrupted fp faulty) (dbReadAccount accountNo) .asking post ↔
      (faulty → post .failed .asking ∧ post .failed .undone) ∧
        post .notFound (.told (accountNo, none)) ∧
        ∀ row : Account, post (.found (row.info accountNo, row.pinHash.toUInt64,
          row.salt.toUInt64)) (.told (accountNo, some row)) := by
  simp only [dbReadAccount, executeOrReport, always_bind, interrupted_execute, always_call,
    Interrupted, interrupted_setErrmsg, always_pure]
  constructor
  · rintro ⟨hunprepared, hstep⟩
    refine ⟨fun hf => ⟨hunprepared hf, ?_⟩, ?_, fun row => ?_⟩
    · exact (interrupted_setErrmsg _).mp (hstep (.error .failure) _ ⟨.inr (.inl hf), rfl⟩)
    · exact hstep (.ok none) _ ⟨.inl rfl, rfl⟩
    · exact hstep (.ok (some row)) _ ⟨.inl rfl, rfl⟩
  · rintro ⟨hfail, hmissing, hfound⟩
    refine ⟨fun hf => (hfail hf).1, ?_⟩
    rintro answer _ ⟨hanswer, rfl⟩
    cases answer with
    | error code =>
        rcases hanswer with hok | hf | hbroken
        · cases hok
        · exact (interrupted_setErrmsg _).mpr (hfail hf).2
        · cases hbroken
    | ok row =>
        cases row with
        | none => exact hmissing
        | some row => exact hfound row

/-- An UPDATE of the login state by itself. -/
@[simp] theorem interrupted_updateLoginState (accountNo failedAttempts isLocked : Int)
    (post : Option Unit → Stage → Prop) :
    Always (Interrupted fp faulty)
        (executeOrReport (.updateLoginState failedAttempts isLocked accountNo)) (.told seen) post ↔
      (faulty → post none (.told seen) ∧ post none .undone) ∧
        ∀ t, post (some ()) (.wrote seen t (t.setLoginState accountNo failedAttempts isLocked)) := by
  simp only [executeOrReport, always_bind, interrupted_execute, interrupted_step_told, always_step,
    Statement.exec, interrupted_setErrmsg, always_pure]
  constructor
  · rintro ⟨hunprepared, hstep⟩
    exact ⟨fun hf => ⟨hunprepared hf, (hstep .empty).1 hf⟩, fun t => (hstep t).2⟩
  · rintro ⟨hfail, hdone⟩
    exact ⟨fun hf => (hfail hf).1, fun t => ⟨fun hf => (hfail hf).2, hdone t⟩⟩

@[simp] theorem interrupted_dbUpdateLoginState (accountNo failedAttempts isLocked : Int)
    (post : Bool → Stage → Prop) :
    Always (Interrupted fp faulty) (dbUpdateLoginState accountNo failedAttempts isLocked)
        (.told seen) post ↔
      (faulty → post false (.told seen) ∧ post false .undone) ∧
        ∀ t, post true (.wrote seen t (t.setLoginState accountNo failedAttempts isLocked)) := by
  simp only [dbUpdateLoginState, always_bind, interrupted_updateLoginState, always_pure,
    Option.isSome_none, Option.isSome_some]

end rules

end AtmSystem.Model
