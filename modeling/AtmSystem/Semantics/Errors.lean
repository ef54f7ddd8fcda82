import AtmSystem.Model.Reports
import AtmSystem.Semantics.Calls

/-!
Which error texts a request can end with. `Worded` is `SqlAnswers` with the
error buffer beside the store: it says what the buffer holds once it has been
set, and which texts SQLite words when no call fails. `Explains` says of a
function that whenever it refuses it has set the buffer to a good text; it is
closed under the ways the functions are put together.
-/

namespace AtmSystem.Model

open Library Program

/-- The store a request runs on, and the error text it has set, if any. -/
structure Heard where
  store : Store
  error : Option Bytes

/-- The texts of `sqlite3_errmsg` on a connection no call on which fails. -/
def sqliteTexts : List Bytes :=
  [ascii "not an error",
   ascii "cannot start a transaction within a transaction",
   ascii "cannot commit - no transaction is active",
   ascii "cannot rollback - no transaction is active",
   ascii "NOT NULL constraint failed: accounts.balance",
   ascii "NOT NULL constraint failed: transactions.amount",
   ascii "UNIQUE constraint failed: accounts.account_no",
   ascii "UNIQUE constraint failed: admins.username",
   ascii "FOREIGN KEY constraint failed"]

/-- A constraint is reported in SQLite's words. -/
theorem exec_error_mem {fp : Rounding} {β : Type} {statement : Statement β} {t : Tables}
    {message : Bytes} (h : statement.exec fp t = .error message) : message ∈ sqliteTexts := by
  cases statement with
  | updateBalance | deleteAccount | updateTransactionAccount | insertAdmin =>
      simp only [Statement.exec] at h
      split at h <;> cases h
      simp [sqliteTexts]
  | insertAccount | insertTransaction =>
      simp only [Statement.exec] at h
      split at h
      · cases h
        simp [sqliteTexts]
      · split at h <;> cases h
        simp [sqliteTexts]
  | _ => simp only [Statement.exec, reduceCtorEq] at h

/-- The answers of the calls, and what they say and hear. -/
def Worded (fp : Rounding) (faulty : Prop) : Spec SqlOp Heard
  | _, .begin, h, answer, h' =>
      (SqlAnswers fp faulty _ .begin h.store answer h'.store ∧ h'.error = h.error) ∧
        ∀ message, answer = .error message → faulty ∨ message ∈ sqliteTexts
  | _, .commit, h, answer, h' =>
      (SqlAnswers fp faulty _ .commit h.store answer h'.store ∧ h'.error = h.error) ∧
        ∀ message, answer = .error message → faulty ∨ message ∈ sqliteTexts
  | _, .errmsg, h, text, h' => (faulty ∨ text ∈ sqliteTexts) ∧ h' = h
  | _, .setError text, h, _, h' => h' = { h with error := some (snprintf 256 text) }
  | _, .readError, h, text, h' => (∀ set, h.error = some set → text = set) ∧ h' = h
  | β, op, h, answer, h' => SqlAnswers fp faulty β op h.store answer h'.store ∧ h'.error = h.error

/-- The part of the world that is told. -/
def World.heard (w : World) : Heard := ⟨w.store, if w.errorSet then some w.error else none⟩

/-- What the handler needs of a world: a fault to come is reason enough, and
without one SQLite words its own texts. -/
def World.Plain (faulty : Prop) (w : World) : Prop :=
  ((∃ message, some message ∈ w.faults) → faulty) ∧ (faulty ∨ w.errmsg ∈ sqliteTexts)

theorem World.Plain.faulty {faulty : Prop} {w : World} (h : w.Plain faulty) {message : Bytes}
    (hfault : w.fault = some message) : faulty := by
  apply h.1
  cases hlist : w.faults with
  | nil => simp [World.fault, hlist] at hfault
  | cons first rest => exact ⟨message, by simp_all [World.fault]⟩

theorem sqlite_errmsg (fp : Rounding) (faulty : Prop) {β : Type} (op : SqlOp β) (w : World)
    (h : w.Plain faulty) : faulty ∨ (sqlite fp β op w).2.errmsg ∈ sqliteTexts := by
  obtain ⟨hfaults, herrmsg⟩ := id h
  have hfault (message : Bytes) : w.fault = some message → faulty := h.faulty
  cases op with
  | begin | commit =>
      cases hf : w.fault with
      | some message => exact .inl (hfault message hf)
      | none =>
          cases hs : w.store.saved <;>
            simp [sqlite, hf, hs, World.failed, World.succeeded, sqliteTexts]
  | rollback => cases hs : w.store.saved <;> simp [sqlite, hs, sqliteTexts]
  | prepare | stepAgain =>
      cases hf : w.fault with
      | some message => exact .inl (hfault message hf)
      | none => simp [sqlite, hf, World.succeeded, sqliteTexts]
  | step statement =>
      cases hf : w.fault with
      | some message => exact .inl (hfault message hf)
      | none =>
          cases he : statement.exec fp w.store.tables with
          | ok => simp [sqlite, hf, he, World.succeeded, sqliteTexts]
          | error message =>
              exact .inr (by simpa [sqlite, hf, he, World.failed] using exec_error_mem he)
  | errmsg => exact herrmsg
  | setError text => exact herrmsg
  | readError => exact herrmsg

/-- Calls into SQLite do not touch the error buffer. -/
theorem sqlite_worded (fp : Rounding) (faulty : Prop) {β : Type} (op : SqlOp β) (w : World)
    (h : w.Plain faulty) :
    Worded fp faulty β op w.heard (sqlite fp β op w).1 (sqlite fp β op w).2.heard := by
  have hstore := sqlite_answers fp faulty op w h.1
  cases op with
  | begin | commit =>
      refine ⟨⟨hstore, ?_⟩, ?_⟩
      · cases hf : w.fault <;> cases hs : w.store.saved <;>
          simp [sqlite, hf, hs, World.heard, World.failed, World.succeeded]
      · intro message hmessage
        cases hf : w.fault with
        | some text => exact .inl (h.faulty hf)
        | none =>
            cases hs : w.store.saved <;> simp only [sqlite, hf, hs] at hmessage <;>
              cases hmessage
            exact .inr (by simp [sqliteTexts])
  | rollback =>
      refine ⟨hstore, ?_⟩
      cases hs : w.store.saved <;> simp [sqlite, hs, World.heard]
  | prepare | stepAgain =>
      refine ⟨hstore, ?_⟩
      cases hf : w.fault <;> simp [sqlite, hf, World.heard, World.failed, World.succeeded]
  | step statement =>
      refine ⟨hstore, ?_⟩
      cases hf : w.fault <;> cases he : statement.exec fp w.store.tables <;>
        simp [sqlite, hf, he, World.heard, World.failed, World.succeeded]
  | errmsg => exact ⟨h.2, rfl⟩
  | setError text => rfl
  | readError =>
      refine ⟨fun set hset => ?_, rfl⟩
      simp only [World.heard] at hset
      split at hset <;> cases hset
      rfl

/-- What holds of a program under `Worded` holds of its runs. -/
theorem run_of_worded {α : Type} (fp : Rounding) (env : Environment) (p : Db α) (s : Store)
    {post : α → Heard → Prop} (h : Always (Worded fp env.Faulty) p ⟨s, none⟩ post) :
    post (p.run (sqlite fp) (World.start env s)).1
      (p.run (sqlite fp) (World.start env s)).2.heard :=
  run_of_always (sqlite fp) World.heard (w := World.start env s)
    (World.Plain env.Faulty)
    (fun _ op w hw => ⟨sqlite_worded fp env.Faulty op w hw,
      fun ⟨message, hmem⟩ => hw.1 ⟨message, sqlite_faults fp op w _ hmem⟩,
      sqlite_errmsg fp env.Faulty op w hw⟩)
    ⟨id, .inr (by simp [World.start, sqliteTexts])⟩ h

theorem exec_of_worded {α : Type} (fp : Rounding) (env : Environment) (p : Db α) (s : Store)
    {post : α → Heard → Prop} (h : Always (Worded fp env.Faulty) p ⟨s, none⟩ post) :
    ∃ error, post (p.exec fp env s).1 ⟨(p.exec fp env s).2, error⟩ :=
  ⟨_, run_of_worded fp env p s h⟩

/-! ### Explained refusals -/

/-- The error buffer has been set, to a good text. -/
def Heard.Told (good : Bytes → Prop) (h : Heard) : Prop :=
  ∃ text, h.error = some text ∧ good text

/-- Started like this, the program tells why whenever it refuses. -/
structure ExplainsFrom (fp : Rounding) (faulty : Prop) (good : Bytes → Prop) {α : Type}
    (refused : α → Prop) (h : Heard) (p : Db α) : Prop where
  always : Always (Worded fp faulty) p h fun a h' => refused a → h'.Told good

def Explains (fp : Rounding) (faulty : Prop) (good : Bytes → Prop) {α : Type}
    (refused : α → Prop) (p : Db α) : Prop :=
  ∀ h, ExplainsFrom fp faulty good refused h p

section rules

variable {fp : Rounding} {faulty : Prop} {good : Bytes → Prop} {α β : Type}
  {refused : α → Prop} {refused' : β → Prop} {p : Db α} {next : α → Db β}

/-- What has been told stays told. -/
theorem ExplainsFrom.told {h : Heard} (htold : h.Told good) (a : α) :
    ExplainsFrom fp faulty good refused h (pure a) := ⟨fun _ => htold⟩

theorem ExplainsFrom.told_rollback {h : Heard} (htold : h.Told good) (a : α) :
    ExplainsFrom fp faulty good refused h (do dbRollbackTransaction; return a) := by
  refine ⟨?_⟩
  rintro _ h' ⟨-, herror⟩ _
  obtain ⟨text, htext, hgood⟩ := htold
  exact ⟨text, herror.trans htext, hgood⟩

theorem Explains.pure {a : α} (h : ¬ refused a) : Explains fp faulty good refused (pure a) :=
  fun _ => ⟨fun hrefused => absurd hrefused h⟩

/-- What is known behind a part of the program, the rest may use. -/
theorem ExplainsFrom.bind {h : Heard} {known : α → Heard → Prop}
    (hp : Always (Worded fp faulty) p h known)
    (hnext : ∀ a h', known a h' → ExplainsFrom fp faulty good refused' h' (next a)) :
    ExplainsFrom fp faulty good refused' h (p >>= next) := by
  refine ⟨?_⟩
  rw [always_bind]
  apply hp.mono
  intro a h' hknown
  exact (hnext a h' hknown).always

/-- What comes after does the explaining. -/
theorem Explains.after (hnext : ∀ a, Explains fp faulty good refused' (next a)) :
    Explains fp faulty good refused' (p >>= next) := by
  intro h
  apply ExplainsFrom.bind (always_of_forall fun _ _ => trivial)
  intro a h' _
  exact hnext a h'

/-- A refusal that has been told is passed on; what comes after any other
answer explains itself. -/
theorem Explains.bind (hp : Explains fp faulty good refused p)
    (hkeeps : ∀ a h, refused a → h.Told good → ExplainsFrom fp faulty good refused' h (next a))
    (hnext : ∀ a, ¬ refused a → Explains fp faulty good refused' (next a)) :
    Explains fp faulty good refused' (p >>= next) := by
  intro h
  apply ExplainsFrom.bind (hp h).always
  intro a h' htold
  by_cases ha : refused a
  · exact hkeeps a h' ha (htold ha)
  · exact hnext a ha h'

theorem explains_setError {text : Bytes} (hgood : good (snprintf 256 text)) (a : α) :
    Explains fp faulty good refused (do setError text; return a) := by
  intro h
  refine ⟨?_⟩
  rintro _ _ rfl _
  exact ⟨_, rfl, hgood⟩

theorem explains_rollbackWith {text : Bytes} (hgood : good (snprintf 256 text)) (a : α) :
    Explains fp faulty good refused (do rollbackWith text; return a) := by
  intro h
  refine ⟨?_⟩
  rintro _ h' - _ _ rfl _
  exact ⟨_, rfl, hgood⟩

/-- A step of a transaction: refused, it rolls back and refuses as a whole. -/
theorem Explains.orRollback {step : Db Bool} {a : α} {rest : Db α}
    (hstep : Explains fp faulty good (· = false) step) (hrest : Explains fp faulty good refused rest) :
    Explains fp faulty good refused (do
      if !(← step) then
        dbRollbackTransaction
        return a
      rest) := by
  apply hstep.bind
  · rintro _ h rfl htold
    exact .told_rollback htold a
  · intro done hdone
    rw [Bool.not_eq_false] at hdone
    subst hdone
    exact hrest

variable (hsqlite : ∀ text, faulty ∨ text ∈ sqliteTexts → good (snprintf 256 text))

include hsqlite

theorem explains_setErrmsg (a : α) :
    Explains fp faulty good refused (do setErrmsg; return a) := by
  intro h
  refine ⟨?_⟩
  rintro text _ ⟨htext, rfl⟩ _ _ rfl _
  exact ⟨_, rfl, hsqlite text htext⟩

theorem explains_executeOrReport (statement : Statement β) :
    Explains fp faulty good (· = none) (executeOrReport statement) := by
  apply Explains.after
  intro answer
  cases answer with
  | ok result => exact .pure (Option.some_ne_none _)
  | error code => exact explains_setErrmsg hsqlite none

/-- A call that says itself why it failed. -/
theorem explains_reported {op : SqlOp (Except Bytes Unit)}
    (hop : ∀ h answer h', Worded fp faulty _ op h answer h' →
      ∀ message, answer = .error message → faulty ∨ message ∈ sqliteTexts) :
    Explains fp faulty good (· = false) (do
      match ← call op with
      | .ok () => return true
      | .error message => do
          setError message
          return false) := by
  intro h
  apply ExplainsFrom.bind ((always_call op h).mpr (hop h))
  rintro (_ | _) h' htext
  · exact explains_setError (hsqlite _ (htext _ rfl)) false h'
  · exact Explains.pure nofun h'

theorem explains_dbCommitTransaction : Explains fp faulty good (· = false) dbCommitTransaction :=
  explains_reported hsqlite fun _ _ _ hcall => hcall.2

/-- Beginning a transaction reads nothing and writes nothing. -/
theorem worded_dbBeginTransaction (h : Heard) :
    Always (Worded fp faulty) dbBeginTransaction h fun begun h' =>
      h'.store.tables = h.store.tables ∧ (begun = false → h'.Told good) := by
  have htables {answer : Except Bytes Unit} {s s' : Store}
      (hanswers : SqlAnswers fp faulty _ .begin s answer s') : s'.tables = s.tables := by
    obtain ⟨t, _ | saved⟩ := s
    · rcases hanswers with ⟨-, rfl⟩ | ⟨-, -, rfl⟩ <;> rfl
    · obtain ⟨-, rfl⟩ := hanswers
      rfl
  rintro answer h' ⟨⟨hanswers, -⟩, htext⟩
  cases answer with
  | ok => exact ⟨htables hanswers, nofun⟩
  | error message =>
      rintro _ _ rfl
      exact ⟨htables hanswers, fun _ => ⟨_, rfl, hsqlite message (htext message rfl)⟩⟩

/-- A function that runs one statement and tells whether it could. -/
theorem explains_isSome (statement : Statement β) :
    Explains fp faulty good (· = false) (do return (← executeOrReport statement).isSome) := by
  apply (explains_executeOrReport hsqlite statement).bind
  · intro a h _ htold
    exact .told htold _
  · intro a ha
    apply Explains.pure
    simpa [Option.isSome_eq_false_iff] using ha

theorem explains_dbUpdateBalance (accountNo : Int) (balance : Double) :
    Explains fp faulty good (· = false) (dbUpdateBalance accountNo balance) :=
  explains_isSome hsqlite _

theorem explains_dbInsertTransaction (accountNo : Int) (relatedAccount : Option Int)
    (type : TransactionType) (amount : Double) (balanceAfter : Option Double) (timestamp : Bytes) :
    Explains fp faulty good (· = false)
      (dbInsertTransaction accountNo relatedAccount type amount balanceAfter timestamp) :=
  explains_isSome hsqlite _

theorem explains_dbUpdateLoginState (accountNo failedAttempts isLocked : Int) :
    Explains fp faulty good (· = false) (dbUpdateLoginState accountNo failedAttempts isLocked) :=
  explains_isSome hsqlite _

/-- What reading an account tells and learns. -/
theorem worded_dbReadAccount (accountNo : Int) (h : Heard) :
    Always (Worded fp faulty) (dbReadAccount accountNo) h fun answer h' =>
      h'.store = h.store ∧ match answer with
        | .failed => faulty ∧ h'.Told good
        | .notFound => h.store.tables.accounts.lookup accountNo = none
        | .found _ => True := by
  simp only [dbReadAccount, executeOrReport, execute, always_bind, always_call]
  rintro prepared h₁ ⟨⟨hprepared, hstore⟩, -⟩
  rcases hprepared with rfl | ⟨hf, rfl⟩
  · rintro answer h₂ ⟨hstep, -⟩
    rcases hstep with ⟨hf, rfl, hstore'⟩ | ⟨rfl, hstore'⟩
    · rintro text _ ⟨htext, rfl⟩ _ _ rfl
      exact ⟨hstore'.trans hstore, hf, _, rfl, hsqlite text htext⟩
    · have hsame : h₂.store = h.store := hstore'.trans (by rw [hstore])
      cases hrow : h₁.store.tables.accounts.lookup accountNo with
      | none => exact ⟨hsame, by rw [← hstore, hrow]⟩
      | some row => exact ⟨hsame, trivial⟩
  · rintro text _ ⟨htext, rfl⟩ _ _ rfl
    exact ⟨hstore, hf, _, rfl, hsqlite text htext⟩

end rules

end AtmSystem.Model
