import AtmSystem.Library.Interleaving
import AtmSystem.Semantics.Calls

/-!
Several server processes on one database file. Each has its own connection;
what they share is the committed contents and the write lock. A process that
holds the lock sees its own uncommitted changes, every other one sees what is
committed. While one process holds the lock the calls of the others change
nothing: BEGIN IMMEDIATE and writing statements fail, or wait, which here
means that they are not scheduled.
-/

namespace AtmSystem.Model

open Library Program

/-- The contents of the file, and the process in a transaction with the
contents as it sees them. -/
structure Shared where
  committed : Tables
  writer : Option (ℕ × Tables)

namespace Shared

/-- The store the connection of a process works on. -/
def view (s : Shared) (p : ℕ) : Store :=
  match s.writer with
  | none => ⟨s.committed, none⟩
  | some (q, work) => if q = p then ⟨work, some s.committed⟩ else ⟨s.committed, none⟩

/-- The file once a process that was free to write leaves `store`. -/
def publish (p : ℕ) (store : Store) : Shared :=
  match store.saved with
  | none => ⟨store.tables, none⟩
  | some saved => ⟨saved, some (p, store.tables)⟩

@[simp] theorem publish_closed (p : ℕ) (t : Tables) : publish p ⟨t, none⟩ = ⟨t, none⟩ := rfl

@[simp] theorem publish_open (p : ℕ) (t saved : Tables) :
    publish p ⟨t, some saved⟩ = ⟨saved, some (p, t)⟩ := rfl

/-- Another process is in a transaction. -/
def Blocked (s : Shared) (p : ℕ) : Prop := ∃ writer ∈ s.writer, writer.1 ≠ p

instance (s : Shared) (p : ℕ) : Decidable (s.Blocked p) :=
  inferInstanceAs (Decidable (∃ writer ∈ s.writer, writer.1 ≠ p))

theorem publish_view {s : Shared} {p : ℕ} (h : ¬ s.Blocked p) : publish p (s.view p) = s := by
  obtain ⟨committed, writer⟩ := s
  cases writer with
  | none => rfl
  | some writer =>
      obtain ⟨q, work⟩ := writer
      obtain rfl : q = p := by
        by_contra hq
        exact h ⟨_, rfl, hq⟩
      simp [view]

end Shared

/-- Calls that no other process notices: preparing a statement, and the
messages of the connection and of the caller. -/
def SqlOp.isQuiet : (β : Type) → SqlOp β → Bool
  | _, .prepare | _, .errmsg | _, .setError _ | _, .readError => true
  | _, .begin | _, .commit | _, .rollback | _, .step _ | _, .stepAgain => false

namespace SqlOp

/-- One case for each call that no other process notices. -/
theorem quiet_cases {motive : (β : Type) → (op : SqlOp β) → isQuiet β op = true → Prop}
    (prepare : motive _ .prepare rfl) (errmsg : motive _ .errmsg rfl)
    (setError : ∀ text, motive _ (.setError text) rfl) (readError : motive _ .readError rfl)
    (β : Type) (op : SqlOp β) (hquiet : isQuiet β op = true) : motive β op hquiet := by
  cases op with
  | prepare => exact prepare
  | errmsg => exact errmsg
  | setError text => exact setError text
  | readError => exact readError
  | begin => cases hquiet
  | commit => cases hquiet
  | rollback => cases hquiet
  | step statement => cases hquiet
  | stepAgain => cases hquiet

/-- One case for each call that the others notice. -/
theorem noticed_cases {motive : (β : Type) → (op : SqlOp β) → isQuiet β op = false → Prop}
    (begin : motive _ .begin rfl) (commit : motive _ .commit rfl)
    (rollback : motive _ .rollback rfl)
    (step : ∀ (β : Type) (statement : Statement β), motive _ (.step statement) rfl)
    (stepAgain : motive _ .stepAgain rfl) (β : Type) (op : SqlOp β)
    (hnoticed : isQuiet β op = false) : motive β op hnoticed := by
  cases op with
  | begin => exact begin
  | commit => exact commit
  | rollback => exact rollback
  | step statement => exact step _ statement
  | stepAgain => exact stepAgain
  | prepare => cases hnoticed
  | errmsg => cases hnoticed
  | setError text => cases hnoticed
  | readError => cases hnoticed

end SqlOp

/-- The answers to the calls of process `p`. -/
def Connected (fp : Rounding) (faulty : Prop) (p : ℕ) : Spec SqlOp Shared :=
  fun β op s answer s' =>
    match s.writer with
    | none => ∃ store, SqlAnswers fp faulty β op ⟨s.committed, none⟩ answer store ∧
        s' = .publish p store
    | some (q, work) =>
        if q = p then
          ∃ store, SqlAnswers fp faulty β op ⟨work, some s.committed⟩ answer store ∧
            s' = .publish p store
        else
          SqlAnswers fp True β op ⟨s.committed, none⟩ answer ⟨s.committed, none⟩ ∧ s' = s

/-- Server processes that run `program` on one file. -/
def connections {Job Answer : Type} (fp : Rounding) (faulty : Prop) (program : Job → Db Answer) :
    Processes SqlOp Shared Job Answer where
  program := program
  quiet := SqlOp.isQuiet
  answers := Connected fp faulty

section Connected

variable {fp : Rounding} {faulty : Prop} {p : ℕ} {β : Type} {op : SqlOp β} {answer : β}
  {s s' : Shared}

theorem connected_of_free {t : Tables} :
    Connected fp faulty p β op ⟨t, none⟩ answer s' ↔
      ∃ store, SqlAnswers fp faulty β op ⟨t, none⟩ answer store ∧ s' = .publish p store := Iff.rfl

theorem connected_of_holder {t work : Tables} :
    Connected fp faulty p β op ⟨t, some (p, work)⟩ answer s' ↔
      ∃ store, SqlAnswers fp faulty β op ⟨work, some t⟩ answer store ∧ s' = .publish p store := by
  simp [Connected]

theorem connected_of_blocked {q : ℕ} {t work : Tables} (hq : q ≠ p) :
    Connected fp faulty p β op ⟨t, some (q, work)⟩ answer s' ↔
      SqlAnswers fp True β op ⟨t, none⟩ answer ⟨t, none⟩ ∧ s' = ⟨t, some (q, work)⟩ := by
  simp [Connected, hq]

/-- A process in a transaction keeps its changes and what they are based on,
whatever the others do. -/
theorem Connected.keeps_writer (h : Connected fp faulty p β op s answer s') {q : ℕ}
    {work : Tables} (hwriter : s.writer = some (q, work)) (hq : q ≠ p) : s' = s := by
  obtain ⟨committed, writer⟩ := s
  cases hwriter
  exact ((connected_of_blocked hq).mp h).2

/-- A process enters a transaction by its own calls only. -/
theorem Connected.writer_of_other (h : Connected fp faulty p β op s answer s') {q : ℕ}
    (hq : q ≠ p) {work : Tables} (hwriter : s'.writer = some (q, work)) :
    s.writer = some (q, work) := by
  have hpublished (store : Store) (hs' : s' = .publish p store) : q = p := by
    obtain ⟨tables, saved⟩ := store
    rw [hs'] at hwriter
    cases saved with
    | none => cases hwriter
    | some saved =>
        cases hwriter
        rfl
  obtain ⟨committed, writer⟩ := s
  cases writer with
  | none =>
      obtain ⟨store, -, hs'⟩ := connected_of_free.mp h
      exact absurd (hpublished store hs') hq
  | some writer =>
      obtain ⟨holder, tables⟩ := writer
      by_cases hholder : holder = p
      · subst hholder
        obtain ⟨store, -, hs'⟩ := connected_of_holder.mp h
        exact absurd (hpublished store hs') hq
      · rw [((connected_of_blocked hholder).mp h).2] at hwriter
        exact hwriter

/-- A quiet call is answered alike on every store, and leaves it alone. -/
theorem Connected.quiet (h : Connected fp faulty p β op s answer s')
    (hblocked : s.Blocked p → faulty) (hquiet : SqlOp.isQuiet β op = true) (x : Store) :
    SqlAnswers fp faulty β op x answer x := by
  obtain ⟨store, store', hanswer⟩ : ∃ store store',
      SqlAnswers fp faulty β op store answer store' := by
    obtain ⟨committed, writer⟩ := s
    cases writer with
    | none =>
        obtain ⟨store, hanswer, -⟩ := connected_of_free.mp h
        exact ⟨_, _, hanswer⟩
    | some writer =>
        obtain ⟨holder, tables⟩ := writer
        by_cases hholder : holder = p
        · subst hholder
          obtain ⟨store, hanswer, -⟩ := connected_of_holder.mp h
          exact ⟨_, _, hanswer⟩
        · have hfaulty : faulty := hblocked ⟨_, rfl, hholder⟩
          exact ⟨_, _, ((connected_of_blocked hholder).mp h).1.mono fun _ => hfaulty⟩
  induction β, op, hquiet using SqlOp.quiet_cases with
  | prepare => exact ⟨hanswer.1, rfl⟩
  | errmsg => rfl
  | setError text => rfl
  | readError => rfl

/-- BEGIN takes the lock if nobody holds it, or fails without effect. -/
theorem Connected.begin_cases {answer : Except Bytes Unit}
    (h : Connected fp faulty p _ .begin s answer s') :
    answer.isOk ∧ s' = ⟨s.committed, some (p, s.committed)⟩ ∨ ¬ answer.isOk ∧ s' = s := by
  obtain ⟨committed, writer⟩ := s
  cases writer with
  | none =>
      obtain ⟨store, ⟨hok, rfl⟩ | ⟨-, hfailed, rfl⟩, rfl⟩ := connected_of_free.mp h
      · exact .inl ⟨hok, rfl⟩
      · exact .inr ⟨hfailed, rfl⟩
  | some writer =>
      obtain ⟨holder, work⟩ := writer
      by_cases hholder : holder = p
      · subst hholder
        obtain ⟨store, ⟨hfailed, rfl⟩, rfl⟩ := connected_of_holder.mp h
        exact .inr ⟨hfailed, rfl⟩
      · obtain ⟨⟨-, hopened⟩ | ⟨-, hfailed, -⟩, rfl⟩ := (connected_of_blocked hholder).mp h
        · cases hopened
        · exact .inr ⟨hfailed, rfl⟩

/-- A statement runs on the tables its process sees, and leaves the file as it
is if it fails or leaves those alone. -/
theorem Connected.step_cases {statement : Statement β} {answer : Except ResultCode β}
    (h : Connected fp faulty p _ (.step statement) s answer s') :
    ∃ t', SqlAnswers fp (faulty ∨ s.Blocked p) _ (.step statement) ⟨(s.view p).tables, none⟩ answer
      ⟨t', none⟩ ∧ (t' = (s.view p).tables → s' = s) := by
  obtain ⟨committed, writer⟩ := s
  cases writer with
  | none =>
      obtain ⟨store, hstore, rfl⟩ := connected_of_free.mp h
      obtain ⟨t', rfl, -⟩ := hstore.step_cases
      refine ⟨t', hstore.mono .inl, ?_⟩
      rintro rfl
      rfl
  | some writer =>
      obtain ⟨holder, work⟩ := writer
      by_cases hholder : holder = p
      · subst hholder
        obtain ⟨store, hstore, rfl⟩ := connected_of_holder.mp h
        obtain ⟨t', rfl, -⟩ := hstore.step_cases
        simp only [Shared.view, if_true]
        refine ⟨t', (hstore.step_anywhere none).mono .inl, ?_⟩
        rintro rfl
        rfl
      · obtain ⟨hstays, rfl⟩ := (connected_of_blocked hholder).mp h
        simp only [Shared.view, hholder, if_false]
        exact ⟨committed, hstays.mono fun _ => .inr ⟨_, rfl, hholder⟩, fun _ => trivial⟩

end Connected

/-! ### Schedules -/

/-- A connection on which no call fails. -/
def calm (store : Store) : World := ⟨store, [], [], false, []⟩

/-- Run the quiet calls of a program. -/
def proceed {α : Type} (fp : Rounding) : Db α → World → Db α
  | .done a, _ => .done a
  | .perform op k, w =>
      if SqlOp.isQuiet _ op then
        match sqlite fp _ op w with
        | (answer, w') => proceed fp (k answer) w'
      else .perform op k

/-- One entry of a schedule: a process starts a job, or makes its next call. -/
inductive Move (Job : Type) where
  | start (p : ℕ) (job : Job)
  | call (p : ℕ)

def Move.process {Job : Type} : Move Job → ℕ
  | .start p _ => p
  | .call p => p

section schedule

variable {Job Answer : Type} (fp : Rounding) (faulty : Prop) (program : Job → Db Answer)
  (admits : Job → Prop) [DecidablePred admits]
  (allowed : System SqlOp Shared Job Answer → ℕ → Call SqlOp → Prop)
  [∀ s p, DecidablePred (allowed s p)]

/-- Do what an entry asks for, unless it is not possible at the moment. -/
def play (s : System SqlOp Shared Job Answer) : Move Job → System SqlOp Shared Job Answer
  | .start p job =>
      if (s.tasks p).isNone ∧ admits job then
        s.moved p s.shared ⟨job, [], proceed fp (program job) (calm (s.shared.view p))⟩
      else s
  | .call p =>
      match s.tasks p with
      | none => s
      | some task =>
          match task.rest with
          | .done _ => s
          | .perform op k =>
              match sqlite fp _ op (calm (s.shared.view p)) with
              | (answer, w) =>
                  if SqlOp.isQuiet _ op = false ∧ ¬ s.shared.Blocked p ∧
                      allowed s p ⟨op, answer⟩ then
                    s.moved p (.publish p w.store)
                      ⟨task.job, task.heard ++ [⟨op, answer⟩], proceed fp (k answer) w⟩
                  else s

def playAll (s : System SqlOp Shared Job Answer) (schedule : List (Move Job)) :
    System SqlOp Shared Job Answer := schedule.foldl (play fp program admits allowed) s

variable {fp program admits allowed}

/-- A call that does not fail, as the file shows it. -/
theorem connected_sqlite {β : Type} (op : SqlOp β) {w : World} {s : Shared} {p : ℕ}
    (hblocked : ¬ s.Blocked p) (hstore : w.store = s.view p) (hfaults : w.faults = []) :
    Connected fp faulty p β op s (sqlite fp β op w).1 (.publish p (sqlite fp β op w).2.store) := by
  have hanswer : SqlAnswers fp faulty β op (s.view p) (sqlite fp β op w).1
      (sqlite fp β op w).2.store := by
    rw [← hstore]
    apply sqlite_answers
    intro hfault
    simp [hfaults] at hfault
  obtain ⟨committed, writer⟩ := s
  cases writer with
  | none => exact ⟨_, hanswer, rfl⟩
  | some writer =>
      obtain ⟨holder, work⟩ := writer
      obtain rfl : holder = p := by
        by_contra hholder
        exact hblocked ⟨_, rfl, hholder⟩
      simp only [Shared.view, if_true] at hanswer
      exact connected_of_holder.mpr ⟨_, hanswer, rfl⟩

/-- A quiet call without a fault succeeds, no matter who writes. -/
theorem connected_quiet {β : Type} {op : SqlOp β} (hquiet : SqlOp.isQuiet β op = true)
    {w : World} {s : Shared} {p : ℕ} (hstore : w.store = s.view p) (hfaults : w.faults = []) :
    Connected fp faulty p β op s (sqlite fp β op w).1 s ∧
      (sqlite fp β op w).2.store = w.store ∧ (sqlite fp β op w).2.faults = [] := by
  have hkept : (sqlite fp β op w).2.store = w.store ∧ (sqlite fp β op w).2.faults = [] := by
    have hfault : w.fault = none := by simp [World.fault, hfaults]
    induction β, op, hquiet using SqlOp.quiet_cases with
    | prepare => simp [sqlite, hfault, World.succeeded, hfaults]
    | errmsg => exact ⟨rfl, hfaults⟩
    | setError text => exact ⟨rfl, hfaults⟩
    | readError => exact ⟨rfl, hfaults⟩
  refine ⟨?_, hkept⟩
  by_cases hblocked : s.Blocked p
  · have hanswer : SqlAnswers fp True β op w.store (sqlite fp β op w).1
        (sqlite fp β op w).2.store := sqlite_answers fp True op w fun _ => trivial
    rw [hkept.1, hstore] at hanswer
    obtain ⟨committed, writer⟩ := s
    obtain ⟨writer, hwriter, hholder⟩ := hblocked
    obtain rfl : some writer = _ := hwriter.symm
    simp only [Shared.view, hholder, if_false] at hanswer
    exact (connected_of_blocked hholder).mpr ⟨hanswer, rfl⟩
  · have hanswer : Connected fp faulty p β op s (sqlite fp β op w).1
        (.publish p (sqlite fp β op w).2.store) :=
      connected_sqlite faulty op hblocked hstore hfaults
    rw [hkept.1, hstore, Shared.publish_view hblocked] at hanswer
    exact hanswer

/-- On a calm connection the quiet calls go through. -/
theorem proceeds_proceed {α : Type} {s : Shared} {p : ℕ} (prog : Db α) {w : World}
    (hstore : w.store = s.view p) (hfaults : w.faults = []) :
    Proceeds SqlOp.isQuiet (Connected fp faulty p) s prog (proceed fp prog w) := by
  induction prog generalizing w with
  | done a => exact .done a
  | perform op k ih =>
      rw [proceed]
      split
      · rename_i hquiet
        obtain ⟨hanswer, hkept, hcalm⟩ := connected_quiet faulty hquiet hstore hfaults
        exact .call hquiet hanswer (ih _ (hkept.trans hstore) hcalm)
      · rename_i hnoticed
        exact .waits (by simpa using hnoticed)

/-- A call uses up no more faults than there are. -/
theorem sqlite_calm {β : Type} (op : SqlOp β) {w : World} (hfaults : w.faults = []) :
    (sqlite fp β op w).2.faults = [] := by
  rw [List.eq_nil_iff_forall_not_mem]
  intro fault hfault
  have hmem := sqlite_faults fp op w fault hfault
  rw [hfaults] at hmem
  cases hmem

theorem Shared.view_publish (p : ℕ) (store : Store) : (Shared.publish p store).view p = store := by
  obtain ⟨tables, saved⟩ := store
  cases saved <;> simp [publish, view]

/-- Every entry of a schedule is a step of its process, or nothing. -/
theorem play_step (s : System SqlOp Shared Job Answer) (move : Move Job) :
    play fp program admits allowed s move = s ∨
      Step (connections fp faulty program) admits allowed s move.process
        (play fp program admits allowed s move) := by
  cases move with
  | start p job =>
      simp only [play]
      split
      · rename_i h
        obtain ⟨hidle, hadmits⟩ := h
        right
        apply Step.start (Option.isNone_iff_eq_none.mp hidle) hadmits
        exact proceeds_proceed faulty _ rfl rfl
      · left
        rfl
  | call p =>
      simp only [play]
      split
      · left
        rfl
      · rename_i task htask
        split
        · left
          rfl
        · rename_i op k hop
          split
          · rename_i h
            obtain ⟨hnoticed, hblocked, hallowed⟩ := h
            right
            apply Step.call htask hop hnoticed (connected_sqlite faulty op hblocked rfl rfl) hallowed
            exact proceeds_proceed faulty _ (Shared.view_publish p _).symm (sqlite_calm op rfl)
          · left
            rfl

/-- A schedule leads to a state that some interleaving leads to. -/
theorem reached_playAll (s : System SqlOp Shared Job Answer) (schedule : List (Move Job)) :
    Reached (connections fp faulty program) admits allowed s
      (playAll fp program admits allowed s schedule) := by
  induction schedule generalizing s with
  | nil => exact .refl
  | cons move rest ih =>
      have hrest := ih (play fp program admits allowed s move)
      have hmove : play fp program admits allowed s move = s ∨ Step _ _ _ _ _ _ :=
        play_step faulty s move
      rcases hmove with hsame | hstep
      · rw [playAll, List.foldl_cons, hsame]
        rw [hsame] at hrest
        exact hrest
      · exact .head ⟨_, hstep⟩ hrest

end schedule

end AtmSystem.Model
