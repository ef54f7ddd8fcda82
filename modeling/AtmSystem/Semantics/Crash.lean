import AtmSystem.Library.Crash
import AtmSystem.Semantics.Calls

/-!
A process that dies between two calls into SQLite. Its connection is closed with
it: what the file holds is what is committed, and an open transaction is gone.
`Db.cut` is the file a function leaves that dies behind so many calls; it is the
file the same function leaves when the calls behind that one fail.
-/

namespace AtmSystem.Model

open Library Program

/-- What the database file holds. -/
def Store.committed (s : Store) : Tables := s.saved.getD s.tables

@[simp] theorem committed_closed (t : Tables) : Store.committed ⟨t, none⟩ = t := rfl

@[simp] theorem committed_open (t saved : Tables) : Store.committed ⟨t, some saved⟩ = saved := rfl

/-- The file behind so many calls of a function. -/
def Db.cut {α : Type} (fp : Rounding) (env : Environment) (p : Db α) (calls : Nat)
    (store : Store) : Tables :=
  (Program.cut (sqlite fp) calls p (World.start env store)).store.committed

/-- The same surroundings, with other calls failing. -/
def Environment.failing (env : Environment) (faults : List (Option Bytes)) : Environment :=
  { env with faults := faults }

def World.failing (faults : List (Option Bytes)) (w : World) : World := { w with faults := faults }

@[simp] theorem fault_cons (fault : Option Bytes) (faults : List (Option Bytes)) (w : World) :
    (w.failing (fault :: faults)).fault = fault := rfl

/-- A call that SQLite may fail, by the fault at the head of the list. -/
def SqlOp.mayFail : (β : Type) → SqlOp β → Bool
  | _, .begin | _, .commit | _, .prepare | _, .step _ | _, .stepAgain => true
  | _, .rollback | _, .errmsg | _, .setError _ | _, .readError => false

/-- What a call does depends on its own fault. -/
theorem sqlite_follows (fp : Rounding) {β : Type} (op : SqlOp β) (w : World)
    (faults : List (Option Bytes)) :
    sqlite fp β op (w.failing ((if SqlOp.mayFail β op then [w.fault] else []) ++ faults)) =
      ((sqlite fp β op w).1, (sqlite fp β op w).2.failing faults) := by
  obtain ⟨⟨tables, saved⟩, message, error, errorSet, planned⟩ := w
  cases op with
  | begin | commit =>
      simp only [SqlOp.mayFail, if_true, List.singleton_append, sqlite, fault_cons]
      generalize World.fault _ = fault
      cases fault <;> cases saved <;> rfl
  | prepare | stepAgain =>
      simp only [SqlOp.mayFail, if_true, List.singleton_append, sqlite, fault_cons]
      generalize World.fault _ = fault
      cases fault <;> rfl
  | step statement =>
      simp only [SqlOp.mayFail, if_true, List.singleton_append, sqlite, fault_cons]
      generalize World.fault _ = fault
      simp only [World.failing]
      cases fault <;> cases statement.exec fp tables <;> rfl
  | rollback => cases saved <;> rfl
  | errmsg => rfl
  | setError text => rfl
  | readError => rfl

/-- A call that fails, and a ROLLBACK, leave the file as it is. -/
theorem sqlite_fails (fp : Rounding) {β : Type} (op : SqlOp β) (w : World) :
    ∃ head answer w', w'.store.committed = w.store.committed ∧ ∀ faults,
      sqlite fp β op (w.failing (head ++ faults)) = (answer, World.failing faults w') := by
  have hfailed : (w.failed []).store.committed = w.store.committed := rfl
  cases op with
  | begin => exact ⟨[some []], .error [], w.failed [], hfailed, fun _ => rfl⟩
  | commit => exact ⟨[some []], .error [], w.failed [], hfailed, fun _ => rfl⟩
  | prepare => exact ⟨[some []], false, w.failed [], hfailed, fun _ => rfl⟩
  | stepAgain => exact ⟨[some []], false, w.failed [], hfailed, fun _ => rfl⟩
  | step statement => exact ⟨[some []], .error .failure, w.failed [], hfailed, fun _ => rfl⟩
  | rollback =>
      refine ⟨[], (), (sqlite fp _ .rollback w).2, ?_, sqlite_follows fp .rollback w⟩
      obtain ⟨⟨tables, saved⟩, message, error, errorSet, planned⟩ := w
      cases saved <;> rfl
  | errmsg => exact ⟨[], w.errmsg, w, rfl, fun _ => rfl⟩
  | setError text =>
      exact ⟨[], (), (sqlite fp _ (.setError text) w).2, rfl, sqlite_follows fp (.setError text) w⟩
  | readError => exact ⟨[], w.error, w, rfl, fun _ => rfl⟩

theorem sqlite_failsAsPlanned (fp : Rounding) :
    FailsAsPlanned (sqlite fp) World.failing fun w => w.store.committed where
  view_withPlan _ _ := rfl
  follows _ op w := ⟨_, sqlite_follows fp op w⟩
  fails _ op w := sqlite_fails fp op w

/-- Dying is failing: for every call there are failures that leave the file as
it is at that call. -/
theorem exists_failing {α : Type} (fp : Rounding) (env : Environment) (p : Db α) (calls : Nat)
    (store : Store) : ∃ faults,
      (p.exec fp (env.failing faults) store).2.committed = p.cut fp env calls store :=
  (sqlite_failsAsPlanned fp).exists_plan p calls (World.start env store)

end AtmSystem.Model
