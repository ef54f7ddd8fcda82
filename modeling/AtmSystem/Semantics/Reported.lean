import AtmSystem.Library.Guarded
import AtmSystem.Semantics.Reports

/-!
Which texts are reported. The state is the store with the message SQLite holds,
so that a program which passes this message on can be told from one that reports
a text of its own. A listing whose lines fit the buffer together never reports
that they do not.
-/

namespace AtmSystem.Model

open Library Program

/-- The calls on a store, and the message that `sqlite3_errmsg` hands out. -/
def Hears (fp : Rounding) : Spec SqlOp (Store × Bytes)
  | _, .errmsg, s, message, s' => message = s.2 ∧ s' = s
  | β, op, s, answer, s' => SqlAnswers fp True β op s.1 answer s'.1

/-- This text is reported only where it is SQLite's own message. -/
def ReportsOther (text : Bytes) : (β : Type) → SqlOp β → Store × Bytes → Prop
  | _, .setError reported, s => reported = text → s.2 = text
  | _, _, _ => True

theorem sqlite_hears (fp : Rounding) (β : Type) (op : SqlOp β) (w : World) :
    Hears fp β op (w.store, w.errmsg) (sqlite fp β op w).1
      ((sqlite fp β op w).2.store, (sqlite fp β op w).2.errmsg) := by
  have hanswers := sqlite_answers fp True op w fun _ => trivial
  cases op with
  | errmsg => exact ⟨rfl, rfl⟩
  | _ => exact hanswers

section rules

variable {fp : Rounding} {text message : Bytes} {t : Tables} {saved : Option Tables}

theorem heard_setErrmsg {post : Unit → Store × Bytes → Prop}
    (h : ∀ message', post () (⟨t, saved⟩, message')) :
    Guarded (Hears fp) (ReportsOther text) setErrmsg (⟨t, saved⟩, message) post := by
  simp only [setErrmsg, setError, guarded_bind, guarded_call, Hears, ReportsOther, SqlAnswers]
  refine ⟨trivial, ?_⟩
  rintro _ _ ⟨rfl, rfl⟩
  refine ⟨id, ?_⟩
  rintro _ ⟨_, message'⟩ rfl
  exact h message'

/-- A statement that reads. -/
theorem heard_executeOrReport {β : Type} {statement : Statement β} {result : β}
    (hexec : statement.exec fp t = .ok (result, t)) {post : Option β → Store × Bytes → Prop}
    (hfailed : ∀ message', post none (⟨t, saved⟩, message'))
    (hdone : ∀ message', post (some result) (⟨t, saved⟩, message')) :
    Guarded (Hears fp) (ReportsOther text) (executeOrReport statement) (⟨t, saved⟩, message)
      post := by
  simp only [executeOrReport, execute, guarded_bind, guarded_call, guarded_ite, guarded_pure,
    Hears, ReportsOther, SqlAnswers, true_and]
  rintro prepared ⟨_, message'⟩ ⟨-, rfl⟩
  refine ⟨fun _ => heard_setErrmsg hfailed, fun _ => ?_⟩
  rintro answer ⟨_, message''⟩ hstep
  simp only [hexec] at hstep
  rcases hstep with ⟨rfl, rfl⟩ | ⟨rfl, rfl⟩
  · exact heard_setErrmsg hfailed
  · exact hdone message''

theorem heard_dbReadAccount (accountNo : Int)
    {post : Lookup (AccountInfo × UInt64 × UInt64) → Store × Bytes → Prop}
    (hfailed : ∀ message', post .failed (⟨t, saved⟩, message'))
    (hmissing : t.accounts.lookup accountNo = none →
      ∀ message', post .notFound (⟨t, saved⟩, message'))
    (hfound : ∀ row, t.accounts.lookup accountNo = some row → ∀ message',
      post (.found (row.info accountNo, row.pinHash.toUInt64, row.salt.toUInt64))
        (⟨t, saved⟩, message')) :
    Guarded (Hears fp) (ReportsOther text) (dbReadAccount accountNo) (⟨t, saved⟩, message)
      post := by
  have hread : (Statement.selectAccount accountNo).exec fp t =
      .ok (t.accounts.lookup accountNo, t) := rfl
  simp only [dbReadAccount, guarded_bind]
  apply heard_executeOrReport hread hfailed
  intro message'
  cases hrow : t.accounts.lookup accountNo with
  | none => exact hmissing hrow message'
  | some row => exact hfound row hrow message'

/-- Every line of the loop fits. -/
theorem appendRows_reports {Row : Type} (line : Row → Bytes) (exceeded : Bytes) (rows : List Row)
    {printed : Bytes} (hfits : (printed ++ rows.flatMap line).length < maxMessageSize) :
    Guarded (Hears fp) (ReportsOther exceeded)
      (appendRows line exceeded rows (.holding printed)) (⟨t, saved⟩, message)
      fun _ _ => True := by
  induction rows generalizing printed message with
  | nil => exact trivial
  | cons row rest ih =>
      rw [List.flatMap_cons, ← List.append_assoc] at hfits
      have hfirst : (printed ++ line row).length < maxMessageSize := by
        rw [List.length_append] at hfits
        omega
      rw [appendRows, appendFormatted_fits hfirst]
      simp only [guarded_bind, guarded_call, guarded_ite, Hears, ReportsOther, SqlAnswers,
        true_and]
      rintro more ⟨_, message'⟩ ⟨-, rfl⟩
      exact ⟨fun _ => heard_setErrmsg fun _ => trivial, fun _ => ih hfits⟩

theorem listingReport_reports {Row : Type} (header : Bytes) {query : Statement (List Row)}
    {rows : List Row} (hrows : query.exec fp t = .ok (rows, t)) (line : Row → Bytes)
    (noRows exceeded : Bytes)
    (hfits : (header ++ rows.flatMap line).length < maxMessageSize) :
    Guarded (Hears fp) (ReportsOther exceeded) (listingReport header query line noRows exceeded)
      (⟨t, saved⟩, message) fun _ _ => True := by
  have hheader : appendFormatted maxMessageSize ⟨[], 0⟩ header = (true, .holding header) := by
    rw [List.length_append] at hfits
    apply @appendFormatted_fits _ []
    rw [List.nil_append]
    omega
  rw [listingReport, hheader]
  simp only [guarded_bind]
  apply heard_executeOrReport hrows (fun _ => trivial)
  intro message'
  cases rows with
  | nil => exact trivial
  | cons first rest => exact appendRows_reports line exceeded (first :: rest) hfits

end rules

/-- No branch reports this text, whatever calls into SQLite fail: a text that
is reported is another one, or it is the message that SQLite holds. -/
def NeverReports {α : Type} (fp : Rounding) (store : Store) (text : Bytes) (p : Db α) : Prop :=
  ∀ env reported w, ⟨Unit, .setError reported, w⟩ ∈ p.performed (sqlite fp) (.start env store) →
    reported = text → w.errmsg = text

theorem neverReports_of_guarded {α : Type} {fp : Rounding} {store : Store} {text : Bytes}
    {p : Db α}
    (h : ∀ message, Guarded (Hears fp) (ReportsOther text) p (store, message) fun _ _ => True) :
    NeverReports fp store text p := by
  intro env reported w hperformed
  have hguarded := h (World.start env store).errmsg
  exact (performed_of_guarded (sqlite fp) (fun w => (w.store, w.errmsg)) (sqlite_hears fp)
    hguarded).1 _ hperformed

end AtmSystem.Model
