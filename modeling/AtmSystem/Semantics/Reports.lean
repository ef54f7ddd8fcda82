import AtmSystem.Model.Reports
import AtmSystem.Semantics.Calls

/-!
Reports append to a buffer, and they read. A piece that fits behind the text of
a buffer is put behind it, and one that does not fit is cut off. `Observes` says
that a program leaves the store as it is, whatever its calls answer; it is
closed under sequencing, so each report observes because its statements do.
-/

namespace AtmSystem.Model

open Library Program

/-! ### Text buffers -/

/-- The width of a column is a minimum. -/
theorem padRight_length (width : Nat) (text : Bytes) :
    (padRight width text).length = max width text.length := by
  rw [padRight, List.length_append, List.length_replicate]
  omega

/-- A buffer whose text is all in use. -/
def TextBuffer.holding (text : Bytes) : TextBuffer := ⟨text, text.length⟩

section text

variable {bufferSize : Nat} {text piece : Bytes}

theorem appendFormatted_fits (h : (text ++ piece).length < bufferSize) :
    appendFormatted bufferSize (.holding text) piece = (true, .holding (text ++ piece)) := by
  rw [List.length_append] at h
  have hfree : ¬ bufferSize ≤ text.length := by omega
  have hroom : ¬ bufferSize - text.length ≤ piece.length := by omega
  have hwhole : piece.take (bufferSize - text.length - 1) = piece :=
    List.take_of_length_le (by omega)
  simp only [appendFormatted, TextBuffer.holding, hfree, hroom, if_false, snprintf, hwhole,
    List.take_length, List.length_append]

theorem appendFormatted_exceeds (htext : text.length < bufferSize)
    (h : bufferSize ≤ (text ++ piece).length) :
    appendFormatted bufferSize (.holding text) piece =
      (false, ⟨(text ++ piece).take (bufferSize - 1), text.length⟩) := by
  rw [List.length_append] at h
  have hfree : ¬ bufferSize ≤ text.length := by omega
  have hroom : bufferSize - text.length ≤ piece.length := by omega
  have hcut : bufferSize - 1 - text.length = bufferSize - text.length - 1 := by omega
  simp only [appendFormatted, TextBuffer.holding, hfree, hroom, if_false, if_true, snprintf,
    List.take_length, List.take_append, hcut, List.take_of_length_le (Nat.le_sub_one_of_lt htext)]

end text

/-! ### Reading -/

structure Observes {α : Type} (fp : Rounding) (faulty : Prop) (p : Db α) : Prop where
  keeps : ∀ s, Always (SqlAnswers fp faulty) p s (fun _ s' => s' = s)

namespace Observes

variable {fp : Rounding} {faulty : Prop} {α β : Type}

theorem pure (a : α) : Observes fp faulty (pure a) := ⟨fun _ => rfl⟩

theorem bind {p : Db α} {next : α → Db β} (hp : Observes fp faulty p)
    (hnext : ∀ a, Observes fp faulty (next a)) : Observes fp faulty (p >>= next) := by
  refine ⟨fun s => ?_⟩
  rw [always_bind]
  apply (hp.keeps s).mono
  rintro a _ rfl
  exact (hnext a).keeps _

theorem setError (text : Bytes) : Observes fp faulty (setError text) := ⟨by simp⟩

theorem setErrmsg : Observes fp faulty setErrmsg := ⟨by simp⟩

theorem readError : Observes fp faulty (call .readError) := ⟨by simp [SqlAnswers]⟩

theorem stepAgain : Observes fp faulty (call .stepAgain) := ⟨by simp [SqlAnswers]⟩

/-- A statement that hands back the tables it was given. -/
theorem execute {statement : Statement β}
    (hread : ∀ t, ∃ answer, statement.exec fp t = .ok (answer, t)) :
    Observes fp faulty (execute statement) := by
  refine ⟨fun ⟨t, rest⟩ => ?_⟩
  obtain ⟨answer, hexec⟩ := hread t
  simp [always_execute, hexec]

theorem executeOrReport {statement : Statement β}
    (hread : ∀ t, ∃ answer, statement.exec fp t = .ok (answer, t)) :
    Observes fp faulty (executeOrReport statement) := by
  apply bind (execute hread)
  intro answer
  cases answer with
  | ok result => exact pure _
  | error code => exact bind setErrmsg fun _ => pure _

theorem dbReadAccount (accountNo : Int) : Observes fp faulty (dbReadAccount accountNo) := by
  refine bind (executeOrReport fun _ => ⟨_, rfl⟩) fun answer => ?_
  rcases answer with _ | _ | row <;> exact pure _

/-- Report an error and stop. -/
theorem refuse (text : Bytes) (a : α) :
    Observes fp faulty (do Model.setError text; return a) :=
  bind (setError text) fun _ => pure a

end Observes

section reports

variable {fp : Rounding} {faulty : Prop}

theorem appendRows_observes {Row : Type} (line : Row → Bytes) (exceeded : Bytes)
    (rows : List Row) (buffer : TextBuffer) :
    Observes fp faulty (appendRows line exceeded rows buffer) := by
  induction rows generalizing buffer with
  | nil => exact .pure _
  | cons row rest ih =>
      simp only [appendRows]
      cases appendFormatted maxMessageSize buffer (line row) with
      | mk fits longer =>
          cases fits with
          | false => exact .refuse _ _
          | true =>
              refine .bind .stepAgain fun more => ?_
              cases more with
              | false => exact .bind .setErrmsg fun _ => .pure _
              | true => exact ih longer

theorem listingReport_observes {Row : Type} (header : Bytes) {query : Statement (List Row)}
    (line : Row → Bytes) (noRows exceeded : Bytes)
    (hread : ∀ t, ∃ answer, query.exec fp t = .ok (answer, t)) :
    Observes fp faulty (listingReport header query line noRows exceeded) := by
  simp only [listingReport]
  cases appendFormatted maxMessageSize ⟨[], 0⟩ header with
  | mk fits buffer =>
      cases fits with
      | false => exact .refuse _ _
      | true =>
          refine .bind (.executeOrReport hread) fun answer => ?_
          rcases answer with _ | _ | ⟨row, rows⟩
          · exact .pure _
          · exact .pure _
          · exact appendRows_observes _ _ _ _

theorem dbGetBalance_observes (accountNo : Int) :
    Observes fp faulty (dbGetBalance accountNo) := by
  refine .bind (.dbReadAccount accountNo) fun answer => ?_
  rcases answer with _ | _ | ⟨info, pinHash, salt⟩
  · exact .pure _
  · exact .refuse _ _
  · exact .pure _

theorem dbBuildMiniStatement_observes (accountNo : Int) :
    Observes fp faulty (dbBuildMiniStatement accountNo) := by
  refine .bind (.dbReadAccount accountNo) fun answer => ?_
  rcases answer with _ | _ | ⟨info, pinHash, salt⟩
  · exact .pure _
  · exact .refuse _ _
  · exact listingReport_observes _ _ _ _ fun _ => ⟨_, rfl⟩

theorem dbBuildMonthlySummary_observes (env : Environment) (accountNo : Int) (month : Bytes) :
    Observes fp faulty (dbBuildMonthlySummary fp env accountNo month) := by
  simp only [dbBuildMonthlySummary]
  cases resolveMonth env month with
  | none => exact .refuse _ _
  | some resolvedMonth =>
      refine .bind (.dbReadAccount accountNo) fun answer => ?_
      rcases answer with _ | _ | ⟨info, pinHash, salt⟩
      · exact .pure _
      · exact .refuse _ _
      · refine .bind (.executeOrReport fun _ => ⟨_, rfl⟩) fun totals => ?_
        cases totals <;> exact .pure _

theorem dbBuildAccountListing_observes : Observes fp faulty dbBuildAccountListing :=
  listingReport_observes _ _ _ _ fun _ => ⟨_, rfl⟩

theorem dbBuildAccountDetails_observes (accountNo : Int) :
    Observes fp faulty (dbBuildAccountDetails accountNo) := by
  refine .bind (.execute fun _ => ⟨_, rfl⟩) fun account => ?_
  rcases account with (_ | _ | _) | _ | row
  · exact .bind .setErrmsg fun _ => .pure _
  · exact .refuse _ _
  · exact .refuse _ _
  · exact .refuse _ _
  · refine .bind (.execute fun _ => ⟨_, rfl⟩) fun latest => ?_
    rcases latest with (_ | _ | _) | _ | ⟨transaction, rows⟩
    · exact .bind .setErrmsg fun _ => .pure _
    all_goals exact .pure _

theorem dbBuildSystemSummary_observes (env : Environment) :
    Observes fp faulty (dbBuildSystemSummary env) := by
  refine .bind (.executeOrReport fun _ => ⟨_, rfl⟩) fun totals => ?_
  cases totals with
  | none => exact .pure _
  | some totals =>
      refine .bind (.execute fun _ => ⟨_, rfl⟩) fun top => ?_
      rcases top with (_ | _ | _) | _ | row
      · exact .bind .setErrmsg fun _ => .pure _
      all_goals exact .pure _

theorem dbBuildRecentTransactions_observes (limit : Int) :
    Observes fp faulty (dbBuildRecentTransactions limit) :=
  listingReport_observes _ _ _ _ fun _ => ⟨_, rfl⟩

end reports

end AtmSystem.Model
