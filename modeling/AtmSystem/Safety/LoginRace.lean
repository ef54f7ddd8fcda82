import AtmSystem.Semantics.Interrupted
import AtmSystem.Bank.Login
import AtmSystem.Bank.Run

/-!
Lockout among server processes. A login reads the counter and the flag in one
statement and writes both back in another, so what other processes have
written in between is overwritten: attempts are lost, and a lock can be lifted
by a login that began before it. As long as no UPDATE of a login overwrites an
attempt or a lock, the third wrong PIN locks the account and a lock stays until
it is lifted.
-/

namespace AtmSystem.Bank

open Library Program Model

/-- What a server is asked to do at the door of an account. -/
inductive Access where
  | login (accountNo pin : Int)
  | lock (accountNo : Int)
  | unlock (accountNo : Int)
  deriving DecidableEq

namespace Access

/-- The function behind it, and whether it returns 1. -/
def program : Access → Db Bool
  | .login accountNo pin => do return (← dbLogin accountNo pin).isSome
  | .lock accountNo => dbLockAccount accountNo
  | .unlock accountNo => dbUnlockAccount accountNo

def accountNo : Access → Int
  | .login n _ | .lock n | .unlock n => n

/-- What follows from the row the SELECT has shown, if there is an UPDATE: the
counter and the flag it stores, and the answer. -/
def outcome (row : Account) : Access → Int × Int × Bool
  | .login _ pin =>
      if PinMatches row pin then (0, 0, true)
      else (row.failedAttempts + 1, if 3 ≤ row.failedAttempts + 1 then 1 else 0, false)
  | .lock _ => (3, 1, true)
  | .unlock _ => (0, 0, true)

/-- The row the SELECT has shown leads to an UPDATE. -/
def Updates (row : Account) : Access → Prop
  | .login _ pin => ValidPin pin ∧ row.isLocked = 0
  | .lock n | .unlock n => 0 < n

/-- The UPDATE that follows from `row` lifts no lock and forgets no attempt that
the row stored by then, `now`, has and `row` has not. -/
def Spares (row now : Account) : Access → Prop
  | .login _ pin =>
      if PinMatches row pin then now.isLocked = 0
      else 3 ≤ row.failedAttempts + 1 ∨
        now.isLocked = 0 ∧ now.failedAttempts ≤ row.failedAttempts
  | .lock _ | .unlock _ => True

instance (row now : Account) : DecidablePred (Spares row now)
  | .login _ pin => inferInstanceAs (Decidable (if PinMatches row pin then now.isLocked = 0
      else 3 ≤ row.failedAttempts + 1 ∨
        now.isLocked = 0 ∧ now.failedAttempts ≤ row.failedAttempts))
  | .lock _ => isTrue trivial
  | .unlock _ => isTrue trivial

/-- How it ends. -/
def Answered (access : Access) (answer : Bool) : Stage → Prop
  | .asking => answer = false ∧ ∀ row, ¬ access.Updates row
  | .told seen => answer = false ∧ seen.1 = access.accountNo ∧ ∀ row ∈ seen.2, ¬ access.Updates row
  | .wrote seen t t' => ∃ row, seen = (access.accountNo, some row) ∧ access.Updates row ∧
      t' = t.setLoginState access.accountNo (access.outcome row).1 (access.outcome row).2.1 ∧
      answer = (access.outcome row).2.2
  | .inside .. | .closed .. | .undone | .broken => False

variable {fp : Rounding}

/-- Locking and unlocking store what they always store. -/
theorem answered_setLock {access : Access} {failedAttempts isLocked : Int}
    (hupdates : ∀ row, access.Updates row ↔ 0 < access.accountNo)
    (houtcome : ∀ row, access.outcome row = (failedAttempts, isLocked, true)) :
    Always (Interrupted fp False) (dbSetLock access.accountNo failedAttempts isLocked) .asking
      access.Answered := by
  have hasking (h : access.accountNo ≤ 0) : access.Answered false .asking :=
    ⟨rfl, fun row hup => absurd ((hupdates row).mp hup) (not_lt.mpr h)⟩
  have hmissing : access.Answered false (.told (access.accountNo, none)) :=
    ⟨rfl, rfl, fun row hrow => by cases hrow⟩
  have hstored (h : ¬ access.accountNo ≤ 0) (row : Account) (t : Tables) : access.Answered true
      (.wrote (access.accountNo, some row) t
        (t.setLoginState access.accountNo failedAttempts isLocked)) := by
    refine ⟨row, rfl, (hupdates row).mpr (not_le.mp h), ?_, ?_⟩
    · rw [houtcome]
    · rw [houtcome]
  simp only [dbSetLock, always_ite, always_bind, always_pure, interrupted_setError,
    interrupted_dbReadAccount, interrupted_updateLoginState]
  exact ⟨hasking, fun h => ⟨False.elim, hmissing, fun row => ⟨False.elim, hstored h row⟩⟩⟩

theorem answered_login (n pin : Int) :
    Always (Interrupted fp False) (Access.login n pin).program .asking
      (Access.login n pin).Answered := by
  have hasking (h : pin < 1000 ∨ 9999 < pin) : (login n pin).Answered false .asking := by
    refine ⟨rfl, fun row hup => ?_⟩
    have hvalid := hup.1
    unfold ValidPin at hvalid
    omega
  have hmissing : (login n pin).Answered false (.told (n, none)) :=
    ⟨rfl, rfl, fun row hrow => by cases hrow⟩
  have hlocked (row : Account) (h : row.isLocked ≠ 0) :
      (login n pin).Answered false (.told (n, some row)) := by
    refine ⟨rfl, rfl, fun row' hrow' hup => ?_⟩
    cases hrow'
    exact h hup.2
  have hupdates (row : Account) (hpin : ¬ (pin < 1000 ∨ 9999 < pin)) (hopen : ¬ row.isLocked ≠ 0) :
      (login n pin).Updates row := by
    refine ⟨?_, not_not.mp hopen⟩
    unfold ValidPin
    omega
  have hopened (row : Account) (hup : (login n pin).Updates row) (hmatch : PinMatches row pin)
      (t : Tables) : (login n pin).Answered true
        (.wrote (n, some row) t (t.setLoginState n 0 0)) := by
    refine ⟨row, rfl, hup, ?_, ?_⟩
    · simp only [outcome, if_pos hmatch, accountNo]
    · simp only [outcome, if_pos hmatch]
  have hstruck (row : Account) (hup : (login n pin).Updates row) (hmismatch : ¬ PinMatches row pin)
      (t : Tables) : (login n pin).Answered false (.wrote (n, some row) t
        (t.setLoginState n (row.failedAttempts + 1)
          (if 3 ≤ row.failedAttempts + 1 then 1 else 0))) := by
    refine ⟨row, rfl, hup, ?_, ?_⟩
    · simp only [outcome, if_neg hmismatch, accountNo]
    · simp only [outcome, if_neg hmismatch]
  simp only [program, dbLogin, always_ite, always_bind, always_pure, interrupted_setError,
    interrupted_dbReadAccount, interrupted_dbUpdateLoginState]
  refine ⟨hasking, fun hpin => ⟨False.elim, hmissing, fun row => ⟨hlocked row, fun hopen => ⟨?_, ?_⟩⟩⟩⟩
  · intro hmismatch
    refine ⟨False.elim, fun t => ⟨(fun h => by cases h), fun _ => ⟨fun _ => ?_, fun _ => ?_⟩⟩⟩
    · exact hstruck row (hupdates row hpin hopen) hmismatch t
    · exact hstruck row (hupdates row hpin hopen) hmismatch t
  · intro hmatch
    refine ⟨False.elim, fun t => ⟨(fun h => by cases h), fun _ => ?_⟩⟩
    exact hopened row (hupdates row hpin hopen) (not_not.mp hmatch) t

theorem answered (access : Access) :
    Always (Interrupted fp False) access.program .asking access.Answered := by
  cases access with
  | login n pin => exact answered_login n pin
  | lock n =>
      change Always _ (dbSetLock (Access.lock n).accountNo 3 1) _ _
      exact answered_setLock (fun _ => Iff.rfl) fun _ => rfl
  | unlock n =>
      change Always _ (dbSetLock (Access.unlock n).accountNo 0 0) _ _
      exact answered_setLock (fun _ => Iff.rfl) fun _ => rfl

end Access

/-! ### What has happened at an account -/

/-- A login with a wrong PIN. -/
def Wrong (t₀ : Tables) (k : Int) : Access × Bool → Prop
  | (.login n pin, _) => n = k ∧ Mismatch t₀ k pin
  | _ => False

instance (t₀ : Tables) (k : Int) : DecidablePred (Wrong t₀ k)
  | (.login n pin, _) => inferInstanceAs (Decidable (n = k ∧ Mismatch t₀ k pin))
  | (.lock _, _) => isFalse id
  | (.unlock _, _) => isFalse id

/-- A successful login or unlock. -/
def Resets (k : Int) : Access × Bool → Prop
  | (.login n _, true) | (.unlock n, true) => n = k
  | _ => False

instance (k : Int) : DecidablePred (Resets k)
  | (.login n _, true) => inferInstanceAs (Decidable (n = k))
  | (.unlock n, true) => inferInstanceAs (Decidable (n = k))
  | (.lock _, true) => isFalse id
  | (.login _ _, false) => isFalse id
  | (.unlock _, false) => isFalse id
  | (.lock _, false) => isFalse id

/-- The row of account `k` shows what has happened: every wrong PIN since the
last reset is counted, and a lock has not been lifted but by an unlock. -/
structure Guards (t₀ : Tables) (k : Int) (finished : List (Access × Bool)) (row : Account) :
    Prop where
  counted : ∀ pre new, finished = pre ++ new → (∀ entry ∈ new, ¬ Resets k entry) →
    row.isLocked ≠ 0 ∨ (new.countP (Wrong t₀ k) : ℤ) ≤ row.failedAttempts ∧
      new.countP (Wrong t₀ k) < 3
  barred : ∀ pre later, finished = pre ++ (.lock k, true) :: later →
    (.unlock k, true) ∉ later → row.isLocked ≠ 0

/-- Where a list that has grown by an entry can be cut. -/
theorem cut_snoc {α : Type} {xs pre new : List α} {x : α} (h : xs ++ [x] = pre ++ new) :
    new = [] ∨ ∃ new', new = new' ++ [x] ∧ xs = pre ++ new' := by
  rcases List.eq_nil_or_concat new with rfl | ⟨new', y, rfl⟩
  · exact .inl rfl
  · rw [List.concat_eq_append, ← List.append_assoc] at h
    obtain ⟨hxs, hx⟩ := List.append_inj' h rfl
    cases hx
    exact .inr ⟨new', List.concat_eq_append, hxs⟩

namespace Guards

variable {t₀ : Tables} {k : Int} {finished : List (Access × Bool)} {row row' : Account}
  {entry : Access × Bool}

theorem initial (h : 0 ≤ row.failedAttempts) : Guards t₀ k [] row where
  counted := by
    intro pre new hcut _
    obtain ⟨-, rfl⟩ := List.append_eq_nil_iff.mp hcut.symm
    exact .inr ⟨h, by simp⟩
  barred := by
    intro pre later hcut
    simp at hcut

/-- A locked account shows everything. -/
theorem of_locked (h : row.isLocked ≠ 0) : Guards t₀ k finished row :=
  ⟨fun _ _ _ _ => .inl h, fun _ _ _ _ => h⟩

/-- An account that is not locked has no lock behind it. -/
theorem not_barred (h : Guards t₀ k finished row) (hopen : row.isLocked = 0)
    {pre later : List (Access × Bool)} (hcut : finished = pre ++ (.lock k, true) :: later) :
    (.unlock k, true) ∈ later := by
  by_contra hnone
  exact h.barred pre later hcut hnone hopen

/-- The counter of an account that is not locked. -/
theorem nonneg (h : Guards t₀ k finished row) (hopen : row.isLocked = 0) :
    0 ≤ row.failedAttempts := by
  have hcounted := h.counted finished [] (List.append_nil _).symm
    (fun _ hmem => by cases hmem)
  exact (hcounted.resolve_left (not_not.mpr hopen)).1

/-- A lock that has happened and the entries behind it. -/
theorem cut_lock {pre later : List (Access × Bool)} (hentry : entry ≠ (.lock k, true))
    (hcut : finished ++ [entry] = pre ++ (.lock k, true) :: later) :
    ∃ later', later = later' ++ [entry] ∧ finished = pre ++ (.lock k, true) :: later' := by
  rcases cut_snoc hcut with hnil | ⟨cut, hcut', hfinished⟩
  · cases hnil
  · cases cut with
    | nil =>
        cases hcut'
        exact absurd rfl hentry
    | cons first later' =>
        cases hcut'
        exact ⟨later', rfl, hfinished⟩

/-- An entry that is no wrong PIN and no lock. -/
theorem other (h : Guards t₀ k finished row) (hwrong : ¬ Wrong t₀ k entry)
    (hentry : entry ≠ (.lock k, true)) : Guards t₀ k (finished ++ [entry]) row where
  counted := by
    intro pre new hcut hnone
    rcases cut_snoc hcut with rfl | ⟨new', rfl, hfinished⟩
    · exact h.counted finished [] (List.append_nil _).symm hnone
    · have hcount : (new' ++ [entry]).countP (Wrong t₀ k) = new'.countP (Wrong t₀ k) := by
        rw [List.countP_append, List.countP_singleton]
        simp [hwrong]
      rw [hcount]
      exact h.counted pre new' hfinished fun e hmem => hnone e (List.mem_append_left _ hmem)
  barred := by
    intro pre later hcut hnone
    obtain ⟨later', rfl, hfinished⟩ := cut_lock hentry hcut
    exact h.barred pre later' hfinished fun hmem => hnone (List.mem_append_left _ hmem)

/-- A wrong PIN is counted. -/
theorem struck (h : Guards t₀ k finished row) (hopen : row.isLocked = 0)
    (hfailed : row.failedAttempts < row'.failedAttempts)
    (hthird : 3 ≤ row'.failedAttempts → row'.isLocked ≠ 0) (hentry : entry ≠ (.lock k, true)) :
    Guards t₀ k (finished ++ [entry]) row' where
  counted := by
    intro pre new hcut hnone
    have hnonneg := h.nonneg hopen
    rcases cut_snoc hcut with rfl | ⟨new', rfl, hfinished⟩
    · right
      simp only [List.countP_nil, Nat.cast_zero]
      omega
    · have hcounted := (h.counted pre new' hfinished
        fun e hmem => hnone e (List.mem_append_left _ hmem)).resolve_left (not_not.mpr hopen)
      have hcount : (new' ++ [entry]).countP (Wrong t₀ k) ≤ new'.countP (Wrong t₀ k) + 1 := by
        rw [List.countP_append, List.countP_singleton]
        split <;> omega
      by_cases hlocked : 3 ≤ row'.failedAttempts
      · exact .inl (hthird hlocked)
      · right
        omega
  barred := by
    intro pre later hcut hnone
    obtain ⟨later', rfl, hfinished⟩ := cut_lock hentry hcut
    exact absurd (List.mem_append_left _ (h.not_barred hopen hfinished)) hnone

/-- A successful login on an open account, or an unlock. -/
theorem reset (h : Guards t₀ k finished row) (hnonneg : 0 ≤ row'.failedAttempts)
    (hresets : Resets k entry) (hlifted : row.isLocked = 0 ∨ entry = (.unlock k, true)) :
    Guards t₀ k (finished ++ [entry]) row' where
  counted := by
    intro pre new hcut hnone
    rcases cut_snoc hcut with rfl | ⟨new', rfl, -⟩
    · exact .inr ⟨hnonneg, by simp⟩
    · exact absurd hresets (hnone entry (by simp))
  barred := by
    intro pre later hcut hnone
    have hentry : entry ≠ (.lock k, true) := by
      rintro rfl
      exact hresets
    obtain ⟨later', rfl, hfinished⟩ := cut_lock hentry hcut
    rcases hlifted with hopen | rfl
    · exact absurd (List.mem_append_left _ (h.not_barred hopen hfinished)) hnone
    · exact absurd (by simp) hnone

end Guards

/-- All accounts show what has happened, and those that were locked exist. -/
structure Guarded (t₀ t : Tables) (finished : List (Access × Bool)) : Prop where
  accounts : ∀ k, (t.accounts.lookup k).isSome = (t₀.accounts.lookup k).isSome
  guards : ∀ k row, t.accounts.lookup k = some row → Guards t₀ k finished row
  known : ∀ k, (.lock k, true) ∈ finished → ∃ row, t.accounts.lookup k = some row

namespace Guarded

variable {t₀ t : Tables} {finished : List (Access × Bool)} {access : Access} {row now : Account}

/-- An access that changes nothing, since the row it was shown does not lead
to an UPDATE. -/
theorem unchanged (h : Guarded t₀ t finished)
    (hkept : ∀ row ∈ t.accounts.lookup access.accountNo, ¬ access.Updates row) :
    Guarded t₀ t (finished ++ [(access, false)]) where
  accounts := h.accounts
  guards := by
    intro k row hrow
    have hnolock : (access, false) ≠ (.lock k, true) := fun heq => by cases heq
    by_cases hwrong : Wrong t₀ k (access, false)
    · cases access with
      | login n pin =>
          obtain ⟨rfl, hmismatch⟩ := hwrong
          apply Guards.of_locked
          intro hopen
          exact hkept row hrow ⟨hmismatch.1, hopen⟩
      | lock n => exact hwrong.elim
      | unlock n => exact hwrong.elim
    · exact (h.guards k row hrow).other hwrong hnolock
  known := by
    intro k hmem
    rcases List.mem_append.mp hmem with hold | hnew
    · exact h.known k hold
    · cases List.mem_singleton.mp hnew

/-- The entry of an access to another account. -/
theorem other_account {k : Int} {answer : Bool} (hk : k ≠ access.accountNo)
    (h : Guards t₀ k finished row) : Guards t₀ k (finished ++ [(access, answer)]) row := by
  apply h.other
  · intro hwrong
    cases access with
    | login n pin => exact hk hwrong.1.symm
    | lock n => exact hwrong
    | unlock n => exact hwrong
  · intro heq
    cases heq
    exact hk rfl

/-- The row an UPDATE leaves. -/
theorem outcome_guards (hnow : Guards t₀ access.accountNo finished now)
    (hspares : access.Spares row now) :
    Guards t₀ access.accountNo (finished ++ [(access, (access.outcome row).2.2)])
      { now with failedAttempts := (access.outcome row).1,
                 isLocked := (access.outcome row).2.1 } := by
  cases access with
  | lock n => exact Guards.of_locked (by simp [Access.outcome])
  | unlock n => exact hnow.reset (by simp [Access.outcome]) rfl (.inr rfl)
  | login n pin =>
      by_cases hmatch : PinMatches row pin
      · simp only [Access.Spares, hmatch, if_true] at hspares
        simp only [Access.outcome, hmatch, if_true]
        exact hnow.reset le_rfl rfl (.inl hspares)
      · simp only [Access.Spares, hmatch, if_false] at hspares
        simp only [Access.outcome, hmatch, if_false]
        rcases hspares with hthird | ⟨hopen, hfew⟩
        · apply Guards.of_locked
          simp only [hthird, if_true]
          decide
        · apply hnow.struck hopen
          · exact Int.lt_add_one_of_le hfew
          · intro hthird
            simp only [hthird, if_true]
            decide
          · intro heq
            cases heq

/-- An access whose UPDATE has run. -/
theorem updated (h : Guarded t₀ t finished) (hnow : t.accounts.lookup access.accountNo = some now)
    (hspares : access.Spares row now) :
    Guarded t₀ (t.setLoginState access.accountNo (access.outcome row).1 (access.outcome row).2.1)
      (finished ++ [(access, (access.outcome row).2.2)]) where
  accounts := by
    intro k
    rw [← h.accounts k, Tables.lookup_setLoginState]
    split
    · rename_i hk
      rw [hk, hnow]
      rfl
    · rfl
  guards := by
    intro k found hfound
    rw [Tables.lookup_setLoginState, hnow] at hfound
    split at hfound
    · rename_i hk
      subst hk
      cases hfound
      exact outcome_guards (h.guards _ now hnow) hspares
    · rename_i hk
      exact other_account hk (h.guards k found hfound)
  known := by
    intro k hmem
    rw [Tables.lookup_setLoginState, hnow]
    split
    · exact ⟨_, rfl⟩
    · rename_i hk
      rcases List.mem_append.mp hmem with hold | hnew
      · exact h.known k hold
      · cases List.mem_singleton.mp hnew
        exact absurd rfl hk

end Guarded

/-! ### Processes -/

/-- A call of an access behind its SELECT, which is its UPDATE, overwrites no
lock and no attempt. -/
def NothingOverwritten (s : System SqlOp Shared Access Bool) (p : ℕ) (_ : Call SqlOp) : Prop :=
  ∀ task ∈ s.tasks p, ∀ seen ∈ seenIn task.heard, ∀ row ∈ seen.2,
    ∀ now ∈ s.shared.committed.accounts.lookup seen.1, task.job.Spares row now

instance (s : System SqlOp Shared Access Bool) (p : ℕ) : DecidablePred (NothingOverwritten s p) :=
  fun _ => inferInstanceAs (Decidable (∀ task ∈ s.tasks p, ∀ seen ∈ seenIn task.heard,
    ∀ row ∈ seen.2, ∀ now ∈ s.shared.committed.accounts.lookup seen.1, task.job.Spares row now))

/-- Servers that run logins, locks and unlocks on one file. -/
abbrev doors (fp : Rounding) : Processes SqlOp Shared Access Bool :=
  connections fp False Access.program

/-- The file as the accesses that have ended leave it; nobody is ever in a
transaction. -/
def DoorsGuarded (t₀ : Tables) (s : Shared) (finished : List (Access × Bool)) : Prop :=
  s.writer = none ∧ Guarded t₀ s.committed finished

/-- Where an access stands between its calls. -/
inductive AtDoor (fp : Rounding) (t₀ : Tables) : Option (Task SqlOp Access Bool) → Prop where
  | idle : AtDoor fp t₀ none
  | asking {task : Task SqlOp Access Bool} (hunread : seenIn task.heard = none)
      (hrest : Always (Interrupted fp False) task.rest .asking task.job.Answered) :
      AtDoor fp t₀ (some task)
  | told {task : Task SqlOp Access Bool} {seen : Reading} (hread : seenIn task.heard = some seen)
      (hexists : seen.2.isSome → (t₀.accounts.lookup seen.1).isSome)
      (hrest : Always (Interrupted fp False) task.rest (.told seen) task.job.Answered) :
      AtDoor fp t₀ (some task)

section step

variable {fp : Rounding} {p : ℕ} {t₀ t : Tables} {access : Access} {rest : Db Bool}
  {finished : List (Access × Bool)} {heard : List (Call SqlOp)}

theorem not_blocked (t : Tables) (p : ℕ) (h : Shared.Blocked ⟨t, none⟩ p) : False := by
  obtain ⟨writer, hwriter, -⟩ := h
  cases hwriter

theorem not_answered (access : Access) (answer : Bool) {s : Stage} (hs : s.InTransaction) :
    ¬ access.Answered answer s := by
  cases s <;> first | exact hs.elim | exact id

/-- An access that has only looked. -/
theorem door_looked {s : Stage} (hguarded : Guarded t₀ t finished)
    (hstage : s = .asking ∨ s = .told (access.accountNo, t.accounts.lookup access.accountNo))
    (h : access.Answered false s) : Guarded t₀ t (finished ++ [(access, false)]) := by
  apply hguarded.unchanged
  intro row hrow
  rcases hstage with rfl | rfl
  · exact h.2 row
  · exact h.2.2 row hrow

/-- An access that starts. -/
theorem door_starts (hguarded : Guarded t₀ t finished)
    (hrest : Proceeds SqlOp.isQuiet (Connected fp False p) ⟨t, none⟩ access.program rest) :
    Guarded t₀ t (finished ++ (Task.mk access [] rest).ended) ∧
      AtDoor fp t₀ (Task.mk access [] rest).left := by
  have hends := interrupted_proceeds (not_blocked t p) access.answered hrest
  cases rest with
  | done answer =>
      obtain ⟨rfl, -⟩ := id hends
      exact ⟨door_looked hguarded (.inl rfl) hends, .idle⟩
  | perform op k =>
      refine ⟨?_, .asking rfl hends⟩
      rw [Task.ended, List.append_nil]
      exact hguarded

/-- The SELECT of an access. -/
theorem door_asks {β : Type} {op : SqlOp β} {cont : β → Db Bool} {answer : β} {s' : Shared}
    (hguarded : Guarded t₀ t finished) (hunread : seenIn heard = none)
    (h : Always (Interrupted fp False) (.perform op cont) .asking access.Answered)
    (hnoticed : SqlOp.isQuiet β op = false)
    (hanswer : Connected fp False p β op ⟨t, none⟩ answer s')
    (hrest : Proceeds SqlOp.isQuiet (Connected fp False p) s' (cont answer) rest) :
    s' = ⟨t, none⟩ ∧ Guarded t₀ t (finished ++ (Task.mk access (heard ++ [⟨op, answer⟩]) rest).ended) ∧
      AtDoor fp t₀ (Task.mk access (heard ++ [⟨op, answer⟩]) rest).left := by
  have hmisplaced {P : Prop} (hop : ∀ answer, Interrupted fp False β op .asking answer .broken) :
      P := absurd h (not_interrupted_misplaced (fun answer => not_answered access answer trivial) hop)
  induction β, op, hnoticed using SqlOp.noticed_cases with
  | begin => exact hmisplaced fun _ => rfl
  | commit => exact hmisplaced fun _ => rfl
  | rollback => exact hmisplaced fun _ => rfl
  | stepAgain => exact hmisplaced fun _ => rfl
  | step β statement =>
      obtain ⟨store, ⟨hfalse, -⟩ | hrun, rfl⟩ := connected_of_free.mp hanswer
      · exact hfalse.elim
      cases statement with
      | selectAccount n =>
          obtain ⟨rfl, rfl⟩ := hrun
          have htold := interrupted_proceeds (not_blocked t p)
            (h _ (.told (n, t.accounts.lookup n)) ⟨.inl rfl, rfl⟩) hrest
          refine ⟨rfl, ?_⟩
          cases rest with
          | done answer =>
              obtain ⟨rfl, hn, -⟩ := id htold
              obtain rfl : n = access.accountNo := hn
              exact ⟨door_looked hguarded (.inr rfl) htold, .idle⟩
          | perform op k =>
              refine ⟨?_, .told ((seenIn_snoc hunread _).trans rfl) ?_ htold⟩
              · rw [Task.ended, List.append_nil]
                exact hguarded
              · intro hsome
                rw [← hguarded.accounts n]
                exact hsome
      | _ =>
          have hbroken := h answer _ ⟨.inr (.inr rfl), rfl⟩
          exact absurd hbroken
            (not_interrupted_broken fun answer => not_answered access answer trivial)

/-- The UPDATE of an access. -/
theorem door_writes {β : Type} {op : SqlOp β} {cont : β → Db Bool} {answer : β} {s' : Shared}
    {seen : Reading} (hguarded : Guarded t₀ t finished)
    (hexists : seen.2.isSome → (t₀.accounts.lookup seen.1).isSome)
    (h : Always (Interrupted fp False) (.perform op cont) (.told seen) access.Answered)
    (hnoticed : SqlOp.isQuiet β op = false)
    (hanswer : Connected fp False p β op ⟨t, none⟩ answer s')
    (hspares : ∀ row ∈ seen.2, ∀ now ∈ t.accounts.lookup seen.1, access.Spares row now)
    (hrest : Proceeds SqlOp.isQuiet (Connected fp False p) s' (cont answer) rest) :
    DoorsGuarded t₀ s' (finished ++ (Task.mk access (heard ++ [⟨op, answer⟩]) rest).ended) ∧
      AtDoor fp t₀ (Task.mk access (heard ++ [⟨op, answer⟩]) rest).left := by
  have hmisplaced {P : Prop} (hop : ∀ answer, Interrupted fp False β op (.told seen) answer .broken) :
      P := absurd h (not_interrupted_misplaced (fun answer => not_answered access answer trivial) hop)
  induction β, op, hnoticed using SqlOp.noticed_cases with
  | commit => exact hmisplaced fun _ => rfl
  | rollback => exact hmisplaced fun _ => rfl
  | stepAgain => exact hmisplaced fun _ => rfl
  | begin =>
      -- an access uses no transaction
      have hinside := h (.ok ()) _ (.inl ⟨rfl, t, rfl⟩)
      exact absurd hinside (not_interrupted_inside
        (fun answer s hs => not_answered access answer hs) trivial)
  | step β statement =>
      obtain ⟨store, hstore, rfl⟩ := connected_of_free.mp hanswer
      have hgoes := h answer _ ⟨t, store, hstore, rfl⟩
      obtain ⟨t', rfl, -⟩ := hstore.step_cases
      have hpost (answer : Bool) : ¬ access.Answered answer .broken :=
        not_answered access answer trivial
      cases answer with
      | error code =>
          have hfinal : Stage.Final .undone := trivial
          obtain ⟨answer, -, hends⟩ := done_of_final hpost (not_blocked t' p) hfinal hgoes hrest
          exact hends.elim
      | ok result =>
          have hfinal : Stage.Final (.wrote seen t t') := trivial
          obtain ⟨answer, rfl, row, rfl, -, rfl, rfl⟩ :=
            done_of_final hpost (not_blocked t' p) hfinal hgoes hrest
          obtain ⟨now, hnow⟩ : ∃ now, t.accounts.lookup access.accountNo = some now := by
            rw [← Option.isSome_iff_exists, hguarded.accounts]
            exact hexists rfl
          exact ⟨⟨rfl, hguarded.updated hnow (hspares row rfl now hnow)⟩, .idle⟩

end step

/-! ### Interleavings -/

section interleavings

variable {fp : Rounding} {t₀ : Tables} {s : System SqlOp Shared Access Bool}

/-- The account exists and is locked. -/
def Locked (t : Tables) (k : Int) : Prop := ∃ row, t.accounts.lookup k = some row ∧ row.isLocked ≠ 0

theorem guarded_of_reached (hnonneg : ∀ row ∈ t₀.accounts.rows, 0 ≤ row.failedAttempts)
    (h : Reached (doors fp) (fun _ => True) NothingOverwritten (.idle ⟨t₀, none⟩) s) :
    Guarded t₀ s.shared.committed s.finished := by
  have hinitial : Holds (DoorsGuarded t₀) (fun _ _ => AtDoor fp t₀)
      (.idle ⟨t₀, none⟩ : System SqlOp Shared Access Bool) := by
    refine ⟨⟨rfl, fun _ => rfl, fun k row hrow => ?_, fun k hmem => by cases hmem⟩, fun _ => .idle⟩
    exact .initial (hnonneg row (KeyedTable.lookup_mem hrow))
  refine (h.holds ?_ ?_ hinitial).global.2
  · intro s p access rest hs _ _ hrest
    obtain ⟨⟨committed, writer⟩, tasks, finished⟩ := s
    obtain ⟨hwriter, hguarded⟩ := hs.global
    obtain rfl : writer = none := hwriter
    obtain ⟨hglobal, hown⟩ := door_starts hguarded hrest
    exact ⟨⟨rfl, hglobal⟩, hown, fun _ _ _ hkept => hkept⟩
  · intro s p task β op k answer shared rest hs htask hop hnoticed hanswer hallowed hrest
    obtain ⟨⟨committed, writer⟩, tasks, finished⟩ := s
    obtain ⟨hwriter, hguarded⟩ := hs.global
    obtain rfl : writer = none := hwriter
    obtain ⟨access, heard, whole⟩ := task
    obtain rfl : whole = .perform op k := hop
    have hown := hs.each p
    rw [htask] at hown
    cases hown with
    | asking hunread hpending =>
        obtain ⟨rfl, hglobal, hown⟩ := door_asks hguarded hunread hpending hnoticed hanswer hrest
        exact ⟨⟨rfl, hglobal⟩, hown, fun _ _ _ hkept => hkept⟩
    | @told _ seen hread hexists hpending =>
        have hspares := hallowed _ htask seen hread
        obtain ⟨hglobal, hown⟩ := door_writes hguarded hexists hpending hnoticed hanswer hspares
          hrest
        exact ⟨hglobal, hown, fun _ _ _ hkept => hkept⟩

/-- A wrong PIN is one of an account that exists. -/
theorem wrong_exists {k : Int} {entry : Access × Bool} (h : Wrong t₀ k entry) :
    ∃ pin, Mismatch t₀ k pin := by
  obtain ⟨access, answer⟩ := entry
  cases access with
  | login n pin => exact ⟨pin, h.2⟩
  | lock n => exact h.elim
  | unlock n => exact h.elim

/-- Any number of servers run logins, locks and unlocks on one file, their
statements interleaved in any order. In every run in which no UPDATE of a login
overwrites a lock or an attempt, an account is locked once three logins with a
wrong PIN have ended and none has succeeded since and no unlock has, and it is
locked from a lock on until an unlock. -/
theorem lockout_across_servers (hnonneg : ∀ row ∈ t₀.accounts.rows, 0 ≤ row.failedAttempts)
    (h : Reached (doors fp) (fun _ => True) NothingOverwritten (.idle ⟨t₀, none⟩) s) (k : Int) :
    (∀ pre new, s.finished = pre ++ new → (∀ entry ∈ new, ¬ Resets k entry) →
      3 ≤ new.countP (Wrong t₀ k) → Locked s.shared.committed k) ∧
    ∀ pre later, s.finished = pre ++ (.lock k, true) :: later → (.unlock k, true) ∉ later →
      Locked s.shared.committed k := by
  have hguarded := guarded_of_reached hnonneg h
  constructor
  · intro pre new hcut hnone hthree
    have hpos : 0 < new.countP (Wrong t₀ k) := by omega
    obtain ⟨entry, -, hwrong⟩ := List.countP_pos_iff.mp hpos
    obtain ⟨row, hrow⟩ : ∃ row, s.shared.committed.accounts.lookup k = some row := by
      obtain ⟨pin, -, known, hknown, -⟩ := wrong_exists (of_decide_eq_true hwrong)
      rw [← Option.isSome_iff_exists, hguarded.accounts, hknown, Option.isSome_some]
    refine ⟨row, hrow, ?_⟩
    rcases (hguarded.guards k row hrow).counted pre new hcut hnone with hlocked | ⟨-, hfew⟩
    · exact hlocked
    · omega
  · intro pre later hcut hnone
    obtain ⟨row, hrow⟩ := hguarded.known k (by rw [hcut]; simp)
    exact ⟨row, hrow, (hguarded.guards k row hrow).barred pre later hcut hnone⟩

end interleavings

/-- A file with Ada's account, whose PIN is 1234. -/
def adasFile : Tables :=
  Tables.empty.insertAccount
    (newAccount 7 (ascii "Ada") 1234 (plain "").env.salt (plain "").env.timestamp)

/-- Two servers in turn are asked for logins with a wrong PIN. -/
def oneByOne : List (Move Access) :=
  [.start 0 (.login 7 1111), .call 0, .start 1 (.login 7 2222), .call 0, .call 1, .call 1,
    .start 0 (.login 7 3333), .call 0, .call 0]

theorem lockout_across_servers_oneByOne :
    let s := playAll .exact Access.program (fun _ => True) NothingOverwritten
      (.idle ⟨adasFile, none⟩) oneByOne
    s.finished = [(.login 7 1111, false), (.login 7 2222, false), (.login 7 3333, false)] ∧
      Locked s.shared.committed 7 := by
  intro s
  have hfinished : s.finished =
      [(.login 7 1111, false), (.login 7 2222, false), (.login 7 3333, false)] := by decide +kernel
  have hreached : Reached (doors .exact) (fun _ => True) NothingOverwritten _ s :=
    reached_playAll False _ _
  refine ⟨hfinished, ?_⟩
  clear_value s
  exact (lockout_across_servers (by decide +kernel) hreached 7).1 [] _ hfinished (by decide)
    (by decide +kernel)

theorem not_locked {t : Tables} {k : Int}
    (h : (t.accounts.lookup k).map Account.isLocked = some 0) : ¬ Locked t k := by
  rintro ⟨row, hrow, hlocked⟩
  rw [hrow] at h
  exact hlocked (Option.some.inj h)

/-- Two logins with a wrong PIN read the same counter; a third one follows. -/
def sameCounter : List (Move Access) :=
  [.start 0 (.login 7 1111), .start 1 (.login 7 2222), .call 0, .call 1, .call 0, .call 1,
    .start 0 (.login 7 3333), .call 0, .call 0]

/-- A login with the right PIN is under way while an admin locks the account. -/
def lockDuringLogin : List (Move Access) :=
  [.start 0 (.login 7 1234), .call 0, .start 1 (.lock 7), .call 1, .call 1, .call 0]

/-- Where a schedule of the two servers leads from Ada's file. -/
def doorsAfter (schedule : List (Move Access)) : System SqlOp Shared Access Bool :=
  playAll .exact Access.program (fun _ => True) (fun _ _ _ => True) (.idle ⟨adasFile, none⟩) schedule

/-- Three wrong PINs leave the account open, and a login lifts a lock that has
returned 1 before it. -/
theorem strike_lost_and_lock_lifted :
    (∃ s, Reached (doors .exact) (fun _ => True) (fun _ _ _ => True) (.idle ⟨adasFile, none⟩) s ∧
      s.finished = [(.login 7 1111, false), (.login 7 2222, false), (.login 7 3333, false)] ∧
      s.finished.countP (Wrong adasFile 7) = 3 ∧ ¬ Locked s.shared.committed 7) ∧
    ∃ s, Reached (doors .exact) (fun _ => True) (fun _ _ _ => True) (.idle ⟨adasFile, none⟩) s ∧
      s.finished = [(.lock 7, true), (.login 7 1234, true)] ∧ ¬ Locked s.shared.committed 7 := by
  constructor
  · have hleft : ((doorsAfter sameCounter).finished =
          [(.login 7 1111, false), (.login 7 2222, false), (.login 7 3333, false)] ∧
        (doorsAfter sameCounter).finished.countP (Wrong adasFile 7) = 3) ∧
        ((doorsAfter sameCounter).shared.committed.accounts.lookup 7).map Account.isLocked =
          some 0 := by decide +kernel
    exact ⟨doorsAfter sameCounter, reached_playAll False _ _, hleft.1.1, hleft.1.2,
      not_locked hleft.2⟩
  · have hleft : (doorsAfter lockDuringLogin).finished = [(.lock 7, true), (.login 7 1234, true)] ∧
        ((doorsAfter lockDuringLogin).shared.committed.accounts.lookup 7).map Account.isLocked =
          some 0 := by decide +kernel
    exact ⟨doorsAfter lockDuringLogin, reached_playAll False _ _, hleft.1, not_locked hleft.2⟩

end AtmSystem.Bank
