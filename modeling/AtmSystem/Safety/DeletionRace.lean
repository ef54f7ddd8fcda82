import AtmSystem.Semantics.Interrupted
import AtmSystem.Safety.Conservation
import AtmSystem.Safety.Serializable

/-!
Deletion among other processes. `db_delete_account` reads the balance before it
begins its transaction and does not look again, so money that another process
commits between the two is destroyed with the account. As long as nobody
changes the balance in that gap, a deletion only ever removes empty accounts.
-/

namespace AtmSystem.Bank

open Library Program Model

/-- How a deletion ends: it has closed the account it read as empty, or changed
nothing. -/
def DeletionEnds (accountNo : Int) (answer : Bool) : Stage → Prop
  | .closed seen t t' => answer = true ∧ t' = close t accountNo ∧ seen.1 = accountNo ∧
      ∃ row ∈ seen.2, row.balance = 0
  | .asking | .told _ | .undone => answer = false
  | .inside .. | .wrote .. | .broken => False

section deletion

variable {fp : Rounding} {accountNo : Int}

/-- Behind the deletion of its rows no transaction names the account. -/
theorem no_entry_left (t : Tables) (accountNo : Int) :
    ¬ ∃ r ∈ ((t.setRelated none accountNo).deleteTransactions accountNo).transactions.rows,
      r.accountNo = accountNo := by
  rintro ⟨r, hr, hno⟩
  simpa [hno] using (List.mem_filter.mp hr).2

theorem dbDeleteAccount_interrupted (accountNo : Int) :
    Always (Interrupted fp True) (dbDeleteAccount accountNo) .asking (DeletionEnds accountNo) := by
  simp only [dbDeleteAccount, always_ite, always_bind, always_pure, interrupted_setError,
    interrupted_dbReadAccount, interrupted_dbBeginTransaction, interrupted_executeOrRollback,
    Statement.exec, interrupted_dbCommitTransaction, interrupted_dbRollbackTransaction]
  have hclosed (t : Tables) := no_entry_left t accountNo
  simp +contextual [DeletionEnds, hclosed, close]

end deletion

/-! ### Processes -/

/-- What a server is asked to do: one of the operations, or a deletion. -/
inductive Errand where
  | operation (job : Job)
  | delete (accountNo : Int)

def Errand.program (fp : Rounding) : Errand → Db Bool
  | .operation job => job.program fp
  | .delete accountNo => dbDeleteAccount accountNo

/-- The account an errand is to delete. -/
def Errand.deletes : Errand → Option Int
  | .operation _ => none
  | .delete accountNo => some accountNo

theorem Errand.eq_delete {errand : Errand} {accountNo : Int}
    (h : errand.deletes = some accountNo) : errand = .delete accountNo := by
  cases errand with
  | operation job => cases h
  | delete n =>
      cases h
      rfl

/-- The call takes the write lock. -/
def takesLock : Call SqlOp → Bool
  | ⟨.begin, .ok ()⟩ => true
  | _ => false

/-- When a deletion takes the write lock, the account, if it exists, has the
balance that the deletion has read. -/
def BalanceCurrent (s : System SqlOp Shared Errand Bool) (p : ℕ) (call : Call SqlOp) : Prop :=
  ∀ task ∈ s.tasks p, task.job.deletes.isSome → takesLock call = true →
    ∀ seen ∈ seenIn task.heard, ∀ row ∈ seen.2,
      ∀ now ∈ s.shared.committed.accounts.lookup seen.1, now.balance = row.balance

instance (s : System SqlOp Shared Errand Bool) (p : ℕ) : DecidablePred (BalanceCurrent s p) :=
  fun call => inferInstanceAs (Decidable (∀ task ∈ s.tasks p, task.job.deletes.isSome →
    takesLock call = true → ∀ seen ∈ seenIn task.heard, ∀ row ∈ seen.2,
      ∀ now ∈ s.shared.committed.accounts.lookup seen.1, now.balance = row.balance))

section step

variable {fp : Rounding} {p : ℕ} {s s' : Shared} {accountNo : Int} {heard : List (Call SqlOp)}
  {rest : Db Bool}

/-- Where a deletion stands between its calls. -/
inductive AtDeletion (fp : Rounding) (p : ℕ) (s : Shared) (accountNo : Int)
    (heard : List (Call SqlOp)) (rest : Db Bool) : Prop where
  | asking (hunread : seenIn heard = none)
      (hrest : Always (Interrupted fp True) rest .asking (DeletionEnds accountNo))
  | told {seen : Reading} (hread : seenIn heard = some seen)
      (hrest : Always (Interrupted fp True) rest (.told seen) (DeletionEnds accountNo))
  | inside {seen : Reading} {work : Tables} (hread : seenIn heard = some seen)
      (hwriter : s.writer = some (p, work))
      (hcurrent : ∀ row ∈ seen.2, ∀ now ∈ s.committed.accounts.lookup seen.1,
        now.balance = row.balance)
      (hrest : Always (Interrupted fp True) rest (.inside seen s.committed work)
        (DeletionEnds accountNo))

/-- The deletion has removed an empty account, or no account at all. -/
def ClosesEmpty (s s' : Shared) (accountNo : Int) : Prop :=
  s'.committed = s.committed ∨ s'.committed = close s.committed accountNo ∧
    ∀ now ∈ s.committed.accounts.lookup accountNo, now.balance = 0

/-- A deletion whose work is done stands nowhere any more. -/
theorem deletion_done {stage : Stage} (hfinal : stage.Final) {cont : Db Bool}
    (h : Always (Interrupted fp True) cont stage (DeletionEnds accountNo))
    (hrest : Proceeds SqlOp.isQuiet (Connected fp True p) s' cont rest) :
    ∃ answer, rest = .done answer ∧ DeletionEnds accountNo answer stage :=
  done_of_final (fun _ hbroken => hbroken) (fun _ => trivial) hfinal h hrest

theorem deletion_misplaced {β : Type} {op : SqlOp β} {k : β → Db Bool} {stage : Stage}
    (h : Always (Interrupted fp True) (.perform op k) stage (DeletionEnds accountNo))
    (hop : ∀ answer, Interrupted fp True β op stage answer .broken) : False :=
  not_interrupted_misplaced (fun _ hbroken => hbroken) hop h

/-- The SELECT of a deletion. -/
theorem deletion_asks {β : Type} {op : SqlOp β} {cont : β → Db Bool} {answer : β}
    (hunread : seenIn heard = none)
    (h : Always (Interrupted fp True) (.perform op cont) .asking (DeletionEnds accountNo))
    (hnoticed : SqlOp.isQuiet β op = false) (hanswer : Connected fp True p β op s answer s')
    (hrest : Proceeds SqlOp.isQuiet (Connected fp True p) s' (cont answer) rest) :
    s' = s ∧ ((∃ answer, rest = .done answer) ∨
      AtDeletion fp p s' accountNo (heard ++ [⟨op, answer⟩]) rest) := by
  induction β, op, hnoticed using SqlOp.noticed_cases with
  | begin => exact (deletion_misplaced h fun _ => rfl).elim
  | commit => exact (deletion_misplaced h fun _ => rfl).elim
  | rollback => exact (deletion_misplaced h fun _ => rfl).elim
  | stepAgain => exact (deletion_misplaced h fun _ => rfl).elim
  | step β statement =>
      have hgoes := h answer _ ⟨.inr (.inl trivial), rfl⟩
      cases statement with
      | selectAccount n =>
          obtain ⟨t', hanswers, hsame⟩ := hanswer.step_cases
          have hkept : s' = s := by
            apply hsame
            rcases hanswers with ⟨-, -, hleft⟩ | ⟨-, hleft⟩
            · exact congrArg Store.tables hleft
            · exact congrArg Store.tables hleft
          refine ⟨hkept, ?_⟩
          cases answer with
          | ok row =>
              right
              apply AtDeletion.told ((seenIn_snoc hunread _).trans rfl)
              exact interrupted_proceeds (fun _ => trivial) hgoes hrest
          | error code =>
              have hfinal : Stage.Final .undone := trivial
              obtain ⟨answer, hdone, -⟩ := deletion_done hfinal hgoes hrest
              exact .inl ⟨answer, hdone⟩
      | _ => exact (not_interrupted_broken (fun _ hbroken => hbroken) hgoes).elim

/-- Behind the SELECT a deletion can only begin. -/
theorem deletion_begins {β : Type} {op : SqlOp β} {cont : β → Db Bool} {answer : β}
    {seen : Reading} (hread : seenIn heard = some seen)
    (h : Always (Interrupted fp True) (.perform op cont) (.told seen) (DeletionEnds accountNo))
    (hnoticed : SqlOp.isQuiet β op = false) (hanswer : Connected fp True p β op s answer s')
    (hcurrent : takesLock ⟨op, answer⟩ = true → ∀ row ∈ seen.2,
      ∀ now ∈ s.committed.accounts.lookup seen.1, now.balance = row.balance)
    (hrest : Proceeds SqlOp.isQuiet (Connected fp True p) s' (cont answer) rest) :
    s'.committed = s.committed ∧ ((∃ answer, rest = .done answer) ∨
      AtDeletion fp p s' accountNo (heard ++ [⟨op, answer⟩]) rest) := by
  have hread' := seenIn_append hread ⟨op, answer⟩
  induction β, op, hnoticed using SqlOp.noticed_cases with
  | commit => exact (deletion_misplaced h fun _ => rfl).elim
  | rollback => exact (deletion_misplaced h fun _ => rfl).elim
  | stepAgain => exact (deletion_misplaced h fun _ => rfl).elim
  | begin =>
      rcases hanswer.begin_cases with ⟨hok, rfl⟩ | ⟨hfailed, rfl⟩
      · refine ⟨rfl, .inr (.inside hread' rfl ?_ ?_)⟩
        · apply hcurrent
          cases answer with
          | ok => rfl
          | error message => cases hok
        · exact interrupted_proceeds (fun _ => trivial)
            (h answer _ (.inl ⟨hok, s.committed, rfl⟩)) hrest
      · refine ⟨rfl, .inr (.told hread' ?_)⟩
        exact interrupted_proceeds (fun _ => trivial)
          (h answer _ (.inr ⟨trivial, hfailed, rfl⟩)) hrest
  | step β statement =>
      obtain ⟨t', hanswers, hsame⟩ := hanswer.step_cases
      have hgoes := h answer _ ⟨_, _, hanswers.mono fun _ => trivial, rfl⟩
      cases answer with
      | ok result =>
          -- a deletion runs no single statement that writes
          have hfinal : Stage.Final (.wrote seen (s.view p).tables t') := trivial
          obtain ⟨answer, -, himpossible⟩ := deletion_done hfinal hgoes hrest
          exact himpossible.elim
      | error code =>
          have hfinal : Stage.Final .undone := trivial
          obtain ⟨answer, hdone, -⟩ := deletion_done hfinal hgoes hrest
          obtain ⟨t'', hleft, hkept⟩ := hanswers.step_cases
          cases hleft
          have hsame' : s' = s := hsame (hkept (by simp [Except.isOk, Except.toBool]))
          exact ⟨congrArg Shared.committed hsame', .inl ⟨answer, hdone⟩⟩

/-- In its transaction a deletion commits the closed account or nothing. -/
theorem deletion_works {β : Type} {op : SqlOp β} {cont : β → Db Bool} {answer : β}
    {seen : Reading} {t work : Tables} (hread : seenIn heard = some seen)
    (hcurrent : ∀ row ∈ seen.2, ∀ now ∈ t.accounts.lookup seen.1, now.balance = row.balance)
    (h : Always (Interrupted fp True) (.perform op cont) (.inside seen t work)
      (DeletionEnds accountNo))
    (hnoticed : SqlOp.isQuiet β op = false)
    (hanswer : Connected fp True p β op ⟨t, some (p, work)⟩ answer s')
    (hrest : Proceeds SqlOp.isQuiet (Connected fp True p) s' (cont answer) rest) :
    ClosesEmpty ⟨t, some (p, work)⟩ s' accountNo ∧ ((∃ answer, rest = .done answer) ∨
      AtDeletion fp p s' accountNo (heard ++ [⟨op, answer⟩]) rest) := by
  have hread' := seenIn_append hread ⟨op, answer⟩
  obtain ⟨store, hstore, rfl⟩ := connected_of_holder.mp hanswer
  induction β, op, hnoticed using SqlOp.noticed_cases with
  | begin => exact (deletion_misplaced h fun _ => rfl).elim
  | stepAgain => exact (deletion_misplaced h fun _ => rfl).elim
  | step β statement =>
      have hgoes := h answer _ ⟨store, hstore, rfl⟩
      obtain ⟨work', rfl, -⟩ := hstore.step_cases
      refine ⟨.inl rfl, .inr (.inside hread' rfl hcurrent ?_)⟩
      exact interrupted_proceeds (fun _ => trivial) hgoes hrest
  | commit =>
      rcases hstore with ⟨hok, rfl⟩ | ⟨-, hfailed, rfl⟩
      · have hfinal : Stage.Final (.closed seen t work) := trivial
        obtain ⟨answer', hdone, -, hclosed, hnumber, row, hrow, hempty⟩ :=
          deletion_done hfinal (h answer _ (.inl ⟨hok, rfl⟩)) hrest
        refine ⟨.inr ⟨hclosed, ?_⟩, .inl ⟨answer', hdone⟩⟩
        intro now hnow
        rw [← hnumber] at hnow
        exact (hcurrent row hrow now hnow).trans hempty
      · refine ⟨.inl rfl, .inr (.inside hread' rfl hcurrent ?_)⟩
        exact interrupted_proceeds (fun _ => trivial)
          (h answer _ (.inr ⟨trivial, hfailed, rfl⟩)) hrest
  | rollback =>
      obtain rfl : store = ⟨t, none⟩ := hstore
      have hfinal : Stage.Final .undone := trivial
      obtain ⟨answer', hdone, -⟩ := deletion_done hfinal (h answer _ rfl) hrest
      exact ⟨.inl rfl, .inl ⟨answer', hdone⟩⟩

/-- A deletion keeps its place while another process takes a step. -/
theorem AtDeletion.others {β : Type} {op : SqlOp β} {answer : β} {q : ℕ}
    (hanswer : Connected fp True q β op s answer s') (hq : p ≠ q)
    (h : AtDeletion fp p s accountNo heard rest) : AtDeletion fp p s' accountNo heard rest := by
  cases h with
  | asking hunread hrest => exact .asking hunread hrest
  | told hread hrest => exact .told hread hrest
  | inside hread hwriter hcurrent hrest =>
      rw [hanswer.keeps_writer hwriter hq]
      exact .inside hread hwriter hcurrent hrest

/-- One call of a deletion. -/
theorem AtDeletion.call {β : Type} {op : SqlOp β} {cont : β → Db Bool} {answer : β}
    (h : AtDeletion fp p s accountNo heard (.perform op cont))
    (hnoticed : SqlOp.isQuiet β op = false) (hanswer : Connected fp True p β op s answer s')
    (hcurrent : takesLock ⟨op, answer⟩ = true → ∀ seen ∈ seenIn heard, ∀ row ∈ seen.2,
      ∀ now ∈ s.committed.accounts.lookup seen.1, now.balance = row.balance)
    (hrest : Proceeds SqlOp.isQuiet (Connected fp True p) s' (cont answer) rest) :
    ClosesEmpty s s' accountNo ∧ ((∃ answer, rest = .done answer) ∨
      AtDeletion fp p s' accountNo (heard ++ [⟨op, answer⟩]) rest) := by
  cases h with
  | asking hunread h =>
      obtain ⟨rfl, hnext⟩ := deletion_asks hunread h hnoticed hanswer hrest
      exact ⟨.inl rfl, hnext⟩
  | told hread h =>
      have hseen (htakes : takesLock ⟨op, answer⟩ = true) := hcurrent htakes _ hread
      obtain ⟨hkept, hnext⟩ := deletion_begins hread h hnoticed hanswer hseen hrest
      exact ⟨.inl hkept, hnext⟩
  | inside hread hwriter hstill h =>
      obtain ⟨committed, writer⟩ := s
      cases hwriter
      exact deletion_works hread hstill h hnoticed hanswer hrest

end step

/-! ### Interleavings -/

/-- Servers that run operations and deletions on one file; any call may fail. -/
abbrev branches (fp : Rounding) : Processes SqlOp Shared Errand Bool :=
  connections fp True (Errand.program fp)

/-- Every deletion under way stands where `AtDeletion` says. -/
def AtErrand (fp : Rounding) (p : ℕ) (s : Shared) (kept : Option (Task SqlOp Errand Bool)) : Prop :=
  ∀ task ∈ kept, ∀ accountNo, task.job = .delete accountNo →
    AtDeletion fp p s accountNo task.heard task.rest

section interleavings

variable {fp : Rounding} {t₀ : Tables} {s s' : System SqlOp Shared Errand Bool} {p : ℕ}

/-- What the call of a deletion does to the file. -/
theorem call_of_deletion {task : Task SqlOp Errand Bool} {β : Type} {op : SqlOp β}
    {k : β → Db Bool} {answer : β} {shared : Shared} {rest : Db Bool}
    (hat : AtErrand fp p s.shared (s.tasks p)) (htask : s.tasks p = some task)
    (hop : task.rest = .perform op k) (hnoticed : SqlOp.isQuiet β op = false)
    (hanswer : Connected fp True p β op s.shared answer shared)
    (hallowed : BalanceCurrent s p ⟨op, answer⟩)
    (hrest : Proceeds SqlOp.isQuiet (Connected fp True p) shared (k answer) rest)
    {accountNo : Int} (hjob : task.job = .delete accountNo) :
    ClosesEmpty s.shared shared accountNo ∧ ((∃ answer, rest = .done answer) ∨
      AtDeletion fp p shared accountNo (task.heard ++ [⟨op, answer⟩]) rest) := by
  have hown := hat task htask accountNo hjob
  rw [hop] at hown
  apply hown.call hnoticed hanswer _ hrest
  intro htakes
  apply hallowed task htask _ htakes
  rw [hjob]
  rfl

theorem atErrand_of_reached
    (h : Reached (branches fp) (fun _ => True) BalanceCurrent (.idle ⟨t₀, none⟩) s) (p : ℕ) :
    AtErrand fp p s.shared (s.tasks p) := by
  have hinitial : Holds (fun _ _ => True) (AtErrand fp)
      (.idle ⟨t₀, none⟩ : System SqlOp Shared Errand Bool) :=
    ⟨trivial, fun _ _ htask => by cases htask⟩
  refine (h.holds ?_ ?_ hinitial).each p
  · intro s p job rest hs _ _ hrest
    refine ⟨trivial, ?_, fun _ _ _ hkept => hkept⟩
    intro task htask accountNo hjob
    obtain ⟨rfl, -⟩ := Task.left_eq_some htask
    obtain rfl : job = .delete accountNo := hjob
    apply AtDeletion.asking rfl
    exact interrupted_proceeds (fun _ => trivial) (dbDeleteAccount_interrupted accountNo) hrest
  · intro s p task β op k answer shared rest hs htask hop hnoticed hanswer hallowed hrest
    refine ⟨trivial, ?_, ?_⟩
    · intro task' htask' accountNo hjob
      obtain ⟨rfl, hpending⟩ := Task.left_eq_some htask'
      have hcall := call_of_deletion (hs.each p) htask hop hnoticed hanswer hallowed hrest hjob
      rcases hcall.2 with ⟨answer', hdone⟩ | hat
      · exact absurd hdone (hpending answer')
      · exact hat
    · intro q hq kept hkept task htask accountNo hjob
      exact (hkept task htask accountNo hjob).others hanswer hq

/-- Closing an empty account destroys no money. -/
theorem ClosesEmpty.keeps_money {s s' : Shared} {accountNo k : Int}
    (h : ClosesEmpty s s' accountNo) {row : Account}
    (hrow : s.committed.accounts.lookup k = some row)
    (hgone : s'.committed.accounts.lookup k = none) :
    row.balance = 0 ∧ totalBalance s'.committed = totalBalance s.committed := by
  rcases h with hsame | ⟨hclosed, hempty⟩
  · rw [hsame, hrow] at hgone
    cases hgone
  · rw [hclosed, lookup_close] at hgone
    split at hgone
    · rename_i hk
      rw [hk] at hrow
      have hzero := hempty row hrow
      refine ⟨hzero, ?_⟩
      have hdeleted := totalBalance_deleteAccount hrow
      rw [hzero] at hdeleted
      rw [hclosed]
      exact hdeleted.trans (sub_zero _)
    · rw [hrow] at hgone
      cases hgone

/-- Any number of servers run operations and deletions on one file, their
statements interleaved in any order and any call failing. In every run in
which the balance an account has when its deletion takes the lock is the one
the deletion has read, a step of a deletion that removes an account finds its
committed balance zero, and the sum of all balances stays what it was. -/
theorem deletion_keeps_money
    (h : Reached (branches fp) (fun _ => True) BalanceCurrent (.idle ⟨t₀, none⟩) s)
    (hstep : Step (branches fp) (fun _ => True) BalanceCurrent s p s')
    {task : Task SqlOp Errand Bool} (htask : s.tasks p = some task) {accountNo : Int}
    (hjob : task.job = .delete accountNo) {k : Int} {row : Account}
    (hrow : s.shared.committed.accounts.lookup k = some row)
    (hgone : s'.shared.committed.accounts.lookup k = none) :
    row.balance = 0 ∧
      totalBalance s'.shared.committed = totalBalance s.shared.committed := by
  cases hstep with
  | start hidle hadmits hrest =>
      rw [hidle] at htask
      cases htask
  | call htask' hop hnoticed hanswer hallowed hrest =>
      obtain rfl := Option.some.inj (htask.symm.trans htask')
      have hcall := call_of_deletion (atErrand_of_reached h p) htask hop hnoticed hanswer hallowed
        hrest hjob
      exact hcall.1.keeps_money hrow hgone

end interleavings

/-- An operation on a quiet server. -/
def errand (operation : Operation) : Errand := .operation ⟨(plain "").env, operation⟩

/-- One server deletes an empty account while another opens a second one. -/
def undisturbedDeletion : List (Move Errand) :=
  [.start 1 (errand (.create 7 (ascii "Ada") 1234)), .call 1, .start 0 (.delete 7), .call 0,
    .start 1 (errand (.create 8 (ascii "Bob") 1234)), .call 1, .call 0, .call 0, .call 0, .call 0]

theorem deletion_keeps_money_undisturbed :
    let s := playAll .exact (Errand.program .exact) (fun _ => True) BalanceCurrent
      (.idle ⟨.empty, none⟩) undisturbedDeletion
    let s' := play .exact (Errand.program .exact) (fun _ => True) BalanceCurrent s (.call 0)
    balanceOf s.shared.committed 7 = some 0 ∧ balanceOf s'.shared.committed 7 = none ∧
      totalBalance s'.shared.committed = totalBalance s.shared.committed := by
  intro s s'
  have hbefore : balanceOf s.shared.committed 7 = some 0 := by decide +kernel
  have hafter : balanceOf s'.shared.committed 7 = none := by decide +kernel
  have hjob : ((s.tasks 0).bind fun task => task.job.deletes) = some 7 := by decide +kernel
  have hreached : Reached (branches .exact) (fun _ => True) BalanceCurrent _ s :=
    reached_playAll True _ _
  have hstep : Step (branches .exact) (fun _ => True) BalanceCurrent s 0 s' := by
    refine (play_step True s (.call 0)).resolve_left ?_
    intro hsame
    have hstill := congrArg (fun s => balanceOf s.shared.committed 7) hsame
    exact absurd (hafter.symm.trans (hstill.trans hbefore)) (by simp)
  refine ⟨hbefore, hafter, ?_⟩
  clear_value s'
  clear_value s
  obtain ⟨task, htask, hdeletes⟩ := Option.bind_eq_some_iff.mp hjob
  obtain ⟨row, hrow, -⟩ := Option.map_eq_some_iff.mp hbefore
  exact (deletion_keeps_money hreached hstep htask (Errand.eq_delete hdeletes) hrow
    (Option.map_eq_none_iff.mp hafter)).2

/-- A deposit of 100 is committed between the SELECT and the BEGIN of a
deletion. -/
def depositInTheGap : List (Move Errand) :=
  [.start 1 (errand (.create 7 (ascii "Ada") 1234)), .call 1, .start 0 (.delete 7), .call 0,
    .start 1 (errand (.move .deposit 7 (.fin 100))),
    .call 1, .call 1, .call 1, .call 1, .call 1, .call 0, .call 0, .call 0, .call 0]

/-- The deposit has returned 1 and is committed, and then the deletion removes
the account with the money on it. -/
theorem deposit_destroyed :
    let s := playAll .exact (Errand.program .exact) (fun _ => True) (fun _ _ _ => True)
      (.idle ⟨.empty, none⟩) depositInTheGap
    let s' := play .exact (Errand.program .exact) (fun _ => True) (fun _ _ _ => True) s (.call 0)
    Reached (branches .exact) (fun _ => True) (fun _ _ _ => True) (.idle ⟨.empty, none⟩) s ∧
      Step (branches .exact) (fun _ => True) (fun _ _ _ => True) s 0 s' ∧
      ((s.tasks 0).bind fun task => task.job.deletes) = some 7 ∧
      s.finished.map Prod.snd = [true, true] ∧ s'.finished.map Prod.snd = [true, true, true] ∧
      balanceOf s.shared.committed 7 = some (.fin 100) ∧
      balanceOf s'.shared.committed 7 = none ∧
      totalBalance s.shared.committed = 100 ∧ totalBalance s'.shared.committed = 0 := by
  intro s s'
  have hbefore : s.finished.map Prod.snd = [true, true] := by decide +kernel
  have hafter : s'.finished.map Prod.snd = [true, true, true] := by decide +kernel
  refine ⟨reached_playAll True _ _, ?_, by decide +kernel, hbefore, hafter, by decide +kernel,
    by decide +kernel, by decide +kernel, by decide +kernel⟩
  refine (play_step True s (.call 0)).resolve_left ?_
  intro hsame
  have hstill := congrArg (fun s => s.finished.map Prod.snd) hsame
  exact absurd (hafter.symm.trans (hstill.trans hbefore)) (by decide)

end AtmSystem.Bank
