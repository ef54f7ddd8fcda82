import AtmSystem.Semantics.Brackets
import AtmSystem.Semantics.Connections
import AtmSystem.Safety.Atomicity
import AtmSystem.Safety.Overdraft

/-!
No balance update is lost between server processes. An operation reads what it
checks inside its transaction, or is a single statement, so it takes effect
where it commits as if it had run alone: the committed contents are those
that the operations which returned 1 leave one after another.
-/

namespace AtmSystem.Bank

open Library Program Model

/-! ### Operations -/

/-- The operations that move money and those that make and edit accounts. -/
inductive Operation where
  | move (kind : Movement) (accountNo : Int) (amount : Double)
  | transfer (fromAccount toAccount : Int) (amount : Double)
  | edit (accountNo newAccountNo : Int) (name : Bytes) (pin : Int)
  | create (accountNo : Int) (name : Bytes) (pin : Int)

/-- An operation with what the process reads outside the database. -/
structure Job where
  env : Environment
  operation : Operation

/-- The function behind a movement. -/
def Movement.program (fp : Rounding) (env : Environment) :
    Movement → Int → Double → Db (Option Double)
  | .deposit => dbDeposit fp env
  | .withdraw => dbWithdraw fp env
  | .adminCredit => dbAdminCredit fp env
  | .adminDebit => dbAdminDebit fp env

namespace Job

/-- The function a job runs, and whether it returns 1. -/
def program (fp : Rounding) (job : Job) : Db Bool :=
  match job.operation with
  | .move kind accountNo amount => returned (kind.program fp job.env accountNo amount)
  | .transfer fromAccount toAccount amount =>
      returned (dbTransfer fp job.env fromAccount toAccount amount)
  | .edit accountNo newAccountNo name pin => dbEditAccount job.env accountNo newAccountNo name pin
  | .create accountNo name pin => dbCreateAccount job.env accountNo name pin

def action (job : Job) : Action :=
  match job.operation with
  | .move kind accountNo amount => .move kind accountNo amount job.env.timestamp
  | .transfer fromAccount toAccount amount =>
      .transfer fromAccount toAccount amount job.env.timestamp
  | .edit accountNo newAccountNo name pin => .edit accountNo newAccountNo name pin job.env.salt
  | .create accountNo name pin => .create accountNo name pin job.env.salt job.env.timestamp

/-- The job carries no amount but a finite one. -/
def FiniteAmount (job : Job) : Prop := job.action.amount.all Double.isFinite

instance : DecidablePred FiniteAmount := fun job =>
  inferInstanceAs (Decidable (job.action.amount.all Double.isFinite = true))

/-- Run a job alone, no call failing. -/
def run (fp : Rounding) (job : Job) (t : Tables) : Bool × Store :=
  Db.exec fp { job.env with faults := [] } (job.program fp) ⟨t, none⟩

end Job

/-- Running `jobs` one after another leads from `t` to `t'`, and each of them
returns 1. -/
inductive Serial (fp : Rounding) (t : Tables) : List Job → Tables → Prop where
  | nil : Serial fp t [] t
  | snoc {jobs : List Job} {job : Job} {t' t'' : Tables} (hjobs : Serial fp t jobs t')
      (hjob : job.run fp t' = (true, ⟨t'', none⟩)) : Serial fp t (jobs ++ [job]) t''

/-- The jobs that returned 1. -/
def succeeded (finished : List (Job × Bool)) : List Job :=
  (finished.filter Prod.snd).map Prod.fst

/-! ### Alone -/

section alone

variable {fp : Rounding} {faulty : Prop} {t : Tables}

theorem Job.settled (job : Job) :
    Always (SqlAnswers fp faulty) (job.program fp) ⟨t, none⟩
      (Settled fp faulty job.action (fun _ => true) false t) := by
  obtain ⟨env, operation⟩ := job
  cases operation with
  | move kind accountNo amount =>
      refine returned_settled ?_ fun _ => balanceOf_of_move
      cases kind with
      | deposit => exact checkedBalanceTransaction_settled env _ .deposit accountNo amount
      | withdraw => exact checkedBalanceTransaction_settled env _ .withdraw accountNo amount
      | adminCredit => exact checkedBalanceTransaction_settled env _ .adminCredit accountNo amount
      | adminDebit => exact checkedBalanceTransaction_settled env _ .adminDebit accountNo amount
  | transfer fromAccount toAccount amount =>
      exact returned_settled (dbTransfer_settled ..) fun _ => balanceOf_of_transfer
  | edit accountNo newAccountNo name pin => exact dbEditAccount_settled ..
  | create accountNo name pin => exact dbCreateAccount_settled ..

/-- There is one way to perform an action at most. -/
theorem Action.Performs.unique {a : Action} {t' t'' : Tables} (h : a.Performs fp t t')
    (h' : a.Performs fp t t'') : t' = t'' := by
  cases h <;> cases h' <;> simp_all

/-- An action that can be performed is performed when its job runs alone. -/
theorem Job.run_of_performs {job : Job} {t' : Tables} (h : job.action.Performs fp t t') :
    job.run fp t = (true, ⟨t', none⟩) := by
  have hcalm : ¬ ({ job.env with faults := [] } : Environment).Faulty := by
    rintro ⟨message, hmem⟩
    cases hmem
  have hsettled := exec_of_always fp { job.env with faults := [] } (job.program fp) ⟨t, none⟩
    job.settled
  rcases hsettled with ⟨t'', hperforms, hanswer, hstore⟩ | ⟨hrefused, -, -⟩
  · rw [h.unique hperforms]
    exact Prod.ext hanswer hstore
  · exact absurd h (hrefused.resolve_left hcalm t')

/-- A job that returns 1 has performed its action. -/
theorem Job.performs_of_run {job : Job} {t' : Tables} (h : job.run fp t = (true, ⟨t', none⟩)) :
    job.action.Performs fp t t' := by
  have hsettled := exec_of_always fp { job.env with faults := [] } (job.program fp) ⟨t, none⟩
    job.settled
  change Settled _ _ _ _ _ _ (job.run fp t).1 (job.run fp t).2 at hsettled
  rw [h] at hsettled
  rcases hsettled with ⟨t'', hperforms, -, hstore⟩ | ⟨-, hanswer, -⟩
  · cases hstore
    exact hperforms
  · cases hanswer

/-- What every performed action keeps, a series of jobs keeps. -/
theorem Serial.invariant {inv : Tables → Prop} {admits : Job → Prop}
    (hstep : ∀ (job : Job) t t', admits job → job.action.Performs fp t t' → inv t → inv t')
    {jobs : List Job} {t' : Tables} (h : Serial fp t jobs t') (hadmits : ∀ job ∈ jobs, admits job)
    (ht : inv t) : inv t' := by
  induction h with
  | nil => exact ht
  | @snoc jobs job t' t'' hjobs hjob ih =>
      apply hstep job t' t'' (hadmits job (by simp)) (Job.performs_of_run hjob)
      exact ih fun job hmem => hadmits job (List.mem_append_left _ hmem)

end alone

/-! ### Among others -/

section among

variable {fp : Rounding} {p : ℕ} {s s' : Shared}

theorem Job.bracketed (job : Job) : Always Bracketed (job.program fp) .outside Ends := by
  obtain ⟨env, operation⟩ := job
  cases operation with
  | move kind accountNo amount =>
      simp only [program, returned, always_bind, always_pure]
      cases kind <;> exact bracketed_checkedBalanceTransaction ..
  | transfer fromAccount toAccount amount =>
      simp only [program, returned, always_bind, always_pure]
      exact bracketed_dbTransfer ..
  | edit accountNo newAccountNo name pin => exact bracketed_dbEditAccount ..
  | create accountNo name pin => exact bracketed_dbCreateAccount ..

/-- The process is not in a transaction. -/
def Free (p : ℕ) (s : Shared) : Prop := ∀ work, s.writer ≠ some (p, work)

/-- How the rest of a program ends that began on `t`, wherever it is run from. -/
def Settling (fp : Rounding) (job : Job) (t : Tables) (store : Store) (rest : Db Bool) : Prop :=
  Always (SqlAnswers fp True) rest store
    (Settled fp True job.action (fun _ => true) false t)

/-- What a process is at: nothing, a job that has not begun its transaction
and may find any tables when it does, or one inside, whose work so far is based
on what is committed still. -/
inductive AtWork (fp : Rounding) (p : ℕ) (s : Shared) : Option (Task SqlOp Job Bool) → Prop where
  | idle (hfree : Free p s) : AtWork fp p s none
  | outside {task : Task SqlOp Job Bool} (hbracketed : Always Bracketed task.rest .outside Ends)
      (hfree : Free p s) (hsettling : ∀ t, Settling fp task.job t ⟨t, none⟩ task.rest) :
      AtWork fp p s (some task)
  | inside {task : Task SqlOp Job Bool} {work : Tables}
      (hbracketed : Always Bracketed task.rest .inside Ends) (hwriter : s.writer = some (p, work))
      (hsettling : Settling fp task.job s.committed ⟨work, some s.committed⟩ task.rest) :
      AtWork fp p s (some task)

/-- The others are as far as they were. -/
theorem AtWork.others {β : Type} {op : SqlOp β} {answer : β}
    (hanswer : Connected fp True p β op s answer s') {q : ℕ} (hq : q ≠ p)
    {kept : Option (Task SqlOp Job Bool)} (h : AtWork fp q s kept) : AtWork fp q s' kept := by
  have hfree (h : Free q s) : Free q s' := fun work hwriter =>
    h work (hanswer.writer_of_other hq hwriter)
  cases h with
  | idle h => exact .idle (hfree h)
  | outside hbracketed h hsettling => exact .outside hbracketed (hfree h) hsettling
  | inside hbracketed hwriter hsettling =>
      rw [hanswer.keeps_writer hwriter hq]
      exact .inside hbracketed hwriter hsettling

variable {rest rest' : Db Bool}

/-- Quiet calls keep the phase. -/
theorem bracketed_proceeds {φ : Phase} (h : Always Bracketed rest φ Ends)
    (hrest : Proceeds SqlOp.isQuiet (Connected fp True p) s rest rest') :
    Always Bracketed rest' φ Ends := by
  apply hrest.always _ h
  intro β op answer hquiet _
  induction β, op, hquiet using SqlOp.quiet_cases with
  | prepare => cases φ <;> rfl
  | errmsg => cases φ <;> rfl
  | setError text => cases φ <;> rfl
  | readError => cases φ <;> rfl

theorem settling_proceeds {job : Job} {t : Tables} {store : Store}
    (h : Settling fp job t store rest)
    (hrest : Proceeds SqlOp.isQuiet (Connected fp True p) s rest rest') :
    Settling fp job t store rest' :=
  hrest.always (fun _ _ _ hquiet hanswer => hanswer.quiet (fun _ => trivial) hquiet store) h

/-- A program whose work is over makes no more calls that others notice. -/
theorem done_of_over {committed : Bool} (h : Always Bracketed rest (.over committed) Ends)
    (hrest : Proceeds SqlOp.isQuiet (Connected fp True p) s rest rest') :
    rest' = .done committed := by
  have hover := bracketed_proceeds h hrest
  cases rest' with
  | done answer =>
      rcases hover with heq | ⟨heq, -⟩
      · cases heq
        rfl
      · cases heq
  | @perform β op k =>
      have hnoticed := hrest.noticed rfl
      have hmisplaced (answer : β) : Phase.next (.over committed) _ op answer = .broken := by
        induction β, op, hnoticed using SqlOp.noticed_cases <;> rfl
      exact absurd hover (not_always_misplaced hmisplaced)

/-- A program outside a transaction that is done has failed. -/
theorem failed_of_outside {answer : Bool} (h : Ends answer .outside) : answer = false := by
  rcases h with heq | ⟨-, hfalse⟩
  · cases heq
  · exact hfalse

/-- A program that returns 1 leaves what its job leaves alone. -/
theorem run_of_settling {job : Job} {t : Tables} {store : Store}
    (h : Settling fp job t store rest)
    (hrest : Proceeds SqlOp.isQuiet (Connected fp True p) s rest (.done true)) :
    ∃ t', job.run fp t = (true, ⟨t', none⟩) ∧ store = ⟨t', none⟩ := by
  rcases settling_proceeds h hrest with ⟨t', hperforms, -, hstore⟩ | ⟨-, hanswer, -⟩
  · exact ⟨t', Job.run_of_performs hperforms, hstore⟩
  · cases hanswer

/-- The committed contents are those of the jobs that returned 1. -/
def Committed (fp : Rounding) (t₀ : Tables) (s : Shared) (finished : List (Job × Bool)) : Prop :=
  Serial fp t₀ (succeeded finished) s.committed

theorem succeeded_false (finished : List (Job × Bool)) (job : Job) :
    succeeded (finished ++ [(job, false)]) = succeeded finished := by
  simp [succeeded]

theorem succeeded_true (finished : List (Job × Bool)) (job : Job) :
    succeeded (finished ++ [(job, true)]) = succeeded finished ++ [job] := by
  simp [succeeded]

variable {t₀ : Tables} {finished : List (Job × Bool)} {job : Job} {heard : List (Call SqlOp)}

/-- A process that is still outside a transaction. -/
theorem goes_on_outside (hcommitted : Committed fp t₀ s finished)
    (hbracketed : Always Bracketed rest .outside Ends) (hfree : Free p s)
    (hsettling : ∀ t, Settling fp job t ⟨t, none⟩ rest)
    (hrest : Proceeds SqlOp.isQuiet (Connected fp True p) s rest rest') :
    Committed fp t₀ s (finished ++ (Task.mk job heard rest').ended) ∧
      AtWork fp p s (Task.mk job heard rest').left := by
  have houtside := bracketed_proceeds hbracketed hrest
  cases rest' with
  | done answer =>
      obtain rfl := failed_of_outside houtside
      refine ⟨?_, .idle hfree⟩
      rw [Committed, Task.ended, succeeded_false]
      exact hcommitted
  | perform op k =>
      refine ⟨?_, .outside houtside hfree fun t => settling_proceeds (hsettling t) hrest⟩
      rw [Task.ended, List.append_nil]
      exact hcommitted

/-- A process that is inside a transaction. -/
theorem goes_on_inside (hcommitted : Committed fp t₀ s finished)
    (hbracketed : Always Bracketed rest .inside Ends) {work : Tables}
    (hwriter : s.writer = some (p, work))
    (hsettling : Settling fp job s.committed ⟨work, some s.committed⟩ rest)
    (hrest : Proceeds SqlOp.isQuiet (Connected fp True p) s rest rest') :
    Committed fp t₀ s (finished ++ (Task.mk job heard rest').ended) ∧
      AtWork fp p s (Task.mk job heard rest').left := by
  have hinside := bracketed_proceeds hbracketed hrest
  cases rest' with
  | done answer =>
      rcases hinside with h | ⟨h, -⟩
      · cases h
      · cases h
  | perform op k =>
      refine ⟨?_, .inside hinside hwriter (settling_proceeds hsettling hrest)⟩
      rw [Task.ended, List.append_nil]
      exact hcommitted

/-- A process that has given up. -/
theorem ends_failed (hcommitted : Committed fp t₀ s finished)
    (hbracketed : Always Bracketed rest (.over false) Ends) (hfree : Free p s)
    (hrest : Proceeds SqlOp.isQuiet (Connected fp True p) s rest rest') :
    Committed fp t₀ s (finished ++ (Task.mk job heard rest').ended) ∧
      AtWork fp p s (Task.mk job heard rest').left := by
  obtain rfl := done_of_over hbracketed hrest
  refine ⟨?_, .idle hfree⟩
  rw [Committed, Task.ended, succeeded_false]
  exact hcommitted

/-- A process that has committed what it based on the tables `t`. -/
theorem ends_succeeded {t : Tables} {store : Store}
    (hcommitted : Serial fp t₀ (succeeded finished) t)
    (hbracketed : Always Bracketed rest (.over true) Ends)
    (hsettling : Settling fp job t store rest) (hfree : Free p s)
    (hstore : ∀ t', store = ⟨t', none⟩ → s.committed = t')
    (hrest : Proceeds SqlOp.isQuiet (Connected fp True p) s rest rest') :
    Committed fp t₀ s (finished ++ (Task.mk job heard rest').ended) ∧
      AtWork fp p s (Task.mk job heard rest').left := by
  obtain rfl := done_of_over hbracketed hrest
  obtain ⟨t', hrun, hleft⟩ := run_of_settling hsettling hrest
  refine ⟨?_, .idle hfree⟩
  rw [Committed, Task.ended, succeeded_true, hstore t' hleft]
  exact hcommitted.snoc hrun

/-- A call from inside a transaction. -/
theorem call_inside {β : Type} {op : SqlOp β} {k : β → Db Bool} {answer : β} {t work : Tables}
    (hcommitted : Serial fp t₀ (succeeded finished) t)
    (hbracketed : Always Bracketed (.perform op k) .inside Ends)
    (hsettling : Settling fp job t ⟨work, some t⟩ (.perform op k))
    (hnoticed : SqlOp.isQuiet β op = false)
    (hanswer : Connected fp True p β op ⟨t, some (p, work)⟩ answer s')
    (hrest : Proceeds SqlOp.isQuiet (Connected fp True p) s' (k answer) rest') :
    Committed fp t₀ s' (finished ++ (Task.mk job heard rest').ended) ∧
      AtWork fp p s' (Task.mk job heard rest').left := by
  obtain ⟨store, hstore, rfl⟩ := connected_of_holder.mp hanswer
  have hnext := hbracketed answer _ rfl
  have hgoes := hsettling answer store hstore
  have hclosed (t : Tables) : Free p ⟨t, none⟩ := fun _ hwriter => by cases hwriter
  induction β, op, hnoticed using SqlOp.noticed_cases with
  | begin => exact absurd hbracketed (not_always_misplaced fun _ => rfl)
  | stepAgain => exact absurd hbracketed (not_always_misplaced fun _ => rfl)
  | step β statement =>
      obtain ⟨work', rfl, -⟩ := hstore.step_cases
      exact goes_on_inside hcommitted hnext rfl hgoes hrest
  | commit =>
      rcases hstore with ⟨hok, rfl⟩ | ⟨-, hfailed, rfl⟩
      · simp only [Phase.next, hok, if_true] at hnext
        apply ends_succeeded hcommitted hnext hgoes (hclosed _) _ hrest
        intro t' hleft
        cases hleft
        rfl
      · simp only [Phase.next, hfailed] at hnext
        exact goes_on_inside hcommitted hnext rfl hgoes hrest
  | rollback =>
      obtain rfl : store = ⟨t, none⟩ := hstore
      exact ends_failed hcommitted hnext (hclosed _) hrest

/-- A call from outside a transaction, of a process that no other blocks. -/
theorem call_free {β : Type} {op : SqlOp β} {k : β → Db Bool} {answer : β} {t : Tables}
    (hcommitted : Serial fp t₀ (succeeded finished) t)
    (hbracketed : Always Bracketed (.perform op k) .outside Ends)
    (hsettling : ∀ t, Settling fp job t ⟨t, none⟩ (.perform op k))
    (hnoticed : SqlOp.isQuiet β op = false)
    (hanswer : Connected fp True p β op ⟨t, none⟩ answer s')
    (hrest : Proceeds SqlOp.isQuiet (Connected fp True p) s' (k answer) rest') :
    Committed fp t₀ s' (finished ++ (Task.mk job heard rest').ended) ∧
      AtWork fp p s' (Task.mk job heard rest').left := by
  obtain ⟨store, hstore, rfl⟩ := connected_of_free.mp hanswer
  have hnext := hbracketed answer _ rfl
  have hgoes := hsettling t answer store hstore
  have hclosed (t : Tables) : Free p ⟨t, none⟩ := fun _ hwriter => by cases hwriter
  induction β, op, hnoticed using SqlOp.noticed_cases with
  | commit => exact absurd hbracketed (not_always_misplaced fun _ => rfl)
  | rollback => exact absurd hbracketed (not_always_misplaced fun _ => rfl)
  | stepAgain => exact absurd hbracketed (not_always_misplaced fun _ => rfl)
  | begin =>
      rcases hstore with ⟨hok, rfl⟩ | ⟨-, hfailed, rfl⟩
      · simp only [Phase.next, hok, if_true] at hnext
        exact goes_on_inside hcommitted hnext rfl hgoes hrest
      · simp only [Phase.next, hfailed] at hnext
        have hkept : Committed fp t₀ ⟨t, none⟩ finished := hcommitted
        apply goes_on_outside hkept hnext (hclosed t) _ hrest
        intro t'
        exact hsettling t' answer _ (.inr ⟨trivial, hfailed, rfl⟩)
  | step β statement =>
      obtain ⟨t', rfl, hkept⟩ := hstore.step_cases
      cases answer with
      | ok result =>
          apply ends_succeeded hcommitted hnext hgoes (hclosed t') _ hrest
          intro left hleft
          cases hleft
          rfl
      | error code =>
          obtain rfl := hkept (by simp [Except.isOk, Except.toBool])
          exact ends_failed hcommitted hnext (hclosed t') hrest

/-- A call of a process while another is in a transaction. -/
theorem call_blocked {β : Type} {op : SqlOp β} {k : β → Db Bool} {answer : β} {t work : Tables}
    {q : ℕ} (hq : q ≠ p) (hcommitted : Serial fp t₀ (succeeded finished) t)
    (hbracketed : Always Bracketed (.perform op k) .outside Ends)
    (hsettling : ∀ t, Settling fp job t ⟨t, none⟩ (.perform op k))
    (hnoticed : SqlOp.isQuiet β op = false)
    (hanswer : Connected fp True p β op ⟨t, some (q, work)⟩ answer s')
    (hrest : Proceeds SqlOp.isQuiet (Connected fp True p) s' (k answer) rest') :
    Committed fp t₀ s' (finished ++ (Task.mk job heard rest').ended) ∧
      AtWork fp p s' (Task.mk job heard rest').left := by
  obtain ⟨hstays, rfl⟩ := (connected_of_blocked hq).mp hanswer
  have hnext := hbracketed answer _ rfl
  have hgoes := hsettling t answer ⟨t, none⟩ hstays
  have hkept : Committed fp t₀ ⟨t, some (q, work)⟩ finished := hcommitted
  have hfree : Free p ⟨t, some (q, work)⟩ := by
    intro work' hwriter
    cases hwriter
    exact hq rfl
  induction β, op, hnoticed using SqlOp.noticed_cases with
  | commit => exact absurd hbracketed (not_always_misplaced fun _ => rfl)
  | rollback => exact absurd hbracketed (not_always_misplaced fun _ => rfl)
  | stepAgain => exact absurd hbracketed (not_always_misplaced fun _ => rfl)
  | begin =>
      rcases hstays with ⟨-, hopened⟩ | ⟨-, hfailed, -⟩
      · cases hopened
      · simp only [Phase.next, hfailed] at hnext
        apply goes_on_outside hkept hnext hfree _ hrest
        intro t'
        exact hsettling t' answer _ (.inr ⟨trivial, hfailed, rfl⟩)
  | step β statement =>
      cases answer with
      | ok result =>
          apply ends_succeeded hcommitted hnext hgoes hfree _ hrest
          intro left hleft
          cases hleft
          rfl
      | error code => exact ends_failed hkept hnext hfree hrest

end among

/-! ### Interleavings -/

/-- Servers that run the operations on one file; any call may fail. -/
abbrev servers (fp : Rounding) : Processes SqlOp Shared Job Bool :=
  connections fp True (Job.program fp)

/-- Whatever the order of their steps, the committed contents are those that
the jobs which returned 1 leave one after another. -/
theorem committed_of_reached {fp : Rounding} {t₀ : Tables} {admits : Job → Prop}
    {allowed : System SqlOp Shared Job Bool → ℕ → Call SqlOp → Prop}
    {s : System SqlOp Shared Job Bool}
    (h : Reached (servers fp) admits allowed (.idle ⟨t₀, none⟩) s) :
    Committed fp t₀ s.shared s.finished := by
  have hinitial : Holds (Committed fp t₀) (AtWork fp) (.idle ⟨t₀, none⟩) := by
    refine ⟨.nil, fun p => .idle ?_⟩
    intro work hwriter
    cases hwriter
  refine (h.holds ?_ ?_ hinitial).global
  · intro s p job rest hs hidle _ hrest
    have hfree : Free p s.shared := by
      have hown := hs.each p
      rw [hidle] at hown
      cases hown with
      | idle hfree => exact hfree
    obtain ⟨hglobal, hown⟩ := goes_on_outside hs.global job.bracketed hfree
      (fun _ => job.settled) hrest
    exact ⟨hglobal, hown, fun _ _ _ hkept => hkept⟩
  · intro s p task β op k answer shared rest hs htask hop hnoticed hanswer _ hrest
    have hown := hs.each p
    have hcommitted := hs.global
    obtain ⟨job, heard, whole⟩ := task
    rw [htask] at hown
    suffices hadvances : Committed fp t₀ shared
        (s.finished ++ (Task.mk job (heard ++ [⟨op, answer⟩]) rest).ended) ∧
        AtWork fp p shared (Task.mk job (heard ++ [⟨op, answer⟩]) rest).left from
      ⟨hadvances.1, hadvances.2, fun _ hq _ => AtWork.others hanswer hq⟩
    obtain ⟨⟨committed, writer⟩, tasks, finished⟩ := s
    cases hop
    cases hown with
    | inside hbracketed hwriter hsettling =>
        cases hwriter
        exact call_inside hcommitted hbracketed hsettling hnoticed hanswer hrest
    | outside hbracketed hfree hsettling =>
        cases writer with
        | none => exact call_free hcommitted hbracketed hsettling hnoticed hanswer hrest
        | some writer =>
            obtain ⟨q, work⟩ := writer
            have hq : q ≠ p := by
              intro hq
              exact hfree work (congrArg (fun q => some (q, work)) hq)
            exact call_blocked hq hcommitted hbracketed hsettling hnoticed hanswer hrest

/-- Any number of servers run deposits, withdrawals, credits, debits,
transfers, edits and creations on one file, their statements interleaved in any
order and any call failing. In exact arithmetic and for finite amounts, in
every committed state no balance is negative, each is the sum of the changes
of its transactions, and the state is the one that the jobs which returned 1
lead to when they run one after another in the order of their commits. -/
theorem no_update_lost {t₀ : Tables} (hbooks : Books t₀) (hfunds : NoOverdraft t₀)
    {s : System SqlOp Shared Job Bool}
    (h : Reached (servers .exact) Job.FiniteAmount (fun _ _ _ => True) (.idle ⟨t₀, none⟩) s) :
    let t := s.shared.committed
    (∀ row ∈ t.accounts.rows, 0 ≤ row.balance ∧
      row.balance = .fin ((entries t row.accountNo).map signedAmount).sum) ∧
    Serial .exact t₀ (succeeded s.finished) t := by
  intro t
  have hserial : Serial .exact t₀ (succeeded s.finished) t := committed_of_reached h
  have hadmits : ∀ job ∈ succeeded s.finished, job.FiniteAmount := by
    intro job hmem
    obtain ⟨outcome, hsucceeded, rfl⟩ := List.mem_map.mp hmem
    exact h.admitted outcome (List.mem_filter.mp hsucceeded).1
  have hfinite (job : Job) (hjob : job.FiniteAmount) (x : Double)
      (hx : job.action.amount = some x) : x.isFinite := by
    rw [Job.FiniteAmount, hx] at hjob
    exact hjob
  have hbooks' : Books t := hserial.invariant
    (fun job _ _ hjob hperforms => Books.performs hperforms (hfinite job hjob)) hadmits hbooks
  have hfunds' : NoOverdraft t := hserial.invariant
    (fun _ _ _ _ hperforms => NoOverdraft.performs hperforms) hadmits hfunds
  refine ⟨?_, hserial⟩
  intro row hrow
  have hlookup := KeyedTable.lookup_of_mem hrow
  exact ⟨hfunds'.nonneg _ _ hlookup, (hbooks'.balanced _ _ hlookup).total⟩

/-- Ada's account is opened; one server deposits 100 while another tries to
withdraw 40 and has to wait for the lock. -/
def twoServers : List (Move Job) :=
  let job (operation : Operation) : Job := ⟨(plain "").env, operation⟩
  [.start 0 (job (.create 7 (ascii "Ada") 1234)), .call 0,
    .start 0 (job (.move .deposit 7 (.fin 100))), .start 1 (job (.move .withdraw 7 (.fin 40))),
    .call 0, .call 1, .call 0, .call 0, .call 1, .call 0, .call 0,
    .call 1, .call 1, .call 1, .call 1, .call 1]

theorem no_update_lost_twoServers :
    let s := playAll .exact (Job.program .exact) Job.FiniteAmount (fun _ _ _ => True)
      (.idle ⟨.empty, none⟩) twoServers
    s.finished.map Prod.snd = [true, true, true] ∧
      s.shared.committed.accounts.rows.map Account.balance = [.fin 60] ∧
      ∀ row ∈ s.shared.committed.accounts.rows, 0 ≤ row.balance ∧
        row.balance = .fin ((entries s.shared.committed row.accountNo).map signedAmount).sum := by
  refine ⟨by decide +kernel, by decide +kernel, ?_⟩
  exact (no_update_lost emptyServer_opened.books ⟨fun _ _ hrow =>
    (emptyServer_opened.no_account hrow).elim⟩ (reached_playAll True _ _)).1

end AtmSystem.Bank
