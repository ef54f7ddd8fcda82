import AtmSystem.Library.Chronology
import AtmSystem.Library.TwoRuns
import AtmSystem.Bank.Entries
import AtmSystem.Model.Reports

/-!
What can be seen of one account. Two databases agree on an account if its row
is the same in both and so are its transactions, newest first, but for their
ids. The functions that read and book one account answer alike on databases
that agree on it and leave databases that agree on it, so whatever else the
databases hold has no influence on them.
-/

namespace AtmSystem.Bank

open Library Model Program

namespace Timestamps

/-- Timestamps are compared byte by byte. -/
scoped instance byteOrder : LinearOrder UInt8 where
  le_refl := UInt8.le_refl
  le_trans _ _ _ := UInt8.le_trans
  le_antisymm _ _ := UInt8.le_antisymm
  le_total := UInt8.le_total
  lt_iff_le_not_ge a b := by grind
  toDecidableLE := inferInstance
  toDecidableEq := inferInstance
  toDecidableLT := inferInstance

end Timestamps

open scoped Timestamps

/-- A transaction without its id, which no report prints. -/
def forgetId (r : Transaction) : Transaction := { r with id := 0 }

/-- The transactions of an account as they are listed, without their ids. -/
def seenEntries (t : Tables) (accountNo : Int) : List Transaction :=
  (newestFirst (entries t accountNo)).map forgetId

structure AgreesOn (accountNo : Int) (t t' : Tables) : Prop where
  account : t.accounts.lookup accountNo = t'.accounts.lookup accountNo
  entries : seenEntries t accountNo = seenEntries t' accountNo

/-! ### The listing -/

theorem newestFirst_eq_listed (rows : List Transaction) :
    newestFirst rows = listed Transaction.createdAt Transaction.id rows := by
  unfold newestFirst listed
  congr

theorem entries_increasing (t : Tables) (accountNo : Int) :
    (entries t accountNo).Pairwise fun r r' => r.id < r'.id :=
  t.transactions.increasing.sublist List.filter_sublist

theorem entries_ids (t : Tables) (accountNo : Int) :
    ((entries t accountNo).map Transaction.id).Nodup := by
  rw [List.Nodup, List.pairwise_map]
  exact (entries_increasing t accountNo).imp Nat.ne_of_lt

/-- A new transaction is listed in front of those that are no newer, whatever
the ids of the others are. -/
theorem seenEntries_insert (t : Tables) (accountNo : Int) (relatedAccount : Option Int)
    (type : TransactionType) (amount : Double) (balanceAfter : Option Double) (createdAt : Bytes) :
    seenEntries (t.insertTransaction
        (fun id => ⟨id, accountNo, relatedAccount, type, amount, balanceAfter, createdAt⟩)
        fun _ => rfl) accountNo =
      (seenEntries t accountNo).takeWhile (fun r => createdAt < r.createdAt) ++
        ⟨0, accountNo, relatedAccount, type, amount, balanceAfter, createdAt⟩ ::
          (seenEntries t accountNo).dropWhile fun r => createdAt < r.createdAt := by
  have hnew (r : Transaction) (hr : r ∈ entries t accountNo) :
      r.id < t.transactions.last + 1 :=
    Nat.lt_succ_of_le (t.transactions.bounded r (List.mem_filter.mp hr).1)
  have hentries (row : Transaction) (hno : row.accountNo = accountNo) :
      (t.transactions.rows ++ [row]).filter (fun r => r.accountNo = accountNo) =
        entries t accountNo ++ [row] := by
    rw [List.filter_append, entries, List.filter_singleton, hno]
    simp
  rw [seenEntries, entries, Tables.insertTransaction_rows, hentries _ rfl,
    newestFirst_eq_listed, listed_concat (entries_ids t accountNo) hnew, seenEntries,
    newestFirst_eq_listed, List.takeWhile_map, List.dropWhile_map, List.map_append, List.map_cons]
  congr <;> exact funext fun r => decide_eq_decide.mpr Iff.rfl

/-- The transactions of a month among those that are seen. -/
theorem seenEntries_month (t : Tables) (accountNo : Int) (month : Bytes) :
    (newestFirst (t.transactions.rows.filter fun r =>
        r.accountNo = accountNo ∧ r.createdAt.take 7 = month)).map forgetId =
      (seenEntries t accountNo).filter fun r => r.createdAt.take 7 = month := by
  have hboth : (t.transactions.rows.filter fun r =>
      r.accountNo = accountNo ∧ r.createdAt.take 7 = month) =
        (entries t accountNo).filter fun r => r.createdAt.take 7 = month := by
    rw [entries, List.filter_filter]
    apply List.filter_congr
    intro r _
    rw [Bool.decide_and, Bool.and_comm]
  rw [hboth, newestFirst_eq_listed, listed_filter (entries_ids t accountNo), seenEntries,
    newestFirst_eq_listed, List.filter_map]
  rfl

theorem sumOfType_forgetId (fp : Rounding) (rows : List Transaction) (type : TransactionType) :
    sumOfType fp (rows.map forgetId) type = sumOfType fp rows type := by
  rw [sumOfType, List.map_map]
  rfl

/-! ### Statements on one account -/

/-- Run on tables that agree on the account, the statement gives answers
related by `Q` and leaves tables that agree on it, or it fails on both. -/
structure Confined (fp : Rounding) (accountNo : Int) {β : Type} (Q : β → β → Prop)
    (statement : Statement β) : Prop where
  exec : ∀ t t', AgreesOn accountNo t t' →
    match statement.exec fp t, statement.exec fp t' with
    | .ok (answer, u), .ok (answer', u') => Q answer answer' ∧ AgreesOn accountNo u u'
    | .error message, .error message' => message = message'
    | _, _ => False

section statements

variable (fp : Rounding) (accountNo : Int)

theorem confined_selectAccount : Confined fp accountNo Eq (.selectAccount accountNo) :=
  ⟨fun _ _ h => ⟨h.account, h⟩⟩

theorem confined_updateBalance (balance : Double) :
    Confined fp accountNo Eq (.updateBalance balance accountNo) := by
  refine ⟨fun t t' h => ?_⟩
  simp only [Statement.exec, h.account]
  split_ifs
  · rfl
  · refine ⟨trivial, ?_, h.entries⟩
    rw [Tables.lookup_setBalance, Tables.lookup_setBalance, h.account]

theorem confined_insertTransaction (relatedAccount : Option Int) (type : TransactionType)
    (amount : Double) (balanceAfter : Option Double) (createdAt : Bytes) :
    Confined fp accountNo Eq
      (.insertTransaction accountNo relatedAccount type amount balanceAfter createdAt) := by
  refine ⟨fun t t' h => ?_⟩
  simp only [Statement.exec, h.account]
  split_ifs
  · rfl
  · rfl
  · refine ⟨trivial, h.account, ?_⟩
    rw [seenEntries_insert, seenEntries_insert, h.entries]

/-- Two lists of transactions that print the same. -/
def SameLines (rows rows' : List Transaction) : Prop := rows.map forgetId = rows'.map forgetId

theorem confined_selectStatement (limit : Nat) :
    Confined fp accountNo SameLines (.selectStatement accountNo limit) := by
  refine ⟨fun t t' h => ⟨?_, h⟩⟩
  have hentries := congrArg (List.take limit) h.entries
  rwa [seenEntries, seenEntries, ← List.map_take, ← List.map_take] at hentries

theorem confined_selectMonth (month : Bytes) :
    Confined fp accountNo Eq (.selectMonth accountNo month) := by
  refine ⟨fun t t' h => ⟨?_, h⟩⟩
  have hmonth : SameLines
      (newestFirst (t.transactions.rows.filter fun r =>
        r.accountNo = accountNo ∧ r.createdAt.take 7 = month))
      (newestFirst (t'.transactions.rows.filter fun r =>
        r.accountNo = accountNo ∧ r.createdAt.take 7 = month)) := by
    rw [SameLines, seenEntries_month, seenEntries_month, h.entries]
  have hcount := congrArg List.length hmonth
  have hsum (type : TransactionType) := congrArg (sumOfType fp · type) hmonth
  simp only [List.length_map] at hcount
  simp only [sumOfType_forgetId] at hsum
  simp only [hcount, hsum]

end statements

/-! ### Runs side by side -/

/-- Two requests under way that agree on the account: an error text that has
been set is the same, and the same calls are going to fail. -/
structure SameView (accountNo : Int) (w w' : World) : Prop where
  tables : AgreesOn accountNo w.store.tables w'.store.tables
  saved : Option.Rel (AgreesOn accountNo) w.store.saved w'.store.saved
  errmsg : w.errmsg = w'.errmsg
  errorSet : w.errorSet = w'.errorSet
  error : w.errorSet = true → w.error = w'.error
  faults : ∀ n : Nat, w.faults[n]?.join = w'.faults[n]?.join

namespace SameView

variable {accountNo : Int} {w w' : World}

theorem fault (h : SameView accountNo w w') : w.fault = w'.fault := by
  have hfirst := h.faults 0
  rwa [← List.head?_eq_getElem?, ← List.head?_eq_getElem?] at hfirst

theorem failed (h : SameView accountNo w w') (message : Bytes) :
    SameView accountNo (w.failed message) (w'.failed message) where
  tables := h.tables
  saved := h.saved
  errmsg := rfl
  errorSet := h.errorSet
  error := h.error
  faults n := by simpa only [World.failed, List.getElem?_tail] using h.faults (n + 1)

theorem succeeded (h : SameView accountNo w w') {s s' : Store}
    (htables : AgreesOn accountNo s.tables s'.tables)
    (hsaved : Option.Rel (AgreesOn accountNo) s.saved s'.saved) :
    SameView accountNo (w.succeeded s) (w'.succeeded s') where
  tables := htables
  saved := hsaved
  errmsg := rfl
  errorSet := h.errorSet
  error := h.error
  faults n := by simpa only [World.succeeded, List.getElem?_tail] using h.faults (n + 1)

/-- A transaction is open in both or in neither. -/
theorem saved_cases (h : SameView accountNo w w') :
    (w.store.saved = none ∧ w'.store.saved = none) ∨
      ∃ saved saved', w.store.saved = some saved ∧ w'.store.saved = some saved' ∧
        AgreesOn accountNo saved saved' := by
  have hsaved := h.saved
  generalize w.store.saved = s, w'.store.saved = s' at hsaved
  cases hsaved with
  | none => exact .inl ⟨rfl, rfl⟩
  | some hagrees => exact .inr ⟨_, _, rfl, rfl, hagrees⟩

end SameView

/-- Answers of calls: both fail alike, or both succeed with related answers. -/
inductive Alike {ε α : Type} (Q : α → α → Prop) : Except ε α → Except ε α → Prop where
  | error (e : ε) : Alike Q (.error e) (.error e)
  | ok {a a' : α} (h : Q a a') : Alike Q (.ok a) (.ok a')

/-- On worlds that agree on the account the programs answer as `Q` says and
leave worlds that agree on it. -/
abbrev Views (fp : Rounding) (accountNo : Int) {α β : Type} (Q : α → β → Prop) (p : Db α)
    (q : Db β) : Prop :=
  Relates (sqlite fp) (sqlite fp) (SameView accountNo) Q p q

section calls

variable {fp : Rounding} {accountNo : Int}

theorem views_begin : Views fp accountNo (Alike Eq) (call .begin) (call .begin) := by
  refine .call fun w w' h => ?_
  simp only [sqlite, ← h.fault]
  cases w.fault with
  | some message => exact ⟨.error _, h.failed _⟩
  | none =>
      rcases h.saved_cases with ⟨hs, hs'⟩ | ⟨saved, saved', hs, hs', -⟩
      · simp only [hs, hs']
        exact ⟨.ok rfl, h.succeeded h.tables (.some h.tables)⟩
      · simp only [hs, hs']
        exact ⟨.error _, h.failed _⟩

theorem views_commit : Views fp accountNo (Alike Eq) (call .commit) (call .commit) := by
  refine .call fun w w' h => ?_
  simp only [sqlite, ← h.fault]
  cases w.fault with
  | some message => exact ⟨.error _, h.failed _⟩
  | none =>
      rcases h.saved_cases with ⟨hs, hs'⟩ | ⟨saved, saved', hs, hs', -⟩
      · simp only [hs, hs']
        exact ⟨.error _, h.failed _⟩
      · simp only [hs, hs']
        exact ⟨.ok rfl, h.succeeded h.tables .none⟩

theorem views_dbRollbackTransaction :
    Views fp accountNo Eq dbRollbackTransaction dbRollbackTransaction := by
  refine .call fun w w' h => ⟨rfl, ?_⟩
  rcases h.saved_cases with ⟨hs, hs'⟩ | ⟨saved, saved', hs, hs', hsaved⟩
  · simp only [sqlite, hs, hs']
    exact { h with errmsg := rfl }
  · simp only [sqlite, hs, hs']
    exact { h with tables := hsaved, saved := .none, errmsg := rfl }

/-- A call that touches nothing: whether it succeeds is the same in both. -/
theorem views_prepare : Views fp accountNo Eq (call .prepare) (call .prepare) := by
  refine .call fun w w' h => ?_
  simp only [sqlite, ← h.fault]
  cases w.fault with
  | some message => exact ⟨rfl, h.failed _⟩
  | none => exact ⟨rfl, h.succeeded h.tables h.saved⟩

theorem views_stepAgain : Views fp accountNo Eq (call .stepAgain) (call .stepAgain) := by
  refine .call fun w w' h => ?_
  simp only [sqlite, ← h.fault]
  cases w.fault with
  | some message => exact ⟨rfl, h.failed _⟩
  | none => exact ⟨rfl, h.succeeded h.tables h.saved⟩

theorem views_setError (text : Bytes) :
    Views fp accountNo Eq (setError text) (setError text) := by
  refine .call fun w w' h => ⟨rfl, ?_⟩
  exact { h with errorSet := rfl, error := fun _ => rfl }

theorem views_setErrmsg : Views fp accountNo Eq setErrmsg setErrmsg := by
  refine .bind (.call fun w w' h => ⟨h.errmsg, h⟩) fun text text' htext => ?_
  rw [htext]
  exact views_setError text'

theorem views_step {β : Type} {statement : Statement β} {Q : β → β → Prop}
    (hstatement : Confined fp accountNo Q statement) :
    Views fp accountNo (Alike Q) (call (.step statement)) (call (.step statement)) := by
  refine .call fun w w' h => ?_
  have hexec := hstatement.exec _ _ h.tables
  simp only [sqlite, ← h.fault]
  cases w.fault with
  | some message => exact ⟨.error _, h.failed _⟩
  | none =>
      cases he : statement.exec fp w.store.tables with
      | error message =>
          cases he' : statement.exec fp w'.store.tables with
          | error message' =>
              simp only [he, he'] at hexec
              subst hexec
              exact ⟨.error _, h.failed _⟩
          | ok result => simp only [he, he'] at hexec
      | ok result =>
          cases he' : statement.exec fp w'.store.tables with
          | error message => simp only [he, he'] at hexec
          | ok result' =>
              simp only [he, he'] at hexec
              exact ⟨.ok hexec.1, h.succeeded hexec.2 h.saved⟩

/-! ### The functions on one account -/

theorem views_refuse {α : Type} (text : Bytes) (a : α) :
    Views fp accountNo Eq (do setError text; return a) (do setError text; return a) :=
  (views_setError text).bind fun _ _ _ => .pure rfl

theorem views_refuseErrmsg {α : Type} {Q : α → α → Prop} {a : α} (h : Q a a) :
    Views fp accountNo Q (do setErrmsg; return a) (do setErrmsg; return a) :=
  views_setErrmsg.bind fun _ _ _ => .pure h

theorem views_rollbackWith {α : Type} (text : Bytes) (a : α) :
    Views fp accountNo Eq (do rollbackWith text; return a) (do rollbackWith text; return a) := by
  have hrollback : Views fp accountNo Eq (rollbackWith text) (rollbackWith text) :=
    views_dbRollbackTransaction.bind fun _ _ _ => views_setError text
  exact hrollback.bind fun _ _ _ => .pure rfl

theorem views_execute {β : Type} {statement : Statement β} {Q : β → β → Prop}
    (hstatement : Confined fp accountNo Q statement) :
    Views fp accountNo (Alike Q) (execute statement) (execute statement) := by
  refine views_prepare.bind fun prepared _ hprepared => ?_
  subst hprepared
  cases prepared with
  | false => exact .pure (.error _)
  | true => exact views_step hstatement

theorem views_executeOrReport {β : Type} {statement : Statement β} {Q : β → β → Prop}
    (hstatement : Confined fp accountNo Q statement) :
    Views fp accountNo (Option.Rel Q) (executeOrReport statement) (executeOrReport statement) := by
  refine (views_execute hstatement).bind fun answer answer' halike => ?_
  cases halike with
  | error code => exact views_refuseErrmsg .none
  | ok hanswers => exact .pure (.some hanswers)

/-- A statement with one answer. -/
theorem views_report {β : Type} {statement : Statement β}
    (hstatement : Confined fp accountNo Eq statement) :
    Views fp accountNo Eq (executeOrReport statement) (executeOrReport statement) := by
  refine (views_executeOrReport hstatement).mono fun answer answer' hanswers => ?_
  cases hanswers with
  | none => rfl
  | some heq => rw [heq]

/-- A statement that is only told to have been run. -/
theorem views_isSome {β : Type} {statement : Statement β}
    (hstatement : Confined fp accountNo Eq statement) :
    Views fp accountNo Eq (do return (← executeOrReport statement).isSome)
      (do return (← executeOrReport statement).isSome) := by
  refine (views_report hstatement).bind fun answer _ hanswer => ?_
  subst hanswer
  exact .pure rfl

theorem views_dbReadAccount :
    Views fp accountNo Eq (dbReadAccount accountNo) (dbReadAccount accountNo) := by
  refine (views_report (confined_selectAccount fp accountNo)).bind fun answer _ hanswer => ?_
  subst hanswer
  rcases answer with _ | _ | row <;> exact .pure rfl

/-- A call that tells itself why it failed. -/
theorem views_reported {op : SqlOp (Except Bytes Unit)}
    (hop : Views fp accountNo (Alike Eq) (call op) (call op)) :
    Views fp accountNo Eq
      (do
        match ← call op with
        | .ok () => return true
        | .error message => do
            setError message
            return false)
      (do
        match ← call op with
        | .ok () => return true
        | .error message => do
            setError message
            return false) := by
  refine hop.bind fun answer answer' halike => ?_
  cases halike with
  | error message => exact views_refuse message false
  | ok _ => exact .pure rfl

theorem views_dbBeginTransaction :
    Views fp accountNo Eq dbBeginTransaction dbBeginTransaction := views_reported views_begin

theorem views_dbCommitTransaction :
    Views fp accountNo Eq dbCommitTransaction dbCommitTransaction := views_reported views_commit

/-- A step of a transaction, which a failure rolls back. -/
theorem views_orRollback {α : Type} {step : Db Bool} {a : α} {rest : Db α}
    (hstep : Views fp accountNo Eq step step) (hrest : Views fp accountNo Eq rest rest) :
    Views fp accountNo Eq
      (do
        if !(← step) then
          dbRollbackTransaction
          return a
        rest)
      (do
        if !(← step) then
          dbRollbackTransaction
          return a
        rest) := by
  refine hstep.bind fun done _ hdone => ?_
  subst hdone
  cases done with
  | false => exact views_dbRollbackTransaction.bind fun _ _ _ => .pure rfl
  | true => exact hrest

theorem views_dbGetBalance :
    Views fp accountNo Eq (dbGetBalance accountNo) (dbGetBalance accountNo) := by
  refine views_dbReadAccount.bind fun answer _ hanswer => ?_
  subst hanswer
  rcases answer with _ | _ | ⟨info, pinHash, salt⟩
  · exact .pure rfl
  · exact views_refuse _ _
  · exact .pure rfl

theorem views_checkedBalanceTransaction (env : Environment) (notPositive : Bytes)
    (amount : Double) (isCredit : Bool) (type : TransactionType) :
    Views fp accountNo Eq
      (checkedBalanceTransaction fp env notPositive accountNo amount isCredit type)
      (checkedBalanceTransaction fp env notPositive accountNo amount isCredit type) := by
  simp only [checkedBalanceTransaction, applyBalanceTransaction]
  split
  · exact views_refuse _ _
  refine views_dbBeginTransaction.bind fun begun _ hbegun => ?_
  subst hbegun
  cases begun with
  | false => exact .pure rfl
  | true =>
      refine views_dbReadAccount.bind fun answer _ hanswer => ?_
      subst hanswer
      rcases answer with _ | _ | ⟨info, pinHash, salt⟩
      · exact views_rollbackWith _ _
      · exact views_rollbackWith _ _
      simp only
      split
      · exact views_rollbackWith _ _
      · apply views_orRollback (views_isSome (confined_updateBalance fp accountNo _))
        apply views_orRollback
          (views_isSome (confined_insertTransaction fp accountNo none type amount _ _))
        apply views_orRollback views_dbCommitTransaction
        exact .pure rfl

theorem views_appendRows {Row : Type} (line : Row → Bytes) (exceeded : Bytes) (rows : List Row)
    (buffer : TextBuffer) :
    Views fp accountNo Eq (appendRows line exceeded rows buffer)
      (appendRows line exceeded rows buffer) := by
  induction rows generalizing buffer with
  | nil => exact .pure rfl
  | cons row rest ih =>
      rw [appendRows]
      rcases appendFormatted maxMessageSize buffer (line row) with ⟨_ | _, longer⟩
      · exact views_refuse _ _
      · refine views_stepAgain.bind fun more _ hmore => ?_
        subst hmore
        cases more with
        | false => exact views_refuseErrmsg rfl
        | true => exact ih longer

/-- Rows that print the same make the same report. -/
theorem appendRows_map {Row : Type} {line : Row → Bytes} {f : Row → Row}
    (hline : ∀ row, line (f row) = line row) (exceeded : Bytes) (rows : List Row)
    (buffer : TextBuffer) :
    appendRows line exceeded (rows.map f) buffer = appendRows line exceeded rows buffer := by
  induction rows generalizing buffer with
  | nil => rfl
  | cons row rest ih => simp only [List.map_cons, appendRows, hline, ih]

theorem views_dbBuildMiniStatement :
    Views fp accountNo Eq (dbBuildMiniStatement accountNo) (dbBuildMiniStatement accountNo) := by
  refine views_dbReadAccount.bind fun answer _ hanswer => ?_
  subst hanswer
  rcases answer with _ | _ | ⟨info, pinHash, salt⟩
  · exact .pure rfl
  · exact views_refuse _ _
  simp only [listingReport]
  rcases appendFormatted maxMessageSize ⟨[], 0⟩ (statementHeader info) with ⟨_ | _, buffer⟩
  · exact views_refuse _ _
  refine (views_executeOrReport (confined_selectStatement fp accountNo 5)).bind
    fun answer answer' hanswers => ?_
  cases hanswers with
  | none => exact .pure rfl
  | @some rows rows' hrows =>
      have hline (r : Transaction) : statementLine (forgetId r) = statementLine r := rfl
      have hsame : appendRows statementLine
          (ascii "Mini statement output exceeded buffer size.") rows' buffer =
            appendRows statementLine
              (ascii "Mini statement output exceeded buffer size.") rows buffer := by
        rw [← appendRows_map hline, ← hrows, appendRows_map hline]
      cases rows with
      | nil =>
          rw [SameLines, List.map_nil, eq_comm, List.map_eq_nil_iff] at hrows
          subst hrows
          exact .pure rfl
      | cons first rest =>
          cases rows' with
          | nil => cases hrows
          | cons first' rest' =>
              simp only [hsame]
              exact views_appendRows _ _ _ _

theorem views_dbBuildMonthlySummary (env : Environment) (month : Bytes) :
    Views fp accountNo Eq (dbBuildMonthlySummary fp env accountNo month)
      (dbBuildMonthlySummary fp env accountNo month) := by
  simp only [dbBuildMonthlySummary]
  cases resolveMonth env month with
  | none => exact views_refuse _ _
  | some resolvedMonth =>
      refine views_dbReadAccount.bind fun answer _ hanswer => ?_
      subst hanswer
      rcases answer with _ | _ | ⟨info, pinHash, salt⟩
      · exact .pure rfl
      · exact views_refuse _ _
      refine (views_report (confined_selectMonth fp accountNo resolvedMonth)).bind
        fun totals _ htotals => ?_
      subst htotals
      cases totals <;> exact .pure rfl

theorem views_dbBuildAccountDetails :
    Views fp accountNo Eq (dbBuildAccountDetails accountNo) (dbBuildAccountDetails accountNo) := by
  refine (views_execute (confined_selectAccount fp accountNo)).bind
    fun answer answer' hanswers => ?_
  cases hanswers with
  | error code =>
      cases code with
      | notPrepared => exact views_refuseErrmsg rfl
      | constraint => exact views_refuse _ _
      | failure => exact views_refuse _ _
  | @ok row _ hrow =>
      subst hrow
      cases row with
      | none => exact views_refuse _ _
      | some row =>
          refine (views_execute (confined_selectStatement fp accountNo 1)).bind
            fun latest latest' hlatest => ?_
          cases hlatest with
          | error code =>
              cases code with
              | notPrepared => exact views_refuseErrmsg rfl
              | constraint => exact .pure rfl
              | failure => exact .pure rfl
          | @ok rows rows' hrows =>
              cases rows with
              | nil =>
                  rw [SameLines, List.map_nil, eq_comm, List.map_eq_nil_iff] at hrows
                  subst hrows
                  exact .pure rfl
              | cons first rest =>
                  cases rows' with
                  | nil => cases hrows
                  | cons first' rest' =>
                      refine .pure ?_
                      have hfirst : forgetId first = forgetId first' := (List.cons.inj hrows).1
                      have htime := congrArg Transaction.createdAt hfirst
                      have htype := congrArg Transaction.type hfirst
                      have hamount := congrArg Transaction.amount hfirst
                      simp only [forgetId] at htime htype hamount
                      rw [htime, htype, hamount]

end calls

end AtmSystem.Bank
