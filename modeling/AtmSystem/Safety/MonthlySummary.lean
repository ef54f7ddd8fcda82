import AtmSystem.Bank.View
import AtmSystem.Safety.Ledger

/-!
The monthly summary. It counts all transactions of the month but adds up four
types of them, and what an admin credited or debited is of neither of the four.
So its net change is the change of the balance in that month exactly if the
admins' credits and debits of the month cancel out.
-/

namespace AtmSystem.Bank

open Library Model Program

/-! ### The report -/

/-- The aggregates of the statement behind the report. -/
def monthTotals (fp : Rounding) (t : Tables) (accountNo : Int) (month : Bytes) : MonthTotals :=
  let rows := newestFirst (t.transactions.rows.filter fun r =>
    r.accountNo = accountNo ∧ r.createdAt.take 7 = month)
  { count := rows.length
    deposits := sumOfType fp rows .deposit
    withdrawals := sumOfType fp rows .withdraw
    transfersSent := sumOfType fp rows .transferSent
    transfersReceived := sumOfType fp rows .transferReceived }

/-- What the report prints as the net change. -/
def netChange (fp : Rounding) (totals : MonthTotals) : Double :=
  ((totals.deposits.add fp totals.transfersReceived).sub fp totals.withdrawals).sub fp
    totals.transfersSent

/-- The report on an account that exists, when no call fails. -/
theorem dbBuildMonthlySummary_exec {fp : Rounding} {env : Environment} (hquiet : ¬ env.Faulty)
    {t : Tables} {accountNo : Int} {row : Account} (hrow : t.accounts.lookup accountNo = some row)
    {input month : Bytes} (hmonth : resolveMonth env input = some month) :
    (dbBuildMonthlySummary fp env accountNo input).exec fp env ⟨t, none⟩ =
      (some (monthlySummary fp (row.info accountNo) month (monthTotals fp t accountNo month)),
        ⟨t, none⟩) := by
  have hruns : Always (SqlAnswers fp env.Faulty) (dbBuildMonthlySummary fp env accountNo input)
      ⟨t, none⟩ fun answer s' =>
        answer = some (monthlySummary fp (row.info accountNo) month
          (monthTotals fp t accountNo month)) ∧ s' = ⟨t, none⟩ := by
    simp only [dbBuildMonthlySummary, hmonth, dbReadAccount, always_bind,
      always_executeOrReport, Statement.exec, hrow, hquiet, false_implies, true_and, always_pure]
    exact ⟨rfl, trivial⟩
  obtain ⟨hanswer, hstore⟩ := exec_of_always fp env _ _ hruns
  exact Prod.ext hanswer hstore

/-! ### Sums by type -/

/-- The transactions of a month. -/
def entriesOf (t : Tables) (accountNo : Int) (month : Bytes) : List Transaction :=
  (entries t accountNo).filter fun r => r.createdAt.take 7 = month

def totalOf (type : TransactionType) (rows : List Transaction) : ℚ :=
  (rows.map fun r => if r.type = type then r.amount.value else 0).sum

def adminCredits (rows : List Transaction) : ℚ := totalOf .adminCredit rows

def adminDebits (rows : List Transaction) : ℚ := totalOf .adminDebit rows

/-- What the types of the report leave of the change. -/
theorem sum_signedAmount (rows : List Transaction) :
    (rows.map signedAmount).sum =
      totalOf .deposit rows + totalOf .transferReceived rows - totalOf .withdraw rows -
        totalOf .transferSent rows + (adminCredits rows - adminDebits rows) := by
  induction rows with
  | nil => simp [totalOf, adminCredits, adminDebits]
  | cons r rest ih =>
      simp only [adminCredits, adminDebits, totalOf, List.map_cons, List.sum_cons] at ih ⊢
      rw [ih, signedAmount]
      cases r.type <;> simp only [reduceCtorEq, if_true, if_false] <;> ring

theorem sumDoubles_fin (amounts : List ℚ) :
    sumDoubles .exact (amounts.map .fin) = .fin amounts.sum := by
  have hfrom (start : ℚ) : (amounts.map Double.fin).foldl (Double.add .exact) (.fin start) =
      .fin (start + amounts.sum) := by
    induction amounts generalizing start with
    | nil => simp
    | cons x rest ih =>
        rw [List.map_cons, List.foldl_cons, List.sum_cons, ← add_assoc]
        exact ih (start + x)
  have hall := hfrom 0
  rwa [zero_add] at hall

/-- Exact sums of finite amounts do not depend on the order of the rows. -/
theorem sumOfType_exact {rows rows' : List Transaction} (hperm : rows'.Perm rows)
    (hfinite : ∀ r ∈ rows, ∃ q : ℚ, r.amount = .fin q) (type : TransactionType) :
    sumOfType .exact rows' type = .fin (totalOf type rows) := by
  have hamounts : (rows'.map fun r => if r.type = type then r.amount else 0) =
      (rows'.map fun r => if r.type = type then r.amount.value else 0).map .fin := by
    rw [List.map_map]
    apply List.map_congr_left
    intro r hr
    obtain ⟨q, hq⟩ := hfinite r (hperm.subset hr)
    simp only [Function.comp_apply, hq]
    split <;> rfl
  rw [sumOfType, hamounts, sumDoubles_fin, totalOf, (hperm.map _).sum_eq]

/-! ### The net change -/

/-- The months in which the account has transactions. -/
def months (t : Tables) (accountNo : Int) : List Bytes :=
  ((entries t accountNo).map fun r => r.createdAt.take 7).dedup

/-- The net change of a month is the change the month's transactions made to the
balance, and over all months it adds up to the balance. -/
structure SummariesBalance (t : Tables) (accountNo : Int) (balance : Double) : Prop where
  month : ∀ month, netChange .exact (monthTotals .exact t accountNo month) =
    .fin ((entriesOf t accountNo month).map signedAmount).sum
  total : sumDoubles .exact ((months t accountNo).map fun month =>
    netChange .exact (monthTotals .exact t accountNo month)) = balance

section balanced

variable {t : Tables} {accountNo : Int} {balance : Double}

theorem monthRows_perm (t : Tables) (accountNo : Int) (month : Bytes) :
    (newestFirst (t.transactions.rows.filter fun r =>
      r.accountNo = accountNo ∧ r.createdAt.take 7 = month)).Perm
        (entriesOf t accountNo month) := by
  refine (List.perm_insertionSort _ _).trans (List.Perm.of_eq ?_)
  rw [entriesOf, entries, List.filter_filter]
  apply List.filter_congr
  intro r _
  rw [Bool.decide_and, Bool.and_comm]

/-- What the admins did is missing. -/
theorem netChange_eq (h : Balanced (entries t accountNo) balance) (month : Bytes) :
    netChange .exact (monthTotals .exact t accountNo month) =
      .fin (((entriesOf t accountNo month).map signedAmount).sum -
        (adminCredits (entriesOf t accountNo month) - adminDebits (entriesOf t accountNo month))) := by
  have hfinite (r : Transaction) (hr : r ∈ entriesOf t accountNo month) :
      ∃ q : ℚ, r.amount = .fin q := by
    obtain ⟨q, -, hq⟩ := h.positive r (List.mem_filter.mp hr).1
    exact ⟨q, hq⟩
  have hsum := sumOfType_exact (monthRows_perm t accountNo month) hfinite
  simp only [netChange, monthTotals, hsum, sum_signedAmount]
  refine congrArg Double.fin ?_
  ring

theorem netChange_iff (h : Balanced (entries t accountNo) balance) (month : Bytes) :
    netChange .exact (monthTotals .exact t accountNo month) =
        .fin ((entriesOf t accountNo month).map signedAmount).sum ↔
      adminCredits (entriesOf t accountNo month) = adminDebits (entriesOf t accountNo month) := by
  rw [netChange_eq h, Double.fin.injEq, sub_eq_self, sub_eq_zero]

/-- The months share out the transactions. -/
theorem sum_months (t : Tables) (accountNo : Int) :
    ((months t accountNo).map fun month =>
      ((entriesOf t accountNo month).map signedAmount).sum).sum =
        ((entries t accountNo).map signedAmount).sum := by
  apply sum_by_key
  · exact List.nodup_dedup _
  · intro r hr
    exact List.mem_dedup.mpr (List.mem_map.mpr ⟨r, hr, rfl⟩)

theorem summariesBalance_iff (h : Balanced (entries t accountNo) balance) :
    SummariesBalance t accountNo balance ↔ ∀ month,
      adminCredits (entriesOf t accountNo month) = adminDebits (entriesOf t accountNo month) := by
  constructor
  · intro hbalance month
    exact (netChange_iff h month).mp (hbalance.month month)
  · intro hcancel
    have hmonth (month : Bytes) := (netChange_iff h month).mpr (hcancel month)
    refine ⟨hmonth, ?_⟩
    simp only [hmonth]
    have hsum := sumDoubles_fin ((months t accountNo).map fun month =>
      ((entriesOf t accountNo month).map signedAmount).sum)
    rw [List.map_map, sum_months, ← h.total] at hsum
    exact hsum

end balanced

/-- An admin credits Ada's account with 100. -/
def adasCredit : List Event :=
  [.connect, .request (plain "CREATE_ACCOUNT\n7\nAda\n1234"),
    .request (plain "ADMIN_LOGIN\nroot\nletmein99"), .request (plain "ADMIN_CREDIT\n7\n100")]

theorem adasCredit_account :
    ∃ row, (reached .exact rootServer adasCredit).store.tables.accounts.lookup 7 = some row := by
  rw [← Option.isSome_iff_exists]
  decide +kernel

end AtmSystem.Bank
