import AtmSystem.Library.Chronology
import AtmSystem.Safety.Ledger
import AtmSystem.Safety.Lockout
import AtmSystem.Safety.MonthlySummary

/-!
The dashboard of the admins. It adds up three tables in one query and looks for
the richest account in another; what it shows agrees with what the other reports
show: the total of the balances is the sum of all transactions, and an account
is counted as locked if it has had its three strikes.
-/

namespace AtmSystem.Bank

open Library Program Model

/-! ### The dashboard -/

/-- Who is shown as the richest: nobody if there is no account, and else an
account that no other one exceeds, and of several the one with the lowest
number. -/
inductive ShowsRichest (t : Tables) : Int → Bytes → Double → Prop where
  | nobody (hnone : t.accounts.rows = []) : ShowsRichest t 0 (ascii "N/A") 0
  | somebody {row : Account} (hrow : row ∈ t.accounts.rows)
      (hfirst : ∀ other ∈ t.accounts.rows, other.balance < row.balance ∨
        other.balance = row.balance ∧ row.accountNo ≤ other.accountNo) :
      ShowsRichest t row.accountNo (snprintf 64 row.name) row.balance

/-- What the dashboard shows of the tables. -/
structure Dashboard (t : Tables) (today : Bytes) (totals : SystemTotals) : Prop where
  accounts : totals.totalAccounts = t.accounts.rows.length
  locked : totals.lockedAccounts =
    (t.accounts.rows.filter fun row => row.failedAttempts = 3).length
  balance : totals.totalBalance = .fin (t.transactions.rows.map signedAmount).sum
  transactions : totals.totalTransactions = t.transactions.rows.length
  todays : totals.todaysTransactions =
    (t.transactions.rows.filter fun r => r.createdAt.take 10 = today).length
  admins : totals.totalAdmins = t.admins.rows.length

section dashboard

variable {t : Tables}

/-- The balances add up to what the transactions add up to. -/
theorem sum_balances (h : Books t) :
    sumDoubles .exact (t.accounts.rows.map Account.balance) =
      .fin (t.transactions.rows.map signedAmount).sum := by
  have hbalance (row : Account) (hrow : row ∈ t.accounts.rows) :
      row.balance = .fin ((entries t row.accountNo).map signedAmount).sum :=
    (h.balanced row.accountNo row (KeyedTable.lookup_of_mem hrow)).total
  have hcovers (r : Transaction) (hr : r ∈ t.transactions.rows) :
      r.accountNo ∈ t.accounts.rows.map Account.accountNo := by
    obtain ⟨row, hrow⟩ := h.keys.account r hr
    obtain ⟨hmem, hno⟩ := KeyedTable.lookup_eq_some_iff.mp hrow
    exact List.mem_map.mpr ⟨row, hmem, hno⟩
  have hsum := sum_by_key Transaction.accountNo signedAmount t.accounts.unique hcovers
  rw [List.map_map] at hsum
  rw [← hsum, ← sumDoubles_fin, List.map_map]
  congr 1
  exact List.map_congr_left hbalance

/-- An account is locked if it has had its strikes. -/
theorem locked_rows (h : ValidLocks t) :
    (t.accounts.rows.filter fun row => row.isLocked = 1) =
      t.accounts.rows.filter fun row => row.failedAttempts = 3 := by
  apply List.filter_congr
  intro row hrow
  exact decide_eq_decide.mpr (h row.accountNo row (KeyedTable.lookup_of_mem hrow)).locked

theorem richest_first (h : Books t) {row : Account}
    (hrow : (richestFirst t.accounts.rows).head? = some row) :
    ShowsRichest t row.accountNo (snprintf 64 row.name) row.balance := by
  have hfinite (row : Account) (hrow : row ∈ t.accounts.rows) : ∃ q : ℚ, row.balance = .fin q :=
    ⟨_, (h.balanced row.accountNo row (KeyedTable.lookup_of_mem hrow)).total⟩
  have hmem : row ∈ t.accounts.rows :=
    (List.perm_insertionSort _ _).subset (List.mem_of_mem_head? hrow)
  refine .somebody hmem ?_
  have hfirst := first_of_insertionSort ?_ ?_ hrow
  · intro other hother
    refine (hfirst other hother).imp_right ?_
    rintro ⟨hequal, hno⟩
    exact ⟨hequal.symm, hno⟩
  · intro a ha b hb
    obtain ⟨q, hq⟩ := hfinite a ha
    obtain ⟨q', hq'⟩ := hfinite b hb
    simp only [hq, hq', Double.fin_lt_fin, Double.fin.injEq]
    rcases lt_trichotomy q q' with hlt | heq | hgt
    · exact .inr (.inl hlt)
    · rcases le_total a.accountNo b.accountNo with hle | hle
      · exact .inl (.inr ⟨heq, hle⟩)
      · exact .inr (.inr ⟨heq.symm, hle⟩)
    · exact .inl (.inl hgt)
  · intro a ha b hb c hc
    obtain ⟨q, hq⟩ := hfinite a ha
    obtain ⟨q', hq'⟩ := hfinite b hb
    obtain ⟨q'', hq''⟩ := hfinite c hc
    simp only [hq, hq', hq'', Double.fin_lt_fin, Double.fin.injEq]
    rintro (hlt | ⟨heq, hle⟩) (hlt' | ⟨heq', hle'⟩)
    · exact .inl (hlt'.trans hlt)
    · exact .inl (heq' ▸ hlt)
    · exact .inl (heq ▸ hlt')
    · exact .inr ⟨heq.trans heq', hle.trans hle'⟩

/-- What the query of the dashboard answers. -/
def systemTotals (fp : Rounding) (t : Tables) (today : Bytes) : SystemTotals where
  totalAccounts := t.accounts.rows.length
  lockedAccounts := (t.accounts.rows.filter fun row => row.isLocked = 1).length
  totalBalance := sumDoubles fp (t.accounts.rows.map Account.balance)
  totalTransactions := t.transactions.rows.length
  todaysTransactions := (t.transactions.rows.filter fun r => r.createdAt.take 10 = today).length
  totalAdmins := t.admins.rows.length

theorem dashboard_totals (hbooks : Books t) (hlocks : ValidLocks t) (today : Bytes) :
    Dashboard t today (systemTotals .exact t today) where
  accounts := rfl
  locked := congrArg List.length (locked_rows hlocks)
  balance := sum_balances hbooks
  transactions := rfl
  todays := rfl
  admins := rfl

/-- The response to a request for the dashboard. -/
def ShowsDashboard (t : Tables) (today : Bytes) (response : Response) : Prop :=
  ∃ totals topAccountNo topName topBalance,
    response = ⟨.ok, systemSummary totals topAccountNo topName topBalance⟩ ∧
      Dashboard t today totals ∧ ShowsRichest t topAccountNo topName topBalance

theorem always_dashboard (hbooks : Books t) (hlocks : ValidLocks t) {env : Environment}
    (hquiet : ¬ env.Faulty) {session : Session} (hadmin : session.isAdmin = true) :
    Always (SqlAnswers .exact env.Faulty) (handleCommand .exact env session .adminDashboard)
      ⟨t, none⟩ fun outcome _ => ShowsDashboard t (env.timestamp.take 10) outcome.2 := by
  have htotals : (Statement.selectSystem (env.timestamp.take 10)).exec .exact t =
      .ok (systemTotals .exact t (env.timestamp.take 10), t) := rfl
  have htop : Statement.selectTopAccount.exec .exact t =
      .ok ((richestFirst t.accounts.rows).head?, t) := rfl
  have hdashboard := dashboard_totals hbooks hlocks (env.timestamp.take 10)
  rw [handleCommand, asAdmin, if_pos hadmin]
  simp only [dbBuildSystemSummary, always_bind, always_executeOrReport, always_execute, htotals,
    htop, hquiet, false_implies, true_and]
  cases hrichest : (richestFirst t.accounts.rows).head? with
  | none =>
      have hnone : t.accounts.rows = [] := by
        have hempty := List.head?_eq_none_iff.mp hrichest
        exact List.perm_nil.mp (hempty ▸ (List.perm_insertionSort _ _).symm)
      exact ⟨_, _, _, _, rfl, hdashboard, .nobody hnone⟩
  | some row => exact ⟨_, _, _, _, rfl, hdashboard, richest_first hbooks hrichest⟩

end dashboard

/-- Ada pays in 100 and takes out 40; then the admin logs in. -/
def auditedDay : List Event :=
  firstCustomer ++ [.connect, .request (plain "ADMIN_LOGIN\nroot\nletmein99")]

end AtmSystem.Bank
