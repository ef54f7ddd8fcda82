import AtmSystem.Bank.Printing
import AtmSystem.Semantics.Reported
import AtmSystem.Safety.Columns
import AtmSystem.Safety.LegacyTransactions

/-!
Statements always fit. A column is padded to a width, which is no bound, but
every column has one, and a statement lists five rows or twenty-five; so the
reports that check the room in their buffer never run out of it, and the
responses around the four reports below are sent as they are.
-/

namespace AtmSystem.Bank

open Library Model Program

/-! ### The length of a line -/

theorem ascii_length (text : String) : (ascii text).length = text.toList.length :=
  List.length_map _

theorem space_length : space.length = 1 := rfl

theorem snprintf_length_le (size : Nat) (text : Bytes) :
    (snprintf size text).length ≤ size - 1 := by
  rw [snprintf, List.length_take]
  omega

theorem displayType_length (type : TransactionType) : (displayType type).length ≤ 18 := by
  cases type <;> decide

theorem yesOrNo_length (flag : Int) : (yesOrNo flag).length ≤ 3 := by
  unfold yesOrNo
  split <;> decide

theorem relatedText_length (relatedAccount : Option Int) :
    (relatedText relatedAccount).length ≤ 63 := by
  cases relatedAccount with
  | none => decide
  | some other => exact snprintf_length_le 64 _

theorem statementLine_length {row : Transaction} (hstamp : row.createdAt.length ≤ 31)
    (hamount : Printable row.amount) : (statementLine row).length ≤ 465 := by
  have htype := displayType_length row.type
  have hrelated := relatedText_length row.relatedAccount
  unfold Printable at hamount
  unfold statementLine
  cases row.balanceAfter with
  | none =>
      have hshown : (ascii "n/a").length = 3 := rfl
      simp only [List.length_append, padRight_length, space_length, List.length_singleton, hshown]
      omega
  | some balance =>
      have hshown := snprintf_length_le 32 (formatAmount balance)
      simp only [List.length_append, padRight_length, space_length, List.length_singleton]
      omega

theorem recentLine_length {row : Transaction} (hstamp : row.createdAt.length ≤ 31)
    (hamount : Printable row.amount) (haccount : IsInt row.accountNo) :
    (recentLine row).length ≤ 445 := by
  have htype := displayType_length row.type
  have hrelated := relatedText_length row.relatedAccount
  have hnumber := formatInt_length haccount.1 haccount.2
  unfold Printable at hamount
  simp only [recentLine, List.length_append, padRight_length, space_length, List.length_singleton]
  omega

/-! ### The length of a report -/

theorem flatMap_length_le {Row : Type} {line : Row → Bytes} {rows : List Row} {limit bound : Nat}
    (hrows : rows.length ≤ limit) (hline : ∀ row ∈ rows, (line row).length ≤ bound) :
    (rows.flatMap line).length ≤ limit * bound := by
  have hsum : (rows.map fun row => (line row).length).sum ≤ rows.length * bound := by
    rw [← smul_eq_mul, ← @List.length_map _ _ rows fun row => (line row).length]
    apply List.sum_le_card_nsmul
    intro length hlength
    obtain ⟨row, hrow, rfl⟩ := List.mem_map.mp hlength
    exact hline row hrow
  rw [List.length_flatMap]
  exact hsum.trans (Nat.mul_le_mul_right bound hrows)

theorem mem_of_listed {rows : List Transaction} {n : Nat} {r : Transaction}
    (hr : r ∈ (newestFirst rows).take n) : r ∈ rows :=
  (List.perm_insertionSort _ rows).subset (List.mem_of_mem_take hr)

section reports

variable {fp : Rounding} {t : Tables} {accountNo : Int} {row : Account}

theorem statementHeader_length (h : Bounded t) (hrow : t.accounts.lookup accountNo = some row) :
    (statementHeader (row.info accountNo)).length ≤ 600 := by
  have hnumber := formatInt_length (h.numbers accountNo row hrow).1 (h.numbers accountNo row hrow).2
  have hname := snprintf_length_le 64 row.name
  have hbalance : (formatAmount row.balance).length ≤ 317 := h.sums.balance accountNo row hrow
  simp only [statementHeader, Account.info, List.length_append, padRight_length, space_length,
    ascii_length, String.reduceToList, List.length_cons, List.length_nil]
  omega

theorem statementRows_length (h : Bounded t) (accountNo : Int) :
    ((statementRows t accountNo).flatMap statementLine).length ≤ 5 * 465 := by
  apply flatMap_length_le (List.length_take_le _ _)
  intro r hr
  have hmem : r ∈ t.transactions.rows := (List.mem_filter.mp (mem_of_listed hr)).1
  exact statementLine_length (h.timestamps _ (List.mem_map_of_mem hmem)) (h.sums.amount r hmem)

theorem recentRows_length (h : Bounded t) (limit : Int) :
    (((newestFirst t.transactions.rows).take (clampLimit limit)).flatMap recentLine).length ≤
      25 * 445 := by
  have hlimit : clampLimit limit ≤ 25 := by
    unfold clampLimit
    split
    · omega
    split <;> omega
  apply flatMap_length_le ((List.length_take_le _ _).trans hlimit)
  intro r hr
  have hmem := mem_of_listed hr
  obtain ⟨row, hrow⟩ := h.keys.account r hmem
  exact recentLine_length (h.timestamps _ (List.mem_map_of_mem hmem)) (h.sums.amount r hmem)
    (h.numbers _ row hrow)

theorem recentHeader_length : recentHeader.length ≤ 100 := by decide

/-! The other two reports are printed into the buffer by one call. -/

theorem snprintf_length_le_text (size : Nat) (text : Bytes) :
    (snprintf size text).length ≤ text.length := by
  rw [snprintf, List.length_take]
  omega

theorem printable_sumDoubles (hprint : ∀ q, Printable (fp.round q)) (amounts : List Double) :
    Printable (sumDoubles fp amounts) := by
  have hfold (amounts : List Double) (x : Double) (hx : Printable x) :
      Printable (amounts.foldl (Double.add fp) x) := by
    induction amounts generalizing x with
    | nil => exact hx
    | cons amount rest ih => exact ih _ (printable_add hprint x amount)
  exact hfold amounts 0 printable_zero

theorem resolveMonth_length {env : Environment} {input month : Bytes}
    (h : resolveMonth env input = some month) : month.length ≤ 7 := by
  unfold resolveMonth at h
  split at h
  · cases h
    exact snprintf_length_le 8 _
  split at h
  · cases h
  split at h
  · cases h
    omega
  · cases h

theorem monthlySummary_length (hprint : ∀ q, Printable (fp.round q)) (h : Bounded t)
    (hrow : t.accounts.lookup accountNo = some row) {month : Bytes} (hmonth : month.length ≤ 7)
    {totals : MonthTotals} (hdeposits : Printable totals.deposits)
    (hwithdrawals : Printable totals.withdrawals) (hsent : Printable totals.transfersSent)
    (hreceived : Printable totals.transfersReceived) :
    (monthlySummary fp (row.info accountNo) month totals).length ≤ 3000 := by
  have hnumber := formatInt_length (h.numbers accountNo row hrow).1 (h.numbers accountNo row hrow).2
  have hname := snprintf_length_le 64 row.name
  have hbalance : Printable row.balance := h.sums.balance accountNo row hrow
  have hcount := formatInt_length (toInt32_isInt totals.count).1 (toInt32_isInt totals.count).2
  have hnet := printable_sub hprint (((totals.deposits.add fp totals.transfersReceived).sub fp
    totals.withdrawals)) totals.transfersSent
  unfold Printable at hbalance hdeposits hwithdrawals hsent hreceived hnet
  refine (snprintf_length_le_text _ _).trans ?_
  simp only [Account.info, columnInt, List.length_append, ascii_length, String.reduceToList,
    List.length_cons, List.length_nil]
  omega

theorem accountDetails_length (h : Bounded t) (hrow : t.accounts.lookup accountNo = some row)
    {latestActivity : Bytes} (hlatest : latestActivity.length ≤ 127) :
    (accountDetails accountNo row latestActivity).length ≤ 3000 := by
  have hnumber := formatInt_length (h.numbers accountNo row hrow).1 (h.numbers accountNo row hrow).2
  have hname := snprintf_length_le 64 row.name
  have hbalance : (formatAmount row.balance).length ≤ 317 := h.sums.balance accountNo row hrow
  have hlocked := yesOrNo_length row.isLocked
  have hattempts : (formatInt row.failedAttempts).length ≤ 11 := by
    have hlock := h.locks accountNo row hrow
    have hlow := hlock.nonneg
    have hhigh := hlock.atMostThree
    apply formatInt_length
    · rw [intMin]
      omega
    · rw [intMax]
      omega
  have hcreated := snprintf_length_le 32 row.createdAt
  refine (snprintf_length_le_text _ _).trans ?_
  simp only [List.length_append, ascii_length, String.reduceToList, List.length_cons,
    List.length_nil]
  omega

end reports

/-! ### What is answered -/

/-- The response around a report is sent as it is. -/
def SentWhole (fp : Rounding) (store : Store) (report : Environment → Db (Option Bytes)) : Prop :=
  ∀ env payload, ((report env).exec fp env store).1 = some payload →
    makeResponse ⟨.ok, payload⟩ = ascii "OK" ++ [newline] ++ payload

theorem sentWhole_of_always {fp : Rounding} {t : Tables} {report : Environment → Db (Option Bytes)}
    (h : ∀ env : Environment, Always (SqlAnswers fp env.Faulty) (report env) ⟨t, none⟩
      fun answer _ => ∀ payload, answer = some payload → payload.length ≤ 20000) :
    SentWhole fp ⟨t, none⟩ report := by
  intro env payload hpayload
  have hshort := exec_of_always fp env _ _ (h env) payload hpayload
  have hok : (ascii "OK").length = 2 := rfl
  apply List.take_of_length_le
  simp only [List.length_append, List.length_singleton, hok, maxMessageSize]
  omega

section reports

variable {fp : Rounding} {t : Tables} {faulty : Prop}

/-- Where nothing is answered, nothing is too long. -/
theorem short_of_none (payload : Bytes) (h : none = some payload) : payload.length ≤ 20000 := by
  cases h

theorem dbBuildMiniStatement_fits (h : Bounded t) (accountNo : Int) :
    Always (SqlAnswers fp faulty) (dbBuildMiniStatement accountNo) ⟨t, none⟩
      fun answer _ => ∀ payload, answer = some payload → payload.length ≤ 20000 := by
  cases hrow : t.accounts.lookup accountNo with
  | none =>
      simp only [dbBuildMiniStatement, always_bind, always_dbReadAccount, hrow, always_pure,
        always_setError]
      exact ⟨fun _ => short_of_none, short_of_none⟩
  | some row =>
      apply (dbBuildMiniStatement_prints hrow).mono
      intro answer _ hprints payload hpayload
      have hheader := statementHeader_length h hrow
      have hrows := statementRows_length h accountNo
      have hnone : (ascii "No transactions found.\n").length = 23 := rfl
      have hlength : (statementText (row.info accountNo) (statementRows t accountNo)).length ≤
          20000 := by
        rw [statementText, List.length_append]
        split <;> omega
      have hroom : 20000 < maxMessageSize := by decide
      rw [hprints.correct (by omega) payload hpayload]
      exact hlength

theorem dbBuildRecentTransactions_fits (h : Bounded t) (limit : Int) :
    Always (SqlAnswers fp faulty) (dbBuildRecentTransactions limit) ⟨t, none⟩
      fun answer _ => ∀ payload, answer = some payload → payload.length ≤ 20000 := by
  have hquery : (Statement.selectRecent (clampLimit limit)).exec fp t =
      .ok ((newestFirst t.transactions.rows).take (clampLimit limit), t) := rfl
  have hheader := recentHeader_length
  have hrows := recentRows_length h limit
  have hnone : (ascii "No transactions found.\n").length = 23 := rfl
  unfold dbBuildRecentTransactions
  generalize recentHeader = header at hheader ⊢
  generalize ascii "No transactions found.\n" = noRows at hnone ⊢
  generalize ascii "Recent transaction output exceeded buffer size." = exceeded
  apply (listingReport_prints header hquery recentLine noRows exceeded).mono
  rintro answer _ ⟨hprints, -⟩ payload hpayload
  generalize (newestFirst t.transactions.rows).take (clampLimit limit) = rows at hrows hprints
  have hlength : (header ++ if rows = [] then noRows else rows.flatMap recentLine).length ≤
      20000 := by
    rw [List.length_append]
    split <;> omega
  have hroom : 20000 < maxMessageSize := by decide
  rw [hprints.correct (by omega) payload hpayload]
  exact hlength

theorem dbBuildMonthlySummary_fits (hprint : ∀ q, Printable (fp.round q)) (h : Bounded t)
    (env : Environment) (accountNo : Int) (month : Bytes) :
    Always (SqlAnswers fp faulty) (dbBuildMonthlySummary fp env accountNo month) ⟨t, none⟩
      fun answer _ => ∀ payload, answer = some payload → payload.length ≤ 20000 := by
  unfold dbBuildMonthlySummary
  cases hmonth : resolveMonth env month with
  | none =>
      simp only [always_bind, always_setError, always_pure]
      exact short_of_none
  | some resolvedMonth =>
  cases hrow : t.accounts.lookup accountNo with
  | none =>
      simp only [always_bind, always_dbReadAccount, hrow, always_pure, always_setError]
      exact ⟨fun _ => short_of_none, short_of_none⟩
  | some row =>
      simp only [always_bind, always_dbReadAccount, hrow, always_pure, always_executeOrReport,
        Statement.exec, Option.some.injEq]
      refine ⟨fun _ => short_of_none, fun _ => short_of_none, ?_⟩
      rintro _ rfl
      refine le_trans (monthlySummary_length hprint h hrow (resolveMonth_length hmonth) ?_ ?_ ?_ ?_)
        (by omega)
      all_goals exact printable_sumDoubles hprint _

theorem dbBuildAccountDetails_fits (h : Bounded t) (accountNo : Int) :
    Always (SqlAnswers fp faulty) (dbBuildAccountDetails accountNo) ⟨t, none⟩
      fun answer _ => ∀ payload, answer = some payload → payload.length ≤ 20000 := by
  cases hrow : t.accounts.lookup accountNo with
  | none =>
      simp only [dbBuildAccountDetails, always_bind, always_execute, Statement.exec, hrow,
        always_setErrmsg, always_setError, always_pure]
      exact ⟨fun _ => ⟨short_of_none, short_of_none⟩, short_of_none⟩
  | some row =>
      have hshort {latestActivity : Bytes} (hlatest : latestActivity.length ≤ 127) :
          ∀ payload, some (accountDetails accountNo row latestActivity) = some payload →
            payload.length ≤ 20000 := by
        intro payload hpayload
        rw [← Option.some.inj hpayload]
        exact (accountDetails_length h hrow hlatest).trans (by omega)
      have hnone : (ascii "No transactions yet").length ≤ 127 := by decide
      simp only [dbBuildAccountDetails, always_bind, always_execute, Statement.exec, hrow,
        always_setErrmsg, always_setError, always_pure]
      refine ⟨fun _ => ⟨short_of_none, short_of_none⟩, fun _ => ⟨short_of_none, hshort hnone⟩, ?_⟩
      cases (newestFirst (t.transactions.rows.filter fun r => r.accountNo = accountNo)).take 1 with
      | nil => exact hshort hnone
      | cons latest rest => exact hshort (snprintf_length_le 128 _)

end reports

/-- The four reports on accounts and transactions in the server's buffer: the
two that check its room never find it exceeded, and the responses around them
all are sent whole. -/
structure StatementsFit (fp : Rounding) (store : Store) : Prop where
  miniStatement : ∀ accountNo, NeverReports fp store
    (ascii "Mini statement output exceeded buffer size.") (dbBuildMiniStatement accountNo)
  recentTransactions : ∀ limit, NeverReports fp store
    (ascii "Recent transaction output exceeded buffer size.") (dbBuildRecentTransactions limit)
  miniStatementSent : ∀ accountNo, SentWhole fp store fun _ => dbBuildMiniStatement accountNo
  recentTransactionsSent : ∀ limit, SentWhole fp store fun _ => dbBuildRecentTransactions limit
  monthlySummarySent : ∀ accountNo month,
    SentWhole fp store fun env => dbBuildMonthlySummary fp env accountNo month
  accountDetailsSent : ∀ accountNo, SentWhole fp store fun _ => dbBuildAccountDetails accountNo

theorem miniStatement_neverReports {fp : Rounding} {t : Tables} (h : Bounded t) (accountNo : Int) :
    NeverReports fp ⟨t, none⟩ (ascii "Mini statement output exceeded buffer size.")
      (dbBuildMiniStatement accountNo) := by
  apply neverReports_of_guarded
  intro message
  have hother : ascii "Account not found." ≠
      ascii "Mini statement output exceeded buffer size." := by decide
  simp only [dbBuildMiniStatement, guarded_bind]
  -- the texts are named so that nothing evaluates them
  generalize ascii "Mini statement output exceeded buffer size." = exceeded at hother ⊢
  generalize ascii "Account not found." = missing at hother ⊢
  generalize ascii "No transactions found.\n" = noRows
  apply heard_dbReadAccount accountNo
  · exact fun _ => trivial
  · intro _ message'
    exact ⟨fun hreported => absurd hreported hother, fun _ _ _ => trivial⟩
  · intro row hrow message'
    have hheader := statementHeader_length h hrow
    have hrows := statementRows_length h accountNo
    have hquery : (Statement.selectStatement accountNo 5).exec fp t =
        .ok (statementRows t accountNo, t) := rfl
    change Program.Guarded _ _ (listingReport (statementHeader (row.info accountNo)) _ _ _ _) _ _
    generalize statementHeader (row.info accountNo) = header at hheader ⊢
    have hfits : (header ++ (statementRows t accountNo).flatMap statementLine).length <
        maxMessageSize := by
      rw [List.length_append, maxMessageSize]
      omega
    exact listingReport_reports header hquery statementLine noRows exceeded hfits

/-- If `%.2f` prints at most 317 characters of a double, the statements fit in
every state that starts and requests lead to, with any legacy files. -/
theorem statements_fit {fp : Rounding} (hprint : ∀ q, Printable (fp.round q)) (files : LegacyFiles)
    {events : List LifeEvent} (hclock : ∀ event ∈ events, event.Allowed ClockFits) :
    StatementsFit fp (lived fp files (offline Tables.empty) events).server.store := by
  obtain ⟨hsaved, hbounded⟩ := bounded_of_life hprint files hclock
  generalize (lived fp files (offline Tables.empty) events).server.store = store at hsaved hbounded
  obtain ⟨t, saved⟩ := store
  obtain rfl : saved = none := hsaved
  change Bounded t at hbounded
  constructor
  · exact miniStatement_neverReports hbounded
  · intro limit
    apply neverReports_of_guarded
    intro message
    have hheader := recentHeader_length
    have hrows := recentRows_length hbounded limit
    have hquery : (Statement.selectRecent (clampLimit limit)).exec fp t =
        .ok ((newestFirst t.transactions.rows).take (clampLimit limit), t) := rfl
    unfold dbBuildRecentTransactions
    generalize recentHeader = header at hheader ⊢
    have hfits : (header ++ ((newestFirst t.transactions.rows).take
        (clampLimit limit)).flatMap recentLine).length < maxMessageSize := by
      rw [List.length_append, maxMessageSize]
      omega
    exact listingReport_reports header hquery recentLine _ _ hfits
  · intro accountNo
    exact sentWhole_of_always fun _ => dbBuildMiniStatement_fits hbounded accountNo
  · intro limit
    exact sentWhole_of_always fun _ => dbBuildRecentTransactions_fits hbounded limit
  · intro accountNo month
    exact sentWhole_of_always fun env =>
      dbBuildMonthlySummary_fits hprint hbounded env accountNo month
  · intro accountNo
    exact sentWhole_of_always fun _ => dbBuildAccountDetails_fits hbounded accountNo

/-- Results from `limit` on become infinite; the others are kept as they are. -/
def overflowingAt (limit : ℚ) (hlimit : 0 < limit) : Rounding where
  round q := if limit ≤ q then .posInf else if q ≤ -limit then .negInf else .fin q
  round_ne_nan q := by
    split
    · exact nofun
    split <;> exact nofun
  round_mono p q hpq := by
    by_cases hhigh : limit ≤ q
    · rw [if_pos hhigh]
      split
      · trivial
      split <;> trivial
    have hp : ¬ limit ≤ p := fun h => hhigh (h.trans hpq)
    rw [if_neg hhigh, if_neg hp]
    by_cases hlow : p ≤ -limit
    · rw [if_pos hlow]
      split <;> trivial
    have hq : ¬ q ≤ -limit := fun h => hlow (hpq.trans h)
    rw [if_neg hlow, if_neg hq]
    exact hpq
  round_zero := by
    rw [if_neg (not_le.mpr hlimit), if_neg (by linarith)]
    rfl

theorem overflowingAt_cases {limit : ℚ} (hlimit : 0 < limit) (q : ℚ) {P : Double → Prop}
    (hposInf : P .posInf) (hnegInf : P .negInf) (hfin : |q| < limit → P (.fin q)) :
    P ((overflowingAt limit hlimit).round q) := by
  change P (if limit ≤ q then .posInf else if q ≤ -limit then .negInf else .fin q)
  split
  · exact hposInf
  split
  · exact hnegInf
  · rename_i hhigh hlow
    exact hfin (abs_lt.mpr ⟨not_le.mp hlow, not_le.mp hhigh⟩)

/-- The range of a double. -/
def overflowing : Rounding := overflowingAt (2 ^ 1024) (by positivity)

theorem printable_overflowing (q : ℚ) : Printable (overflowing.round q) := by
  apply overflowingAt_cases _ q printable_posInf printable_negInf
  intro hrange
  have hlength := formatAmount_length_of_range hrange
  unfold Printable
  omega

/-- A server with two transactions in its old files, and an admin who credits
the account. -/
def creditedLife : List LifeEvent :=
  [.start plainStartup, .client .connect,
    .client (.request (plain "ADMIN_LOGIN\nroot\nletmein99")),
    .client (.request (plain "ADMIN_CREDIT\n7\n100"))]

theorem statements_fit_credited :
    let files := adaFiles "# closed\n"
    let store := (lived overflowing files (offline Tables.empty) creditedLife).server.store
    store.tables.transactions.rows.map Transaction.id = [1, 2, 3] ∧
      StatementsFit overflowing store :=
  ⟨by decide +kernel, statements_fit printable_overflowing (adaFiles "# closed\n") (by decide)⟩

end AtmSystem.Bank
