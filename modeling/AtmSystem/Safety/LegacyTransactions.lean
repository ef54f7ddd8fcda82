import AtmSystem.Bank.Opening
import AtmSystem.Semantics.Requests

/-!
The migration of transactions.txt. Lines are inserted one by one until SQLite
takes one no longer; the lines behind that one are left out, and as the table
then has rows, no later start looks at the file again. All lines of existing
accounts are imported if and only if none of them is refused and none stands
behind a line of an account that does not exist.
-/

namespace AtmSystem.Bank

open Library Model

/-! ### Lines -/

/-- The lines of a file, each with the newline it ends in. -/
def fileLines : Bytes → List Bytes
  | [] => []
  | b :: rest =>
      if b = newline then [b] :: fileLines rest
      else
        match fileLines rest with
        | [] => [[b]]
        | line :: more => (b :: line) :: more

theorem fileLines_line {body : Bytes} (hbody : newline ∉ body) (rest : Bytes) :
    fileLines (body ++ newline :: rest) = (body ++ [newline]) :: fileLines rest := by
  induction body with
  | nil => simp [fileLines]
  | cons b more ih =>
      rw [List.mem_cons, not_or] at hbody
      rw [List.cons_append, fileLines, if_neg (Ne.symm hbody.1), ih hbody.2]
      rfl

theorem fileLines_last {body : Bytes} (hbody : newline ∉ body) (hne : body ≠ []) :
    fileLines body = [body] := by
  induction body with
  | nil => exact absurd rfl hne
  | cons b more ih =>
      rw [List.mem_cons, not_or] at hbody
      rw [fileLines, if_neg (Ne.symm hbody.1)]
      cases more with
      | nil => rfl
      | cons c rest => rw [ih hbody.2 (List.cons_ne_nil _ _)]

/-- The first line of a file and what is behind it. -/
theorem exists_line {file : Bytes} (hne : file ≠ []) :
    ∃ line rest, file = line ++ rest ∧ fileLines file = line :: fileLines rest ∧ line ≠ [] ∧
      ∀ size, line.length < size → fgets size file = some (line, rest) := by
  obtain ⟨body, hbody, rfl | ⟨rest, rfl⟩⟩ := exists_firstLine file
  · refine ⟨file, [], (List.append_nil _).symm, fileLines_last hbody hne, hne, ?_⟩
    intro size hsize
    have hfits : file.take (size - 1) = file := List.take_of_length_le (by omega)
    rw [fgets_noNewline hne (by rwa [hfits]), hfits, List.drop_of_length_le (by omega)]
  · refine ⟨body ++ [newline], rest, by simp, fileLines_line hbody rest, by simp, ?_⟩
    intro size hsize
    rw [List.length_append, List.length_singleton] at hsize
    exact fgets_firstLine hbody hsize rest

/-- `fgets` reads a file line by line if every line fits its buffer. -/
theorem readLines_eq {size : Nat} {file : Bytes}
    (hlines : ∀ line ∈ fileLines file, line.length < size) :
    readLines size file = fileLines file := by
  have hloop (calls : Nat) (file : Bytes) (hcalls : file.length ≤ calls)
      (hlines : ∀ line ∈ fileLines file, line.length < size) :
      readLines.loop size calls file = fileLines file := by
    induction calls generalizing file with
    | zero =>
        rw [List.eq_nil_of_length_eq_zero (Nat.le_zero.mp hcalls)]
        rfl
    | succ calls ih =>
        by_cases hne : file = []
        · subst hne
          rfl
        · obtain ⟨line, rest, rfl, hfirst, hline, hfgets⟩ := exists_line hne
          rw [hfirst, List.forall_mem_cons] at hlines
          have hpositive := List.length_pos_iff.mpr hline
          rw [List.length_append] at hcalls
          rw [readLines.loop, hfgets size hlines.1, hfirst]
          exact congrArg (line :: ·) (ih rest (by omega) hlines.2)
  exact hloop file.length file (le_refl _) hlines

/-! ### What is imported -/

/-- A prefix of good items holds all items that are wanted if and only if the
wanted items are good and none stands behind one that is not wanted. -/
theorem takeWhile_eq_filter_iff {α : Type} {good wanted : α → Bool} {items : List α}
    (hgood : ∀ a, good a = true → wanted a = true) :
    items.takeWhile good = items.filter wanted ↔
      (∀ a ∈ items, wanted a = true → good a = true) ∧
        items.Pairwise fun a b => wanted b = true → wanted a = true := by
  induction items with
  | nil => simp
  | cons a rest ih =>
      rw [List.pairwise_cons, List.forall_mem_cons]
      by_cases ha : good a = true
      · have hwanted := hgood a ha
        rw [List.takeWhile_cons_of_pos ha, List.filter_cons_of_pos hwanted, List.cons.injEq, ih]
        simp [ha, hwanted]
      · rw [List.takeWhile_cons_of_neg ha, eq_comm, List.filter_eq_nil_iff, List.forall_mem_cons]
        constructor
        · rintro ⟨hfirst, hrest⟩
          refine ⟨⟨fun h => absurd h hfirst, fun b hb h => absurd h (hrest b hb)⟩,
            fun b hb h => absurd h (hrest b hb), ?_⟩
          exact List.pairwise_of_forall_mem_list fun _ _ b hb h => absurd h (hrest b hb)
        · rintro ⟨⟨hfirst, -⟩, hbehind, -⟩
          have hunwanted : ¬ wanted a = true := fun h => ha (hfirst h)
          exact ⟨hunwanted, fun b hb h => hunwanted (hbehind b hb h)⟩

/-- The transactions the lines of a file stand for. -/
def fileEntries (fp : Rounding) (content : Bytes) : List LegacyTransaction :=
  (fileLines content).filterMap (scanLegacyTransaction fp)

/-- The lines that match and name an existing account, each once and in their
order, are the rows of the table. -/
def ImportsAll (fp : Rounding) (content : Bytes) (t : Tables) : Prop :=
  t.transactions.rows.map unnumbered =
    ((fileEntries fp content).filter fun line =>
      (t.accounts.lookup line.accountNo).isSome).map (legacyTransaction · 0)

/-- The account exists, or its record is about to be imported. -/
def Known (files : LegacyFiles) (t : Tables) (accountNo : Int) : Prop :=
  (t.accounts.lookup accountNo).isSome ∨
    AccountsDue t ∧ ∃ record ∈ fileRecords files, record.accNo = accountNo

variable {fp : Rounding} {files : LegacyFiles} {startup : Startup} {t t' : Tables}

theorem legacyTransaction_injective (id : Nat) :
    Function.Injective fun line => legacyTransaction line id := by
  rintro ⟨timestamp, accountNo, type, amount⟩ ⟨timestamp', accountNo', type', amount'⟩ h
  simp only [legacyTransaction, Transaction.mk.injEq] at h
  obtain ⟨-, rfl, -, rfl, rfl, -, rfl⟩ := h
  rfl

/-- The accounts that exist when transactions.txt is looked at. -/
theorem known_iff (accountNo : Int) :
    ((importAccounts t (dueAccounts files startup t)).accounts.lookup accountNo).isSome ↔
      Known files t accountNo := by
  rw [importAccounts_accounts, KeyedTable.lookup_insertAll, Option.isSome_or, Bool.or_eq_true,
    List.find?_isSome, Known]
  apply or_congr_right
  simp only [decide_eq_true_eq, dueAccounts, fileAccounts]
  split
  · rename_i hdue
    rw [mem_legacyAccounts, and_iff_right hdue]
  · rename_i hdue
    simp [hdue]

/-- Opening a database that has accounts but no transactions imports what
transactions.txt holds of these accounts if and only if none of these lines has
an amount SQLite refuses and none stands behind a line of another account. -/
theorem legacy_transactions_imported (fp : Rounding) (files : LegacyFiles) {startup : Startup}
    {t : Tables} {content : Bytes} (hfile : files.transactionsTxt = some content)
    (hlines : ∀ line ∈ fileLines content, line.length < 256)
    (hempty : t.transactions.rows = []) (hquiet : ¬ startup.env.Faulty)
    (hopen : ((dbOpen fp files startup).exec fp startup.env ⟨t, none⟩).1 = true) :
    ImportsAll fp content ((dbOpen fp files startup).exec fp startup.env ⟨t, none⟩).2.tables ↔
      (∀ line ∈ fileEntries fp content, Known files t line.accountNo → line.amount ≠ .nan) ∧
        (fileEntries fp content).Pairwise fun line later =>
          Known files t later.accountNo → Known files t line.accountNo := by
  have hopens := dbOpen_opens hquiet hopen
  generalize ((dbOpen fp files startup).exec fp startup.env ⟨t, none⟩).2.tables = t' at hopens ⊢
  cases hopens with
  | imported hrows hprefix hwhole =>
      obtain ⟨rfl, rfl⟩ := hwhole.resolve_left id
      have hdue : TransactionsDue (importAccounts t (dueAccounts files startup t)) :=
        transactionsDue_of_empty hempty
      have hreached : dueTransactions fp files (importAccounts t (dueAccounts files startup t)) =
          (fileEntries fp content).takeWhile fun line =>
            decide (Accepted (importAccounts t (dueAccounts files startup t)) line) := by
        rw [dueTransactions, if_pos hdue, fileTransactions, hfile]
        exact congrArg (List.takeWhile _ <| List.filterMap _ ·) (readLines_eq hlines)
      rw [ImportsAll, importTransactions_rows, importTransactions_accounts,
        importAccounts_transactions, hempty, List.map_nil, List.nil_append,
        (List.map_injective_iff.mpr (legacyTransaction_injective 0)).eq_iff, hreached,
        takeWhile_eq_filter_iff]
      · apply and_congr
        · apply forall₂_congr
          intro line _
          rw [decide_eq_true_eq, Accepted, known_iff]
          exact ⟨fun h hknown => (h hknown).2, fun h hknown => ⟨hknown, h hknown⟩⟩
        · simp only [known_iff]
      · intro line hline
        exact (of_decide_eq_true hline).1

/-- Two lines of the account 7 and another one between them. -/
def adaLines (other : String) : Bytes :=
  ascii "2024-01-05 10:00 | Acc:7 | Deposit | Amount: 20\n" ++ ascii other ++
    ascii "2024-01-06 12:00 | Acc:7 | Withdraw | Amount: 5\n"

def adaFiles (other : String) : LegacyFiles := ⟨some (adaFile [0, 0, 0, 0]), some (adaLines other)⟩

/-- The other line does not match. -/
theorem legacy_transactions_imported_comment :
    ImportsAll .exact (adaLines "# closed\n")
      ((dbOpen .exact (adaFiles "# closed\n") plainStartup).exec .exact plainStartup.env
        ⟨Tables.empty, none⟩).2.tables := by
  have hentries : fileEntries .exact (adaLines "# closed\n") =
      [⟨ascii "2024-01-05 10:00 ", 7, .deposit, .fin 20⟩,
        ⟨ascii "2024-01-06 12:00 ", 7, .withdraw, .fin 5⟩] := by
    decide +kernel
  have himported := legacy_transactions_imported .exact (adaFiles "# closed\n")
    (t := Tables.empty) rfl (by decide +kernel) rfl plainStartup_quiet (by decide +kernel)
  apply himported.mpr
  rw [hentries]
  simp

/-- The other line names an account that does not exist: the line behind it is
imported neither by this start nor by the next. -/
theorem legacy_transactions_lost :
    let other := "2024-01-05 11:00 | Acc:9 | Deposit | Amount: 1\n"
    let first := (dbOpen .exact (adaFiles other) plainStartup).exec .exact plainStartup.env
      ⟨Tables.empty, none⟩
    let second := (dbOpen .exact (adaFiles other) plainStartup).exec .exact plainStartup.env first.2
    (∀ line ∈ fileLines (adaLines other), line.length < 255) ∧
      first.1 = true ∧ ¬ ImportsAll .exact (adaLines other) first.2.tables ∧
      second.1 = true ∧ ¬ ImportsAll .exact (adaLines other) second.2.tables := by
  have hshort {content : Bytes} {t : Tables}
      (hlength : t.transactions.rows.length ≠ ((fileEntries .exact content).filter fun line =>
        (t.accounts.lookup line.accountNo).isSome).length) : ¬ ImportsAll .exact content t := by
    intro h
    apply hlength
    simpa using congrArg List.length h
  exact ⟨by decide +kernel, by decide +kernel, hshort (by decide +kernel), by decide +kernel,
    hshort (by decide +kernel)⟩

end AtmSystem.Bank
