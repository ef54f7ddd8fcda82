import AtmSystem.Bank.Opening

/-!
The migration of accounts.dat and the money in it. Every record becomes an
account of its number and name, but the statement that inserts it holds 0 where
the balance belongs, so the balances are kept only where they are all 0.
-/

namespace AtmSystem.Bank

open Library Model

/-- Exactly one account for each record, with its number, name and balance, so
that no money is gained or lost. -/
structure KeepsMoney (records : List LegacyAccount) (t : Tables) : Prop where
  rows : t.accounts.rows.map (fun row => (row.accountNo, row.name, row.balance)) =
    records.map fun record => (record.accNo, record.name, record.balance)
  total : t.accounts.total (fun row => row.balance.value) =
    (records.map fun record => record.balance.value).sum

instance (records : List LegacyAccount) (t : Tables) : Decidable (KeepsMoney records t) :=
  decidable_of_iff (_ ∧ _) ⟨fun ⟨hrows, htotal⟩ => ⟨hrows, htotal⟩, fun h => ⟨h.rows, h.total⟩⟩

variable {fp : Rounding} {files : LegacyFiles} {startup : Startup} {t t' : Tables}

/-- The rows of the records, as far as the records determine them. -/
theorem legacyAccounts_map {β : Type} (f : Account → β) (g : LegacyAccount → β)
    (hfg : ∀ record stamp, f (legacyAccount record stamp) = g record)
    (stamps : Nat → UInt64 × Bytes) (records : List LegacyAccount) (i : Nat) :
    (legacyAccounts stamps i records).map f = records.map g := by
  induction records generalizing i with
  | nil => rfl
  | cons record rest ih => rw [legacyAccounts, List.map_cons, List.map_cons, hfg, ih]

/-- Records with distinct numbers all become accounts, in their order. -/
theorem opened_rows {content : Bytes} (hfile : files.accountsDat = some content)
    (hdistinct : ((readLegacyAccounts content).map LegacyAccount.accNo).Nodup)
    (hempty : t.accounts = .empty) (h : Opens fp False files startup t t') :
    t'.accounts.rows = legacyAccounts startup.stamps 0 (readLegacyAccounts content) := by
  cases h with
  | imported hrows hlines hwhole =>
      obtain ⟨rfl, -⟩ := hwhole.resolve_left id
      have hdue : AccountsDue t := accountsDue_of_empty (by rw [hempty]; rfl)
      have hkeys : ((legacyAccounts startup.stamps 0 (readLegacyAccounts content)).map
          Account.accountNo).Nodup := by
        rwa [legacyAccounts_map Account.accountNo LegacyAccount.accNo fun _ _ => rfl]
      rw [importTransactions_accounts, importAccounts_accounts, dueAccounts, if_pos hdue,
        fileAccounts, fileRecords, hfile, hempty]
      exact KeyedTable.insertAll_rows hkeys

/-- Opening a database without accounts keeps the money of accounts.dat if and
only if there is none. -/
theorem legacy_money_kept (fp : Rounding) (files : LegacyFiles) {startup : Startup} {t : Tables}
    {content : Bytes} (hfile : files.accountsDat = some content)
    (hdistinct : ((readLegacyAccounts content).map LegacyAccount.accNo).Nodup)
    (hempty : t.accounts = .empty) (hopened : startup.opened = .ok ())
    (hquiet : ¬ startup.env.Faulty) :
    KeepsMoney (readLegacyAccounts content)
        ((dbOpen fp files startup).exec fp startup.env ⟨t, none⟩).2.tables ↔
      ∀ record ∈ readLegacyAccounts content, record.balance = 0 := by
  have hopens : Opens fp False files startup t _ :=
    dbOpen_opens hquiet (dbOpen_answers hquiet hopened)
  have hrows := opened_rows hfile hdistinct hempty hopens
  generalize ((dbOpen fp files startup).exec fp startup.env ⟨t, none⟩).2.tables = t' at hrows ⊢
  have hcolumns := legacyAccounts_map
    (fun row : Account => (row.accountNo, row.name, row.balance))
    (fun record => (record.accNo, record.name, 0)) (fun _ _ => rfl) startup.stamps
    (readLegacyAccounts content) 0
  constructor
  · intro hkeeps record hrecord
    have hsame := hkeeps.rows
    rw [hrows, hcolumns, List.map_inj_left] at hsame
    have hbalance := hsame record hrecord
    simp only [Prod.mk.injEq, true_and] at hbalance
    exact hbalance.symm
  · intro hzero
    have hsame : (readLegacyAccounts content).map (fun record =>
        (record.accNo, record.name, record.balance)) =
        (readLegacyAccounts content).map fun record => (record.accNo, record.name, 0) := by
      rw [List.map_inj_left]
      intro record hrecord
      rw [hzero record hrecord]
    constructor
    · rw [hrows, hcolumns, hsame]
    · have hvalues := congrArg (List.map fun column => column.2.2.value)
        (hcolumns.trans hsame.symm)
      rw [List.map_map, List.map_map] at hvalues
      rw [KeyedTable.total, hrows]
      exact congrArg List.sum hvalues

/-- Two accounts of Ada's, both of which hold nothing. -/
def adasAccounts : Bytes := adaFile [0, 0, 0, 0] ++ 8 :: (adaFile [0, 0, 0, 0]).tail

theorem legacy_money_kept_adasAccounts :
    KeepsMoney [⟨7, ascii "Ada", 1, 0⟩, ⟨8, ascii "Ada", 1, 0⟩]
      ((dbOpen .exact ⟨some adasAccounts, none⟩ plainStartup).exec .exact
        plainStartup.env ⟨Tables.empty, none⟩).2.tables := by
  have hrecords : readLegacyAccounts adasAccounts =
      [⟨7, ascii "Ada", 1, 0⟩, ⟨8, ascii "Ada", 1, 0⟩] := by decide +kernel
  have hkept := legacy_money_kept .exact ⟨some adasAccounts, none⟩
    (t := Tables.empty) rfl (by rw [hrecords]; decide) rfl rfl plainStartup_quiet
  rw [hrecords] at hkept
  exact hkept.mpr (by simp)

/-- Ada has 100, and loses them when the database is opened. -/
theorem legacy_money_lost :
    readLegacyAccounts (adaFile [0, 0, 200, 66]) = [⟨7, ascii "Ada", 1, .fin 100⟩] ∧
      ¬ KeepsMoney (readLegacyAccounts (adaFile [0, 0, 200, 66]))
        ((dbOpen .exact ⟨some (adaFile [0, 0, 200, 66]), none⟩ plainStartup).exec .exact
          plainStartup.env ⟨Tables.empty, none⟩).2.tables := by
  decide +kernel

end AtmSystem.Bank
