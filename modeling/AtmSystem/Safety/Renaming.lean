import AtmSystem.Safety.Counterparts
import AtmSystem.Safety.Ledger

/-!
Renumbering is a renaming. `dbEditAccount` inserts a row under the new number,
moves the history and the references to it, and deletes the old row; in the
tables this is the renaming of one number in three columns. The new number
occurs nowhere before: it has no account, so the foreign key keeps it out of
`account_no` and double entry out of `related_account`. For the same reason
editing the account back restores what was there.
-/

namespace AtmSystem.Bank

open Library Model

/-! ### What it takes -/

theorem trimWhitespace_eq_nil_iff (text : Bytes) :
    trimWhitespace text = [] ↔ ∀ b ∈ text, isspace b := by
  rw [trimWhitespace, List.reverse_eq_nil_iff, List.dropWhile_eq_nil_iff]
  constructor
  · intro h
    by_contra hsome
    have hrest : text.dropWhile isspace ≠ [] := by
      rw [ne_eq, List.dropWhile_eq_nil_iff]
      exact hsome
    have hhead := List.head_dropWhile_not isspace hrest
    rw [h _ (List.mem_reverse.mpr (List.head_mem hrest))] at hhead
    cases hhead
  · intro h b hb
    exact h b ((List.dropWhile_suffix isspace).subset (List.mem_reverse.mp hb))

/-- The first 63 bytes of the name contain one that is not whitespace. -/
def NonBlank (name : Bytes) : Prop := ∃ b ∈ name.take 63, isspace b = false

theorem storedName_ne_nil_iff (name : Bytes) : storedName name ≠ [] ↔ NonBlank name := by
  rw [storedName, snprintf, ne_eq, trimWhitespace_eq_nil_iff, NonBlank]
  simp only [not_forall, Bool.not_eq_true, exists_prop]

/-- When an edit is accepted. -/
def Editable (t : Tables) (accountNo newAccountNo : Int) (name : Bytes) (pin : Int) : Prop :=
  0 < accountNo ∧ 0 < newAccountNo ∧ NonBlank name ∧ ValidPin pin ∧
    (t.accounts.lookup accountNo).isSome ∧
    (newAccountNo = accountNo ∨ t.accounts.lookup newAccountNo = none)

/-- The times at which accounts were opened are as long as the buffers that
every writer of the column fills, `char timestamp[32]`. -/
structure StampsFit (t : Tables) : Prop where
  fits : ∀ k row, t.accounts.lookup k = some row → row.createdAt.length ≤ 31

/-! ### The renaming -/

/-- One number for another. -/
def renamedNo (accountNo newAccountNo k : Int) : Int := if k = accountNo then newAccountNo else k

/-- A transaction under the new number. -/
def renamed (accountNo newAccountNo : Int) (r : Transaction) : Transaction :=
  { r with
    accountNo := renamedNo accountNo newAccountNo r.accountNo
    relatedAccount := r.relatedAccount.map (renamedNo accountNo newAccountNo) }

theorem renamed_id (accountNo newAccountNo : Int) (r : Transaction) :
    (renamed accountNo newAccountNo r).id = r.id := rfl

/-- An account row under a new number, with another name and PIN. -/
def reidentified (newAccountNo : Int) (name : Bytes) (pin : Int) (salt : UInt64) (row : Account) :
    Account :=
  { row with
    accountNo := newAccountNo
    name := storedName name
    pinHash := (pinDigest salt pin).toInt64
    salt := salt.toInt64 }

/-- The tables with one account renumbered and nothing else changed but what
`change` makes of its row. -/
structure Renaming (t : Tables) (accountNo newAccountNo : Int) (change : Account → Account)
    (t' : Tables) : Prop where
  accounts : ∀ k, t'.accounts.lookup k =
    if k = newAccountNo then (t.accounts.lookup accountNo).map change
    else if k = accountNo then none else t.accounts.lookup k
  transactions : t'.transactions =
    t.transactions.map (renamed accountNo newAccountNo) (renamed_id accountNo newAccountNo)
  admins : t'.admins = t.admins

theorem redirect_rehome (accountNo newAccountNo : Int) (r : Transaction) :
    redirect (some newAccountNo) accountNo (rehome newAccountNo accountNo r) =
      renamed accountNo newAccountNo r := by
  rcases r with ⟨id, no, related, type, amount, balanceAfter, createdAt⟩
  cases related with
  | none => simp only [redirect, rehome, renamed, renamedNo]; split <;> simp
  | some other =>
      simp only [redirect, rehome, renamed, renamedNo, Option.map_some]
      split_ifs <;> simp_all

theorem renamed_self (accountNo : Int) (r : Transaction) : renamed accountNo accountNo r = r := by
  have hno (k : Int) : renamedNo accountNo accountNo k = k := by
    unfold renamedNo
    split <;> simp_all
  have hsame : renamedNo accountNo accountNo = id := funext hno
  rw [renamed, hsame, Option.map_id]
  rfl

/-- A performed edit is a renaming. -/
theorem renaming_of_performs {fp : Rounding} {t t' : Tables} {accountNo newAccountNo : Int}
    {name : Bytes} {pin : Int} {salt : UInt64} (hstamps : StampsFit t)
    (h : (Action.edit accountNo newAccountNo name pin salt).Performs fp t t') :
    Editable t accountNo newAccountNo name pin ∧
      Renaming t accountNo newAccountNo (reidentified newAccountNo name pin salt) t' := by
  cases h with
  | rename hpositive hname hpin hrow =>
      refine ⟨⟨hpositive, hpositive, (storedName_ne_nil_iff name).mp hname, hpin,
        by rw [hrow]; rfl, .inl rfl⟩, ?_⟩
      constructor
      · intro k
        rw [Tables.lookup_setIdentity, hrow]
        split_ifs with hk
        · obtain ⟨-, hno⟩ := KeyedTable.lookup_eq_some_iff.mp hrow
          simp only [Option.map_some, reidentified, ← hno]
        · rfl
      · apply SerialTable.ext
        · rw [SerialTable.map_rows, List.map_congr_left (fun r _ => renamed_self accountNo r),
            List.map_id']
          rfl
        · rfl
      · rfl
  | @renumber _ _ _ _ _ _ row hpositive hnewPositive hname hpin hdistinct hrow hnew =>
      refine ⟨⟨hpositive, hnewPositive, (storedName_ne_nil_iff name).mp hname, hpin,
        by rw [hrow]; rfl, .inr hnew⟩, ?_⟩
      have hstamp : snprintf 32 row.createdAt = row.createdAt :=
        List.take_of_length_le (hstamps.fits _ _ hrow)
      constructor
      · intro k
        rw [lookup_renumbered _ _ _ _ _ hnew, hrow]
        by_cases hold : k = accountNo
        · rw [if_pos hold, if_neg (hold ▸ hdistinct), if_pos hold]
        · rw [if_neg hold, if_neg hold, Option.map_some, renumbered, hstamp]
          rfl
      · apply SerialTable.ext
        · rw [renumber_rows, SerialTable.map_rows]
          exact List.map_congr_left fun r _ => redirect_rehome ..
        · rfl
      · rfl

/-- For a balance that is a number the conditions that are checked suffice. -/
theorem performs_of_editable {fp : Rounding} {t : Tables} {accountNo newAccountNo : Int}
    {name : Bytes} {pin : Int} (salt : UInt64)
    (hnumber : ∀ row, t.accounts.lookup accountNo = some row → row.balance ≠ .nan)
    (h : Editable t accountNo newAccountNo name pin) :
    ∃ t', (Action.edit accountNo newAccountNo name pin salt).Performs fp t t' := by
  obtain ⟨hpositive, hnewPositive, hname, hpin, hsome, hnew⟩ := h
  obtain ⟨row, hrow⟩ := Option.isSome_iff_exists.mp hsome
  have hname' := (storedName_ne_nil_iff name).mpr hname
  by_cases hsame : newAccountNo = accountNo
  · rw [hsame]
    exact ⟨_, .rename hpositive hname' hpin hrow⟩
  · have hnone := hnew.resolve_left hsame
    exact ⟨_, .renumber hpositive hnewPositive hname' hpin (Ne.symm hsame) hrow hnone
      (hnumber row hrow)⟩

/-- What `db_edit_account` does when no SQL call fails. -/
theorem dbEditAccount_exec {fp : Rounding} {env : Environment} (hquiet : ¬ env.Faulty) {t : Tables}
    (hstamps : StampsFit t) {accountNo newAccountNo : Int}
    (hnumber : ∀ row, t.accounts.lookup accountNo = some row → row.balance ≠ .nan)
    (name : Bytes) (pin : Int) :
    let outcome := (dbEditAccount env accountNo newAccountNo name pin).exec fp env ⟨t, none⟩
    (Editable t accountNo newAccountNo name pin ∧ outcome.1 = true ∧ outcome.2.saved = none ∧
      Renaming t accountNo newAccountNo (reidentified newAccountNo name pin env.salt)
        outcome.2.tables) ∨
    (¬ Editable t accountNo newAccountNo name pin ∧ outcome = (false, ⟨t, none⟩)) := by
  intro outcome
  have hsettled := exec_of_always fp env _ ⟨t, none⟩
    (dbEditAccount_settled env accountNo newAccountNo name pin)
  change Settled _ _ _ _ _ _ outcome.1 outcome.2 at hsettled
  rcases hsettled with ⟨t', hperforms, hanswer, hstore⟩ | ⟨hrefused, hanswer, hstore⟩
  · obtain ⟨heditable, hrenaming⟩ := renaming_of_performs hstamps hperforms
    rw [hstore, hanswer]
    exact .inl ⟨heditable, rfl, rfl, hrenaming⟩
  · refine .inr ⟨fun heditable => ?_, Prod.ext hanswer hstore⟩
    obtain ⟨t', hperforms⟩ : ∃ t', Action.Performs fp _ t t' :=
      performs_of_editable env.salt hnumber heditable
    rcases hrefused with hfaulty | hnone
    · exact hquiet hfaulty
    · exact hnone t' hperforms

/-! ### And back -/

/-- The tables `t` with nothing changed but what `change` makes of one row. -/
structure Restored (t : Tables) (accountNo : Int) (change : Account → Account) (t' : Tables) :
    Prop where
  accounts : ∀ k, t'.accounts.lookup k =
    if k = accountNo then (t.accounts.lookup accountNo).map change else t.accounts.lookup k
  transactions : t'.transactions = t.transactions
  admins : t'.admins = t.admins

theorem renamed_back {accountNo newAccountNo : Int} {r : Transaction}
    (hno : newAccountNo = accountNo ∨ r.accountNo ≠ newAccountNo)
    (hrelated : newAccountNo = accountNo ∨ r.relatedAccount ≠ some newAccountNo) :
    renamed newAccountNo accountNo (renamed accountNo newAccountNo r) = r := by
  have hback (k : Int) (hk : newAccountNo = accountNo ∨ k ≠ newAccountNo) :
      renamedNo newAccountNo accountNo (renamedNo accountNo newAccountNo k) = k := by
    unfold renamedNo
    split_ifs <;> omega
  rcases r with ⟨id, no, related, type, amount, balanceAfter, createdAt⟩
  simp only [renamed, Transaction.mk.injEq, true_and, and_true, Option.map_map]
  refine ⟨hback no hno, ?_⟩
  cases related with
  | none => rfl
  | some other =>
      rw [Option.map_some, Function.comp_apply, hback other]
      exact hrelated.imp_right fun hne heq => hne (congrArg some heq)

section back

variable {t t' t'' : Tables} {accountNo newAccountNo : Int} {name name' : Bytes} {pin pin' : Int}
  {salt salt' : UInt64}

theorem Renaming.stampsFit {change : Account → Account} (h : Renaming t accountNo newAccountNo change t')
    (hchange : ∀ row, (change row).createdAt = row.createdAt) (hstamps : StampsFit t) :
    StampsFit t' := by
  constructor
  intro k row hrow
  rw [h.accounts] at hrow
  split_ifs at hrow
  · obtain ⟨old, hold, rfl⟩ := Option.map_eq_some_iff.mp hrow
    rw [hchange]
    exact hstamps.fits _ _ hold
  · exact hstamps.fits _ _ hrow

/-- Renaming back gives the tables as they were. -/
theorem Renaming.back (hkeys : ForeignKeys t) (hentry : DoubleEntry t)
    (hnew : newAccountNo = accountNo ∨ t.accounts.lookup newAccountNo = none)
    (h : Renaming t accountNo newAccountNo (reidentified newAccountNo name pin salt) t')
    (h' : Renaming t' newAccountNo accountNo (reidentified accountNo name' pin' salt') t'') :
    Restored t accountNo (reidentified accountNo name' pin' salt') t'' := by
  constructor
  · intro k
    rw [h'.accounts, h.accounts, if_pos rfl, Option.map_map]
    by_cases hk : k = accountNo
    · rw [if_pos hk, if_pos hk]
      rfl
    · rw [if_neg hk, if_neg hk, h.accounts, if_neg hk]
      split_ifs with hk'
      · rw [hk']
        exact (hnew.resolve_left (hk' ▸ hk)).symm
      · rfl
  · have hused {k : Int} (hk : (t.accounts.lookup k).isSome) :
        newAccountNo = accountNo ∨ k ≠ newAccountNo := by
      refine hnew.imp_right fun hnone heq => ?_
      rw [heq, hnone] at hk
      cases hk
    rw [h'.transactions, h.transactions]
    apply SerialTable.ext
    · rw [SerialTable.map_rows, SerialTable.map_rows, List.map_map]
      have hrow (r : Transaction) (hr : r ∈ t.transactions.rows) :
          (renamed newAccountNo accountNo ∘ renamed accountNo newAccountNo) r = r := by
        obtain ⟨owner, howner⟩ := hkeys.account r hr
        apply renamed_back (hused (by rw [howner]; rfl))
        cases hrelated : r.relatedAccount with
        | none => exact .inr nofun
        | some other =>
            have hother := hused (hentry.related r hr other hrelated).1
            exact hother.imp_right fun hne heq => hne (Option.some.inj heq)
      exact (List.map_congr_left hrow).trans (List.map_id' _)
    · rfl
  · rw [h'.admins, h.admins]

end back

/-- A renumbered account can be edited back. -/
theorem edit_back {fp : Rounding} {env : Environment} (hquiet : ¬ env.Faulty) {t t' : Tables}
    (hkeys : ForeignKeys t) (hentry : DoubleEntry t) (hstamps : StampsFit t)
    {accountNo newAccountNo : Int} {name : Bytes} {pin : Int} {salt : UInt64}
    (heditable : Editable t accountNo newAccountNo name pin)
    (hnumber : ∀ row, t.accounts.lookup accountNo = some row → row.balance ≠ .nan)
    (hrenaming : Renaming t accountNo newAccountNo (reidentified newAccountNo name pin salt) t')
    {name' : Bytes} {pin' : Int} (hname' : NonBlank name') (hpin' : ValidPin pin') :
    let back := (dbEditAccount env newAccountNo accountNo name' pin').exec fp env ⟨t', none⟩
    back.1 = true ∧ back.2.saved = none ∧
      Restored t accountNo (reidentified accountNo name' pin' env.salt) back.2.tables := by
  intro back
  obtain ⟨hpositive, hnewPositive, -, -, hsome, hnew⟩ := heditable
  have hrow' := hrenaming.accounts newAccountNo
  rw [if_pos rfl] at hrow'
  have hstamps' : StampsFit t' := hrenaming.stampsFit (fun _ => rfl) hstamps
  have hnumber' (row : Account) (hrow : t'.accounts.lookup newAccountNo = some row) :
      row.balance ≠ .nan := by
    rw [hrow'] at hrow
    obtain ⟨old, hold, rfl⟩ := Option.map_eq_some_iff.mp hrow
    exact hnumber old hold
  have heditable' : Editable t' newAccountNo accountNo name' pin' := by
    refine ⟨hnewPositive, hpositive, hname', hpin', ?_, ?_⟩
    · rw [hrow', Option.isSome_map]
      exact hsome
    · by_cases hsame : accountNo = newAccountNo
      · exact .inl hsame
      · rw [hrenaming.accounts, if_neg hsame, if_pos rfl]
        exact .inr rfl
  have hexec := @dbEditAccount_exec fp env hquiet t' hstamps' newAccountNo accountNo hnumber' name' pin'
  rcases hexec with ⟨-, hanswer, hsaved, hback⟩ | ⟨hnot, -⟩
  · exact ⟨hanswer, hsaved, hrenaming.back hkeys hentry hnew hback⟩
  · exact absurd heditable' hnot

/-! ### On the way -/

/-- The foreign key holds, and it will hold after a rollback. -/
structure KeysHold (s : Store) : Prop where
  tables : ForeignKeys s.tables
  saved : ∀ saved, s.saved = some saved → ForeignKeys saved

theorem KeysHold.answers {fp : Rounding} {faulty : Prop} {β : Type} {op : SqlOp β} {s s' : Store}
    {answer : β} (hanswer : SqlAnswers fp faulty β op s answer s') (h : KeysHold s) :
    KeysHold s' := by
  rcases s with ⟨t, saved⟩
  cases op with
  | begin =>
      cases saved with
      | none =>
          rcases hanswer with ⟨-, rfl⟩ | ⟨-, -, rfl⟩
          · refine ⟨h.tables, fun saved hsaved => ?_⟩
            rw [← Option.some.inj hsaved]
            exact h.tables
          · exact h
      | some saved =>
          obtain ⟨-, rfl⟩ := hanswer
          exact h
  | commit =>
      cases saved with
      | none =>
          obtain ⟨-, rfl⟩ := hanswer
          exact h
      | some saved =>
          rcases hanswer with ⟨-, rfl⟩ | ⟨-, -, rfl⟩
          · exact ⟨h.tables, fun saved hsaved => by cases hsaved⟩
          · exact h
  | rollback =>
      obtain rfl : s' = _ := hanswer
      refine ⟨?_, fun saved hsaved => by cases hsaved⟩
      cases saved with
      | none => exact h.tables
      | some saved => exact h.saved saved rfl
  | step statement =>
      rcases hanswer with ⟨-, -, rfl⟩ | hdone
      · exact h
      · cases hexec : statement.exec fp t with
        | ok result =>
            simp only [hexec] at hdone
            obtain ⟨-, rfl⟩ := hdone
            exact ⟨h.tables.exec hexec, h.saved⟩
        | error message =>
            simp only [hexec] at hdone
            obtain ⟨-, rfl⟩ := hdone
            exact h
  | prepare | stepAgain =>
      obtain ⟨-, rfl⟩ := hanswer
      exact h
  | errmsg | setError | readError =>
      obtain rfl : s' = _ := hanswer
      exact h

/-- No SQL call of a run leaves the foreign key violated, not even inside a
transaction. -/
theorem foreignKeys_visits {α : Type} {fp : Rounding} {env : Environment} {t : Tables}
    (hkeys : ForeignKeys t) (p : Db α) :
    ∀ w ∈ p.visits (sqlite fp) (World.start env ⟨t, none⟩), ForeignKeys w.store.tables := by
  intro w hw
  have hstart : KeysHold (World.start env ⟨t, none⟩).store :=
    ⟨hkeys, fun saved hsaved => by cases hsaved⟩
  refine (Program.visits_invariant (fun w : World => KeysHold w.store) ?_ p hstart w hw).tables
  intro β op w hw
  exact hw.answers (sqlite_answers fp True op w fun _ => trivial)

/-! ### Reachable states -/

theorem stampsFit_of_run {fp : Rounding} {s : ServerState} (hopened : Opened s)
    {events : List Event}
    (hstamps : ∀ event ∈ events, event.Allowed fun m => m.env.timestamp.length ≤ 31) :
    StampsFit (reached fp s events).store.tables := by
  have hstart : StampsFit s.store.tables := ⟨fun _ _ hrow => (hopened.no_account hrow).elim⟩
  refine tables_invariant StampsFit ?_ ?_ hstamps hopened.saved hstart
  · intro t accountNo failedAttempts isLocked h
    constructor
    apply EachAccount.setLoginState h.fits
    exact fun _ _ => id
  · intro message session t a t' hmessage hintended hperforms h
    constructor
    refine EachAccount.performs hperforms ?_ ?_ h.fits
    · intro k row hcreates
      cases hcreates with
      | created =>
          generalize requested fp message = c at hintended
          cases asks_of_intended hintended
          exact hmessage
    · intro k row k' row' _ hbecomes hfits
      cases hbecomes with
      | renumbered => exact (List.length_take_le _ _).trans (by decide)
      | _ => exact hfits

/-- In every state with balanced books and double entry, when no SQL call
fails: `db_edit_account` returns 1 exactly if both numbers are positive, the
name is not blank, the PIN has four digits, the account exists and the new
number is its own or free. Then the new tables are a renaming of the old, and
otherwise nothing changes. The foreign key holds at every step, and editing the
account back restores all but name, PIN hash and salt. -/
theorem edit_renames (fp : Rounding) {env : Environment} (hquiet : ¬ env.Faulty) {t : Tables}
    (hbooks : Books t) (hentry : DoubleEntry t) (hstamps : StampsFit t)
    (accountNo newAccountNo : Int) (name : Bytes) (pin : Int) :
    let edit := dbEditAccount env accountNo newAccountNo name pin
    let outcome := edit.exec fp env ⟨t, none⟩
    (outcome.1 = true ↔ Editable t accountNo newAccountNo name pin) ∧
      (Editable t accountNo newAccountNo name pin → outcome.2.saved = none ∧
        Renaming t accountNo newAccountNo (reidentified newAccountNo name pin env.salt)
          outcome.2.tables) ∧
      (¬ Editable t accountNo newAccountNo name pin → outcome.2 = ⟨t, none⟩) ∧
      (∀ w ∈ edit.visits (sqlite fp) (World.start env ⟨t, none⟩), ForeignKeys w.store.tables) ∧
      (Editable t accountNo newAccountNo name pin →
        ∀ env' name' pin', ¬ env'.Faulty → NonBlank name' → ValidPin pin' →
          let back := (dbEditAccount env' newAccountNo accountNo name' pin').exec fp env' outcome.2
          back.1 = true ∧ back.2.saved = none ∧
            Restored t accountNo (reidentified accountNo name' pin' env'.salt) back.2.tables) := by
  intro edit outcome
  have hnumber (row : Account) (hrow : t.accounts.lookup accountNo = some row) :
      row.balance ≠ .nan := by
    rw [(hbooks.balanced accountNo row hrow).total]
    exact fun h => by cases h
  have hvisits := @foreignKeys_visits _ fp env _ hbooks.keys edit
  have hexec := @dbEditAccount_exec fp env hquiet t hstamps accountNo newAccountNo hnumber name pin
  rcases hexec with ⟨heditable, hanswer, hsaved, hrenaming⟩ | ⟨hnot, hsame⟩
  · have hstore : outcome.2 = ⟨outcome.2.tables, none⟩ := by rw [← hsaved]
    refine ⟨⟨fun _ => heditable, fun _ => hanswer⟩, fun _ => ⟨hsaved, hrenaming⟩,
      fun h => absurd heditable h, hvisits, ?_⟩
    intro _ env' name' pin' hquiet' hname' hpin'
    rw [hstore]
    exact edit_back hquiet' hbooks.keys hentry hstamps heditable hnumber hrenaming hname' hpin'
  · have hfalse : outcome = (false, ⟨t, none⟩) := hsame
    rw [hfalse]
    refine ⟨⟨fun h => ?_, fun h => absurd h hnot⟩, fun h => absurd h hnot, fun _ => rfl,
      hvisits, fun h => absurd h hnot⟩
    cases h

theorem edit_renames_firstTransfer :
    let t := (reached .exact emptyServer firstTransfer).store.tables
    let env := (plain "").env
    let outcome := (dbEditAccount env 7 9 (ascii "Ada") 4321).exec .exact env ⟨t, none⟩
    outcome.1 = true ∧
      Renaming t 7 9 (reidentified 9 (ascii "Ada") 4321 env.salt) outcome.2.tables := by
  intro t
  have hbooks : Books t := books_of_run emptyServer_opened (by decide +kernel)
  have hentry : DoubleEntry t := (doubleEntry_of_run emptyServer_opened firstTransfer).2
  have hstamps : StampsFit t := stampsFit_of_run emptyServer_opened (by decide +kernel)
  have heditable : Editable t 7 9 (ascii "Ada") 4321 := by
    have hname : NonBlank (ascii "Ada") := ⟨65, by decide +kernel, by decide⟩
    have hsome : (t.accounts.lookup 7).isSome := by decide +kernel
    have hnone : (t.accounts.lookup 9).isNone := by decide +kernel
    exact ⟨by decide, by decide, hname, by decide, hsome, .inr (Option.isNone_iff_eq_none.mp hnone)⟩
  clear_value t
  obtain ⟨hiff, hrenaming, -⟩ :=
    edit_renames .exact (plain_quiet "") hbooks hentry hstamps 7 9 (ascii "Ada") 4321
  exact ⟨hiff.mpr heditable, (hrenaming heditable).2⟩

end AtmSystem.Bank
