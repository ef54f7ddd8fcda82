import AtmSystem.Bank.Entries
import AtmSystem.Bank.Run

/-!
Transfers are recorded twice. The two rows of a transfer are written one after
the other and name each other's account; no constraint of the schema keeps
`related_account` in step with the accounts, so the actions do. Renumbering
rewrites both columns in every row, and closing an account takes its own rows
and the references to it out together.
-/

namespace AtmSystem.Bank

open Library Model

/-- `r'` is the receiver's row of the transfer that `r` records for the sender. -/
structure Mirrors (r r' : Transaction) : Prop where
  id : r'.id = r.id + 1
  type : r'.type = .transferReceived
  account : r.relatedAccount = some r'.accountNo
  related : r'.relatedAccount = some r.accountNo
  amount : r'.amount = r.amount
  createdAt : r'.createdAt = r.createdAt

/-- Every row that names another account is one of the two rows of a transfer
with an account that exists. -/
structure DoubleEntry (t : Tables) : Prop where
  related : ∀ r ∈ t.transactions.rows, ∀ other, r.relatedAccount = some other →
    (t.accounts.lookup other).isSome ∧ other ≠ r.accountNo
  paired : ∀ r ∈ t.transactions.rows, r.relatedAccount.isSome →
    (r.type = .transferSent ∧ ∃ r' ∈ t.transactions.rows, Mirrors r r') ∨
      (r.type = .transferReceived ∧
        ∃ r' ∈ t.transactions.rows, r'.type = .transferSent ∧ Mirrors r' r)

/-- The row is one side of a transfer, and the other side is among the rows. -/
def Paired (rows : List Transaction) (r : Transaction) : Prop :=
  (r.type = .transferSent ∧ ∃ r' ∈ rows, Mirrors r r') ∨
    (r.type = .transferReceived ∧ ∃ r' ∈ rows, r'.type = .transferSent ∧ Mirrors r' r)

/-- Rows that go on standing among more rows keep their partners. -/
theorem Paired.mono {rows rows' : List Transaction} {r : Transaction} (h : Paired rows r)
    (hsub : rows ⊆ rows') : Paired rows' r := by
  rcases h with ⟨htype, r', hr', hmirrors⟩ | ⟨htype, r', hr', hsent, hmirrors⟩
  · exact .inl ⟨htype, r', hsub hr', hmirrors⟩
  · exact .inr ⟨htype, r', hsub hr', hsent, hmirrors⟩

/-- Rows that are rewritten together keep their partners, if the rewriting
treats both columns alike. -/
theorem Paired.map {rows : List Transaction} {f : Transaction → Transaction} {ρ : Int → Int}
    (hid : ∀ r, (f r).id = r.id) (htype : ∀ r, (f r).type = r.type)
    (hamount : ∀ r, (f r).amount = r.amount) (hcreatedAt : ∀ r, (f r).createdAt = r.createdAt)
    (haccount : ∀ r, (f r).accountNo = ρ r.accountNo)
    (hrelated : ∀ r, (f r).relatedAccount = r.relatedAccount.map ρ) {r : Transaction}
    (h : Paired rows r) : Paired (rows.map f) (f r) := by
  have hmirrors {r r' : Transaction} (hm : Mirrors r r') : Mirrors (f r) (f r') := by
    obtain ⟨hid', htype', haccount', hrelated', hamount', hcreatedAt'⟩ := hm
    constructor
    · rw [hid, hid, hid']
    · rw [htype, htype']
    · rw [hrelated, haccount, haccount', Option.map_some]
    · rw [hrelated, haccount, hrelated', Option.map_some]
    · rw [hamount, hamount, hamount']
    · rw [hcreatedAt, hcreatedAt, hcreatedAt']
  rcases h with ⟨hsent, r', hr', hm⟩ | ⟨hreceived, r', hr', hsent, hm⟩
  · exact .inl ⟨by rw [htype, hsent], f r', List.mem_map_of_mem hr', hmirrors hm⟩
  · exact .inr ⟨by rw [htype, hreceived], f r', List.mem_map_of_mem hr', by rw [htype, hsent],
      hmirrors hm⟩

namespace DoubleEntry

variable {fp : Rounding} {t t' : Tables}

theorem pair (h : DoubleEntry t) {r : Transaction} (hr : r ∈ t.transactions.rows)
    (hsome : r.relatedAccount.isSome) : Paired t.transactions.rows r := h.paired r hr hsome

/-- What leaves the transactions and the account numbers alone. -/
theorem of_rows (h : DoubleEntry t) (hrows : t'.transactions.rows = t.transactions.rows)
    (hkeep : ∀ k, (t.accounts.lookup k).isSome → (t'.accounts.lookup k).isSome) :
    DoubleEntry t' := by
  constructor
  · intro r hr other hother
    obtain ⟨hsome, hne⟩ := h.related r (hrows ▸ hr) other hother
    exact ⟨hkeep other hsome, hne⟩
  · rw [hrows]
    exact h.paired

theorem setLoginState (h : DoubleEntry t) (accountNo failedAttempts isLocked : Int) :
    DoubleEntry (t.setLoginState accountNo failedAttempts isLocked) := by
  refine h.of_rows rfl fun k hk => ?_
  rw [Tables.lookup_setLoginState]
  split <;> simp_all

/-- A movement names no other account. -/
theorem move (h : DoubleEntry t) (accountNo : Int) (type : TransactionType)
    (amount newBalance : Double) (createdAt : Bytes) :
    DoubleEntry (book t accountNo none type amount newBalance createdAt) := by
  have hrows : (book t accountNo none type amount newBalance createdAt).transactions.rows =
      t.transactions.rows ++ [⟨t.transactions.last + 1, accountNo, none, type, amount,
        some newBalance, createdAt⟩] := rfl
  constructor
  · intro r hr other hother
    rw [hrows, List.mem_append, List.mem_singleton] at hr
    rcases hr with hold | rfl
    · obtain ⟨hsome, hne⟩ := h.related r hold other hother
      refine ⟨?_, hne⟩
      rw [lookup_book]
      split <;> simp_all
    · cases hother
  · intro r hr hsome
    rw [hrows] at hr ⊢
    rcases List.mem_append.mp hr with hold | hnew
    · exact (h.pair hold hsome).mono (List.subset_append_left _ _)
    · rw [List.mem_singleton.mp hnew] at hsome
      cases hsome

/-- The two rows of a transfer are each other's. -/
theorem transfer (h : DoubleEntry t) {sender receiver : Int} {source target : Account}
    (hdistinct : receiver ≠ sender) (hsource : t.accounts.lookup sender = some source)
    (htarget : t.accounts.lookup receiver = some target)
    (amount sent received : Double) (createdAt : Bytes) :
    DoubleEntry (book (book t sender (some receiver) .transferSent amount sent createdAt)
      receiver (some sender) .transferReceived amount received createdAt) := by
  generalize hr₁ : (⟨t.transactions.last + 1, sender, some receiver, .transferSent, amount,
    some sent, createdAt⟩ : Transaction) = r₁
  generalize hr₂ : (⟨t.transactions.last + 1 + 1, receiver, some sender, .transferReceived, amount,
    some received, createdAt⟩ : Transaction) = r₂
  have hrows : (book (book t sender (some receiver) .transferSent amount sent createdAt)
      receiver (some sender) .transferReceived amount received createdAt).transactions.rows =
      t.transactions.rows ++ [r₁, r₂] := by
    rw [← hr₁, ← hr₂]
    exact List.append_assoc _ _ _
  have hmirrors : Mirrors r₁ r₂ := by
    subst hr₁ hr₂
    exact ⟨rfl, rfl, rfl, rfl, rfl, rfl⟩
  have hkeep (k : Int) (hk : (t.accounts.lookup k).isSome) :
      ((book (book t sender (some receiver) .transferSent amount sent createdAt)
        receiver (some sender) .transferReceived amount received createdAt).accounts.lookup
          k).isSome := by
    simp only [lookup_book, if_neg hdistinct]
    split_ifs <;> simp_all
  constructor
  · intro r hr other hother
    rw [hrows, List.mem_append, List.mem_pair] at hr
    rcases hr with hold | rfl | rfl
    · obtain ⟨hsome, hne⟩ := h.related r hold other hother
      exact ⟨hkeep other hsome, hne⟩
    · subst hr₁
      obtain rfl := Option.some.inj hother
      exact ⟨hkeep receiver (by rw [htarget]; rfl), hdistinct⟩
    · subst hr₂
      obtain rfl := Option.some.inj hother
      exact ⟨hkeep sender (by rw [hsource]; rfl), Ne.symm hdistinct⟩
  · intro r hr hsome
    rw [hrows] at hr ⊢
    rw [List.mem_append, List.mem_pair] at hr
    rcases hr with hold | rfl | rfl
    · exact (h.pair hold hsome).mono (List.subset_append_left _ _)
    · exact .inl ⟨by rw [← hr₁], r₂, by simp, hmirrors⟩
    · exact .inr ⟨by rw [← hr₂], r₁, by simp, by rw [← hr₁], hmirrors⟩

/-- A renumbered account is renamed in both columns of every row. -/
theorem renumber (h : DoubleEntry t) (hkeys : ForeignKeys t) {accountNo newAccountNo : Int}
    {row : Account} (hno : row.accountNo = newAccountNo) (hdistinct : accountNo ≠ newAccountNo)
    (hnew : t.accounts.lookup newAccountNo = none) :
    DoubleEntry (Bank.renumber t accountNo newAccountNo row) := by
  generalize hρ : (fun k => if k = accountNo then newAccountNo else k : Int → Int) = ρ
  generalize hf : (fun r => redirect (some newAccountNo) accountNo
    (rehome newAccountNo accountNo r)) = f
  have hrows : (Bank.renumber t accountNo newAccountNo row).transactions.rows =
      t.transactions.rows.map f := by rw [renumber_rows, hf]
  have haccount (r : Transaction) : (f r).accountNo = ρ r.accountNo := by
    rw [← hf, ← hρ, redirect_accountNo, rehome_accountNo]
  have hrelated (r : Transaction) : (f r).relatedAccount = r.relatedAccount.map ρ := by
    subst hf hρ
    rcases r with ⟨_, _, _ | other, _, _, _, _⟩ <;> simp only [redirect, rehome] <;> split_ifs <;>
      simp_all
  have hold {k : Int} (hk : (t.accounts.lookup k).isSome) : k ≠ newAccountNo := by
    rintro rfl
    rw [hnew] at hk
    cases hk
  constructor
  · intro r hr other hother
    rw [hrows] at hr
    obtain ⟨x, hx, rfl⟩ := List.mem_map.mp hr
    rw [hrelated] at hother
    obtain ⟨b, hb, rfl⟩ := Option.map_eq_some_iff.mp hother
    obtain ⟨hsome, hne⟩ := h.related x hx b hb
    obtain ⟨owner, howner⟩ := hkeys.account x hx
    have hfresh := hold hsome
    have hfresh' : x.accountNo ≠ newAccountNo := hold (by rw [howner]; rfl)
    rw [lookup_renumber _ row hno hnew, haccount, ← hρ]
    by_cases hmoved : b = accountNo
    · simp [hmoved, Ne.symm hdistinct, hmoved ▸ Ne.symm hne, Ne.symm hfresh']
    · refine ⟨by simp [hmoved, hfresh, hsome], ?_⟩
      by_cases hmoved' : x.accountNo = accountNo <;> simp [hmoved, hmoved', hfresh, hne]
  · intro r hr hsome
    rw [hrows] at hr ⊢
    obtain ⟨x, hx, rfl⟩ := List.mem_map.mp hr
    rw [hrelated, Option.isSome_map] at hsome
    refine Paired.map ?_ ?_ ?_ ?_ haccount hrelated (h.pair hx hsome) <;>
      · intro r
        simp only [← hf, redirect, rehome]
        split_ifs <;> rfl

/-- A closed account leaves no reference behind, and both rows of a transfer
between others stay. -/
theorem close (h : DoubleEntry t) (accountNo : Int) : DoubleEntry (Bank.close t accountNo) := by
  have hmem {r : Transaction} : r ∈ (Bank.close t accountNo).transactions.rows ↔
      ∃ x ∈ t.transactions.rows, redirect none accountNo x = r ∧ x.accountNo ≠ accountNo := by
    simp only [close_rows, List.mem_filter, List.mem_map, decide_eq_true_eq]
    constructor
    · rintro ⟨⟨x, hx, rfl⟩, hne⟩
      exact ⟨x, hx, rfl, by simpa using hne⟩
    · rintro ⟨x, hx, rfl, hne⟩
      exact ⟨⟨x, hx, rfl⟩, by simpa using hne⟩
  -- a row that still names an account is the row it was
  have hkept {x : Transaction} (hsome : (redirect none accountNo x).relatedAccount.isSome) :
      redirect none accountNo x = x ∧ x.relatedAccount ≠ some accountNo := by
    unfold redirect at hsome ⊢
    split at hsome <;> simp_all
  constructor
  · intro r hr other hother
    obtain ⟨x, hx, rfl, hne⟩ := hmem.mp hr
    obtain ⟨hsame, hrelated⟩ := hkept (by rw [hother]; rfl)
    rw [hsame] at hother ⊢
    obtain ⟨hsome, hdistinct⟩ := h.related x hx other hother
    rw [lookup_close]
    have hother' : other ≠ accountNo := by
      rintro rfl
      exact hrelated hother
    exact ⟨by rw [if_neg hother']; exact hsome, hdistinct⟩
  · intro r hr hsome
    obtain ⟨x, hx, rfl, hne⟩ := hmem.mp hr
    obtain ⟨hsame, hrelated⟩ := hkept hsome
    rw [hsame] at hsome ⊢
    have hpartner {y : Transaction} (hy : y ∈ t.transactions.rows)
        (haccount : x.relatedAccount = some y.accountNo)
        (hother : y.relatedAccount = some x.accountNo) :
        y ∈ (Bank.close t accountNo).transactions.rows := by
      have hyne : y.accountNo ≠ accountNo := by
        intro heq
        exact hrelated (heq ▸ haccount)
      have hyrelated : y.relatedAccount ≠ some accountNo := by
        rw [hother]
        simpa using hne
      exact hmem.mpr ⟨y, hy, if_neg hyrelated, hyne⟩
    rcases h.pair hx hsome with ⟨htype, y, hy, hm⟩ | ⟨htype, y, hy, hsent, hm⟩
    · exact .inl ⟨htype, y, hpartner hy hm.account hm.related, hm⟩
    · exact .inr ⟨htype, y, hpartner hy hm.related hm.account, hsent, hm⟩

theorem performs {a : Action} (ha : a.Performs fp t t') (h : DoubleEntry t)
    (hkeys : ForeignKeys t) : DoubleEntry t' := by
  cases ha with
  | create hpositive hpin hname hnew =>
      refine h.of_rows rfl fun k hk => ?_
      rw [Tables.lookup_insertAccount _ _ _ hnew]
      split <;> simp_all
  | move => exact h.move ..
  | transfer hpositive hdistinct hsource htarget =>
      exact h.transfer hdistinct hsource htarget ..
  | lock => exact h.setLoginState ..
  | unlock => exact h.setLoginState ..
  | rename hpositive hname hpin hrow =>
      refine h.of_rows rfl fun k hk => ?_
      rw [Tables.lookup_setIdentity]
      split <;> simp_all
  | renumber hpositive hnewPositive hname hpin hdistinct hrow hnew =>
      exact h.renumber hkeys rfl hdistinct hnew
  | delete => exact h.close _
  | changePassword => exact h.of_rows rfl fun _ hk => hk

end DoubleEntry

/-! ### Runs -/

theorem doubleEntry_of_run {fp : Rounding} {s : ServerState} (hopened : Opened s)
    (events : List Event) :
    ForeignKeys (reached fp s events).store.tables ∧
      DoubleEntry (reached fp s events).store.tables := by
  refine tables_invariant (fun t => ForeignKeys t ∧ DoubleEntry t) ?_ ?_ (allowed_all events)
    hopened.saved ?_
  · intro t accountNo failedAttempts isLocked h
    exact ⟨h.1.setLoginState .., h.2.setLoginState ..⟩
  · intro message session t a t' _ _ hperforms h
    exact ⟨h.1.performs hperforms, h.2.performs hperforms h.1⟩
  · have hnone : s.store.tables.transactions.rows = [] := by rw [hopened.transactions]; rfl
    refine ⟨⟨?_⟩, ⟨?_, ?_⟩⟩ <;>
      · intro r hr
        rw [hnone] at hr
        cases hr

/-- In every reachable state a row that names another account records one side
of a transfer with an existing account, and the other side is recorded in
exactly one row: the next one behind a row for the sender, the one before a row
for the receiver. -/
theorem transfers_mirrored (fp : Rounding) {s : ServerState} (hopened : Opened s)
    (events : List Event) :
    let t := (reached fp s events).store.tables
    ∀ r ∈ t.transactions.rows, ∀ other, r.relatedAccount = some other →
      (r.type = .transferSent ∨ r.type = .transferReceived) ∧
      (∃ row ∈ t.accounts.rows, row.accountNo = other) ∧ other ≠ r.accountNo ∧
      (r.type = .transferSent → ∃! r', r' ∈ t.transactions.rows ∧ Mirrors r r') ∧
      (r.type = .transferReceived →
        ∃! r', r' ∈ t.transactions.rows ∧ r'.type = .transferSent ∧ Mirrors r' r) := by
  intro t r hr other hother
  have hentry : DoubleEntry t := (doubleEntry_of_run hopened events).2
  obtain ⟨hsome, hne⟩ := hentry.related r hr other hother
  obtain ⟨row, hrow⟩ := Option.isSome_iff_exists.mp hsome
  have hsameId {x y : Transaction} (hx : x ∈ t.transactions.rows) (hy : y ∈ t.transactions.rows)
      (hid : x.id = y.id) : x = y := t.transactions.eq_of_id hx hy hid
  have hpaired := hentry.pair hr (by rw [hother]; rfl)
  refine ⟨hpaired.imp And.left And.left, ⟨row, KeyedTable.lookup_eq_some_iff.mp hrow⟩, hne, ?_, ?_⟩
  · intro htype
    rcases hpaired with ⟨_, r', hr', hm⟩ | ⟨hreceived, -⟩
    · refine ⟨r', ⟨hr', hm⟩, ?_⟩
      rintro y ⟨hy, hmy⟩
      exact hsameId hy hr' (hmy.id.trans hm.id.symm)
    · rw [htype] at hreceived
      cases hreceived
  · intro htype
    rcases hpaired with ⟨hsent, -⟩ | ⟨_, r', hr', hsent, hm⟩
    · rw [htype] at hsent
      cases hsent
    · refine ⟨r', ⟨hr', hsent, hm⟩, ?_⟩
      rintro y ⟨hy, -, hmy⟩
      exact hsameId hy hr' (Nat.succ.inj (hmy.id.symm.trans hm.id))

/-- Ada deposits 100 and sends 30 of it to Bob. -/
def firstTransfer : List Event :=
  [.connect, .request (plain "CREATE_ACCOUNT\n7\nAda\n1234"),
    .request (plain "CREATE_ACCOUNT\n8\nBob\n5678"), .request (plain "LOGIN\n7\n1234"),
    .request (plain "DEPOSIT\n100"), .request (plain "TRANSFER\n8\n30")]

theorem transfers_mirrored_firstTransfer :
    let t := (reached .exact emptyServer firstTransfer).store.tables
    t.transactions.rows.map Transaction.relatedAccount = [none, some 8, some 7] ∧
      ∀ r ∈ t.transactions.rows, ∀ other, r.relatedAccount = some other →
        ∃ row ∈ t.accounts.rows, row.accountNo = other := by
  refine ⟨by decide +kernel, ?_⟩
  intro r hr other hother
  exact (transfers_mirrored .exact emptyServer_opened firstTransfer r hr other hother).2.1

end AtmSystem.Bank
