import AtmSystem.Bank.Entries
import AtmSystem.Bank.Run

/-!
The exact effect of a transfer. `dbTransfer` reads both balances before it
writes either, and writes two rows of each table; what it leaves is given here
row by row, and so is when it does so. In exact arithmetic nothing but the
column constraint on `balance` is needed of the tables.
-/

namespace AtmSystem.Bank

open Library Model

/-- No NULL stands in the column `balance`: NaN is stored as NULL, and the
column is NOT NULL. -/
structure NumericBalances (t : Tables) : Prop where
  number : ∀ row ∈ t.accounts.rows, row.balance ≠ .nan

/-- The transfer is to another account that exists, and the sender holds the
amount. -/
def Transferable (t : Tables) (sender receiver : Int) (amount : Double) : Prop :=
  0 < receiver ∧ receiver ≠ sender ∧ ∃ source target,
    t.accounts.lookup sender = some source ∧ t.accounts.lookup receiver = some target ∧
      0 < amount ∧ amount ≤ source.balance

/-- An account row behind the transfer. -/
def transferred (sender receiver : Int) (amount : Double) (row : Account) : Account :=
  if row.accountNo = sender then { row with balance := row.balance.sub .exact amount }
  else if row.accountNo = receiver then { row with balance := row.balance.add .exact amount }
  else row

/-- What a transfer leaves of the tables `t`, and what it reports. -/
structure TransferEffect (t : Tables) (sender receiver : Int) (amount : Double)
    (createdAt : Bytes) (answer : Option Double) (t' : Tables) : Prop where
  accounts : t'.accounts.rows = t.accounts.rows.map (transferred sender receiver amount)
  transactions : t'.transactions.rows = t.transactions.rows ++
    [⟨t.transactions.last + 1, sender, some receiver, .transferSent, amount,
        balanceOf t' sender, createdAt⟩,
      ⟨t.transactions.last + 2, receiver, some sender, .transferReceived, amount,
        balanceOf t' receiver, createdAt⟩]
  admins : t'.admins = t.admins
  sent : ∀ source, t.accounts.lookup sender = some source →
    balanceOf t' sender = some (source.balance.sub .exact amount)
  received : ∀ target, t.accounts.lookup receiver = some target →
    balanceOf t' receiver = some (target.balance.add .exact amount)
  answer : answer = balanceOf t' sender

/-- A finite amount makes no NaN of a number. -/
theorem sub_fin_ne_nan {x : Double} (hx : x ≠ .nan) (q : ℚ) : x.sub .exact (.fin q) ≠ .nan := by
  cases x with
  | nan => exact absurd rfl hx
  | negInf => exact fun h => by cases h
  | fin b => exact fun h => by cases h
  | posInf => exact fun h => by cases h

theorem add_fin_ne_nan {x : Double} (hx : x ≠ .nan) (q : ℚ) : x.add .exact (.fin q) ≠ .nan := by
  cases x with
  | nan => exact absurd rfl hx
  | negInf => exact fun h => by cases h
  | fin b => exact fun h => by cases h
  | posInf => exact fun h => by cases h

/-- Booking two balances rewrites two rows. -/
theorem booked_rows {t : Tables} {sender receiver : Int} {source target : Account}
    (hdistinct : receiver ≠ sender) (hsource : t.accounts.lookup sender = some source)
    (htarget : t.accounts.lookup receiver = some target) (amount : Double) (createdAt : Bytes) :
    (book (book t sender (some receiver) .transferSent amount
        (source.balance.sub .exact amount) createdAt) receiver (some sender) .transferReceived
        amount (target.balance.add .exact amount) createdAt).accounts.rows =
      t.accounts.rows.map (transferred sender receiver amount) := by
  change ((t.accounts.rows.map _).map _) = _
  rw [List.map_map]
  apply List.map_congr_left
  intro row hrow
  have hlookup := KeyedTable.lookup_of_mem hrow
  by_cases hsender : row.accountNo = sender
  · rw [hsender, hsource] at hlookup
    obtain rfl := Option.some.inj hlookup
    simp [transferred, hsender, Ne.symm hdistinct]
  by_cases hreceiver : row.accountNo = receiver
  · rw [hreceiver, htarget] at hlookup
    obtain rfl := Option.some.inj hlookup
    simp [transferred, hreceiver, hdistinct]
  · simp [transferred, hsender, hreceiver]

theorem balanceOf_book {t : Tables} {accountNo : Int} {row : Account}
    (hrow : t.accounts.lookup accountNo = some row) (relatedAccount : Option Int)
    (type : TransactionType) (amount newBalance : Double) (createdAt : Bytes) (k : Int) :
    balanceOf (book t accountNo relatedAccount type amount newBalance createdAt) k =
      if k = accountNo then some newBalance else balanceOf t k := by
  rw [balanceOf, lookup_book, hrow]
  split <;> rfl

/-- A transfer is performed for transferable amounts only, and has its effect. -/
theorem transferEffect_of_performs {t t' : Tables} {sender receiver : Int} {amount : Double}
    {createdAt : Bytes}
    (h : (Action.transfer sender receiver amount createdAt).Performs .exact t t') :
    Transferable t sender receiver amount ∧
      TransferEffect t sender receiver amount createdAt (balanceOf t' sender) t' := by
  cases h with
  | @transfer _ _ _ _ _ source target hpositive hdistinct hsource htarget hamount hfunds =>
      refine ⟨⟨hpositive, hdistinct, source, target, hsource, htarget, hamount, hfunds⟩, ?_⟩
      generalize hfirst : book t sender (some receiver) .transferSent amount
        (source.balance.sub .exact amount) createdAt = first
      generalize hsecond : book first receiver (some sender) .transferReceived amount
        (target.balance.add .exact amount) createdAt = second
      have htarget' : first.accounts.lookup receiver = some target := by
        rw [← hfirst, lookup_book, if_neg hdistinct, htarget]
      have hreceiver : balanceOf second receiver = some (target.balance.add .exact amount) := by
        rw [← hsecond, balanceOf_book htarget', if_pos rfl]
      have hsender : balanceOf second sender = some (source.balance.sub .exact amount) := by
        rw [← hsecond, balanceOf_book htarget', if_neg (Ne.symm hdistinct), ← hfirst,
          balanceOf_book hsource, if_pos rfl]
      constructor
      · rw [← hsecond, ← hfirst]
        exact booked_rows hdistinct hsource htarget amount createdAt
      · rw [hsender, hreceiver, ← hsecond, ← hfirst]
        exact List.append_assoc _ _ _
      · rw [← hsecond, ← hfirst]
        rfl
      · intro found hfound
        rw [hsource] at hfound
        rw [hsender, Option.some.inj hfound]
      · intro found hfound
        rw [htarget] at hfound
        rw [hreceiver, Option.some.inj hfound]
      · rfl

/-- For a finite amount the conditions that are checked suffice. -/
theorem performs_of_transferable {t : Tables} (hnumeric : NumericBalances t)
    {sender receiver : Int} {q : ℚ} (createdAt : Bytes)
    (h : Transferable t sender receiver (.fin q)) :
    ∃ t', (Action.transfer sender receiver (.fin q) createdAt).Performs .exact t t' := by
  obtain ⟨hpositive, hdistinct, source, target, hsource, htarget, hamount, hfunds⟩ := h
  have hnumber := hnumeric.number source (KeyedTable.lookup_mem hsource)
  have hnumber' := hnumeric.number target (KeyedTable.lookup_mem htarget)
  exact ⟨_, .transfer hpositive hdistinct hsource htarget hamount hfunds
    (sub_fin_ne_nan hnumber q) (add_fin_ne_nan hnumber' q)⟩

/-- In exact arithmetic, for a finite amount and when no SQL call fails:
`db_transfer` returns 1 exactly if the receiver is another existing account and
the sender exists and holds the positive amount. Then the two balances change
by the amount and two rows are appended, and otherwise nothing changes and no
balance is reported. -/
theorem transfer_exact {env : Environment} (hquiet : ¬ env.Faulty) {t : Tables}
    (hnumeric : NumericBalances t) (sender receiver : Int) (q : ℚ) :
    let outcome := (dbTransfer .exact env sender receiver (.fin q)).exec .exact env ⟨t, none⟩
    (outcome.1.isSome ↔ Transferable t sender receiver (.fin q)) ∧
      (Transferable t sender receiver (.fin q) → outcome.2.saved = none ∧
        TransferEffect t sender receiver (.fin q) env.timestamp outcome.1 outcome.2.tables) ∧
      (¬ Transferable t sender receiver (.fin q) → outcome = (none, ⟨t, none⟩)) := by
  intro outcome
  have hsettled := exec_of_always .exact env _ ⟨t, none⟩
    (dbTransfer_settled env sender receiver (.fin q))
  change Settled _ _ _ _ _ _ outcome.1 outcome.2 at hsettled
  rcases hsettled with ⟨t', hperforms, hanswer, hstore⟩ | ⟨hrefused, hanswer, hstore⟩
  · obtain ⟨htransferable, heffect⟩ := transferEffect_of_performs hperforms
    have ⟨_, _, source, _, hsource, _⟩ := htransferable
    change outcome.1 = balanceOf t' sender at hanswer
    have hsome : outcome.1.isSome := by
      rw [hanswer, heffect.sent source hsource]
      rfl
    refine ⟨⟨fun _ => htransferable, fun _ => hsome⟩, fun _ => ?_, fun h => absurd htransferable h⟩
    rw [hstore, hanswer]
    exact ⟨rfl, heffect⟩
  · have hnot : ¬ Transferable t sender receiver (.fin q) := by
      intro htransferable
      obtain ⟨t', hperforms⟩ := performs_of_transferable hnumeric env.timestamp htransferable
      rcases hrefused with hfaulty | hnone
      · exact hquiet hfaulty
      · exact hnone t' hperforms
    refine ⟨⟨fun hsome => ?_, fun h => absurd h hnot⟩, fun h => absurd h hnot, fun _ => ?_⟩
    · rw [hanswer] at hsome
      cases hsome
    · exact Prod.ext hanswer hstore

/-- Ada holds 100, Bob nothing. -/
def adaAndBob : Tables :=
  let opened (accountNo : Int) (name : String) (balance : Double) : Account :=
    { accountNo := accountNo, name := ascii name, pinHash := 0, salt := 0, balance := balance,
      failedAttempts := 0, isLocked := 0, createdAt := ascii "2024-01-01 00:00:00" }
  (Tables.empty.insertAccount (opened 7 "Ada" (.fin 100))).insertAccount (opened 8 "Bob" 0)

theorem transfer_exact_adaAndBob :
    let env := (plain "TRANSFER\n8\n30").env
    let outcome := (dbTransfer .exact env 7 8 (.fin 30)).exec .exact env ⟨adaAndBob, none⟩
    outcome.1.isSome ∧ outcome.2.saved = none ∧
      TransferEffect adaAndBob 7 8 (.fin 30) env.timestamp outcome.1 outcome.2.tables := by
  intro env outcome
  have hnumeric : NumericBalances adaAndBob := ⟨by decide +kernel⟩
  have htransferable : Transferable adaAndBob 7 8 (.fin 30) := by
    refine ⟨by decide, by decide, _, _, rfl, rfl, ?_, ?_⟩
    · exact Double.fin_lt_fin.mpr (by norm_num)
    · exact Double.fin_le_fin.mpr (by norm_num)
  obtain ⟨hiff, heffect, -⟩ := transfer_exact (plain_quiet _) hnumeric 7 8 30
  exact ⟨hiff.mpr htransferable, heffect htransferable⟩

end AtmSystem.Bank
