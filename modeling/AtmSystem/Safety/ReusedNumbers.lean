import AtmSystem.Bank.View
import AtmSystem.Safety.Renaming

/-!
A number that is taken again. Deleting an account deletes its transactions and
takes its number out of all others, and neither comes back: a transaction keeps
its id for as long as there is one, new ones have larger ids, and what names no
counterparty goes on naming none. So whoever gets the number later, a new
account or one that is renumbered, gets nothing of its former owner with it.
-/

namespace AtmSystem.Bank

open Library Model Program

/-! ### What becomes of transactions -/

/-- Transactions later on: each is new or was there before, and one without a
counterparty gets none. -/
structure Descends (t t' : Tables) : Prop where
  last : t.transactions.last ≤ t'.transactions.last
  rows : ∀ r' ∈ t'.transactions.rows, t.transactions.last < r'.id ∨
    ∃ r ∈ t.transactions.rows, r.id = r'.id ∧ (r.relatedAccount = none → r'.relatedAccount = none)

namespace Descends

variable {t t' t'' : Tables}

theorem of_rows (h : t'.transactions = t.transactions) : Descends t t' := by
  refine ⟨h ▸ Nat.le_refl _, fun r hr => ?_⟩
  rw [h] at hr
  exact .inr ⟨r, hr, rfl, id⟩

theorem trans (h : Descends t t') (h' : Descends t' t'') : Descends t t'' := by
  refine ⟨h.last.trans h'.last, fun r'' hr'' => ?_⟩
  rcases h'.rows r'' hr'' with hnew | ⟨r', hr', hid', hnone'⟩
  · exact .inl (h.last.trans_lt hnew)
  · rcases h.rows r' hr' with hnew | ⟨r, hr, hid, hnone⟩
    · exact .inl (hid' ▸ hnew)
    · exact .inr ⟨r, hr, hid.trans hid', fun hrelated => hnone' (hnone hrelated)⟩

theorem book (t : Tables) (accountNo : Int) (relatedAccount : Option Int) (type : TransactionType)
    (amount newBalance : Double) (createdAt : Bytes) :
    Descends t (book t accountNo relatedAccount type amount newBalance createdAt) := by
  refine ⟨Nat.le_succ _, fun r' hr' => ?_⟩
  rcases List.mem_append.mp hr' with hold | hnew
  · exact .inr ⟨r', hold, rfl, id⟩
  · rw [List.mem_singleton.mp hnew]
    exact .inl (Nat.lt_succ_self _)

theorem renumber (t : Tables) (accountNo newAccountNo : Int) (row : Account) :
    Descends t (renumber t accountNo newAccountNo row) := by
  refine ⟨Nat.le_refl _, fun r' hr' => ?_⟩
  rw [renumber_rows] at hr'
  obtain ⟨r, hr, rfl⟩ := List.mem_map.mp hr'
  refine .inr ⟨r, hr, ?_, fun hnone => ?_⟩
  · rw [redirect_rehome, renamed_id]
  · rw [redirect_rehome, renamed, hnone, Option.map_none]

theorem close (t : Tables) (accountNo : Int) : Descends t (close t accountNo) := by
  refine ⟨Nat.le_refl _, fun r' hr' => ?_⟩
  rw [close_rows] at hr'
  obtain ⟨r, hr, rfl⟩ := List.mem_map.mp (List.mem_filter.mp hr').1
  refine .inr ⟨r, hr, ?_, fun hnone => ?_⟩
  · unfold redirect
    split <;> rfl
  · rw [redirect, hnone]
    exact hnone

theorem performs {fp : Rounding} {a : Action} (ha : a.Performs fp t t') : Descends t t' := by
  cases ha with
  | move => exact book ..
  | transfer => exact (book ..).trans (book ..)
  | renumber => exact renumber ..
  | delete => exact close ..
  | _ => exact of_rows rfl

end Descends

theorem descends_of_run {fp : Rounding} {s : ServerState} (hsaved : s.store.saved = none)
    (events : List Event) : Descends s.store.tables (reached fp s events).store.tables := by
  refine tables_invariant (Descends s.store.tables) ?_ ?_ (allowed_all events) hsaved
    (.of_rows rfl)
  · intro t accountNo failedAttempts isLocked h
    exact h.trans (.of_rows rfl)
  · intro message session t a t' _ _ hperforms h
    exact h.trans (.performs hperforms)

/-! ### What the reports on an account read -/

/-- A database that holds one account with its transactions and nothing else. -/
def alone (t : Tables) (accountNo : Int) : Tables where
  accounts := ⟨t.accounts.rows.filter fun row => row.accountNo = accountNo,
    t.accounts.unique.sublist (List.filter_sublist.map _)⟩
  transactions := t.transactions.filter fun r => r.accountNo = accountNo
  admins := .empty

theorem agreesOn_alone (t : Tables) (accountNo : Int) : AgreesOn accountNo t (alone t accountNo) := by
  constructor
  · rw [KeyedTable.lookup, KeyedTable.lookup, alone, List.find?_filter]
    simp
  · have hentries : entries (alone t accountNo) accountNo = entries t accountNo := by
      change (t.transactions.rows.filter _).filter _ = t.transactions.rows.filter _
      rw [List.filter_filter]
      simp
    rw [seenEntries, seenEntries, hentries]

/-- The reports on an account say the same when nothing else is in the
database. -/
structure ReportsAlone (fp : Rounding) (t : Tables) (accountNo : Int) : Prop where
  miniStatement : ∀ env, ((dbBuildMiniStatement accountNo).exec fp env ⟨t, none⟩).1 =
    ((dbBuildMiniStatement accountNo).exec fp env ⟨alone t accountNo, none⟩).1
  monthlySummary : ∀ env month,
    ((dbBuildMonthlySummary fp env accountNo month).exec fp env ⟨t, none⟩).1 =
      ((dbBuildMonthlySummary fp env accountNo month).exec fp env ⟨alone t accountNo, none⟩).1
  accountDetails : ∀ env, ((dbBuildAccountDetails accountNo).exec fp env ⟨t, none⟩).1 =
    ((dbBuildAccountDetails accountNo).exec fp env ⟨alone t accountNo, none⟩).1

theorem reportsAlone (fp : Rounding) (t : Tables) (accountNo : Int) :
    ReportsAlone fp t accountNo := by
  have hview (env : Environment) : SameView accountNo (World.start env ⟨t, none⟩)
      (World.start env ⟨alone t accountNo, none⟩) :=
    ⟨agreesOn_alone t accountNo, .none, rfl, rfl, fun _ => rfl, fun _ => rfl⟩
  constructor
  · intro env
    exact (views_dbBuildMiniStatement.runs _ _ (hview env)).1
  · intro env month
    exact ((views_dbBuildMonthlySummary env month).runs _ _ (hview env)).1
  · intro env
    exact (views_dbBuildAccountDetails.runs _ _ (hview env)).1

/-! ### Deletion -/

/-- The account is gone with its transactions. In the others' transactions the
number is struck out, and nothing else changes. -/
structure Deleted (t : Tables) (accountNo : Int) (t' : Tables) : Prop where
  empty : balanceOf t accountNo = some 0
  gone : t'.accounts.lookup accountNo = none ∧ entries t' accountNo = []
  accounts : ∀ k ≠ accountNo, t'.accounts.lookup k = t.accounts.lookup k
  histories : ∀ k ≠ accountNo, entries t' k = (entries t k).map (redirect none accountNo)

/-- The former owner has left nothing: no transaction of theirs is there, no
transaction that named them names anybody, and the reports on the account read
nothing but the account and its own transactions. -/
structure Forgotten (fp : Rounding) (t : Tables) (accountNo : Int) (t' : Tables) : Prop where
  transactions : ∀ r ∈ entries t accountNo, ∀ r' ∈ t'.transactions.rows, r'.id ≠ r.id
  references : ∀ r ∈ t.transactions.rows, r.relatedAccount = some accountNo →
    ∀ r' ∈ t'.transactions.rows, r'.id = r.id → r'.relatedAccount = none
  reports : ReportsAlone fp t' accountNo

theorem deleted_of_close {t : Tables} {accountNo : Int} {row : Account}
    (hrow : t.accounts.lookup accountNo = some row) (hempty : row.balance = 0) :
    Deleted t accountNo (close t accountNo) where
  empty := by rw [balanceOf, hrow, Option.map_some, hempty]
  gone := by rw [lookup_close, entries_close, if_pos rfl, if_pos rfl]; exact ⟨rfl, rfl⟩
  accounts k hk := by rw [lookup_close, if_neg hk]
  histories k hk := by rw [entries_close, if_neg hk]

/-- What is struck out at the deletion stays out. -/
theorem forgotten_of_descends (fp : Rounding) {t t' : Tables} {accountNo : Int}
    (h : Descends (close t accountNo) t') : Forgotten fp t accountNo t' := by
  -- a later row with the id of a row from before descends from it
  have horigin {r r' : Transaction} (hr : r ∈ t.transactions.rows)
      (hr' : r' ∈ t'.transactions.rows) (hid : r'.id = r.id) :
      r.accountNo ≠ accountNo ∧
        ((redirect none accountNo r).relatedAccount = none → r'.relatedAccount = none) := by
    rcases h.rows r' hr' with hnew | ⟨closed, hclosed, hsame, hnone⟩
    · exact absurd (hid ▸ t.transactions.bounded r hr) (Nat.not_le_of_lt hnew)
    · rw [close_rows, List.mem_filter] at hclosed
      obtain ⟨hmem, hother⟩ := hclosed
      obtain ⟨old, hold, rfl⟩ := List.mem_map.mp hmem
      have hkept : (redirect none accountNo old).id = old.id := by
        unfold redirect
        split <;> rfl
      obtain rfl : old = r :=
        t.transactions.eq_of_id hold hr (hkept.symm.trans (hsame.trans hid))
      exact ⟨by simpa using hother, hnone⟩
  refine ⟨?_, ?_, reportsAlone fp t' accountNo⟩
  · intro r hr r' hr' hid
    obtain ⟨hmem, hno⟩ := List.mem_filter.mp hr
    exact (horigin hmem hr' hid).1 (by simpa using hno)
  · intro r hr hrelated r' hr' hid
    apply (horigin hr hr' hid).2
    rw [redirect, if_pos hrelated]

/-! ### The number is taken again -/

/-- The number goes to an account that is created: it has its own PIN, is not
locked, and has no history. -/
structure CreatedAnew (t : Tables) (accountNo : Int) (name : Bytes) (pin : Int)
    (env : Environment) : Prop where
  row : t.accounts.lookup accountNo =
    some (newAccount accountNo name pin env.salt env.timestamp)
  history : entries t accountNo = []

/-- The number goes to the account `old`: it has a new PIN, and all else is
what the account had under its old number. -/
structure TakenOver (t : Tables) (old accountNo : Int) (name : Bytes) (pin : Int)
    (env : Environment) (t' : Tables) : Prop where
  row : ∃ row, t.accounts.lookup old = some row ∧
    t'.accounts.lookup accountNo = some (renumbered row accountNo name pin env.salt)
  history : entries t' accountNo = (entries t old).map (renamed old accountNo)

section turns

variable {fp : Rounding} {env : Environment} {session session' : Session} {t t' : Tables}
  {response : Response} {accountNo : Int}

theorem deleted_of_turn
    (hturn : Turn fp env session t (.deleteAccount (some accountNo)) response session' t')
    (hok : response.status = .ok) : Deleted t accountNo t' ∧ t' = close t accountNo := by
  cases hturn with
  | refused => cases hok
  | reported hread => exact hread.elim
  | performed hintended hperforms =>
      cases asks_of_intended hintended
      cases hperforms with
      | delete _ hrow hempty => exact ⟨deleted_of_close hrow hempty, rfl⟩

/-- A free number has no history: the foreign key keeps it so. -/
theorem createdAnew_of_turn (hkeys : ForeignKeys t) {name : Bytes} {pin : Int}
    (hturn : Turn fp env session t (.createAccount (some (accountNo, name, pin))) response
      session' t')
    (hok : response.status = .ok) : CreatedAnew t' accountNo name pin env ∧ Descends t t' := by
  cases hturn with
  | refused => cases hok
  | reported hread => exact hread.elim
  | performed hintended hperforms =>
      refine ⟨?_, .performs hperforms⟩
      cases asks_of_intended hintended
      cases hperforms with
      | create _ _ _ hnew =>
          constructor
          · rw [Tables.lookup_insertAccount _ _ _ hnew]
            exact if_pos rfl
          · exact hkeys.entries_eq_nil hnew

theorem takenOver_of_turn (hkeys : ForeignKeys t) {old : Int} {name : Bytes} {pin : Int}
    (hdistinct : old ≠ accountNo)
    (hturn : Turn fp env session t (.editAccount (some (old, accountNo, name, pin))) response
      session' t')
    (hok : response.status = .ok) :
    TakenOver t old accountNo name pin env t' ∧ Descends t t' := by
  cases hturn with
  | refused => cases hok
  | reported hread => exact hread.elim
  | performed hintended hperforms =>
      refine ⟨?_, .performs hperforms⟩
      cases asks_of_intended hintended
      cases hperforms with
      | rename => exact absurd rfl hdistinct
      | renumber _ _ _ _ _ hrow hnew =>
          constructor
          · refine ⟨_, hrow, ?_⟩
            rw [lookup_renumbered _ _ _ _ _ hnew, if_neg (Ne.symm hdistinct), if_pos rfl]
          · rw [entries_renumber _ _ hdistinct (hkeys.entries_eq_nil hnew),
              if_neg (Ne.symm hdistinct), if_pos rfl]
            exact List.map_congr_left fun r _ => redirect_rehome old accountNo r

end turns

/-- The foreign key is kept up along a run. -/
theorem foreignKeys_of_run {fp : Rounding} {s : ServerState} (hsaved : s.store.saved = none)
    (hkeys : ForeignKeys s.store.tables) (events : List Event) :
    ForeignKeys (reached fp s events).store.tables := by
  refine tables_invariant ForeignKeys ?_ ?_ (allowed_all events) hsaved hkeys
  · intro t accountNo failedAttempts isLocked h
    exact h.setLoginState ..
  · intro message session t a t' _ _ hperforms h
    exact h.performs hperforms

/-- In a run that starts on a file whose transactions all belong to accounts,
DELETE_ACCOUNT of an account succeeds, and after any further requests the number
is taken again, by a new account or by one that is renumbered. The deletion
changes nothing else but the references, and whoever has the number then has
nothing of its former owner. -/
theorem reused_number_is_clean {fp : Rounding} {s : ServerState} (hsaved : s.store.saved = none)
    (hkeys : ForeignKeys s.store.tables) (earlier : List Event) {deletion : Message} {accountNo : Int}
    (hdeletion : requested fp deletion = .deleteAccount (some accountNo))
    (hdeleted : ((reached fp s earlier).serve fp deletion).1.status = .ok)
    (between : List Event) {reuse : Message} :
    let before := reached fp s earlier
    let closed := (before.serve fp deletion).2
    let free := reached fp closed between
    let outcome := free.serve fp reuse
    let t := before.store.tables
    let t' := outcome.2.store.tables
    Deleted t accountNo closed.store.tables ∧
      (outcome.1.status = .ok →
        (∀ name pin, requested fp reuse = .createAccount (some (accountNo, name, pin)) →
          CreatedAnew t' accountNo name pin reuse.env ∧ Forgotten fp t accountNo t') ∧
        ∀ old name pin, old ≠ accountNo →
          requested fp reuse = .editAccount (some (old, accountNo, name, pin)) →
          TakenOver free.store.tables old accountNo name pin reuse.env t' ∧
            Forgotten fp t accountNo t') := by
  intro before closed free outcome t t'
  obtain ⟨hclosedSaved, hclosing⟩ :=
    serve_turn fp before deletion (reached_saved hsaved earlier)
  rw [hdeletion] at hclosing
  obtain ⟨hgone, hclose⟩ := deleted_of_turn hclosing hdeleted
  refine ⟨hgone, fun hok => ?_⟩
  -- the number is taken in a state of the same run
  have hkeysThen : ForeignKeys free.store.tables := by
    have hrun := @foreignKeys_of_run fp s hsaved hkeys (earlier ++ .request deletion :: between)
    rwa [reached, Machine.final_append, Machine.final_cons] at hrun
  have hsince : Descends (close t accountNo) free.store.tables :=
    hclose ▸ descends_of_run hclosedSaved between
  have htaking := (serve_turn fp free reuse (reached_saved hclosedSaved between)).2
  refine ⟨?_, ?_⟩
  · intro name pin hreuse
    rw [hreuse] at htaking
    obtain ⟨hcreated, hstep⟩ := createdAnew_of_turn hkeysThen htaking hok
    exact ⟨hcreated, forgotten_of_descends fp (hsince.trans hstep)⟩
  · intro old name pin hdistinct hreuse
    rw [hreuse] at htaking
    obtain ⟨htaken, hstep⟩ := takenOver_of_turn hkeysThen hdistinct htaking hok
    exact ⟨htaken, forgotten_of_descends fp (hsince.trans hstep)⟩

/-- Ada is credited 100 and pays all of it to Bob. -/
def adasHistory : List Event :=
  [.connect, .request (plain "CREATE_ACCOUNT\n7\nAda\n1234"),
    .request (plain "CREATE_ACCOUNT\n8\nBob\n5678"),
    .request (plain "ADMIN_LOGIN\nroot\nletmein99"), .request (plain "ADMIN_CREDIT\n7\n100"),
    .request (plain "LOGIN\n7\n1234"), .request (plain "TRANSFER\n8\n100"),
    .request (plain "ADMIN_LOGIN\nroot\nletmein99")]

/-- The bank when Ada's account has been deleted. -/
def adaDeleted : ServerState :=
  ((reached .exact rootServer adasHistory).serve .exact (plain "DELETE_ACCOUNT\n7")).2

/-- Eve gets the number of Ada's account, which Bob's transaction has named. -/
theorem reused_number_is_clean_eve :
    let eve := plain "CREATE_ACCOUNT\n7\nEve\n4321"
    let t := (reached .exact rootServer adasHistory).store.tables
    let t' := ((reached .exact adaDeleted [.connect]).serve .exact eve).2.store.tables
    (entries t 8).map Transaction.relatedAccount = [some 7] ∧
      CreatedAnew t' 7 (ascii "Eve") 4321 eve.env ∧ Forgotten .exact t 7 t' := by
  have hdeletion : requested .exact (plain "DELETE_ACCOUNT\n7") = .deleteAccount (some 7) := by
    decide +kernel
  have hcreation : requested .exact (plain "CREATE_ACCOUNT\n7\nEve\n4321") =
      .createAccount (some (7, ascii "Eve", 4321)) := by decide +kernel
  -- one evaluation of the run for all that is read off it
  obtain ⟨hnamed, hdeleted, hok⟩ :
      (entries (reached .exact rootServer adasHistory).store.tables 8).map
          Transaction.relatedAccount = [some 7] ∧
        ((reached .exact rootServer adasHistory).serve .exact
          (plain "DELETE_ACCOUNT\n7")).1.status = .ok ∧
        ((reached .exact adaDeleted [.connect]).serve .exact
          (plain "CREATE_ACCOUNT\n7\nEve\n4321")).1.status = .ok := by decide +kernel
  obtain ⟨-, htaken⟩ := @reused_number_is_clean .exact _ rootServer_opened.saved
    rootServer_opened.books.keys adasHistory _ 7 hdeletion hdeleted [.connect]
    (plain "CREATE_ACCOUNT\n7\nEve\n4321")
  rw [← adaDeleted] at htaken
  obtain ⟨hcreated, -⟩ := htaken hok
  exact ⟨hnamed, hcreated (ascii "Eve") 4321 hcreation⟩

end AtmSystem.Bank
