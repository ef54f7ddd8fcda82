import AtmSystem.Bank.Printing
import AtmSystem.Bank.View
import AtmSystem.Safety.Renaming

/-!
The mini statement. It lists the last five transactions by the local time they
were stamped with, and only among equal stamps by the order they were committed
in. Local time steps back once a year, so the five it lists are the last five
exactly if none of these is stamped earlier than a transaction before it; and
while the clock of a run never steps back, they are.
-/

namespace AtmSystem.Bank

open Library Model Program
open scoped Timestamps

/-! ### The report -/

/-- The transactions the report lists. -/
def statementRows (t : Tables) (accountNo : Int) : List Transaction :=
  (newestFirst (entries t accountNo)).take 5

def statementText (info : AccountInfo) (rows : List Transaction) : Bytes :=
  statementHeader info ++
    (if rows = [] then ascii "No transactions found.\n" else rows.flatMap statementLine)

/-- The report on an account that exists. -/
theorem dbBuildMiniStatement_prints {fp : Rounding} {faulty : Prop} {t : Tables} {accountNo : Int}
    {row : Account} (hrow : t.accounts.lookup accountNo = some row) :
    Always (SqlAnswers fp faulty) (dbBuildMiniStatement accountNo) ⟨t, none⟩ fun answer _ =>
      Prints faulty (statementText (row.info accountNo) (statementRows t accountNo)) answer := by
  have hrows : (Statement.selectStatement accountNo 5).exec fp t =
      .ok (statementRows t accountNo, t) := rfl
  simp only [dbBuildMiniStatement, always_bind, always_dbReadAccount, hrow, always_pure]
  refine ⟨fun hf => prints_refused (.inl hf), ?_⟩
  -- the texts are named so that nothing evaluates them
  rw [statementText]
  generalize statementHeader (row.info accountNo) = header
  generalize ascii "No transactions found.\n" = noRows
  generalize ascii "Mini statement output exceeded buffer size." = exceeded
  apply (listingReport_prints header hrows statementLine noRows exceeded).mono
  rintro answer s' ⟨hprints, -⟩
  exact hprints

/-! ### The last balance shown -/

/-- The last transaction of a history shows the balance. -/
def ShowsLast (rows : List Transaction) (balance : Double) : Prop :=
  ∀ r, rows.getLast? = some r → r.balanceAfter = some balance

theorem ShowsLast.map {rows : List Transaction} {balance : Double} {f : Transaction → Transaction}
    (h : ShowsLast rows balance) (hf : ∀ r, (f r).balanceAfter = r.balanceAfter) :
    ShowsLast (rows.map f) balance := by
  intro r' hr'
  rw [List.getLast?_map] at hr'
  obtain ⟨r, hr, rfl⟩ := Option.map_eq_some_iff.mp hr'
  rw [hf]
  exact h r hr

/-- Every account's last transaction shows its balance. -/
structure LastShown (t : Tables) : Prop where
  keys : ForeignKeys t
  shown : ∀ k row, t.accounts.lookup k = some row → ShowsLast (entries t k) row.balance

namespace LastShown

variable {t t' : Tables}

theorem of_rows (h : LastShown t) (hkeys : ForeignKeys t')
    (hrows : t'.transactions.rows = t.transactions.rows)
    (hbalance : ∀ k row', t'.accounts.lookup k = some row' →
      (∃ row, t.accounts.lookup k = some row ∧ row'.balance = row.balance) ∨ entries t k = []) :
    LastShown t' := by
  refine ⟨hkeys, fun k row' hrow' => ?_⟩
  have hentries : entries t' k = entries t k := by rw [entries, entries, hrows]
  rw [hentries]
  rcases hbalance k row' hrow' with ⟨row, hrow, hsame⟩ | hnone
  · rw [hsame]
    exact h.shown k row hrow
  · intro r hr
    rw [hnone] at hr
    cases hr

theorem book (h : LastShown t) {accountNo : Int} {row : Account}
    (hrow : t.accounts.lookup accountNo = some row) (relatedAccount : Option Int)
    (type : TransactionType) (amount newBalance : Double) (createdAt : Bytes) :
    LastShown (book t accountNo relatedAccount type amount newBalance createdAt) := by
  refine ⟨h.keys.book ⟨row, hrow⟩ .., fun k row' hrow' => ?_⟩
  rw [lookup_book] at hrow'
  rw [entries_book]
  by_cases hk : k = accountNo
  · rw [if_pos hk, hrow] at hrow'
    rw [if_pos hk]
    intro r hr
    rw [List.getLast?_concat] at hr
    rw [← Option.some.inj hr, ← Option.some.inj hrow']
  · rw [if_neg hk] at hrow'
    rw [if_neg hk]
    exact h.shown k row' hrow'

theorem setLoginState (h : LastShown t) (accountNo failedAttempts isLocked : Int) :
    LastShown (t.setLoginState accountNo failedAttempts isLocked) := by
  refine h.of_rows (h.keys.setLoginState ..) rfl fun k row' hrow' => .inl ?_
  obtain ⟨row, hrow, rfl | rfl⟩ := Tables.setLoginState_origin _ _ _ hrow'
  · exact ⟨_, hrow, rfl⟩
  · exact ⟨row, hrow, rfl⟩

theorem performs {fp : Rounding} {a : Action} (ha : a.Performs fp t t') (h : LastShown t) :
    LastShown t' := by
  have hkeys := h.keys.performs ha
  cases ha with
  | create _ _ _ hnew =>
      refine h.of_rows hkeys rfl fun k row' hrow' => ?_
      rw [Tables.lookup_insertAccount _ _ _ hnew] at hrow'
      split at hrow'
      · rename_i hk
        exact .inr (hk ▸ h.keys.entries_eq_nil hnew)
      · exact .inl ⟨row', hrow', rfl⟩
  | move hrow => exact h.book hrow ..
  | transfer _ hdistinct hsource htarget =>
      apply (h.book hsource ..).book
      rw [lookup_book, if_neg hdistinct]
      exact htarget
  | lock => exact h.setLoginState ..
  | unlock => exact h.setLoginState ..
  | @rename _ accountNo _ _ _ row _ _ _ hrow =>
      refine h.of_rows hkeys rfl fun k row' hrow' => .inl ?_
      rw [Tables.lookup_setIdentity, hrow] at hrow'
      split at hrow'
      · rename_i hk
        exact ⟨row, hk ▸ hrow, by rw [← Option.some.inj hrow']⟩
      · exact ⟨row', hrow', rfl⟩
  | @renumber _ accountNo newAccountNo _ _ _ row _ _ _ _ hdistinct hrow hnew =>
      refine ⟨hkeys, fun k row' hrow' => ?_⟩
      have hkept (r : Transaction) := (redirect_keeps (some newAccountNo) accountNo
        (rehome newAccountNo accountNo r)).2.2.trans (rehome_keeps newAccountNo accountNo r).2.2
      rw [entries_renumber k _ hdistinct (h.keys.entries_eq_nil hnew)]
      rw [lookup_renumbered _ _ _ _ _ hnew] at hrow'
      by_cases hold : k = accountNo
      · rw [if_pos hold] at hrow'
        cases hrow'
      · rw [if_neg hold] at hrow' ⊢
        by_cases hk : k = newAccountNo
        · rw [if_pos hk] at hrow' ⊢
          rw [← Option.some.inj hrow']
          exact (h.shown accountNo row hrow).map hkept
        · rw [if_neg hk] at hrow' ⊢
          exact (h.shown k row' hrow').map hkept
  | @delete _ accountNo row =>
      refine ⟨hkeys, fun k row' hrow' => ?_⟩
      rw [entries_close]
      rw [lookup_close] at hrow'
      by_cases hk : k = accountNo
      · rw [if_pos hk] at hrow'
        cases hrow'
      · rw [if_neg hk] at hrow' ⊢
        exact (h.shown k row' hrow').map fun r => (redirect_keeps none accountNo r).2.2
  | changePassword => exact h.of_rows hkeys rfl fun k row' hrow' => .inl ⟨row', hrow', rfl⟩

end LastShown

theorem lastShown_of_run {fp : Rounding} {s : ServerState} (hopened : Opened s)
    (events : List Event) : LastShown (reached fp s events).store.tables := by
  refine tables_invariant LastShown ?_ ?_ (allowed_all events) hopened.saved ?_
  · intro t accountNo failedAttempts isLocked h
    exact h.setLoginState ..
  · intro message session t a t' _ _ hperforms h
    exact h.performs hperforms
  · refine ⟨hopened.books.keys, fun k row hrow => ?_⟩
    exact (hopened.no_account hrow).elim

/-! ### The last five -/

/-- The last transactions are listed, at most five, the last one first, and so
the first shows the balance. -/
structure LastFive (t : Tables) (accountNo : Int) (balance : Double) : Prop where
  listed : statementRows t accountNo = (entries t accountNo).reverse.take 5
  balance : ∀ r, (statementRows t accountNo).head? = some r → r.balanceAfter = some balance

theorem lastFive_iff {t : Tables} {accountNo : Int} {balance : Double}
    (hshown : ShowsLast (entries t accountNo) balance) :
    LastFive t accountNo balance ↔
      LatestLast Transaction.createdAt 5 (entries t accountNo) := by
  rw [← take_listed_iff (entries_increasing t accountNo) 5, ← newestFirst_eq_listed,
    ← statementRows]
  constructor
  · exact LastFive.listed
  · intro hlisted
    refine ⟨hlisted, fun r hr => ?_⟩
    rw [hlisted, List.head?_take, List.head?_reverse] at hr
    exact hshown r hr

/-! ### A clock that never steps back -/

/-- The clock readings of a run, one for each request. -/
def readings : List Event → List Bytes
  | [] => []
  | .connect :: rest => readings rest
  | .request message :: rest => message.env.timestamp :: readings rest

/-- The timestamps of a table. -/
def stamps (t : Tables) : List Bytes := t.transactions.rows.map Transaction.createdAt

/-- Some timestamps are kept, and those added are all `stamp`. -/
def Stamped (stamp : Bytes) (t t' : Tables) : Prop :=
  ∃ kept n, stamps t' = kept ++ List.replicate n stamp ∧ kept.Sublist (stamps t)

theorem readings_append (first second : List Event) :
    readings (first ++ second) = readings first ++ readings second := by
  induction first with
  | nil => rfl
  | cons event rest ih =>
      cases event with
      | connect => exact ih
      | request message => exact congrArg (message.env.timestamp :: ·) ih

section stamped

variable {t t' : Tables} {stamp : Bytes}

theorem stamped_kept (h : (stamps t').Sublist (stamps t)) : Stamped stamp t t' :=
  ⟨stamps t', 0, (List.append_nil _).symm, h⟩

theorem stamps_book (t : Tables) (accountNo : Int) (relatedAccount : Option Int)
    (type : TransactionType) (amount newBalance : Double) (createdAt : Bytes) :
    stamps (book t accountNo relatedAccount type amount newBalance createdAt) =
      stamps t ++ [createdAt] := List.map_append

/-- New rows carry the reading of the request. -/
theorem stamped_of_performs {fp : Rounding} {env : Environment} {session : Session} {c : Command}
    {a : Action} (hintended : intended env session c = some a) (ha : a.Performs fp t t') :
    Stamped env.timestamp t t' := by
  cases ha with
  | @move _ _ _ _ createdAt _ =>
      have hstamp : createdAt = env.timestamp := by cases asks_of_intended hintended <;> rfl
      exact ⟨stamps t, 1, hstamp ▸ stamps_book .., List.Sublist.refl _⟩
  | @transfer _ _ _ _ createdAt _ _ =>
      have hstamp : createdAt = env.timestamp := by cases asks_of_intended hintended; rfl
      refine ⟨stamps t, 2, ?_, List.Sublist.refl _⟩
      rw [stamps_book, stamps_book, hstamp, List.append_assoc]
      rfl
  | renumber =>
      apply stamped_kept
      rw [stamps, renumber_rows, List.map_map]
      refine (List.map_congr_left fun r _ => ?_) ▸ List.Sublist.refl (stamps t)
      rw [Function.comp_apply, redirect_rehome]
      rfl
  | delete =>
      apply stamped_kept
      rw [stamps, close_rows]
      refine (List.filter_sublist.map _).trans ?_
      rw [List.map_map]
      refine (List.map_congr_left fun r _ => ?_) ▸ List.Sublist.refl (stamps t)
      rw [Function.comp_apply, redirect]
      split <;> rfl
  | _ => exact stamped_kept (List.Sublist.refl _)

theorem stamped_of_turn {fp : Rounding} {env : Environment} {session session' : Session}
    {c : Command} {response : Response}
    (hturn : Turn fp env session t c response session' t') : Stamped env.timestamp t t' := by
  cases hturn with
  | performed hintended hperforms => exact stamped_of_performs hintended hperforms
  | _ => exact stamped_kept (List.Sublist.refl _)

end stamped

/-- The timestamps of a table are readings of the clock, in their order. -/
theorem stamps_of_run {fp : Rounding} {s : ServerState} (hopened : Opened s) {events : List Event}
    (hclock : (readings events).Pairwise (· ≤ ·)) :
    (stamps (reached fp s events).store.tables).Pairwise (· ≤ ·) ∧
      ∀ stamp ∈ stamps (reached fp s events).store.tables, stamp ∈ readings events := by
  induction events using List.reverseRecOn with
  | nil =>
      have hnone : stamps s.store.tables = [] := by
        rw [stamps, hopened.transactions]
        rfl
      change (stamps s.store.tables).Pairwise (· ≤ ·) ∧ ∀ stamp ∈ stamps s.store.tables, _
      rw [hnone]
      exact ⟨List.Pairwise.nil, fun _ h => absurd h List.not_mem_nil⟩
  | append_singleton earlier event ih =>
      rw [readings_append, List.pairwise_append] at hclock
      obtain ⟨hearlier, -, hlater⟩ := hclock
      obtain ⟨hsorted, hread⟩ := ih hearlier
      rw [reached, Machine.final_append, ← reached, readings_append]
      cases event with
      | connect => exact ⟨hsorted, fun stamp h => List.mem_append_left _ (hread stamp h)⟩
      | request message =>
          have hidle : (reached fp s earlier).store.saved = none := reached_saved hopened.saved earlier
          obtain ⟨kept, n, hstamps, hkept⟩ :=
            stamped_of_turn (serve_turn fp (reached fp s earlier) message hidle).2
          have hold (stamp : Bytes) (h : stamp ∈ kept) : stamp ∈ readings earlier :=
            hread stamp (hkept.subset h)
          have hnow : message.env.timestamp ∈ readings [.request message] := List.mem_cons_self
          change (stamps ((reached fp s earlier).serve fp message).2.store.tables).Pairwise _ ∧
            ∀ stamp ∈ stamps ((reached fp s earlier).serve fp message).2.store.tables, _
          rw [hstamps, List.pairwise_append]
          refine ⟨⟨hsorted.sublist hkept, ?_, ?_⟩, ?_⟩
          · exact List.pairwise_replicate_of_refl
          · intro stamp hstamp new hnew
            rw [List.eq_of_mem_replicate hnew]
            exact hlater stamp (hold stamp hstamp) _ hnow
          · intro stamp hstamp
            rcases List.mem_append.mp hstamp with hstamp | hnew
            · exact List.mem_append_left _ (hold stamp hstamp)
            · rw [List.eq_of_mem_replicate hnew]
              exact List.mem_append_right _ hnow

/-- Then each transaction is no older than those before it. -/
theorem latestLast_of_sorted {t : Tables} (hsorted : (stamps t).Pairwise (· ≤ ·))
    (accountNo : Int) (n : Nat) : LatestLast Transaction.createdAt n (entries t accountNo) := by
  intro before r rest hrows _ r' hr'
  have hentries : (entries t accountNo).Pairwise fun a b => a.createdAt ≤ b.createdAt :=
    (List.pairwise_map.mp hsorted).sublist List.filter_sublist
  rw [hrows, List.pairwise_append] at hentries
  exact hentries.2.2 r' hr' r List.mem_cons_self

/-- In every state of a run, and for every account: the report prints the
transactions it lists, and these are the last ones exactly if none of the
account's last five is stamped earlier than a transaction before it. They are
in every run in which the clock never steps back. -/
theorem mini_statement_iff {fp : Rounding} {s : ServerState} (hopened : Opened s)
    (events : List Event) :
    let t := (reached fp s events).store.tables
    ∀ accountNo row, t.accounts.lookup accountNo = some row →
      (∀ env, Prints env.Faulty (statementText (row.info accountNo) (statementRows t accountNo))
        ((dbBuildMiniStatement accountNo).exec fp env ⟨t, none⟩).1) ∧
      (LastFive t accountNo row.balance ↔
        LatestLast Transaction.createdAt 5 (entries t accountNo)) ∧
      ((readings events).Pairwise (· ≤ ·) → LastFive t accountNo row.balance) := by
  intro t accountNo row hrow
  have hiff := lastFive_iff ((lastShown_of_run hopened events).shown accountNo row hrow)
  refine ⟨fun env => ?_, hiff, fun hclock => ?_⟩
  · exact exec_of_always fp env _ _ (dbBuildMiniStatement_prints hrow)
  · exact hiff.mpr (latestLast_of_sorted (stamps_of_run hopened hclock).1 accountNo 5)

/-- A request that is served when the clock reads `stamp`. -/
def servedAt (stamp text : String) : Event :=
  .request { plain text with env := { (plain text).env with timestamp := ascii stamp } }

/-- A customer pays in 100 and, ten minutes after the clocks went back, 50. -/
def extraHour : List Event :=
  [.connect, servedAt "2024-11-03 01:28:00" "CREATE_ACCOUNT\n7\nAda\n1234",
    servedAt "2024-11-03 01:29:00" "LOGIN\n7\n1234",
    servedAt "2024-11-03 01:30:00" "DEPOSIT\n100", servedAt "2024-11-03 01:10:00" "DEPOSIT\n50"]

theorem extraHour_account :
    ∃ row, (reached .exact emptyServer extraHour).store.tables.accounts.lookup 7 = some row ∧
      row.balance = .fin 150 := by
  have hbalance : ((reached .exact emptyServer extraHour).store.tables.accounts.lookup 7).map
      Account.balance = some (.fin 150) := by decide +kernel
  exact Option.map_eq_some_iff.mp hbalance

/-- The first line shows the balance after the first payment. -/
theorem extra_hour_hides_last :
    ¬ ∀ events, let t := (reached .exact emptyServer events).store.tables
      ∀ accountNo row, t.accounts.lookup accountNo = some row →
        LastFive t accountNo row.balance := by
  intro hclaim
  obtain ⟨row, hrow, hbalance⟩ := extraHour_account
  have hfirst : (statementRows (reached .exact emptyServer extraHour).store.tables 7).head?.map
      Transaction.balanceAfter = some (some (.fin 100)) := by decide +kernel
  obtain ⟨r, hr, hshown⟩ := Option.map_eq_some_iff.mp hfirst
  have hlast := (hclaim extraHour 7 row hrow).balance r hr
  rw [hshown, hbalance] at hlast
  revert hlast
  decide

theorem mini_statement_iff_extraHour :
    let t := (reached .exact emptyServer extraHour).store.tables
    ∃ row, t.accounts.lookup 7 = some row ∧ (LastFive t 7 row.balance ↔
      LatestLast Transaction.createdAt 5 (entries t 7)) := by
  intro t
  obtain ⟨row, hrow, -⟩ := extraHour_account
  exact ⟨row, hrow, (mini_statement_iff emptyServer_opened extraHour 7 row hrow).2.1⟩

end AtmSystem.Bank
