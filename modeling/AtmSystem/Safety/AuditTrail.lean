import AtmSystem.Safety.Renaming
import AtmSystem.Safety.Survival

/-!
The transactions as an audit trail. A row may come to name other account numbers
when accounts are renumbered or deleted, but what was done, how much of it, when
and with what balance behind it is never rewritten, and its id never stands for
another transaction. A row is taken out with its account, by an admin, when the
account is empty, and in no other way.
-/

namespace AtmSystem.Bank

open Library Program Model

/-- What is recorded of a transaction for good: all but the two account numbers,
which follow the accounts when they are renumbered or deleted. -/
def recorded (r : Transaction) : TransactionType × Double × Option Double × Bytes :=
  (r.type, r.amount, r.balanceAfter, r.createdAt)

/-- The transactions later on. -/
def Continued (t t' : Tables) : Prop :=
  SerialTable.Continues recorded t.transactions t'.transactions

namespace Continued

variable {fp : Rounding} {files : LegacyFiles} {t t' t'' : Tables}

theorem refl (t : Tables) : Continued t t := SerialTable.Continues.refl _

theorem trans (h : Continued t t') (h' : Continued t' t'') : Continued t t'' :=
  SerialTable.Continues.trans h h'

theorem of_transactions (h : t'.transactions = t.transactions) : Continued t t' := by
  rw [Continued, h]
  exact .refl _

theorem insertTransaction (t : Tables) (row : Nat → Transaction) (hrow : ∀ n, (row n).id = n) :
    Continued t (t.insertTransaction row hrow) := .append t.transactions row hrow

theorem mapTransactions (t : Tables) {f : Transaction → Transaction} (hid : ∀ r, (f r).id = r.id)
    (hf : ∀ r, recorded (f r) = recorded r) : Continued t (t.mapTransactions f hid) :=
  .map t.transactions hid hf

theorem setRelated (t : Tables) (newRelated : Option Int) (related : Int) :
    Continued t (t.setRelated newRelated related) := by
  refine mapTransactions t _ fun r => ?_
  split <;> rfl

theorem moveTransactions (t : Tables) (newAccountNo accountNo : Int) :
    Continued t (t.moveTransactions newAccountNo accountNo) := by
  refine mapTransactions t _ fun r => ?_
  split <;> rfl

theorem book (t : Tables) (accountNo : Int) (relatedAccount : Option Int) (type : TransactionType)
    (amount newBalance : Double) (createdAt : Bytes) :
    Continued t (Bank.book t accountNo relatedAccount type amount newBalance createdAt) :=
  insertTransaction (t.setBalance accountNo newBalance) _ _

theorem close (t : Tables) (accountNo : Int) : Continued t (Bank.close t accountNo) :=
  (setRelated t none accountNo).trans (.filter _ _)

theorem renumber (t : Tables) (accountNo newAccountNo : Int) (row : Account) :
    Continued t (Bank.renumber t accountNo newAccountNo row) := by
  have hmoved := moveTransactions (t.insertAccount row) newAccountNo accountNo
  have hboth := hmoved.trans (setRelated _ (some newAccountNo) accountNo)
  exact hboth

theorem performs {a : Action} (ha : a.Performs fp t t') : Continued t t' := by
  cases ha with
  | move => exact book ..
  | transfer => exact (book ..).trans (book ..)
  | renumber => exact renumber ..
  | delete => exact close ..
  | create | lock | unlock | rename | changePassword => exact of_transactions rfl

theorem turn {env : Environment} {session session' : Session} {c : Command} {response : Response}
    (hturn : Turn fp env session t c response session' t') : Continued t t' := by
  refine hturn.tables (fun t' => Continued t t') ?_ ?_ (.refl t)
  · intro accountNo failedAttempts isLocked h
    exact h.trans (of_transactions rfl)
  · intro a _ hperforms h
    exact h.trans (performs hperforms)

theorem importTransactions (t : Tables) (lines : List LegacyTransaction) :
    Continued t (Bank.importTransactions t lines) := by
  induction lines generalizing t with
  | nil => exact .refl t
  | cons line rest ih => exact (insertTransaction t _ (legacyTransaction_id line)).trans (ih _)

theorem imports {blocked : Prop} {startup : Startup}
    (h : Imports fp blocked files startup t t') : Continued t t' := by
  obtain @⟨rows, lines, -, -, -, -, htransactions⟩ := h
  rw [Continued, htransactions]
  exact importTransactions (importAccounts t rows) lines

theorem moves {session : Session} {event : LifeEvent} (h : Moves fp files session t event t') :
    Continued t t' := by
  cases h with
  | idle => exact .refl t
  | started himports => exact imports himports
  | served hturn => exact turn hturn

end Continued

/-! ### Rows that go -/

/-- A row goes with its account, when the account is deleted, and then its
balance is 0. -/
theorem kept_or_deleted {fp : Rounding} {a : Action} {t t' : Tables} (ha : a.Performs fp t t')
    {r : Transaction} (hr : r ∈ t.transactions.rows) :
    (∃ r' ∈ t'.transactions.rows, r'.id = r.id) ∨
      a = .delete r.accountNo ∧ balanceOf t r.accountNo = some 0 := by
  cases ha with
  | move => exact .inl ⟨r, List.mem_append_left _ hr, rfl⟩
  | transfer => exact .inl ⟨r, List.mem_append_left _ (List.mem_append_left _ hr), rfl⟩
  | renumber =>
      left
      rw [renumber_rows]
      refine ⟨_, List.mem_map_of_mem hr, ?_⟩
      rw [redirect_rehome, renamed_id]
  | @delete _ accountNo row hpositive hrow hempty =>
      by_cases hno : r.accountNo = accountNo
      · right
        subst hno
        exact ⟨rfl, by rw [balanceOf, hrow, Option.map_some, hempty]⟩
      · left
        refine ⟨redirect none accountNo r, ?_, ?_⟩
        · rw [close_rows, List.mem_filter]
          exact ⟨List.mem_map_of_mem hr, by simpa using hno⟩
        · unfold redirect
          split <;> rfl
  | create | lock | unlock | rename | changePassword => exact .inl ⟨r, hr, rfl⟩

theorem kept_or_asked {fp : Rounding} {env : Environment} {session session' : Session}
    {c : Command} {response : Response} {t t' : Tables}
    (hturn : Turn fp env session t c response session' t') {r : Transaction}
    (hr : r ∈ t.transactions.rows) :
    (∃ r' ∈ t'.transactions.rows, r'.id = r.id) ∨ c = .deleteAccount (some r.accountNo) ∧
      session.isAdmin = true ∧ balanceOf t r.accountNo = some 0 := by
  cases hturn with
  | performed hintended hperforms =>
      rcases kept_or_deleted hperforms hr with hkept | ⟨rfl, hempty⟩
      · exact .inl hkept
      · cases asks_of_intended hintended with
        | delete hadmin => exact .inr ⟨rfl, hadmin, hempty⟩
  | refused | reported | loggedIn | counted | adminLoggedIn | loggedOut =>
      exact .inl ⟨r, hr, rfl⟩

/-- In this happening an admin deletes the account, which is empty. -/
structure Deletes (fp : Rounding) (p : Process) (happening : Happening) (accountNo : Int) :
    Prop where
  asked : ∃ message, happening.event = .client (.request message) ∧
    requested fp message = .deleteAccount (some accountNo)
  admin : p.server.session.isAdmin = true
  empty : balanceOf p.tables accountNo = some 0

theorem kept_or_deletes {fp : Rounding} {files : LegacyFiles} {p : Process}
    (hsaved : p.server.store.saved = none) (happening : Happening) {r : Transaction}
    (hr : r ∈ p.tables.transactions.rows) :
    (∃ r' ∈ (p.happen fp files happening).2.tables.transactions.rows, r'.id = r.id) ∨
      Deletes fp p happening r.accountNo := by
  obtain ⟨event, hbut, hmoves⟩ := moves_happen fp files hsaved happening
  generalize (p.happen fp files happening).2.tables = after at hmoves ⊢
  cases hmoves with
  | idle => exact .inl ⟨r, hr, rfl⟩
  | started himports =>
      obtain ⟨new, hrows, -⟩ := himports.exists_new
      exact .inl ⟨r, hrows ▸ List.mem_append_left new hr, rfl⟩
  | @served message _ _ _ hturn =>
      rcases kept_or_asked hturn hr with hkept | ⟨hasked, hadmin, hempty⟩
      · exact .inl hkept
      · refine .inr ⟨?_, hadmin, hempty⟩
        generalize happening.event = source at hbut
        cases hbut with
        | refl => exact ⟨message, rfl, hasked⟩
        | request original faults => exact ⟨original, rfl, hasked⟩

/-! ### The trail -/

/-- A row of the one state and a row of a later one with the same id record the
same, and a row that is new has an id behind all others. -/
structure Trail (t t' : Tables) : Prop where
  immutable : ∀ r ∈ t.transactions.rows, ∀ r' ∈ t'.transactions.rows, r'.id = r.id →
    recorded r' = recorded r
  numbered : ∀ r' ∈ t'.transactions.rows, (∃ r ∈ t.transactions.rows, r.id = r'.id) ∨
    ∀ r ∈ t.transactions.rows, r.id < r'.id

/-- In one of these happenings an admin deletes the account of the row, under
the number it has by then. -/
def GoesWithAccount (fp : Rounding) (files : LegacyFiles) (p : Process)
    (happenings : List Happening) (id : Nat) : Prop :=
  ∃ before happening after, happenings = before ++ happening :: after ∧
    ∃ r ∈ (survived fp files p before).tables.transactions.rows, r.id = id ∧
      Deletes fp (survived fp files p before) happening r.accountNo

section lives

variable {fp : Rounding} {files : LegacyFiles} {p : Process}

theorem survived_continued (fp : Rounding) (files : LegacyFiles)
    (hsaved : p.server.store.saved = none) (happenings : List Happening) :
    Continued p.tables (survived fp files p happenings).tables := by
  induction happenings generalizing p with
  | nil => exact .refl p.tables
  | cons happening rest ih =>
      obtain ⟨event, -, hmoves⟩ := moves_happen fp files hsaved happening
      exact (Continued.moves hmoves).trans (ih (survived_saved fp files hsaved [happening]))

/-- A row stays from happening to happening, until its account is deleted. -/
theorem kept_or_goes (hsaved : p.server.store.saved = none) (happenings : List Happening)
    {r : Transaction} (hr : r ∈ p.tables.transactions.rows) :
    (∃ r' ∈ (survived fp files p happenings).tables.transactions.rows, r'.id = r.id) ∨
      GoesWithAccount fp files p happenings r.id := by
  induction happenings generalizing p r with
  | nil => exact .inl ⟨r, hr, rfl⟩
  | cons happening rest ih =>
      have hnext := survived_saved fp files hsaved [happening]
      rcases kept_or_deletes hsaved happening hr with ⟨r', hr', hid⟩ | hdeletes
      · rw [← hid]
        rcases ih hnext hr' with hkept | ⟨before, deletion, after, rfl, hgoes⟩
        · exact .inl hkept
        · exact .inr ⟨happening :: before, deletion, after, rfl, hgoes⟩
      · exact .inr ⟨[], happening, rest, rfl, r, hr, rfl, hdeletes⟩

end lives

/-- An action that is answered OK has been performed. -/
theorem performed_of_ok {fp : Rounding} {env : Environment} {session session' : Session}
    {t t' : Tables} {c : Command} {a : Action} {text : Bytes}
    (hturn : Turn fp env session t c ⟨.ok, text⟩ session' t')
    (hintended : intended env session c = some a) :
    a.Performs fp t t' ∧ text = receipt t' a := by
  cases hturn with
  | reported hread => cases asks_of_intended hintended <;> cases hread
  | loggedIn | adminLoggedIn | loggedOut => cases hintended
  | performed hintended' hperforms =>
      obtain rfl := Option.some.inj (hintended'.symm.trans hintended)
      exact ⟨hperforms, rfl⟩

end AtmSystem.Bank
