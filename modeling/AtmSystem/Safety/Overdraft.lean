import AtmSystem.Bank.Rows
import AtmSystem.Safety.Ledger

/-!
No overdraft. The guards of the money operations let NaN through: it is
neither at most zero nor more than the balance. What stops it is the column
`balance`, which does not take it. So in every reachable state, with any
rounding and any requests, a stored balance is a number and not negative.
-/

namespace AtmSystem.Bank

open Library Model

/-! ### Arithmetic -/

section arithmetic

variable (fp : Rounding) {x y : Double}

/-- A double that a comparison finds at least zero is a number. -/
theorem ne_nan_of_nonneg (h : 0 ≤ x) : x ≠ .nan := by
  intro hnan
  rw [hnan] at h
  exact Double.not_le_nan 0 h

theorem round_nonneg {q : ℚ} (hq : 0 ≤ q) : 0 ≤ fp.round q := by
  have hmono := fp.round_mono 0 q hq
  rw [fp.round_zero] at hmono
  exact hmono

/-- A sum of two doubles of which neither is negative. -/
theorem add_nonneg_of_nonneg (hx : 0 ≤ x) (hy : 0 ≤ y) : 0 ≤ x.add fp y := by
  cases x with
  | nan | negInf => exact hx.elim
  | posInf =>
      cases y with
      | nan | negInf => exact hy.elim
      | fin b | posInf => trivial
  | fin a =>
      cases y with
      | nan | negInf => exact hy.elim
      | posInf => trivial
      | fin b =>
          have ha : 0 ≤ a := hx
          have hb : 0 ≤ b := hy
          exact round_nonneg fp (add_nonneg ha hb)

/-- Taking off no more than is there; only infinities give NaN. -/
theorem sub_nonneg_of_le (hx : 0 ≤ x) (hle : y ≤ x) (hnumber : x.sub fp y ≠ .nan) :
    0 ≤ x.sub fp y := by
  cases x with
  | nan | negInf => exact hx.elim
  | posInf =>
      cases y with
      | nan => exact hle.elim
      | posInf => exact absurd rfl hnumber
      | fin b | negInf => trivial
  | fin a =>
      cases y with
      | nan | posInf => exact hle.elim
      | negInf => trivial
      | fin b =>
          have hba : b ≤ a := hle
          exact round_nonneg fp (sub_nonneg.mpr hba)

end arithmetic

/-! ### Balances -/

/-- No balance is NaN or negative. -/
structure NoOverdraft (t : Tables) : Prop where
  nonneg : ∀ k row, t.accounts.lookup k = some row → 0 ≤ row.balance

namespace NoOverdraft

variable {fp : Rounding} {t : Tables}

theorem setLoginState (h : NoOverdraft t) (accountNo failedAttempts isLocked : Int) :
    NoOverdraft (t.setLoginState accountNo failedAttempts isLocked) := by
  constructor
  apply EachAccount.setLoginState h.nonneg
  exact fun _ _ => id

/-- No action takes a balance below zero. -/
theorem becomes {a : Action} {k k' : Int} {row row' : Account}
    (hbecomes : Becomes fp a k row k' row') (h : 0 ≤ row.balance) : 0 ≤ row'.balance := by
  cases hbecomes with
  | @moved kind k amount createdAt row hamount hfunds hnumber =>
      change 0 ≤ kind.newBalance fp row.balance amount
      revert hnumber
      apply Movement.newBalance_cases (fun balance => balance ≠ .nan → 0 ≤ balance) hfunds
      · intro _ _
        exact add_nonneg_of_nonneg fp h (Double.ieee_le_of_lt hamount)
      · intro hle hnumber
        exact sub_nonneg_of_le fp h hle hnumber
  | sent hdistinct hamount hfunds hnumber => exact sub_nonneg_of_le fp h hfunds hnumber
  | received hdistinct hamount => exact add_nonneg_of_nonneg fp h (Double.ieee_le_of_lt hamount)
  | _ => exact h

theorem performs {a : Action} {t' : Tables} (ha : a.Performs fp t t') (h : NoOverdraft t) :
    NoOverdraft t' := by
  constructor
  refine EachAccount.performs ha ?_ (fun _ => becomes) h.nonneg
  rintro _ _ ⟨⟩
  exact Double.le_refl_of_not_nan Double.zero_ne_nan

/-- Requests overdraw no account, in any run. -/
theorem reached {s : ServerState} (hopened : Opened s) (events : List Event) :
    NoOverdraft (reached fp s events).store.tables := by
  have hstart : NoOverdraft s.store.tables := ⟨fun _ _ hrow => (hopened.no_account hrow).elim⟩
  refine tables_invariant NoOverdraft ?_ ?_ (allowed_all events) hopened.saved hstart
  · intro t accountNo failedAttempts isLocked h
    exact h.setLoginState ..
  · intro message session t a t' _ _ hperforms h
    exact h.performs hperforms

end NoOverdraft

/-- An action with an amount is performed for a positive amount only. -/
theorem amount_pos {fp : Rounding} {a : Action} {t t' : Tables} (ha : a.Performs fp t t')
    {x : Double} (hx : a.amount = some x) : 0 < x := by
  cases ha with
  | move hrow hamount =>
      obtain rfl := Option.some.inj hx
      exact hamount
  | transfer hpositive hdistinct hsource htarget hamount =>
      obtain rfl := Option.some.inj hx
      exact hamount
  | _ => cases hx

/-- A command with an amount that is NaN, zero or negative is refused. -/
theorem Turn.refused_of_amount {fp : Rounding} {env : Environment} {session session' : Session}
    {t t' : Tables} {c : Command} {response : Response}
    (hturn : Turn fp env session t c response session' t') {x : Double}
    (hc : commandAmount c = some x) (hx : ¬ 0 < x) : response.status = .err ∧ t' = t := by
  cases hturn with
  | refused => exact ⟨rfl, rfl⟩
  | reported hread => cases c <;> first | exact hread.elim | cases hc
  | loggedIn => cases hc
  | counted => cases hc
  | adminLoggedIn => cases hc
  | loggedOut => cases hc
  | performed hintended hperforms =>
      rw [intended_amount hintended] at hc
      exact absurd (amount_pos hperforms hc) hx

/-- With any rounding, any requests and any failures: every stored balance is
a number and not negative, and a request for an amount that is NaN, negative
or zero is answered ERR and leaves accounts and transactions alone. -/
theorem no_overdraft (fp : Rounding) {s : ServerState} (hopened : Opened s)
    (events : List Event) :
    (∀ row ∈ (reached fp s events).store.tables.accounts.rows,
      row.balance ≠ .nan ∧ 0 ≤ row.balance) ∧
    ∀ x ∈ history fp s events, ∀ message amount, x.input = .request message →
      commandAmount (requested fp message) = some amount → amount = .nan ∨ amount ≤ 0 →
      (∃ text, x.output = some ⟨.err, text⟩) ∧
        x.after.store.tables.accounts = x.before.store.tables.accounts ∧
        x.after.store.tables.transactions = x.before.store.tables.transactions := by
  constructor
  · intro row hrow
    have hnonneg := (NoOverdraft.reached hopened events).nonneg row.accountNo row
      (KeyedTable.lookup_of_mem hrow)
    exact ⟨ne_nan_of_nonneg hnonneg, hnonneg⟩
  · intro x hx message amount hinput hamount hbad
    have hnotPositive : ¬ 0 < amount := by
      rcases hbad with rfl | hle
      · exact Double.not_lt_nan 0
      · exact Double.not_lt_of_le hle
    obtain ⟨response, houtput, hturn⟩ := (exchanged hopened.saved hx).2.turn hinput
    obtain ⟨hstatus, htables⟩ := hturn.refused_of_amount hamount hnotPositive
    refine ⟨⟨response.payload, ?_⟩, congrArg _ htables, congrArg _ htables⟩
    rw [houtput, ← hstatus]

/-- A customer tries to deposit what `strtod` reads as NaN. -/
def nanCustomer : List Event :=
  [.connect, .request (plain "CREATE_ACCOUNT\n7\nAda\n1234"), .request (plain "LOGIN\n7\n1234"),
    .request (plain "DEPOSIT\nnan")]

theorem no_overdraft_nanCustomer :
    (∀ row ∈ (reached .exact emptyServer nanCustomer).store.tables.accounts.rows,
      row.balance ≠ .nan ∧ 0 ≤ row.balance) ∧
    ∀ x ∈ history .exact emptyServer nanCustomer, x.input = .request (plain "DEPOSIT\nnan") →
      ∃ text, x.output = some ⟨.err, text⟩ := by
  obtain ⟨hbalances, hrefused⟩ := no_overdraft .exact emptyServer_opened nanCustomer
  refine ⟨hbalances, ?_⟩
  intro x hx hinput
  exact (hrefused x hx _ .nan hinput (by decide +kernel) (.inl rfl)).1

end AtmSystem.Bank
