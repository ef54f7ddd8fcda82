import AtmSystem.Bank.Rows
import AtmSystem.Bank.Run

/-!
Finite amounts. `parse_double` takes what `strtod` makes of a text, infinity
included, and no guard of a credit looks at the size of an amount; so a deposit
can make a balance infinite. Short of that, and of a sum beyond the largest
double, every balance and every amount that is stored is finite: what is taken
off a balance is no more than the balance.
-/

namespace AtmSystem.Bank

open Library Model

/-- Every balance and every amount of the tables is finite. -/
def AllFinite (t : Tables) : Prop :=
  (∀ row ∈ t.accounts.rows, row.balance.isFinite) ∧
    ∀ r ∈ t.transactions.rows, r.amount.isFinite ∧ ∀ x, r.balanceAfter = some x → x.isFinite

/-- A customer deposits what `strtod` reads as infinity. -/
def infCustomer : List Event :=
  [.connect, .request (plain "CREATE_ACCOUNT\n7\nAda\n1234"), .request (plain "LOGIN\n7\n1234"),
    .request (plain "DEPOSIT\ninf")]

theorem infinite_balance_stored : ¬ AllFinite (reached .exact emptyServer infCustomer).store.tables := by
  rintro ⟨hbalances, -⟩
  have hstored : (reached .exact emptyServer infCustomer).store.tables.accounts.rows.map
      Account.balance = [.posInf] := by decide +kernel
  obtain ⟨row, hrow, hbalance⟩ := List.mem_map.mp (hstored ▸ List.mem_singleton_self Double.posInf)
  have hfinite := hbalances row hrow
  rw [hbalance] at hfinite
  cases hfinite

/-! ### What it takes -/

/-- The exact sum of two finite doubles does not lie beyond all numbers that
round to a finite one. -/
def SumFits (fp : Rounding) : Double → Double → Prop
  | .fin a, .fin b => ∃ m, a + b ≤ m ∧ (fp.round m).isFinite
  | _, _ => False

/-- The balance an action would credit, and the amount. -/
def credited (t : Tables) : Action → Option (Double × Double)
  | .move kind accountNo amount _ =>
      if kind.isCredit ∧ 0 < amount then (balanceOf t accountNo).map (·, amount) else none
  | .transfer sender receiver amount _ =>
      if receiver ≠ sender ∧ 0 < amount ∧ (balanceOf t sender).any (amount ≤ ·) then
        (balanceOf t receiver).map (·, amount)
      else none
  | _ => none

/-- The credit an exchange asks for. -/
def creditOf (fp : Rounding) (x : Exchange) : Option (Double × Double) :=
  match x.input with
  | .connect => none
  | .request message =>
      (intended message.env x.before.session (requested fp message)).bind
        (credited x.before.store.tables)

/-- If the exchange asks for a credit, the amount is finite and the sum fits. -/
def CreditFits (fp : Rounding) (x : Exchange) : Prop :=
  ∀ balance amount, creditOf fp x = some (balance, amount) → SumFits fp balance amount

/-- A balance as it is held: a finite double that is not negative. -/
def Held (fp : Rounding) (x : Double) : Prop := ∃ q, x = .fin q ∧ 0 ≤ q ∧ fp.round q = .fin q

namespace Held

variable {fp : Rounding} {balance amount : Double}

theorem zero (fp : Rounding) : Held fp 0 := ⟨0, rfl, le_refl 0, fp.round_zero⟩

theorem isFinite (h : Held fp balance) : balance.isFinite := by
  obtain ⟨q, rfl, -, -⟩ := h
  rfl

/-- What lies between zero and a finite double is rounded to one. -/
theorem round (hstable : fp.Stable) {q m : ℚ} (hq : 0 ≤ q) (hm : q ≤ m)
    (hfinite : (fp.round m).isFinite) : Held fp (fp.round q) := by
  have hlow := fp.round_mono 0 q hq
  have hhigh := fp.round_mono q m hm
  rw [fp.round_zero] at hlow
  cases hround : fp.round q with
  | nan => exact absurd hround (fp.round_ne_nan q)
  | negInf =>
      rw [hround] at hlow
      exact hlow.elim
  | fin x =>
      rw [hround] at hlow
      exact ⟨x, rfl, hlow, hstable q x hround⟩
  | posInf =>
      rw [hround] at hhigh
      cases hlarge : fp.round m with
      | fin =>
          rw [hlarge] at hhigh
          exact hhigh.elim
      | nan | negInf | posInf =>
          rw [hlarge] at hfinite
          cases hfinite

theorem add (hstable : fp.Stable) (h : Held fp balance) (hamount : 0 < amount)
    (hfits : SumFits fp balance amount) : Held fp (balance.add fp amount) ∧ amount.isFinite := by
  obtain ⟨q, rfl, hq, -⟩ := h
  cases amount with
  | fin x =>
      obtain ⟨m, hm, hfinite⟩ := hfits
      have hx : 0 < x := hamount
      exact ⟨round hstable (by linarith) hm hfinite, rfl⟩
  | nan | negInf | posInf => exact hfits.elim

theorem sub (hstable : fp.Stable) (h : Held fp balance) (hamount : 0 < amount)
    (hle : amount ≤ balance) : Held fp (balance.sub fp amount) ∧ amount.isFinite := by
  obtain ⟨q, rfl, hq, hround⟩ := h
  cases amount with
  | fin x =>
      have hx : 0 < x := hamount
      have hxq : x ≤ q := hle
      exact ⟨round hstable (by linarith) (by linarith : q - x ≤ q) (by rw [hround]; rfl), rfl⟩
  | nan | negInf => exact hamount.elim
  | posInf => exact hle.elim

end Held

/-- Nothing is stored right after `db_open`. -/
theorem Opened.sums {goodBalance goodAmount : Double → Prop} {s : ServerState} (h : Opened s) :
    Sums goodBalance goodAmount s.store.tables := by
  refine ⟨fun k row hrow => (h.no_account hrow).elim, ?_, ?_⟩
  · rw [h.transactions]
    exact List.forall_mem_nil _
  · rw [h.transactions]
    exact List.forall_mem_nil _

/-- Held balances and finite amounts. -/
abbrev FiniteSums (fp : Rounding) : Tables → Prop := Sums (Held fp) (fun x => x.isFinite)

theorem finiteSums_performs {fp : Rounding} (hstable : fp.Stable) {a : Action} {t t' : Tables}
    (ha : a.Performs fp t t')
    (hfits : ∀ balance amount, credited t a = some (balance, amount) → SumFits fp balance amount)
    (h : FiniteSums fp t) : FiniteSums fp t' := by
  apply h.performs ha (.zero fp)
  rintro r hr
  suffices hboth : ∀ x, r.balanceAfter = some x → Held fp x ∧ r.amount.isFinite by
    cases hr <;> exact ⟨(hboth _ rfl).2, fun x hx => (hboth x hx).1⟩
  cases hr with
  | @moved kind k amount createdAt row _ hrow hamount hfunds =>
      have hheld := h.balance k row hrow
      rintro x hx
      obtain rfl := Option.some.inj hx
      apply Movement.newBalance_cases (fun balance => Held fp balance ∧ amount.isFinite) hfunds
      · intro hcredit
        apply hheld.add hstable hamount
        apply hfits
        simp [credited, balanceOf, hcredit, hamount, hrow]
      · intro hle
        exact hheld.sub hstable hamount hle
  | sent hsource hamount hfunds =>
      rintro x hx
      obtain rfl := Option.some.inj hx
      exact (h.balance _ _ hsource).sub hstable hamount hfunds
  | received hdistinct hsource htarget hamount hfunds =>
      rintro x hx
      obtain rfl := Option.some.inj hx
      apply (h.balance _ _ htarget).add hstable hamount
      apply hfits
      simp [credited, balanceOf, hdistinct, hamount, hfunds, hsource, htarget]

/-- With any rounding to doubles: if every credit that is asked for on the way
is finite and so is the sum it leads to, every balance and every amount of the
tables that are reached is finite. -/
theorem amounts_finite {fp : Rounding} (hstable : fp.Stable) {s : ServerState}
    (hopened : Opened s) {events : List Event}
    (hfits : ∀ x ∈ history fp s events, CreditFits fp x) :
    AllFinite (reached fp s events).store.tables := by
  have hreached : FiniteSums fp (reached fp s events).store.tables := by
    refine run_along (fun _ => FiniteSums fp) (CreditFits fp) (fun _ _ h => h) ?_ hfits
      hopened.saved ?_
    · intro x message response hinput _ hcredit hturn h
      refine hturn.tables (FiniteSums fp) (fun _ _ _ h => h.setLoginState ..) ?_ h
      intro a hintended hperforms h
      apply finiteSums_performs hstable hperforms _ h
      intro balance amount hcredited
      apply hcredit balance amount
      simp only [creditOf, hinput, hintended, Option.bind_some, hcredited]
    · exact hopened.sums
  constructor
  · intro row hrow
    exact (hreached.balance row.accountNo row (KeyedTable.lookup_of_mem hrow)).isFinite
  · intro r hr
    exact ⟨hreached.amount r hr, fun x hx => (hreached.shown r hr x hx).isFinite⟩

/-- A customer deposits money and takes some of it out. -/
def thriftyCustomer : List Event :=
  [.connect, .request (plain "CREATE_ACCOUNT\n7\nAda\n1234"), .request (plain "LOGIN\n7\n1234"),
    .request (plain "DEPOSIT\n12.50"), .request (plain "WITHDRAW\n2.50")]

theorem amounts_finite_thriftyCustomer :
    AllFinite (reached .exact emptyServer thriftyCustomer).store.tables := by
  apply amounts_finite Rounding.exact_stable emptyServer_opened
  have hcredits : (history .exact emptyServer thriftyCustomer).filterMap (creditOf .exact) =
      [(0, .fin (25 / 2))] := by decide +kernel
  intro x hx balance amount hcredit
  have hmem := List.mem_filterMap.mpr ⟨x, hx, hcredit⟩
  rw [hcredits, List.mem_singleton] at hmem
  cases hmem
  exact ⟨25 / 2, by norm_num, rfl⟩

end AtmSystem.Bank
