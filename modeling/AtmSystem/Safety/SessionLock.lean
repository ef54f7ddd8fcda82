import AtmSystem.Safety.Authorization
import AtmSystem.Safety.Lockout

/-!
What the lock means for a session that is open already. The flag is read by
LOGIN only, and a failed login keeps the session it was sent in. So a customer
can lock the account they are logged in to and go on using it; but nobody else
can lock it under them, and three wrong PINs are what it takes.
-/

namespace AtmSystem.Bank

open Library Model

/-- The commands of a customer. -/
def ofCustomer : Command → Bool
  | .balance | .deposit _ | .withdraw _ | .transfer _ | .miniStatement | .monthlySummary _ => true
  | _ => false

/-- The account of the session exists and is not locked. -/
def OwnAccountUnlocked (x : Exchange) : Prop :=
  ∃ row, x.before.store.tables.accounts.lookup x.before.session.customerAccountNo = some row ∧
    row.isLocked = 0

/-- Whenever a customer command is answered OK, the account of the session is
not locked. -/
def UnlockedWhenUsed (fp : Rounding) (s : ServerState) (events : List Event) : Prop :=
  ∀ x ∈ history fp s events, ∀ c, ofCustomer c = true → AnsweredOk fp c x → OwnAccountUnlocked x

theorem UnlockedWhenUsed.at_end {fp : Rounding} {s : ServerState} {events : List Event}
    {message : Message} (h : UnlockedWhenUsed fp s (events ++ [.request message]))
    (hcommand : ofCustomer (requested fp message) = true)
    (hok : ((reached fp s events).serve fp message).1.status = .ok) :
    ∃ row, (reached fp s events).store.tables.accounts.lookup
      (reached fp s events).session.customerAccountNo = some row ∧ row.isLocked = 0 := by
  refine h (Machine.exchange (react fp) (reached fp s events) (.request message)) ?_ _ hcommand
    ⟨message, _, rfl, rfl, exchange_output _ _, hok⟩
  rw [history, Machine.history_append]
  exact List.mem_append_right _ (List.mem_singleton_self _)

/-- A customer who is logged in tries three wrong PINs on their own account. -/
def forgetfulCustomer : List Event :=
  [.connect, .request (plain "CREATE_ACCOUNT\n7\nAda\n1234"), .request (plain "LOGIN\n7\n1234"),
    .request (plain "LOGIN\n7\n1111"), .request (plain "LOGIN\n7\n2222"),
    .request (plain "LOGIN\n7\n3333")]

/-- The three wrong PINs leave the session as it is. -/
theorem forgetfulCustomer_served :
    ((reached .exact emptyServer forgetfulCustomer).serve .exact (plain "BALANCE")).1.status =
      .ok := by
  decide +kernel

/-- The session outlives the lock. -/
theorem locked_account_used :
    ¬ UnlockedWhenUsed .exact emptyServer (forgetfulCustomer ++ [.request (plain "BALANCE")]) := by
  intro hclaim
  obtain ⟨row, hrow, hunlocked⟩ := hclaim.at_end (by decide +kernel) forgetfulCustomer_served
  have hlocked : ((reached .exact emptyServer forgetfulCustomer).store.tables.accounts.lookup
      (reached .exact emptyServer forgetfulCustomer).session.customerAccountNo).map
        Account.isLocked = some 1 := by decide +kernel
  rw [hrow, Option.map_some, hunlocked] at hlocked
  exact zero_ne_one (Option.some.inj hlocked)

/-! ### What it takes -/

/-- How often this connection has tried a wrong PIN on the account it is logged
in to, after one more command. A login or a logout starts afresh. -/
def nextProbes (probes : Nat) (session : Session) (t : Tables) : Command → Status → Nat
  | .login (some (accountNo, pin)), .err =>
      if accountNo = session.customerAccountNo ∧ Mismatch t accountNo pin then probes + 1
      else probes
  | .login _, .ok | .adminLogin _, .ok | .logout, .ok => 0
  | _, _ => probes

/-- The count after an exchange. -/
def probesAfter (fp : Rounding) (probes : Nat) (x : Exchange) : Nat :=
  match x.input, x.output with
  | .request message, some response =>
      nextProbes probes x.before.session x.before.store.tables (requested fp message)
        response.status
  | _, _ => 0

theorem le_nextProbes_err (probes : Nat) (session : Session) (t : Tables) (c : Command) :
    probes ≤ nextProbes probes session t c .err := by
  unfold nextProbes
  split
  · split <;> omega
  all_goals first | contradiction | exact le_refl _

theorem nextProbes_of_intended {env : Environment} {session : Session} {c : Command} {a : Action}
    (probes : Nat) (t : Tables) (h : intended env session c = some a) :
    nextProbes probes session t c .ok = probes := by
  cases asks_of_intended h <;> rfl

/-- The account of a customer's session exists, and no more failed attempts
are counted on it than this connection has made. -/
def Accounted (probes : Nat) (session : Session) (t : Tables) : Prop :=
  session.isCustomer = true →
    ∃ row, t.accounts.lookup session.customerAccountNo = some row ∧ row.failedAttempts ≤ probes

namespace Accounted

variable {fp : Rounding} {probes : Nat} {session session' : Session} {t t' : Tables}

theorem reset (probes : Nat) (t : Tables) : Accounted probes Session.reset t := nofun

/-- A customer's actions leave the counters alone. -/
theorem performs {env : Environment} {c : Command} {a : Action}
    (hintended : intended env session c = some a) (hperforms : a.Performs fp t t')
    (h : Accounted probes session t) : Accounted probes session t' := by
  intro hcustomer
  have hneeds := needsAdmin_of_intended hintended (isAdmin_of_isCustomer hcustomer)
  obtain ⟨row, hrow, hattempts⟩ := h hcustomer
  rcases fate hperforms hrow with ⟨rfl, _⟩ | ⟨k', row', hrow', hbecomes⟩
  · cases hneeds
  · generalize session.customerAccountNo = k at hbecomes ⊢
    cases hbecomes with
    | kept | moved | sent | received => exact ⟨_, hrow', hattempts⟩
    | _ => cases hneeds

theorem turn {env : Environment} {c : Command} {response : Response}
    (hturn : Turn fp env session t c response session' t') (h : Accounted probes session t) :
    Accounted (nextProbes probes session t c response.status) session' t' := by
  cases hturn with
  | refused =>
      intro hcustomer
      obtain ⟨row, hrow, hattempts⟩ := h hcustomer
      have hmore := Int.ofNat_le.mpr (le_nextProbes_err probes session t c)
      exact ⟨row, hrow, hattempts.trans hmore⟩
  | reported hread =>
      have hsame : nextProbes probes session t c .ok = probes := by
        cases c <;> first | rfl | exact hread.elim
      exact hsame.symm ▸ h
  | @loggedIn accountNo pin row hchecked hmatch =>
      intro _
      exact ⟨_, Tables.lookup_setLoginState_self t accountNo hchecked.2.1 0 0, le_refl _⟩
  | @counted accountNo pin row message hchecked hmismatch =>
      intro hcustomer
      obtain ⟨own, hown, hattempts⟩ := h hcustomer
      by_cases hk : accountNo = session.customerAccountNo
      · subst hk
        obtain rfl : row = own := Option.some.inj (hchecked.2.1.symm.trans hown)
        have hmissed : Mismatch t session.customerAccountNo pin := ⟨hchecked.1, row, hown, hmismatch⟩
        refine ⟨_, Tables.lookup_setLoginState_self t _ hown _ _, ?_⟩
        simp only [nextProbes, hmissed, and_self, if_true]
        omega
      · have hmore := Int.ofNat_le.mpr
          (le_nextProbes_err probes session t (.login (some (accountNo, pin))))
        have hsame := Tables.lookup_setLoginState_other t accountNo _ (Ne.symm hk)
          (row.failedAttempts + 1) (if 3 ≤ row.failedAttempts + 1 then 1 else 0)
        exact ⟨own, hsame.trans hown, hattempts.trans hmore⟩
  | adminLoggedIn => intro hcustomer; cases hcustomer
  | loggedOut => exact reset _ _
  | performed hintended hperforms =>
      rw [nextProbes_of_intended probes t hintended]
      exact h.performs hintended hperforms

end Accounted

/-- A customer command is answered OK in a customer's session only. -/
theorem isCustomer_of_ok {fp : Rounding} {env : Environment} {session session' : Session}
    {t t' : Tables} {c : Command} {response : Response}
    (hturn : Turn fp env session t c response session' t') (hc : ofCustomer c = true)
    (hok : response.status = .ok) : session.isCustomer = true := by
  cases hturn with
  | refused => cases hok
  | reported hread => cases c <;> first | exact hread | exact hread.elim | cases hc
  | loggedIn | counted | adminLoggedIn | loggedOut => cases hc
  | performed hintended =>
      cases asks_of_intended hintended with
      | deposit hcustomer | withdraw hcustomer | transfer hcustomer => exact hcustomer
      | _ => cases hc

/-- Whenever a customer command is answered OK, the account of the session
exists, and it is not locked unless this connection has tried three wrong PINs
on it since it logged in. -/
theorem used_account_unlocked {fp : Rounding} {s : ServerState} (hfresh : Fresh s)
    (events : List Event) (message : Message)
    (hcommand : ofCustomer (requested fp message) = true)
    (hok : ((reached fp s events).serve fp message).1.status = .ok) :
    ∃ row, (reached fp s events).store.tables.accounts.lookup
        (reached fp s events).session.customerAccountNo = some row ∧
      (row.isLocked = 0 ∨ 3 ≤ (history fp s events).foldl (probesAfter fp) 0) := by
  have haccounted : Accounted ((history fp s events).foldl (probesAfter fp) 0)
      (reached fp s events).session (reached fp s events).store.tables := by
    refine monitored_run Accounted (probesAfter fp) ?_ ?_ (allowed_all events) hfresh.saved ?_
    · exact fun _ _ _ _ => Accounted.reset _ _
    · intro probes x message response hinput houtput _ hturn h
      simp only [probesAfter, hinput, houtput]
      exact h.turn hturn
    · exact hfresh.session.symm ▸ Accounted.reset _ _
  obtain ⟨_, hturn⟩ := serve_turn fp (reached fp s events) message (reached_saved hfresh.saved _)
  obtain ⟨row, hrow, hattempts⟩ := haccounted (isCustomer_of_ok hturn hcommand hok)
  refine ⟨row, hrow, ?_⟩
  have hvalid := validLocks_of_fresh hfresh events _ row hrow
  have hlocked := hvalid.locked
  rcases hvalid.flag with hunlocked | hflag
  · exact .inl hunlocked
  · exact .inr (by omega)

theorem used_account_unlocked_firstLogin :
    ∃ row, (reached .exact emptyServer forgetfulCustomer).store.tables.accounts.lookup
        (reached .exact emptyServer forgetfulCustomer).session.customerAccountNo = some row ∧
      (row.isLocked = 0 ∨
        3 ≤ (history .exact emptyServer forgetfulCustomer).foldl (probesAfter .exact) 0) :=
  used_account_unlocked emptyServer_fresh forgetfulCustomer (plain "BALANCE") (by decide +kernel)
    forgetfulCustomer_served

end AtmSystem.Bank
