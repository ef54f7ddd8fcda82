import AtmSystem.Bank.Rows
import AtmSystem.Bank.Run

/-!
Authorization. What a connection may do to other people's accounts depends on
the logins it has been granted, and on nothing that stands in its requests. As
long as no admin has logged in, what is in the tables stays there; and a
balance falls only after a login to its account, or an admin login.
-/

namespace AtmSystem.Bank

open Library Model

/-! ### Logins -/

/-- ADMIN_LOGIN, answered OK. -/
def AdminLogsIn (fp : Rounding) (x : Exchange) : Prop :=
  ∃ args, AnsweredOk fp (.adminLogin args) x

/-- LOGIN to the account `k` with a PIN that matches its stored hash, answered
OK. -/
def LogsIn (fp : Rounding) (k : Int) (x : Exchange) : Prop :=
  ∃ pin row, AnsweredOk fp (.login (some (k, pin))) x ∧
    x.before.store.tables.accounts.lookup k = some row ∧ PinMatches row pin

/-- A session in which no admin and not the customer of account `k` is logged
in. -/
structure Stranger (k : Int) (session : Session) : Prop where
  noAdmin : session.isAdmin = false
  otherCustomer : session.isCustomer = true → session.customerAccountNo ≠ k

theorem Stranger.reset (k : Int) : Stranger k Session.reset where
  noAdmin := rfl
  otherCustomer hcustomer := by cases hcustomer

section sessions

variable {fp : Rounding} {x : Exchange} {message : Message} {response : Response}

/-- A session turns into an admin session by ADMIN_LOGIN only. -/
theorem noAdmin_turn (hinput : x.input = .request message) (houtput : x.output = some response)
    (hturn : Turn fp message.env x.before.session x.before.store.tables (requested fp message)
      response x.after.session x.after.store.tables)
    (hno : ¬ AdminLogsIn fp x) (h : x.before.session.isAdmin = false) :
    x.after.session.isAdmin = false := by
  have hchange := hturn.sessionChange
  generalize x.after.session = session' at hchange
  cases hchange with
  | same => exact h
  | reset => rfl
  | customer => rfl
  | admin hc hmatch hstatus =>
      exact absurd ⟨_, message, response, hinput, hc, houtput, hstatus⟩ hno

/-- A stranger stays one without a login. -/
theorem Stranger.turn {k : Int} (hinput : x.input = .request message)
    (houtput : x.output = some response)
    (hturn : Turn fp message.env x.before.session x.before.store.tables (requested fp message)
      response x.after.session x.after.store.tables)
    (hno : ¬ (LogsIn fp k x ∨ AdminLogsIn fp x)) (h : Stranger k x.before.session) :
    Stranger k x.after.session := by
  obtain ⟨hnoLogin, hnoAdmin⟩ := not_or.mp hno
  refine ⟨noAdmin_turn hinput houtput hturn hnoAdmin h.noAdmin, ?_⟩
  have hchange := hturn.sessionChange
  generalize x.after.session = session' at hchange
  cases hchange with
  | same => exact h.otherCustomer
  | reset => exact (Stranger.reset k).otherCustomer
  | @customer accountNo pin row hc hchecked hmatch hstatus =>
      intro _ hk
      obtain rfl : accountNo = k := hk
      exact hnoLogin ⟨pin, row, ⟨message, response, hinput, hc, houtput, hstatus⟩, hchecked.2.1,
        hmatch⟩
  | admin hc hmatch hstatus =>
      exact absurd ⟨_, message, response, hinput, hc, houtput, hstatus⟩ hnoAdmin

end sessions

/-! ### Without an admin -/

/-- The actions that are performed in an admin session only. -/
def Action.needsAdmin : Action → Bool
  | .create .. | .move .deposit .. | .move .withdraw .. | .transfer .. => false
  | _ => true

theorem needsAdmin_of_intended {env : Environment} {session : Session} {c : Command} {a : Action}
    (h : intended env session c = some a) (hadmin : session.isAdmin = false) :
    a.needsAdmin = false := by
  cases asks_of_intended h with
  | create | deposit | withdraw | transfer => rfl
  | _ hadmin' =>
      rw [hadmin] at hadmin'
      cases hadmin'

theorem isAdmin_of_isCustomer {session : Session} (h : session.isCustomer = true) :
    session.isAdmin = false := by
  simp only [Session.isCustomer, decide_eq_true_eq] at h
  simpa using h.2

/-- What outsiders leave alone in an account row. -/
structure SameHolder (row row' : Account) : Prop where
  name : row'.name = row.name
  pinHash : row'.pinHash = row.pinHash
  salt : row'.salt = row.salt
  createdAt : row'.createdAt = row.createdAt
  locked : row.isLocked = 1 → row'.isLocked = 1

theorem SameHolder.refl (row : Account) : SameHolder row row := ⟨rfl, rfl, rfl, rfl, id⟩

theorem SameHolder.trans {row row' row'' : Account} (first : SameHolder row row')
    (second : SameHolder row' row'') : SameHolder row row'' where
  name := second.name.trans first.name
  pinHash := second.pinHash.trans first.pinHash
  salt := second.salt.trans first.salt
  createdAt := second.createdAt.trans first.createdAt
  locked := second.locked ∘ first.locked

/-- Everything that is there stays: accounts under their numbers, admins, and
transactions, to which new ones may be added. -/
structure Preserved (t t' : Tables) : Prop where
  accounts : ∀ k row, t.accounts.lookup k = some row →
    ∃ row', t'.accounts.lookup k = some row' ∧ SameHolder row row'
  transactions : t.transactions.rows <+: t'.transactions.rows
  admins : t'.admins = t.admins

namespace Preserved

variable {fp : Rounding} {t t' t'' : Tables}

theorem refl (t : Tables) : Preserved t t where
  accounts _ row hrow := ⟨row, hrow, .refl row⟩
  transactions := List.prefix_refl _
  admins := rfl

theorem trans (first : Preserved t t') (second : Preserved t' t'') : Preserved t t'' where
  accounts k row hrow := by
    obtain ⟨row', hrow', hsame⟩ := first.accounts k row hrow
    obtain ⟨row'', hrow'', hsame'⟩ := second.accounts k row' hrow'
    exact ⟨row'', hrow'', hsame.trans hsame'⟩
  transactions := first.transactions.trans second.transactions
  admins := second.admins.trans first.admins

theorem setLoginState {accountNo : Int} {row : Account}
    (hrow : t.accounts.lookup accountNo = some row) (hunlocked : row.isLocked = 0)
    (failedAttempts isLocked : Int) :
    Preserved t (t.setLoginState accountNo failedAttempts isLocked) where
  accounts k old hold := by
    obtain ⟨new, hnew, ⟨_, rfl⟩ | ⟨rfl, rfl⟩⟩ :=
      Tables.setLoginState_fate t accountNo k hold failedAttempts isLocked
    · exact ⟨new, hnew, .refl new⟩
    · obtain rfl : row = old := Option.some.inj (hrow.symm.trans hold)
      exact ⟨_, hnew, rfl, rfl, rfl, rfl, by omega⟩
  transactions := List.prefix_refl _
  admins := rfl

/-- A customer's action changes no more of a row than the balance. -/
theorem sameHolder {a : Action} {k k' : Int} {row row' : Account}
    (hbecomes : Becomes fp a k row k' row') (ha : a.needsAdmin = false) :
    k' = k ∧ SameHolder row row' := by
  cases hbecomes with
  | kept => exact ⟨rfl, .refl row⟩
  | moved => exact ⟨rfl, rfl, rfl, rfl, rfl, id⟩
  | sent => exact ⟨rfl, rfl, rfl, rfl, rfl, id⟩
  | received => exact ⟨rfl, rfl, rfl, rfl, rfl, id⟩
  | locked | unlocked | renamed | renumbered => cases ha

theorem performs {a : Action} (hperforms : a.Performs fp t t') (ha : a.needsAdmin = false) :
    Preserved t t' := by
  refine ⟨?_, ?_, ?_⟩
  · intro k row hrow
    rcases fate hperforms hrow with ⟨rfl, _⟩ | ⟨k', row', hrow', hbecomes⟩
    · cases ha
    · obtain ⟨rfl, hsame⟩ := sameHolder hbecomes ha
      exact ⟨row', hrow', hsame⟩
  · cases hperforms with
    | create => exact List.prefix_refl _
    | move => exact List.prefix_append ..
    | transfer => exact (List.prefix_append ..).trans (List.prefix_append ..)
    | _ => cases ha
  · cases hperforms with
    | create | move | transfer => rfl
    | _ => cases ha

/-- One turn in a session without an admin. -/
theorem turn {env : Environment} {session session' : Session} {c : Command} {response : Response}
    (hturn : Turn fp env session t c response session' t') (hadmin : session.isAdmin = false) :
    Preserved t t' := by
  cases hturn with
  | refused => exact refl t
  | reported => exact refl t
  | loggedIn hchecked => exact setLoginState hchecked.2.1 hchecked.2.2 _ _
  | counted hchecked => exact setLoginState hchecked.2.1 hchecked.2.2 _ _
  | adminLoggedIn => exact refl t
  | loggedOut => exact refl t
  | performed hintended hperforms =>
      exact performs hperforms (needsAdmin_of_intended hintended hadmin)

end Preserved

/-! ### Balances -/

section arithmetic

variable (fp : Rounding) {x y : Double}

/-- Paying in never lowers a balance that was not rounded away before. -/
theorem le_add_of_pos (hx : x.Represented fp) (hy : 0 < y) (hnumber : x.add fp y ≠ .nan) :
    x ≤ x.add fp y := by
  cases x with
  | nan => exact absurd rfl hnumber
  | negInf =>
      cases y with
      | nan | negInf => exact hy.elim
      | posInf => exact absurd rfl hnumber
      | fin b => trivial
  | posInf =>
      cases y with
      | nan | negInf => exact hy.elim
      | posInf | fin b => trivial
  | fin a =>
      cases y with
      | nan | negInf => exact hy.elim
      | posInf => trivial
      | fin b =>
          have hb : 0 < b := hy
          have hmono := fp.round_mono a (a + b) (le_add_of_nonneg_right hb.le)
          rw [show fp.round a = .fin a from hx] at hmono
          exact hmono

/-- Results of arithmetic are represented when rounding twice is rounding
once. -/
theorem represented_add (hround : ∀ q, (fp.round q).Represented fp) (x y : Double) :
    (x.add fp y).Represented fp := by
  cases x <;> cases y <;> first | trivial | exact hround _

theorem represented_sub (hround : ∀ q, (fp.round q).Represented fp) (x y : Double) :
    (x.sub fp y).Represented fp := by
  cases x <;> cases y <;> first | trivial | exact hround _

end arithmetic

/-- The account an action takes money from. -/
def Action.debits : Action → Option Int
  | .move kind accountNo _ _ => if kind.isCredit then none else some accountNo
  | .transfer sender .. => some sender
  | _ => none

/-- A stranger's actions take nothing from the account. -/
theorem debits_of_intended {env : Environment} {session : Session} {c : Command} {a : Action}
    {k : Int} (h : intended env session c = some a) (hstranger : Stranger k session) :
    a.debits ≠ some k := by
  intro hdebits
  cases asks_of_intended h with
  | withdraw hcustomer | transfer hcustomer =>
      exact hstranger.otherCustomer hcustomer (Option.some.inj hdebits)
  | adminDebit hadmin =>
      rw [hstranger.noAdmin] at hadmin
      cases hadmin
  | _ => cases hdebits

/-- The balances are values a double can hold. -/
def AllRepresented (fp : Rounding) (t : Tables) : Prop :=
  ∀ k row, t.accounts.lookup k = some row → row.balance.Represented fp

section balances

variable {fp : Rounding} {a : Action} {k k' : Int} {row row' : Account}

theorem represented_becomes (hround : ∀ q, (fp.round q).Represented fp)
    (hbecomes : Becomes fp a k row k' row') (h : row.balance.Represented fp) :
    row'.balance.Represented fp := by
  cases hbecomes with
  | @moved kind k amount createdAt row hamount hfunds hnumber =>
      change (kind.newBalance fp row.balance amount).Represented fp
      unfold Movement.newBalance
      split
      · exact represented_add fp hround _ _
      · exact represented_sub fp hround _ _
  | sent => exact represented_sub fp hround _ _
  | received => exact represented_add fp hround _ _
  | _ => exact h

/-- An account that an action takes nothing from keeps its balance or gains. -/
theorem balance_becomes (hbecomes : Becomes fp a k row k' row') (ha : a.debits ≠ some k)
    (h : row.balance.Represented fp) : row'.balance = row.balance ∨ row.balance ≤ row'.balance := by
  cases hbecomes with
  | @moved kind k amount createdAt row hamount hfunds hnumber =>
      have hcredit : kind.isCredit = true := by simpa [Action.debits] using ha
      simp only [Movement.newBalance, hcredit, if_true] at hnumber ⊢
      exact .inr (le_add_of_pos fp h hamount hnumber)
  | sent => exact absurd rfl ha
  | received hdistinct hamount hnumber => exact .inr (le_add_of_pos fp h hamount hnumber)
  | _ => exact .inl rfl

end balances

namespace AllRepresented

variable {fp : Rounding} {t t' : Tables}

theorem setLoginState (h : AllRepresented fp t) (accountNo failedAttempts isLocked : Int) :
    AllRepresented fp (t.setLoginState accountNo failedAttempts isLocked) := by
  apply EachAccount.setLoginState h
  exact fun _ _ => id

theorem performs {a : Action} (ha : a.Performs fp t t')
    (hround : ∀ q, (fp.round q).Represented fp) (h : AllRepresented fp t) :
    AllRepresented fp t' := by
  refine EachAccount.performs ha ?_ (fun _ => represented_becomes hround) h
  rintro _ _ ⟨⟩
  exact fp.round_zero

end AllRepresented

/-- The account exists and holds no less than this. -/
def HoldsAtLeast (t : Tables) (k : Int) (floor : Double) : Prop :=
  ∃ row, t.accounts.lookup k = some row ∧ ¬ row.balance < floor

namespace HoldsAtLeast

variable {fp : Rounding} {t t' : Tables} {k : Int} {floor : Double}

theorem setLoginState (h : HoldsAtLeast t k floor) (accountNo failedAttempts isLocked : Int) :
    HoldsAtLeast (t.setLoginState accountNo failedAttempts isLocked) k floor := by
  obtain ⟨row, hrow, hfloor⟩ := h
  obtain ⟨new, hnew, ⟨_, rfl⟩ | ⟨_, rfl⟩⟩ :=
    Tables.setLoginState_fate t accountNo k hrow failedAttempts isLocked
  · exact ⟨new, hnew, hfloor⟩
  · exact ⟨_, hnew, hfloor⟩

theorem performs {a : Action} (hperforms : a.Performs fp t t') (hadmin : a.needsAdmin = false)
    (hdebits : a.debits ≠ some k) (hrepresented : AllRepresented fp t)
    (h : HoldsAtLeast t k floor) : HoldsAtLeast t' k floor := by
  obtain ⟨row, hrow, hfloor⟩ := h
  rcases fate hperforms hrow with ⟨rfl, _⟩ | ⟨k', row', hrow', hbecomes⟩
  · cases hadmin
  · obtain ⟨rfl, _⟩ := Preserved.sameHolder hbecomes hadmin
    refine ⟨row', hrow', ?_⟩
    rcases balance_becomes hbecomes hdebits (hrepresented k' row hrow) with heq | hle
    · rwa [heq]
    · exact fun hlt => hfloor (Double.ieee_lt_of_le_of_lt hle hlt)

/-- One turn in the session of a stranger. -/
theorem turn {env : Environment} {session session' : Session} {c : Command} {response : Response}
    (hturn : Turn fp env session t c response session' t') (hstranger : Stranger k session)
    (hrepresented : AllRepresented fp t) (h : HoldsAtLeast t k floor) :
    HoldsAtLeast t' k floor := by
  refine hturn.tables (HoldsAtLeast · k floor) ?_ ?_ h
  · intro accountNo failedAttempts isLocked h
    exact h.setLoginState ..
  · intro a hintended hperforms h
    exact h.performs hperforms (needsAdmin_of_intended hintended hstranger.noAdmin)
      (debits_of_intended hintended hstranger) hrepresented

end HoldsAtLeast

/-! ### Runs -/

section runs

variable {fp : Rounding} {s : ServerState} {events : List Event}

/-- A run without an admin login keeps what was there. -/
theorem preserved_run (hsaved : s.store.saved = none)
    (hno : ∀ x ∈ history fp s events, ¬ AdminLogsIn fp x) (hadmin : s.session.isAdmin = false) :
    (reached fp s events).session.isAdmin = false ∧
      Preserved s.store.tables (reached fp s events).store.tables := by
  refine run_along (fun session t => session.isAdmin = false ∧ Preserved s.store.tables t)
    (fun x => ¬ AdminLogsIn fp x) ?_ ?_ hno hsaved ⟨hadmin, .refl _⟩
  · rintro session t ⟨_, hpreserved⟩
    exact ⟨rfl, hpreserved⟩
  · rintro x message response hinput houtput hgood hturn ⟨hadmin, hpreserved⟩
    exact ⟨noAdmin_turn hinput houtput hturn hgood hadmin,
      hpreserved.trans (Preserved.turn hturn hadmin)⟩

/-- A run without a login to the account takes nothing from it. -/
theorem stranger_run {k : Int} (hround : ∀ q, (fp.round q).Represented fp)
    (hsaved : s.store.saved = none)
    (hno : ∀ x ∈ history fp s events, ¬ (LogsIn fp k x ∨ AdminLogsIn fp x))
    (hstranger : Stranger k s.session) (hrepresented : AllRepresented fp s.store.tables) :
    Stranger k (reached fp s events).session ∧
      AllRepresented fp (reached fp s events).store.tables ∧
      ∀ floor, HoldsAtLeast s.store.tables k floor →
        HoldsAtLeast (reached fp s events).store.tables k floor := by
  refine run_along
    (fun session t => Stranger k session ∧ AllRepresented fp t ∧
      ∀ floor, HoldsAtLeast s.store.tables k floor → HoldsAtLeast t k floor)
    (fun x => ¬ (LogsIn fp k x ∨ AdminLogsIn fp x)) ?_ ?_ hno hsaved
    ⟨hstranger, hrepresented, fun _ h => h⟩
  · rintro session t ⟨_, hrest⟩
    exact ⟨.reset k, hrest⟩
  · rintro x message response hinput houtput hgood hturn ⟨hstranger, hrepresented, hholds⟩
    refine ⟨hstranger.turn hinput houtput hturn hgood, ?_, ?_⟩
    · refine hturn.tables (AllRepresented fp) ?_ ?_ hrepresented
      · intro accountNo failedAttempts isLocked h
        exact h.setLoginState accountNo failedAttempts isLocked
      · intro a _ hperforms h
        exact h.performs hperforms hround
    · intro floor hstart
      exact (hholds floor hstart).turn hturn hstranger hrepresented

end runs

/-- On one connection, between any two points of it: without an admin login
everything that is in the tables stays, and an account holds less only if
someone has logged in to it with its PIN, or an admin has. -/
theorem connection_authorized (fp : Rounding) (hround : ∀ q, (fp.round q).Represented fp)
    {s : ServerState} (hsaved : s.store.saved = none) (hsession : s.session = Session.reset)
    (hrepresented : AllRepresented fp s.store.tables) (first second : List Message) :
    let before := (reached fp s (first.map .request)).store.tables
    let after := (reached fp s ((first ++ second).map .request)).store.tables
    let exchanges := history fp s ((first ++ second).map .request)
    ((∀ x ∈ exchanges, ¬ AdminLogsIn fp x) → Preserved before after) ∧
      ∀ k balance balance', balanceOf before k = some balance →
        balanceOf after k = some balance' → balance' < balance →
        ∃ x ∈ exchanges, LogsIn fp k x ∨ AdminLogsIn fp x := by
  intro before after exchanges
  have hafter : after = (reached fp (reached fp s (first.map .request))
      (second.map .request)).store.tables := by
    simp only [after, reached, List.map_append, Machine.final_append]
  have hsplit : exchanges = history fp s (first.map .request) ++
      history fp (reached fp s (first.map .request)) (second.map .request) := by
    simp only [exchanges, history, reached, List.map_append, Machine.history_append]
  have hmiddle : (reached fp s (first.map .request)).store.saved = none := reached_saved hsaved _
  constructor
  · intro hno
    rw [hsplit, List.forall_mem_append] at hno
    rw [hafter]
    obtain ⟨hadmin, _⟩ := preserved_run hsaved hno.1 (by rw [hsession]; rfl)
    exact (preserved_run hmiddle hno.2 hadmin).2
  · intro k balance balance' hbefore hbalance hlower
    by_contra hnone
    have hno : ∀ x ∈ exchanges, ¬ (LogsIn fp k x ∨ AdminLogsIn fp x) := by
      simpa only [not_exists, not_and] using hnone
    rw [hsplit, List.forall_mem_append] at hno
    obtain ⟨hstranger, hrepresented', _⟩ :=
      stranger_run hround hsaved hno.1 (hsession ▸ .reset k) hrepresented
    obtain ⟨_, _, hholds⟩ := stranger_run hround hmiddle hno.2 hstranger hrepresented'
    obtain ⟨row, hrow, rfl⟩ := Option.map_eq_some_iff.mp hbefore
    obtain ⟨row', hrow', hfloor⟩ := hholds row.balance ⟨row, hrow, Double.ieee_lt_irrefl _⟩
    rw [hafter, balanceOf, hrow', Option.map_some, Option.some.injEq] at hbalance
    rw [hbalance] at hfloor
    exact hfloor hlower

/-- A customer who opened an account, logged in and deposited 100. -/
def savingCustomer : List Message :=
  [plain "CREATE_ACCOUNT\n7\nAda\n1234", plain "LOGIN\n7\n1234", plain "DEPOSIT\n100"]

theorem connection_authorized_savingCustomer :
    ∃ x ∈ history .exact emptyServer ((savingCustomer ++ [plain "WITHDRAW\n40"]).map .request),
      LogsIn .exact 7 x ∨ AdminLogsIn .exact x := by
  refine (connection_authorized .exact (fun _ => rfl) rfl rfl ?_ savingCustomer
    [plain "WITHDRAW\n40"]).2 7 (.fin 100) (.fin 60) ?_ ?_ ?_
  · intro k row hrow
    cases hrow
  · decide +kernel
  · decide +kernel
  · decide +kernel

end AtmSystem.Bank
