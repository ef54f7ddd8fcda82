import AtmSystem.Bank.Rows
import AtmSystem.Bank.Run

/-!
Lockout. A row counts the failed logins since the last successful one, and the
third locks it; the flag and the counter are two columns that five operations
write, and they always agree. A watch follows one account through a run, also
to new numbers, and notes what has happened to it: once it is barred, no PIN
opens the account until an admin unlocks it.
-/

namespace AtmSystem.Bank

open Library Model

/-! ### The two columns -/

/-- The counter and the flag agree. -/
structure ValidLock (failedAttempts isLocked : Int) : Prop where
  nonneg : 0 ≤ failedAttempts
  atMostThree : failedAttempts ≤ 3
  flag : isLocked = 0 ∨ isLocked = 1
  locked : isLocked = 1 ↔ failedAttempts = 3

theorem ValidLock.cleared : ValidLock 0 0 := ⟨by omega, by omega, by omega, by omega⟩

theorem ValidLock.barred : ValidLock 3 1 := ⟨by omega, by omega, by omega, by omega⟩

/-- One more failed attempt on an account that is not locked. -/
theorem ValidLock.strike {failedAttempts : Int} (h : ValidLock failedAttempts 0) :
    ValidLock (failedAttempts + 1) (if 3 ≤ failedAttempts + 1 then 1 else 0) := by
  have hnonneg := h.nonneg
  have hmost := h.atMostThree
  have hlocked := h.locked
  split <;> exact ⟨by omega, by omega, by omega, by omega⟩

/-- The counter and the flag of every row agree. -/
def ValidLocks (t : Tables) : Prop :=
  ∀ k row, t.accounts.lookup k = some row → ValidLock row.failedAttempts row.isLocked

namespace ValidLocks

variable {fp : Rounding} {t t' : Tables}

theorem setLoginState (h : ValidLocks t) (accountNo : Int) {failedAttempts isLocked : Int}
    (hvalid : ValidLock failedAttempts isLocked) :
    ValidLocks (t.setLoginState accountNo failedAttempts isLocked) := by
  apply EachAccount.setLoginState h
  exact fun _ _ _ => hvalid

theorem performs {a : Action} (ha : a.Performs fp t t') (h : ValidLocks t) : ValidLocks t' := by
  refine EachAccount.performs ha ?_ ?_ h
  · rintro _ _ ⟨⟩
    exact .cleared
  · intro k row k' row' _ hbecomes hvalid
    cases hbecomes with
    | locked => exact .barred
    | unlocked => exact .cleared
    | _ => exact hvalid

theorem turn {env : Environment} {session session' : Session} {c : Command} {response : Response}
    (hturn : Turn fp env session t c response session' t') (h : ValidLocks t) : ValidLocks t' := by
  cases hturn with
  | refused => exact h
  | reported => exact h
  | loggedIn => exact h.setLoginState _ .cleared
  | counted hchecked =>
      have hvalid := h _ _ hchecked.2.1
      rw [hchecked.2.2] at hvalid
      exact h.setLoginState _ hvalid.strike
  | adminLoggedIn => exact h
  | loggedOut => exact h
  | performed hintended hperforms => exact h.performs hperforms

end ValidLocks

/-! ### Watching an account -/

/-- What is known of a watched account: the number it has now, the failed
logins since it was last opened or unlocked, and whether it is barred. -/
structure Watch where
  accountNo : Int
  strikes : Nat
  barred : Bool
  deriving DecidableEq

namespace Watch

/-- A watch that starts. -/
def start (accountNo : Int) : Watch := ⟨accountNo, 0, false⟩

/-- Three strikes, and the account is barred. -/
def struck (w : Watch) : Watch :=
  { w with strikes := w.strikes + 1, barred := w.barred || decide (3 ≤ w.strikes + 1) }

/-- A change of the watch if the request was about the watched account. -/
def on (w : Watch) (accountNo : Int) (change : Watch → Watch) : Watch :=
  if accountNo = w.accountNo then change w else w

/-- What a command does to a watch, by the answer to it. A login that does not
match is a strike unless an SQL call failed in it; a deleted account is no
longer watched. -/
def next (w : Watch) (env : Environment) (t : Tables) : Command → Status → Option Watch
  | .login (some (accountNo, _)), .ok => some (w.on accountNo fun w => { w with strikes := 0 })
  | .login (some (accountNo, pin)), .err =>
      some (w.on accountNo fun w =>
        if Mismatch t accountNo pin ∧ ¬ env.Faulty then w.struck else w)
  | .lockAccount (some accountNo), .ok =>
      some (w.on accountNo fun w => { w with barred := true })
  | .unlockAccount (some accountNo), .ok => some (w.on accountNo fun w => start w.accountNo)
  | .editAccount (some (accountNo, newAccountNo, _, _)), .ok =>
      some (w.on accountNo fun w => { w with accountNo := newAccountNo })
  | .deleteAccount (some accountNo), .ok => if accountNo = w.accountNo then none else some w
  | _, _ => some w

/-- The watch after an exchange. -/
def after (fp : Rounding) (w : Watch) (x : Exchange) : Option Watch :=
  match x.input, x.output with
  | .request message, some response =>
      w.next message.env x.before.store.tables (requested fp message) response.status
  | _, _ => some w

/-- What an action does to a watch. -/
def follow (w : Watch) : Action → Option Watch
  | .lock accountNo => some (w.on accountNo fun w => { w with barred := true })
  | .unlock accountNo => some (w.on accountNo fun w => start w.accountNo)
  | .edit accountNo newAccountNo .. =>
      some (w.on accountNo fun w => { w with accountNo := newAccountNo })
  | .delete accountNo => if accountNo = w.accountNo then none else some w
  | _ => some w

@[simp] theorem on_self (w : Watch) (change : Watch → Watch) :
    w.on w.accountNo change = change w := if_pos rfl

theorem on_other (w : Watch) {accountNo : Int} (change : Watch → Watch)
    (h : w.accountNo ≠ accountNo) : w.on accountNo change = w := if_neg (Ne.symm h)

theorem next_of_intended {env : Environment} {session : Session} {t : Tables} {c : Command}
    {a : Action} (w : Watch) (h : intended env session c = some a) :
    w.next env t c .ok = w.follow a := by
  cases asks_of_intended h <;> rfl

/-- An ERR changes a watch only if it is a strike. -/
theorem next_err {w w' : Watch} {env : Environment} {t : Tables} {c : Command}
    (h : w.next env t c .err = some w') :
    w' = w ∨ w' = w.struck ∧ ∃ pin, c = .login (some (w.accountNo, pin)) ∧
      Mismatch t w.accountNo pin ∧ ¬ env.Faulty := by
  unfold next at h
  split at h
  · contradiction
  · rename_i accountNo pin _
    obtain rfl := Option.some.inj h
    by_cases hno : w.accountNo = accountNo
    · subst hno
      rw [on_self]
      split
      · exact .inr ⟨rfl, pin, rfl, ‹_›⟩
      · exact .inl rfl
    · exact .inl (on_other w _ hno)
  all_goals first | contradiction | exact .inl (Option.some.inj h).symm

/-- An action that does not name the account does nothing to the watch. -/
theorem follow_other (w : Watch) {a : Action} (h : w.accountNo ∉ a.names) :
    w.follow a = some w := by
  cases a with
  | lock accountNo | unlock accountNo =>
      rw [follow, on_other w _ (by simpa [Action.names] using h)]
  | edit accountNo newAccountNo name pin salt =>
      have hne : w.accountNo ≠ accountNo := fun heq => h (by simp [Action.names, heq])
      rw [follow, on_other w _ hne]
  | delete accountNo =>
      have hne : w.accountNo ≠ accountNo := by simpa [Action.names] using h
      exact if_neg (Ne.symm hne)
  | _ => rfl

end Watch

/-- The watch tells the truth about its account. -/
def Watched (t : Tables) (w : Watch) : Prop :=
  ∃ row, t.accounts.lookup w.accountNo = some row ∧ (w.barred = true → row.isLocked ≠ 0) ∧
    (row.isLocked = 0 → w.strikes ≤ row.failedAttempts)

namespace Watched

variable {fp : Rounding} {t t' : Tables} {w w' : Watch}

/-- A watch follows an action on its account. -/
theorem performs {a : Action} (ha : a.Performs fp t t') (h : Watched t w)
    (hfollow : w.follow a = some w') : Watched t' w' := by
  obtain ⟨row, hrow, hbarred, hstrikes⟩ := h
  rcases fate ha hrow with ⟨rfl, _⟩ | ⟨k', row', hrow', hbecomes⟩
  · simp [Watch.follow] at hfollow
  · obtain ⟨k, strikes, barred⟩ := w
    cases hbecomes with
    | kept hother =>
        rw [Watch.follow_other _ hother, Option.some.injEq] at hfollow
        exact hfollow ▸ ⟨row, hrow', hbarred, hstrikes⟩
    | locked =>
        obtain rfl : _ = w' := by simpa [Watch.follow, Watch.on] using hfollow
        exact ⟨_, hrow', by simp, by simp⟩
    | unlocked =>
        obtain rfl : _ = w' := by simpa [Watch.follow, Watch.on] using hfollow
        exact ⟨_, hrow', by simp [Watch.start], by simp [Watch.start]⟩
    | renamed | renumbered =>
        obtain rfl : _ = w' := by simpa [Watch.follow, Watch.on] using hfollow
        exact ⟨_, hrow', hbarred, hstrikes⟩
    | moved | sent | received =>
        obtain rfl := Option.some.inj hfollow
        exact ⟨_, hrow', hbarred, hstrikes⟩

theorem setLoginState {accountNo : Int} {row : Account} (h : Watched t w)
    (hrow : t.accounts.lookup accountNo = some row) (failedAttempts isLocked : Int)
    (hother : w.accountNo ≠ accountNo → w' = w) (hself : w.accountNo = accountNo →
      w'.accountNo = w.accountNo ∧ (w'.barred = true → isLocked ≠ 0) ∧
        (isLocked = 0 → w'.strikes ≤ failedAttempts)) :
    Watched (t.setLoginState accountNo failedAttempts isLocked) w' := by
  obtain ⟨old, hold, hbarred, hstrikes⟩ := h
  by_cases hk : w.accountNo = accountNo
  · obtain ⟨hno, hbarred', hstrikes'⟩ := hself hk
    refine ⟨{ row with failedAttempts := failedAttempts, isLocked := isLocked }, ?_, hbarred',
      hstrikes'⟩
    rw [hno, hk]
    exact Tables.lookup_setLoginState_self t accountNo hrow failedAttempts isLocked
  · obtain rfl := hother hk
    exact ⟨old, (Tables.lookup_setLoginState_other t _ _ hk _ _).trans hold, hbarred, hstrikes⟩

/-- A watch follows every turn. -/
theorem turn {env : Environment} {session session' : Session} {c : Command} {response : Response}
    (hturn : Turn fp env session t c response session' t') (h : Watched t w)
    (hnext : w.next env t c response.status = some w') : Watched t' w' := by
  cases hturn with
  | refused hrefused =>
      obtain ⟨row, hrow, hbarred, hstrikes⟩ := h
      rcases Watch.next_err hnext with rfl | ⟨rfl, pin, rfl, ⟨hpin, -⟩, hquiet⟩
      · exact ⟨row, hrow, hbarred, hstrikes⟩
      · -- A strike is counted unless the account is locked already.
        have hlocked : row.isLocked ≠ 0 := by
          intro hunlocked
          rcases hrefused with hfaulty | hdenied
          · exact hquiet hfaulty
          · exact hdenied ⟨row, hpin, hrow, hunlocked⟩
        exact ⟨row, hrow, fun _ => hlocked, fun hunlocked => absurd hunlocked hlocked⟩
  | reported hread =>
      obtain rfl : w = w' := by
        cases c <;> first | exact Option.some.inj hnext | exact hread.elim
      exact h
  | @loggedIn accountNo pin row hchecked hmatch =>
      obtain rfl := Option.some.inj hnext
      apply h.setLoginState hchecked.2.1 _ _ (Watch.on_other w _)
      rintro rfl
      obtain ⟨old, hold, hbarred, _⟩ := h
      obtain rfl : row = old := Option.some.inj (hchecked.2.1.symm.trans hold)
      rw [Watch.on_self]
      exact ⟨rfl, fun hw => absurd hchecked.2.2 (hbarred hw), fun _ => le_refl _⟩
  | @counted accountNo pin row message hchecked hmismatch =>
      have hother : w.accountNo ≠ accountNo → w' = w := by
        intro hne
        rcases Watch.next_err hnext with heq | ⟨_, pin', hc, _⟩
        · exact heq
        · simp_all
      apply h.setLoginState hchecked.2.1 _ _ hother
      rintro rfl
      obtain ⟨old, hold, hbarred, hstrikes⟩ := h
      obtain rfl : row = old := Option.some.inj (hchecked.2.1.symm.trans hold)
      have hfree : w.barred = false := by
        simpa using fun hw => hbarred hw hchecked.2.2
      have hcount := hstrikes hchecked.2.2
      rcases Watch.next_err hnext with rfl | ⟨rfl, _⟩
      · exact ⟨rfl, by simp [hfree], fun _ => by omega⟩
      · refine ⟨rfl, ?_, fun _ => ?_⟩
        · simp only [Watch.struck, hfree, Bool.false_or, decide_eq_true_eq]
          intro hthree
          rw [if_pos (by omega)]
          decide
        · simp only [Watch.struck]
          omega
  | adminLoggedIn =>
      obtain rfl := Option.some.inj hnext
      exact h
  | loggedOut =>
      obtain rfl := Option.some.inj hnext
      exact h
  | performed hintended hperforms =>
      rw [Watch.next_of_intended w hintended] at hnext
      exact h.performs hperforms hnext

end Watched

/-! ### Runs -/

/-- The server as `db_open` leaves it on a new file, with or without legacy
accounts: nobody is connected and no login has failed yet. -/
structure Fresh (s : ServerState) : Prop where
  saved : s.store.saved = none
  session : s.session = Session.reset
  attempts : ∀ row ∈ s.store.tables.accounts.rows, row.failedAttempts = 0 ∧ row.isLocked = 0

/-- A watch over several exchanges. -/
def Watch.along (fp : Rounding) (w : Watch) (exchanges : List Exchange) : Option Watch :=
  exchanges.foldl (fun w x => w.bind fun w => w.after fp x) (some w)

section runs

variable {fp : Rounding} {s : ServerState} {events : List Event}

/-- The counters and flags agree at the end of every run. -/
theorem validLocks_run (hsaved : s.store.saved = none) (h : ValidLocks s.store.tables) :
    ValidLocks (reached fp s events).store.tables := by
  refine run_along (fun _ t => ValidLocks t) (fun _ => True) (fun _ _ h => h) ?_
    (fun _ _ => trivial) hsaved h
  intro x message response _ _ _ hturn h
  exact h.turn hturn

theorem validLocks_of_fresh (hfresh : Fresh s) (events : List Event) :
    ValidLocks (reached fp s events).store.tables := by
  apply validLocks_run hfresh.saved
  intro k row hrow
  obtain ⟨hattempts, hlocked⟩ := hfresh.attempts row (KeyedTable.lookup_mem hrow)
  rw [hattempts, hlocked]
  exact .cleared

/-- A watch tells the truth at the end of every run. -/
theorem watched_run {w w' : Watch} (hsaved : s.store.saved = none)
    (h : Watched s.store.tables w) (hw : w.along fp (history fp s events) = some w') :
    Watched (reached fp s events).store.tables w' := by
  have hrun : ∀ w', w.along fp (history fp s events) = some w' →
      Watched (reached fp s events).store.tables w' := by
    refine monitored_run (fun m _ t => ∀ w, m = some w → Watched t w)
      (fun m x => m.bind fun w => w.after fp x) ?_ ?_ (allowed_all events) hsaved ?_
    · intro m x hinput h w' hw'
      obtain ⟨w, rfl, hafter⟩ := Option.bind_eq_some_iff.mp hw'
      simp only [Watch.after, hinput, Option.some.injEq] at hafter
      exact hafter ▸ h w rfl
    · intro m x message response hinput houtput _ hturn h w' hw'
      obtain ⟨w, rfl, hafter⟩ := Option.bind_eq_some_iff.mp hw'
      simp only [Watch.after, hinput, houtput] at hafter
      exact (h w rfl).turn hturn hafter
    · intro w' hw'
      exact Option.some.inj hw' ▸ h
  exact hrun w' hw

/-- Whoever is watched and barred is refused. -/
theorem login_refused {w : Watch} (hsaved : s.store.saved = none)
    (h : Watched s.store.tables w) (hbarred : w.barred = true) {message : Message} {pin : Int}
    (hlogin : requested fp message = .login (some (w.accountNo, pin))) :
    (s.serve fp message).1.status = .err := by
  obtain ⟨row, hrow, hlocked, _⟩ := h
  obtain ⟨response, session', t', hserve, hturn⟩ := serve_cases fp message hsaved
  rw [hserve]
  rw [hlogin] at hturn
  cases hturn with
  | refused => rfl
  | counted => rfl
  | reported hread => exact hread.elim
  | performed hintended => cases hintended
  | loggedIn hchecked =>
      obtain ⟨_, hfound, hunlocked⟩ := hchecked
      obtain rfl := Option.some.inj (hfound.symm.trans hrow)
      exact absurd hunlocked (hlocked hbarred)

end runs

/-- In every reachable state the counter and the flag of every account agree.
And an account that has been watched from some point on and is barred, by three
strikes or by an admin, refuses every login until it is unlocked. -/
theorem lockout_holds (fp : Rounding) {s : ServerState} (hfresh : Fresh s) :
    (∀ events, ∀ row ∈ (reached fp s events).store.tables.accounts.rows,
      (0 ≤ row.failedAttempts ∧ row.failedAttempts ≤ 3) ∧ (row.isLocked = 0 ∨ row.isLocked = 1) ∧
        (row.isLocked = 1 ↔ row.failedAttempts = 3)) ∧
    ∀ first second k w, ((reached fp s first).store.tables.accounts.lookup k).isSome →
      (Watch.start k).along fp (history fp (reached fp s first) second) = some w →
      w.barred = true → ∀ message pin, requested fp message = .login (some (w.accountNo, pin)) →
      ((reached fp s (first ++ second)).serve fp message).1.status = .err := by
  have hreached (events : List Event) : ValidLocks (reached fp s events).store.tables :=
    validLocks_of_fresh hfresh events
  constructor
  · intro events row hrow
    have hvalid := hreached events row.accountNo row (KeyedTable.lookup_of_mem hrow)
    exact ⟨⟨hvalid.nonneg, hvalid.atMostThree⟩, hvalid.flag, hvalid.locked⟩
  · intro first second k w hk hw hbarred message pin hlogin
    obtain ⟨row, hrow⟩ := Option.isSome_iff_exists.mp hk
    have hwatched : Watched (reached fp s first).store.tables (.start k) :=
      ⟨row, hrow, by simp [Watch.start], fun _ => (hreached first k row hrow).nonneg⟩
    have hend : Watched (reached fp s (first ++ second)).store.tables w := by
      rw [reached, Machine.final_append]
      exact watched_run (reached_saved hfresh.saved first) hwatched hw
    exact login_refused (reached_saved hfresh.saved _) hend hbarred hlogin

theorem emptyServer_fresh : Fresh emptyServer := ⟨rfl, rfl, List.forall_mem_nil _⟩

/-- Someone who does not know the PIN of account 7 tries three, on two
connections. -/
def guesses : List Event :=
  [.request (plain "LOGIN\n7\n1111"), .connect, .request (plain "LOGIN\n7\n2222"),
    .request (plain "LOGIN\n7\n3333")]

theorem lockout_holds_guesses :
    ((reached .exact emptyServer
      ([.connect, .request (plain "CREATE_ACCOUNT\n7\nAda\n1234")] ++ guesses)).serve .exact
        (plain "LOGIN\n7\n1234")).1.status = .err := by
  refine (lockout_holds .exact emptyServer_fresh).2 _ guesses 7 ⟨7, 3, true⟩ ?_ ?_ rfl _ 1234 ?_
  · decide +kernel
  · decide +kernel
  · decide +kernel

end AtmSystem.Bank
