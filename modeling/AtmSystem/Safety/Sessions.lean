import AtmSystem.Safety.Authorization
import AtmSystem.Semantics.Refusals

/-!
No stale session. A session remembers an account number and nothing else about
the account. Only an admin can delete or renumber accounts, an admin session
remembers no account, and connections are served one after another; so the
account of a customer's session exists for as long as the session lasts, and
no command of that customer is refused because it does not.
-/

namespace AtmSystem.Bank

open Library Program Model

/-- The session belongs to a customer whose account exists, or to nobody or an
admin. -/
structure Sound (session : Session) (t : Tables) : Prop where
  exclusive : session.isAdmin = true → session.customerAccountNo = 0
  account : session.isCustomer = true →
    ∃ row, t.accounts.lookup session.customerAccountNo = some row

namespace Sound

variable {fp : Rounding} {env : Environment} {session session' : Session} {t t' : Tables}
  {c : Command}

theorem reset (t : Tables) : Sound Session.reset t := ⟨nofun, nofun⟩

/-- It is enough that accounts stay. -/
theorem of_accounts (h : Sound session t)
    (hkeep : session.isCustomer = true → ∀ k row, t.accounts.lookup k = some row →
      ∃ row', t'.accounts.lookup k = some row') : Sound session t' := by
  refine ⟨h.exclusive, fun hcustomer => ?_⟩
  obtain ⟨row, hrow⟩ := h.account hcustomer
  exact hkeep hcustomer _ row hrow

theorem setLoginState (h : Sound session t) (accountNo failedAttempts isLocked : Int) :
    Sound session (t.setLoginState accountNo failedAttempts isLocked) := by
  apply h.of_accounts
  intro _ k row hrow
  obtain ⟨row', hrow', -⟩ := Tables.setLoginState_fate t accountNo k hrow failedAttempts isLocked
  exact ⟨row', hrow'⟩

/-- No action of a customer takes an account away. -/
theorem performs {a : Action} (hintended : intended env session c = some a)
    (hperforms : a.Performs fp t t') (h : Sound session t) : Sound session t' := by
  apply h.of_accounts
  intro hcustomer k row hrow
  have hneeds := needsAdmin_of_intended hintended (isAdmin_of_isCustomer hcustomer)
  rcases fate hperforms hrow with ⟨rfl, _⟩ | ⟨k', row', hrow', hbecomes⟩
  · cases hneeds
  · cases hbecomes with
    | renumbered => cases hneeds
    | _ => exact ⟨_, hrow'⟩

theorem turn {response : Response} (hturn : Turn fp env session t c response session' t')
    (h : Sound session t) : Sound session' t' := by
  cases hturn with
  | refused => exact h
  | reported => exact h
  | @loggedIn accountNo pin row hchecked hmatch =>
      refine ⟨nofun, fun _ => ?_⟩
      exact ⟨_, Tables.lookup_setLoginState_self t accountNo hchecked.2.1 0 0⟩
  | counted => exact h.setLoginState ..
  | adminLoggedIn => exact ⟨fun _ => rfl, nofun⟩
  | loggedOut => exact reset _
  | performed hintended hperforms => exact h.performs hintended hperforms

end Sound

/-- What a customer is told when their own account is not found. -/
def missingTexts : List Bytes := [ascii "Account not found.", ascii "Sender account not found."]

/-- A text that tells the customer something else. -/
def NotMissing (text : Bytes) : Prop := text ∉ missingTexts

instance (text : Bytes) : Decidable (NotMissing text) := inferInstanceAs (Decidable (_ ∉ _))

instance (texts : List String) : Decidable (Says NotMissing texts) :=
  inferInstanceAs (Decidable (∀ text ∈ texts, _))

theorem sqliteTexts_notMissing {faulty : Prop} (hquiet : ¬ faulty) (text : Bytes)
    (htext : faulty ∨ text ∈ sqliteTexts) : NotMissing (snprintf 256 text) := by
  have hall : ∀ text ∈ sqliteTexts, NotMissing (snprintf 256 text) := by decide
  exact hall text (htext.resolve_left hquiet)

/-- The text that counts the remaining attempts. -/
theorem remaining_notMissing (n : Int) :
    NotMissing (snprintf 256 (ascii "Invalid account number or PIN. Remaining attempts: " ++
      formatInt n ++ ascii ".")) := by
  intro hmissing
  have hheads : ∀ text ∈ missingTexts, text.head? ≠ some 73 := by decide
  exact hheads _ hmissing rfl

/-- Without failing calls a customer whose account exists is not told that it
does not. -/
theorem handleCommand_notMissing (fp : Rounding) {env : Environment} {session : Session}
    {t : Tables} (hquiet : ¬ env.Faulty) (hcustomer : session.isCustomer = true) {row : Account}
    (hrow : t.accounts.lookup session.customerAccountNo = some row) (c : Command) :
    RepliesFrom fp env.Faulty NotMissing ⟨⟨t, none⟩, none⟩ (handleCommand fp env session c) := by
  have hsqlite := sqliteTexts_notMissing hquiet
  have hexists {texts : List String} (hmissing : env.Faulty ∨
      t.accounts.lookup session.customerAccountNo = none) : Says NotMissing texts := by
    rw [hrow] at hmissing
    rcases hmissing with hf | hnone
    · exact absurd hf hquiet
    · cases hnone
  have hadmin : session.isAdmin = false := isAdmin_of_isCustomer hcustomer
  have hcustomerOnly {branch : Int → Db Response}
      (hbranch : AnswersFrom fp env.Faulty NotMissing ⟨⟨t, none⟩, none⟩
        (branch session.customerAccountNo)) :
      RepliesFrom fp env.Faulty NotMissing ⟨⟨t, none⟩, none⟩ (asCustomer session branch) :=
    asCustomer_replies (by decide) fun _ => hbranch
  have hadminOnly {branch : Db Response} :
      RepliesFrom fp env.Faulty NotMissing ⟨⟨t, none⟩, none⟩ (asAdmin session branch) :=
    asAdmin_replies (by decide) fun h => by simp [hadmin] at h
  cases c with
  | empty => exact errResponse_replies session (by decide)
  | unknown => exact errResponse_replies session (by decide)
  | logout => exact nofun
  | createAccount args =>
      apply keepsSession_replies
      apply withArgs_from args (by decide)
      rintro ⟨accountNo, name, pin⟩
      apply answerText_from
      exact dbCreateAccount_explains hsqlite env name pin (by decide) _
  | login args =>
      cases args with
      | none => exact errResponse_replies session (by decide)
      | some args =>
          apply handleLogin_replies
          exact dbLogin_explains hsqlite args.1 args.2 (by decide) remaining_notMissing
  | adminLogin args =>
      cases args with
      | none => exact errResponse_replies session (by decide)
      | some args =>
          apply handleAdminLogin_replies
          exact dbAdminLogin_explains hsqlite args.1 args.2 (by decide)
  | balance =>
      rw [handleCommand]
      apply hcustomerOnly
      apply answerAmount_from
      exact dbGetBalance_explains hsqlite hexists
  | deposit amount =>
      rw [handleCommand]
      apply hcustomerOnly
      apply withArgs_from amount (by decide)
      intro amount
      apply answerAmount_from
      exact checkedBalanceTransaction_explains hsqlite hexists env amount _ _ (by decide)
        (by decide)
  | withdraw amount =>
      rw [handleCommand]
      apply hcustomerOnly
      apply withArgs_from amount (by decide)
      intro amount
      apply answerAmount_from
      exact checkedBalanceTransaction_explains hsqlite hexists env amount _ _ (by decide)
        (by decide)
  | transfer args =>
      rw [handleCommand]
      apply hcustomerOnly
      apply withArgs_from args (by decide)
      rintro ⟨receiver, amount⟩
      apply answerAmount_from
      exact dbTransfer_explains hsqlite env receiver amount hexists (by decide)
  | miniStatement =>
      rw [handleCommand]
      apply hcustomerOnly
      apply answer_from id (dbBuildMiniStatement_explains hsqlite hexists (by decide))
      exact fun _ => id
  | monthlySummary month =>
      rw [handleCommand]
      apply hcustomerOnly
      apply answer_from id (dbBuildMonthlySummary_explains hsqlite hexists env month (by decide))
      exact fun _ => id
  | _ => exact hadminOnly

theorem serve_notMissing (fp : Rounding) {s : ServerState} (hsaved : s.store.saved = none)
    (hcustomer : s.session.isCustomer = true) {row : Account}
    (hrow : s.store.tables.accounts.lookup s.session.customerAccountNo = some row)
    {message : Message} (hquiet : ¬ message.env.Faulty) {text : Bytes}
    (htext : text ∈ missingTexts) : (s.serve fp message).1 ≠ ⟨.err, text⟩ := by
  intro hanswer
  obtain ⟨⟨t, saved⟩, session⟩ := s
  obtain rfl : saved = none := hsaved
  have hreplies := handleCommand_notMissing fp hquiet hcustomer hrow (requested fp message)
  obtain ⟨_, hgood⟩ := exec_of_worded fp message.env _ ⟨t, none⟩ hreplies
  have hserve : ((handleCommand fp message.env session (requested fp message)).exec fp
      message.env ⟨t, none⟩).1.2 = ⟨.err, text⟩ := hanswer
  rw [hserve] at hgood
  exact hgood rfl htext

/-- In every state a server reaches whose connections start anew, whatever its
tables were: the session is not an admin's and a customer's at once, a
customer's account exists, and unless a call fails nothing they ask for is
refused because the account is missing. -/
theorem no_stale_session (fp : Rounding) {s : ServerState} (hsaved : s.store.saved = none)
    (hsession : s.session = Session.reset) (events : List Event) :
    ((reached fp s events).session.isAdmin = true →
      (reached fp s events).session.customerAccountNo = 0) ∧
    ((reached fp s events).session.isCustomer = true →
      (∃ row, (reached fp s events).store.tables.accounts.lookup
        (reached fp s events).session.customerAccountNo = some row) ∧
      ∀ message, ¬ message.env.Faulty →
        ∀ text ∈ missingTexts, ((reached fp s events).serve fp message).1 ≠ ⟨.err, text⟩) := by
  have hsound : Sound (reached fp s events).session (reached fp s events).store.tables := by
    refine monitored_run (fun (_ : Unit) => Sound) (fun _ _ => ()) ?_ ?_ (allowed_all events)
      hsaved ?_ (m := ())
    · exact fun _ x _ _ => .reset _
    · exact fun _ x message response _ _ _ hturn h => h.turn hturn
    · rw [hsession]
      exact .reset _
  refine ⟨hsound.exclusive, fun hcustomer => ⟨hsound.account hcustomer, ?_⟩⟩
  intro message hquiet text htext
  obtain ⟨row, hrow⟩ := hsound.account hcustomer
  exact serve_notMissing fp (reached_saved hsaved events) hcustomer hrow hquiet htext

/-- A customer logs in after a failed attempt. -/
def secondAttempt : List Event :=
  [.connect, .request (plain "CREATE_ACCOUNT\n7\nAda\n1234"), .request (plain "LOGIN\n7\n1111"),
    .request (plain "LOGIN\n7\n1234")]

theorem no_stale_session_secondAttempt :
    (reached .exact emptyServer secondAttempt).session.customerAccountNo = 7 ∧
    (∃ row, (reached .exact emptyServer secondAttempt).store.tables.accounts.lookup 7 = some row) ∧
    ((reached .exact emptyServer secondAttempt).serve .exact (plain "BALANCE")).1 ≠
      ⟨.err, ascii "Account not found."⟩ := by
  obtain ⟨-, hcustomer⟩ := no_stale_session .exact (s := emptyServer) rfl rfl secondAttempt
  obtain ⟨hnumber, hopened⟩ :
      (reached .exact emptyServer secondAttempt).session.customerAccountNo = 7 ∧
        (reached .exact emptyServer secondAttempt).session.isCustomer = true := by decide +kernel
  obtain ⟨hrow, hanswers⟩ := hcustomer hopened
  rw [hnumber] at hrow
  exact ⟨hnumber, hrow, hanswers _ (plain_quiet _) _ (by decide)⟩

end AtmSystem.Bank
