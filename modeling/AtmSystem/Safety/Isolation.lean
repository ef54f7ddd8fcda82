import AtmSystem.Bank.Run
import AtmSystem.Bank.View
import AtmSystem.Safety.Authorization
import AtmSystem.Semantics.Refusals

/-!
Customers are isolated from each other. In a session of a customer, unless it
changes hands or sends a transfer, no response and nothing that becomes of the
account depends on anything but the account, the requests and the clock: not on
other accounts, their transactions or the admins, and not on salts or what lies
on the stack.
-/

namespace AtmSystem.Bank

open Library Model Program

/-! ### Two sessions of one customer -/

structure LoggedInAs (accountNo : Int) (session : Session) : Prop where
  customer : session.isCustomer = true
  account : session.customerAccountNo = accountNo

/-- Nobody is logged in. -/
structure LoggedOut (session : Session) : Prop where
  notAdmin : session.isAdmin = false
  notCustomer : session.isCustomer = false

/-- Both sessions are the customer's, or neither is anybody's. -/
def SameCustomer (accountNo : Int) (session session' : Session) : Prop :=
  (LoggedInAs accountNo session ∧ LoggedInAs accountNo session') ∨
    (LoggedOut session ∧ LoggedOut session')

theorem SameCustomer.notAdmin {accountNo : Int} {session session' : Session}
    (h : SameCustomer accountNo session session') :
    session.isAdmin = false ∧ session'.isAdmin = false := by
  rcases h with ⟨hin, hin'⟩ | ⟨hout, hout'⟩
  · exact ⟨isAdmin_of_isCustomer hin.customer, isAdmin_of_isCustomer hin'.customer⟩
  · exact ⟨hout.notAdmin, hout'.notAdmin⟩

theorem sameCustomer_reset (accountNo : Int) :
    SameCustomer accountNo Session.reset Session.reset := .inr ⟨⟨rfl, rfl⟩, ⟨rfl, rfl⟩⟩

/-- Two servers with the same customer connected, who sees the same. -/
structure SameServer (accountNo : Int) (s s' : ServerState) : Prop where
  tables : AgreesOn accountNo s.store.tables s'.store.tables
  saved : Option.Rel (AgreesOn accountNo) s.store.saved s'.store.saved
  session : SameCustomer accountNo s.session s'.session

/-- One request at one time: the clock reads the same, and the same calls fail,
if any. The salt and the stack may differ. -/
structure SameRequest (message message' : Message) : Prop where
  content : message.content = message'.content
  timestamp : message.env.timestamp = message'.env.timestamp
  yearMonth : message.env.yearMonth = message'.env.yearMonth
  failures : ∀ n : Nat, message.env.faults[n]?.join = message'.env.faults[n]?.join

/-- Commands that neither change who is connected nor pay another account. -/
def keepsToAccount : Command → Bool
  | .createAccount _ | .login _ | .adminLogin _ | .transfer _ => false
  | _ => true

/-! ### One request -/

/-- Both branches send the same response and leave the customer the same to
see. -/
structure RepliesAlike (fp : Rounding) (accountNo : Int) (w w' : World)
    (p q : Db (Session × Response)) : Prop where
  response : (p.run (sqlite fp) w).1.2 = (q.run (sqlite fp) w').1.2
  session : SameCustomer accountNo (p.run (sqlite fp) w).1.1 (q.run (sqlite fp) w').1.1
  view : SameView accountNo (p.run (sqlite fp) w).2 (q.run (sqlite fp) w').2

section request

variable {fp : Rounding} {accountNo : Int} {env env' : Environment} {s s' : Store}
  {session session' : Session}

theorem fixed_alike {w w' : World} (hview : SameView accountNo w w')
    (hsessions : SameCustomer accountNo session session') (response : Response) :
    RepliesAlike fp accountNo w w' (pure (session, response)) (pure (session', response)) :=
  ⟨rfl, hsessions, hview⟩

/-- Commands of admins are refused. -/
theorem asAdmin_alike {w w' : World} (hview : SameView accountNo w w')
    (hsessions : SameCustomer accountNo session session') (branch branch' : Db Response) :
    RepliesAlike fp accountNo w w' (asAdmin session branch) (asAdmin session' branch') := by
  obtain ⟨hadmin, hadmin'⟩ := hsessions.notAdmin
  simp only [asAdmin, hadmin, hadmin', Bool.false_eq_true, if_false]
  exact fixed_alike hview hsessions _

/-- Answers to a customer: a function that answers alike, and that has set the
error whenever it is refused. -/
structure AnswersAlike (fp : Rounding) (accountNo : Int) (env env' : Environment) (s s' : Store)
    (branch branch' : Db Response) : Prop where
  response : (branch.run (sqlite fp) (World.start env s)).1 =
    (branch'.run (sqlite fp) (World.start env' s')).1
  view : SameView accountNo (branch.run (sqlite fp) (World.start env s)).2
    (branch'.run (sqlite fp) (World.start env' s')).2

theorem usage_alike (hview : SameView accountNo (World.start env s) (World.start env' s'))
    (usage : String) :
    AnswersAlike fp accountNo env env' s s' (pure (errResponse usage))
      (pure (errResponse usage)) :=
  ⟨rfl, hview⟩

theorem answer_alike (hview : SameView accountNo (World.start env s) (World.start env' s'))
    {α : Type} {p : Db α} {refused : α → Prop} (reply : α → Option Bytes)
    (hviews : Views fp accountNo Eq p p)
    (hexplains : ExplainsFrom fp env.Faulty (fun _ => True) refused ⟨s, none⟩ p)
    (hreply : ∀ a, reply a = none → refused a) :
    AnswersAlike fp accountNo env env' s s' (do answer (reply (← p)))
      (do answer (reply (← p))) := by
  obtain ⟨hanswers, hafter⟩ := hviews.runs _ _ hview
  have htold := run_of_worded fp env p s hexplains.always
  revert hanswers hafter htold
  generalize hrun : p.run (sqlite fp) (World.start env s) = outcome
  generalize hrun' : p.run (sqlite fp) (World.start env' s') = outcome'
  obtain ⟨a, w⟩ := outcome
  obtain ⟨a', w'⟩ := outcome'
  intro hanswers hafter htold
  obtain rfl : a = a' := hanswers
  have hbehind : (answer (reply a)).run (sqlite fp) w = (((answer (reply a)).run (sqlite fp) w).1, w) ∧
      (answer (reply a)).run (sqlite fp) w' = (((answer (reply a)).run (sqlite fp) w).1, w') := by
    cases hnone : reply a with
    | some text => exact ⟨rfl, rfl⟩
    | none =>
        obtain ⟨text, htext, -⟩ := htold (hreply a hnone)
        have hset : w.errorSet = true := by
          by_contra hunset
          simp [World.heard, hunset] at htext
        refine ⟨rfl, ?_⟩
        change ((⟨.err, w'.error⟩ : Response), w') = (⟨.err, w.error⟩, w')
        rw [hafter.error hset]
  refine ⟨?_, ?_⟩
  · rw [run_bind, run_bind, hrun, hrun', hbehind.2]
  · rw [run_bind, run_bind, hrun, hrun', hbehind.1, hbehind.2]
    exact hafter

theorem answerAmount_alike (hview : SameView accountNo (World.start env s) (World.start env' s'))
    {p : Db (Option Double)} (hviews : Views fp accountNo Eq p p)
    (hexplains : ExplainsFrom fp env.Faulty (fun _ => True) (· = none) ⟨s, none⟩ p) :
    AnswersAlike fp accountNo env env' s s' (do answerAmount (← p)) (do answerAmount (← p)) := by
  apply answer_alike hview (fun amount => amount.map fun x => snprintf 64 (formatAmount x)) hviews
    hexplains
  intro amount hnone
  exact Option.map_eq_none_iff.mp hnone

theorem asCustomer_alike (hview : SameView accountNo (World.start env s) (World.start env' s'))
    (hsessions : SameCustomer accountNo session session') {branch branch' : Int → Db Response}
    (hbranch : AnswersAlike fp accountNo env env' s s' (branch accountNo) (branch' accountNo)) :
    RepliesAlike fp accountNo (World.start env s) (World.start env' s')
      (asCustomer session branch) (asCustomer session' branch') := by
  rcases id hsessions with ⟨hin, hin'⟩ | ⟨hout, hout'⟩
  · simp only [asCustomer, hin.customer, hin'.customer, hin.account, hin'.account, if_true]
    constructor
    · rw [run_bind, run_bind]
      exact hbranch.response
    · rw [run_bind, run_bind]
      exact hsessions
    · rw [run_bind, run_bind]
      exact hbranch.view
  · simp only [asCustomer, hout.notCustomer, hout'.notCustomer, Bool.false_eq_true, if_false]
    exact fixed_alike hview hsessions _

/-- A booking takes nothing but the timestamp from its surroundings. -/
theorem checkedBalanceTransaction_timestamp (htime : env.timestamp = env'.timestamp) :
    checkedBalanceTransaction fp env = checkedBalanceTransaction fp env' := by
  funext notPositive accountNo amount isCredit type
  simp only [checkedBalanceTransaction, applyBalanceTransaction, htime]

theorem dbBuildMonthlySummary_yearMonth (hmonth : env.yearMonth = env'.yearMonth) :
    dbBuildMonthlySummary fp env = dbBuildMonthlySummary fp env' := by
  funext accountNo month
  simp only [dbBuildMonthlySummary, resolveMonth, hmonth]

theorem handleCommand_alike (hview : SameView accountNo (World.start env s) (World.start env' s'))
    (hsessions : SameCustomer accountNo session session')
    (htime : env.timestamp = env'.timestamp) (hmonth : env.yearMonth = env'.yearMonth)
    {c : Command} (hkeeps : keepsToAccount c = true) :
    RepliesAlike fp accountNo (World.start env s) (World.start env' s')
      (handleCommand fp env session c) (handleCommand fp env' session' c) := by
  have hsqlite (text : Bytes) (_ : env.Faulty ∨ text ∈ sqliteTexts) : True := trivial
  have hsays {texts : List String} : Says (fun _ => True) texts := fun _ _ => trivial
  have hmissing (_ : env.Faulty ∨ s.tables.accounts.lookup accountNo = none) :
      Says (fun _ => True) ["Account not found."] := hsays
  have hmoves (notPositive : Bytes) (amount : Double) (isCredit : Bool) (type : TransactionType) :
      AnswersAlike fp accountNo env env' s s'
        (checkedBalanceTransaction fp env notPositive accountNo amount isCredit type >>= answerAmount)
        (checkedBalanceTransaction fp env' notPositive accountNo amount isCredit type >>=
          answerAmount) := by
    rw [← checkedBalanceTransaction_timestamp htime]
    exact answerAmount_alike hview
      (views_checkedBalanceTransaction env notPositive amount isCredit type)
      (checkedBalanceTransaction_explains hsqlite hmissing env amount isCredit type trivial hsays)
  cases c with
  | empty => exact fixed_alike hview hsessions _
  | unknown => exact fixed_alike hview hsessions _
  | logout => exact fixed_alike hview (sameCustomer_reset accountNo) _
  | createAccount | login | adminLogin | transfer => cases hkeeps
  | balance =>
      rw [handleCommand, handleCommand]
      apply asCustomer_alike hview hsessions
      exact answerAmount_alike hview views_dbGetBalance (dbGetBalance_explains hsqlite hmissing)
  | deposit amount =>
      rw [handleCommand, handleCommand]
      apply asCustomer_alike hview hsessions
      cases amount with
      | none => exact usage_alike hview _
      | some amount => exact hmoves _ amount true .deposit
  | withdraw amount =>
      rw [handleCommand, handleCommand]
      apply asCustomer_alike hview hsessions
      cases amount with
      | none => exact usage_alike hview _
      | some amount => exact hmoves _ amount false .withdraw
  | miniStatement =>
      rw [handleCommand, handleCommand]
      apply asCustomer_alike hview hsessions
      exact answer_alike hview id views_dbBuildMiniStatement
        (dbBuildMiniStatement_explains hsqlite hmissing hsays) fun _ hnone => hnone
  | monthlySummary month =>
      rw [handleCommand, handleCommand]
      apply asCustomer_alike hview hsessions
      rw [← dbBuildMonthlySummary_yearMonth hmonth]
      exact answer_alike hview id (views_dbBuildMonthlySummary env month)
        (dbBuildMonthlySummary_explains hsqlite hmissing env month hsays) fun _ hnone => hnone
  | _ => exact asAdmin_alike hview hsessions _ _

end request

/-- One request leaves both servers with the same to see for the customer. -/
theorem serve_alike {fp : Rounding} {accountNo : Int} {s s' : ServerState}
    (hservers : SameServer accountNo s s') {message message' : Message}
    (hrequest : SameRequest message message')
    (hkeeps : keepsToAccount (requested fp message) = true) :
    (s.serve fp message).1 = (s'.serve fp message').1 ∧
      SameServer accountNo (s.serve fp message).2 (s'.serve fp message').2 := by
  have hview : SameView accountNo (World.start message.env s.store)
      (World.start message'.env s'.store) :=
    ⟨hservers.tables, hservers.saved, rfl, rfl, (fun hset => by cases hset), hrequest.failures⟩
  have hreplies : RepliesAlike fp accountNo _ _
      (handleCommand fp message.env s.session (requested fp message)) _ :=
    handleCommand_alike hview hservers.session hrequest.timestamp hrequest.yearMonth hkeeps
  simp only [ServerState.serve, handleRequest, ← hrequest.content]
  exact ⟨hreplies.response, hreplies.view.tables, hreplies.view.saved, hreplies.session⟩

/-! ### Any number of requests -/

/-- Two requests answered alike, behind which the account is the same to see. -/
structure SameExchange (accountNo : Int) (x x' : Exchange) : Prop where
  response : x.output = x'.output
  account : AgreesOn accountNo x.after.store.tables x'.after.store.tables

/-- Two runs on databases that agree on the account, whatever else they hold:
the responses are the same, and behind every request they agree on it again. -/
theorem isolated {fp : Rounding} {accountNo : Int} {s s' : ServerState}
    (hsession : LoggedInAs accountNo s.session) (hsession' : LoggedInAs accountNo s'.session)
    (hsaved : s.store.saved = none) (hsaved' : s'.store.saved = none)
    (hagrees : AgreesOn accountNo s.store.tables s'.store.tables)
    {messages messages' : List Message} (hsame : List.Forall₂ SameRequest messages messages')
    (hkeeps : ∀ message ∈ messages, keepsToAccount (requested fp message) = true) :
    List.Forall₂ (SameExchange accountNo) (history fp s (messages.map .request))
      (history fp s' (messages'.map .request)) := by
  have hrun {s s' : ServerState} (hservers : SameServer accountNo s s') :
      List.Forall₂ (SameExchange accountNo) (history fp s (messages.map .request))
        (history fp s' (messages'.map .request)) := by
    induction hsame generalizing s s' with
    | nil => exact .nil
    | cons hfirst _ ih =>
        obtain ⟨hresponse, hnext⟩ := serve_alike hservers hfirst (hkeeps _ List.mem_cons_self)
        refine .cons ⟨congrArg some hresponse, hnext.tables⟩ ?_
        exact ih (fun message hmessage => hkeeps message (List.mem_cons_of_mem _ hmessage)) hnext
  apply hrun
  refine ⟨hagrees, ?_, .inl ⟨hsession, hsession'⟩⟩
  rw [hsaved, hsaved']
  exact .none

/-- Ada is connected and has no transactions yet; `others` is what else there is
in the bank. -/
def adaConnected (others : Tables → Tables) : ServerState :=
  ⟨⟨others (Tables.empty.insertAccount (newAccount 7 (ascii "Ada") 1234 7 [])), none⟩,
    { Session.reset with customerAccountNo := 7 }⟩

/-- Bob opens an account and pays in 50. -/
def bobPaysIn (t : Tables) : Tables :=
  book (t.insertAccount (newAccount 8 (ascii "Bob") 4321 8 [])) 8 none .deposit (.fin 50) (.fin 50) []

theorem isolated_adaAndBob :
    let messages := [plain "DEPOSIT\n50", plain "LIST_ACCOUNTS", plain "MINI_STATEMENT"]
    List.Forall₂ (SameExchange 7) (history .exact (adaConnected id) (messages.map .request))
      (history .exact (adaConnected bobPaysIn) (messages.map .request)) := by
  intro messages
  have hsame : List.Forall₂ SameRequest messages messages :=
    List.forall₂_same.mpr fun message _ => ⟨rfl, rfl, rfl, fun _ => rfl⟩
  have hkeeps : ∀ message ∈ messages, keepsToAccount (requested .exact message) = true := by
    decide +kernel
  have hagrees : AgreesOn 7 (adaConnected id).store.tables (adaConnected bobPaysIn).store.tables :=
    ⟨rfl, rfl⟩
  have hconnected (others : Tables → Tables) : LoggedInAs 7 (adaConnected others).session :=
    ⟨rfl, rfl⟩
  exact isolated (hconnected id) (hconnected bobPaysIn) rfl rfl hagrees hsame hkeeps

end AtmSystem.Bank
