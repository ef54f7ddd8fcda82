import AtmSystem.Bank.Printing
import AtmSystem.Safety.AppliedAmounts
import AtmSystem.Safety.Exchanges
import AtmSystem.Safety.MiniStatement
import AtmSystem.Safety.ShownBalance
import AtmSystem.Semantics.Terminal

/-!
The client and the session the server keeps for it. Other connections may do to
the database what they like between two requests, and the connection may be lost
at any request. `Honest` is what the client promises: it asks what the session
admits, and what it prints and writes is true. The rules say what its readers
read and how its requests are answered.
-/

namespace AtmSystem.Model

open Library Program Bank

/-! ### What is admitted -/

/-- The arguments have been read and the session is the one that is asked for:
the server goes on to the function of the database, or logs out. -/
def Command.Admitted (session : Session) : Command → Prop
  | .empty | .unknown => False
  | .createAccount args => args.isSome
  | .login args => args.isSome
  | .adminLogin args => args.isSome
  | .logout => True
  | .balance | .miniStatement | .monthlySummary _ => session.isCustomer
  | .deposit amount | .withdraw amount => session.isCustomer ∧ amount.isSome
  | .transfer args => session.isCustomer ∧ args.isSome
  | .listAccounts | .adminDashboard => session.isAdmin
  | .viewAccountDetails accountNo | .viewAccountStatement accountNo | .lockAccount accountNo
  | .unlockAccount accountNo | .deleteAccount accountNo => session.isAdmin ∧ accountNo.isSome
  | .viewAccountSummary args => session.isAdmin ∧ args.isSome
  | .recentTransactions limit => session.isAdmin ∧ limit.isSome
  | .adminCredit args | .adminDebit args => session.isAdmin ∧ args.isSome
  | .editAccount args => session.isAdmin ∧ args.isSome
  | .changeAdminPassword newPassword => session.isAdmin ∧ newPassword.isSome

namespace Terminal

/-! ### The other side of the connection -/

/-- A request as the server took it. -/
structure Served where
  before : ServerState
  message : Message

def Served.response (fp : Rounding) (x : Served) : Response := (x.before.serve fp x.message).1

def Served.after (fp : Rounding) (x : Served) : ServerState := (x.before.serve fp x.message).2

/-- The session of the connection, whether the connection is lost, and the last
request that was answered. -/
structure Remote where
  session : Session
  lost : Bool
  last : Option Served

/-- What a request may meet: an answer over the sockets, from whatever the
database is by then, or a connection that is lost before or behind the server. -/
inductive Meets (fp : Rounding) (request : Bytes) (r : Remote) :
    Option (Bool × Bytes) → Remote → Prop where
  | answered {x : Served} {answer : Option (Bool × Bytes)} (hlost : r.lost = false)
      (hsession : x.before.session = r.session) (hsaved : x.before.store.saved = none)
      (hrequest : x.message.content = request)
      (hanswer : Obtains fp x.before x.message.env request answer) :
      Meets fp request r answer ⟨(x.after fp).session, false, some x⟩
  | lost {r' : Remote} (hlost : r'.lost = true) : Meets fp request r none r'

/-- The client is connected, in this session. -/
structure Remote.In (r : Remote) (session : Session) : Prop where
  connected : r.lost = false
  session : r.session = session

/-! ### What the client asks -/

/-- The requests the client makes: words, and what the flows ask for. -/
inductive Asked (fp : Rounding) : Bytes → Prop where
  | word {word : String} (h : word ∈ ["BALANCE", "MINI_STATEMENT", "LOGOUT", "LIST_ACCOUNTS",
      "ADMIN_DASHBOARD"]) : Asked fp (requestText word [])
  | flow {flow : Stdin ClientRequest} (h : flow ∈ clientFlows) {stdin rest : Bytes}
      {request : ClientRequest} (hrun : flow.run stdin = some (request, rest)) :
      Asked fp request.text
  | amount {flow : Stdin AmountRequest} (h : flow ∈ amountFlows fp) {stdin rest : Bytes}
      {request : AmountRequest} (hrun : flow.run stdin = some (request, rest)) :
      Asked fp request.text

/-! ### What the client says -/

/-- The word for an action that ends in a new balance. -/
def actionLabel : Action → Option String
  | .move .deposit .. => some "Deposit"
  | .move .withdraw .. => some "Withdrawal"
  | .move .adminCredit .. => some "Credit"
  | .move .adminDebit .. => some "Debit"
  | .transfer .. => some "Transfer"
  | _ => none

/-- The account whose new balance is shown. -/
def actionAccount : Action → Int
  | .move _ accountNo _ _ | .transfer accountNo _ _ _ => accountNo
  | _ => 0

/-- This is what is shown of the balance of the account. -/
def ShowsBalanceOf (t : Tables) (accountNo : Int) (text : Bytes) : Prop :=
  ∃ row, t.accounts.lookup accountNo = some row ∧ text = shownText row.balance

/-- The action of this name has been performed, and this is the balance it has
led to. -/
def Performed (fp : Rounding) (x : Served) (label : String) (text : Bytes) : Prop :=
  ∃ a, actionLabel a = some label ∧
    intended x.message.env x.before.session (requested fp x.message) = some a ∧
    a.Performs fp x.before.store.tables (x.after fp).store.tables ∧
    ShowsBalanceOf (x.after fp).store.tables (actionAccount a) text

/-- What is read of a payload that is answered OK. -/
def readable (payload : Bytes) : Bytes :=
  (payload.take (maxMessageSize - 4)).takeWhile (· ≠ 0)

/-- What is printed is true: of the session, or of the request that was just
answered. -/
def Truthful (fp : Rounding) (r : Remote) : Notice → Prop
  | .mainMenu => r.In Session.reset
  | .adminMenu => r.lost = false ∧ r.session.isAdmin = true
  | .customerMenu customerName accountNo =>
      r.lost = false ∧ r.session.isCustomer = true ∧ accountNo = r.session.customerAccountNo ∧
        customerName = readable r.session.customerName
  | .welcome name => r.session.isCustomer = true ∧ name = readable r.session.customerName
  | .balance text => ∃ x, r.last = some x ∧
      ShowsBalanceOf x.before.store.tables r.session.customerAccountNo text
  | .newBalance label text => ∃ x, r.last = some x ∧ Performed fp x label text
  | _ => True

/-- This is the mini statement of the account, if it is a text that fits a
message. -/
def StatementOf (t : Tables) (accountNo : Int) (text : Bytes) : Prop :=
  ∃ row, t.accounts.lookup accountNo = some row ∧
    ((statementText (row.info accountNo) (statementRows t accountNo)).length ≤ maxMessageSize - 4 →
      0 ∉ statementText (row.info accountNo) (statementRows t accountNo) →
      text = statementText (row.info accountNo) (statementRows t accountNo))

/-- The file is named after the account of the session, and holds its
statement. -/
def TruthfulFile (r : Remote) (filename content : Bytes) : Prop :=
  r.session.isCustomer = true ∧
    filename = ascii "mini_statement_" ++ formatInt r.session.customerAccountNo ++ ascii ".txt" ∧
    ∃ x text, r.last = some x ∧ content = text ++ [newline] ∧
      StatementOf x.before.store.tables r.session.customerAccountNo text

/-- What the client may do: ask what is admitted while it is connected, and say
and write what is true. -/
def Honest (fp : Rounding) : (β : Type) → ConsoleOp β → Desk Remote → Prop
  | _, .printf notice, d => Truthful fp d.remote notice
  | _, .readLine bufferSize, _ => 2 ≤ bufferSize
  | _, .feof, _ => True
  | _, .requestServer request, d =>
      d.remote.lost = false ∧ Asked fp request ∧
        (parseRequest fp request).Admitted d.remote.session
  | _, .writeFile filename content, d => TruthfulFile d.remote filename content

/-! ### Readers -/

section readers

variable {fp : Rounding} {α β : Type} {d : Desk Remote}

@[simp] theorem guarded_printf (notice : Notice) (d : Desk Remote) (post : Unit → Desk Remote → Prop) :
    Guarded (ConsoleAnswers (Meets fp)) (Honest fp) (printf notice) d post ↔
      Truthful fp d.remote notice ∧ post () d := by
  rw [printf, guarded_call]
  exact and_congr_right fun _ => ⟨fun h => h () d rfl, fun h _ d' hd => hd ▸ h⟩

theorem guarded_readLineStdin (prompt : String) {bufferSize : Nat} (hsize : 2 ≤ bufferSize)
    (d : Desk Remote) (post : Option Bytes → Desk Remote → Prop)
    (h : post (d.input.readLineStdin bufferSize).1 (d.lineRead bufferSize)) :
    Guarded (ConsoleAnswers (Meets fp)) (Honest fp) (readLineStdin prompt bufferSize) d post := by
  rw [readLineStdin, guarded_bind, guarded_printf, guarded_call]
  refine ⟨trivial, hsize, ?_⟩
  rintro _ _ ⟨rfl, rfl⟩
  exact h

/-- A reader of the client answers what the reader of a flow does, and gives up
where it does. -/
def Reads (fp : Rounding) (reader : Console (Option α)) (flow : Stdin α) : Prop :=
  ∀ (d : Desk Remote) (post : Option α → Desk Remote → Prop),
    (∀ a d', d'.remote = d.remote → flow.run d.input.rest = some (a, d'.input.rest) →
      post (some a) d') →
    (∀ d', d'.remote = d.remote → post none d') →
    Guarded (ConsoleAnswers (Meets fp)) (Honest fp) reader d post

/-- The reader goes on behind what has been read. -/
theorem run_bind_some {reader : Stdin α} {next : α → Stdin β} {stdin rest : Bytes} {a : α}
    (h : reader.run stdin = some (a, rest)) : (reader >>= next).run stdin = (next a).run rest := by
  rw [StateT.run_bind, h]
  rfl

theorem reads_readLineStdin (prompt : String) {bufferSize : Nat} (hsize : 2 ≤ bufferSize) :
    Reads fp (readLineStdin prompt bufferSize) (Model.readLineStdin bufferSize) := by
  intro d post hsome hnone
  apply guarded_readLineStdin prompt hsize
  have hread := d.input.readLineStdin_eq bufferSize
  cases hline : (d.input.readLineStdin bufferSize).1 with
  | none => exact hnone _ rfl
  | some line =>
      rw [hline] at hread
      exact hsome line _ rfl hread

theorem reads_readWith (prompt : String) {bufferSize : Nat} (hsize : 2 ≤ bufferSize)
    {read : Bytes → Option α} {flow : Stdin α}
    (hflow : ∀ stdin line rest a, (Model.readLineStdin bufferSize).run stdin = some (line, rest) →
      read line = some a → flow.run stdin = some (a, rest)) :
    Reads fp (readWith prompt bufferSize read) flow := by
  intro d post hsome hnone
  rw [readWith, guarded_bind]
  apply reads_readLineStdin prompt hsize
  · intro line d' hremote hline
    rw [guarded_pure, Option.bind_some]
    cases hread : read line with
    | none => exact hnone d' hremote
    | some a => exact hsome a d' hremote (hflow _ _ _ _ hline hread)
  · exact hnone

theorem reads_readIntStdin (prompt : String) : Reads fp (readIntStdin prompt) Model.readIntStdin := by
  apply reads_readWith prompt (by decide)
  intro stdin line rest n hline hread
  rw [Model.readIntStdin, run_bind_some hline, hread]
  rfl

theorem reads_readDoubleStdin (prompt : String) :
    Reads fp (readDoubleStdin fp prompt) (Model.readDoubleStdin fp) := by
  apply reads_readWith prompt (by decide)
  intro stdin line rest x hline hread
  rw [Model.readDoubleStdin, run_bind_some hline, hread]
  rfl

theorem reads_readRequiredTextStdin (prompt : String) {bufferSize : Nat} (hsize : 2 ≤ bufferSize) :
    Reads fp (readRequiredTextStdin prompt bufferSize) (Model.readRequiredTextStdin bufferSize) := by
  apply reads_readWith prompt hsize
  intro stdin line rest text hline hread
  simp only [requiredText] at hread
  split at hread
  · cases hread
  · rename_i hfilled
    cases hread
    rw [Model.readRequiredTextStdin, run_bind_some hline]
    simp [guard, hfilled]

theorem reads_readAccountNo (prompt : String) : Reads fp (readAccountNo prompt) Model.readAccountNo := by
  apply reads_readWith prompt (by decide)
  intro stdin line rest n hline hread
  rw [positiveInt, Option.bind_eq_bind, Option.bind_eq_some_iff] at hread
  obtain ⟨accountNo, hparse, hpositive⟩ := hread
  split at hpositive
  · rename_i hless
    cases hpositive
    have hint : Model.readIntStdin.run stdin = some (n, rest) := by
      rw [Model.readIntStdin, run_bind_some hline, hparse]
      rfl
    rw [Model.readAccountNo, run_bind_some hint]
    simp [guard, hless]
  · cases hpositive

/-- A test of what has been read. -/
theorem reads_pure {x : Option α} {flow : Stdin α}
    (hflow : ∀ stdin a, x = some a → flow.run stdin = some (a, stdin)) : Reads fp (pure x) flow := by
  intro d post hsome hnone
  rw [guarded_pure]
  cases hx : x with
  | none => exact hnone d rfl
  | some a => exact hsome a d rfl (hflow _ a hx)

/-- What is asked for is read, or there is a complaint. -/
theorem guarded_ask {reader : Console (Option α)} {flow : Stdin α} (hreads : Reads fp reader flow)
    {complaint : String} {otherwise : β} {next : α → Console β} {post : β → Desk Remote → Prop}
    (hotherwise : ∀ d', d'.remote = d.remote → post otherwise d')
    (hnext : ∀ a d', d'.remote = d.remote →
      flow.run d.input.rest = some (a, d'.input.rest) →
      Guarded (ConsoleAnswers (Meets fp)) (Honest fp) (next a) d' post) :
    Guarded (ConsoleAnswers (Meets fp)) (Honest fp) (ask reader complaint otherwise next) d
      post := by
  rw [ask, guarded_bind]
  apply hreads
  · exact hnext
  · intro d' hremote
    simp only [guarded_bind, guarded_printf, guarded_pure]
    exact ⟨trivial, hotherwise d' hremote⟩

/-- A menu that is true may be shown. -/
theorem guarded_choose {menu : Notice} (hmenu : Truthful fp d.remote menu) {atEnd : α}
    {branch : Int → Console (Option α)} {post : Option α → Desk Remote → Prop}
    (hend : ∀ d', post (some atEnd) d') (hagain : ∀ d', d'.remote = d.remote → post none d')
    (hbranch : ∀ choice d', d'.remote = d.remote →
      Guarded (ConsoleAnswers (Meets fp)) (Honest fp) (branch choice) d' post) :
    Guarded (ConsoleAnswers (Meets fp)) (Honest fp) (choose menu atEnd branch) d post := by
  simp only [choose, guarded_bind, guarded_printf]
  refine ⟨hmenu, ?_⟩
  apply reads_readIntStdin
  · exact fun choice d' hremote _ => hbranch choice d' hremote
  · intro d' hremote
    simp only [guarded_bind, guarded_call, guarded_ite, guarded_printf, guarded_pure]
    refine ⟨trivial, ?_⟩
    rintro seen _ ⟨-, rfl⟩
    exact ⟨fun _ => hend _, fun _ => ⟨trivial, hagain _ hremote⟩⟩

end readers

/-! ### Requests -/

/-- A request the client may make in the session `s`: what it says is read as
this command, which is admitted, and its text is one message. -/
structure Asks (fp : Rounding) (s : Session) (command : Command) (text : Bytes) : Prop where
  asked : Asked fp text
  admitted : command.Admitted s
  command : parseRequest fp text = command
  noNul : 0 ∉ text
  length : text.length < maxMessageSize

/-- How a request of a session is answered, and what is left of it. -/
structure Replied (fp : Rounding) (s : Session) (command : Command) (x : Served) (ok : Bool)
    (payload : Bytes) (r : Remote) : Prop where
  session : x.before.session = s
  saved : x.before.store.saved = none
  command : requested fp x.message = command
  status : ok = true ↔ (x.response fp).status = .ok
  payload : ok = true → payload = readable (x.response fp).payload
  remote : r = ⟨(x.after fp).session, false, some x⟩

section requests

variable {fp : Rounding} {s : Session} {command : Command} {text : Bytes} {x : Served} {ok : Bool}
  {payload : Bytes} {r : Remote} {d : Desk Remote}

theorem Replied.turn (h : Replied fp s command x ok payload r) :
    Turn fp x.message.env s x.before.store.tables command (x.response fp) (x.after fp).session
      (x.after fp).store.tables := by
  obtain ⟨-, hturn⟩ := serve_turn fp x.before x.message h.saved
  rwa [h.session, h.command] at hturn

/-- The client is told the status, and of a payload what can be read. -/
theorem readResponse_makeResponse (response : Response) :
    ∃ ok payload, readResponse maxMessageSize (makeResponse response) = some (ok, payload) ∧
      (ok = true ↔ response.status = .ok) ∧ (ok = true → payload = readable response.payload) := by
  obtain ⟨status, payload⟩ := response
  cases status with
  | ok =>
      have hread := @readResponse_status (ascii "OK") (by decide) (by decide) (by decide) payload
      exact ⟨true, _, hread, iff_of_true rfl rfl, fun _ => rfl⟩
  | err =>
      obtain ⟨text, hread⟩ := readResponse_err payload
      refine ⟨false, text, hread, ?_, ?_⟩
      · exact iff_of_false Bool.false_ne_true (fun hstatus => by cases hstatus)
      · exact fun hfalse => absurd hfalse Bool.false_ne_true

/-- A request that is admitted is answered, or the connection is lost. -/
theorem guarded_withAnswer {β : Type} (hin : d.remote.In s) (hasks : Asks fp s command text)
    {lost : β} {next : Bool → Bytes → Console β} {post : β → Desk Remote → Prop}
    (hlost : ∀ d', post lost d')
    (hnext : ∀ x ok payload d', Replied fp s command x ok payload d'.remote →
      Guarded (ConsoleAnswers (Meets fp)) (Honest fp) (next ok payload) d' post) :
    Guarded (ConsoleAnswers (Meets fp)) (Honest fp) (withAnswer text lost next) d post := by
  rw [withAnswer, guarded_bind, guarded_call]
  refine ⟨⟨hin.connected, hasks.asked, ?_⟩, ?_⟩
  · rw [hasks.command, hin.session]
    exact hasks.admitted
  · rintro answer _ ⟨remote, hmeets, rfl⟩
    cases hmeets with
    | lost hlostNow => exact hlost _
    | @answered x _ _ hsession hsaved hrequest hanswer =>
        obtain ⟨ok, payload, hread, hstatus, hpayload⟩ :=
          readResponse_makeResponse (x.response fp)
        have hobtained := (obtains_iff hasks.noNul hasks.length).mp hanswer
        have hserved : x.before.serve fp ⟨text, x.message.env⟩ = x.before.serve fp x.message := by
          rw [← hrequest]
        rw [hserved] at hobtained
        rw [hobtained.trans hread]
        refine hnext x ok payload _ ⟨hsession.trans hin.session, hsaved, ?_, hstatus, hpayload, rfl⟩
        rw [requested, hrequest, takeWhile_of_not_mem hasks.noNul, hasks.command]

/-- A command that leaves the session alone. -/
def Ordinary : Command → Prop
  | .login _ | .adminLogin _ | .logout => False
  | _ => True

theorem turn_ordinary {env : Environment} {s' : Session} {t t' : Tables} {response : Response}
    (hturn : Turn fp env s t command response s' t') (hordinary : Ordinary command) : s' = s := by
  cases hturn with
  | refused | reported | performed => rfl
  | loggedIn | counted | adminLoggedIn | loggedOut => exact hordinary.elim

theorem Replied.stays (h : Replied fp s command x ok payload r) (hordinary : Ordinary command) :
    r.In s := by
  rw [h.remote]
  exact ⟨rfl, turn_ordinary h.turn hordinary⟩

/-- A flow goes on in the session, or the connection is lost. -/
def StaysIn (s : Session) (again : Bool) (d : Desk Remote) : Prop := again = true → d.remote.In s

theorem requestAndPrint_guarded (hin : d.remote.In s) (hasks : Asks fp s command text) :
    Guarded (ConsoleAnswers (Meets fp)) (Honest fp) (requestAndPrint text) d fun again d' =>
      again = true → ∃ x ok payload, Replied fp s command x ok payload d'.remote := by
  apply guarded_withAnswer hin hasks
  · intro d' hfalse
    cases hfalse
  · intro x ok payload d' hreplied
    simp only [guarded_bind, guarded_printf, guarded_pure]
    exact ⟨trivial, fun _ => ⟨x, ok, payload, hreplied⟩⟩

theorem requestAndPrint_stays (hin : d.remote.In s) (hasks : Asks fp s command text)
    (hordinary : Ordinary command) :
    Guarded (ConsoleAnswers (Meets fp)) (Honest fp) (requestAndPrint text) d (StaysIn s) := by
  apply (requestAndPrint_guarded hin hasks).mono
  intro again d' hreplied hagain
  obtain ⟨x, ok, payload, hreplied⟩ := hreplied hagain
  exact hreplied.stays hordinary

/-! ### What is asked for -/

/-- A word on its own. -/
theorem asks_word {word : String} (hmem : word ∈ ["BALANCE", "MINI_STATEMENT", "LOGOUT",
    "LIST_ACCOUNTS", "ADMIN_DASHBOARD"])
    (hread : ∀ text, splitLines text 10 = [ascii word] → parseRequest fp text = command)
    (hadmitted : command.Admitted s) : Asks fp s command (requestText word []) := by
  have hline : Line 64 (ascii word) := by
    simp only [List.mem_cons, List.not_mem_nil, or_false] at hmem
    rcases hmem with rfl | rfl | rfl | rfl | rfl <;> decide
  have hsent := requestText_sent (le_refl 512) hline (List.forall_mem_nil _) (Nat.zero_le 4)
  exact ⟨.word hmem, hadmitted, hread _ hsent.lines, hsent.noNul, hsent.length⟩

/-- What a flow asks for. -/
theorem asks_flow {flow : Stdin ClientRequest} (hflow : flow ∈ clientFlows) {stdin rest : Bytes}
    {request : ClientRequest} (hrun : flow.run stdin = some (request, rest))
    (hadmitted : request.command.Admitted s) : Asks fp s request.command request.text := by
  have htyped := clientFlows_typed hflow hrun
  exact ⟨.flow hflow hrun, hadmitted, htyped.parseRequest fp, htyped.sent.noNul,
    htyped.sent.length⟩

/-- Rounding decides what an amount is, not whether it is one. -/
theorem exists_parseDouble (fp : Rounding) (amount : Double) :
    ∃ y, parseDouble fp (formatAmount amount) = some y := by
  obtain ⟨y, hread, -⟩ := parseDouble_formatAmount_nearest amount
  generalize formatAmount amount = text at hread
  simp only [parseDouble, strtod] at hread ⊢
  generalize (readSign (text.dropWhile isspace)).2 = body at hread ⊢
  generalize (readInfinity body <|> readNaN body <|> readHex body <|> readDecimal body) = scanned
    at hread ⊢
  cases scanned with
  | none => cases hread
  | some number =>
      obtain ⟨magnitude, rest⟩ := number
      simp only [Option.map_some] at hread ⊢
      split at hread
      · cases hread
      · rename_i hrest
        rw [if_neg hrest]
        exact ⟨_, rfl⟩

/-- What a flow with an amount asks for. -/
theorem asks_amount (hprint : ∀ q, Printable (fp.round q)) {flow : Stdin AmountRequest}
    (hflow : flow ∈ amountFlows fp) {stdin rest : Bytes} {request : AmountRequest}
    (hrun : flow.run stdin = some (request, rest))
    (hadmitted : ∀ y, (request.command y).Admitted s) :
    ∃ y, Asks fp s (request.command y) request.text := by
  obtain ⟨hnumber, line, -, hparse⟩ := amountFlows_typed hflow hrun
  have hprintable := printable_parseDouble hprint hparse
  have hsent := amountRequest_sent hnumber hprintable
  obtain ⟨y, hread⟩ := exists_parseDouble fp request.amount
  exact ⟨y, .amount hflow hrun, hadmitted y, parseRequest_amount hnumber hprintable hread,
    hsent.noNul, hsent.length⟩

end requests

end Terminal

end AtmSystem.Model
