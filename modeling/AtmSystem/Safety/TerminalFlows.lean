import AtmSystem.Safety.Remote

/-!
The client keeps its promise. A flow leaves the session as it found it, a menu
goes on in its session until it logs out, and a login opens the session of the
menu behind it; a menu is left without a session or without a connection.
-/

namespace AtmSystem.Model

open Library Program Bank

namespace Terminal

/-! ### Results -/

section results

variable {fp : Rounding} {s : Session} {command : Command} {x : Served} {payload : Bytes}
  {r : Remote}

theorem readable_of_short {text : Bytes} (hlength : text.length ≤ maxMessageSize - 4)
    (hnul : 0 ∉ text) : readable text = text := by
  rw [readable, List.take_of_length_le hlength, takeWhile_of_not_mem hnul]

theorem readable_shownText (balance : Double) : readable (shownText balance) = shownText balance := by
  apply readable_of_short
  · have hcut : (shownText balance).length ≤ 63 := List.length_take_le _ _
    have hsize : maxMessageSize = 32768 := rfl
    omega
  · exact fun hmem => formatAmount_noNul balance (List.mem_of_mem_take hmem)

/-- The commands that a new balance is shown for. -/
def commandLabel : Command → Option String
  | .deposit _ => some "Deposit"
  | .withdraw _ => some "Withdrawal"
  | .adminCredit _ => some "Credit"
  | .adminDebit _ => some "Debit"
  | .transfer _ => some "Transfer"
  | _ => none

/-- The server says OK to an action that it has performed. -/
theorem performed_of_turn {env : Environment} {s' : Session} {t t' : Tables} {text : Bytes}
    (hturn : Turn fp env s t command ⟨.ok, text⟩ s' t') {label : String}
    (hlabel : commandLabel command = some label) :
    ∃ a, actionLabel a = some label ∧ intended env s command = some a ∧ a.Performs fp t t' ∧
      ShowsBalanceOf t' (actionAccount a) text := by
  have hshown {accountNo : Int} (hmoved : movedAccount s command = some accountNo) :
      ShowsBalanceOf t' accountNo text := receipt_shown hturn hmoved
  cases hturn with
  | reported hread => cases command <;> first | exact hread.elim | cases hlabel
  | loggedIn | adminLoggedIn | loggedOut => cases hlabel
  | performed hintended hperforms =>
      cases asks_of_intended hintended with
      | deposit | withdraw | adminCredit | adminDebit | transfer =>
          cases hlabel
          exact ⟨_, rfl, hintended, hperforms, hshown rfl⟩
      | _ => cases hlabel

theorem Replied.performed (h : Replied fp s command x true payload r) {label : String}
    (hlabel : commandLabel command = some label) : Performed fp x label payload := by
  have hturn := h.turn
  have hok : x.response fp = ⟨.ok, (x.response fp).payload⟩ := by rw [← h.status.mp rfl]
  rw [hok] at hturn
  obtain ⟨a, haction, hintended, hperforms, row, hrow, hpayload⟩ := performed_of_turn hturn hlabel
  refine ⟨a, haction, ?_, hperforms, row, hrow, ?_⟩
  · rwa [h.session, h.command]
  · rw [h.payload rfl, hpayload, readable_shownText]

/-- What a branch answers OK, as the server sends it. -/
theorem Replied.answered (h : Replied fp s command x true payload r) {good : Bytes → Prop}
    (hgood : Always (SqlAnswers fp x.message.env.Faulty) (handleCommand fp x.message.env s command)
      ⟨x.before.store.tables, none⟩ fun outcome _ => outcome.2.status = .ok →
        good outcome.2.payload) :
    good (x.response fp).payload := by
  have hended := exec_of_always fp x.message.env _ _ hgood
  have hstore : x.before.store = ⟨x.before.store.tables, none⟩ := by rw [← h.saved]
  have hok := h.status.mp rfl
  rw [Served.response, ServerState.serve, handleRequest] at hok ⊢
  have hcommand := h.command
  rw [requested] at hcommand
  simp only [hcommand, h.session] at hok ⊢
  rw [hstore] at hok ⊢
  exact hended hok

/-- What is answered OK is what the function has answered. -/
theorem always_asCustomer {faulty : Prop} {α : Type} {branch : Int → Db α}
    {reply : α → Option Bytes} {good : Bytes → Prop} {store : Store}
    (hcustomer : s.isCustomer = true)
    (hbranch : Always (SqlAnswers fp faulty) (branch s.customerAccountNo) store fun a _ =>
      ∀ text, reply a = some text → good text) :
    Always (SqlAnswers fp faulty)
      (asCustomer s fun accountNo => do answer (reply (← branch accountNo))) store
      fun outcome _ => outcome.2.status = .ok → good outcome.2.payload := by
  simp only [asCustomer, hcustomer, if_true, always_bind]
  apply hbranch.mono
  intro a store' hgood
  cases htext : reply a with
  | some text => exact fun _ => hgood text htext
  | none =>
      simp only [answer, always_bind, always_readError, always_pure]
      intro text hok
      cases hok

/-- A balance that is answered is that of the account. -/
theorem Replied.balance (h : Replied fp s .balance x true payload r)
    (hcustomer : s.isCustomer = true) :
    ShowsBalanceOf x.before.store.tables s.customerAccountNo payload := by
  have hbranch (env : Environment) : handleCommand fp env s .balance = asCustomer s fun accountNo =>
      dbGetBalance accountNo >>= fun balance => answer (balance.map shownText) := rfl
  have hanswered : ShowsBalanceOf x.before.store.tables s.customerAccountNo
      (x.response fp).payload := by
    apply h.answered
    rw [hbranch]
    apply always_asCustomer hcustomer
    rw [dbGetBalance, always_bind, always_dbReadAccount]
    constructor
    · intro _ text hnone
      cases hnone
    · cases hrow : x.before.store.tables.accounts.lookup s.customerAccountNo with
      | none =>
          simp only [always_bind, always_setError, always_pure]
          intro text hnone
          cases hnone
      | some row =>
          intro text hsome
          cases hsome
          exact ⟨row, hrow, rfl⟩
  obtain ⟨row, hrow, hpayload⟩ := hanswered
  exact ⟨row, hrow, by rw [h.payload rfl, hpayload, readable_shownText]⟩

/-- A statement that is answered is that of the account. -/
theorem Replied.statement (h : Replied fp s .miniStatement x true payload r)
    (hcustomer : s.isCustomer = true) :
    StatementOf x.before.store.tables s.customerAccountNo payload := by
  have hbranch (env : Environment) : handleCommand fp env s .miniStatement =
      asCustomer s fun accountNo =>
        dbBuildMiniStatement accountNo >>= fun statement => answer (id statement) := rfl
  have hsize : maxMessageSize = 32768 := rfl
  have hanswered : StatementOf x.before.store.tables s.customerAccountNo
      (x.response fp).payload := by
    apply h.answered
    rw [hbranch]
    apply always_asCustomer hcustomer
    cases hrow : x.before.store.tables.accounts.lookup s.customerAccountNo with
    | none =>
        rw [dbBuildMiniStatement, always_bind, always_dbReadAccount, hrow]
        constructor
        · intro _ text hnone
          cases hnone
        · simp only [always_bind, always_setError, always_pure]
          intro text hnone
          cases hnone
    | some row =>
        apply (dbBuildMiniStatement_prints hrow).mono
        intro answered store hprints sent hsent
        exact ⟨row, hrow, fun hlength _ => hprints.correct (by omega) sent hsent⟩
  obtain ⟨row, hrow, hpayload⟩ := hanswered
  refine ⟨row, hrow, fun hlength hnul => ?_⟩
  rw [h.payload rfl, hpayload hlength hnul, readable_of_short hlength hnul]

end results

/-! ### Flows -/

section flows

variable {fp : Rounding} {s : Session} {d : Desk Remote}

/-- A flow that gives up leaves the session as it is. -/
theorem gives_up (hin : d.remote.In s) (d' : Desk Remote) (hremote : d'.remote = d.remote) :
    StaysIn s true d' := fun _ => hremote ▸ hin

theorem createAccountFlow_stays (hin : d.remote.In s) :
    Guarded (ConsoleAnswers (Meets fp)) (Honest fp) createAccountFlow d (StaysIn s) := by
  apply guarded_ask (reads_readAccountNo _) (gives_up hin)
  intro accountNo d₁ h₁ hread₁
  rw [← h₁] at hin
  apply guarded_ask (reads_readRequiredTextStdin _ (by decide)) (gives_up hin)
  intro name d₂ h₂ hread₂
  rw [← h₂] at hin
  apply guarded_ask (reads_readIntStdin _) (gives_up hin)
  intro pin d₃ h₃ hread₃
  rw [← h₃] at hin
  have hrun : Model.createAccountFlow.run d.input.rest =
      some (.createAccount accountNo name pin, d₃.input.rest) := by
    rw [Model.createAccountFlow, run_bind_some hread₁, run_bind_some hread₂, run_bind_some hread₃]
    rfl
  exact requestAndPrint_stays hin (asks_flow (by simp [clientFlows]) hrun rfl) trivial

section admin

variable (hadmin : s.isAdmin = true)

include hadmin

omit hadmin in
theorem adminRequestForAccount_stays (hin : d.remote.In s) (request : Int → ClientRequest)
    (hflow : Model.adminRequestForAccount request ∈ clientFlows)
    (hadmitted : ∀ n, (request n).command.Admitted s) (hordinary : ∀ n, Ordinary (request n).command)
    (prompt : String) :
    Guarded (ConsoleAnswers (Meets fp)) (Honest fp) (adminRequestForAccount request prompt) d
      (StaysIn s) := by
  apply guarded_ask (reads_readAccountNo _) (gives_up hin)
  intro accountNo d₁ h₁ hread₁
  rw [← h₁] at hin
  have hrun : (Model.adminRequestForAccount request).run d.input.rest =
      some (request accountNo, d₁.input.rest) := by
    rw [Model.adminRequestForAccount, run_bind_some hread₁]
    rfl
  exact requestAndPrint_stays hin (asks_flow hflow hrun (hadmitted accountNo)) (hordinary accountNo)

theorem adminViewAccountSummaryFlow_stays (hin : d.remote.In s) :
    Guarded (ConsoleAnswers (Meets fp)) (Honest fp) adminViewAccountSummaryFlow d (StaysIn s) := by
  apply guarded_ask (reads_readAccountNo _) (gives_up hin)
  intro accountNo d₁ h₁ hread₁
  rw [← h₁] at hin
  apply guarded_ask (reads_readLineStdin _ (by decide)) (gives_up hin)
  intro month d₂ h₂ hread₂
  rw [← h₂] at hin
  have hrun : Model.adminViewAccountSummaryFlow.run d.input.rest =
      some (.viewAccountSummary accountNo month, d₂.input.rest) := by
    rw [Model.adminViewAccountSummaryFlow, run_bind_some hread₁, run_bind_some hread₂]
    rfl
  exact requestAndPrint_stays hin (asks_flow (by simp [clientFlows]) hrun ⟨hadmin, rfl⟩) trivial

theorem adminEditAccountFlow_stays (hin : d.remote.In s) :
    Guarded (ConsoleAnswers (Meets fp)) (Honest fp) adminEditAccountFlow d (StaysIn s) := by
  apply guarded_ask (reads_readAccountNo _) (gives_up hin)
  intro currentAccountNo d₁ h₁ hread₁
  rw [← h₁] at hin
  apply guarded_ask (reads_readAccountNo _) (gives_up hin)
  intro newAccountNo d₂ h₂ hread₂
  rw [← h₂] at hin
  apply guarded_ask (reads_readRequiredTextStdin _ (by decide)) (gives_up hin)
  intro newName d₃ h₃ hread₃
  rw [← h₃] at hin
  apply guarded_ask (reads_readIntStdin _) (gives_up hin)
  intro newPin d₄ h₄ hread₄
  rw [← h₄] at hin
  have hrun : Model.adminEditAccountFlow.run d.input.rest =
      some (.editAccount currentAccountNo newAccountNo newName newPin, d₄.input.rest) := by
    rw [Model.adminEditAccountFlow, run_bind_some hread₁, run_bind_some hread₂,
      run_bind_some hread₃, run_bind_some hread₄]
    rfl
  exact requestAndPrint_stays hin (asks_flow (by simp [clientFlows]) hrun ⟨hadmin, rfl⟩) trivial

theorem adminDeleteAccountFlow_stays (hin : d.remote.In s) :
    Guarded (ConsoleAnswers (Meets fp)) (Honest fp) adminDeleteAccountFlow d (StaysIn s) := by
  apply guarded_ask (reads_readAccountNo _) (gives_up hin)
  intro accountNo d₁ h₁ hread₁
  rw [← h₁] at hin
  have hreads : Reads fp (readWith "Type DELETE to confirm: " 16 confirmed) (do
      let confirm ← Model.readLineStdin 16
      guard (confirm = ascii "DELETE")) := by
    apply reads_readWith _ (by decide)
    intro stdin line rest typed hline hread
    rw [confirmed] at hread
    split at hread
    · rename_i hsame
      rw [run_bind_some hline]
      simp [guard, hsame]
    · cases hread
  apply guarded_ask hreads (gives_up hin)
  intro typed d₂ h₂ hread₂
  rw [← h₂] at hin
  have hrun : Model.adminDeleteAccountFlow.run d.input.rest =
      some (.deleteAccount accountNo, d₂.input.rest) := by
    rw [Model.adminDeleteAccountFlow, run_bind_some hread₁, ← bind_assoc, run_bind_some hread₂]
    rfl
  exact requestAndPrint_stays hin (asks_flow (by simp [clientFlows]) hrun ⟨hadmin, rfl⟩) trivial

theorem adminRecentTransactionsFlow_stays (hin : d.remote.In s) :
    Guarded (ConsoleAnswers (Meets fp)) (Honest fp) adminRecentTransactionsFlow d (StaysIn s) := by
  apply guarded_ask (reads_readLineStdin _ (by decide)) (gives_up hin)
  intro limitText d₁ h₁ hread₁
  rw [← h₁] at hin
  have hreads : Reads fp (pure (limitOf limitText)) (StateT.lift (limitOf limitText)) := by
    apply reads_pure
    intro stdin limit hlimit
    rw [StateT.run_lift, hlimit]
    rfl
  apply guarded_ask hreads (gives_up hin)
  intro limit d₂ h₂ hread₂
  rw [← h₂] at hin
  have hrun : Model.adminRecentTransactionsFlow.run d.input.rest =
      some (.recentTransactions limit, d₂.input.rest) := by
    rw [Model.adminRecentTransactionsFlow, run_bind_some hread₁]
    rw [limitOf] at hread₂
    rw [run_bind_some hread₂]
    rfl
  exact requestAndPrint_stays hin (asks_flow (by simp [clientFlows]) hrun ⟨hadmin, rfl⟩) trivial

theorem adminChangePasswordFlow_stays (hin : d.remote.In s) :
    Guarded (ConsoleAnswers (Meets fp)) (Honest fp) adminChangePasswordFlow d (StaysIn s) := by
  apply guarded_ask (reads_readRequiredTextStdin _ (by decide)) (gives_up hin)
  intro newPassword d₁ h₁ hread₁
  rw [← h₁] at hin
  apply guarded_ask (reads_readRequiredTextStdin _ (by decide)) (gives_up hin)
  intro confirmPassword d₂ h₂ hread₂
  rw [← h₂] at hin
  have hreads : Reads fp (pure (if newPassword = confirmPassword then some () else none))
      (guard (newPassword = confirmPassword)) := by
    apply reads_pure
    intro stdin done htested
    split at htested
    · rename_i hsame
      simp [guard, hsame]
    · cases htested
  apply guarded_ask hreads (gives_up hin)
  intro done d₃ h₃ hread₃
  rw [← h₃] at hin
  have hrun : Model.adminChangePasswordFlow.run d.input.rest =
      some (.changeAdminPassword newPassword, d₃.input.rest) := by
    rw [Model.adminChangePasswordFlow, run_bind_some hread₁, run_bind_some hread₂,
      run_bind_some hread₃]
    rfl
  exact requestAndPrint_stays hin (asks_flow (by simp [clientFlows]) hrun ⟨hadmin, rfl⟩) trivial

end admin

end flows

/-! ### Menus -/

section menus

variable {fp : Rounding} {s : Session} {command : Command} {text : Bytes} {d : Desk Remote}

/-- A turn of a menu goes on in its session, or leaves the session reset. -/
abbrev KeepsMenu (s : Session) : Option Bool → Desk Remote → Prop :=
  Restored (fun d' => d'.remote.In s) (StaysIn Session.reset)

theorem keepsMenu_lost (d : Desk Remote) : KeepsMenu s (some false) d := by
  apply Restored.leaves
  intro hagain
  cases hagain

theorem unlessLost_keeps {flow : Console Bool}
    (h : Guarded (ConsoleAnswers (Meets fp)) (Honest fp) flow d (StaysIn s)) :
    Guarded (ConsoleAnswers (Meets fp)) (Honest fp) (unlessLost flow) d (KeepsMenu s) := by
  rw [unlessLost, guarded_bind]
  apply h.mono
  intro again d' hstays
  rw [guarded_pure]
  cases again with
  | true => exact .goesOn (hstays rfl)
  | false => exact keepsMenu_lost d'

theorem requestAndShow_keeps (hin : d.remote.In s) (hasks : Asks fp s command text)
    (hordinary : Ordinary command) {success : Bytes → Notice}
    (htrue : ∀ x payload r, Replied fp s command x true payload r →
      Truthful fp r (success payload)) :
    Guarded (ConsoleAnswers (Meets fp)) (Honest fp) (requestAndShow text success) d
      (KeepsMenu s) := by
  apply guarded_withAnswer hin hasks keepsMenu_lost
  intro x ok payload d' hreplied
  rw [guarded_bind, guarded_printf, guarded_pure]
  refine ⟨?_, .goesOn (hreplied.stays hordinary)⟩
  cases ok with
  | true => exact htrue x payload _ hreplied
  | false => trivial

/-- A new balance is shown for what has been performed. -/
theorem newBalance_truthful {label : String} (hlabel : commandLabel command = some label)
    (x : Served) (payload : Bytes) (r : Remote) (h : Replied fp s command x true payload r) :
    Truthful fp r (.newBalance label payload) := by
  refine ⟨x, ?_, h.performed hlabel⟩
  rw [h.remote]

theorem balance_truthful (hcustomer : s.isCustomer = true) (x : Served) (payload : Bytes)
    (r : Remote) (h : Replied fp s .balance x true payload r) :
    Truthful fp r (.balance payload) := by
  have hbalance := h.balance hcustomer
  rw [← (h.stays trivial).session] at hbalance
  refine ⟨x, ?_, hbalance⟩
  rw [h.remote]

/-- A logout is never refused. -/
theorem Replied.loggedOut {x : Served} {ok : Bool} {payload : Bytes} {r : Remote}
    (h : Replied fp s .logout x ok payload r) : r.In Session.reset := by
  have hcommand := h.command
  rw [requested] at hcommand
  rw [h.remote]
  refine ⟨rfl, ?_⟩
  simp only [Served.after, ServerState.serve, handleRequest, hcommand, handleCommand]
  rfl

theorem logout_keeps (hin : d.remote.In s) :
    Guarded (ConsoleAnswers (Meets fp)) (Honest fp)
      (do return some (← requestAndPrint (requestText "LOGOUT" []))) d (KeepsMenu s) := by
  have hasks : Asks fp s .logout (requestText "LOGOUT" []) := by
    apply asks_word (by simp) _ (show Command.logout.Admitted s from trivial)
    intro text hlines
    rw [parseRequest, hlines]
    rfl
  rw [guarded_bind]
  apply (requestAndPrint_guarded hin hasks).mono
  intro again d' hreplied
  rw [guarded_pure]
  apply Restored.leaves
  intro hagain
  obtain ⟨x, ok, payload, hreplied⟩ := hreplied hagain
  exact hreplied.loggedOut

theorem printMiniStatement_keeps (hin : d.remote.In s) (hcustomer : s.isCustomer = true)
    (hint : IsInt s.customerAccountNo) :
    Guarded (ConsoleAnswers (Meets fp)) (Honest fp) (printMiniStatement s.customerAccountNo) d
      (KeepsMenu s) := by
  have hasks : Asks fp s .miniStatement (requestText "MINI_STATEMENT" []) := by
    apply asks_word (by simp) _ (show Command.miniStatement.Admitted s from hcustomer)
    intro text hlines
    rw [parseRequest, hlines]
    rfl
  apply guarded_withAnswer hin hasks keepsMenu_lost
  intro x ok payload d' hreplied
  have hin' := hreplied.stays trivial
  rw [guarded_bind, guarded_printf]
  refine ⟨trivial, ?_⟩
  cases ok with
  | false =>
      simp only [Bool.not_false, if_true, guarded_pure]
      exact .goesOn hin'
  | true =>
      simp only [Bool.not_true, Bool.false_eq_true, if_false, guarded_bind, guarded_call,
        guarded_ite, guarded_printf, guarded_pure]
      refine ⟨?_, ?_⟩
      · have hfilename : snprintf 64 (ascii "mini_statement_" ++ formatInt s.customerAccountNo ++
            ascii ".txt") =
            ascii "mini_statement_" ++ formatInt s.customerAccountNo ++ ascii ".txt" := by
          have hnumber := formatInt_length hint.1 hint.2
          have hfirst : (ascii "mini_statement_").length = 15 := rfl
          have hlast : (ascii ".txt").length = 4 := rfl
          apply List.take_of_length_le
          simp only [List.length_append]
          omega
        have hstatement := hreplied.statement hcustomer
        rw [← hin'.session] at hcustomer hstatement hfilename ⊢
        refine ⟨hcustomer, hfilename, x, payload, ?_, rfl, hstatement⟩
        rw [hreplied.remote]
      · rintro opened _ rfl
        exact ⟨fun _ => ⟨trivial, .goesOn hin'⟩, fun _ => ⟨trivial, .goesOn hin'⟩⟩

theorem adminAdjustAccountFlow_stays (hprint : ∀ q, Printable (fp.round q))
    (hin : d.remote.In s) (request : Int → Double → AmountRequest)
    (hflow : Model.adminAdjustAccountFlow fp request ∈ amountFlows fp)
    (hadmitted : ∀ n amount y, ((request n amount).command y).Admitted s) {label : String}
    (hlabel : ∀ n amount y, commandLabel ((request n amount).command y) = some label) :
    Guarded (ConsoleAnswers (Meets fp)) (Honest fp) (adminAdjustAccountFlow fp request label) d
      (StaysIn s) := by
  apply guarded_ask (reads_readAccountNo _) (gives_up hin)
  intro accountNo d₁ h₁ hread₁
  rw [← h₁] at hin
  apply guarded_ask (reads_readDoubleStdin _) (gives_up hin)
  intro amount d₂ h₂ hread₂
  rw [← h₂] at hin
  have hrun : (Model.adminAdjustAccountFlow fp request).run d.input.rest =
      some (request accountNo amount, d₂.input.rest) := by
    rw [Model.adminAdjustAccountFlow, run_bind_some hread₁, run_bind_some hread₂]
    rfl
  obtain ⟨y, hasks⟩ := asks_amount hprint hflow hrun (hadmitted accountNo amount)
  have hordinary : Ordinary ((request accountNo amount).command y) := by
    cases request accountNo amount <;> trivial
  apply guarded_withAnswer hin hasks
  · intro d' hfalse
    cases hfalse
  · intro x ok payload d' hreplied
    have hstays : StaysIn s true d' := fun _ => hreplied.stays hordinary
    cases ok with
    | true =>
        simp only [if_true, guarded_bind, guarded_printf, guarded_pure]
        exact ⟨newBalance_truthful (hlabel accountNo amount y) x payload _ hreplied, hstays⟩
    | false =>
        simp only [Bool.false_eq_true, if_false, guarded_bind, guarded_printf, guarded_pure]
        exact ⟨trivial, hstays⟩

theorem invalidOption_keeps (hin : d.remote.In s) :
    Guarded (ConsoleAnswers (Meets fp)) (Honest fp) invalidOption d (KeepsMenu s) := by
  simp only [invalidOption, guarded_bind, guarded_printf, guarded_pure]
  exact ⟨trivial, .goesOn hin⟩

/-- A choice of the customer menu that asks for an amount. -/
theorem amount_keeps (hprint : ∀ q, Printable (fp.round q)) (hin : d.remote.In s)
    {flow : Stdin AmountRequest} (hflow : flow ∈ amountFlows fp) {stdin rest : Bytes}
    {request : AmountRequest} (hrun : flow.run stdin = some (request, rest))
    (hadmitted : ∀ y, (request.command y).Admitted s) {label : String}
    (hlabel : ∀ y, commandLabel (request.command y) = some label) :
    Guarded (ConsoleAnswers (Meets fp)) (Honest fp)
      (requestAndShow request.text (.newBalance label)) d (KeepsMenu s) := by
  obtain ⟨y, hasks⟩ := asks_amount hprint hflow hrun hadmitted
  apply requestAndShow_keeps hin hasks _ (newBalance_truthful (hlabel y))
  cases request <;> trivial

theorem gives_up_menu (hin : d.remote.In s) (d' : Desk Remote) (hremote : d'.remote = d.remote) :
    KeepsMenu s none d' := .goesOn (hremote ▸ hin)

theorem customerMenu_turn (hprint : ∀ q, Printable (fp.round q)) (hcustomer : s.isCustomer = true)
    (hint : IsInt s.customerAccountNo) (hin : d.remote.In s) :
    Guarded (ConsoleAnswers (Meets fp)) (Honest fp)
      (customerMenu.turn fp s.customerAccountNo (readable s.customerName)) d (KeepsMenu s) := by
  have hmenu : Truthful fp d.remote
      (.customerMenu (readable s.customerName) s.customerAccountNo) := by
    rw [Truthful, hin.session]
    exact ⟨hin.connected, hcustomer, rfl, rfl⟩
  apply guarded_choose hmenu keepsMenu_lost (gives_up_menu hin)
  intro choice d₁ h₁
  rw [← h₁] at hin
  apply Guarded.ite
  · have hasks : Asks fp s .balance (requestText "BALANCE" []) := by
      apply asks_word (by simp) _ (show Command.balance.Admitted s from hcustomer)
      intro text hlines
      rw [parseRequest, hlines]
      rfl
    exact requestAndShow_keeps hin hasks trivial (balance_truthful hcustomer)
  apply Guarded.ite
  · apply guarded_ask (reads_readDoubleStdin _) (gives_up_menu hin)
    intro amount d₂ h₂ hread₂
    rw [← h₂] at hin
    have hrun : (depositFlow fp).run d₁.input.rest = some (.deposit amount, d₂.input.rest) := by
      rw [depositFlow, run_bind_some hread₂]
      rfl
    exact amount_keeps hprint hin (by simp [amountFlows]) hrun (fun _ => ⟨hcustomer, rfl⟩)
      fun _ => rfl
  apply Guarded.ite
  · apply guarded_ask (reads_readDoubleStdin _) (gives_up_menu hin)
    intro amount d₂ h₂ hread₂
    rw [← h₂] at hin
    have hrun : (withdrawFlow fp).run d₁.input.rest = some (.withdraw amount, d₂.input.rest) := by
      rw [withdrawFlow, run_bind_some hread₂]
      rfl
    exact amount_keeps hprint hin (by simp [amountFlows]) hrun (fun _ => ⟨hcustomer, rfl⟩)
      fun _ => rfl
  apply Guarded.ite
  · apply guarded_ask (reads_readAccountNo _) (gives_up_menu hin)
    intro receiverAccount d₂ h₂ hread₂
    rw [← h₂] at hin
    apply guarded_ask (reads_readDoubleStdin _) (gives_up_menu hin)
    intro amount d₃ h₃ hread₃
    rw [← h₃] at hin
    have hrun : (transferFlow fp).run d₁.input.rest =
        some (.transfer receiverAccount amount, d₃.input.rest) := by
      rw [transferFlow, run_bind_some hread₂, run_bind_some hread₃]
      rfl
    exact amount_keeps hprint hin (by simp [amountFlows]) hrun (fun _ => ⟨hcustomer, rfl⟩)
      fun _ => rfl
  apply Guarded.ite
  · apply guarded_ask (reads_readLineStdin _ (by decide)) (gives_up_menu hin)
    intro month d₂ h₂ hread₂
    rw [← h₂] at hin
    have hrun : monthlySummaryFlow.run d₁.input.rest =
        some (.monthlySummary month, d₂.input.rest) := by
      rw [monthlySummaryFlow, run_bind_some hread₂]
      rfl
    exact unlessLost_keeps (requestAndPrint_stays hin
      (asks_flow (by simp [clientFlows]) hrun hcustomer) trivial)
  apply Guarded.ite
  · exact printMiniStatement_keeps hin hcustomer hint
  apply Guarded.ite
  · exact logout_keeps hin
  · exact invalidOption_keeps hin

theorem adminMenu_turn (hprint : ∀ q, Printable (fp.round q)) (hadmin : s.isAdmin = true)
    (hin : d.remote.In s) :
    Guarded (ConsoleAnswers (Meets fp)) (Honest fp) (adminMenu.turn fp) d (KeepsMenu s) := by
  have hmenu : Truthful fp d.remote .adminMenu := by
    rw [Truthful, hin.session]
    exact ⟨hin.connected, hadmin⟩
  apply guarded_choose hmenu keepsMenu_lost (gives_up_menu hin)
  intro choice d₁ h₁
  rw [← h₁] at hin
  apply Guarded.ite
  · have hasks : Asks fp s .listAccounts (requestText "LIST_ACCOUNTS" []) := by
      apply asks_word (by simp) _ (show Command.listAccounts.Admitted s from hadmin)
      intro text hlines
      rw [parseRequest, hlines]
      rfl
    exact unlessLost_keeps (requestAndPrint_stays hin hasks trivial)
  apply Guarded.ite
  · apply unlessLost_keeps
    exact adminRequestForAccount_stays hin .viewAccountDetails (by simp [clientFlows])
      (fun _ => ⟨hadmin, rfl⟩) (fun _ => trivial) _
  apply Guarded.ite
  · apply unlessLost_keeps
    exact adminRequestForAccount_stays hin .viewAccountStatement (by simp [clientFlows])
      (fun _ => ⟨hadmin, rfl⟩) (fun _ => trivial) _
  apply Guarded.ite
  · exact unlessLost_keeps (adminViewAccountSummaryFlow_stays hadmin hin)
  apply Guarded.ite
  · apply unlessLost_keeps
    exact adminRequestForAccount_stays hin .lockAccount (by simp [clientFlows])
      (fun _ => ⟨hadmin, rfl⟩) (fun _ => trivial) _
  apply Guarded.ite
  · apply unlessLost_keeps
    exact adminRequestForAccount_stays hin .unlockAccount (by simp [clientFlows])
      (fun _ => ⟨hadmin, rfl⟩) (fun _ => trivial) _
  apply Guarded.ite
  · apply unlessLost_keeps
    exact adminAdjustAccountFlow_stays hprint hin .adminCredit (by simp [amountFlows])
      (fun _ _ _ => ⟨hadmin, rfl⟩) fun _ _ _ => rfl
  apply Guarded.ite
  · apply unlessLost_keeps
    exact adminAdjustAccountFlow_stays hprint hin .adminDebit (by simp [amountFlows])
      (fun _ _ _ => ⟨hadmin, rfl⟩) fun _ _ _ => rfl
  apply Guarded.ite
  · exact unlessLost_keeps (adminEditAccountFlow_stays hadmin hin)
  apply Guarded.ite
  · exact unlessLost_keeps (adminDeleteAccountFlow_stays hadmin hin)
  apply Guarded.ite
  · have hasks : Asks fp s .adminDashboard (requestText "ADMIN_DASHBOARD" []) := by
      apply asks_word (by simp) _ (show Command.adminDashboard.Admitted s from hadmin)
      intro text hlines
      rw [parseRequest, hlines]
      rfl
    exact unlessLost_keeps (requestAndPrint_stays hin hasks trivial)
  apply Guarded.ite
  · exact unlessLost_keeps (adminRecentTransactionsFlow_stays hadmin hin)
  apply Guarded.ite
  · exact unlessLost_keeps (adminChangePasswordFlow_stays hadmin hin)
  apply Guarded.ite
  · exact logout_keeps hin
  · exact invalidOption_keeps hin

end menus

/-! ### Logins -/

section logins

variable {fp : Rounding} {s : Session} {d : Desk Remote}

/-- A flow that ends does so without a session, or with the connection lost. -/
def LeavesReset (outcome : Option Bool) (d : Desk Remote) : Prop :=
  ∀ again, outcome = some again → StaysIn Session.reset again d

theorem leavesReset_refused (hin : d.remote.In Session.reset) (d' : Desk Remote)
    (hremote : d'.remote = d.remote) : LeavesReset (some true) d' := by
  rintro _ ⟨⟩ _
  exact hremote ▸ hin

theorem leavesReset_lost (d : Desk Remote) : LeavesReset (some false) d := by
  rintro _ ⟨⟩ hagain
  cases hagain

theorem customerMenu_leaves (hprint : ∀ q, Printable (fp.round q)) (hcustomer : s.isCustomer = true)
    (hint : IsInt s.customerAccountNo) (hin : d.remote.In s) (fuel : Nat) :
    Guarded (ConsoleAnswers (Meets fp)) (Honest fp)
      (customerMenu fp fuel s.customerAccountNo (readable s.customerName)) d LeavesReset :=
  (guarded_loop (fun d' : Desk Remote => d'.remote.In s)
    (fun _ => customerMenu_turn hprint hcustomer hint) fuel hin).mono fun _ _ hend => hend.2

theorem adminMenu_leaves (hprint : ∀ q, Printable (fp.round q)) (hadmin : s.isAdmin = true)
    (hin : d.remote.In s) (fuel : Nat) :
    Guarded (ConsoleAnswers (Meets fp)) (Honest fp) (adminMenu fp fuel) d LeavesReset :=
  (guarded_loop (fun d' : Desk Remote => d'.remote.In s)
    (fun _ => adminMenu_turn hprint hadmin) fuel hin).mono fun _ _ hend => hend.2

theorem turn_login {env : Environment} {s' : Session} {t t' : Tables} {response : Response}
    {accountNo pin : Int}
    (hturn : Turn fp env s t (.login (some (accountNo, pin))) response s' t') :
    response.status = .ok ∧ response.payload = s'.customerName ∧
        (∃ row, s' = customerSession accountNo row) ∨
      response.status = .err ∧ s' = s := by
  cases hturn with
  | refused | counted => exact .inr ⟨rfl, rfl⟩
  | reported hread => cases hread
  | loggedIn => exact .inl ⟨rfl, rfl, _, rfl⟩
  | performed hintended => cases hintended

theorem turn_adminLogin {env : Environment} {s' : Session} {t t' : Tables} {response : Response}
    {username password : Bytes}
    (hturn : Turn fp env s t (.adminLogin (some (username, password))) response s' t') :
    response.status = .ok ∧ s' = adminSession username ∨ response.status = .err ∧ s' = s := by
  cases hturn with
  | refused => exact .inr ⟨rfl, rfl⟩
  | reported hread => cases hread
  | adminLoggedIn => exact .inl ⟨rfl, rfl⟩
  | performed hintended => cases hintended

theorem readAccountNo_pos {stdin rest : Bytes} {n : Int}
    (h : Model.readAccountNo.run stdin = some (n, rest)) : 0 < n := by
  obtain ⟨value, more, -, hchecked⟩ := bind_run h
  obtain ⟨hpositive, hpure⟩ := guard_run hchecked
  cases pure_run hpure
  exact hpositive

theorem customerLoginFlow_leaves (hprint : ∀ q, Printable (fp.round q))
    (hin : d.remote.In Session.reset) (fuel : Nat) :
    Guarded (ConsoleAnswers (Meets fp)) (Honest fp) (customerLoginFlow fp fuel) d LeavesReset := by
  apply guarded_ask (reads_readAccountNo _) (leavesReset_refused hin)
  intro accountNo d₁ h₁ hread₁
  rw [← h₁] at hin
  apply guarded_ask (reads_readIntStdin _) (leavesReset_refused hin)
  intro pin d₂ h₂ hread₂
  rw [← h₂] at hin
  have hrun : Model.customerLoginFlow.run d.input.rest =
      some (.login accountNo pin, d₂.input.rest) := by
    rw [Model.customerLoginFlow, run_bind_some hread₁, run_bind_some hread₂]
    rfl
  have hasks : Asks fp Session.reset _ (ClientRequest.login accountNo pin).text :=
    asks_flow (by simp [clientFlows]) hrun rfl
  apply guarded_withAnswer hin hasks leavesReset_lost
  intro x ok payload d' hreplied
  have hremote := hreplied.remote
  have hstatus := hreplied.status
  rcases turn_login hreplied.turn with ⟨hok, hname, row, hsession⟩ | ⟨herr, hsession⟩
  · have hok' := hstatus.mpr hok
    have hpayload := hreplied.payload hok'
    rw [hsession] at hremote hname
    rw [hname] at hpayload
    have hin' : d'.remote.In (customerSession accountNo row) := by
      rw [hremote]
      exact ⟨rfl, rfl⟩
    have hcustomer : (customerSession accountNo row).isCustomer = true := by
      have hpositive := readAccountNo_pos hread₁
      simp [Session.isCustomer, customerSession, Session.reset, hpositive]
    subst hok' hpayload
    simp only [Bool.not_true, Bool.false_eq_true, if_false, guarded_bind, guarded_printf]
    refine ⟨?_, customerMenu_leaves hprint hcustomer (readAccountNo_isInt hread₁) hin' fuel⟩
    rw [Truthful, hin'.session]
    exact ⟨hcustomer, rfl⟩
  · have hrefused : ok = false := by
      rw [← Bool.not_eq_true, hstatus, herr]
      exact fun hok => by cases hok
    subst hrefused
    simp only [Bool.not_false, if_true, guarded_bind, guarded_printf, guarded_pure]
    refine ⟨trivial, ?_⟩
    rintro _ ⟨⟩ _
    rw [hremote, hsession]
    exact ⟨rfl, rfl⟩

theorem adminLoginFlow_leaves (hprint : ∀ q, Printable (fp.round q))
    (hin : d.remote.In Session.reset) (fuel : Nat) :
    Guarded (ConsoleAnswers (Meets fp)) (Honest fp) (adminLoginFlow fp fuel) d LeavesReset := by
  apply guarded_ask (reads_readLineStdin _ (by decide)) (leavesReset_refused hin)
  intro username d₁ h₁ hread₁
  rw [← h₁] at hin
  apply guarded_ask (reads_readLineStdin _ (by decide)) (leavesReset_refused hin)
  intro password d₂ h₂ hread₂
  rw [← h₂] at hin
  have hrun : Model.adminLoginFlow.run d.input.rest =
      some (.adminLogin username password, d₂.input.rest) := by
    rw [Model.adminLoginFlow, run_bind_some hread₁, run_bind_some hread₂]
    rfl
  have hasks : Asks fp Session.reset _ (ClientRequest.adminLogin username password).text :=
    asks_flow (by simp [clientFlows]) hrun rfl
  apply guarded_withAnswer hin hasks leavesReset_lost
  intro x ok payload d' hreplied
  have hremote := hreplied.remote
  have hstatus := hreplied.status
  rcases turn_adminLogin hreplied.turn with ⟨hok, hsession⟩ | ⟨herr, hsession⟩
  · have hok' := hstatus.mpr hok
    have hin' : d'.remote.In (adminSession username) := by
      rw [hremote, hsession]
      exact ⟨rfl, rfl⟩
    subst hok'
    simp only [Bool.not_true, Bool.false_eq_true, if_false, guarded_bind, guarded_printf]
    exact ⟨trivial, adminMenu_leaves hprint rfl hin' fuel⟩
  · have hrefused : ok = false := by
      rw [← Bool.not_eq_true, hstatus, herr]
      exact fun hok => by cases hok
    subst hrefused
    simp only [Bool.not_false, if_true, guarded_bind, guarded_printf, guarded_pure]
    refine ⟨trivial, ?_⟩
    rintro _ ⟨⟩ _
    rw [hremote, hsession]
    exact ⟨rfl, rfl⟩

/-! ### `main` -/

/-- A flow of `main` goes on where it started, or leaves the loop. -/
theorem afterFlow_restored {flow : Console (Option Bool)}
    (h : Guarded (ConsoleAnswers (Meets fp)) (Honest fp) flow d LeavesReset) :
    Guarded (ConsoleAnswers (Meets fp)) (Honest fp) (afterFlow flow) d
      (Restored (fun d' => d'.remote.In Session.reset) fun _ _ => True) := by
  rw [afterFlow, guarded_bind]
  apply h.mono
  rintro (_ | _ | _) d' hleaves
  · exact .leaves trivial
  · exact .leaves trivial
  · exact .goesOn (hleaves true rfl rfl)

theorem mainTurn_restored (hprint : ∀ q, Printable (fp.round q)) (hin : d.remote.In Session.reset)
    (fuel : Nat) :
    Guarded (ConsoleAnswers (Meets fp)) (Honest fp) (mainTurn fp fuel) d
      (Restored (fun d' => d'.remote.In Session.reset) fun _ _ => True) := by
  have hmenu : Truthful fp d.remote .mainMenu := hin
  apply guarded_choose hmenu
  · exact fun d' => .leaves trivial
  · exact fun d' hremote => .goesOn (hremote ▸ hin)
  intro choice d₁ h₁
  rw [← h₁] at hin
  apply Guarded.ite
  · apply afterFlow_restored
    rw [guarded_bind]
    apply (createAccountFlow_stays hin).mono
    rintro again d' hstays _ ⟨⟩
    exact hstays
  apply Guarded.ite
  · exact afterFlow_restored (customerLoginFlow_leaves hprint hin fuel)
  apply Guarded.ite
  · exact afterFlow_restored (adminLoginFlow_leaves hprint hin fuel)
  apply Guarded.ite
  · exact .leaves trivial
  · simp only [invalidOption, guarded_bind, guarded_printf, guarded_pure]
    exact ⟨trivial, .goesOn hin⟩

/-- Whatever is typed, whatever the database is at each request, and wherever
the connection is lost, the client is honest. -/
theorem clientMain_honest (hprint : ∀ q, Printable (fp.round q)) (fuel : Nat) (input : Input)
    (prompts : Nat) (last : Option Served) :
    Guarded (ConsoleAnswers (Meets fp)) (Honest fp) (clientMain fp fuel)
      ⟨input, prompts, Session.reset, false, last⟩ fun _ _ => True := by
  rw [clientMain, guarded_bind]
  apply (guarded_loop (fun d : Desk Remote => d.remote.In Session.reset)
    (fun _ hin => mainTurn_restored hprint hin fuel) fuel ⟨rfl, rfl⟩).mono
  rintro (_ | _ | _) d' -
  · trivial
  · trivial
  · simp only [guarded_bind, guarded_printf, guarded_pure]
    exact ⟨trivial, trivial⟩

end logins

end Terminal

end AtmSystem.Model
