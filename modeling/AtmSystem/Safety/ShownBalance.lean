import AtmSystem.Safety.FiniteAmounts
import AtmSystem.Safety.Overdraft
import AtmSystem.Semantics.Numbers
import AtmSystem.Semantics.Requests

/-!
The balance shown and the balance held. A balance is printed with two digits
behind the point, and nothing keeps amounts to whole cents; so what is shown is
the balance rounded to cents, half a cent to the even side (a tie of the number
held: the doubles next to 0.005, 0.015 and 0.995 print as 0.01, 0.01 and 0.99).
As long as the accepted amounts are whole cents the balances are, and then the
two agree.
-/

namespace AtmSystem.Bank

open Library Program Model

/-- What is sent for a balance, which is printed into `payload[64]`. -/
def shownText (balance : Double) : Bytes := snprintf 64 (formatAmount balance)

/-- The text of the balance fits the payload. -/
def FitsPayload (balance : Double) : Prop := (formatAmount balance).length < 64

theorem shownText_of_fits {balance : Double} (h : FitsPayload balance) :
    shownText balance = formatAmount balance := List.take_of_length_le (by
  unfold FitsPayload at h
  omega)

/-- The customer of the account asks for its balance, and no call fails. -/
structure AsksBalance (s : ServerState) (accountNo : Int) (message : Message) : Prop where
  customer : s.session.isCustomer = true
  account : s.session.customerAccountNo = accountNo
  command : requested .exact message = .balance
  quiet : ¬ message.env.Faulty

/-- The customer of the account asks for all of what is shown. -/
structure WithdrawsShown (s : ServerState) (row : Account) (message : Message) : Prop where
  customer : s.session.isCustomer = true
  account : s.session.customerAccountNo = row.accountNo
  content : message.content = ascii "WITHDRAW\n" ++ shownText row.balance
  quiet : ¬ message.env.Faulty

/-- The balance shown is the balance held. -/
structure ShowsBalance (s : ServerState) (row : Account) : Prop where
  balance : ∀ message, AsksBalance s row.accountNo message →
    ∃ text, (s.serve .exact message).1 = ⟨.ok, text⟩ ∧
      parseDouble .exact text = some row.balance
  /-- The check of `db_delete_account`. -/
  zero : shownText row.balance = ascii "0.00" → row.balance = 0
  withdraw : ∀ message, WithdrawsShown s row message → 0 < row.balance →
    (s.serve .exact message).1.status = .ok

/-- A customer deposits a tenth of a cent. -/
def smallDeposit : List Event :=
  [.connect, .request (plain "CREATE_ACCOUNT\n7\nAda\n1234"), .request (plain "LOGIN\n7\n1234"),
    .request (plain "DEPOSIT\n0.001")]

theorem fraction_hidden :
    ¬ ∀ row ∈ (reached .exact emptyServer smallDeposit).store.tables.accounts.rows,
      ShowsBalance (reached .exact emptyServer smallDeposit) row := by
  intro hclaim
  have hbalances : (reached .exact emptyServer smallDeposit).store.tables.accounts.rows.map
      Account.balance = [.fin (1 / 1000)] := by decide +kernel
  obtain ⟨row, hrow, hbalance⟩ :=
    List.mem_map.mp (hbalances ▸ List.mem_singleton_self (Double.fin (1 / 1000)))
  have hzero := (hclaim row hrow).zero (by rw [hbalance]; decide +kernel)
  rw [hbalance] at hzero
  exact absurd hzero (by decide +kernel)

/-! ### What is sent -/

theorem handleCommand_balance {fp : Rounding} {env : Environment} {session : Session} {t : Tables}
    (hcustomer : session.isCustomer = true) {row : Account}
    (hrow : t.accounts.lookup session.customerAccountNo = some row) {faulty : Prop} :
    Always (SqlAnswers fp faulty) (handleCommand fp env session .balance) ⟨t, none⟩
      fun outcome _ => faulty ∨ outcome.2 = ⟨.ok, shownText row.balance⟩ := by
  simp only [handleCommand, asCustomer, hcustomer, if_true, dbGetBalance, always_bind,
    always_dbReadAccount, hrow]
  refine ⟨fun hf => always_of_forall fun _ _ => always_of_forall fun _ _ => .inl hf, ?_⟩
  exact .inr rfl

theorem serve_balance {s : ServerState} (hsaved : s.store.saved = none) {row : Account}
    {message : Message} (h : AsksBalance s row.accountNo message)
    (hrow : row ∈ s.store.tables.accounts.rows) :
    (s.serve .exact message).1 = ⟨.ok, shownText row.balance⟩ := by
  obtain ⟨hcustomer, haccount, hcommand, hquiet⟩ := h
  obtain ⟨⟨t, saved⟩, session⟩ := s
  obtain rfl : saved = none := hsaved
  have hlookup : t.accounts.lookup session.customerAccountNo = some row :=
    haccount ▸ KeyedTable.lookup_of_mem hrow
  have hanswer := exec_of_always .exact message.env
    (handleCommand .exact message.env session .balance) ⟨t, none⟩
    (handleCommand_balance hcustomer hlookup)
  have hreply := hanswer.resolve_left hquiet
  rw [← hcommand] at hreply
  exact hreply

/-- The account whose new balance a command is answered with. -/
def movedAccount (session : Session) : Command → Option Int
  | .deposit _ | .withdraw _ | .transfer _ => some session.customerAccountNo
  | .adminCredit args | .adminDebit args => args.map Prod.fst
  | _ => none

theorem receipt_shown {fp : Rounding} {env : Environment} {session session' : Session}
    {t t' : Tables} {c : Command} {text : Bytes} {accountNo : Int}
    (hturn : Turn fp env session t c ⟨.ok, text⟩ session' t')
    (hmoved : movedAccount session c = some accountNo) :
    ∃ row, t'.accounts.lookup accountNo = some row ∧ text = shownText row.balance := by
  have hshown {a : Action} {k : Int} (hreceipt : receipt t' a =
      ((balanceOf t' k).map fun x => snprintf 64 (formatAmount x)).getD [])
      (hbalance : ∃ balance, balanceOf t' k = some balance) :
      ∃ row, t'.accounts.lookup k = some row ∧ receipt t' a = shownText row.balance := by
    obtain ⟨balance, hbalance⟩ := hbalance
    rw [hbalance] at hreceipt
    obtain ⟨row, hrow, rfl⟩ := Option.map_eq_some_iff.mp hbalance
    exact ⟨row, hrow, hreceipt⟩
  cases hturn with
  | reported hread => cases c <;> first | exact hread.elim | cases hmoved
  | loggedIn | adminLoggedIn | loggedOut => cases hmoved
  | performed hintended hperforms =>
      cases asks_of_intended hintended with
      | deposit | withdraw | adminCredit | adminDebit =>
          cases hmoved
          exact hshown rfl (balanceOf_of_move hperforms)
      | transfer =>
          cases hmoved
          exact hshown rfl (balanceOf_of_transfer hperforms)
      | _ => cases hmoved

/-! ### Whole cents -/

/-- A whole number of cents, not negative. -/
def WholeCents (x : Double) : Prop := ∃ cents : ℕ, x = .fin (cents / 100)

namespace WholeCents

variable {x y : Double}

theorem zero : WholeCents 0 := ⟨0, by norm_num; rfl⟩

theorem add (hx : WholeCents x) (hy : WholeCents y) : WholeCents (x.add .exact y) := by
  obtain ⟨a, rfl⟩ := hx
  obtain ⟨b, rfl⟩ := hy
  refine ⟨a + b, congrArg Double.fin ?_⟩
  push_cast
  ring

theorem sub (hx : WholeCents x) (hy : WholeCents y) (hle : y ≤ x) :
    WholeCents (x.sub .exact y) := by
  obtain ⟨a, rfl⟩ := hx
  obtain ⟨b, rfl⟩ := hy
  have hba : b ≤ a := by
    have hle' : (b / 100 : ℚ) ≤ a / 100 := hle
    have hcents : (b : ℚ) ≤ a := by linarith
    exact_mod_cast hcents
  refine ⟨a - b, congrArg Double.fin ?_⟩
  push_cast [hba]
  ring

/-- A whole number of cents is read back as it is shown. -/
theorem shown (h : WholeCents x) (hfits : FitsPayload x) :
    parseDouble .exact (shownText x) = some x := by
  obtain ⟨cents, rfl⟩ := h
  rw [shownText_of_fits hfits, parseDouble_formatCents]

end WholeCents

/-- Every balance and every amount is a whole number of cents. -/
abbrev WholeSums : Tables → Prop := Sums WholeCents WholeCents

theorem wholeSums_performs {a : Action} {t t' : Tables} (ha : a.Performs .exact t t')
    (hcents : ∀ amount, a.amount = some amount → WholeCents amount) (h : WholeSums t) :
    WholeSums t' := by
  apply h.performs ha .zero
  rintro r hr
  cases hr with
  | @moved kind k amount createdAt row _ hrow hamount hfunds =>
      have hwhole := hcents amount rfl
      refine ⟨hwhole, ?_⟩
      rintro x hx
      obtain rfl := Option.some.inj hx
      apply Movement.newBalance_cases WholeCents hfunds
      · exact fun _ => (h.balance k row hrow).add hwhole
      · exact (h.balance k row hrow).sub hwhole
  | sent hsource hamount hfunds =>
      have hwhole := hcents _ rfl
      refine ⟨hwhole, ?_⟩
      rintro x hx
      obtain rfl := Option.some.inj hx
      exact (h.balance _ _ hsource).sub hwhole hfunds
  | received hdistinct hsource htarget hamount hfunds =>
      have hwhole := hcents _ rfl
      refine ⟨hwhole, ?_⟩
      rintro x hx
      obtain rfl := Option.some.inj hx
      exact (h.balance _ _ htarget).add hwhole

/-- If the exchange is answered OK, its amount is a whole number of cents. -/
def AcceptsWholeCents (x : Exchange) : Prop :=
  ∀ message text amount, x.input = .request message → x.output = some ⟨.ok, text⟩ →
    commandAmount (requested .exact message) = some amount → WholeCents amount

theorem wholeSums_turn {env : Environment} {session session' : Session} {t t' : Tables}
    {c : Command} {response : Response}
    (hturn : Turn .exact env session t c response session' t')
    (hcents : response.status = .ok → ∀ amount, commandAmount c = some amount → WholeCents amount)
    (h : WholeSums t) : WholeSums t' := by
  cases hturn with
  | refused => exact h
  | reported => exact h
  | loggedIn => exact h.setLoginState ..
  | counted => exact h.setLoginState ..
  | adminLoggedIn => exact h
  | loggedOut => exact h
  | performed hintended hperforms =>
      apply wholeSums_performs hperforms _ h
      intro amount hamount
      exact hcents rfl amount ((intended_amount hintended).trans hamount)

theorem wholeSums_exchange {x : Exchange} {message : Message} {response : Response}
    (hinput : x.input = .request message) (houtput : x.output = some response)
    (hcents : AcceptsWholeCents x)
    (hturn : Turn .exact message.env x.before.session x.before.store.tables
      (requested .exact message) response x.after.session x.after.store.tables)
    (h : WholeSums x.before.store.tables) : WholeSums x.after.store.tables := by
  apply wholeSums_turn hturn _ h
  intro hok amount hamount
  obtain ⟨status, text⟩ := response
  obtain rfl : status = .ok := hok
  exact hcents message text amount hinput houtput hamount

theorem wholeSums_reached {s : ServerState} (hopened : Opened s) {events : List Event}
    (hcents : ∀ x ∈ history .exact s events, AcceptsWholeCents x) :
    WholeSums (reached .exact s events).store.tables := by
  apply run_along (fun _ => WholeSums) AcceptsWholeCents (fun _ _ h => h) _ hcents hopened.saved
    hopened.sums
  intro x message response hinput houtput hgood hturn h
  exact wholeSums_exchange hinput houtput hgood hturn h

/-! ### What is shown can be used -/

/-- The request for what is shown is a request for the balance. -/
theorem requested_withdrawShown {s : ServerState} {row : Account} {message : Message}
    (h : WithdrawsShown s row message) (hwhole : WholeCents row.balance)
    (hfits : FitsPayload row.balance) :
    requested .exact message = .withdraw (some row.balance) := by
  have hparse := hwhole.shown hfits
  obtain ⟨cents, hcents⟩ := hwhole
  have hshown : shownText row.balance = amountText cents := by
    rw [shownText_of_fits hfits, hcents, formatCents]
  rw [hshown] at hparse
  have hcontent : message.content = joinLines [ascii "WITHDRAW", amountText cents] := by
    rw [h.content, hshown]
    rfl
  have hplain : ∀ b ∈ amountText cents, b ≠ 0 ∧ b ≠ newline := by
    intro b hb
    rcases amountText_bytes cents b hb with hdigit | rfl
    · constructor <;> rintro rfl <;> cases hdigit
    · decide
  have hnul : message.content.takeWhile (· ≠ 0) = message.content := by
    apply takeWhile_of_not_mem
    rw [hcontent]
    intro hmem
    rcases List.mem_append.mp hmem with hword | hrest
    · exact absurd hword (by decide)
    · rcases List.mem_cons.mp hrest with hnewline | hamount
      · cases hnewline
      · exact (hplain 0 hamount).1 rfl
  have hlines : splitLines (message.content.takeWhile (· ≠ 0)) 10 =
      [ascii "WITHDRAW", amountText cents] := by
    rw [hnul, hcontent]
    apply splitLines_joinLines (List.cons_ne_nil _ _) _ (by simp)
    intro line hline
    rcases List.mem_pair.mp hline with rfl | rfl
    · decide
    · exact fun hmem => (hplain _ hmem).2 rfl
  rw [requested, parseRequest, hlines, ← hparse]
  rfl

theorem withdraw_accepted {s : ServerState} (hsaved : s.store.saved = none) {row : Account}
    {message : Message} (h : WithdrawsShown s row message)
    (hrow : row ∈ s.store.tables.accounts.rows) (hwhole : WholeCents row.balance)
    (hfits : FitsPayload row.balance) (hpositive : 0 < row.balance) :
    (s.serve .exact message).1.status = .ok := by
  have hlookup : s.store.tables.accounts.lookup s.session.customerAccountNo = some row :=
    h.account ▸ KeyedTable.lookup_of_mem hrow
  obtain ⟨cents, hcents⟩ := id hwhole
  have hnumber : row.balance ≠ .nan := by simp [hcents]
  have hintended : intended message.env s.session (.withdraw (some row.balance)) =
      some (.move .withdraw s.session.customerAccountNo row.balance message.env.timestamp) :=
    if_pos h.customer
  have hperforms : ∃ t', (Action.move .withdraw s.session.customerAccountNo row.balance
      message.env.timestamp).Performs .exact s.store.tables t' := by
    refine ⟨_, .move hlookup hpositive (.inr (Double.le_refl_of_not_nan hnumber)) ?_⟩
    rw [hcents]
    exact nofun
  obtain ⟨response, session', t', hserve, hturn⟩ := serve_cases .exact message hsaved
  rw [hserve]
  rw [requested_withdrawShown h hwhole hfits] at hturn
  cases hturn with
  | refused hrefused =>
      rcases hrefused with hfaulty | hunacceptable
      · exact absurd hfaulty h.quiet
      · rw [acceptable_iff hintended] at hunacceptable
        exact absurd hperforms hunacceptable
  | reported => rfl
  | performed => rfl

theorem showsBalance {s : ServerState} (hsaved : s.store.saved = none) {row : Account}
    (hrow : row ∈ s.store.tables.accounts.rows) (hwhole : WholeCents row.balance)
    (hfits : FitsPayload row.balance) : ShowsBalance s row where
  balance message hasks := ⟨_, serve_balance hsaved hasks hrow, hwhole.shown hfits⟩
  zero hzero := by
    have hshown := hwhole.shown hfits
    have hread : parseDouble .exact (ascii "0.00") = some 0 := by decide +kernel
    rw [hzero, hread] at hshown
    exact (Option.some.inj hshown).symm
  withdraw message hwithdraws hpositive :=
    withdraw_accepted hsaved hwithdraws hrow hwhole hfits hpositive

/-- Exact decimals. In every state the server reaches, a finite balance whose
text fits the payload is shown rounded to cents. If the accepted amounts were
whole cents, what is shown is what is held, an account that shows 0.00 is
empty and the amount shown can be withdrawn; and so are the new balances that
the operations on the way were answered with. -/
theorem balance_shown {s : ServerState} (hopened : Opened s) (events : List Event) :
    (∀ row ∈ (reached .exact s events).store.tables.accounts.rows, ∀ q message,
      row.balance = .fin q → FitsPayload row.balance →
      AsksBalance (reached .exact s events) row.accountNo message →
      ∃ text, ((reached .exact s events).serve .exact message).1 = ⟨.ok, text⟩ ∧
        parseDouble .exact text = some (.fin (roundHalfEven (q * 100) / 100))) ∧
    ((∀ x ∈ history .exact s events, AcceptsWholeCents x) →
      (∀ row ∈ (reached .exact s events).store.tables.accounts.rows, FitsPayload row.balance →
        ShowsBalance (reached .exact s events) row) ∧
      ∀ x ∈ history .exact s events, ∀ message text accountNo, x.input = .request message →
        x.output = some ⟨.ok, text⟩ →
        movedAccount x.before.session (requested .exact message) = some accountNo →
        ∃ row, x.after.store.tables.accounts.lookup accountNo = some row ∧
          (FitsPayload row.balance → parseDouble .exact text = some row.balance)) := by
  have hsaved : (reached .exact s events).store.saved = none := reached_saved hopened.saved events
  constructor
  · intro row hrow q message hbalance hfits hasks
    have hq : 0 ≤ q := by
      have hbound := (NoOverdraft.reached hopened events).nonneg row.accountNo row
        (KeyedTable.lookup_of_mem hrow)
      rw [hbalance] at hbound
      exact hbound
    refine ⟨_, serve_balance hsaved hasks hrow, ?_⟩
    rw [shownText_of_fits hfits, hbalance, parseDouble_formatAmount hq]
  · intro hcents
    constructor
    · intro row hrow hfits
      apply showsBalance hsaved hrow _ hfits
      exact (wholeSums_reached hopened hcents).balance _ row (KeyedTable.lookup_of_mem hrow)
    · intro x hx message text accountNo hinput houtput hmoved
      obtain ⟨⟨first, rest, hevents, hbefore⟩, hexchanged⟩ := exchanged hopened.saved hx
      have hprefix : ∀ y ∈ history .exact s first, AcceptsWholeCents y := by
        intro y hy
        apply hcents
        rw [hevents, history, Machine.history_append]
        exact List.mem_append_left _ hy
      obtain ⟨response, hresponse, hturn⟩ := hexchanged.turn hinput
      obtain rfl : response = ⟨.ok, text⟩ := by
        rw [houtput] at hresponse
        exact (Option.some.inj hresponse).symm
      have hwhole := wholeSums_exchange hinput houtput (hcents x hx) hturn
        (hbefore ▸ wholeSums_reached hopened hprefix)
      obtain ⟨row, hrow, rfl⟩ := receipt_shown hturn hmoved
      exact ⟨row, hrow, (hwhole.balance accountNo row hrow).shown⟩

/-- The amounts that the requests of a run carry. -/
def requestedAmounts (fp : Rounding) (events : List Event) : List Double :=
  events.filterMap fun event =>
    match event with
    | .connect => none
    | .request message => commandAmount (requested fp message)

theorem acceptsWholeCents_of_requested {s : ServerState} (hsaved : s.store.saved = none)
    {events : List Event} (h : ∀ amount ∈ requestedAmounts .exact events, WholeCents amount) :
    ∀ x ∈ history .exact s events, AcceptsWholeCents x := by
  intro x hx message text amount hinput _ hamount
  obtain ⟨⟨first, rest, hevents, -⟩, -⟩ := exchanged hsaved hx
  apply h
  rw [requestedAmounts, List.mem_filterMap]
  refine ⟨.request message, ?_, hamount⟩
  rw [hevents, hinput]
  exact List.mem_append_right _ List.mem_cons_self

/-- The customer who took out 2.50 of 12.50 is shown 10.00. -/
theorem balance_shown_thriftyCustomer :
    ∃ text, ((reached .exact emptyServer thriftyCustomer).serve .exact (plain "BALANCE")).1 =
      ⟨.ok, text⟩ ∧ parseDouble .exact text = some (.fin 10) := by
  have hamounts : requestedAmounts .exact thriftyCustomer = [.fin (25 / 2), .fin (5 / 2)] := by
    decide +kernel
  have hcents : ∀ x ∈ history .exact emptyServer thriftyCustomer, AcceptsWholeCents x := by
    apply acceptsWholeCents_of_requested rfl
    rw [hamounts]
    intro amount hmem
    rcases List.mem_pair.mp hmem with rfl | rfl
    · exact ⟨1250, by norm_num⟩
    · exact ⟨250, by norm_num⟩
  have hrows : (reached .exact emptyServer thriftyCustomer).store.tables.accounts.rows.map
      (fun row => (row.accountNo, row.balance)) = [(7, .fin 10)] := by decide +kernel
  obtain ⟨row, hrow, hseven⟩ := List.mem_map.mp (hrows ▸ List.mem_singleton_self _)
  obtain ⟨hnumber, hbalance⟩ := Prod.mk.inj hseven
  obtain ⟨-, hshown⟩ := balance_shown emptyServer_opened thriftyCustomer
  have hfits : FitsPayload row.balance := by
    rw [hbalance, FitsPayload]
    decide +kernel
  obtain ⟨text, hserve, hparse⟩ := ((hshown hcents).1 row hrow hfits).balance (plain "BALANCE")
    ⟨by decide +kernel, by rw [hnumber]; decide +kernel, by decide +kernel, plain_quiet _⟩
  exact ⟨text, hserve, hbalance ▸ hparse⟩

end AtmSystem.Bank
