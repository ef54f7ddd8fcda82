import AtmSystem.Safety.ClientRequests
import AtmSystem.Safety.Columns
import AtmSystem.Safety.TransferEffect

/-!
What is applied of an amount that is typed. The client reads it, prints it with
two digits behind the point, and the server reads that; so what is booked is the
whole number of cents next to the number that was typed, and it is this number
itself where it is a whole number of cents. An amount that comes out as zero or
less is refused, but no other amount is because of the digits it loses.

Half a cent goes to the even side. That is said of the number held, not of the
digits typed: the doubles next to 0.005, 0.015 and 0.995 are no ties and come out
as 0.01, 0.01 and 0.99.
-/

namespace AtmSystem.Model

open Library Program Bank

/-! ### Requests with an amount -/

namespace AmountRequest

def amount : AmountRequest → Double
  | .deposit amount | .withdraw amount | .transfer _ amount | .adminCredit _ amount
  | .adminDebit _ amount => amount

/-- The number of the account is a value of an `int`. -/
def NumberFits : AmountRequest → Prop
  | .deposit _ | .withdraw _ => True
  | .transfer accountNo _ | .adminCredit accountNo _ | .adminDebit accountNo _ => IsInt accountNo

/-- What the request asks for, with this amount. -/
def command (amount : Double) : AmountRequest → Command
  | .deposit _ => .deposit (some amount)
  | .withdraw _ => .withdraw (some amount)
  | .transfer receiverAccount _ => .transfer (some (receiverAccount, amount))
  | .adminCredit accountNo _ => .adminCredit (some (accountNo, amount))
  | .adminDebit accountNo _ => .adminDebit (some (accountNo, amount))

def word : AmountRequest → String
  | .deposit _ => "DEPOSIT"
  | .withdraw _ => "WITHDRAW"
  | .transfer .. => "TRANSFER"
  | .adminCredit .. => "ADMIN_CREDIT"
  | .adminDebit .. => "ADMIN_DEBIT"

def fields : AmountRequest → List Bytes
  | .deposit amount | .withdraw amount => [formatAmount amount]
  | .transfer accountNo amount | .adminCredit accountNo amount | .adminDebit accountNo amount =>
      [formatInt accountNo, formatAmount amount]

theorem text_eq (request : AmountRequest) :
    request.text = requestText request.word request.fields := by
  cases request <;> rfl

theorem word_line (request : AmountRequest) : Line 64 (ascii request.word) := by
  cases request <;> simp only [word] <;> decide

theorem fields_count (request : AmountRequest) : request.fields.length ≤ 4 := by
  cases request <;> simp [fields]

end AmountRequest

/-! ### Flows -/

theorem readDoubleStdin_line {fp : Rounding} {stdin rest : Bytes} {x : Double}
    (h : (readDoubleStdin fp).run stdin = some (x, rest)) :
    ∃ line, ReadLine 128 line ∧ parseDouble fp line = some x := by
  obtain ⟨line, more, hline, hparse⟩ := bind_run h
  exact ⟨line, ⟨stdin, more, hline⟩, lift_run hparse⟩

/-- A flow asks with the number that it read from a line. -/
theorem amountFlows_typed {fp : Rounding} {flow : Stdin AmountRequest}
    (hflow : flow ∈ amountFlows fp) {stdin rest : Bytes} {request : AmountRequest}
    (h : flow.run stdin = some (request, rest)) :
    request.NumberFits ∧
      ∃ line, ReadLine 128 line ∧ parseDouble fp line = some request.amount := by
  simp only [amountFlows, List.mem_cons, List.not_mem_nil, or_false] at hflow
  rcases hflow with rfl | rfl | rfl | rfl | rfl
  · obtain ⟨amount, _, hamount, h⟩ := bind_run h
    cases pure_run h
    exact ⟨trivial, readDoubleStdin_line hamount⟩
  · obtain ⟨amount, _, hamount, h⟩ := bind_run h
    cases pure_run h
    exact ⟨trivial, readDoubleStdin_line hamount⟩
  all_goals
    obtain ⟨accountNo, _, haccountNo, h⟩ := bind_run h
    obtain ⟨amount, _, hamount, h⟩ := bind_run h
    cases pure_run h
    exact ⟨readAccountNo_isInt haccountNo, readDoubleStdin_line hamount⟩

/-! ### What the server reads -/

/-- A printed amount is a line. -/
theorem formatAmount_line {x : Double} (h : Printable x) : Line 318 (formatAmount x) where
  noNewline := by
    intro hmem
    rcases formatAmount_bytes x newline hmem with hdigit | hmark
    · cases hdigit
    · revert hmark
      decide
  noNul := formatAmount_noNul x
  length := Nat.lt_succ_of_le h

theorem amountRequest_sent {request : AmountRequest} (hnumber : request.NumberFits)
    (hamount : Printable request.amount) :
    Sent (ascii request.word) request.fields request.text := by
  have hline := formatAmount_line hamount
  have hno {n : Int} (hn : IsInt n) : Line 318 (formatInt n) := hn.line.mono (by decide)
  have hfields : ∀ field ∈ request.fields, Line 318 field := by
    cases request with
    | deposit amount | withdraw amount => exact List.forall_mem_singleton.mpr hline
    | transfer accountNo amount | adminCredit accountNo amount | adminDebit accountNo amount =>
        exact List.forall_mem_cons.mpr ⟨hno hnumber, List.forall_mem_singleton.mpr hline⟩
  rw [request.text_eq]
  exact requestText_sent (by decide) request.word_line hfields request.fields_count

/-- The two arguments of a request are read one after the other. -/
theorem read_arguments {fp : Rounding} {accountText amountText : Bytes} {accountNo : Int}
    {amount : Double} (haccount : parseInt accountText = some accountNo)
    (hamount : parseDouble fp amountText = some amount) :
    (do return (← parseInt accountText, ← parseDouble fp amountText) : Option (Int × Double)) =
      some (accountNo, amount) := by
  rw [haccount, hamount]
  rfl

/-- The server reads the request as one for the amount it reads. -/
theorem parseRequest_amount {fp : Rounding} {request : AmountRequest}
    (hnumber : request.NumberFits) (hamount : Printable request.amount) {y : Double}
    (hread : parseDouble fp (formatAmount request.amount) = some y) :
    parseRequest fp request.text = request.command y := by
  have hlines := (amountRequest_sent hnumber hamount).lines
  have hno {n : Int} (hn : IsInt n) : parseInt (formatInt n) = some n :=
    parseInt_formatInt hn.1 hn.2
  -- the texts of the numbers are hidden, so that only the dispatch is computed
  cases request with
  | deposit amount =>
      simp only [AmountRequest.amount, AmountRequest.word, AmountRequest.fields] at hread hlines
      generalize formatAmount amount = x at hread hlines
      rw [parseRequest, hlines]
      exact congrArg Command.deposit hread
  | withdraw amount =>
      simp only [AmountRequest.amount, AmountRequest.word, AmountRequest.fields] at hread hlines
      generalize formatAmount amount = x at hread hlines
      rw [parseRequest, hlines]
      exact congrArg Command.withdraw hread
  | transfer receiverAccount amount =>
      have hreceiver := hno hnumber
      simp only [AmountRequest.amount, AmountRequest.word, AmountRequest.fields] at hread hlines
      generalize formatAmount amount = x at hread hlines
      generalize formatInt receiverAccount = n at hreceiver hlines
      rw [parseRequest, hlines]
      exact congrArg Command.transfer (read_arguments hreceiver hread)
  | adminCredit accountNo amount =>
      have haccount := hno hnumber
      simp only [AmountRequest.amount, AmountRequest.word, AmountRequest.fields] at hread hlines
      generalize formatAmount amount = x at hread hlines
      generalize formatInt accountNo = n at haccount hlines
      rw [parseRequest, hlines]
      exact congrArg Command.adminCredit (read_arguments haccount hread)
  | adminDebit accountNo amount =>
      have haccount := hno hnumber
      simp only [AmountRequest.amount, AmountRequest.word, AmountRequest.fields] at hread hlines
      generalize formatAmount amount = x at hread hlines
      generalize formatInt accountNo = n at haccount hlines
      rw [parseRequest, hlines]
      exact congrArg Command.adminDebit (read_arguments haccount hread)

/-! ### What is booked -/

/-- The balance of the account is changed, and the account has got one more
transaction, of this amount. -/
structure Booked (t t' : Tables) (accountNo : Int) (change : Double → Double)
    (amount : Double) : Prop where
  balance : ∃ balance, balanceOf t accountNo = some balance ∧
    balanceOf t' accountNo = some (change balance)
  recorded : ∃ r, entries t' accountNo = entries t accountNo ++ [r] ∧ r.amount = amount

section booked

variable {t : Tables} {accountNo : Int} {amount : Double} {createdAt : Bytes}

theorem booked_of_book {row : Account} (hrow : t.accounts.lookup accountNo = some row)
    (relatedAccount : Option Int) (type : TransactionType) (amount : Double)
    (change : Double → Double) (createdAt : Bytes) :
    Booked t (book t accountNo relatedAccount type amount (change row.balance) createdAt)
      accountNo change amount where
  balance := by
    refine ⟨row.balance, ?_, ?_⟩
    · rw [balanceOf, hrow, Option.map_some]
    · rw [balanceOf_book hrow, if_pos rfl]
  recorded := by
    rw [entries_book, if_pos rfl]
    exact ⟨_, rfl, rfl⟩

/-- What is booked on another account before or behind does not matter. -/
theorem Booked.of_same {t₁ t₂ t₃ : Tables} {change : Double → Double}
    (h : Booked t₁ t₂ accountNo change amount)
    (hbefore : balanceOf t accountNo = balanceOf t₁ accountNo ∧
      entries t accountNo = entries t₁ accountNo)
    (hbehind : balanceOf t₃ accountNo = balanceOf t₂ accountNo ∧
      entries t₃ accountNo = entries t₂ accountNo) :
    Booked t t₃ accountNo change amount where
  balance := by
    rw [hbefore.1, hbehind.1]
    exact h.balance
  recorded := by
    rw [hbefore.2, hbehind.2]
    exact h.recorded

theorem book_other {row : Account} (hrow : t.accounts.lookup accountNo = some row)
    (relatedAccount : Option Int) (type : TransactionType) (amount newBalance : Double)
    (createdAt : Bytes) {k : Int} (hk : k ≠ accountNo) :
    let t' := book t accountNo relatedAccount type amount newBalance createdAt
    balanceOf t' k = balanceOf t k ∧ entries t' k = entries t k := by
  intro t'
  constructor
  · rw [balanceOf_book hrow, if_neg hk]
  · rw [entries_book, if_neg hk]

theorem booked_of_move {kind : Movement} {t' : Tables}
    (h : (Action.move kind accountNo amount createdAt).Performs .exact t t') :
    0 < amount ∧
      Booked t t' accountNo (fun balance => kind.newBalance .exact balance amount) amount := by
  cases h with
  | move hrow hamount =>
      exact ⟨hamount, booked_of_book hrow none kind.type amount
        (fun balance => kind.newBalance .exact balance amount) createdAt⟩

theorem booked_of_transfer {receiver : Int} {t' : Tables}
    (h : (Action.transfer accountNo receiver amount createdAt).Performs .exact t t') :
    0 < amount ∧ Booked t t' accountNo (·.sub .exact amount) amount ∧
      Booked t t' receiver (·.add .exact amount) amount := by
  cases h with
  | @transfer _ _ _ _ _ source target _ hdistinct hsource htarget hamount =>
      generalize hfirst : book t accountNo (some receiver) .transferSent amount
        (source.balance.sub .exact amount) createdAt = first
      have hsent : Booked t first accountNo (·.sub .exact amount) amount := by
        rw [← hfirst]
        exact booked_of_book hsource (some receiver) .transferSent amount
          (·.sub .exact amount) createdAt
      have htarget' : first.accounts.lookup receiver = some target := by
        rw [← hfirst, lookup_book, if_neg hdistinct, htarget]
      have hreceived := booked_of_book htarget' (some accountNo) .transferReceived amount
        (·.add .exact amount) createdAt
      have hbefore : balanceOf t receiver = balanceOf first receiver ∧
          entries t receiver = entries first receiver := by
        obtain ⟨hbalance, hentries⟩ := book_other hsource (some receiver) .transferSent
          amount (source.balance.sub .exact amount) createdAt hdistinct
        rw [← hfirst]
        exact ⟨hbalance.symm, hentries.symm⟩
      have hbehind := book_other htarget' (some accountNo) .transferReceived
        amount (target.balance.add .exact amount) createdAt (Ne.symm hdistinct)
      exact ⟨hamount, hsent.of_same ⟨rfl, rfl⟩ hbehind, hreceived.of_same hbefore ⟨rfl, rfl⟩⟩

end booked

/-- The request changes the balances it is about by this amount, and records
this amount. -/
def AmountRequest.AppliedTo (session : Session) (t t' : Tables) (amount : Double) :
    AmountRequest → Prop
  | .deposit _ => Booked t t' session.customerAccountNo (·.add .exact amount) amount
  | .withdraw _ => Booked t t' session.customerAccountNo (·.sub .exact amount) amount
  | .transfer receiverAccount _ =>
      Booked t t' session.customerAccountNo (·.sub .exact amount) amount ∧
        Booked t t' receiverAccount (·.add .exact amount) amount
  | .adminCredit accountNo _ => Booked t t' accountNo (·.add .exact amount) amount
  | .adminDebit accountNo _ => Booked t t' accountNo (·.sub .exact amount) amount

/-- A turn on the request: OK if the amount is applied, and otherwise nothing
has changed. -/
theorem turn_amount {request : AmountRequest} {amount : Double} {env : Environment}
    {session session' : Session} {t t' : Tables} {response : Response}
    (hturn : Turn .exact env session t (request.command amount) response session' t') :
    response.status = .ok ∧ 0 < amount ∧ request.AppliedTo session t t' amount ∨
      response.status = .err ∧ t' = t := by
  cases request with
  | deposit _ | withdraw _ | adminCredit _ _ | adminDebit _ _ =>
      cases hturn with
      | refused => exact .inr ⟨rfl, rfl⟩
      | reported hread => cases hread
      | performed hintended hperforms =>
          cases asks_of_intended hintended
          exact .inl ⟨rfl, booked_of_move hperforms⟩
  | transfer receiverAccount _ =>
      cases hturn with
      | refused => exact .inr ⟨rfl, rfl⟩
      | reported hread => cases hread
      | performed hintended hperforms =>
          cases asks_of_intended hintended
          exact .inl ⟨rfl, booked_of_transfer hperforms⟩

/-! ### Whole cents -/

/-- A whole number of cents, or not a number that has any. -/
def WholeCents (x : Double) : Prop := ∀ q, x = .fin q → ∃ cents : ℤ, q = cents / 100

theorem NearestCents.eq_iff_whole {x y : Double} (h : NearestCents x y) :
    y = x ↔ WholeCents x := by
  constructor
  · rintro rfl q rfl
    obtain ⟨cents, hcents, -⟩ := h
    exact ⟨cents, Double.fin.inj hcents⟩
  · intro hwhole
    cases x with
    | fin q =>
        obtain ⟨cents, rfl⟩ := hwhole q rfl
        exact h.eq_of_whole
    | nan | negInf | posInf => exact h

/-- What becomes of the request: it is delivered, the amount in it is read as
the whole cents next to the amount that was typed, and when the answer is OK
these are positive, change the balances and stand in the transactions. When it
is not, nothing changes. -/
structure AppliedInCents (request : AmountRequest) (cents : Double) : Prop where
  nearest : NearestCents request.amount cents
  whole : cents = request.amount ↔ WholeCents request.amount
  sent : ∀ s, Always SocketAnswers (sendMessage request.text) s fun done s' =>
    done = true ∧ s'.outgoing = s.outgoing ++ frame request.text
  received : ∀ s rest, s.incoming = frame request.text ++ rest →
    Always SocketAnswers (receiveMessage maxMessageSize) s fun answer s' =>
      answer = some request.text ∧ s'.incoming = rest
  served : ∀ env (s : ServerState), s.store.saved = none →
    let outcome := s.serve .exact ⟨request.text, env⟩
    outcome.1.status = .ok ∧ 0 < cents ∧
        request.AppliedTo s.session s.store.tables outcome.2.store.tables cents ∨
      outcome.1.status = .err ∧ outcome.2.store.tables = s.store.tables

/-- Whatever is typed: a flow asks with the number on a line that it read, and
the whole cents next to this number are applied. -/
theorem amounts_applied_in_cents {flow : Stdin AmountRequest} (hflow : flow ∈ amountFlows .exact)
    {stdin rest : Bytes} {request : AmountRequest}
    (h : flow.run stdin = some (request, rest)) (hprint : Printable request.amount) :
    (∃ line, ReadLine 128 line ∧ parseDouble .exact line = some request.amount) ∧
      ∃ cents, AppliedInCents request cents := by
  obtain ⟨hnumber, htyped⟩ := amountFlows_typed hflow h
  obtain ⟨cents, hread, hnearest⟩ := parseDouble_formatAmount_nearest request.amount
  have hsent := amountRequest_sent hnumber hprint
  refine ⟨htyped, cents, hnearest, hnearest.eq_iff_whole, hsent.sends, ?_, ?_⟩
  · intro s rest hs
    exact hsent.arrives hs
  · intro env s hsaved
    obtain ⟨-, hturn⟩ := serve_turn .exact s ⟨request.text, env⟩ hsaved
    rw [requested, takeWhile_of_not_mem hsent.noNul,
      parseRequest_amount hnumber hprint hread] at hturn
    exact turn_amount hturn

/-- The server when an account has been opened and its holder has logged in. -/
def adaLoggedIn : ServerState :=
  reached .exact emptyServer
    [.connect, .request (plain "CREATE_ACCOUNT\n7\nAda\n1234"), .request (plain "LOGIN\n7\n1234")]

/-- A number of cents is applied as it is typed. -/
theorem amounts_applied_deposit :
    ∃ request, ((depositFlow .exact).run (ascii "10.50\n")).map Prod.fst = some request ∧
      ∃ cents, AppliedInCents request cents := by
  have hflow : (depositFlow .exact).run (ascii "10.50\n") =
      some (.deposit (.fin (1050 / 100)), []) := by decide +kernel
  refine ⟨_, congrArg (Option.map Prod.fst) hflow, ?_⟩
  have hprint : Printable (.fin (1050 / 100)) := by decide +kernel
  exact (amounts_applied_in_cents (by simp [amountFlows]) hflow hprint).2

/-- Tenths of cents are not: 11 is booked for 10.999. -/
theorem amount_replaced :
    let request := AmountRequest.deposit (.fin (10999 / 1000))
    let outcome := adaLoggedIn.serve .exact ⟨request.text, (plain "").env⟩
    (depositFlow .exact).run (ascii "10.999\n") = some (request, []) ∧
      outcome.1.status = .ok ∧
      (entries outcome.2.store.tables 7).map Transaction.amount = [.fin 11] ∧
      ¬ request.AppliedTo adaLoggedIn.session adaLoggedIn.store.tables outcome.2.store.tables
        request.amount := by
  intro request outcome
  have hserved : outcome.1.status = .ok ∧
      (entries outcome.2.store.tables 7).map Transaction.amount = [.fin 11] ∧
      adaLoggedIn.session.customerAccountNo = 7 := by
    decide +kernel
  obtain ⟨hok, hrecorded, hcustomer⟩ := hserved
  refine ⟨by decide +kernel, hok, hrecorded, ?_⟩
  intro happlied
  obtain ⟨r, hr, hamount⟩ := happlied.recorded
  rw [hcustomer] at hr
  rw [hr, List.map_append, List.map_singleton, hamount] at hrecorded
  have hlast : request.amount = .fin 11 := by
    simpa using congrArg List.getLast? hrecorded
  revert hlast
  decide +kernel

end AtmSystem.Model
