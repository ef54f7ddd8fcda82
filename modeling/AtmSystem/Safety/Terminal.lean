import AtmSystem.Safety.StatementsFit
import AtmSystem.Safety.TerminalFlows

/-!
What can be relied on at the client, in whole runs of its `main`: what it asks
for, that its menus and the session of the server stay together, that what it
shows of the account is true, and which line of the input goes where. Anything
may be typed, and each request may find any database, or lose the connection.
-/

namespace AtmSystem.Model.Terminal

open Library Program Bank

variable {fp : Rounding}

/-! ### Requests -/

/-- Every request is made on a connection that is not lost, is one of those the
client knows, and is one the session of the server admits. -/
def AsksAdmitted (fp : Rounding) : (β : Type) → ConsoleOp β → Desk Remote → Prop
  | _, .requestServer request, d =>
      d.remote.lost = false ∧ Asked fp request ∧
        (parseRequest fp request).Admitted d.remote.session
  | _, _, _ => True

/-- The client never asks for what its session may not do, nor for anything
behind a loss of the connection. -/
theorem requests_admitted (hprint : ∀ q, Printable (fp.round q)) (stdin : Bytes) (fuel : Nat) :
    Guarded (ConsoleAnswers (Meets fp)) (AsksAdmitted fp) (clientMain fp fuel)
      ⟨.more stdin, 0, Session.reset, false, none⟩ fun _ _ => True := by
  apply (clientMain_honest hprint fuel (.more stdin) 0 none).allow
  intro β op d hhonest
  cases op with
  | requestServer request => exact hhonest
  | printf | readLine | feof | writeFile => trivial

/-- The main menu, a login, a look at the balance, and the way out. -/
def typedLogin : Bytes := ascii "2\n7\n1234\n1\n7\n4\n"

theorem requests_admitted_login :
    Guarded (ConsoleAnswers (Meets overflowing)) (AsksAdmitted overflowing)
      (clientMain overflowing 19) ⟨.more typedLogin, 0, Session.reset, false, none⟩
      fun _ _ => True :=
  requests_admitted printable_overflowing typedLogin 19

/-! ### Menus -/

/-- The session a menu is for. -/
def MenuOf (session : Session) : Notice → Prop
  | .mainMenu => session = Session.reset
  | .customerMenu customerName accountNo =>
      session.isCustomer = true ∧ accountNo = session.customerAccountNo ∧
        customerName = readable session.customerName
  | .adminMenu => session.isAdmin = true
  | .welcome name => session.isCustomer = true ∧ name = readable session.customerName
  | _ => True

/-- What is shown of who is logged in is what the server takes the connection
for. -/
def ShowsSession : (β : Type) → ConsoleOp β → Desk Remote → Prop
  | _, .printf notice, d => MenuOf d.remote.session notice
  | _, _, _ => True

theorem menuOf_truthful {r : Remote} {notice : Notice} (h : Truthful fp r notice) :
    MenuOf r.session notice := by
  cases notice with
  | mainMenu => exact h.session
  | adminMenu => exact h.2
  | customerMenu customerName accountNo => exact h.2
  | welcome name => exact h
  | text | payload | balance | newBalance | statementWritten | statementNotWritten => trivial

/-- The menus of the client and the session of the server stay together. -/
theorem menus_lockstep (hprint : ∀ q, Printable (fp.round q)) (stdin : Bytes) (fuel : Nat) :
    Guarded (ConsoleAnswers (Meets fp)) ShowsSession (clientMain fp fuel)
      ⟨.more stdin, 0, Session.reset, false, none⟩ fun _ _ => True := by
  apply (clientMain_honest hprint fuel (.more stdin) 0 none).allow
  intro β op d hhonest
  cases op with
  | printf notice => exact menuOf_truthful hhonest
  | requestServer | readLine | feof | writeFile => trivial

theorem menus_lockstep_login :
    Guarded (ConsoleAnswers (Meets overflowing)) ShowsSession (clientMain overflowing 19)
      ⟨.more typedLogin, 0, Session.reset, false, none⟩ fun _ _ => True :=
  menus_lockstep printable_overflowing typedLogin 19

/-! ### Results -/

/-- The balance that is shown is the one the server found, an action that is
said to be successful has been performed and has led to the new balance that is
said, and a file holds the statement of the account it is named after. -/
def ShowsTruth (fp : Rounding) : (β : Type) → ConsoleOp β → Desk Remote → Prop
  | _, .printf (.balance text), d =>
      ∃ x, d.remote.last = some x ∧
        ShowsBalanceOf x.before.store.tables d.remote.session.customerAccountNo text
  | _, .printf (.newBalance label text), d =>
      ∃ x, d.remote.last = some x ∧ Performed fp x label text
  | _, .writeFile filename content, d => TruthfulFile d.remote filename content
  | _, _, _ => True

/-- What the client shows and writes of an account is true. -/
theorem results_true (hprint : ∀ q, Printable (fp.round q)) (stdin : Bytes) (fuel : Nat) :
    Guarded (ConsoleAnswers (Meets fp)) (ShowsTruth fp) (clientMain fp fuel)
      ⟨.more stdin, 0, Session.reset, false, none⟩ fun _ _ => True := by
  apply (clientMain_honest hprint fuel (.more stdin) 0 none).allow
  intro β op d hhonest
  cases op with
  | printf notice =>
      cases notice with
      | balance text => exact hhonest
      | newBalance label text => exact hhonest
      | text | payload | mainMenu | adminMenu | customerMenu | welcome | statementWritten
        | statementNotWritten => trivial
  | writeFile filename content => exact hhonest
  | requestServer | readLine | feof => trivial

theorem results_true_login :
    Guarded (ConsoleAnswers (Meets overflowing)) (ShowsTruth overflowing)
      (clientMain overflowing 19) ⟨.more typedLogin, 0, Session.reset, false, none⟩
      fun _ _ => True :=
  results_true printable_overflowing typedLogin 19

/-! ### Lines -/

/-- The line of this number, if so many are typed. -/
def typedLine (stdin : Bytes) : Nat → Option Bytes
  | 0 => if stdin = [] then none else some (stdin.takeWhile (· ≠ newline))
  | k + 1 => typedLine (discardRemainingStdinLine stdin) k

/-- What a buffer of this size gets of a line. -/
def fitted (bufferSize : Nat) (line : Bytes) : Bytes := trimNewline (line.take (bufferSize - 1))

/-- What is read for a prompt is what fits of the line of its number. -/
def ReadsLine (stdin : Bytes) : (β : Type) → ConsoleOp β → Desk Remote → Prop
  | _, .readLine bufferSize, d =>
      (d.input.readLineStdin bufferSize).1 = (typedLine stdin d.prompts).map (fitted bufferSize)
  | _, _, _ => True

/-- What is left to be read is what was typed, without a line for each prompt. -/
structure InStep (stdin : Bytes) (d : Desk Remote) : Prop where
  noNul : 0 ∉ d.input.rest
  lines : ∀ k, typedLine d.input.rest k = typedLine stdin (d.prompts + k)

/-- A reader uses up a line. -/
theorem readLineStdin_typed {bufferSize : Nat} (hsize : 2 ≤ bufferSize) {input : Input}
    (hnul : 0 ∉ input.rest) :
    (input.readLineStdin bufferSize).1 = (typedLine input.rest 0).map (fitted bufferSize) ∧
      (input.readLineStdin bufferSize).2.rest = discardRemainingStdinLine input.rest := by
  have hread := input.readLineStdin_eq bufferSize
  by_cases hrest : input.rest = []
  · rw [hrest] at hread ⊢
    have hnone : (input.readLineStdin bufferSize).1 = none := by
      rw [← Option.map_eq_none_iff, ← hread]
      rfl
    rw [Input.readLineStdin_none hnone]
    exact ⟨hnone, rfl⟩
  · rw [readLine_line hsize hrest hnul] at hread
    obtain ⟨line, hline, hpair⟩ := Option.map_eq_some_iff.mp hread.symm
    obtain ⟨rfl, hleft⟩ := Prod.mk.inj hpair
    rw [typedLine, if_neg hrest]
    exact ⟨hline, hleft⟩

theorem inStep_lineRead {stdin : Bytes} {bufferSize : Nat} (hsize : 2 ≤ bufferSize)
    {d : Desk Remote} (h : InStep stdin d) : InStep stdin (d.lineRead bufferSize) := by
  obtain ⟨-, hleft⟩ := readLineStdin_typed hsize h.noNul
  constructor
  · change 0 ∉ (d.input.readLineStdin bufferSize).2.rest
    rw [hleft, discardRemainingStdinLine]
    intro hmem
    exact h.noNul ((List.dropWhile_sublist _).mem (List.mem_of_mem_drop hmem))
  · intro k
    change typedLine (d.input.readLineStdin bufferSize).2.rest k = typedLine stdin (d.prompts + 1 + k)
    rw [hleft, Nat.add_right_comm]
    exact h.lines (k + 1)

theorem inStep_step {stdin : Bytes} {β : Type} {op : ConsoleOp β} {d d' : Desk Remote} {answer : β}
    (hhonest : Honest fp β op d) (hanswer : ConsoleAnswers (Meets fp) β op d answer d')
    (h : InStep stdin d) : InStep stdin d' := by
  cases op with
  | printf notice => exact hanswer ▸ h
  | readLine bufferSize =>
      obtain ⟨-, rfl⟩ := hanswer
      exact inStep_lineRead hhonest h
  | feof => exact hanswer.2 ▸ h
  | requestServer request =>
      obtain ⟨remote, -, rfl⟩ := hanswer
      exact ⟨h.noNul, h.lines⟩
  | writeFile filename content => exact hanswer ▸ h

/-- If no NUL is typed, each prompt gets the line of its number, cut off where
its buffer ends: no line is read twice and none is passed over, whatever was
typed before it. -/
theorem prompts_inStep (hprint : ∀ q, Printable (fp.round q)) {stdin : Bytes} (hnul : 0 ∉ stdin)
    (fuel : Nat) :
    Guarded (ConsoleAnswers (Meets fp)) (ReadsLine stdin) (clientMain fp fuel)
      ⟨.more stdin, 0, Session.reset, false, none⟩ fun _ _ => True := by
  have hstart : InStep stdin ⟨.more stdin, 0, Session.reset, false, none⟩ :=
    ⟨hnul, fun k => congrArg _ (Nat.zero_add k).symm⟩
  have halong := (clientMain_honest hprint fuel (.more stdin) 0 none).along (InStep stdin)
    (fun _ _ _ _ _ => inStep_step) hstart
  apply (halong.mono fun _ _ _ => trivial).allow
  rintro β op d ⟨hhonest, hinStep⟩
  cases op with
  | readLine bufferSize =>
      rw [ReadsLine, (readLineStdin_typed hhonest hinStep.noNul).1, hinStep.lines 0]
      rfl
  | printf | feof | requestServer | writeFile => trivial

theorem prompts_inStep_login :
    Guarded (ConsoleAnswers (Meets overflowing)) (ReadsLine typedLogin) (clientMain overflowing 19)
      ⟨.more typedLogin, 0, Session.reset, false, none⟩ fun _ _ => True :=
  prompts_inStep printable_overflowing (by decide) 19

end AtmSystem.Model.Terminal
