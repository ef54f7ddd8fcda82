import AtmSystem.Model.Client
import AtmSystem.Safety.Framing
import AtmSystem.Bank.Entries
import AtmSystem.Bank.Run
import AtmSystem.Semantics.Numbers
import AtmSystem.Semantics.Requests

/-!
What the client sends is what the server reads. A text that is typed is one
line, so it is one line of the request; a number that is printed is read back;
and no request outgrows the buffers on its way. So the server does what the
flow asked for, with the numbers and texts the flow was given.
-/

namespace AtmSystem.Model

open Library Program

/-! ### Readers in sequence -/

/-- A reader and what is made of the text it returns. -/
theorem bind_run {α β : Type} {reader : Stdin α} {next : α → Stdin β} {stdin rest : Bytes} {b : β}
    (h : (reader >>= next).run stdin = some (b, rest)) :
    ∃ a more, reader.run stdin = some (a, more) ∧ (next a).run more = some (b, rest) := by
  rw [StateT.run_bind, Option.bind_eq_bind, Option.bind_eq_some_iff] at h
  obtain ⟨⟨a, more⟩, hread, hnext⟩ := h
  exact ⟨a, more, hread, hnext⟩

theorem guard_run {p : Prop} [Decidable p] {β : Type} {next : Stdin β} {stdin rest : Bytes} {b : β}
    (h : (guard p >>= fun _ => next).run stdin = some (b, rest)) :
    p ∧ next.run stdin = some (b, rest) := by
  by_cases hp : p
  · simpa [guard, hp] using h
  · simp [guard, hp] at h

theorem pure_run {β : Type} {b b' : β} {stdin rest : Bytes}
    (h : (pure b : Stdin β).run stdin = some (b', rest)) : b = b' := by
  rw [StateT.run_pure] at h
  cases h
  rfl

theorem lift_run {α : Type} {m : Option α} {a : α} {stdin rest : Bytes}
    (h : (StateT.lift m : Stdin α).run stdin = some (a, rest)) : m = some a := by
  rw [StateT.run_lift, Option.bind_eq_bind, Option.bind_eq_some_iff] at h
  obtain ⟨value, hvalue, hpure⟩ := h
  cases hpure
  exact hvalue

/-! ### What readers return -/

/-- A line, without what ends it, that fits a buffer. -/
structure Line (bufferSize : Nat) (text : Bytes) : Prop where
  noNewline : newline ∉ text
  noNul : 0 ∉ text
  length : text.length < bufferSize

instance (bufferSize : Nat) (text : Bytes) : Decidable (Line bufferSize text) :=
  decidable_of_iff (newline ∉ text ∧ 0 ∉ text ∧ text.length < bufferSize)
    ⟨fun ⟨h, h', h''⟩ => ⟨h, h', h''⟩, fun h => ⟨h.1, h.2, h.3⟩⟩

theorem Line.of_sublist {bufferSize : Nat} {text text' : Bytes} (h : Line bufferSize text)
    (hsub : text'.Sublist text) : Line bufferSize text' where
  noNewline := fun hmem => h.noNewline (hsub.subset hmem)
  noNul := fun hmem => h.noNul (hsub.subset hmem)
  length := lt_of_le_of_lt hsub.length_le h.length

/-- What `fgets` reads has a newline at its end at most. -/
theorem fgets_line {size : Nat} (hsize : 0 < size) {stdin buffer rest : Bytes}
    (h : fgets size stdin = some (buffer, rest)) :
    buffer.length < size ∧ ∃ body, newline ∉ body ∧ (buffer = body ∨ buffer = body ++ [newline]) := by
  have hne : stdin ≠ [] := by
    rintro rfl
    cases h
  have hfits : (stdin.take (size - 1)).length < size := by
    rw [List.length_take]
    omega
  obtain ⟨body, hbody, hread | ⟨more, hread⟩⟩ := exists_firstLine (stdin.take (size - 1))
  · -- no newline among the bytes that fit
    rw [← hread] at hbody
    rw [fgets_noNewline hne hbody] at h
    cases h
    exact ⟨hfits, _, hbody, .inl rfl⟩
  · have hstdin : stdin = body ++ newline :: (more ++ stdin.drop (size - 1)) := by
      conv => lhs; rw [← List.take_append_drop (size - 1) stdin, hread]
      simp
    rw [hread, List.length_append, List.length_cons] at hfits
    have hshort : body.length + 1 < size := by omega
    rw [hstdin, fgets_firstLine hbody hshort] at h
    cases h
    refine ⟨?_, body, hbody, .inr rfl⟩
    rw [List.length_append, List.length_singleton]
    exact hshort

theorem trimNewline_sublist (text : Bytes) : (trimNewline text).Sublist text := by
  rw [trimNewline, ← List.reverse_sublist, List.reverse_reverse]
  exact List.dropWhile_sublist _

/-- The newline at the end goes first. -/
theorem trimNewline_line (body : Bytes) : (trimNewline (body ++ [newline])).Sublist body := by
  have hdrop : trimNewline (body ++ [newline]) = trimNewline body := by
    rw [trimNewline, List.reverse_concat, List.dropWhile_cons_of_pos (by decide), trimNewline]
  rw [hdrop]
  exact trimNewline_sublist body

/-- `readLineStdin` can return this text. -/
def ReadLine (bufferSize : Nat) (text : Bytes) : Prop :=
  ∃ stdin rest, (readLineStdin bufferSize).run stdin = some (text, rest)

def ReadRequired (bufferSize : Nat) (text : Bytes) : Prop :=
  ∃ stdin rest, (readRequiredTextStdin bufferSize).run stdin = some (text, rest)

/-- A reader returns a line. -/
theorem ReadLine.line {bufferSize : Nat} (hsize : 0 < bufferSize) {text : Bytes}
    (h : ReadLine bufferSize text) : Line bufferSize text := by
  obtain ⟨stdin, rest, hread⟩ := h
  simp only [StateT.run, readLineStdin] at hread
  split at hread
  · cases hread
  rename_i buffer more hbuffer
  obtain ⟨hlength, body, hbody, hshape⟩ := fgets_line hsize hbuffer
  simp only [Option.some.injEq, Prod.mk.injEq] at hread
  obtain ⟨rfl, -⟩ := hread
  generalize hstring : buffer.takeWhile (· ≠ 0) = string
  have hprefix : string <+: buffer := hstring ▸ List.takeWhile_prefix _
  have hnul : 0 ∉ string := by
    rw [← hstring]
    intro hmem
    simpa using List.mem_takeWhile_imp hmem
  have hsub : (trimNewline string).Sublist body := by
    rcases hshape with rfl | rfl
    · exact (trimNewline_sublist string).trans hprefix.sublist
    · rcases List.prefix_concat_iff.mp hprefix with rfl | hbefore
      · exact trimNewline_line body
      · exact (trimNewline_sublist string).trans hbefore.sublist
  refine ⟨fun hmem => hbody (hsub.subset hmem),
    fun hmem => hnul ((trimNewline_sublist string).subset hmem), ?_⟩
  have hshorter := (trimNewline_sublist string).length_le
  have hfits := hprefix.length_le
  omega

/-- What `read_required_text_stdin` returns is trimmed and not empty. -/
theorem ReadRequired.line {bufferSize : Nat} (hsize : 0 < bufferSize) {text : Bytes}
    (h : ReadRequired bufferSize text) : Line bufferSize text ∧ Trimmed text ∧ text ≠ [] := by
  obtain ⟨stdin, rest, hread⟩ := h
  obtain ⟨line, more, hline, hchecked⟩ := bind_run hread
  obtain ⟨hfilled, hpure⟩ := guard_run hchecked
  cases pure_run hpure
  exact ⟨(ReadLine.line hsize ⟨stdin, more, hline⟩).of_sublist (trimWhitespace_sublist line),
    trimmed_trimWhitespace line, hfilled⟩

/-! ### What flows ask for -/

/-- The values of an `int`. -/
def IsInt (n : Int) : Prop := intMin ≤ n ∧ n ≤ intMax

instance (n : Int) : Decidable (IsInt n) := inferInstanceAs (Decidable (_ ∧ _))

namespace ClientRequest

/-- Its numbers are values of an `int`, and its texts are what the readers
return with the buffers of the flow. -/
def Typed : ClientRequest → Prop
  | .createAccount accountNo name pin => IsInt accountNo ∧ ReadRequired 64 name ∧ IsInt pin
  | .login accountNo pin => IsInt accountNo ∧ IsInt pin
  | .adminLogin username password => ReadLine 64 username ∧ ReadLine 64 password
  | .monthlySummary month => ReadLine 16 month
  | .viewAccountDetails accountNo | .viewAccountStatement accountNo | .lockAccount accountNo
  | .unlockAccount accountNo | .deleteAccount accountNo => IsInt accountNo
  | .viewAccountSummary accountNo month => IsInt accountNo ∧ ReadLine 16 month
  | .editAccount currentAccountNo newAccountNo newName newPin =>
      IsInt currentAccountNo ∧ IsInt newAccountNo ∧ ReadRequired 64 newName ∧ IsInt newPin
  | .recentTransactions limit => IsInt limit
  | .changeAdminPassword newPassword => ReadRequired 64 newPassword

/-- The command and the arguments the flow means. -/
def command : ClientRequest → Command
  | .createAccount accountNo name pin => .createAccount (some (accountNo, name, pin))
  | .login accountNo pin => .login (some (accountNo, pin))
  | .adminLogin username password => .adminLogin (some (username, password))
  | .monthlySummary month => .monthlySummary month
  | .viewAccountDetails accountNo => .viewAccountDetails (some accountNo)
  | .viewAccountStatement accountNo => .viewAccountStatement (some accountNo)
  | .viewAccountSummary accountNo month => .viewAccountSummary (some (accountNo, month))
  | .lockAccount accountNo => .lockAccount (some accountNo)
  | .unlockAccount accountNo => .unlockAccount (some accountNo)
  | .editAccount currentAccountNo newAccountNo newName newPin =>
      .editAccount (some (currentAccountNo, newAccountNo, newName, newPin))
  | .deleteAccount accountNo => .deleteAccount (some accountNo)
  | .recentTransactions limit => .recentTransactions (some limit)
  | .changeAdminPassword newPassword => .changeAdminPassword (some newPassword)

/-- A branch behind no check. -/
def inAnySession (session : Session) (branch : Db Response) : Db (Session × Response) := do
  return (session, ← branch)

/-- What the flow wants done: the `db_*` function of its command on what was
typed, behind the check of the session. -/
def wanted (fp : Rounding) (env : Environment) (session : Session) :
    ClientRequest → Db (Session × Response)
  | .createAccount accountNo name pin => inAnySession session do
      answerText "Account created successfully." (← dbCreateAccount env accountNo name pin)
  | .login accountNo pin => handleLogin session accountNo pin
  | .adminLogin username password => handleAdminLogin session username password
  | .monthlySummary month => asCustomer session fun accountNo => do
      answer (← dbBuildMonthlySummary fp env accountNo month)
  | .viewAccountDetails accountNo => asAdmin session do
      answer (← dbBuildAccountDetails accountNo)
  | .viewAccountStatement accountNo => asAdmin session do
      answer (← dbBuildMiniStatement accountNo)
  | .viewAccountSummary accountNo month => asAdmin session do
      answer (← dbBuildMonthlySummary fp env accountNo month)
  | .lockAccount accountNo => asAdmin session do
      answerText "Account locked." (← dbLockAccount accountNo)
  | .unlockAccount accountNo => asAdmin session do
      answerText "Account unlocked." (← dbUnlockAccount accountNo)
  | .editAccount currentAccountNo newAccountNo newName newPin => asAdmin session do
      answerText "Account updated successfully."
        (← dbEditAccount env currentAccountNo newAccountNo newName newPin)
  | .deleteAccount accountNo => asAdmin session do
      answerText "Account deleted." (← dbDeleteAccount accountNo)
  | .recentTransactions limit => asAdmin session do
      answer (← dbBuildRecentTransactions limit)
  | .changeAdminPassword newPassword => asAdmin session do
      answerText "Admin password updated."
        (← dbChangeAdminPassword env session.adminUsername newPassword)

theorem handleCommand_command (fp : Rounding) (env : Environment) (session : Session)
    (request : ClientRequest) :
    handleCommand fp env session request.command = request.wanted fp env session := by
  cases request <;> rfl

/-- The account a request gives a name to, and the name. -/
def names : ClientRequest → Option (Int × Bytes)
  | .createAccount accountNo name _ => some (accountNo, name)
  | .editAccount _ newAccountNo newName _ => some (newAccountNo, newName)
  | _ => none

end ClientRequest

/-! ### Flows -/

theorem parseInt_isInt {text : Bytes} {n : Int} (h : parseInt text = some n) : IsInt n := by
  unfold parseInt at h
  split at h
  · cases h
  split at h
  · cases h
  · cases h
    rename_i hrange
    rw [IsInt]
    omega

theorem readIntStdin_isInt {stdin rest : Bytes} {n : Int}
    (h : readIntStdin.run stdin = some (n, rest)) : IsInt n := by
  obtain ⟨text, more, -, hparse⟩ := bind_run h
  exact parseInt_isInt (lift_run hparse)

theorem readAccountNo_isInt {stdin rest : Bytes} {n : Int}
    (h : readAccountNo.run stdin = some (n, rest)) : IsInt n := by
  obtain ⟨value, more, hvalue, hchecked⟩ := bind_run h
  obtain ⟨-, hpure⟩ := guard_run hchecked
  cases pure_run hpure
  exact readIntStdin_isInt hvalue

theorem adminRequestForAccount_typed {make : Int → ClientRequest} {stdin rest : Bytes}
    {request : ClientRequest} (h : (adminRequestForAccount make).run stdin = some (request, rest))
    (hmake : ∀ n, IsInt n → (make n).Typed) : request.Typed := by
  obtain ⟨accountNo, more, hread, hpure⟩ := bind_run h
  cases pure_run hpure
  exact hmake accountNo (readAccountNo_isInt hread)

/-- Every flow sends a request made of what its readers return. -/
theorem clientFlows_typed {flow : Stdin ClientRequest} (hflow : flow ∈ clientFlows)
    {stdin rest : Bytes} {request : ClientRequest}
    (h : flow.run stdin = some (request, rest)) : request.Typed := by
  simp only [clientFlows, List.mem_cons, List.not_mem_nil, or_false] at hflow
  rcases hflow with rfl | rfl | rfl | rfl | rfl | rfl | rfl | rfl | rfl | rfl | rfl | rfl | rfl
  · obtain ⟨accountNo, _, haccountNo, h⟩ := bind_run h
    obtain ⟨name, _, hname, h⟩ := bind_run h
    obtain ⟨pin, _, hpin, h⟩ := bind_run h
    cases pure_run h
    exact ⟨readAccountNo_isInt haccountNo, ⟨_, _, hname⟩, readIntStdin_isInt hpin⟩
  · obtain ⟨accountNo, _, haccountNo, h⟩ := bind_run h
    obtain ⟨pin, _, hpin, h⟩ := bind_run h
    cases pure_run h
    exact ⟨readAccountNo_isInt haccountNo, readIntStdin_isInt hpin⟩
  · obtain ⟨username, _, husername, h⟩ := bind_run h
    obtain ⟨password, _, hpassword, h⟩ := bind_run h
    cases pure_run h
    exact ⟨⟨_, _, husername⟩, ⟨_, _, hpassword⟩⟩
  · obtain ⟨month, _, hmonth, h⟩ := bind_run h
    cases pure_run h
    exact ⟨_, _, hmonth⟩
  · exact adminRequestForAccount_typed h fun _ hn => hn
  · exact adminRequestForAccount_typed h fun _ hn => hn
  · exact adminRequestForAccount_typed h fun _ hn => hn
  · exact adminRequestForAccount_typed h fun _ hn => hn
  · obtain ⟨accountNo, _, haccountNo, h⟩ := bind_run h
    obtain ⟨month, _, hmonth, h⟩ := bind_run h
    cases pure_run h
    exact ⟨readAccountNo_isInt haccountNo, ⟨_, _, hmonth⟩⟩
  · obtain ⟨currentAccountNo, _, hcurrent, h⟩ := bind_run h
    obtain ⟨newAccountNo, _, hnew, h⟩ := bind_run h
    obtain ⟨newName, _, hname, h⟩ := bind_run h
    obtain ⟨newPin, _, hpin, h⟩ := bind_run h
    cases pure_run h
    exact ⟨readAccountNo_isInt hcurrent, readAccountNo_isInt hnew, ⟨_, _, hname⟩,
      readIntStdin_isInt hpin⟩
  · obtain ⟨accountNo, _, haccountNo, h⟩ := bind_run h
    obtain ⟨confirm, _, -, h⟩ := bind_run h
    obtain ⟨-, h⟩ := guard_run h
    cases pure_run h
    exact readAccountNo_isInt haccountNo
  · obtain ⟨limitText, _, -, h⟩ := bind_run h
    obtain ⟨limit, _, hlimit, h⟩ := bind_run h
    cases pure_run h
    have hvalue := lift_run hlimit
    split at hvalue
    · cases hvalue
      exact (by decide : IsInt 10)
    · exact parseInt_isInt hvalue
  · obtain ⟨newPassword, _, hpassword, h⟩ := bind_run h
    obtain ⟨confirmPassword, _, -, h⟩ := bind_run h
    obtain ⟨-, h⟩ := guard_run h
    cases pure_run h
    exact ⟨_, _, hpassword⟩

/-! ### The text of a request -/

theorem Line.mono {bufferSize bufferSize' : Nat} {text : Bytes} (h : Line bufferSize text)
    (hle : bufferSize ≤ bufferSize') : Line bufferSize' text :=
  ⟨h.noNewline, h.noNul, h.length.trans_le hle⟩

/-- A printed number is a line. -/
theorem IsInt.line {n : Int} (h : IsInt n) : Line 64 (formatInt n) := by
  have hbytes (b : UInt8) (hb : b ∈ formatInt n) : b ≠ newline ∧ b ≠ 0 := by
    rcases formatInt_bytes n b hb with hdigit | rfl
    · constructor <;> rintro rfl <;> cases hdigit
    · exact ⟨by decide, by decide⟩
  refine ⟨fun hmem => (hbytes _ hmem).1 rfl, fun hmem => (hbytes _ hmem).2 rfl, ?_⟩
  have hlength := formatInt_length h.1 h.2
  omega

theorem joinLines_cons (line : Bytes) (rest : List Bytes) :
    joinLines (line :: rest) = line ++ (rest.map (newline :: ·)).flatten := by
  induction rest generalizing line with
  | nil => simp [joinLines]
  | cons next rest ih =>
      rw [joinLines, ih next]
      · simp
      · exact List.cons_ne_nil _ _

/-- What is sent: the command and its fields as lines, without a NUL and well
within the buffers. -/
structure Sent (command : Bytes) (fields : List Bytes) (text : Bytes) : Prop where
  lines : splitLines text 10 = command :: fields
  noNul : 0 ∉ text
  length : text.length < maxMessageSize

theorem fields_length {size : Nat} {fields : List Bytes}
    (hfields : ∀ field ∈ fields, Line size field) :
    (fields.map (newline :: ·)).flatten.length ≤ size * fields.length := by
  induction fields with
  | nil => exact le_refl 0
  | cons field rest ih =>
      rw [List.forall_mem_cons] at hfields
      have hfirst := hfields.1.length
      have hrest := ih hfields.2
      simp only [List.map_cons, List.flatten_cons, List.length_append, List.length_cons]
      rw [Nat.mul_succ]
      omega

theorem requestText_sent {size : Nat} (hsize : size ≤ 512) {command : String} {fields : List Bytes}
    (hcommand : Line 64 (ascii command)) (hfields : ∀ field ∈ fields, Line size field)
    (hcount : fields.length ≤ 4) : Sent (ascii command) fields (requestText command fields) := by
  have hlength : (ascii command ++ (fields.map (newline :: ·)).flatten).length < 4096 := by
    have hfirst := hcommand.length
    have hrest := (fields_length hfields).trans (Nat.mul_le_mul hsize hcount)
    rw [List.length_append]
    omega
  have htext : requestText command fields = joinLines (ascii command :: fields) := by
    rw [requestText, snprintf, joinLines_cons, List.take_of_length_le]
    exact hlength.le.trans (by decide)
  rw [htext]
  constructor
  · apply splitLines_joinLines (List.cons_ne_nil _ _)
    · exact List.forall_mem_cons.mpr ⟨hcommand.noNewline, fun field hfield =>
        (hfields field hfield).noNewline⟩
    · rw [List.length_cons]
      omega
  · rw [joinLines_cons]
    intro hmem
    rcases List.mem_append.mp hmem with hfirst | hrest
    · exact hcommand.noNul hfirst
    · obtain ⟨piece, hpiece, hzero⟩ := List.mem_flatten.mp hrest
      obtain ⟨field, hfield, rfl⟩ := List.mem_map.mp hpiece
      rcases List.mem_cons.mp hzero with hnewline | hfieldZero
      · cases hnewline
      · exact (hfields field hfield).noNul hfieldZero
  · rw [joinLines_cons]
    exact hlength.trans (by decide)

section delivery

variable {command text : Bytes} {fields : List Bytes}

theorem Sent.fits (h : Sent command fields text) : Fits text := h.length.le.trans (by decide)

/-- It travels as one message. -/
theorem Sent.sends (h : Sent command fields text) (s : Socket) :
    Always SocketAnswers (sendMessage text) s fun done s' =>
      done = true ∧ s'.outgoing = s.outgoing ++ frame text := by
  apply (always_sendMessage h.noNul s).mono
  rintro done s' ⟨rfl, hmoved⟩
  rw [if_pos h.fits] at hmoved
  exact ⟨decide_eq_true h.fits, hmoved.outgoing⟩

/-- It is delivered whole. -/
theorem Sent.arrives (h : Sent command fields text) {s : Socket} {rest : Bytes}
    (hs : s.incoming = frame text ++ rest) :
    Always SocketAnswers (receiveMessage maxMessageSize) s fun answer s' =>
      answer = some text ∧ s'.incoming = rest := by
  apply (always_receiveMessage (by decide) h.fits hs).mono
  rintro answer s' ⟨rfl, hmoved⟩
  exact ⟨if_pos h.length, hmoved.behind hs⟩

end delivery

namespace ClientRequest

def word : ClientRequest → String
  | .createAccount .. => "CREATE_ACCOUNT"
  | .login .. => "LOGIN"
  | .adminLogin .. => "ADMIN_LOGIN"
  | .monthlySummary _ => "MONTHLY_SUMMARY"
  | .viewAccountDetails _ => "VIEW_ACCOUNT_DETAILS"
  | .viewAccountStatement _ => "VIEW_ACCOUNT_STATEMENT"
  | .viewAccountSummary .. => "VIEW_ACCOUNT_SUMMARY"
  | .lockAccount _ => "LOCK_ACCOUNT"
  | .unlockAccount _ => "UNLOCK_ACCOUNT"
  | .editAccount .. => "EDIT_ACCOUNT"
  | .deleteAccount _ => "DELETE_ACCOUNT"
  | .recentTransactions _ => "RECENT_TRANSACTIONS"
  | .changeAdminPassword _ => "CHANGE_ADMIN_PASSWORD"

def fields : ClientRequest → List Bytes
  | .createAccount accountNo name pin => [formatInt accountNo, name, formatInt pin]
  | .login accountNo pin => [formatInt accountNo, formatInt pin]
  | .adminLogin username password => [username, password]
  | .monthlySummary month => [month]
  | .viewAccountDetails accountNo | .viewAccountStatement accountNo | .lockAccount accountNo
  | .unlockAccount accountNo | .deleteAccount accountNo => [formatInt accountNo]
  | .viewAccountSummary accountNo month => [formatInt accountNo, month]
  | .editAccount currentAccountNo newAccountNo newName newPin =>
      [formatInt currentAccountNo, formatInt newAccountNo, newName, formatInt newPin]
  | .recentTransactions limit => [formatInt limit]
  | .changeAdminPassword newPassword => [newPassword]

theorem text_eq (request : ClientRequest) :
    request.text = requestText request.word request.fields := by
  cases request <;> rfl

theorem word_line (request : ClientRequest) : Line 64 (ascii request.word) := by
  cases request <;> simp only [word] <;> decide

theorem fields_count (request : ClientRequest) : request.fields.length ≤ 4 := by
  cases request <;> simp [fields]

/-- Every field is a line, a number or a text. -/
theorem Typed.fields {request : ClientRequest} (h : request.Typed) :
    ∀ field ∈ request.fields, Line 64 field := by
  have hmonth {month : Bytes} (hread : ReadLine 16 month) : Line 64 month :=
    (hread.line (by decide)).mono (by decide)
  have htext {text : Bytes} (hread : ReadLine 64 text) : Line 64 text := hread.line (by decide)
  have hname {name : Bytes} (hread : ReadRequired 64 name) : Line 64 name :=
    (hread.line (by decide)).1
  cases request <;>
    simp only [ClientRequest.fields, List.forall_mem_cons, List.not_mem_nil, false_imp_iff,
      implies_true, and_true]
  case createAccount accountNo name pin => exact ⟨h.1.line, hname h.2.1, h.2.2.line⟩
  case login accountNo pin => exact ⟨h.1.line, h.2.line⟩
  case adminLogin username password => exact ⟨htext h.1, htext h.2⟩
  case monthlySummary month => exact hmonth h
  case viewAccountSummary accountNo month => exact ⟨h.1.line, hmonth h.2⟩
  case editAccount currentAccountNo newAccountNo newName newPin =>
    exact ⟨h.1.line, h.2.1.line, hname h.2.2.1, h.2.2.2.line⟩
  case changeAdminPassword newPassword => exact hname h
  all_goals exact IsInt.line h

theorem Typed.sent {request : ClientRequest} (h : request.Typed) :
    Sent (ascii request.word) request.fields request.text := by
  rw [request.text_eq]
  exact requestText_sent (by decide) request.word_line h.fields request.fields_count

/-- A command with one number as its argument. -/
theorem parseRequest_number {fp : Rounding} (make : Option Int → Command) {word : String}
    (hread : ∀ x text, splitLines text 10 = [ascii word, x] →
      parseRequest fp text = make (parseInt x)) {n : Int} (hn : IsInt n) {text : Bytes}
    (hlines : splitLines text 10 = [ascii word, formatInt n]) :
    parseRequest fp text = make (some n) := by
  rw [hread (formatInt n) text hlines, parseInt_formatInt hn.1 hn.2]

/-- What the flow means is what the server reads. -/
theorem Typed.parseRequest (fp : Rounding) {request : ClientRequest} (h : request.Typed) :
    parseRequest fp request.text = request.command := by
  -- the texts of the numbers are hidden, so that only the dispatch is computed
  have hread {n : Int} (hn : IsInt n) : ∃ x, formatInt n = x ∧ parseInt x = some n :=
    ⟨_, rfl, parseInt_formatInt hn.1 hn.2⟩
  have hlines := h.sent.lines
  cases request
  case createAccount accountNo name pin =>
    obtain ⟨x, hx, haccountNo⟩ := hread h.1
    obtain ⟨y, hy, hpin⟩ := hread h.2.2
    simp only [word, ClientRequest.fields, hx, hy] at hlines
    rw [Model.parseRequest, hlines]
    change Command.createAccount (do return (← parseInt x, ← some name, ← parseInt y)) = _
    rw [haccountNo, hpin]
    rfl
  case login accountNo pin =>
    obtain ⟨x, hx, haccountNo⟩ := hread h.1
    obtain ⟨y, hy, hpin⟩ := hread h.2
    simp only [word, ClientRequest.fields, hx, hy] at hlines
    rw [Model.parseRequest, hlines]
    change Command.login (do return (← parseInt x, ← parseInt y)) = _
    rw [haccountNo, hpin]
    rfl
  case adminLogin username password =>
    simp only [word, ClientRequest.fields] at hlines
    rw [Model.parseRequest, hlines]
    rfl
  case monthlySummary month =>
    simp only [word, ClientRequest.fields] at hlines
    rw [Model.parseRequest, hlines]
    rfl
  case viewAccountSummary accountNo month =>
    obtain ⟨x, hx, haccountNo⟩ := hread h.1
    simp only [word, ClientRequest.fields, hx] at hlines
    rw [Model.parseRequest, hlines]
    change Command.viewAccountSummary (do return (← parseInt x, month)) = _
    rw [haccountNo]
    rfl
  case editAccount currentAccountNo newAccountNo newName newPin =>
    obtain ⟨x, hx, hcurrent⟩ := hread h.1
    obtain ⟨y, hy, hnew⟩ := hread h.2.1
    obtain ⟨z, hz, hpin⟩ := hread h.2.2.2
    simp only [word, ClientRequest.fields, hx, hy, hz] at hlines
    rw [Model.parseRequest, hlines]
    change Command.editAccount
      (do return (← parseInt x, ← parseInt y, ← some newName, ← parseInt z)) = _
    rw [hcurrent, hnew, hpin]
    rfl
  case recentTransactions limit =>
    apply parseRequest_number .recentTransactions _ h hlines
    intro x text hlines
    rw [word] at hlines
    rw [Model.parseRequest, hlines]
    rfl
  case changeAdminPassword newPassword =>
    simp only [word, ClientRequest.fields] at hlines
    rw [Model.parseRequest, hlines]
    rfl
  case viewAccountDetails accountNo =>
    apply parseRequest_number .viewAccountDetails _ h hlines
    intro x text hlines
    rw [word] at hlines
    rw [Model.parseRequest, hlines]
    rfl
  case viewAccountStatement accountNo =>
    apply parseRequest_number .viewAccountStatement _ h hlines
    intro x text hlines
    rw [word] at hlines
    rw [Model.parseRequest, hlines]
    rfl
  case lockAccount accountNo =>
    apply parseRequest_number .lockAccount _ h hlines
    intro x text hlines
    rw [word] at hlines
    rw [Model.parseRequest, hlines]
    rfl
  case unlockAccount accountNo =>
    apply parseRequest_number .unlockAccount _ h hlines
    intro x text hlines
    rw [word] at hlines
    rw [Model.parseRequest, hlines]
    rfl
  case deleteAccount accountNo =>
    apply parseRequest_number .deleteAccount _ h hlines
    intro x text hlines
    rw [word] at hlines
    rw [Model.parseRequest, hlines]
    rfl

/-! ### The name -/

/-- A name that has been read and trimmed is stored as it is. -/
theorem storedName_of_read {name : Bytes} (h : ReadRequired 64 name) :
    Bank.storedName name = name := by
  obtain ⟨hline, htrimmed, -⟩ := h.line (by decide)
  rw [Bank.storedName, snprintf, List.take_of_length_le (by have := hline.length; omega),
    trimWhitespace_of_trimmed htrimmed]

/-- A request that is answered OK has given the account its name. -/
theorem Typed.named (fp : Rounding) {request : ClientRequest} (h : request.Typed)
    {env : Environment} {session session' : Session} {t t' : Tables} {response : Response}
    (hturn : Bank.Turn fp env session t request.command response session' t')
    (hok : response.status = .ok) {accountNo : Int} {name : Bytes}
    (hnames : request.names = some (accountNo, name)) :
    ∃ row, t'.accounts.lookup accountNo = some row ∧ row.name = name := by
  cases request <;> cases hnames
  case createAccount pin =>
    cases hturn with
    | refused => cases hok
    | reported hread => cases hread
    | performed hintended hperforms =>
        cases hintended
        cases hperforms with
        | create hpositive hpin hname hnew =>
            refine ⟨Bank.newAccount accountNo name pin env.salt env.timestamp, ?_,
              storedName_of_read h.2.1⟩
            rw [Tables.lookup_insertAccount _ _ _ hnew, Bank.newAccount_accountNo, if_pos rfl]
  case editAccount currentAccountNo newPin =>
    cases hturn with
    | refused => cases hok
    | reported hread => cases hread
    | performed hintended hperforms =>
        cases Bank.asks_of_intended hintended
        cases hperforms with
        | rename hpositive hname hpin hrow =>
            rw [Tables.lookup_setIdentity, if_pos rfl, hrow, Option.map_some]
            exact ⟨_, rfl, storedName_of_read h.2.2.1⟩
        | renumber hpositive hnewPositive hname hpin hdistinct hrow hnew hnumber =>
            rw [Bank.lookup_renumbered _ _ _ _ _ hnew, if_neg (Ne.symm hdistinct), if_pos rfl]
            exact ⟨_, rfl, storedName_of_read h.2.2.1⟩

end ClientRequest

/-! ### From the prompt to the database -/

/-- The server does what the request wants: its text travels as one message and
is delivered whole, it is read as the command that is meant, that command is
carried out on the numbers and texts that were typed, and a name that the
request gives to an account is stored as it was typed. -/
structure Decoded (fp : Rounding) (request : ClientRequest) : Prop where
  sent : ∀ s, Always SocketAnswers (sendMessage request.text) s fun done s' =>
    done = true ∧ s'.outgoing = s.outgoing ++ frame request.text
  received : ∀ s rest, s.incoming = frame request.text ++ rest →
    Always SocketAnswers (receiveMessage maxMessageSize) s fun answer s' =>
      answer = some request.text ∧ s'.incoming = rest
  command : ∀ env, Bank.requested fp ⟨request.text, env⟩ = request.command
  handled : ∀ env session,
    handleRequest fp env session request.text = request.wanted fp env session
  named : ∀ env (s : ServerState) accountNo name, s.store.saved = none →
    request.names = some (accountNo, name) →
    (s.serve fp ⟨request.text, env⟩).1.status = .ok →
    ∃ row, (s.serve fp ⟨request.text, env⟩).2.store.tables.accounts.lookup accountNo = some row ∧
      row.name = name

end AtmSystem.Model
