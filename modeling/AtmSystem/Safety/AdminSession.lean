import AtmSystem.Safety.AdminPassword

/-!
Changing the admin password and logging in with it. The line that sets a
password is cut to 127 bytes and trimmed, the line that logs in is taken as it
is, and the session remembers 63 bytes of the username. So an admin whose
username the session can hold always gets a password changed, and logs in with
what was kept of the line; the line itself may be refused.
-/

namespace AtmSystem.Bank

open Library Program Model

/-- A request by its lines. -/
def requestOf (command : String) (args : List Bytes) : Message :=
  { plain command with content := ascii command ++ args.flatMap fun line => newline :: line }

theorem requestOf_quiet (command : String) (args : List Bytes) :
    ¬ (requestOf command args).env.Faulty := plain_quiet command

/-! ### Single requests -/

section requests

variable {fp : Rounding} {s : ServerState} {message : Message} {username : Bytes}

/-- The right credentials are let in. -/
theorem serve_adminLogin {password : Bytes} (hsaved : s.store.saved = none)
    (hlogin : requested fp message = .adminLogin (some (username, password)))
    (hquiet : ¬ message.env.Faulty) (hmatches : AdminMatches s.store.tables username password) :
    (s.serve fp message).1.status = .ok := by
  obtain ⟨response, session', t', hserve, hturn⟩ := serve_cases fp message hsaved
  rw [hserve]
  rw [hlogin] at hturn
  cases hturn with
  | refused h =>
      rcases h with hfaulty | hdenied
      · exact absurd hfaulty hquiet
      · exact absurd hmatches hdenied
  | reported => rfl
  | adminLoggedIn => rfl
  | performed => rfl

/-- An admin who is in the table changes their own password. -/
theorem serve_change {line : Bytes} (hsaved : s.store.saved = none)
    (hadmin : s.session.isAdmin = true) (hname : s.session.adminUsername = username)
    (huser : username ≠ []) (hrow : ∃ row, s.store.tables.admins.lookup username = some row)
    (hchange : requested fp message = .changeAdminPassword (some line))
    (hquiet : ¬ message.env.Faulty) (hkept : 8 ≤ (storedPassword line).length) :
    (s.serve fp message).1.status = .ok ∧
      HoldsPassword (s.serve fp message).2.store.tables username (storedPassword line) := by
  obtain ⟨row, hrow⟩ := hrow
  have hintended : intended message.env s.session (.changeAdminPassword (some line)) =
      some (.changePassword username line message.env.salt) := by
    simp [intended, hadmin, hname]
  obtain ⟨response, session', t', hserve, hturn⟩ := serve_cases fp message hsaved
  rw [hserve]
  rw [hchange] at hturn
  cases hturn with
  | refused h =>
      rcases h with hfaulty | hdenied
      · exact absurd hfaulty hquiet
      · rw [acceptable_iff hintended] at hdenied
        exact absurd ⟨_, .changePassword huser hkept hrow⟩ hdenied
  | reported hread => exact hread.elim
  | performed hperformed hperforms =>
      obtain rfl := Option.some.inj (hintended.symm.trans hperformed)
      cases hperforms with
      | changePassword _ _ hfound => exact ⟨rfl, setAdminPassword_holds hfound⟩

end requests

/-! ### Whose session it is -/

/-- The admin who logged in to open the session, after one more command. -/
def nextOpener (opener : Option Bytes) : Command → Status → Option Bytes
  | .adminLogin (some (username, _)), .ok => some username
  | .login _, .ok | .logout, .ok => none
  | _, _ => opener

/-- The admin who opened the session, after an exchange. -/
def openedBy (fp : Rounding) (opener : Option Bytes) (x : Exchange) : Option Bytes :=
  match x.input, x.output with
  | .request message, some response => nextOpener opener (requested fp message) response.status
  | _, _ => none

theorem nextOpener_err (opener : Option Bytes) (c : Command) :
    nextOpener opener c .err = opener := by
  unfold nextOpener
  split <;> first | contradiction | rfl

theorem nextOpener_of_intended {env : Environment} {session : Session} {c : Command} {a : Action}
    (opener : Option Bytes) (h : intended env session c = some a) :
    nextOpener opener c .ok = opener := by
  cases asks_of_intended h <;> rfl

/-- The session is that of the admin who opened it, whose row exists. -/
def AdminOpened (opener : Option Bytes) (session : Session) (t : Tables) : Prop :=
  ∀ username, opener = some username →
    session.isAdmin = true ∧ session.adminUsername = snprintf 64 username ∧ username ≠ [] ∧
      ∃ row, t.admins.lookup username = some row

theorem AdminOpened.none (session : Session) (t : Tables) : AdminOpened none session t := nofun

/-- No action takes an admin away. -/
theorem admin_stays {fp : Rounding} {a : Action} {t t' : Tables} (ha : a.Performs fp t t')
    {username : Bytes} (h : ∃ row, t.admins.lookup username = some row) :
    ∃ row, t'.admins.lookup username = some row := by
  obtain ⟨row, hrow⟩ := h
  cases ha with
  | @changePassword _ changed newPassword salt other huser hlength hother =>
      by_cases hname : username = changed
      · subst hname
        exact ⟨_, by rw [Tables.setAdminPassword, KeyedTable.lookup_modify, if_pos rfl, hrow]; rfl⟩
      · exact ⟨row, by rw [Tables.setAdminPassword, KeyedTable.lookup_modify, if_neg hname, hrow]⟩
  | _ => exact ⟨row, hrow⟩

theorem AdminOpened.turn {fp : Rounding} {env : Environment} {session session' : Session}
    {t t' : Tables} {c : Command} {response : Response} {opener : Option Bytes}
    (hturn : Turn fp env session t c response session' t') (h : AdminOpened opener session t) :
    AdminOpened (nextOpener opener c response.status) session' t' := by
  cases hturn with
  | refused => exact (nextOpener_err opener c).symm ▸ h
  | reported hread =>
      have hsame : nextOpener opener c .ok = opener := by
        cases c <;> first | rfl | exact hread.elim
      exact hsame.symm ▸ h
  | loggedIn => exact .none _ _
  | counted => exact h
  | adminLoggedIn hmatch =>
      intro username' hopener
      obtain rfl := Option.some.inj hopener
      obtain ⟨huser, _, row, hrow, _⟩ := hmatch
      exact ⟨rfl, rfl, huser, row, hrow⟩
  | loggedOut => exact .none _ _
  | performed hintended hperforms =>
      rw [nextOpener_of_intended opener hintended]
      intro username hopener
      obtain ⟨hadmin, hname, huser, hrow⟩ := h username hopener
      exact ⟨hadmin, hname, huser, admin_stays hperforms hrow⟩

/-- At the end of every run the session is that of the admin who opened it. -/
theorem adminOpened_run {fp : Rounding} {s : ServerState} (hsaved : s.store.saved = none)
    (events : List Event) :
    AdminOpened ((history fp s events).foldl (openedBy fp) none) (reached fp s events).session
      (reached fp s events).store.tables := by
  refine monitored_run AdminOpened (openedBy fp) ?_ ?_ (allowed_all events) hsaved (.none _ _)
  · intro opener x hinput _
    rw [openedBy, hinput]
    exact .none _ _
  · intro opener x message response hinput houtput _ hturn h
    simp only [openedBy, hinput, houtput]
    exact h.turn hturn

/-! ### The law for whole lines -/

/-- In this state, changing the password to a line succeeds and the same line
logs in afterwards. -/
def ChangeWorks (fp : Rounding) (s : ServerState) (username line : Bytes) : Prop :=
  ∀ change login, requested fp change = .changeAdminPassword (some line) →
    requested fp login = .adminLogin (some (username, line)) →
    ¬ change.env.Faulty → ¬ login.env.Faulty →
    (s.serve fp change).1.status = .ok ∧ ((s.serve fp change).2.serve fp login).1.status = .ok

/-- The admin of a freshly seeded database logs in. -/
def adminConnects (username password : Bytes) : List Event :=
  [.connect, .request (requestOf "ADMIN_LOGIN" [username, password])]

/-- The first admin of a new database, logged in. -/
def adminServer (username password : Bytes) : ServerState :=
  reached .exact ⟨seededStore username password, Session.reset⟩ (adminConnects username password)

/-- An admin session, and an acceptable line that does not become the password. -/
structure LineLost (username password line : Bytes) : Prop where
  session : (history .exact ⟨seededStore username password, Session.reset⟩
    (adminConnects username password)).foldl (openedBy .exact) none = some username
  acceptable : 8 ≤ (trimWhitespace line).length
  lost : ¬ ChangeWorks .exact (adminServer username password) username line

theorem adminConnects_opener {username password : Bytes} (huser : username ≠ [])
    (hpassword : 8 ≤ password.length)
    (hconnect : requested .exact (requestOf "ADMIN_LOGIN" [username, password]) =
      .adminLogin (some (username, password))) :
    (history .exact ⟨seededStore username password, Session.reset⟩
      (adminConnects username password)).foldl (openedBy .exact) none = some username := by
  obtain ⟨hsaved, _, _, hholds⟩ := (seededStore_sets huser hpassword).holds
  have hnonempty : password ≠ [] := by
    rintro rfl
    cases hpassword
  have hok := serve_adminLogin (s := ⟨seededStore username password, Session.reset⟩) hsaved
    hconnect (requestOf_quiet _ _) ⟨huser, hnonempty, hholds⟩
  have hopener : nextOpener none (requested .exact
      (requestOf "ADMIN_LOGIN" [username, password])) (ServerState.serve .exact
        ⟨seededStore username password, Session.reset⟩
        (requestOf "ADMIN_LOGIN" [username, password])).1.status = some username := by
    rw [hconnect, hok]
    rfl
  exact hopener

theorem lineLost_of_err {username password line : Bytes} (huser : username ≠ [])
    (hpassword : 8 ≤ password.length) (hline : 8 ≤ (trimWhitespace line).length)
    (hconnect : requested .exact (requestOf "ADMIN_LOGIN" [username, password]) =
      .adminLogin (some (username, password)))
    (hchange : requested .exact (requestOf "CHANGE_ADMIN_PASSWORD" [line]) =
      .changeAdminPassword (some line))
    (hlogin : requested .exact (requestOf "ADMIN_LOGIN" [username, line]) =
      .adminLogin (some (username, line)))
    (herr : (((adminServer username password).serve .exact
      (requestOf "CHANGE_ADMIN_PASSWORD" [line])).2.serve .exact
        (requestOf "ADMIN_LOGIN" [username, line])).1.status = .err) :
    LineLost username password line := by
  refine ⟨adminConnects_opener huser hpassword hconnect, hline, ?_⟩
  intro hworks
  have hok := (hworks _ _ hchange hlogin (requestOf_quiet _ _) (requestOf_quiet _ _)).2
  exact Status.noConfusion (hok.symm.trans herr)

/-- Blanks around the line, a line of 128 bytes, and a username of 64: in each
case the line is acceptable and does not log in. -/
theorem change_loses_line :
    LineLost (ascii "admin") (ascii "password") (ascii " newsecret ") ∧
      LineLost (ascii "admin") (ascii "password") (List.replicate 128 97) ∧
      LineLost (List.replicate 64 97) (ascii "password") (ascii "newsecret") := by
  refine ⟨lineLost_of_err ?_ ?_ ?_ ?_ ?_ ?_ ?_, lineLost_of_err ?_ ?_ ?_ ?_ ?_ ?_ ?_,
    lineLost_of_err ?_ ?_ ?_ ?_ ?_ ?_ ?_⟩
  all_goals decide +kernel

/-! ### What holds -/

/-- An admin whose username the session holds changes their password to what is
kept of any line that leaves eight characters, and logs in with it until they
change it again. -/
theorem change_then_login (fp : Rounding) {s : ServerState} (hsaved : s.store.saved = none)
    (events : List Event) {username line : Bytes} {change : Message}
    (hopener : (history fp s events).foldl (openedBy fp) none = some username)
    (hshort : username.length ≤ 63)
    (hchange : requested fp change = .changeAdminPassword (some line))
    (hquiet : ¬ change.env.Faulty) (hkept : 8 ≤ (storedPassword line).length) :
    let changed := ((reached fp s events).serve fp change).2
    ((reached fp s events).serve fp change).1.status = .ok ∧
      HoldsPassword changed.store.tables username (storedPassword line) ∧
      ∀ later, (∀ x ∈ history fp changed later, ¬ ChangesPassword fp username x) →
        ∀ login, requested fp login = .adminLogin (some (username, storedPassword line)) →
          ¬ login.env.Faulty → ((reached fp changed later).serve fp login).1.status = .ok := by
  intro changed
  have hidle : (reached fp s events).store.saved = none := reached_saved hsaved events
  obtain ⟨hadmin, hname, huser, hrow⟩ := adminOpened_run hsaved events username hopener
  have hwhole : snprintf 64 username = username := List.take_of_length_le hshort
  obtain ⟨hok, hholds⟩ := serve_change hidle hadmin (hname.trans hwhole) huser hrow hchange hquiet
    hkept
  refine ⟨hok, hholds, ?_⟩
  intro later hunchanged login hlogin hquiet'
  have hstill : changed.store.saved = none := (serve_turn fp _ change hidle).1
  have hnonempty : storedPassword line ≠ [] := by
    intro hempty
    rw [hempty] at hkept
    cases hkept
  obtain ⟨row, hfound, hdigest⟩ := hholds
  have hlater := (admin_unchanged_run hstill hunchanged).trans hfound
  exact serve_adminLogin (reached_saved hstill later) hlogin hquiet'
    ⟨huser, hnonempty, row, hlater, hdigest⟩

/-- The admin of a new database changes their password, and logs in with it on
the next connection. -/
theorem change_then_login_admin :
    ((reached .exact ((adminServer (ascii "admin") (ascii "password")).serve .exact
      (requestOf "CHANGE_ADMIN_PASSWORD" [ascii " newsecret "])).2 [.connect]).serve .exact
        (requestOf "ADMIN_LOGIN" [ascii "admin", ascii "newsecret"])).1.status = .ok := by
  have hset : SetsPassword .exact (ascii "admin") (ascii "password") _ :=
    seededStore_sets (by decide) (by decide)
  have hconnect : requested .exact (requestOf "ADMIN_LOGIN" [ascii "admin", ascii "password"]) =
      .adminLogin (some (ascii "admin", ascii "password")) := by decide +kernel
  have hopener := adminConnects_opener (by decide) (by decide) hconnect
  have hchange : requested .exact (requestOf "CHANGE_ADMIN_PASSWORD" [ascii " newsecret "]) =
      .changeAdminPassword (some (ascii " newsecret ")) := by decide +kernel
  have hlogin : requested .exact (requestOf "ADMIN_LOGIN" [ascii "admin", ascii "newsecret"]) =
      .adminLogin (some (ascii "admin", storedPassword (ascii " newsecret "))) := by decide +kernel
  obtain ⟨_, _, hlater⟩ := change_then_login .exact hset.holds.1
    (adminConnects (ascii "admin") (ascii "password")) hopener (by decide) hchange
    (requestOf_quiet _ _) (by decide +kernel)
  have hunchanged (s : ServerState) :
      ∀ x ∈ history .exact s [.connect], ¬ ChangesPassword .exact (ascii "admin") x := by
    intro x hx
    obtain rfl := List.mem_singleton.mp hx
    rintro ⟨_, ⟨_, _, hinput, _⟩, _⟩
    cases hinput
  have hdone := hlater [.connect] (hunchanged _) _ hlogin (requestOf_quiet _ _)
  rw [adminServer]
  exact hdone

end AtmSystem.Bank
