import AtmSystem.Safety.Crashes
import AtmSystem.Safety.Serializable

/-!
Coming back. Whatever a database has been through, a start on which nothing
fails brings the server up, unless there is no admin and the environment names
no acceptable one. The first start that brings it up decides who the admin is;
the environment has no say any more, and the password changes when an admin
changes it.
-/

namespace AtmSystem.Bank

open Library Program Model

/-! ### A start -/

/-- The environment names an admin that may be created. -/
def NamesAdmin (startup : Startup) : Prop :=
  ∃ user pass, startup.adminUser = some user ∧ startup.adminPass = some pass ∧ user ≠ [] ∧
    8 ≤ pass.length

/-- How a start ends, with which tables, and whether the server is up. -/
inductive StartSettled (fp : Rounding) (faulty : Prop) (files : LegacyFiles) (startup : Startup)
    (t : Tables) : Bool → Store → Prop where
  | refused (h : faulty ∨ startup.opened ≠ .ok ()) :
      StartSettled fp faulty files startup t false ⟨t, none⟩
  | ended {t' : Tables} {up : Bool} {s : Store} (hopened : startup.opened = .ok ())
      (himports : Opens fp faulty files startup t t')
      (hseed : SeedSettled faulty startup.env startup.adminUser startup.adminPass t' up s) :
      StartSettled fp faulty files startup t up s

theorem startServer_settled {fp : Rounding} {faulty : Prop} (files : LegacyFiles)
    (startup : Startup) (t : Tables) :
    Always (SqlAnswers fp faulty) (startServer fp files startup) ⟨t, none⟩
      (StartSettled fp faulty files startup t) := by
  simp only [startServer, always_bind]
  apply (dbOpen_settled files startup).mono
  rintro opened s hsettled
  cases hsettled with
  | failed h => exact .refused h
  | opened hopened himports =>
      apply (dbSeedAdmin_settled startup.env startup.adminUser startup.adminPass).mono
      exact fun up s' hseed => .ended hopened himports hseed

/-- A migration leaves the admins alone. -/
theorem opens_admins {fp : Rounding} {faulty : Prop} {files : LegacyFiles} {startup : Startup}
    {t t' : Tables} (h : Opens fp faulty files startup t t') : t'.admins = t.admins := by
  have hlines (u : Tables) (lines : List LegacyTransaction) :
      (importTransactions u lines).admins = u.admins := by
    induction lines generalizing u with
    | nil => rfl
    | cons line rest ih => exact ih _
  cases h with
  | imported => exact hlines _ _

section lives

variable {fp : Rounding} {files : LegacyFiles} {p : Process}

/-- The server is up behind a start, or not, as the start has ended. -/
theorem start_settled (fp : Rounding) (files : LegacyFiles) (startup : Startup) (p : Process) :
    StartSettled fp startup.env.Faulty files startup p.tables
      (p.live fp files (.start startup)).2.serving
      (p.live fp files (.start startup)).2.server.store :=
  exec_of_always fp startup.env _ ⟨p.tables, none⟩ (startServer_settled files startup p.tables)

/-- What can be done is done, unless a call fails. -/
theorem performed_of_possible {env : Environment} {session session' : Session} {t t' u : Tables}
    {c : Command} {a : Action} {response : Response}
    (hturn : Turn fp env session t c response session' u) (hquiet : ¬ env.Faulty)
    (hintended : intended env session c = some a) (hperforms : a.Performs fp t t') :
    response = ⟨.ok, receipt t' a⟩ ∧ u = t' := by
  cases hturn with
  | refused h =>
      have hacceptable : Acceptable fp env session t c :=
        (acceptable_iff hintended).mpr ⟨t', hperforms⟩
      exact absurd hacceptable (h.resolve_left hquiet)
  | reported hread => cases asks_of_intended hintended <;> cases hread
  | loggedIn | counted | adminLoggedIn | loggedOut => cases hintended
  | performed hintended' hperforms' =>
      obtain rfl := Option.some.inj (hintended'.symm.trans hintended)
      obtain rfl := hperforms'.unique hperforms
      exact ⟨rfl, rfl⟩

/-- A start on which nothing fails brings the server up if and only if there is an
admin or the environment names one; it imports what is due, of the transactions
those in front of the first line that the database refuses; and whatever the
server is then asked to do it does, if it can be done and nothing fails. -/
theorem comes_back (fp : Rounding) (files : LegacyFiles) (t : Tables) (first : List Happening)
    {startup : Startup} (hopened : startup.opened = .ok ()) (hquiet : ¬ startup.env.Faulty) :
    let before := survived fp files (offline t) first
    let p := survived fp files (offline t) (first ++ [.lives (.start startup)])
    (p.serving = true ↔ before.tables.admins.rows ≠ [] ∨ NamesAdmin startup) ∧
    Imports fp False files startup before.tables p.tables ∧
    ∀ rest message a t', let q := survived fp files p rest
      q.serving = true → ¬ message.env.Faulty →
      intended message.env q.server.session (requested fp message) = some a →
      a.Performs fp q.tables t' →
      (q.live fp files (.client (.request message))).1 = some ⟨.ok, receipt t' a⟩ ∧
        (q.live fp files (.client (.request message))).2.tables = t' := by
  intro before p
  have hbefore : before.server.store.saved = none := survived_saved fp files rfl first
  have hp : p = (before.live fp files (.start startup)).2 := by
    change Machine.final (Process.happen fp files) (offline t) (first ++ _) = _
    rw [Machine.final_append]
    rfl
  refine ⟨?_, ?_, ?_⟩
  · have hsettled := start_settled fp files startup before
    rw [← hp] at hsettled
    generalize p.serving = up, p.server.store = store at hsettled
    cases hsettled with
    | refused h => exact absurd hopened (h.resolve_left hquiet)
    | ended _ himports hseed =>
        rw [← opens_admins himports]
        cases hseed with
        | present hsome => exact iff_of_true rfl (.inl hsome)
        | seeded hnone huser hpass hnonempty hlength =>
            exact iff_of_true rfl (.inr ⟨_, _, huser, hpass, hnonempty, hlength⟩)
        | refused h =>
            obtain ⟨hnone, hbad⟩ := h.resolve_left hquiet
            refine iff_of_false Bool.false_ne_true ?_
            rintro (hsome | ⟨user, pass, huser, hpass, hnonempty, hlength⟩)
            · exact hsome hnone
            · rcases hbad user pass huser hpass with hempty | hshort
              · exact hnonempty hempty
              · omega
  · obtain ⟨-, himports⟩ := started fp files startup before
    have hnothing : (startup.env.Faulty ∨ startup.opened ≠ .ok ()) = False := by
      simp [hquiet, hopened]
    rw [hp, ← hnothing]
    exact himports
  · intro rest message a t' q hserving hcalm hintended hperforms
    have hsaved : p.server.store.saved = none :=
      survived_saved fp files rfl (first ++ [.lives (.start startup)])
    have hq : q.server.store.saved = none := survived_saved fp files hsaved rest
    obtain ⟨response, hanswer, -, hturn⟩ := turn_live fp files hq hserving message
    obtain ⟨rfl, htables⟩ := performed_of_possible hturn hcalm hintended hperforms
    exact ⟨hanswer, htables⟩

end lives

/-- A first start dies while the admin is being created; the next one brings the
server up. -/
theorem comes_back_firstDay :
    (survived .exact adaOnly (offline Tables.empty)
      ([.dies (.start plainStartup) 9] ++ [.lives (.start plainStartup)])).serving = true := by
  have hback := comes_back .exact adaOnly Tables.empty [.dies (.start plainStartup) 9]
    (show plainStartup.opened = .ok () from rfl) plainStartup_quiet
  exact hback.1.mpr (.inr ⟨_, _, rfl, rfl, by decide, by decide⟩)

/-! ### The admin -/

/-- An admin asks for a new password. -/
def AsksForPassword (fp : Rounding) (session : Session) (event : LifeEvent) : Prop :=
  session.isAdmin = true ∧ ∃ message newPassword, event = .client (.request message) ∧
    requested fp message = .changeAdminPassword (some newPassword)

/-- What an event may do to the admins. -/
inductive AdminMoves (fp : Rounding) (session : Session) (event : LifeEvent) (t t' : Tables) :
    Prop where
  | same (h : t'.admins = t.admins)
  | seeded {row : Admin} (hnone : t.admins.rows = []) (hrows : t'.admins.rows = [row])
  | changed {username : Bytes} {passwordHash passwordSalt : Int64}
      (hasks : AsksForPassword fp session event)
      (h : t'.admins = (t.setAdminPassword username passwordHash passwordSalt).admins)

theorem adminMoves_turn {fp : Rounding} {message : Message} {session session' : Session}
    {t t' : Tables} {response : Response}
    (hturn : Turn fp message.env session t (requested fp message) response session' t') :
    AdminMoves fp session (.client (.request message)) t t' := by
  generalize hc : requested fp message = c at hturn
  cases hturn with
  | performed hintended hperforms =>
      cases hperforms with
      | changePassword =>
          cases asks_of_intended hintended with
          | changePassword hadmin => exact .changed ⟨hadmin, message, _, rfl, hc⟩ rfl
      | create | move | transfer | lock | unlock | rename | renumber | delete => exact .same rfl
  | refused | reported | loggedIn | counted | adminLoggedIn | loggedOut => exact .same rfl

theorem adminMoves_start {fp : Rounding} {faulty : Prop} {files : LegacyFiles} {startup : Startup}
    {session : Session} {t : Tables} {up : Bool} {s : Store}
    (h : StartSettled fp faulty files startup t up s) :
    AdminMoves fp session (.start startup) t (s.saved.getD s.tables) := by
  cases h with
  | refused => exact .same rfl
  | @ended t' _ _ hopened himports hseed =>
      have hadmins := opens_admins himports
      cases hseed with
      | present | refused => exact .same hadmins
      | @seeded user pass hnone =>
          have hfree : t'.admins.lookup (seededAdmin startup.env user pass).username = none := by
            rw [KeyedTable.lookup_eq_none_iff, hnone]
            exact List.forall_mem_nil _
          have hrows : (t'.admins.insertNew (seededAdmin startup.env user pass)).rows =
              [seededAdmin startup.env user pass] := by
            rw [KeyedTable.insertNew_rows hfree, hnone, List.nil_append]
          exact .seeded (hadmins ▸ hnone) hrows

theorem asksForPassword_sameBut {fp : Rounding} {session : Session} {event event' : LifeEvent}
    (hbut : SameBut event' event) (h : AsksForPassword fp session event') :
    AsksForPassword fp session event := by
  obtain ⟨hadmin, message, newPassword, rfl, hasked⟩ := h
  cases hbut with
  | refl => exact ⟨hadmin, message, newPassword, rfl, hasked⟩
  | request original faults => exact ⟨hadmin, original, newPassword, rfl, hasked⟩

theorem adminMoves_live (fp : Rounding) (files : LegacyFiles) {p : Process}
    (hsaved : p.server.store.saved = none) (event : LifeEvent) :
    AdminMoves fp p.server.session event p.tables (p.live fp files event).2.tables := by
  cases event with
  | start startup => exact adminMoves_start (start_settled fp files startup p)
  | client event =>
      cases hserving : p.serving with
      | false =>
          simp only [Process.live, hserving]
          exact .same rfl
      | true =>
          cases event with
          | connect =>
              simp only [Process.live, hserving, if_true]
              exact .same rfl
          | request message =>
              obtain ⟨response, -, -, hturn⟩ := turn_live fp files hsaved hserving message
              exact adminMoves_turn hturn

theorem adminMoves_happen (fp : Rounding) (files : LegacyFiles) {p : Process}
    (hsaved : p.server.store.saved = none) (happening : Happening) :
    AdminMoves fp p.server.session happening.event p.tables
      (p.happen fp files happening).2.tables := by
  refine happens_as_lived fp files p
    (fun event t => AdminMoves fp p.server.session event p.tables t) (fun _ => .same rfl)
    (adminMoves_live fp files hsaved) ?_ happening
  rintro event event' t hbut (h | ⟨hnone, hrows⟩ | ⟨hasks, h⟩)
  · exact .same h
  · exact .seeded hnone hrows
  · exact .changed (asksForPassword_sameBut hbut hasks) h

/-- In one of these happenings an admin asks for a new password. -/
def PasswordAsked (fp : Rounding) (files : LegacyFiles) (p : Process)
    (happenings : List Happening) : Prop :=
  ∃ before happening after, happenings = before ++ happening :: after ∧
    AsksForPassword fp (survived fp files p before).server.session happening.event

theorem AdminMoves.length_le {fp : Rounding} {session : Session} {event : LifeEvent}
    {t t' : Tables} (hmoves : AdminMoves fp session event t t')
    (h : t.admins.rows.length ≤ 1) : t'.admins.rows.length ≤ 1 := by
  cases hmoves with
  | same hadmins => rwa [hadmins]
  | seeded _ hrows => rw [hrows, List.length_singleton]
  | changed _ hadmins =>
      rw [hadmins]
      exact (List.length_map _).trans_le h

theorem exists_changed {t : Tables} {row : Admin} (hrow : row ∈ t.admins.rows) (username : Bytes)
    (passwordHash passwordSalt : Int64) :
    ∃ changed ∈ (t.setAdminPassword username passwordHash passwordSalt).admins.rows,
      changed.username = row.username := by
  refine ⟨_, List.mem_map_of_mem hrow, ?_⟩
  split <;> rfl

/-- An admin stays from happening to happening, and so does the password, until
a new one is asked for. -/
theorem admin_stays_or_asked {fp : Rounding} {files : LegacyFiles} {p : Process}
    (hsaved : p.server.store.saved = none) (happenings : List Happening) {row : Admin}
    (hrow : row ∈ p.tables.admins.rows) :
    ∃ row' ∈ (survived fp files p happenings).tables.admins.rows, row'.username = row.username ∧
      (row' = row ∨ PasswordAsked fp files p happenings) := by
  induction happenings generalizing p row with
  | nil => exact ⟨row, hrow, rfl, .inl rfl⟩
  | cons happening rest ih =>
      have hnext := survived_saved fp files hsaved [happening]
      cases adminMoves_happen fp files hsaved happening with
      | same hadmins =>
          obtain ⟨row', hrow', hname, hkept⟩ := ih hnext (hadmins ▸ hrow)
          refine ⟨row', hrow', hname, hkept.imp_right ?_⟩
          rintro ⟨before, asking, after, rfl, hasks⟩
          exact ⟨happening :: before, asking, after, rfl, hasks⟩
      | seeded hnone =>
          rw [hnone] at hrow
          cases hrow
      | @changed username passwordHash passwordSalt hasks hadmins =>
          obtain ⟨changed, hchanged, hsame⟩ :=
            exists_changed hrow username passwordHash passwordSalt
          rw [← hadmins] at hchanged
          obtain ⟨row', hrow', hname, -⟩ := ih hnext hchanged
          exact ⟨row', hrow', hname.trans hsame, .inr ⟨[], happening, rest, rfl, hasks⟩⟩

/-- Over a whole life there is one admin at most. Once there is one, the name
stays and so does the password, until an admin asks for another one: whatever
the environment of later starts says, whatever fails and wherever the server
dies. -/
theorem one_admin (fp : Rounding) (files : LegacyFiles) (first rest : List Happening) :
    let p := survived fp files (offline Tables.empty) first
    let q := survived fp files p rest
    p.tables.admins.rows.length ≤ 1 ∧ ∀ row ∈ p.tables.admins.rows,
      ∃ row' ∈ q.tables.admins.rows, row'.username = row.username ∧
        (row' = row ∨ PasswordAsked fp files p rest) := by
  intro p q
  have hsaved : p.server.store.saved = none := survived_saved fp files rfl first
  refine ⟨?_, ?_⟩
  · have hstart : (offline Tables.empty).tables.admins.rows.length ≤ 1 := Nat.zero_le 1
    refine (Machine.invariant (fun p : Process => p.server.store.saved = none ∧
      p.tables.admins.rows.length ≤ 1) (fun _ => True) ?_ (fun _ _ => trivial) ⟨rfl, hstart⟩).2
    rintro p happening - ⟨hsaved, hone⟩
    exact ⟨survived_saved fp files hsaved [happening],
      (adminMoves_happen fp files hsaved happening).length_le hone⟩
  · intro row hrow
    exact admin_stays_or_asked hsaved rest hrow

end AtmSystem.Bank
