import AtmSystem.Bank.Run

/-!
Admin passwords. What is hashed is assembled in a buffer of 512 bytes, and a
piece that does not fit behind the pieces before it is left out. A password
that was left out when it was set is no password at all: any other one that is
left out as well logs in. As long as the password got into the buffer, only
that password does.
-/

namespace AtmSystem.Bank

open Library Program Model

/-! ### The buffer -/

/-- What stands in front of the password in the buffer. -/
def front (salt : UInt64) (username : Bytes) : Bytes := hashInput [wordBytes salt, username]

/-- The password fits into the buffer behind the salt and the username, or
behind the salt alone when the username has not fitted. -/
def Kept (username password : Bytes) : Prop :=
  (if 8 + username.length ≤ 512 then 8 + username.length else 8) + password.length ≤ 512

instance (username password : Bytes) : Decidable (Kept username password) :=
  inferInstanceAs (Decidable (_ ≤ _))

theorem length_front (salt : UInt64) (username : Bytes) :
    (front salt username).length =
      if 8 + username.length ≤ 512 then 8 + username.length else 8 := by
  rw [front, hashInput_salt, appendIfFits, length_wordBytes]
  split
  · rw [List.length_append, length_wordBytes]
  · exact length_wordBytes salt

theorem hashInput_admin (salt : UInt64) (username password : Bytes) :
    hashInput [wordBytes salt, username, password] =
      front salt username ++ if Kept username password then password else [] := by
  have happend : hashInput [wordBytes salt, username, password] =
      appendIfFits (front salt username) password := rfl
  rw [happend, appendIfFits, length_front]
  change (if Kept username password then front salt username ++ password
    else front salt username) = _
  by_cases hkept : Kept username password
  · rw [if_pos hkept, if_pos hkept]
  · rw [if_neg hkept, if_neg hkept, List.append_nil]

/-- A password that was kept is told apart from every other one. -/
theorem eq_of_hashInput_eq {salt : UInt64} {username p w : Bytes} (hkept : Kept username w)
    (hw : w ≠ [])
    (h : hashInput [wordBytes salt, username, p] = hashInput [wordBytes salt, username, w]) :
    p = w := by
  rw [hashInput_admin, hashInput_admin, if_pos hkept] at h
  have hpiece := List.append_cancel_left h
  split at hpiece
  · exact hpiece
  · exact absurd hpiece.symm hw

/-- All passwords that are left out give the same buffer. -/
theorem hashInput_of_not_kept {salt : UInt64} {username p w : Bytes} (hp : ¬ Kept username p)
    (hw : ¬ Kept username w) :
    hashInput [wordBytes salt, username, p] = hashInput [wordBytes salt, username, w] := by
  rw [hashInput_admin, hashInput_admin, if_neg hp, if_neg hw]

/-! ### Setting a password -/

section programs

variable {fp : Rounding} {env : Environment}

/-- A login that succeeds has found the hash of its password. -/
theorem matches_of_adminLogin {t : Tables} {username password : Bytes}
    (h : ((dbAdminLogin username password).exec fp env ⟨t, none⟩).1 = true) :
    AdminMatches t username password := by
  obtain ⟨_, ⟨_, hmatches⟩ | ⟨hfalse, _⟩⟩ := exec_of_always fp env _ ⟨t, none⟩
    (dbAdminLogin_settled username password)
  · exact hmatches
  · rw [hfalse] at h
    cases h

theorem adminLogin_of_matches {t : Tables} {username password : Bytes} (hquiet : ¬ env.Faulty)
    (h : AdminMatches t username password) :
    ((dbAdminLogin username password).exec fp env ⟨t, none⟩).1 = true := by
  obtain ⟨_, ⟨htrue, _⟩ | ⟨_, hfaulty | hdenied⟩⟩ := exec_of_always fp env _ ⟨t, none⟩
    (dbAdminLogin_settled username password)
  · exact htrue
  · exact absurd hfaulty hquiet
  · exact absurd h hdenied

/-- The stores in which the password of an admin has just been set: by seeding,
or by a change to what is kept of a line. -/
inductive SetsPassword (fp : Rounding) (username password : Bytes) : Store → Prop where
  | seeded {env : Environment} {t : Tables} {store : Store} (hnone : t.admins.rows = [])
      (hseed : (dbSeedAdmin env (some username) (some password)).exec fp env ⟨t, none⟩ =
        (true, store)) :
      SetsPassword fp username password store
  | changed {env : Environment} {t : Tables} {newPassword : Bytes} {store : Store}
      (hpassword : password = storedPassword newPassword)
      (hchange : (dbChangeAdminPassword env username newPassword).exec fp env ⟨t, none⟩ =
        (true, store)) :
      SetsPassword fp username password store

theorem setAdminPassword_holds {t : Tables} {username password : Bytes} {salt : UInt64}
    {row : Admin} (hrow : t.admins.lookup username = some row) :
    HoldsPassword (t.setAdminPassword username (adminDigest salt username password).toInt64
      salt.toInt64) username password := by
  refine ⟨{ row with passwordHash := (adminDigest salt username password).toInt64
                     passwordSalt := salt.toInt64 }, ?_, ?_⟩
  · rw [Tables.setAdminPassword, KeyedTable.lookup_modify, if_pos rfl, hrow, Option.map_some]
  · simp only [UInt64.toUInt64_toInt64]

/-- Whoever sets a password, its hash is stored, and it has eight characters. -/
theorem SetsPassword.holds {username password : Bytes} {store : Store}
    (h : SetsPassword fp username password store) :
    store.saved = none ∧ username ≠ [] ∧ 8 ≤ password.length ∧
      HoldsPassword store.tables username password := by
  cases h with
  | @seeded env t _ hnone hseed =>
      have hsettled := exec_of_always fp env _ ⟨t, none⟩
        (dbSeedAdmin_settled env (some username) (some password))
      rw [hseed] at hsettled
      dsimp only at hsettled
      generalize hanswer : true = answer at hsettled
      cases hsettled with
      | present hsome => exact absurd hnone hsome
      | refused => cases hanswer
      | seeded _ huser hpass hnonempty hlength =>
          obtain rfl := Option.some.inj huser
          obtain rfl := Option.some.inj hpass
          have hnew : t.admins.lookup username = none := by
            rw [KeyedTable.lookup_eq_none_iff, hnone]
            exact List.forall_mem_nil _
          refine ⟨rfl, hnonempty, hlength, seededAdmin env username password, ?_, ?_⟩
          · exact (KeyedTable.lookup_insertNew hnew username).trans (if_pos rfl)
          · simp only [seededAdmin, UInt64.toUInt64_toInt64]
  | @changed env t newPassword _ hpassword hchange =>
      obtain ⟨t', hperforms, _, hstore⟩ | ⟨_, hfalse, _⟩ := exec_of_always fp env _ ⟨t, none⟩
        (dbChangeAdminPassword_settled env username newPassword)
      · rw [hchange] at hstore
        obtain rfl : store = ⟨t', none⟩ := hstore
        subst hpassword
        cases hperforms with
        | changePassword huser hlength hrow =>
            exact ⟨rfl, huser, hlength, setAdminPassword_holds hrow⟩
      · rw [hchange] at hfalse
        cases hfalse

end programs

/-! ### Until the next change -/

/-- CHANGE_ADMIN_PASSWORD in a session of the admin, answered OK. -/
def ChangesPassword (fp : Rounding) (username : Bytes) (x : Exchange) : Prop :=
  ∃ newPassword, AnsweredOk fp (.changeAdminPassword newPassword) x ∧
    x.before.session.adminUsername = username

/-- A change is made in the session of the admin whose password it is. -/
theorem session_of_changePassword {env : Environment} {session : Session} {c : Command}
    {username newPassword : Bytes} {salt : UInt64}
    (h : intended env session c = some (.changePassword username newPassword salt)) :
    c = .changeAdminPassword (some newPassword) ∧ session.adminUsername = username := by
  cases asks_of_intended h with
  | changePassword => exact ⟨rfl, rfl⟩

/-- Only a change of password touches the admins. -/
theorem admins_performs {fp : Rounding} {a : Action} {t t' : Tables} (ha : a.Performs fp t t')
    {username : Bytes} (hother : ∀ newPassword salt, a ≠ .changePassword username newPassword salt) :
    t'.admins.lookup username = t.admins.lookup username := by
  cases ha with
  | @changePassword _ changed newPassword salt row huser hlength hrow =>
      have hne : username ≠ changed := by
        rintro rfl
        exact hother newPassword salt rfl
      rw [Tables.setAdminPassword, KeyedTable.lookup_modify, if_neg hne]
  | _ => rfl

/-- The row of an admin stays as it is until that admin changes it. -/
theorem admin_unchanged_run {fp : Rounding} {s : ServerState} {events : List Event}
    {username : Bytes} (hsaved : s.store.saved = none)
    (hno : ∀ x ∈ history fp s events, ¬ ChangesPassword fp username x) :
    (reached fp s events).store.tables.admins.lookup username =
      s.store.tables.admins.lookup username := by
  refine run_along
    (fun _ t => t.admins.lookup username = s.store.tables.admins.lookup username)
    (fun x => ¬ ChangesPassword fp username x) (fun _ _ h => h) ?_ hno hsaved rfl
  intro x message response hinput houtput hgood hturn h
  generalize hc : requested fp message = c at hturn
  generalize hsession : x.before.session = session at hturn
  generalize x.before.store.tables = t at hturn h
  generalize x.after.session = session' at hturn
  generalize x.after.store.tables = t' at hturn ⊢
  cases hturn with
  | refused => exact h
  | reported => exact h
  | loggedIn => exact h
  | counted => exact h
  | adminLoggedIn => exact h
  | loggedOut => exact h
  | performed hintended hperforms =>
      refine (admins_performs hperforms ?_).trans h
      rintro newPassword salt rfl
      obtain ⟨rfl, hname⟩ := session_of_changePassword hintended
      exact hgood ⟨some newPassword, ⟨message, _, hinput, hc, houtput, rfl⟩, hsession ▸ hname⟩

/-! ### Soundness -/

/-- The request that carries a username and a password fits into a message. -/
def Sendable (username password : Bytes) : Prop :=
  (ascii "ADMIN_LOGIN" ++ [newline] ++ username ++ [newline] ++ password).length < maxMessageSize

theorem sendable_iff (username password : Bytes) :
    Sendable username password ↔ username.length + password.length + 13 < 32768 := by
  have hword : (ascii "ADMIN_LOGIN").length = 11 := by decide
  simp only [Sendable, List.length_append, List.length_singleton, hword, maxMessageSize]
  omega

/-- Only the password that was set logs in, taking the digest for injective:
the two strings whose digests are compared are equal if the digests are. -/
def PasswordSound (fp : Rounding) (store : Store) (username password : Bytes) : Prop :=
  ∀ env p row, Sendable username p → store.tables.admins.lookup username = some row →
    (digest64 (hashInput [wordBytes row.passwordSalt.toUInt64, username, p]) =
        digest64 (hashInput [wordBytes row.passwordSalt.toUInt64, username, password]) →
      hashInput [wordBytes row.passwordSalt.toUInt64, username, p] =
        hashInput [wordBytes row.passwordSalt.toUInt64, username, password]) →
    ((dbAdminLogin username p).exec fp env store).1 = true → p = password

section soundness

variable {fp : Rounding} {t : Tables} {username password : Bytes}

/-- A login that is granted has the digest of the password that was set. -/
theorem digest_of_login {env : Environment} {p : Bytes} {row : Admin}
    (hholds : HoldsPassword t username password) (hrow : t.admins.lookup username = some row)
    (hlogin : ((dbAdminLogin username p).exec fp env ⟨t, none⟩).1 = true) :
    digest64 (hashInput [wordBytes row.passwordSalt.toUInt64, username, p]) =
      digest64 (hashInput [wordBytes row.passwordSalt.toUInt64, username, password]) := by
  obtain ⟨_, _, found, hfound, hdigest⟩ := matches_of_adminLogin hlogin
  obtain ⟨stored, hstored, hset⟩ := hholds
  obtain rfl := Option.some.inj (hrow.symm.trans hfound)
  obtain rfl := Option.some.inj (hrow.symm.trans hstored)
  exact hdigest.symm.trans hset

theorem sound_of_kept (hholds : HoldsPassword t username password) (hnonempty : password ≠ [])
    (hkept : Kept username password) : PasswordSound fp ⟨t, none⟩ username password := by
  intro env p row _ hrow hinjective hlogin
  exact eq_of_hashInput_eq hkept hnonempty (hinjective (digest_of_login hholds hrow hlogin))

/-- A username so long that no password that would be left out fits into the
message behind it. -/
theorem sound_of_long (hholds : HoldsPassword t username password)
    (hlong : 32250 ≤ username.length) : PasswordSound fp ⟨t, none⟩ username password := by
  intro env p row hsendable hrow hinjective hlogin
  have hequal := hinjective (digest_of_login hholds hrow hlogin)
  rw [sendable_iff] at hsendable
  have hkept : Kept username p := by
    unfold Kept
    rw [if_neg (by omega)]
    omega
  obtain ⟨_, hp, _⟩ := matches_of_adminLogin hlogin
  exact (eq_of_hashInput_eq hkept hp hequal.symm).symm

/-- There is another password of any length but 0. -/
theorem exists_other (password : Bytes) {length : Nat} (hlength : length ≠ 0) :
    ∃ p : Bytes, p.length = length ∧ p ≠ password := by
  by_cases hsame : List.replicate length 120 = password
  · refine ⟨List.replicate length 121, List.length_replicate, ?_⟩
    rw [← hsame]
    intro heq
    exact absurd (List.replicate_right_injective hlength heq) (by decide)
  · exact ⟨List.replicate length 120, List.length_replicate, hsame⟩

/-- A password that was left out is not the only one that logs in. -/
theorem not_sound_of_not_kept (hholds : HoldsPassword t username password) (huser : username ≠ [])
    (hdropped : ¬ Kept username password) (hshort : username.length < 32250) :
    ¬ PasswordSound fp ⟨t, none⟩ username password := by
  obtain ⟨length, hpositive, hdrop, hfits⟩ : ∃ length, length ≠ 0 ∧
      512 < (if 8 + username.length ≤ 512 then 8 + username.length else 8) + length ∧
      username.length + length + 13 < 32768 := by
    by_cases h : 8 + username.length ≤ 512
    · exact ⟨505 - username.length, by omega, by rw [if_pos h]; omega, by omega⟩
    · exact ⟨505, by omega, by rw [if_neg h]; omega, by omega⟩
  obtain ⟨p, rfl, hne⟩ := exists_other password hpositive
  have hp : ¬ Kept username p := not_le.mpr hdrop
  have hsendable : Sendable username p := (sendable_iff username p).mpr hfits
  have hnonempty : p ≠ [] := List.ne_nil_of_length_pos (Nat.pos_of_ne_zero hpositive)
  obtain ⟨row, hrow, hdigest⟩ := hholds
  have hmatches : AdminMatches t username p := by
    refine ⟨huser, hnonempty, row, hrow, ?_⟩
    rw [hdigest, adminDigest, adminDigest, hashInput_of_not_kept hp hdropped]
  intro hsound
  exact hne (hsound (plain "").env p row hsendable hrow
    (fun _ => hashInput_of_not_kept hp hdropped)
    (adminLogin_of_matches (plain_quiet _) hmatches))

end soundness

/-- After a password has been set and until that admin changes it, nothing else
logs in if and only if the password got into the buffer when it was set, or
the username leaves no room in a message for one that does not. -/
theorem password_sound_iff_kept (fp : Rounding) {username password : Bytes} {store : Store}
    (hset : SetsPassword fp username password store) (session : Session) (later : List Event)
    (hunchanged : ∀ x ∈ history fp ⟨store, session⟩ later, ¬ ChangesPassword fp username x) :
    PasswordSound fp (reached fp ⟨store, session⟩ later).store username password ↔
      Kept username password ∨ 32250 ≤ username.length := by
  obtain ⟨hsaved, huser, hlength, hholds⟩ := hset.holds
  have hrow : (reached fp ⟨store, session⟩ later).store.tables.admins.lookup username =
      store.tables.admins.lookup username := admin_unchanged_run hsaved hunchanged
  have hidle : (reached fp ⟨store, session⟩ later).store.saved = none := reached_saved hsaved later
  generalize (reached fp ⟨store, session⟩ later).store = s at hrow hidle
  obtain ⟨t, saved⟩ := s
  obtain rfl : saved = none := hidle
  have hstill : HoldsPassword t username password := by
    obtain ⟨row, hstored, hdigest⟩ := hholds
    exact ⟨row, hrow.trans hstored, hdigest⟩
  have hnonempty : password ≠ [] := by
    rintro rfl
    cases hlength
  constructor
  · intro hsound
    by_contra hcondition
    obtain ⟨hdropped, hshort⟩ := not_or.mp hcondition
    exact not_sound_of_not_kept hstill huser hdropped (not_le.mp hshort) hsound
  · rintro (hkept | hlong)
    · exact sound_of_kept hstill hnonempty hkept
    · exact sound_of_long hstill hlong

/-- The store after seeding an admin on an empty database. -/
def seededStore (username password : Bytes) : Store :=
  ((dbSeedAdmin (plain "").env (some username) (some password)).exec .exact (plain "").env
    ⟨Tables.empty, none⟩).2

theorem seededStore_sets {username password : Bytes} (huser : username ≠ [])
    (hlength : 8 ≤ password.length) :
    SetsPassword .exact username password (seededStore username password) := by
  have hanswer : ((dbSeedAdmin (plain "").env (some username) (some password)).exec .exact
      (plain "").env ⟨Tables.empty, none⟩).1 = true := by
    have hsettled := exec_of_always .exact (plain "").env _ ⟨Tables.empty, none⟩
      (dbSeedAdmin_settled (plain "").env (some username) (some password))
    generalize ((dbSeedAdmin (plain "").env (some username) (some password)).exec .exact
      (plain "").env ⟨Tables.empty, none⟩).2 = store at hsettled
    generalize ((dbSeedAdmin (plain "").env (some username) (some password)).exec .exact
      (plain "").env ⟨Tables.empty, none⟩).1 = answer at hsettled ⊢
    cases hsettled with
    | present => rfl
    | seeded => rfl
    | refused h =>
        rcases h with hfaulty | ⟨_, hunacceptable⟩
        · exact absurd hfaulty (plain_quiet _)
        · rcases hunacceptable username password rfl rfl with hempty | hshort
          · exact absurd hempty huser
          · omega
  have hseed : (dbSeedAdmin (plain "").env (some username) (some password)).exec .exact
      (plain "").env ⟨Tables.empty, none⟩ = (true, seededStore username password) :=
    Prod.ext hanswer rfl
  exact .seeded rfl hseed

/-- A username of five characters leaves no room for a password of 500. -/
theorem long_password_dropped :
    SetsPassword .exact (ascii "admin") (List.replicate 500 97)
        (seededStore (ascii "admin") (List.replicate 500 97)) ∧
      ¬ PasswordSound .exact (seededStore (ascii "admin") (List.replicate 500 97)) (ascii "admin")
        (List.replicate 500 97) := by
  have hset : SetsPassword .exact (ascii "admin") (List.replicate 500 97) _ :=
    seededStore_sets (by decide) (by decide +kernel)
  refine ⟨hset, ?_⟩
  obtain ⟨hsaved, huser, _, hholds⟩ := hset.holds
  generalize seededStore (ascii "admin") (List.replicate 500 97) = s at hsaved hholds ⊢
  obtain ⟨t, saved⟩ := s
  obtain rfl : saved = none := hsaved
  exact not_sound_of_not_kept hholds huser (by decide +kernel) (by decide +kernel)

theorem password_sound_iff_kept_seeded :
    PasswordSound .exact
        (reached .exact ⟨seededStore (ascii "admin") (ascii "password"), Session.reset⟩
          [.connect]).store (ascii "admin") (ascii "password") ↔
      Kept (ascii "admin") (ascii "password") ∨ 32250 ≤ (ascii "admin").length := by
  refine password_sound_iff_kept .exact (seededStore_sets (by decide) (by decide)) Session.reset
    [.connect] ?_
  intro x hx
  obtain rfl := List.mem_singleton.mp hx
  rintro ⟨_, ⟨_, _, hinput, _⟩, _⟩
  cases hinput

end AtmSystem.Bank
