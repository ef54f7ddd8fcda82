import AtmSystem.Bank.Rows
import AtmSystem.Bank.Run
import AtmSystem.Semantics.Numbers

/-!
PINs. Three functions assemble the hash input of a PIN, two of them to store
its hash and one to compare it, and the hash goes through a signed column and
back. A book keeps the PIN that each account was last given; whatever has
happened since, the account opens to that PIN, and to no PIN of another digest.
-/

namespace AtmSystem.Bank

open Library Program Model

/-! ### The hash of a PIN -/

/-- All digits of a PIN get into `pin_str`, and all of `pin_str` into the
buffer that is hashed. -/
theorem hashInput_pin (salt : UInt64) {pin : Int} (h : ValidPin pin) :
    hashInput [wordBytes salt, pinText pin] = wordBytes salt ++ formatInt pin := by
  have hlength : (formatInt pin).length ≤ 4 := by
    unfold formatInt
    obtain ⟨hlow, hhigh⟩ := h
    rw [if_neg (by omega)]
    exact @formatNat_length _ 3 (by omega)
  have htext : pinText pin = formatInt pin := List.take_of_length_le (by omega)
  have hfits : (wordBytes salt).length + (formatInt pin).length ≤ 512 := by
    rw [length_wordBytes]
    omega
  rw [hashInput_salt, htext, appendIfFits, if_pos hfits]

/-- Two PINs have the same hash when their digests start with the same eight
bytes. -/
theorem pinDigest_eq_iff (salt : UInt64) {p q : Int} (hp : ValidPin p) (hq : ValidPin q) :
    pinDigest salt q = pinDigest salt p ↔
      (sha256 (wordBytes salt ++ formatInt q)).take 8 =
        (sha256 (wordBytes salt ++ formatInt p)).take 8 := by
  rw [pinDigest, pinDigest, digest64, digest64, wordOfBytes_sha256_eq_iff, hashInput_pin salt hp,
    hashInput_pin salt hq]

/-! ### The book of PINs -/

/-- What an answered command writes into the book. -/
def nextPins (pins : Int → Option Int) : Command → Status → Int → Option Int
  | .createAccount (some (accountNo, _, pin)), .ok => Function.update pins accountNo (some pin)
  | .editAccount (some (accountNo, newAccountNo, _, pin)), .ok =>
      Function.update (Function.update pins accountNo none) newAccountNo (some pin)
  | .deleteAccount (some accountNo), .ok => Function.update pins accountNo none
  | _, _ => pins

/-- The book after an exchange. -/
def pinsAfter (fp : Rounding) (pins : Int → Option Int) (x : Exchange) : Int → Option Int :=
  match x.input, x.output with
  | .request message, some response => nextPins pins (requested fp message) response.status
  | _, _ => pins

/-- What an action writes into the book. -/
def Action.writePins (pins : Int → Option Int) : Action → Int → Option Int
  | .create accountNo _ pin _ _ => Function.update pins accountNo (some pin)
  | .edit accountNo newAccountNo _ pin _ =>
      Function.update (Function.update pins accountNo none) newAccountNo (some pin)
  | .delete accountNo => Function.update pins accountNo none
  | _ => pins

theorem nextPins_err (pins : Int → Option Int) (c : Command) : nextPins pins c .err = pins := by
  unfold nextPins
  split <;> first | contradiction | rfl

theorem nextPins_of_intended {env : Environment} {session : Session} {c : Command} {a : Action}
    (pins : Int → Option Int) (h : intended env session c = some a) :
    nextPins pins c .ok = a.writePins pins := by
  cases asks_of_intended h <;> rfl

/-- An action writes nothing about accounts it does not name. -/
theorem writePins_other (pins : Int → Option Int) {a : Action} {k : Int} (h : k ∉ a.names) :
    a.writePins pins k = pins k := by
  cases a with
  | create accountNo name pin salt createdAt =>
      exact Function.update_of_ne (by simpa [Action.names] using h) _ _
  | edit accountNo newAccountNo name pin salt =>
      obtain ⟨hold, hnew⟩ : k ≠ accountNo ∧ k ≠ newAccountNo := by simpa [Action.names] using h
      exact (Function.update_of_ne hnew _ _).trans (Function.update_of_ne hold _ _)
  | delete accountNo => exact Function.update_of_ne (by simpa [Action.names] using h) _ _
  | _ => rfl

/-- The book has the PIN of every account. -/
def PinsHeld (pins : Int → Option Int) (t : Tables) : Prop :=
  ∀ k row, t.accounts.lookup k = some row →
    ∃ pin, pins k = some pin ∧ ValidPin pin ∧ PinMatches row pin

namespace PinsHeld

variable {fp : Rounding} {t t' : Tables} {pins : Int → Option Int}

theorem setLoginState (h : PinsHeld pins t) (accountNo failedAttempts isLocked : Int) :
    PinsHeld pins (t.setLoginState accountNo failedAttempts isLocked) := by
  apply EachAccount.setLoginState h
  exact fun _ _ => id

theorem performs {a : Action} (ha : a.Performs fp t t') (h : PinsHeld pins t) :
    PinsHeld (a.writePins pins) t' := by
  refine EachAccount.performs ha ?_ ?_ h
  · intro k row hcreates
    cases hcreates with
    | @created _ name pin salt createdAt hpositive hname hpin =>
        refine ⟨pin, Function.update_self .., hpin, ?_⟩
        simp [PinMatches, newAccount]
  · rintro k row k' row' _ hbecomes ⟨pin, hpins, hvalid, hmatches⟩
    cases hbecomes with
    | kept hother => exact ⟨pin, (writePins_other pins hother).trans hpins, hvalid, hmatches⟩
    | moved | sent | received | locked | unlocked => exact ⟨pin, hpins, hvalid, hmatches⟩
    | @renamed k name newPin salt row hname hpin =>
        refine ⟨newPin, Function.update_self .., hpin, ?_⟩
        simp [PinMatches]
    | @renumbered k k' name newPin salt row hdistinct hpositive hname hpin =>
        refine ⟨newPin, Function.update_self .., hpin, ?_⟩
        simp [PinMatches, renumbered]

theorem turn {env : Environment} {session session' : Session} {c : Command} {response : Response}
    (hturn : Turn fp env session t c response session' t') (h : PinsHeld pins t) :
    PinsHeld (nextPins pins c response.status) t' := by
  cases hturn with
  | refused => exact (nextPins_err pins c).symm ▸ h
  | reported hread =>
      have hsame : nextPins pins c .ok = pins := by
        cases c <;> first | rfl | exact hread.elim
      exact hsame.symm ▸ h
  | loggedIn => exact h.setLoginState _ _ _
  | counted => exact h.setLoginState _ _ _
  | adminLoggedIn => exact h
  | loggedOut => exact h
  | performed hintended hperforms =>
      rw [nextPins_of_intended pins hintended]
      exact h.performs hperforms

end PinsHeld

/-- The book is right at the end of every run. -/
theorem pinsHeld_run {fp : Rounding} {s : ServerState} (hopened : Opened s) (events : List Event) :
    PinsHeld ((history fp s events).foldl (pinsAfter fp) fun _ => none)
      (reached fp s events).store.tables := by
  refine monitored_run (fun pins _ t => PinsHeld pins t) (pinsAfter fp) ?_ ?_ (allowed_all events)
    hopened.saved ?_
  · intro pins x hinput h
    rw [pinsAfter, hinput]
    exact h
  · intro pins x message response hinput houtput _ hturn h
    simp only [pinsAfter, hinput, houtput]
    exact h.turn hturn
  · intro k row hrow
    exact (hopened.no_account hrow).elim

/-- Without failing calls a login to an account that is not locked succeeds for
the PINs that match. -/
theorem dbLogin_iff {fp : Rounding} {env : Environment} {t : Tables} {k pin : Int} {row : Account}
    (hquiet : ¬ env.Faulty) (hrow : t.accounts.lookup k = some row) (hunlocked : row.isLocked = 0)
    (hpin : ValidPin pin) :
    ((dbLogin k pin).exec fp env ⟨t, none⟩).1.isSome = true ↔ PinMatches row pin := by
  have hsettled := exec_of_always fp env _ ⟨t, none⟩ (dbLogin_settled k pin)
  generalize ((dbLogin k pin).exec fp env ⟨t, none⟩).1 = answer at hsettled ⊢
  generalize ((dbLogin k pin).exec fp env ⟨t, none⟩).2 = store at hsettled
  cases hsettled with
  | opened hchecked hmatch =>
      obtain rfl := Option.some.inj (hchecked.2.1.symm.trans hrow)
      exact iff_of_true rfl hmatch
  | counted hchecked hmismatch =>
      obtain rfl := Option.some.inj (hchecked.2.1.symm.trans hrow)
      exact iff_of_false Bool.false_ne_true hmismatch
  | refused h =>
      rcases h with hfaulty | hnone
      · exact absurd hfaulty hquiet
      · exact absurd ⟨hpin, hrow, hunlocked⟩ (hnone row)

/-- In every reachable state an account that is not locked opens to the PIN it
was last given, and to another PIN if and only if the digests of the two under
the stored salt start with the same eight bytes. -/
theorem login_opens_to_pin (fp : Rounding) {s : ServerState} (hopened : Opened s)
    (events : List Event) {env : Environment} (hquiet : ¬ env.Faulty) :
    ∀ row ∈ (reached fp s events).store.tables.accounts.rows, ∃ p,
      (history fp s events).foldl (pinsAfter fp) (fun _ => none) row.accountNo = some p ∧
      (row.isLocked = 0 →
        (∀ q, 1000 ≤ q → q ≤ 9999 →
          (((dbLogin row.accountNo q).exec fp env (reached fp s events).store).1.isSome = true ↔
            (sha256 (wordBytes row.salt.toUInt64 ++ formatInt q)).take 8 =
              (sha256 (wordBytes row.salt.toUInt64 ++ formatInt p)).take 8)) ∧
        ((dbLogin row.accountNo p).exec fp env (reached fp s events).store).1.isSome = true) := by
  intro row hmem
  have hrow := KeyedTable.lookup_of_mem hmem
  have hidle : (reached fp s events).store.saved = none := reached_saved hopened.saved events
  obtain ⟨p, hp, hvalid, hmatches⟩ := pinsHeld_run hopened events row.accountNo row hrow
  refine ⟨p, hp, ?_⟩
  intro hunlocked
  generalize (reached fp s events).store = store at hrow hidle ⊢
  obtain ⟨t, saved⟩ := store
  obtain rfl : saved = none := hidle
  refine ⟨?_, (dbLogin_iff hquiet hrow hunlocked hvalid).mpr hmatches⟩
  intro q hlow hhigh
  rw [dbLogin_iff hquiet hrow hunlocked ⟨hlow, hhigh⟩, PinMatches, hmatches, eq_comm]
  exact pinDigest_eq_iff _ hvalid ⟨hlow, hhigh⟩

/-- Someone opens account 7 and leaves. -/
def newCustomer : List Event :=
  [.connect, .request (plain "CREATE_ACCOUNT\n7\nAda\n1234"), .request (plain "LOGOUT")]

theorem login_opens_to_pin_newCustomer :
    ((dbLogin 7 1234).exec .exact (plain "").env
      (reached .exact emptyServer newCustomer).store).1.isSome = true := by
  have hrows : (reached .exact emptyServer newCustomer).store.tables.accounts.rows.map
      (fun row => (row.accountNo, row.isLocked)) = [(7, 0)] := by decide +kernel
  have hpins : (history .exact emptyServer newCustomer).foldl (pinsAfter .exact) (fun _ => none) 7 =
      some 1234 := by decide +kernel
  obtain ⟨row, hmem, hrow⟩ := List.mem_map.mp (hrows ▸ List.mem_singleton_self (7, 0))
  obtain ⟨hno, hunlocked⟩ := Prod.mk.inj hrow
  obtain ⟨p, hp, hopens⟩ :=
    login_opens_to_pin .exact emptyServer_opened newCustomer (plain_quiet "") row hmem
  rw [hno, hpins] at hp
  obtain rfl := Option.some.inj hp
  exact hno ▸ (hopens hunlocked).2

end AtmSystem.Bank
