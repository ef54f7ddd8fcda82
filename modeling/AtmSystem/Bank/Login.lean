import AtmSystem.Semantics.Calls
import AtmSystem.Bank.Action

/-!
Customer and admin login. A PIN is checked against the row of an unlocked
account only, and a check either opens the account, which clears its failed
attempts, or counts one more of them, the third of which locks it. Whatever
else happens, a login changes nothing.
-/

namespace AtmSystem.Bank

open Library Program Model

/-- The stored hash is the hash of this PIN under the stored salt. -/
def PinMatches (row : Account) (pin : Int) : Prop :=
  row.pinHash.toUInt64 = pinDigest row.salt.toUInt64 pin

instance (row : Account) (pin : Int) : Decidable (PinMatches row pin) :=
  inferInstanceAs (Decidable (_ = _))

instance (pin : Int) : Decidable (ValidPin pin) := inferInstanceAs (Decidable (_ ∧ _))

/-- A login that gets as far as comparing hashes. -/
def Checked (t : Tables) (accountNo pin : Int) (row : Account) : Prop :=
  ValidPin pin ∧ t.accounts.lookup accountNo = some row ∧ row.isLocked = 0

/-- The account exists, and the PIN has four digits and is not its PIN. -/
def Mismatch (t : Tables) (accountNo pin : Int) : Prop :=
  ValidPin pin ∧ ∃ row, t.accounts.lookup accountNo = some row ∧ ¬ PinMatches row pin

instance (t : Tables) (accountNo pin : Int) : Decidable (Mismatch t accountNo pin) :=
  decidable_of_iff
    (ValidPin pin ∧ (t.accounts.lookup accountNo).any fun row => !decide (PinMatches row pin)) <| by
    simp only [Mismatch, Option.any_eq_true, Bool.not_eq_true', decide_eq_false_iff_not]

/-- Count a failed attempt; the third one locks the account. -/
def strike (t : Tables) (accountNo : Int) (row : Account) : Tables :=
  t.setLoginState accountNo (row.failedAttempts + 1) (if 3 ≤ row.failedAttempts + 1 then 1 else 0)

/-- How a login ends: opened, counted, or refused. -/
inductive LoginSettled (faulty : Prop) (t : Tables) (accountNo pin : Int) :
    Option AccountInfo → Store → Prop where
  | opened {row : Account} (hchecked : Checked t accountNo pin row) (hmatch : PinMatches row pin) :
      LoginSettled faulty t accountNo pin
        (some { row.info accountNo with failedAttempts := 0, isLocked := 0 })
        ⟨t.setLoginState accountNo 0 0, none⟩
  | counted {row : Account} (hchecked : Checked t accountNo pin row)
      (hmismatch : ¬ PinMatches row pin) :
      LoginSettled faulty t accountNo pin none ⟨strike t accountNo row, none⟩
  | refused (h : faulty ∨ ∀ row, ¬ Checked t accountNo pin row) :
      LoginSettled faulty t accountNo pin none ⟨t, none⟩

/-- The admin exists, and the stored hash is that of the password. -/
def HoldsPassword (t : Tables) (username password : Bytes) : Prop :=
  ∃ row, t.admins.lookup username = some row ∧
    row.passwordHash.toUInt64 = adminDigest row.passwordSalt.toUInt64 username password

/-- The credentials of an admin. -/
def AdminMatches (t : Tables) (username password : Bytes) : Prop :=
  username ≠ [] ∧ password ≠ [] ∧ HoldsPassword t username password

variable {fp : Rounding} {faulty : Prop} {t : Tables}

theorem dbLogin_settled (accountNo pin : Int) :
    Always (SqlAnswers fp faulty) (dbLogin accountNo pin) ⟨t, none⟩
      (LoginSettled faulty t accountNo pin) := by
  have hfail (hf : faulty) : LoginSettled faulty t accountNo pin none ⟨t, none⟩ := .refused (.inl hf)
  by_cases hpin : pin < 1000 ∨ 9999 < pin
  · have hnone (row : Account) : ¬ Checked t accountNo pin row := by
      rintro ⟨hvalid, -, -⟩
      unfold ValidPin at hvalid
      omega
    simpa [dbLogin, hpin] using LoginSettled.refused (.inr hnone)
  have hvalid : ValidPin pin := by unfold ValidPin; omega
  cases hrow : t.accounts.lookup accountNo with
  | none =>
      have hnone (row : Account) : ¬ Checked t accountNo pin row := by simp [Checked, hrow]
      simpa [dbLogin, hpin, hrow] using ⟨hfail, LoginSettled.refused (.inr hnone)⟩
  | some row =>
  by_cases hlocked : row.isLocked = 0
  · have hchecked : Checked t accountNo pin row := ⟨hvalid, hrow, hlocked⟩
    by_cases hmatch : PinMatches row pin
    · have hopened : LoginSettled faulty t accountNo pin _ _ := .opened hchecked hmatch
      simp only [PinMatches] at hmatch
      simpa [dbLogin, hpin, hrow, hlocked, hmatch] using ⟨hfail, hopened⟩
    · have hcounted : LoginSettled faulty t accountNo pin _ _ := .counted hchecked hmatch
      simp only [PinMatches] at hmatch
      simp only [strike] at hcounted
      by_cases hthird : 3 ≤ row.failedAttempts + 1
      · simp only [hthird, if_true] at hcounted
        simpa [dbLogin, hpin, hrow, hlocked, hmatch, hthird] using ⟨hfail, hcounted⟩
      · simp only [hthird, if_false] at hcounted
        simpa [dbLogin, hpin, hrow, hlocked, hmatch, hthird] using ⟨hfail, hcounted⟩
  · have hnone (other : Account) : ¬ Checked t accountNo pin other := by
      rintro ⟨-, hother, hunlocked⟩
      simp_all
    simpa [dbLogin, hpin, hrow, hlocked] using ⟨hfail, LoginSettled.refused (.inr hnone)⟩

theorem dbAdminLogin_settled (username password : Bytes) :
    Always (SqlAnswers fp faulty) (dbAdminLogin username password) ⟨t, none⟩
      (fun answer s => s = ⟨t, none⟩ ∧
        (answer = true ∧ AdminMatches t username password ∨
          answer = false ∧ (faulty ∨ ¬ AdminMatches t username password))) := by
  by_cases hblank : username = [] ∨ password = []
  · have hnone : ¬ AdminMatches t username password := by
      rintro ⟨huser, hpass, -⟩
      exact hblank.elim huser hpass
    simp [dbAdminLogin, hblank, hnone]
  obtain ⟨huser, hpass⟩ := not_or.mp hblank
  cases hrow : t.admins.lookup username with
  | none =>
      have hnone : ¬ AdminMatches t username password := by simp [AdminMatches, HoldsPassword, hrow]
      simp [dbAdminLogin, hblank, always_execute, Statement.exec, hrow, hnone]
  | some row =>
      by_cases hmatch : row.passwordHash.toUInt64 =
          adminDigest row.passwordSalt.toUInt64 username password
      · have hadmin : AdminMatches t username password := ⟨huser, hpass, row, hrow, hmatch⟩
        simp [dbAdminLogin, hblank, always_execute, Statement.exec, hrow, hmatch, hadmin]
      · have hnone : ¬ AdminMatches t username password := by
          rintro ⟨-, -, other, hother, heq⟩
          simp_all
        simp [dbAdminLogin, hblank, always_execute, Statement.exec, hrow, hmatch, hnone]

end AtmSystem.Bank
