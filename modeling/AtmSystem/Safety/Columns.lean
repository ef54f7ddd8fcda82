import AtmSystem.Safety.ClientRequests
import AtmSystem.Safety.FiniteAmounts
import AtmSystem.Safety.Lockout
import AtmSystem.Safety.MiniStatement
import AtmSystem.Safety.Restarts

/-!
How long the columns of the tables can get. Account numbers are values of an
`int` and a counter of failed logins stays between 0 and 3, whoever writes them;
a timestamp has at most 31 bytes, from the clock and from the legacy file; and
every amount and balance is a number that a reading or a rounding gave. So what
`%d`, `%s` and `%.2f` print of a column has a bound in every state of every
life of a server.
-/

namespace AtmSystem.Bank

open Library Model

/-! ### Numbers that print short -/

/-- `%.2f` prints at most 317 characters of this number. -/
def Printable (x : Double) : Prop := (formatAmount x).length ≤ 317

instance : DecidablePred Printable := fun _ => inferInstanceAs (Decidable (_ ≤ _))

theorem printable_zero : Printable 0 := by decide +kernel

theorem printable_nan : Printable .nan := by decide

theorem printable_posInf : Printable .posInf := by decide

theorem printable_negInf : Printable .negInf := by decide

section printable

variable {fp : Rounding} (hprint : ∀ q, Printable (fp.round q))

include hprint

theorem printable_add (x y : Double) : Printable (x.add fp y) := by
  cases x <;> cases y <;> first
    | exact hprint _
    | exact printable_nan
    | exact printable_posInf
    | exact printable_negInf

theorem printable_sub (x y : Double) : Printable (x.sub fp y) := by
  cases x <;> cases y <;> first
    | exact hprint _
    | exact printable_nan
    | exact printable_posInf
    | exact printable_negInf

theorem printable_newBalance (kind : Movement) (balance amount : Double) :
    Printable (kind.newBalance fp balance amount) := by
  unfold Movement.newBalance
  split
  · exact printable_add hprint _ _
  · exact printable_sub hprint _ _

theorem printable_signed (negative : Bool) (x : Double) : Printable (x.signed fp negative) := by
  cases x with
  | fin q => exact hprint _
  | nan => exact printable_nan
  | negInf => exact printable_negInf
  | posInf =>
      cases negative with
      | false => exact printable_posInf
      | true => exact printable_negInf

theorem printable_strtod {text rest : Bytes} {x : Double} (h : strtod fp text = some (x, rest)) :
    Printable x := by
  simp only [strtod, Option.map_eq_some_iff, Prod.mk.injEq] at h
  obtain ⟨⟨magnitude, _⟩, -, rfl, -⟩ := h
  exact printable_signed hprint _ _

theorem printable_parseDouble {text : Bytes} {x : Double} (h : parseDouble fp text = some x) :
    Printable x := by
  unfold parseDouble at h
  split at h
  · cases h
  · rename_i parsed rest hread
    split at h
    · cases h
    · cases h
      exact printable_strtod hprint hread

theorem printable_scanDouble {text : Bytes} {x : Double} (h : scanDouble fp text = some x) :
    Printable x := by
  unfold scanDouble at h
  split at h
  · cases h
  · obtain ⟨⟨parsed, rest⟩, hread, rfl⟩ := Option.map_eq_some_iff.mp h
    exact printable_strtod hprint hread

end printable

/-! ### What is asked for and what is imported -/

/-- The number and the amount that a command may have stored. -/
def Sized : Command → Prop
  | .createAccount (some (accountNo, _)) => IsInt accountNo
  | .editAccount (some (_, newAccountNo, _)) => IsInt newAccountNo
  | .deposit (some amount) | .withdraw (some amount) => Printable amount
  | .transfer (some (_, amount)) | .adminCredit (some (_, amount))
  | .adminDebit (some (_, amount)) => Printable amount
  | _ => True

def Action.Sized : Action → Prop
  | .create accountNo .. | .edit _ accountNo .. => IsInt accountNo
  | .move _ _ amount _ | .transfer _ _ amount _ => Printable amount
  | _ => True

theorem intLine_isInt {lines : List Bytes} {i : Nat} {n : Int} (h : intLine lines i = some n) :
    IsInt n := by
  obtain ⟨line, -, hparse⟩ := Option.bind_eq_some_iff.mp h
  exact parseInt_isInt hparse

theorem parseRequest_sized {fp : Rounding} (hprint : ∀ q, Printable (fp.round q)) (text : Bytes) :
    Sized (parseRequest fp text) := by
  have hbranch {c : Prop} [Decidable c] {a b : Command} (ha : Sized a) (hb : Sized b) :
      Sized (if c then a else b) := by
    split
    · exact ha
    · exact hb
  unfold parseRequest
  generalize splitLines text 10 = lines
  have hamount {i : Nat} {x : Double} (h : doubleLine fp lines i = some x) : Printable x := by
    obtain ⟨line, -, hparse⟩ := Option.bind_eq_some_iff.mp h
    exact printable_parseDouble hprint hparse
  have hown (make : Option Double → Command) (hnone : Sized (make none))
      (hsome : ∀ amount, Printable amount → Sized (make (some amount))) :
      Sized (make (doubleLine fp lines 1)) := by
    cases hdouble : doubleLine fp lines 1 with
    | none => exact hnone
    | some amount => exact hsome amount (hamount hdouble)
  have hother (make : Option (Int × Double) → Command) (hnone : Sized (make none))
      (hsome : ∀ accountNo amount, Printable amount → Sized (make (some (accountNo, amount)))) :
      Sized (make (accountAndAmount fp lines)) := by
    rw [accountAndAmount]
    cases intLine lines 1 with
    | none => exact hnone
    | some accountNo =>
    cases hdouble : doubleLine fp lines 2 with
    | none => exact hnone
    | some amount => exact hsome accountNo amount (hamount hdouble)
  have hdeposit := hown .deposit trivial fun _ h => h
  have hwithdraw := hown .withdraw trivial fun _ h => h
  have htransfer := hother .transfer trivial fun _ _ h => h
  have hcredit := hother .adminCredit trivial fun _ _ h => h
  have hdebit := hother .adminDebit trivial fun _ _ h => h
  dsimp only
  refine hbranch trivial (hbranch ?_ ?_)
  · cases hno : intLine lines 1 with
    | none => trivial
    | some accountNo =>
    cases lines[2]? with
    | none => trivial
    | some name =>
    cases intLine lines 3 with
    | none => trivial
    | some pin => exact intLine_isInt hno
  iterate 4
    refine hbranch trivial ?_
  refine hbranch hdeposit (hbranch hwithdraw (hbranch htransfer ?_))
  iterate 10
    refine hbranch trivial ?_
  refine hbranch hcredit (hbranch hdebit (hbranch ?_ ?_))
  · cases intLine lines 1 with
    | none => trivial
    | some accountNo =>
    cases hnew : intLine lines 2 with
    | none => trivial
    | some newAccountNo =>
    cases lines[3]? with
    | none => trivial
    | some name =>
    cases intLine lines 4 with
    | none => trivial
    | some pin => exact intLine_isInt hnew
  · exact hbranch trivial (hbranch trivial trivial)

theorem sized_of_intended {env : Environment} {session : Session} {c : Command} {a : Action}
    (hc : Sized c) (h : intended env session c = some a) : a.Sized := by
  cases asks_of_intended h with
  | lock | unlock | delete | changePassword => trivial
  | _ => exact hc

theorem toInt32_isInt (n : Int) : IsInt (toInt32 n) := by
  have hlow := BitVec.le_toInt (BitVec.ofInt 32 n)
  have hhigh := BitVec.toInt_lt (x := BitVec.ofInt 32 n)
  rw [IsInt, toInt32, intMin, intMax]
  omega

theorem scanField_length {width : Nat} {text field rest : Bytes}
    (h : scanField width text = some (field, rest)) : field.length ≤ width := by
  simp only [scanField] at h
  split at h
  · cases h
  · cases h
    have hprefix := (List.takeWhile_sublist (· ≠ (124 : UInt8)) (l := text.take width)).length_le
    rw [List.length_take] at hprefix
    omega

theorem scanLegacyTransaction_sized {fp : Rounding} (hprint : ∀ q, Printable (fp.round q))
    {text : Bytes} {line : LegacyTransaction} (h : scanLegacyTransaction fp text = some line) :
    line.timestamp.length ≤ 31 ∧ Printable line.amount := by
  simp only [scanLegacyTransaction, Option.bind_eq_bind, Option.bind_eq_some_iff] at h
  obtain ⟨⟨timestamp, _⟩, hfield, _, -, _, -, ⟨accountNo, _⟩, -, _, -, ⟨rawType, _⟩, -, _, -, _, -,
    amount, hamount, hline⟩ := h
  cases hline
  exact ⟨scanField_length hfield, printable_scanDouble hprint hamount⟩

theorem fileTransactions_sized {fp : Rounding} (hprint : ∀ q, Printable (fp.round q))
    {files : LegacyFiles} {line : LegacyTransaction} (h : line ∈ fileTransactions fp files) :
    line.timestamp.length ≤ 31 ∧ Printable line.amount := by
  rw [fileTransactions] at h
  split at h
  · cases h
  · obtain ⟨text, -, hscan⟩ := List.mem_filterMap.mp h
    exact scanLegacyTransaction_sized hprint hscan

/-- A row that is imported comes from a record, whose number was read into an
`int`. -/
theorem fileAccounts_origin {files : LegacyFiles} {startup : Startup} {row : Account}
    (hrow : row ∈ fileAccounts files startup) :
    IsInt row.accountNo ∧ row.failedAttempts = 0 ∧ row.isLocked = 0 ∧ row.balance = 0 := by
  have hrows (records : List LegacyAccount) (i : Nat)
      (hmem : row ∈ legacyAccounts startup.stamps i records) :
      ∃ record ∈ records, ∃ stamp, row = legacyAccount record stamp := by
    induction records generalizing i with
    | nil => cases hmem
    | cons record rest ih =>
        rcases List.mem_cons.mp hmem with rfl | hrest
        · exact ⟨record, List.mem_cons_self, _, rfl⟩
        · obtain ⟨other, hother, hstamp⟩ := ih (i + 1) hrest
          exact ⟨other, List.mem_cons_of_mem _ hother, hstamp⟩
  obtain ⟨record, hrecord, stamp, rfl⟩ := hrows _ _ hrow
  refine ⟨?_, rfl, rfl, rfl⟩
  obtain ⟨content, hfile, hread⟩ : ∃ content, files.accountsDat = some content ∧
      record ∈ readLegacyAccounts content := by
    unfold fileRecords at hrecord
    cases hfile : files.accountsDat with
    | none =>
        rw [hfile] at hrecord
        cases hrecord
    | some content =>
        rw [hfile] at hrecord
        exact ⟨content, rfl, hrecord⟩
  obtain ⟨i, -, rfl⟩ := List.mem_map.mp hread
  exact toInt32_isInt _

/-! ### The columns -/

/-- The columns that the reports print. -/
structure Bounded (t : Tables) : Prop where
  keys : ForeignKeys t
  numbers : EachAccount (fun k _ => IsInt k) t
  locks : ValidLocks t
  sums : Sums Printable Printable t
  timestamps : ∀ stamp ∈ stamps t, stamp.length ≤ 31

/-- The clock writes into `char timestamp[32]`. -/
def ClockFits (message : Message) : Prop := message.env.timestamp.length ≤ 31

instance : DecidablePred ClockFits := fun _ => inferInstanceAs (Decidable (_ ≤ _))

namespace Bounded

variable {fp : Rounding} {t t' : Tables}

theorem empty : Bounded Tables.empty where
  keys := emptyServer_opened.books.keys
  numbers := fun _ _ hrow => (emptyServer_opened.no_account hrow).elim
  locks := fun _ _ hrow => (emptyServer_opened.no_account hrow).elim
  sums := emptyServer_opened.sums
  timestamps := List.forall_mem_nil _

theorem numbers_performs {a : Action} (ha : a.Performs fp t t') (hsized : a.Sized)
    (h : EachAccount (fun k _ => IsInt k) t) : EachAccount (fun k _ => IsInt k) t' := by
  refine EachAccount.performs ha ?_ ?_ h
  · intro k row hcreates
    cases hcreates with
    | created => exact hsized
  · intro k row k' row' _ hbecomes hk
    cases hbecomes with
    | renumbered => exact hsized
    | _ => exact hk

theorem sums_performs (hprint : ∀ q, Printable (fp.round q)) {a : Action}
    (ha : a.Performs fp t t') (hsized : a.Sized) (h : Sums Printable Printable t) :
    Sums Printable Printable t' := by
  apply h.performs ha printable_zero
  intro r hr
  cases hr with
  | moved =>
      refine ⟨hsized, fun x hx => ?_⟩
      rw [← Option.some.inj hx]
      exact printable_newBalance hprint _ _ _
  | sent =>
      refine ⟨hsized, fun x hx => ?_⟩
      rw [← Option.some.inj hx]
      exact printable_sub hprint _ _
  | received =>
      refine ⟨hsized, fun x hx => ?_⟩
      rw [← Option.some.inj hx]
      exact printable_add hprint _ _

theorem turn (hprint : ∀ q, Printable (fp.round q)) {env : Environment}
    (hclock : env.timestamp.length ≤ 31) {session session' : Session} {c : Command}
    (hc : Sized c) {response : Response}
    (hturn : Turn fp env session t c response session' t') (h : Bounded t) : Bounded t' where
  keys := by
    apply hturn.tables ForeignKeys (fun _ _ _ hkeys => hkeys.setLoginState ..) _ h.keys
    exact fun a _ hperforms hkeys => hkeys.performs hperforms
  numbers := by
    apply hturn.tables (EachAccount fun k _ => IsInt k) _ _ h.numbers
    · intro accountNo failedAttempts isLocked hnumbers
      exact EachAccount.setLoginState hnumbers accountNo fun _ _ hk => hk
    · intro a hintended hperforms hnumbers
      exact numbers_performs hperforms (sized_of_intended hc hintended) hnumbers
  locks := h.locks.turn hturn
  sums := by
    apply hturn.tables (Sums Printable Printable) (fun _ _ _ hsums => hsums.setLoginState ..) _
      h.sums
    intro a hintended hperforms hsums
    exact sums_performs hprint hperforms (sized_of_intended hc hintended) hsums
  timestamps := by
    intro stamp hstamp
    obtain ⟨kept, n, hstamps, hkept⟩ := stamped_of_turn hturn
    rw [hstamps, List.mem_append] at hstamp
    rcases hstamp with hold | hnew
    · exact h.timestamps stamp (hkept.subset hold)
    · rw [List.eq_of_mem_replicate hnew]
      exact hclock

theorem sums_imports (hprint : ∀ q, Printable (fp.round q)) {blocked : Prop} {files : LegacyFiles}
    {startup : Startup} (himports : Imports fp blocked files startup t t')
    (h : Sums Printable Printable t) : Sums Printable Printable t' := by
  constructor
  · intro k row hfound
    rcases himports.account_origin hfound with hold | hnew
    · exact h.balance k row hold
    · rw [(fileAccounts_origin hnew).2.2.2]
      exact printable_zero
  · intro r hr
    rcases himports.transaction_origin hr with ⟨old, hold, n, rfl⟩ | ⟨line, hline, -, n, rfl⟩
    · exact h.amount old hold
    · exact (fileTransactions_sized hprint hline).2
  · intro r hr x hx
    rcases himports.transaction_origin hr with ⟨old, hold, n, rfl⟩ | ⟨line, -, -, n, rfl⟩
    · exact h.shown old hold x hx
    · cases hx

theorem imports (hprint : ∀ q, Printable (fp.round q)) {blocked : Prop} {files : LegacyFiles}
    {startup : Startup} (himports : Imports fp blocked files startup t t') (h : Bounded t) :
    Bounded t' where
  keys := by
    constructor
    intro r hr
    rcases himports.transaction_origin hr with ⟨old, hold, n, rfl⟩ | ⟨line, -, haccount, n, rfl⟩
    · obtain ⟨row, hfound⟩ := h.keys.account old hold
      exact ⟨row, himports.account_kept hfound⟩
    · exact Option.isSome_iff_exists.mp haccount
  numbers := by
    intro k row hfound
    rcases himports.account_origin hfound with hold | hnew
    · exact h.numbers k row hold
    · rw [← (KeyedTable.lookup_eq_some_iff.mp hfound).2]
      exact (fileAccounts_origin hnew).1
  locks := by
    intro k row hfound
    rcases himports.account_origin hfound with hold | hnew
    · exact h.locks k row hold
    · obtain ⟨-, hattempts, hlocked, -⟩ := fileAccounts_origin hnew
      rw [hattempts, hlocked]
      exact .cleared
  sums := sums_imports hprint himports h.sums
  timestamps := by
    intro stamp hstamp
    obtain ⟨r, hr, rfl⟩ := List.mem_map.mp hstamp
    rcases himports.transaction_origin hr with ⟨old, hold, n, rfl⟩ | ⟨line, hline, -, n, rfl⟩
    · exact h.timestamps old.createdAt (List.mem_map_of_mem hold)
    · exact (fileTransactions_sized hprint hline).1

end Bounded

/-- The columns in every state of every life, if the clock writes no more than
its buffer holds. -/
theorem bounded_of_life {fp : Rounding} (hprint : ∀ q, Printable (fp.round q)) (files : LegacyFiles)
    {events : List LifeEvent} (hclock : ∀ event ∈ events, event.Allowed ClockFits) :
    (lived fp files (offline Tables.empty) events).server.store.saved = none ∧
      Bounded (lived fp files (offline Tables.empty) events).server.store.tables := by
  apply lived_tables Bounded _ _ hclock .empty
  · intro startup blocked t t' himports h
    exact h.imports hprint himports
  · intro message session response session' t t' hstamp hturn h
    exact h.turn hprint hstamp (parseRequest_sized hprint _) hturn

end AtmSystem.Bank
