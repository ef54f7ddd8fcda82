import AtmSystem.Bank.Printing
import AtmSystem.Bank.Run
import AtmSystem.Safety.Exchanges
import AtmSystem.Semantics.Numbers

/-!
The account listing as an admin's client obtains it. The listing is built in a
buffer as long as the one for the response, which also holds the status, so the
longest listings that can be built lose their last bytes on the way. All others
arrive whole or are refused.
-/

namespace AtmSystem.Bank

open Library Model Program

/-! ### The listing -/

/-- A header and one whole line for every account, by increasing number. -/
structure ListsAll (t : Tables) (payload : Bytes) : Prop where
  lists : ∃ rows : List Account, rows.Pairwise (fun a b => a.accountNo < b.accountNo) ∧
    (∀ row, row ∈ rows ↔ row ∈ t.accounts.rows) ∧
    payload = listingHeader ++
      if rows = [] then ascii "No accounts found.\n" else rows.flatMap listingLine

/-- The length of the line of an account: its columns are padded to 10, 24, 12
and 10 bytes, the name is cut to 24, and there are four blanks and a newline. -/
def lineLength (row : Account) : Nat :=
  max 10 (formatInt row.accountNo).length + 24 + max 12 (formatAmount row.balance).length + 10 +
    (formatInt row.failedAttempts).length + 5

/-- The length of the listing of these accounts; the header has 90 bytes. -/
def listingLength (t : Tables) : Nat := 90 + (t.accounts.rows.map lineLength).sum

theorem listingHeader_length : listingHeader.length = 90 := by decide

theorem listingLine_length (row : Account) : (listingLine row).length = lineLength row := by
  have hname : (padRight 24 (row.name.take 24)).length = 24 := by
    rw [padRight_length, List.length_take]
    omega
  have hlocked : (padRight 10 (yesOrNo row.isLocked)).length = 10 := by
    rw [padRight_length, yesOrNo]
    split <;> rfl
  have hspace : space.length = 1 := rfl
  simp only [listingLine, List.length_append, padRight_length 10 (formatInt _),
    padRight_length 12, hname, hlocked, hspace, List.length_singleton, lineLength]
  omega

instance byNumber_total : Std.Total fun a b : Account => a.accountNo ≤ b.accountNo :=
  ⟨fun a b => le_total a.accountNo b.accountNo⟩

instance byNumber_trans : IsTrans Account fun a b => a.accountNo ≤ b.accountNo :=
  ⟨fun _ _ _ => le_trans⟩

theorem byNumber_perm (rows : List Account) : (byNumber rows).Perm rows :=
  List.perm_insertionSort _ rows

/-- No two accounts have one number, so the numbers increase strictly. -/
theorem byNumber_increasing (t : Tables) :
    (byNumber t.accounts.rows).Pairwise fun a b => a.accountNo < b.accountNo := by
  have hsorted : (byNumber t.accounts.rows).Pairwise fun a b => a.accountNo ≤ b.accountNo :=
    List.pairwise_insertionSort _ _
  have hdistinct : ((byNumber t.accounts.rows).map Account.accountNo).Nodup :=
    ((byNumber_perm _).map _).nodup_iff.mpr t.accounts.unique
  exact hsorted.imp₂ (fun _ _ hle hne => lt_of_le_of_ne hle hne) (List.pairwise_map.mp hdistinct)

/-- What is printed of the tables, if it fits. -/
def listingText (t : Tables) : Bytes :=
  listingHeader ++ if byNumber t.accounts.rows = [] then ascii "No accounts found.\n"
    else (byNumber t.accounts.rows).flatMap listingLine

theorem listsAll_listingText (t : Tables) : ListsAll t (listingText t) :=
  ⟨byNumber t.accounts.rows, byNumber_increasing t, fun _ => (byNumber_perm _).mem_iff, rfl⟩

theorem listing_length {t : Tables} {rows : List Account} (hrows : rows.Perm t.accounts.rows)
    (hsome : rows ≠ []) :
    (listingHeader ++ if rows = [] then ascii "No accounts found.\n"
      else rows.flatMap listingLine).length = listingLength t := by
  have hlines : (rows.map fun row => (listingLine row).length).sum =
      (t.accounts.rows.map lineLength).sum := by
    rw [List.map_congr_left fun row _ => listingLine_length row]
    exact (hrows.map lineLength).sum_eq
  rw [if_neg hsome, List.length_append, listingHeader_length, List.length_flatMap, hlines,
    listingLength]

/-- What lists all accounts has the length of the listing. -/
theorem ListsAll.length {t : Tables} {payload : Bytes} (h : ListsAll t payload)
    (hsome : t.accounts.rows ≠ []) : payload.length = listingLength t := by
  obtain ⟨rows, hsorted, hmem, rfl⟩ := h.lists
  have hdistinct : rows.Nodup := hsorted.imp fun hlt heq => absurd (heq ▸ hlt) (lt_irrefl _)
  have hperm : rows.Perm t.accounts.rows :=
    (List.perm_ext_iff_of_nodup hdistinct t.accounts.unique.of_map).mpr hmem
  apply listing_length hperm
  rintro rfl
  exact hsome hperm.nil_eq.symm

/-! ### The response -/

section response

variable {fp : Rounding} {s : ServerState} {env : Environment}

/-- An admin is answered with the whole listing, or refused; the listing is
refused only if a call fails or if it is too long for the buffer. -/
inductive Listed (t : Tables) (faulty : Prop) : Response → Prop where
  | whole (hfits : (listingText t).length < maxMessageSize) : Listed t faulty ⟨.ok, listingText t⟩
  | refused (text : Bytes) (hreason : faulty ∨ maxMessageSize ≤ (listingText t).length) :
      Listed t faulty ⟨.err, text⟩

theorem always_listAccounts (hadmin : s.session.isAdmin = true) :
    Always (SqlAnswers fp env.Faulty) (handleCommand fp env s.session .listAccounts) s.store
      fun outcome _ => Listed s.store.tables env.Faulty outcome.2 := by
  obtain ⟨⟨t, saved⟩, session⟩ := s
  have hrows : Statement.selectAccounts.exec fp t = .ok (byNumber t.accounts.rows, t) := rfl
  rw [handleCommand, asAdmin, if_pos hadmin]
  simp only [dbBuildAccountListing, always_bind]
  generalize ascii "Account listing output exceeded buffer size." = exceeded
  apply (listingReport_prints listingHeader hrows listingLine _ exceeded).mono
  rintro answered s' ⟨hprints, hrefused⟩
  have hshort : byNumber t.accounts.rows = [] → (listingText t).length < maxMessageSize := by
    intro hnone
    rw [listingText, if_pos hnone]
    decide
  by_cases hfits : (listingText t).length < maxMessageSize
  · cases answered with
    | none =>
        simp only [answer, always_bind, always_readError]
        intro text
        refine .refused text (.inl ?_)
        by_contra hquiet
        cases hprints.answered hfits hquiet
    | some text =>
        cases hprints.correct hfits text rfl
        exact .whole hfits
  · have hsome : byNumber t.accounts.rows ≠ [] := fun hnone => hfits (hshort hnone)
    rw [listingText, if_neg hsome] at hfits
    cases hrefused hsome (not_lt.mp hfits)
    simp only [answer, always_bind, always_readError]
    intro text
    refine .refused text (.inr ?_)
    rw [listingText, if_neg hsome]
    exact not_lt.mp hfits

theorem serve_listAccounts (hadmin : s.session.isAdmin = true) :
    Listed s.store.tables env.Faulty (s.serve fp ⟨ascii "LIST_ACCOUNTS", env⟩).1 := by
  have hcommand : handleRequest fp env s.session
      ((ascii "LIST_ACCOUNTS").takeWhile (· ≠ 0)) =
        handleCommand fp env s.session .listAccounts := rfl
  have hlisted := exec_of_always fp env _ _ (@always_listAccounts fp s env hadmin)
  simp only [ServerState.serve, hcommand]
  exact hlisted

end response

/-! ### What arrives -/

theorem padRight_noNul {width : Nat} {text : Bytes} (h : 0 ∉ text) : 0 ∉ padRight width text := by
  rw [padRight, List.mem_append, List.mem_replicate]
  rintro (htext | ⟨-, hblank⟩)
  · exact h htext
  · cases hblank

theorem listingLine_noNul {row : Account} (hname : 0 ∉ row.name) : 0 ∉ listingLine row := by
  have hcut : 0 ∉ row.name.take 24 := fun hmem => hname (List.mem_of_mem_take hmem)
  have hlocked : 0 ∉ yesOrNo row.isLocked := by
    rw [yesOrNo]
    split <;> decide
  have hspace : 0 ∉ space := by decide
  have hnewline : 0 ∉ [newline] := by decide
  simp only [listingLine, List.mem_append, not_or]
  exact ⟨⟨⟨⟨⟨⟨⟨⟨⟨padRight_noNul (formatInt_noNul _), hspace⟩, padRight_noNul hcut⟩, hspace⟩,
    padRight_noNul (formatAmount_noNul _)⟩, hspace⟩, padRight_noNul hlocked⟩, hspace⟩,
    formatInt_noNul _⟩, hnewline⟩

theorem listingText_noNul {t : Tables} (hnames : ∀ row ∈ t.accounts.rows, 0 ∉ row.name) :
    0 ∉ listingText t := by
  have hheader : 0 ∉ listingHeader := by decide
  rw [listingText, List.mem_append, not_or]
  refine ⟨hheader, ?_⟩
  split
  · decide
  · rw [List.mem_flatMap]
    rintro ⟨row, hrow, hmem⟩
    exact listingLine_noNul (hnames row ((byNumber_perm _).mem_iff.mp hrow)) hmem

/-- What a client obtains on LIST_ACCOUNTS, whatever calls fail and however the
messages are cut up: a refusal or the listing of all accounts. -/
def ListsCompletely (fp : Rounding) (s : ServerState) : Prop :=
  ∀ env answer, Obtains fp s env (ascii "LIST_ACCOUNTS") answer →
    ∃ ok payload, answer = some (ok, payload) ∧ (ok = true → ListsAll s.store.tables payload)

section listing

variable {fp : Rounding} {s : ServerState} (hadmin : s.session.isAdmin = true)
  (hnames : ∀ row ∈ s.store.tables.accounts.rows, 0 ∉ row.name)

include hadmin hnames

/-- A listing that fits with its status in front arrives whole. -/
theorem listing_arrives
    (hlength : listingLength s.store.tables < 32765 ∨ 32767 < listingLength s.store.tables) :
    ListsCompletely fp s := by
  intro env answer hanswer
  rw [obtains_iff (by decide) (by decide)] at hanswer
  subst hanswer
  have hlisted := @serve_listAccounts fp s env hadmin
  generalize (s.serve fp ⟨ascii "LIST_ACCOUNTS", env⟩).1 = response at hlisted
  cases hlisted with
  | refused text _ =>
      obtain ⟨payload, hread⟩ := readResponse_err text
      exact ⟨false, payload, hread, nofun⟩
  | whole hfits =>
      refine ⟨true, _, readResponse_ok (listingText_noNul hnames), fun _ => ?_⟩
      have hwhole : (listingText s.store.tables).length ≤ maxMessageSize - 4 := by
        by_cases hnone : byNumber s.store.tables.accounts.rows = []
        · rw [listingText, if_pos hnone]
          decide
        · have hsame : (listingText s.store.tables).length = listingLength s.store.tables :=
            listing_length (byNumber_perm _) hnone
          have hsize : maxMessageSize = 32768 := rfl
          omega
      rw [List.take_of_length_le hwhole]
      exact listsAll_listingText s.store.tables

/-- A listing that only fits without its status arrives cut off. -/
theorem listing_cut (hlow : 32765 ≤ listingLength s.store.tables)
    (hhigh : listingLength s.store.tables ≤ 32767) : ¬ ListsCompletely fp s := by
  intro hall
  have hsome : s.store.tables.accounts.rows ≠ [] := by
    intro hnone
    rw [listingLength, hnone] at hlow
    simp at hlow
  have hlength : (listingText s.store.tables).length = listingLength s.store.tables :=
    (listsAll_listingText s.store.tables).length hsome
  have hsize : maxMessageSize = 32768 := rfl
  have hlisted := @serve_listAccounts fp s (plain "").env hadmin
  obtain ⟨ok, payload, hread, hlists⟩ := hall (plain "").env _
    ((obtains_iff (by decide) (by decide)).mpr rfl)
  generalize (s.serve fp ⟨ascii "LIST_ACCOUNTS", (plain "").env⟩).1 = response at hlisted hread
  cases hlisted with
  | refused text hreason =>
      rcases hreason with hfaulty | hlong
      · exact plain_quiet "" hfaulty
      · omega
  | whole hfits =>
      rw [readResponse_ok (listingText_noNul hnames)] at hread
      simp only [Option.some.injEq, Prod.mk.injEq] at hread
      obtain ⟨rfl, rfl⟩ := hread
      have hcut := (hlists rfl).length hsome
      rw [List.length_take] at hcut
      omega

/-- What an admin's client obtains is a refusal or the listing of all accounts,
on every state of the database but those whose listing has 32765, 32766 or
32767 bytes: these fit the buffer of the listing, but not that of the response
behind its status. -/
theorem listing_complete_iff :
    ListsCompletely fp s ↔
      listingLength s.store.tables < 32765 ∨ 32767 < listingLength s.store.tables := by
  constructor
  · intro hall
    by_contra hlength
    rw [not_or, not_lt, not_lt] at hlength
    exact listing_cut hadmin hnames hlength.1 hlength.2 hall
  · exact listing_arrives hadmin hnames

end listing

/-! ### Many accounts -/

/-- The first account is rich; the others have 100. -/
def crowdedRow (i : Nat) : Account :=
  { newAccount (i + 1) (ascii "Ada") 1234 7 (ascii "2024-01-01 00:00:00") with
    balance := .fin (if i = 0 then 10 ^ 9 else 100) }

/-- A bank with so many accounts. -/
def crowdedBank (n : Nat) : Tables where
  accounts := ⟨(List.range n).map crowdedRow, by
    rw [List.map_map]
    apply List.nodup_range.map
    intro i j hij
    simpa [crowdedRow, newAccount] using hij⟩
  transactions := .empty
  admins := .empty

def crowdedServer (n : Nat) : ServerState :=
  ⟨⟨crowdedBank n, none⟩, { Session.reset with isAdmin := true, adminUsername := ascii "root" }⟩

theorem crowdedRow_length {i : Nat} (hi : i < 1000) :
    lineLength (crowdedRow i) = if i = 0 then 63 else 62 := by
  have hnumber : (formatInt ((i : Int) + 1)).length ≤ 10 := by
    have hdigits := @formatNat_length (i + 1) 9 (by omega)
    have hpositive : ¬ ((i : Int) + 1 < 0) := by omega
    rw [formatInt, if_neg hpositive]
    exact hdigits
  have hrich : (formatAmount (.fin (10 ^ 9))).length = 13 := by decide +kernel
  have hpoor : (formatAmount (.fin 100)).length = 6 := by decide +kernel
  have hfailed : (formatInt 0).length = 1 := by decide
  simp only [lineLength, crowdedRow, newAccount, Nat.max_eq_left hnumber, hfailed]
  split
  · rw [hrich]
    rfl
  · rw [hpoor]
    rfl

theorem crowdedBank_length {n : Nat} (hn : n < 1000) :
    listingLength (crowdedBank (n + 1)) = 153 + 62 * n := by
  have hlines : (((List.range (n + 1)).map crowdedRow).map lineLength).sum =
      ((List.range (n + 1)).map fun i => if i = 0 then 63 else 62).sum := by
    rw [List.map_map]
    congr 1
    apply List.map_congr_left
    intro i hi
    exact crowdedRow_length (lt_of_le_of_lt (Nat.le_of_lt_succ (List.mem_range.mp hi)) hn)
  rw [listingLength, crowdedBank, hlines]
  clear hlines hn
  induction n with
  | zero => rfl
  | succ n ih =>
      rw [List.range_succ, List.map_append, List.sum_append]
      simp only [List.map_cons, List.map_nil, List.sum_singleton, Nat.succ_ne_zero, if_false]
      omega

theorem crowdedBank_names (n : Nat) : ∀ row ∈ (crowdedBank n).accounts.rows, 0 ∉ row.name := by
  intro row hrow
  obtain ⟨i, -, rfl⟩ := List.mem_map.mp hrow
  change 0 ∉ storedName (ascii "Ada")
  decide

/-- With 527 accounts the listing has 32765 bytes, and the last line arrives
without its newline. -/
theorem listing_cut_crowded : ¬ ListsCompletely .exact (crowdedServer 527) := by
  have hlength : listingLength (crowdedServer 527).store.tables = 32765 :=
    @crowdedBank_length 526 (by decide)
  apply @listing_cut .exact (crowdedServer 527) rfl (crowdedBank_names 527)
  · exact hlength.ge
  · exact hlength.le.trans (by decide)

/-- 526 accounts are listed. -/
theorem listing_complete_crowded :
    listingLength (crowdedServer 526).store.tables = 32703 ∧
      ListsCompletely .exact (crowdedServer 526) := by
  have hlength : listingLength (crowdedServer 526).store.tables = 32703 :=
    @crowdedBank_length 525 (by decide)
  refine ⟨hlength, ?_⟩
  apply (@listing_complete_iff .exact (crowdedServer 526) rfl (crowdedBank_names 526)).mpr
  exact .inl (hlength.le.trans_lt (by decide))

end AtmSystem.Bank
