import AtmSystem.Model.Server

/-!
Requests as lines, and trimmed texts. A request is its lines with a newline
between them; lines that hold no newline are split apart again as they were put
together, and `fgets` reads them one by one. A text that has been trimmed has no
whitespace at either end.
-/

namespace AtmSystem.Model

/-- Lines with a newline between each two. -/
def joinLines : List Bytes → Bytes
  | [] => []
  | [line] => line
  | line :: rest => line ++ newline :: joinLines rest

theorem takeWhile_line {line : Bytes} (hline : newline ∉ line) (rest : Bytes) :
    (line ++ newline :: rest).takeWhile (· ≠ newline) = line ∧
      (line ++ newline :: rest).dropWhile (· ≠ newline) = newline :: rest := by
  have hall : ∀ b ∈ line, decide (b ≠ newline) = true := by
    intro b hb
    rw [decide_eq_true_eq]
    rintro rfl
    exact hline hb
  rw [List.takeWhile_append_of_pos hall, List.dropWhile_append_of_pos hall]
  simp

theorem takeWhile_lastLine {line : Bytes} (hline : newline ∉ line) :
    line.takeWhile (· ≠ newline) = line ∧ line.dropWhile (· ≠ newline) = [] := by
  have hall := takeWhile_of_not_mem hline
  exact ⟨hall, List.dropWhile_eq_nil_iff.mpr (List.takeWhile_eq_self_iff.mp hall)⟩

theorem head_dropWhile {p : UInt8 → Bool} {text : Bytes} {b : UInt8}
    (h : (text.dropWhile p).head? = some b) : p b = false := by
  have hnot := List.head?_dropWhile_not p text
  rw [h] at hnot
  simpa using hnot

/-- A text is one line, or a line and what stands behind its newline. -/
theorem exists_firstLine (text : Bytes) :
    ∃ line, newline ∉ line ∧ (text = line ∨ ∃ rest, text = line ++ newline :: rest) := by
  refine ⟨text.takeWhile (· ≠ newline), ?_, ?_⟩
  · intro hmem
    simpa using List.mem_takeWhile_imp hmem
  have hsplit := List.takeWhile_append_dropWhile (p := (· ≠ newline)) (l := text)
  cases hmore : text.dropWhile (· ≠ newline) with
  | nil =>
      rw [hmore, List.append_nil] at hsplit
      exact .inl hsplit.symm
  | cons b rest =>
      have hb : b = newline := by
        have hhead : (text.dropWhile (· ≠ newline)).head? = some b := by rw [hmore]; rfl
        simpa using head_dropWhile hhead
      rw [hmore, hb] at hsplit
      exact .inr ⟨rest, hsplit.symm⟩

/-- `fgets` stops behind the first newline. -/
theorem fgets_firstLine {size : Nat} {line : Bytes} (hline : newline ∉ line)
    (hsize : line.length + 1 < size) (rest : Bytes) :
    fgets size (line ++ newline :: rest) = some (line ++ [newline], rest) := by
  have hread : (line ++ newline :: rest).take (size - 1) =
      line ++ newline :: rest.take (size - 1 - line.length - 1) := by
    rw [List.take_append, List.take_of_length_le (by omega), List.take_cons (by omega)]
  have hshort : line.length < size - 1 := by omega
  have htake : (line ++ newline :: rest).take (line.length + 1) = line ++ [newline] := by
    rw [List.take_append, List.take_of_length_le (by omega)]
    simp
  have hdrop : (line ++ newline :: rest).drop (line.length + 1) = rest := by
    rw [List.drop_append, List.drop_of_length_le (by omega)]
    simp
  have hne : line ++ newline :: rest ≠ [] := by simp
  rw [fgets, if_neg hne]
  simp only [hread, (takeWhile_line hline _).1, hshort, if_true, htake, hdrop]

/-- Without a newline it reads all that fits. -/
theorem fgets_noNewline {size : Nat} {text : Bytes} (hne : text ≠ [])
    (htext : newline ∉ text.take (size - 1)) :
    fgets size text = some (text.take (size - 1), text.drop (size - 1)) := by
  simp only [fgets, hne, if_false, (takeWhile_lastLine htext).1, List.length_take]
  split
  · rw [List.take_of_length_le (by omega), List.take_of_length_le (by omega),
      List.drop_of_length_le (by omega), List.drop_of_length_le (by omega)]
  · rw [Nat.min_eq_left (by omega)]

/-- Lines are split apart as they were put together. -/
theorem splitLines_joinLines {lines : List Bytes} (hlines : lines ≠ [])
    (hclean : ∀ line ∈ lines, newline ∉ line) {maxLines : Nat} (hmax : lines.length ≤ maxLines) :
    splitLines (joinLines lines) maxLines = lines := by
  induction lines generalizing maxLines with
  | nil => exact absurd rfl hlines
  | cons line rest ih =>
      obtain ⟨maxLines, rfl⟩ : ∃ n, maxLines = n + 1 :=
        ⟨maxLines - 1, by rw [List.length_cons] at hmax; omega⟩
      rw [List.forall_mem_cons] at hclean
      cases rest with
      | nil =>
          obtain ⟨htake, hdrop⟩ := takeWhile_lastLine hclean.1
          simp only [joinLines, splitLines, htake, hdrop]
      | cons next rest =>
          obtain ⟨htake, hdrop⟩ := takeWhile_line hclean.1 (joinLines (next :: rest))
          have hrest := ih (List.cons_ne_nil _ _) hclean.2 (Nat.le_of_succ_le_succ hmax)
          simp only [joinLines, splitLines, htake, hdrop]
          rw [hrest]

/-- No line of a request holds a newline. -/
theorem newline_not_mem_of_splitLines {text : Bytes} {maxLines : Nat} :
    ∀ line ∈ splitLines text maxLines, newline ∉ line := by
  induction maxLines generalizing text with
  | zero => exact List.forall_mem_nil _
  | succ maxLines ih =>
      have hline : newline ∉ text.takeWhile (· ≠ newline) := by
        intro hmem
        simpa using List.mem_takeWhile_imp hmem
      rw [splitLines]
      cases text.dropWhile (· ≠ newline) with
      | nil => simpa using hline
      | cons b rest => exact List.forall_mem_cons.mpr ⟨hline, ih⟩

/-- A name that is asked for is one line. -/
def Command.NameIsLine : Command → Prop
  | .createAccount (some (_, name, _)) | .editAccount (some (_, _, name, _)) => newline ∉ name
  | _ => True

theorem parseRequest_nameIsLine (fp : Rounding) (text : Bytes) :
    (parseRequest fp text).NameIsLine := by
  have hline (i : Nat) (line : Bytes) (h : (splitLines text 10)[i]? = some line) :
      newline ∉ line := newline_not_mem_of_splitLines line (List.mem_of_getElem? h)
  have hbranch {c : Prop} [Decidable c] {a b : Command} (ha : a.NameIsLine)
      (hb : b.NameIsLine) : (if c then a else b).NameIsLine := by
    split
    · exact ha
    · exact hb
  unfold parseRequest
  generalize splitLines text 10 = lines at hline ⊢
  dsimp only
  refine hbranch trivial (hbranch ?_ ?_)
  · cases hno : intLine lines 1 with
    | none => trivial
    | some accountNo =>
    cases hname : lines[2]? with
    | none => trivial
    | some name =>
    cases hpin : intLine lines 3 with
    | none => trivial
    | some pin => exact hline 2 name hname
  repeat
    refine hbranch trivial ?_
  refine hbranch ?_ (hbranch trivial (hbranch trivial trivial))
  cases hno : intLine lines 1 with
  | none => trivial
  | some accountNo =>
  cases hnew : intLine lines 2 with
  | none => trivial
  | some newAccountNo =>
  cases hname : lines[3]? with
  | none => trivial
  | some name =>
  cases hpin : intLine lines 4 with
  | none => trivial
  | some pin => exact hline 3 name hname

/-! ### Trimming -/

/-- No whitespace at either end. -/
structure Trimmed (text : Bytes) : Prop where
  first : ∀ b, text.head? = some b → isspace b = false
  last : ∀ b, text.getLast? = some b → isspace b = false

theorem trimWhitespace_sublist (text : Bytes) : (trimWhitespace text).Sublist text := by
  have hback : (trimWhitespace text).Sublist (text.dropWhile isspace) := by
    rw [trimWhitespace, ← List.reverse_sublist, List.reverse_reverse]
    exact List.dropWhile_sublist _
  exact hback.trans (List.dropWhile_sublist _)

theorem trimmed_trimWhitespace (text : Bytes) : Trimmed (trimWhitespace text) := by
  constructor
  · intro b hb
    have hprefix : trimWhitespace text <+: text.dropWhile isspace := by
      rw [trimWhitespace, ← List.reverse_suffix, List.reverse_reverse]
      exact List.dropWhile_suffix _
    obtain ⟨rest, hrest⟩ := hprefix
    have hhead : (text.dropWhile isspace).head? = some b := by
      rw [← hrest, List.head?_append, hb]
      rfl
    exact head_dropWhile hhead
  · intro b hb
    rw [trimWhitespace, List.getLast?_reverse] at hb
    exact head_dropWhile hb

theorem dropWhile_of_head {text : Bytes} (h : ∀ b, text.head? = some b → isspace b = false) :
    text.dropWhile isspace = text := by
  cases text with
  | nil => rfl
  | cons b rest => exact List.dropWhile_cons_of_neg (by simp [h b rfl])

/-- Trimming leaves a trimmed text alone. -/
theorem trimWhitespace_of_trimmed {text : Bytes} (h : Trimmed text) :
    trimWhitespace text = text := by
  have hreverse : text.reverse.dropWhile isspace = text.reverse := by
    apply dropWhile_of_head
    intro b hb
    rw [List.head?_reverse] at hb
    exact h.last b hb
  rw [trimWhitespace, dropWhile_of_head h.first, hreverse, List.reverse_reverse]

end AtmSystem.Model
