import AtmSystem.Model.Terminal
import AtmSystem.Semantics.Requests

/-!
What the client may assume of its calls. The input is read line by line: a line
is used up by one reader, whatever its length, and a reader that finds no line
has seen the end. A request is met in any way that `met` describes.
-/

namespace AtmSystem.Model

open Library Program

/-! ### Lines of the input -/

/-- `fgets` fills the buffer, or it stops behind a newline. -/
theorem fgets_cases (size : Nat) {file : Bytes} (hfile : file ≠ []) :
    (newline ∉ file.take (size - 1) ∧
      Model.fgets size file = some (file.take (size - 1), file.drop (size - 1))) ∨
    ∃ body rest, newline ∉ body ∧ body.length + 1 < size ∧ file = body ++ newline :: rest ∧
      Model.fgets size file = some (body ++ [newline], rest) := by
  obtain ⟨body, hbody, hread | ⟨more, hread⟩⟩ := exists_firstLine (file.take (size - 1))
  · rw [← hread] at hbody
    exact .inl ⟨hbody, fgets_noNewline hfile hbody⟩
  · have hlength := congrArg List.length hread
    rw [List.length_take, List.length_append, List.length_cons] at hlength
    have hshort : body.length + 1 < size := by omega
    have hsplit : file = body ++ newline :: (more ++ file.drop (size - 1)) := by
      conv => lhs; rw [← List.take_append_drop (size - 1) file, hread]
      simp
    refine .inr ⟨body, _, hbody, hshort, hsplit, ?_⟩
    conv => lhs; rw [hsplit]
    exact fgets_firstLine hbody hshort _

theorem trimNewline_newline (body : Bytes) : trimNewline (body ++ [newline]) = trimNewline body := by
  rw [trimNewline, List.reverse_concat, List.dropWhile_cons_of_pos (by decide), trimNewline]

theorem discard_length (stdin : Bytes) :
    (discardRemainingStdinLine stdin).length ≤ stdin.length := by
  rw [discardRemainingStdinLine, List.length_drop]
  have hdrop := (List.dropWhile_sublist (· ≠ newline) (l := stdin)).length_le
  omega

/-- A line that is read is taken off. -/
theorem readLine_length {bufferSize : Nat} {stdin line rest : Bytes}
    (h : (readLineStdin bufferSize).run stdin = some (line, rest)) :
    rest.length ≤ stdin.length ∧ (2 ≤ bufferSize → rest.length < stdin.length) := by
  simp only [StateT.run, readLineStdin] at h
  cases hread : Model.fgets bufferSize stdin with
  | none =>
      rw [hread] at h
      cases h
  | some taken =>
      obtain ⟨buffer, more⟩ := taken
      rw [hread] at h
      cases h
      have htaken : more.length ≤ stdin.length ∧ (2 ≤ bufferSize → more.length < stdin.length) := by
        have hstdin : stdin ≠ [] := by
          rintro rfl
          cases hread
        have hbytes : 0 < stdin.length := List.length_pos_iff.mpr hstdin
        rcases fgets_cases bufferSize hstdin with ⟨-, hfull⟩ | ⟨body, rest, -, -, hsplit, hstop⟩
        · rw [hfull] at hread
          cases hread
          rw [List.length_drop]
          omega
        · rw [hstop] at hread
          cases hread
          rw [hsplit, List.length_append, List.length_cons]
          omega
      have hdiscard := discard_length more
      split
      · omega
      · exact htaken

/-- Without a NUL a reader uses up one line, and answers what fits of it. -/
theorem readLine_line {bufferSize : Nat} (hsize : 2 ≤ bufferSize) {stdin : Bytes}
    (hstdin : stdin ≠ []) (hnul : 0 ∉ stdin) :
    (readLineStdin bufferSize).run stdin =
      some (trimNewline ((stdin.takeWhile (· ≠ newline)).take (bufferSize - 1)),
        discardRemainingStdinLine stdin) := by
  have hwhole {buffer rest : Bytes} (hsplit : stdin = buffer ++ rest) :
      buffer.takeWhile (· ≠ 0) = buffer := by
    apply takeWhile_of_not_mem
    intro hmem
    exact hnul (hsplit ▸ List.mem_append_left rest hmem)
  simp only [StateT.run, readLineStdin]
  rcases fgets_cases bufferSize hstdin with ⟨hline, hread⟩ | ⟨body, rest, hbody, hshort, hsplit, hread⟩
  · -- the buffer is full, or the input ends in it; the rest of the line is discarded
    have hsplit := (List.take_append_drop (bufferSize - 1) stdin).symm
    have hlast : stdin.take (bufferSize - 1) ≠ [] ∧
        (stdin.take (bufferSize - 1)).getLast? ≠ some newline := by
      constructor
      · rw [Ne, List.take_eq_nil_iff, not_or]
        exact ⟨by omega, hstdin⟩
      · intro hnewline
        exact hline (List.mem_of_getLast? hnewline)
    obtain ⟨htake, hdrop⟩ := takeWhile_lastLine hline
    have hall := List.takeWhile_eq_self_iff.mp htake
    simp only [hread, hwhole hsplit, if_pos hlast]
    congr 2
    · rw [List.take_takeWhile, htake]
    · conv => rhs; rw [hsplit, discardRemainingStdinLine, List.dropWhile_append_of_pos hall]
      rfl
  · obtain ⟨htake, hdrop⟩ := takeWhile_line hbody rest
    have hread' : Model.fgets bufferSize stdin = some (body ++ [newline], rest) := hread
    have hkept : (body ++ [newline]).takeWhile (· ≠ 0) = body ++ [newline] :=
      hwhole (hsplit.trans (List.append_assoc body [newline] rest).symm)
    simp only [hread', hkept]
    rw [if_neg (by simp), trimNewline_newline, discardRemainingStdinLine, hsplit, htake, hdrop,
      List.take_of_length_le (by omega)]
    rfl

namespace Input

theorem discard_rest (input : Input) :
    input.discardRemainingStdinLine.rest = Model.discardRemainingStdinLine input.rest := by
  cases input with
  | ended => rfl
  | more bytes =>
      rw [discardRemainingStdinLine, Model.discardRemainingStdinLine, rest]
      cases bytes.dropWhile (· ≠ newline) with
      | nil => rfl
      | cons b more => rfl

/-- What is taken off the input. -/
theorem fgets_eq (size : Nat) (input : Input) :
    (input.fgets size).1 = (Model.fgets size input.rest).map Prod.fst ∧
      (input.fgets size).2.rest = ((Model.fgets size input.rest).map Prod.snd).getD [] := by
  cases input with
  | ended => exact ⟨rfl, rfl⟩
  | more bytes =>
      rw [fgets, rest]
      by_cases hbytes : bytes = []
      · subst hbytes
        exact ⟨rfl, rfl⟩
      rcases fgets_cases size hbytes with ⟨hline, hread⟩ | ⟨body, more, hbody, hshort, -, hread⟩
      · simp only [hread]
        split
        · rename_i hend
          refine ⟨rfl, ?_⟩
          rw [List.length_take] at hend
          have hrest : bytes.drop (size - 1) = [] := List.drop_of_length_le (by omega)
          exact hrest.symm
        · exact ⟨rfl, rfl⟩
      · simp only [hread]
        rw [if_neg (by simp)]
        exact ⟨rfl, rfl⟩

/-- A reader of the client reads the line that a reader of the flows reads. -/
theorem readLineStdin_eq (bufferSize : Nat) (input : Input) :
    (Model.readLineStdin bufferSize).run input.rest =
      (input.readLineStdin bufferSize).1.map fun line =>
        (line, (input.readLineStdin bufferSize).2.rest) := by
  obtain ⟨hbuffer, hrest⟩ := input.fgets_eq bufferSize
  simp only [readLineStdin, StateT.run, Model.readLineStdin]
  cases hread : Model.fgets bufferSize input.rest with
  | none =>
      cases htaken : input.fgets bufferSize with
      | mk buffer input' =>
          rw [hread, htaken] at hbuffer
          cases hbuffer
          rfl
  | some taken =>
      obtain ⟨text, more⟩ := taken
      cases htaken : input.fgets bufferSize with
      | mk buffer input' =>
          rw [hread, htaken] at hbuffer hrest
          cases hbuffer
          obtain rfl : more = input'.rest := hrest.symm
          simp only [Option.map_some]
          split
          · rw [discard_rest]
          · rfl

theorem fgets_none {size : Nat} {input : Input} (h : (input.fgets size).1 = none) :
    (input.fgets size).2 = .ended := by
  cases input with
  | ended => rfl
  | more bytes =>
      rw [fgets] at h ⊢
      cases hread : Model.fgets size bytes with
      | none => rfl
      | some taken =>
          rw [hread] at h
          dsimp only at h
          split at h <;> cases h

/-- A reader that answers nothing has seen the end. -/
theorem readLineStdin_none {bufferSize : Nat} {input : Input}
    (h : (input.readLineStdin bufferSize).1 = none) :
    (input.readLineStdin bufferSize).2 = .ended := by
  have hended := @fgets_none bufferSize input
  rw [readLineStdin] at h ⊢
  cases htaken : input.fgets bufferSize with
  | mk buffer input' =>
      rw [htaken] at h hended
      cases buffer with
      | none => exact hended rfl
      | some text => cases h

/-- A reader that answers a line has used up some of the input. -/
theorem readLineStdin_length (bufferSize : Nat) (input : Input) :
    (input.readLineStdin bufferSize).2.rest.length ≤ input.rest.length ∧
      (2 ≤ bufferSize → (input.readLineStdin bufferSize).1 ≠ none →
        (input.readLineStdin bufferSize).2.rest.length < input.rest.length) := by
  have hread := input.readLineStdin_eq bufferSize
  cases hline : (input.readLineStdin bufferSize).1 with
  | none =>
      rw [readLineStdin_none hline]
      exact ⟨Nat.zero_le _, fun _ h => absurd rfl h⟩
  | some line =>
      rw [hline, Option.map_some] at hread
      obtain ⟨hle, hless⟩ := readLine_length hread
      exact ⟨hle, fun hsize _ => hless hsize⟩

end Input

/-! ### Calls -/

/-- The client at work: its input, how many lines it has asked for, and the
other side of its connection. -/
structure Desk (σ : Type) where
  input : Input
  prompts : Nat
  remote : σ

section spec

variable {σ α : Type}

/-- The state behind a line that is asked for. -/
def Desk.lineRead (d : Desk σ) (bufferSize : Nat) : Desk σ :=
  { d with input := (d.input.readLineStdin bufferSize).2, prompts := d.prompts + 1 }

def ConsoleAnswers (met : Bytes → σ → Option (Bool × Bytes) → σ → Prop) : Spec ConsoleOp (Desk σ)
  | _, .printf _, d, _, d' => d' = d
  | _, .readLine bufferSize, d, line, d' =>
      line = (d.input.readLineStdin bufferSize).1 ∧ d' = d.lineRead bufferSize
  | _, .feof, d, seen, d' => seen = d.input.feof ∧ d' = d
  | _, .requestServer request, d, answer, d' =>
      ∃ remote, met request d.remote answer remote ∧ d' = { d with remote := remote }
  | _, .writeFile _ _, d, _, d' => d' = d

/-- What a call puts on the screen. -/
def ConsoleOp.printed : (β : Type) → ConsoleOp β → List Notice
  | _, .printf notice => [notice]
  | _, _ => []

variable {met : Bytes → σ → Option (Bool × Bytes) → σ → Prop}

@[simp] theorem always_printf (notice : Notice) (d : Desk σ) (post : Unit → Desk σ → Prop) :
    Always (ConsoleAnswers met) (Terminal.printf notice) d post ↔ post () d := by
  rw [Terminal.printf, always_call]
  exact ⟨fun h => h () d rfl, fun h _ d' hd => hd ▸ h⟩

@[simp] theorem always_readLineStdin (prompt : String) (bufferSize : Nat) (d : Desk σ)
    (post : Option Bytes → Desk σ → Prop) :
    Always (ConsoleAnswers met) (Terminal.readLineStdin prompt bufferSize) d post ↔
      post (d.input.readLineStdin bufferSize).1 (d.lineRead bufferSize) := by
  rw [Terminal.readLineStdin, always_bind, always_printf, always_call]
  refine ⟨fun h => h _ _ ⟨rfl, rfl⟩, ?_⟩
  rintro h _ _ ⟨rfl, rfl⟩
  exact h

@[simp] theorem always_feof (d : Desk σ) (post : Bool → Desk σ → Prop) :
    Always (ConsoleAnswers met) (.call .feof) d post ↔ post d.input.feof d := by
  rw [always_call]
  refine ⟨fun h => h _ _ ⟨rfl, rfl⟩, ?_⟩
  rintro h _ _ ⟨rfl, rfl⟩
  exact h

/-- Whatever the client does, its input does not grow. -/
theorem always_shrinks (p : Console α) (d : Desk σ) :
    Always (ConsoleAnswers met) p d fun _ d' => d'.input.rest.length ≤ d.input.rest.length := by
  have hstep (β : Type) (op : ConsoleOp β) (d₁ : Desk σ) (answer : β) (d₂ : Desk σ)
      (hanswer : ConsoleAnswers met β op d₁ answer d₂)
      (h : d₁.input.rest.length ≤ d.input.rest.length) :
      d₂.input.rest.length ≤ d.input.rest.length := by
    cases op with
    | printf notice => exact hanswer ▸ h
    | readLine bufferSize =>
        obtain ⟨-, rfl⟩ := hanswer
        exact (d₁.input.readLineStdin_length bufferSize).1.trans h
    | feof => exact hanswer.2 ▸ h
    | requestServer request =>
        obtain ⟨remote, -, rfl⟩ := hanswer
        exact h
    | writeFile filename content => exact hanswer ▸ h
  exact (guarded_of_steps (fun d' : Desk σ => d'.input.rest.length ≤ d.input.rest.length) hstep p
    (le_refl _)).always

end spec

end AtmSystem.Model
