import AtmSystem.Semantics.Terminal

/-!
The client comes to an end. Every turn of a menu reads a line or sees the end of
the input, so there are no more turns than there are bytes, whatever a server
answers and however often the connection is lost.
-/

namespace AtmSystem.Model.Terminal

open Library Program

section turns

variable {σ α β : Type} {met : Bytes → σ → Option (Bool × Bytes) → σ → Prop} {d : Desk σ}

/-- A menu that is shown again has read a choice. -/
theorem always_choose {menu : Notice} {atEnd : α} {branch : Int → Console (Option α)}
    {post : Option α → Desk σ → Prop}
    (hbranch : ∀ choice d', d'.input.rest.length < d.input.rest.length →
      Always (ConsoleAnswers met) (branch choice) d' post)
    (hagain : ∀ d', d'.input.rest.length < d.input.rest.length → post none d')
    (hend : ∀ d', post (some atEnd) d') :
    Always (ConsoleAnswers met) (choose menu atEnd branch) d post := by
  obtain ⟨-, hless⟩ := d.input.readLineStdin_length 128
  simp only [choose, readIntStdin, readWith, always_bind, always_printf, always_readLineStdin,
    always_pure]
  cases hline : (d.input.readLineStdin 128).1 with
  | none =>
      have hended : (d.lineRead 128).input.feof = true := by
        rw [Desk.lineRead, Input.readLineStdin_none hline]
        rfl
      simp only [Option.bind_none, always_bind, always_feof, hended, if_true, always_pure]
      exact hend _
  | some line =>
      have hread := hless (by omega) (hline ▸ Option.some_ne_none line)
      rw [Option.bind_some]
      cases parseInt line with
      | some choice => exact hbranch choice _ hread
      | none =>
          simp only [always_bind, always_feof, always_ite, always_pure, always_printf]
          exact ⟨fun _ => hend _, fun _ => hagain _ hread⟩

/-- A turn that is not the last takes something off the input. -/
theorem choose_shrinks (menu : Notice) (atEnd : α) (branch : Int → Console (Option α)) :
    Always (ConsoleAnswers met) (choose menu atEnd branch) d fun outcome d' =>
      outcome = none → d'.input.rest.length < d.input.rest.length := by
  apply always_choose
  · intro choice d₁ hless
    apply (always_shrinks (branch choice) d₁).mono
    intro outcome d' hle _
    exact hle.trans_lt hless
  · exact fun d' hless _ => hless
  · intro d' hnone
    cases hnone

/-- What a flow asks for is typed or not. -/
theorem always_ask {reader : Console (Option α)} {complaint : String} {otherwise : β}
    {next : α → Console β} {post : β → Desk σ → Prop} (hotherwise : ∀ d', post otherwise d')
    (hnext : ∀ a d', d'.input.rest.length ≤ d.input.rest.length →
      Always (ConsoleAnswers met) (next a) d' post) :
    Always (ConsoleAnswers met) (ask reader complaint otherwise next) d post := by
  rw [ask, always_bind]
  apply (always_shrinks reader d).mono
  intro answer d' hle
  cases answer with
  | none =>
      simp only [always_bind, always_printf, always_pure]
      exact hotherwise d'
  | some a => exact hnext a d' hle

theorem always_withAnswer {request : Bytes} {lost : β} {next : Bool → Bytes → Console β}
    {post : β → Desk σ → Prop} (hlost : ∀ d', post lost d')
    (hnext : ∀ ok payload d', d'.input.rest.length ≤ d.input.rest.length →
      Always (ConsoleAnswers met) (next ok payload) d' post) :
    Always (ConsoleAnswers met) (withAnswer request lost next) d post := by
  rw [withAnswer, always_bind, always_call]
  rintro answer _ ⟨remote, -, rfl⟩
  rcases answer with _ | ⟨ok, payload⟩
  · exact hlost _
  · exact hnext ok payload _ (le_refl _)

end turns

section ends

variable {σ : Type} {met : Bytes → σ → Option (Bool × Bytes) → σ → Prop} {fp : Rounding}
  {fuel : Nat} {d : Desk σ}

/-- A loop around a menu ends. -/
theorem menu_ends (h : d.input.rest.length < fuel) (menu : Notice) (atEnd : Bool)
    (branch : Int → Console (Option Bool)) :
    Always (ConsoleAnswers met) (Program.loop (choose menu atEnd branch) fuel) d
      fun outcome _ => outcome ≠ none := by
  have hbody (d' : Desk σ) (_ : True) :
      Always (ConsoleAnswers met) (choose menu atEnd branch) d'
        (Restored (fun d'' => True ∧ d''.input.rest.length < d'.input.rest.length)
          fun _ _ => True) := by
    apply (choose_shrinks menu atEnd branch).mono
    intro outcome d'' hless
    exact ⟨fun hnone => ⟨trivial, hless hnone⟩, fun _ _ => trivial⟩
  apply (always_loop_ends (fun _ => True) (fun d : Desk σ => d.input.rest.length) hbody
    trivial h).mono
  rintro outcome d' ⟨answer, rfl, -⟩
  exact Option.some_ne_none answer

theorem customerLoginFlow_ends (h : d.input.rest.length < fuel) :
    Always (ConsoleAnswers met) (customerLoginFlow fp fuel) d fun outcome _ => outcome ≠ none := by
  apply always_ask (fun _ => Option.some_ne_none _)
  intro accountNo d₁ h₁
  apply always_ask (fun _ => Option.some_ne_none _)
  intro pin d₂ h₂
  apply always_withAnswer (fun _ => Option.some_ne_none _)
  intro ok payload d₃ h₃
  cases ok with
  | false =>
      simp only [Bool.not_false, if_true, always_bind, always_printf, always_pure]
      exact Option.some_ne_none true
  | true =>
      simp only [Bool.not_true, Bool.false_eq_true, if_false, always_bind, always_printf]
      exact menu_ends (by omega) _ _ _

theorem adminLoginFlow_ends (h : d.input.rest.length < fuel) :
    Always (ConsoleAnswers met) (adminLoginFlow fp fuel) d fun outcome _ => outcome ≠ none := by
  apply always_ask (fun _ => Option.some_ne_none _)
  intro username d₁ h₁
  apply always_ask (fun _ => Option.some_ne_none _)
  intro password d₂ h₂
  apply always_withAnswer (fun _ => Option.some_ne_none _)
  intro ok payload d₃ h₃
  cases ok with
  | false =>
      simp only [Bool.not_false, if_true, always_bind, always_printf, always_pure]
      exact Option.some_ne_none true
  | true =>
      simp only [Bool.not_true, Bool.false_eq_true, if_false, always_bind, always_printf]
      exact menu_ends (by omega) _ _ _

/-- A flow that ends does not leave the loop of `main` without an end. -/
theorem afterFlow_ends {flow : Console (Option Bool)}
    (h : Always (ConsoleAnswers met) flow d fun outcome _ => outcome ≠ none) :
    Always (ConsoleAnswers met) (afterFlow flow) d fun outcome _ => outcome ≠ some none := by
  rw [afterFlow, always_bind]
  apply h.mono
  rintro (_ | _ | _) d' hends
  · exact absurd rfl hends
  · exact fun hnone => by cases hnone
  · exact fun hnone => by cases hnone

theorem mainTurn_ends (h : d.input.rest.length < fuel) :
    Always (ConsoleAnswers met) (mainTurn fp fuel) d fun outcome _ => outcome ≠ some none := by
  apply always_choose
  · intro choice d' hless
    simp only [always_ite]
    refine ⟨fun _ => ?_, fun _ => ⟨fun _ => ?_, fun _ => ⟨fun _ => ?_, fun _ => ⟨?_, ?_⟩⟩⟩⟩
    · apply afterFlow_ends
      rw [always_bind]
      exact always_of_forall fun _ _ => Option.some_ne_none _
    · exact afterFlow_ends (customerLoginFlow_ends (by omega))
    · exact afterFlow_ends (adminLoginFlow_ends (by omega))
    · intro _ hnone
      cases hnone
    · intro _
      simp only [invalidOption, always_bind, always_printf, always_pure]
      exact Option.some_ne_none _ |>.symm
  · intro d' _ hnone
    cases hnone
  · intro d' hnone
    cases hnone

end ends

end AtmSystem.Model.Terminal
