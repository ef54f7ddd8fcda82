import AtmSystem.Library.Guarded
import Mathlib.Logic.Relation

/-!
Two programs with a stream in each direction between them. A party knows what it
has received and sent so far, and its own state; what it has received is never
more than the beginning of what the other has sent. Their steps follow each
other in any order. What a party can promise rests on what the other has done:
a promise is stated for a party on its own, under a bound on what arrives, and
holds in every state of both in which the bound does.
-/

namespace AtmSystem.Library

universe u v

/-- One end of the two streams, with a state of its own. -/
structure Party (B σ : Type) where
  received : List B
  sent : List B
  own : σ

namespace Party

variable {B σ : Type}

/-- More has arrived. -/
def gets (s : Party B σ) (part : List B) : Party B σ :=
  { s with received := s.received ++ part }

/-- More has been sent. -/
def puts (s : Party B σ) (part : List B) : Party B σ :=
  { s with sent := s.sent ++ part }

@[simp] theorem gets_nil (s : Party B σ) : s.gets [] = s := by simp [gets]

@[simp] theorem puts_nil (s : Party B σ) : s.puts [] = s := by simp [puts]

@[simp] theorem gets_gets (s : Party B σ) (part part' : List B) :
    (s.gets part).gets part' = s.gets (part ++ part') := by simp [gets]

@[simp] theorem puts_puts (s : Party B σ) (part part' : List B) :
    (s.puts part).puts part' = s.puts (part ++ part') := by simp [puts]

@[simp] theorem gets_sent (s : Party B σ) (part : List B) : (s.gets part).sent = s.sent := rfl

@[simp] theorem gets_own (s : Party B σ) (part : List B) : (s.gets part).own = s.own := rfl

@[simp] theorem gets_received (s : Party B σ) (part : List B) :
    (s.gets part).received = s.received ++ part := rfl

@[simp] theorem puts_sent (s : Party B σ) (part : List B) :
    (s.puts part).sent = s.sent ++ part := rfl

@[simp] theorem puts_own (s : Party B σ) (part : List B) : (s.puts part).own = s.own := rfl

@[simp] theorem puts_received (s : Party B σ) (part : List B) :
    (s.puts part).received = s.received := rfl

end Party

/-- A party and what is left of its program. -/
structure Side (Op : Type → Type u) (B σ α : Type) where
  program : Program Op α
  party : Party B σ

namespace Side

open Program

variable {Op : Type → Type u} {B σ α : Type}

/-- The next operation is answered; `arrives` is what the other has sent. -/
inductive Step (spec : Spec Op (Party B σ)) (arrives : List B) :
    Side Op B σ α → Side Op B σ α → Prop where
  | call {β : Type} {op : Op β} {rest : β → Program Op α} {party party' : Party B σ} {answer : β}
      (hanswer : spec β op party answer party') (harrives : party'.received <+: arrives) :
      Step spec arrives ⟨.perform op rest, party⟩ ⟨rest answer, party'⟩

/-- No operation takes anything back of what has gone over the streams. -/
def Grows (spec : Spec Op (Party B σ)) : Prop :=
  ∀ (β : Type) (op : Op β) s answer s', spec β op s answer s' →
    s.received <+: s'.received ∧ s.sent <+: s'.sent

/-- The specification, as long as the state stays in bounds. -/
def Within (bound : Party B σ → Prop) (spec : Spec Op (Party B σ)) : Spec Op (Party B σ) :=
  fun β op s answer s' => spec β op s answer s' ∧ bound s'

/-- A bound that holds behind a step has held before it. -/
def Backward (spec : Spec Op (Party B σ)) (bound : Party B σ → Prop) : Prop :=
  ∀ (β : Type) (op : Op β) s answer s', spec β op s answer s' → bound s' → bound s

variable {spec : Spec Op (Party B σ)} {arrives : List B} {c c' : Side Op B σ α}

/-- In bounds a program keeps what it has promised, and it ends in bounds. -/
theorem guarded_within {allowed : (β : Type) → Op β → Party B σ → Prop} {p : Program Op α}
    {s : Party B σ} {post : α → Party B σ → Prop} (h : Guarded spec allowed p s post)
    {bound : Party B σ → Prop} (hs : bound s) :
    Guarded (Within bound spec) allowed p s fun a s' => post a s' ∧ bound s' := by
  have hnarrow : Guarded (Within bound spec) allowed p s post :=
    h.narrow fun _ _ _ _ _ hanswer => hanswer.1
  apply (hnarrow.along bound (fun _ _ _ _ _ _ hanswer _ => hanswer.2) hs).allow
  exact fun _ _ _ hallowed => hallowed.1

theorem Step.backward {bound : Party B σ → Prop} (hbound : Backward spec bound)
    (h : Step spec arrives c c') (hc' : bound c'.party) : bound c.party := by
  cases h with
  | call hanswer harrives => exact hbound _ _ _ _ _ hanswer hc'

/-- The party keeps to what it has promised. -/
theorem Step.guarded {bound : Party B σ → Prop} {allowed : (β : Type) → Op β → Party B σ → Prop}
    {post : α → Party B σ → Prop} (h : Step spec arrives c c') (hc' : bound c'.party)
    (hguarded : Guarded (Within bound spec) allowed c.program c.party post) :
    Guarded (Within bound spec) allowed c'.program c'.party post := by
  cases h with
  | call hanswer harrives => exact hguarded.2 _ _ ⟨hanswer, hc'⟩

/-- The next operations are answered by a handler that sees what arrives. -/
def advance (handler : List B → Handler Op (Party B σ)) (arrives : List B) :
    Nat → Side Op B σ α → Side Op B σ α
  | 0, c => c
  | n + 1, c =>
      match c.program with
      | .done _ => c
      | .perform op rest =>
          let (answer, party) := handler arrives _ op c.party
          advance handler arrives n ⟨rest answer, party⟩

/-- A handler whose answers are within the specification, and which delivers no
more than arrives. -/
def Delivers (handler : List B → Handler Op (Party B σ)) (spec : Spec Op (Party B σ)) : Prop :=
  ∀ arrives (β : Type) (op : Op β) s, s.received <+: arrives →
    spec β op s (handler arrives β op s).1 (handler arrives β op s).2 ∧
      (handler arrives β op s).2.received <+: arrives

theorem advance_steps {handler : List B → Handler Op (Party B σ)} (hhandler : Delivers handler spec)
    (n : Nat) (c : Side Op B σ α) (hc : c.party.received <+: arrives) :
    Relation.ReflTransGen (Step spec arrives) c (c.advance handler arrives n) := by
  induction n generalizing c with
  | zero => exact .refl
  | succ n ih =>
      obtain ⟨program, party⟩ := c
      cases program with
      | done a => exact .refl
      | perform op rest =>
          obtain ⟨hanswer, harrives⟩ := hhandler arrives _ op party hc
          exact .head (.call hanswer harrives) (ih _ harrives)

end Side

open Side Program

/-- Both parties. -/
structure Link (Op Op' : Type → Type u) (B σ σ' α α' : Type) where
  left : Side Op B σ α
  right : Side Op' B σ' α'

namespace Link

variable {Op Op' : Type → Type u} {B σ σ' α α' : Type}

/-- One of the parties takes a step. -/
inductive Step (spec : Spec Op (Party B σ)) (spec' : Spec Op' (Party B σ')) :
    Link Op Op' B σ σ' α α' → Link Op Op' B σ σ' α α' → Prop where
  | left {c c' : Side Op B σ α} {d : Side Op' B σ' α'}
      (hstep : c.Step spec d.party.sent c') : Step spec spec' ⟨c, d⟩ ⟨c', d⟩
  | right {c : Side Op B σ α} {d d' : Side Op' B σ' α'}
      (hstep : d.Step spec' c.party.sent d') : Step spec spec' ⟨c, d⟩ ⟨c, d'⟩

def Reached (spec : Spec Op (Party B σ)) (spec' : Spec Op' (Party B σ')) :
    Link Op Op' B σ σ' α α' → Link Op Op' B σ σ' α α' → Prop :=
  Relation.ReflTransGen (Step spec spec')

variable {spec : Spec Op (Party B σ)} {spec' : Spec Op' (Party B σ')}
  {c₀ c : Link Op Op' B σ σ' α α'}

/-- The left party goes ahead. -/
def advanceLeft (handler : List B → Handler Op (Party B σ)) (n : Nat)
    (c : Link Op Op' B σ σ' α α') : Link Op Op' B σ σ' α α' :=
  { c with left := c.left.advance handler c.right.party.sent n }

/-- The right party goes ahead. -/
def advanceRight (handler : List B → Handler Op' (Party B σ')) (n : Nat)
    (c : Link Op Op' B σ σ' α α') : Link Op Op' B σ σ' α α' :=
  { c with right := c.right.advance handler c.left.party.sent n }

theorem Reached.advanceLeft {handler : List B → Handler Op (Party B σ)}
    (hhandler : Delivers handler spec) (n : Nat) (h : Reached spec spec' c₀ c)
    (hc : c.left.party.received <+: c.right.party.sent) :
    Reached spec spec' c₀ (c.advanceLeft handler n) := by
  have hleft (left left' : Side Op B σ α) (hstep : left.Step spec c.right.party.sent left') :
      Step spec spec' ⟨left, c.right⟩ ⟨left', c.right⟩ := .left hstep
  exact h.trans (Relation.ReflTransGen.lift _ hleft _ _ (advance_steps hhandler n c.left hc))

theorem Reached.advanceRight {handler : List B → Handler Op' (Party B σ')}
    (hhandler : Delivers handler spec') (n : Nat) (h : Reached spec spec' c₀ c)
    (hc : c.right.party.received <+: c.left.party.sent) :
    Reached spec spec' c₀ (c.advanceRight handler n) := by
  have hright (right right' : Side Op' B σ' α') (hstep : right.Step spec' c.left.party.sent right') :
      Step spec spec' ⟨c.left, right⟩ ⟨c.left, right'⟩ := .right hstep
  exact h.trans (Relation.ReflTransGen.lift _ hright _ _ (advance_steps hhandler n c.right hc))

/-- What has arrived is the beginning of what has been sent. -/
structure Wired (c : Link Op Op' B σ σ' α α') : Prop where
  toLeft : c.left.party.received <+: c.right.party.sent
  toRight : c.right.party.received <+: c.left.party.sent

theorem Reached.wired (hgrows : Grows spec) (hgrows' : Grows spec') (h₀ : c₀.Wired)
    (h : Reached spec spec' c₀ c) : c.Wired := by
  induction h with
  | refl => exact h₀
  | tail _ hstep ih =>
      cases hstep with
      | left hstep =>
          cases hstep with
          | call hanswer harrives =>
              exact ⟨harrives, ih.toRight.trans (hgrows _ _ _ _ _ hanswer).2⟩
      | right hstep =>
          cases hstep with
          | call hanswer harrives =>
              exact ⟨ih.toLeft.trans (hgrows' _ _ _ _ _ hanswer).2, harrives⟩

/-- As long as the left party has stayed in bounds, it has kept its promise. -/
theorem Reached.guarded_left {bound : Party B σ → Prop}
    {allowed : (β : Type) → Op β → Party B σ → Prop} {post : α → Party B σ → Prop}
    (hbound : Backward spec bound)
    (h₀ : Guarded (Within bound spec) allowed c₀.left.program c₀.left.party post)
    (h : Reached spec spec' c₀ c) (hc : bound c.left.party) :
    Guarded (Within bound spec) allowed c.left.program c.left.party post := by
  induction h with
  | refl => exact h₀
  | tail _ hstep ih =>
      cases hstep with
      | left hstep => exact hstep.guarded hc (ih (hstep.backward hbound hc))
      | right hstep => exact ih hc

theorem Reached.guarded_right {bound : Party B σ' → Prop}
    {allowed : (β : Type) → Op' β → Party B σ' → Prop} {post : α' → Party B σ' → Prop}
    (hbound : Backward spec' bound)
    (h₀ : Guarded (Within bound spec') allowed c₀.right.program c₀.right.party post)
    (h : Reached spec spec' c₀ c) (hc : bound c.right.party) :
    Guarded (Within bound spec') allowed c.right.program c.right.party post := by
  induction h with
  | refl => exact h₀
  | tail _ hstep ih =>
      cases hstep with
      | left hstep => exact ih hc
      | right hstep => exact hstep.guarded hc (ih (hstep.backward hbound hc))

/-- What each party keeps as long as the other one does. What the right party
keeps may speak of the left one, if no step of the left one breaks it. -/
theorem Reached.both (keeps : Party B σ → Prop) (keeps' : Party B σ → Party B σ' → Prop)
    (hleft : ∀ c, Reached spec spec' c₀ c → c.Wired → keeps' c.left.party c.right.party →
      keeps c.left.party)
    (hright : ∀ c, Reached spec spec' c₀ c → c.Wired → keeps c.left.party →
      keeps' c.left.party c.right.party)
    (hstable : ∀ (β : Type) (op : Op β) s answer s' t, spec β op s answer s' → keeps' s t →
      keeps' s' t)
    (hgrows : Grows spec) (hgrows' : Grows spec') (h₀ : c₀.Wired)
    (hkeeps₀ : keeps c₀.left.party) (h : Reached spec spec' c₀ c) :
    keeps c.left.party ∧ keeps' c.left.party c.right.party := by
  have hwired {c : Link Op Op' B σ σ' α α'} (h : Reached spec spec' c₀ c) : c.Wired :=
    h.wired hgrows hgrows' h₀
  induction h with
  | refl => exact ⟨hkeeps₀, hright _ .refl h₀ hkeeps₀⟩
  | tail hbefore hstep ih =>
      have hreached := Relation.ReflTransGen.tail hbefore hstep
      cases hstep with
      | left hstep =>
          cases hstep with
          | call hanswer harrives =>
              have hkeeps' := hstable _ _ _ _ _ _ hanswer ih.2
              exact ⟨hleft _ hreached (hwired hreached) hkeeps', hkeeps'⟩
      | right hstep => exact ⟨ih.1, hright _ hreached (hwired hreached) ih.1⟩

end Link

end AtmSystem.Library
