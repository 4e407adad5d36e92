/-!
# Dialogues

A dialogue asks questions, one after the other, and comes to a result. What it asks next may depend
on the answers so far. It always comes to an end, whoever answers.

## Main definitions

* `Dialogue` — the dialogues about questions `Q` with answers `A q`; they form a monad.
* `Dialogue.run`, `converse` — a dialogue with somebody who answers.
* `Dialogue.translate` — a dialogue held in other questions.
* `Dialogue.Ends` — what can come out of a dialogue, and by what exchange.
* `Dialogue.transcript` — what passes in a dialogue with somebody who answers.

## Main results

* `Dialogue.ends_bind` — a dialogue that is continued ends with what its continuation ends with.
* `Dialogue.ends_transcript` — a dialogue ends as it can, whoever answers.
-/

namespace SubtitleCoverage

/-- A course of questions and answers with a result. -/
inductive Dialogue {Q : Type} (A : Q → Type) (α : Type) where
  | done (a : α)
  | ask (q : Q) (next : A q → Dialogue A α)

namespace Dialogue

variable {Q Q' α β γ : Type} {A : Q → Type} {A' : Q' → Type}

/-- Goes on after the result of a dialogue. -/
def bind : Dialogue A α → (α → Dialogue A β) → Dialogue A β
  | done a, f => f a
  | ask q next, f => ask q fun x => (next x).bind f

instance : Monad (Dialogue A) where
  pure := done
  bind := bind

@[simp] theorem ask_bind (q : Q) (next : A q → Dialogue A α) (f : α → Dialogue A β) :
    ask q next >>= f = ask q fun x => next x >>= f := rfl

theorem bind_done (d : Dialogue A α) : d >>= done = d := by
  induction d with
  | done a => rfl
  | ask q next ih => simp only [ask_bind, ih]

theorem bind_bind (d : Dialogue A α) (f : α → Dialogue A β) (g : β → Dialogue A γ) :
    d >>= f >>= g = d >>= fun a => f a >>= g := by
  induction d with
  | done a => rfl
  | ask q next ih => simp only [ask_bind, ih]

instance : LawfulMonad (Dialogue A) :=
  .mk' _ bind_done (fun _ _ => rfl) bind_bind

/-! ### Holding a dialogue -/

/-- The dialogue of a single question. -/
def question (q : Q) : Dialogue A (A q) := ask q done

/-- Holds a dialogue with somebody who answers. -/
def run {m : Type → Type} [Monad m] (answer : (q : Q) → m (A q)) : Dialogue A α → m α
  | done a => pure a
  | ask q next => do run answer (next (← answer q))

/-- Holds a dialogue with somebody whose answers depend on what went before. -/
def converse {σ : Type} (answer : (q : Q) → σ → A q × σ) : Dialogue A α → σ → α × σ
  | done a, s => (a, s)
  | ask q next, s => converse answer (next (answer q s).1) (answer q s).2

/-- Holds a dialogue in other questions. -/
def translate (f : (q : Q) → Dialogue A' (A q)) : Dialogue A α → Dialogue A' α
  | done a => done a
  | ask q next => (f q).bind fun x => (next x).translate f

/-! ### What can come out -/

/-- A dialogue can end with a result after an exchange of questions and answers. -/
inductive Ends : Dialogue A α → List ((q : Q) × A q) → α → Prop
  | done (a : α) : Ends (done a) [] a
  | ask {q : Q} {next : A q → Dialogue A α} {x : A q} {exchange : List ((q : Q) × A q)} {a : α} :
    Ends (next x) exchange a → Ends (ask q next) (⟨q, x⟩ :: exchange) a

/-- A dialogue that is continued ends with what its continuation ends with. -/
theorem ends_bind {d : Dialogue A α} {f : α → Dialogue A β} {exchange : List ((q : Q) × A q)}
    {b : β} :
    Ends (d >>= f) exchange b ↔
      ∃ before after a, exchange = before ++ after ∧ Ends d before a ∧ Ends (f a) after b := by
  induction d generalizing exchange with
  | done a =>
    constructor
    · intro h
      exact ⟨[], exchange, a, rfl, .done a, h⟩
    · rintro ⟨_, after, _, rfl, ⟨⟩, h⟩
      exact h
  | ask q next ih =>
    constructor
    · intro h
      cases h with
      | ask h =>
        obtain ⟨before, after, a, rfl, h₁, h₂⟩ := (ih _).1 h
        exact ⟨_ :: before, after, a, rfl, .ask h₁, h₂⟩
    · rintro ⟨_, after, a, rfl, h, h₂⟩
      cases h with
      | ask h₁ => exact .ask ((ih _).2 ⟨_, after, a, rfl, h₁, h₂⟩)

/-- What passes in a dialogue with somebody whose answers depend on what went before. -/
def transcript {σ : Type} (answer : (q : Q) → σ → A q × σ) :
    Dialogue A α → σ → List ((q : Q) × A q)
  | done _, _ => []
  | ask q next, s => ⟨q, (answer q s).1⟩ :: transcript answer (next (answer q s).1) (answer q s).2

/-- Whoever answers, a dialogue ends as it can. -/
theorem ends_transcript {σ : Type} (answer : (q : Q) → σ → A q × σ) (d : Dialogue A α) (s : σ) :
    Ends d (d.transcript answer s) (d.converse answer s).1 := by
  induction d generalizing s with
  | done a => exact .done a
  | ask q next ih => exact .ask (ih (answer q s).1 (answer q s).2)

end Dialogue

end SubtitleCoverage
