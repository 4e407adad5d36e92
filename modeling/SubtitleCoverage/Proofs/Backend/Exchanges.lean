import SubtitleCoverage.Backend.Call

/-!
# What passes between a program and its backend

An exchange lists the questions of a dialogue with their answers.  It is taken apart question by
question here, and an exchange in other questions is cut into the parts that stand for one question
each.

## Main definitions

* `Dialogue.Asks P d` — a dialogue asks only questions with a property.
* `Dialogue.Carried f exchange exchange'` — the second exchange holds the first one in other
  questions.

## Main results

* `ends_done_iff`, `ends_ask_iff`, `ends_question_bind_iff` — exchanges by the first question.
* `ends_map_iff` — exchanges of a dialogue after which nothing more is asked.
* `exists_ends_done_iff`, `exists_ends_question_bind_iff` — the exchanges of a dialogue with no
  question, and with a single one.
* `exists_ends_of_answers` — a dialogue ends with any answers.
* `Asks.bind`, `Asks.translate`, `Asks.of_mem` — what is asked by the parts of a dialogue, in other
  questions, and in an exchange.
* `ends_translate_iff` — **a dialogue held in other questions ends as it can end itself**.
* `ends_of_mem_carried` — every answer comes out of a part of the exchange.
-/

namespace SubtitleCoverage

namespace Dialogue

variable {Q Q' α β : Type} {A : Q → Type} {A' : Q' → Type}

/-! ### The first question -/

theorem ends_done_iff {a b : α} {exchange : List ((q : Q) × A q)} :
    Ends (done a : Dialogue A α) exchange b ↔ exchange = [] ∧ b = a := by
  constructor
  · intro h
    cases h with
    | done => exact ⟨rfl, rfl⟩
  · rintro ⟨rfl, rfl⟩
    exact .done _

/-- Nothing is asked after a dialogue is over. -/
theorem exists_ends_done_iff {a : α} {exchange : List ((q : Q) × A q)} :
    (∃ b, Ends (done a : Dialogue A α) exchange b) ↔ exchange.map (·.1) = [] := by
  rw [List.map_eq_nil_iff]
  constructor
  · rintro ⟨b, h⟩
    exact (ends_done_iff.1 h).1
  · rintro rfl
    exact ⟨a, .done a⟩

theorem ends_ask_iff {q : Q} {next : A q → Dialogue A α} {exchange : List ((q : Q) × A q)} {a : α} :
    Ends (ask q next) exchange a ↔
      ∃ x rest, exchange = ⟨q, x⟩ :: rest ∧ Ends (next x) rest a := by
  constructor
  · intro h
    cases h with
    | ask h => exact ⟨_, _, rfl, h⟩
  · rintro ⟨x, rest, rfl, h⟩
    exact .ask h

/-- A single question that is followed by something. -/
theorem ends_question_bind_iff {q : Q} {f : A q → Dialogue A α} {exchange : List ((q : Q) × A q)}
    {a : α} :
    Ends (question q >>= f) exchange a ↔
      ∃ x rest, exchange = ⟨q, x⟩ :: rest ∧ Ends (f x) rest a := ends_ask_iff

/-- A dialogue after which nothing more is asked. -/
theorem ends_map_iff {d : Dialogue A α} {f : α → β} {exchange : List ((q : Q) × A q)} {b : β} :
    Ends (d >>= fun a => done (f a)) exchange b ↔ ∃ a, Ends d exchange a ∧ b = f a := by
  rw [ends_bind]
  constructor
  · rintro ⟨before, after, a, rfl, hends, hafter⟩
    obtain ⟨rfl, rfl⟩ := ends_done_iff.1 hafter
    exact ⟨a, by rwa [List.append_nil], rfl⟩
  · rintro ⟨a, hends, rfl⟩
    exact ⟨exchange, [], a, (List.append_nil _).symm, hends, .done _⟩

/-- A dialogue with a single question ends whatever the answer is. -/
theorem exists_ends_question_bind_iff {q : Q} {f : A q → Dialogue A α}
    {exchange : List ((q : Q) × A q)} (h : ∀ x, ∃ a, f x = done a) :
    (∃ a, Ends (question q >>= f) exchange a) ↔ exchange.map (·.1) = [q] := by
  constructor
  · rintro ⟨a, hends⟩
    obtain ⟨x, rest, rfl, hrest⟩ := ends_question_bind_iff.1 hends
    obtain ⟨b, hb⟩ := h x
    rw [hb] at hrest
    rw [List.map_cons, exists_ends_done_iff.1 ⟨a, hrest⟩]
  · intro hcalls
    obtain ⟨⟨q, x⟩, rest, rfl, rfl, hrest⟩ := List.map_eq_cons_iff.1 hcalls
    obtain ⟨b, hb⟩ := h x
    obtain ⟨a, hends⟩ := exists_ends_done_iff.2 hrest
    exact ⟨a, ends_question_bind_iff.2 ⟨x, rest, rfl, hb ▸ hends⟩⟩

/-- Whatever the answer to each question is, a dialogue ends with these answers. -/
theorem exists_ends_of_answers (answer : (q : Q) → A q) (d : Dialogue A α) :
    ∃ exchange a, Ends d exchange a ∧ ∀ q x, ⟨q, x⟩ ∈ exchange → x = answer q := by
  induction d with
  | done a => exact ⟨[], a, .done a, nofun⟩
  | ask q next ih =>
    obtain ⟨exchange, a, hends, hanswers⟩ := ih (answer q)
    refine ⟨⟨q, answer q⟩ :: exchange, a, .ask hends, fun q' x hmem => ?_⟩
    rcases List.mem_cons.1 hmem with heq | hmem
    · cases heq
      rfl
    · exact hanswers q' x hmem

/-! ### What is asked -/

/-- A dialogue asks only questions with a property, whatever the answers are. -/
def Asks (P : Q → Prop) : Dialogue A α → Prop
  | done _ => True
  | ask q next => P q ∧ ∀ x, (next x).Asks P

theorem asks_question {P : Q → Prop} {q : Q} (h : P q) : (question q : Dialogue A (A q)).Asks P :=
  ⟨h, fun _ => trivial⟩

theorem Asks.bind {P : Q → Prop} {d : Dialogue A α} {f : α → Dialogue A β} (hd : d.Asks P)
    (hf : ∀ a, (f a).Asks P) : (d >>= f).Asks P := by
  induction d with
  | done a => exact hf a
  | ask q next ih => exact ⟨hd.1, fun x => ih x (hd.2 x)⟩

theorem Asks.mono {P P' : Q → Prop} {d : Dialogue A α} (hd : d.Asks P) (h : ∀ q, P q → P' q) :
    d.Asks P' := by
  induction d with
  | done a => trivial
  | ask q next ih => exact ⟨h q hd.1, fun x => ih x (hd.2 x)⟩

/-- A dialogue held in other questions asks what stands for its own questions. -/
theorem Asks.translate {P : Q → Prop} {P' : Q' → Prop} {f : (q : Q) → Dialogue A' (A q)}
    {d : Dialogue A α} (hd : d.Asks P) (hf : ∀ q, P q → (f q).Asks P') : (d.translate f).Asks P' := by
  induction d with
  | done a => trivial
  | ask q next ih => exact (hf q hd.1).bind fun x => ih x (hd.2 x)

/-- All questions of an exchange are among those that the dialogue asks. -/
theorem Asks.of_mem {P : Q → Prop} {d : Dialogue A α} {exchange : List ((q : Q) × A q)} {a : α}
    (hd : d.Asks P) (h : Ends d exchange a) : ∀ e ∈ exchange, P e.1 := by
  induction h with
  | done a => nofun
  | ask _ ih =>
    intro e he
    rcases List.mem_cons.1 he with rfl | he
    · exact hd.1
    · exact ih (hd.2 _) e he

/-! ### Other questions -/

/-- What is translated twice is translated in one go. -/
theorem translate_translate {Q'' : Type} {A'' : Q'' → Type} (f : (q : Q) → Dialogue A' (A q))
    (g : (q : Q') → Dialogue A'' (A' q)) (d : Dialogue A α) :
    (d.translate f).translate g = d.translate fun q => (f q).translate g := by
  have hbind {β γ : Type} (d : Dialogue A' β) (k : β → Dialogue A' γ) :
      (d.bind k).translate g = (d.translate g).bind fun b => (k b).translate g := by
    induction d with
    | done b => rfl
    | ask q next ih =>
      show (g q).bind (fun x => ((next x).bind k).translate g) = _
      simp only [ih]
      exact (bind_bind (g q) (fun x => (next x).translate g) _).symm
  induction d with
  | done a => rfl
  | ask q next ih =>
    show ((f q).bind fun x => (next x).translate f).translate g = _
    rw [hbind]
    simp only [ih]
    rfl

/-- An exchange is held in other questions: the answer to each question comes out of a part of the
other exchange, and the parts follow each other. -/
inductive Carried (f : (q : Q) → Dialogue A' (A q)) :
    List ((q : Q) × A q) → List ((q : Q') × A' q) → Prop where
  | nil : Carried f [] []
  | cons {q : Q} {x : A q} {exchange : List ((q : Q) × A q)} {part rest : List ((q : Q') × A' q)}
    (hpart : Ends (f q) part x) (hrest : Carried f exchange rest) :
    Carried f (⟨q, x⟩ :: exchange) (part ++ rest)

/-- **A dialogue held in other questions ends as it can end itself.** -/
theorem carried_of_ends_translate {f : (q : Q) → Dialogue A' (A q)} {d : Dialogue A α} :
    ∀ {exchange' : List ((q : Q') × A' q)} {a : α}, Ends (d.translate f) exchange' a →
      ∃ exchange, Ends d exchange a ∧ Carried f exchange exchange' := by
  induction d with
  | done b =>
    intro exchange' a h
    obtain ⟨rfl, rfl⟩ := ends_done_iff.1 h
    exact ⟨[], .done _, .nil⟩
  | ask q next ih =>
    intro exchange' a h
    obtain ⟨part, rest, x, rfl, hpart, hrest⟩ := ends_bind.1 h
    obtain ⟨exchange, hends, hcarried⟩ := ih x hrest
    exact ⟨⟨q, x⟩ :: exchange, .ask hends, .cons hpart hcarried⟩

/-- What can be asked in other questions is a way for the translated dialogue to end. -/
theorem ends_translate_of_carried {f : (q : Q) → Dialogue A' (A q)} {d : Dialogue A α}
    {exchange : List ((q : Q) × A q)} {a : α} (h : Ends d exchange a) :
    ∀ {exchange' : List ((q : Q') × A' q)}, Carried f exchange exchange' →
      Ends (d.translate f) exchange' a := by
  induction h with
  | done a =>
    rintro _ ⟨⟩
    exact .done a
  | ask _ ih =>
    rintro _ ⟨⟩
    next part rest hpart hrest => exact ends_bind.2 ⟨part, rest, _, rfl, hpart, ih hrest⟩

/-- **The ends of a dialogue held in other questions.** -/
theorem ends_translate_iff {f : (q : Q) → Dialogue A' (A q)} {d : Dialogue A α}
    {exchange' : List ((q : Q') × A' q)} {a : α} :
    Ends (d.translate f) exchange' a ↔ ∃ exchange, Ends d exchange a ∧ Carried f exchange exchange' :=
  ⟨carried_of_ends_translate, fun ⟨_, h, hcarried⟩ => ends_translate_of_carried h hcarried⟩

/-- Every answer comes out of a part of the exchange in other questions. -/
theorem ends_of_mem_carried {f : (q : Q) → Dialogue A' (A q)} {exchange : List ((q : Q) × A q)}
    {exchange' : List ((q : Q') × A' q)} (h : Carried f exchange exchange') {q : Q} {x : A q}
    (hmem : ⟨q, x⟩ ∈ exchange) : ∃ part, part ⊆ exchange' ∧ Ends (f q) part x := by
  induction h with
  | nil => contradiction
  | cons hpart _ ih =>
    rcases List.mem_cons.1 hmem with heq | hmem
    · cases heq
      exact ⟨_, List.subset_append_left .., hpart⟩
    · obtain ⟨part, hsub, hends⟩ := ih hmem
      exact ⟨part, List.Subset.trans hsub (List.subset_append_right ..), hends⟩

end Dialogue

end SubtitleCoverage
