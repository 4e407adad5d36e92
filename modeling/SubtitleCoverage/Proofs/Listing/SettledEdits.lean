import Mathlib.Data.List.Induction
import SubtitleCoverage.Listing.SearchBox

/-!
# Edits that settle

What the search box applies depends on all that has happened to it.  An edit settles once the box is
submitted, or is asked late enough, before anything else is typed.  The text applied at the end is that
of the last edit that has settled.  Here this is read off the whole history, with all edits and what came
after each of them, and compared with the box, which keeps one edit and one text.

## Main definitions

* `SearchBox.Event`, `SearchBox.respond` — what can happen to a search box, and what comes of it.
* `SearchBox.after es` — the search box to which some things have happened.
* `SearchBox.settledTexts es` — the texts of the edits that have settled, in order.
* `SearchBox.Waits text time es` — the last edit has not settled yet.

## Main results

* `respond_of_settles`, `respond_of_waits` — an event settles the edit that waits, or changes nothing.
* `respond_eq_some_iff` — a text is given out when it becomes the text applied.
* `settledTexts_typed`, `pending_respond` — what one event does, as the history tells it.
* `applied_after`, `pending_after` — the text applied and the edit that waits, by the history.
* `after_overwritten` — an edit that is overwritten before it has settled leaves no trace.
-/

namespace SubtitleCoverage

namespace SearchBox

/-! ### Events -/

/-- What can happen to a search box. -/
inductive Event where
  | input (text : String) (time : Int)
  | poll (now : Int)
  | flush

namespace Event

/-- Whether something is typed. -/
def isInput : Event → Bool
  | .input .. => true
  | _ => false

/-- Whether an event settles what was typed at a time, unless something else has been typed since. -/
def settles (time : Int) : Event → Bool
  | .input .. => false
  | .poll now => searchDelay ≤ now - time
  | .flush => true

/-- An event lets what was typed at a time wait. -/
def Passes (time : Int) (e : Event) : Prop := e.isInput = false ∧ e.settles time = false

theorem isInput_of_settles {e : Event} {time : Int} (h : e.settles time = true) :
    e.isInput = false := by
  cases e with
  | input _ _ => contradiction
  | poll _ => rfl
  | flush => rfl

end Event

/-- What a search box gives out when something happens, and what becomes of it. -/
def respond (b : SearchBox) : Event → Option String × SearchBox
  | .input text time => (none, b.input text time)
  | .poll now => b.poll now
  | .flush => b.flush

/-- What becomes of a search box when some things happen, the first one first. -/
def run (b : SearchBox) (es : List Event) : SearchBox := es.foldl (fun b e => (b.respond e).2) b

/-- The search box to which some things have happened. -/
def after (es : List Event) : SearchBox := run {} es

/-! ### Edits in a history -/

/-- Whether an edit settles by what comes after it, before anything else is typed. -/
def settlesIn (time : Int) (later : List Event) : Bool :=
  (later.takeWhile (!·.isInput)).any (·.settles time)

/-- The texts of the edits that settle, in order. -/
def settledTexts : List Event → List String
  | [] => []
  | .input text time :: later =>
    if settlesIn time later then text :: settledTexts later else settledTexts later
  | _ :: later => settledTexts later

/-- An edit waits: nothing else has been typed after it, and it has not settled. -/
def Waits (text : String) (time : Int) (es : List Event) : Prop :=
  ∃ before later, es = before ++ .input text time :: later ∧ ∀ e ∈ later, e.Passes time

variable {b : SearchBox} {e : Event} {text : String} {time : Int}

theorem settledTexts_cons_of_not_input (h : e.isInput = false) (later : List Event) :
    settledTexts (e :: later) = settledTexts later := by
  cases e with
  | input _ _ => contradiction
  | poll _ => rfl
  | flush => rfl

theorem settlesIn_cons_of_not_input (h : e.isInput = false) (time : Int) (later : List Event) :
    settlesIn time (e :: later) = (e.settles time || settlesIn time later) := by
  cases e with
  | input _ _ => contradiction
  | poll _ => rfl
  | flush => rfl

/-- An edit settles by the event right after it. -/
theorem settledTexts_input_of_settles (h : e.settles time = true) (text : String)
    (later : List Event) :
    settledTexts (.input text time :: e :: later) = text :: settledTexts later := by
  have he := Event.isInput_of_settles h
  have hin : settlesIn time (e :: later) = true := by
    rw [settlesIn_cons_of_not_input he, h, Bool.true_or]
  rw [settledTexts, if_pos hin, settledTexts_cons_of_not_input he]

/-- Or it is left to what comes later. -/
theorem settledTexts_input_of_passes (h : e.Passes time) (text : String) (later : List Event) :
    settledTexts (.input text time :: e :: later) = settledTexts (.input text time :: later) := by
  obtain ⟨he, hwaits⟩ := h
  have hin : settlesIn time (e :: later) = settlesIn time later := by
    rw [settlesIn_cons_of_not_input he, hwaits, Bool.false_or]
  rw [settledTexts, settledTexts, hin, settledTexts_cons_of_not_input he]

/-! ### One event -/

/-- An event that settles the edit that waits applies its text. -/
theorem respond_of_settles (hb : b.pending = some (text, time)) (he : e.settles time = true) :
    b.respond e = (if text = b.applied then none else some text, ⟨text, none⟩) := by
  have hflush : b.flush = (if text = b.applied then none else some text, ⟨text, none⟩) := by
    rw [flush, hb]
    by_cases htext : text = b.applied
    · simp only [htext, if_true]
    · simp only [htext, if_false]
  cases e with
  | input _ _ => contradiction
  | poll now =>
    rw [respond, poll, hb]
    exact (if_pos (of_decide_eq_true he)).trans hflush
  | flush => exact hflush

/-- Any other event that is not an edit changes nothing. -/
theorem respond_of_waits (he : e.isInput = false)
    (hb : ∀ edit, b.pending = some edit → e.settles edit.2 = false) : b.respond e = (none, b) := by
  cases e with
  | input _ _ => contradiction
  | poll now =>
    rw [respond, poll]
    split
    · next text time hpending => exact if_neg (of_decide_eq_false (hb _ hpending))
    · rfl
  | flush =>
    rw [respond, flush]
    split
    · rfl
    · next text time hpending => cases hb _ hpending

theorem respond_of_passes (hb : b.pending = some (text, time)) (he : e.Passes time) :
    b.respond e = (none, b) := by
  refine respond_of_waits he.1 fun edit hedit => ?_
  rw [hb] at hedit
  cases hedit
  exact he.2

/-- What can happen to a search box: something is typed, the edit that waits settles, or nothing. -/
theorem respond_cases (b : SearchBox) (e : Event) :
    (∃ text time, e = .input text time) ∨
      (∃ text time, b.pending = some (text, time) ∧ e.settles time = true) ∨
      (e.isInput = false ∧ ∀ edit, b.pending = some edit → e.settles edit.2 = false) := by
  by_cases hsettles : ∃ edit, b.pending = some edit ∧ e.settles edit.2 = true
  · obtain ⟨⟨text, time⟩, hpending, hsettles⟩ := hsettles
    exact .inr (.inl ⟨text, time, hpending, hsettles⟩)
  · have hwaits : ∀ edit, b.pending = some edit → e.settles edit.2 = false := fun edit hpending =>
      Bool.eq_false_iff.2 fun h => hsettles ⟨edit, hpending, h⟩
    cases e with
    | input text time => exact .inl ⟨text, time, rfl⟩
    | poll _ => exact .inr (.inr ⟨rfl, hwaits⟩)
    | flush => exact .inr (.inr ⟨rfl, hwaits⟩)

/-- **A text is given out when it becomes the text applied**, and not when it is applied already. -/
theorem respond_eq_some_iff :
    (b.respond e).1 = some text ↔ (b.respond e).2.applied = text ∧ text ≠ b.applied := by
  rcases b.respond_cases e with ⟨typed, time, rfl⟩ | ⟨typed, time, hb, he⟩ | ⟨he, hb⟩
  · exact iff_of_false nofun fun ⟨hsame, hne⟩ => hne hsame.symm
  · rw [respond_of_settles hb he]
    constructor
    · intro h
      split at h
      · contradiction
      · next hne =>
        obtain rfl := Option.some.inj h
        exact ⟨rfl, hne⟩
    · rintro ⟨rfl, hne⟩
      exact if_neg hne
  · rw [respond_of_waits he hb]
    exact iff_of_false nofun fun ⟨hsame, hne⟩ => hne hsame.symm

/-- The text applied is the one given out, or the same as before. -/
theorem applied_respond (b : SearchBox) (e : Event) :
    (b.respond e).2.applied = (b.respond e).1.getD b.applied := by
  cases h : (b.respond e).1 with
  | some text => exact (respond_eq_some_iff.1 h).1
  | none =>
    by_contra hne
    rw [respond_eq_some_iff.2 ⟨rfl, hne⟩] at h
    contradiction

/-! ### Several events -/

theorem run_append (b : SearchBox) (es es' : List Event) : b.run (es ++ es') = (b.run es).run es' :=
  List.foldl_append

/-- The edit that waits, as an event that comes before all others. -/
def typed (b : SearchBox) : List Event := b.pending.toList.map fun edit => .input edit.1 edit.2

theorem typed_eq (hb : b.pending = some (text, time)) : b.typed = [.input text time] := by
  rw [typed, hb]
  rfl

/-- **What one event leaves to be applied**, by the texts that settle after it. -/
theorem settledTexts_typed (b : SearchBox) (e : Event) (es : List Event) :
    (settledTexts (b.typed ++ e :: es)).getLast?.getD b.applied =
      (settledTexts ((b.respond e).2.typed ++ es)).getLast?.getD (b.respond e).2.applied := by
  rcases b.respond_cases e with ⟨text, time, rfl⟩ | ⟨text, time, hb, he⟩ | ⟨he, hb⟩
  · -- an edit that waits does not settle any more
    obtain ⟨applied, _ | ⟨text', time'⟩⟩ := b
    · rfl
    · rfl
  · rw [respond_of_settles hb he, typed_eq hb, List.singleton_append,
      settledTexts_input_of_settles he, List.getLast?_cons]
    rfl
  · have htexts : settledTexts (b.typed ++ e :: es) = settledTexts (b.typed ++ es) := by
      cases hpending : b.pending with
      | none =>
        rw [typed, hpending]
        exact settledTexts_cons_of_not_input he es
      | some edit =>
        rw [typed_eq hpending]
        exact settledTexts_input_of_passes ⟨he, hb edit hpending⟩ edit.1 es
    rw [respond_of_waits he hb, htexts]

/-- The text applied after some events is that of the last edit that has settled, the one that waits
before them among these. -/
theorem applied_run (es : List Event) (b : SearchBox) :
    (b.run es).applied = (settledTexts (b.typed ++ es)).getLast?.getD b.applied := by
  induction es generalizing b with
  | nil =>
    obtain ⟨applied, _ | ⟨text, time⟩⟩ := b
    · rfl
    · rfl
  | cons e es ih =>
    rw [settledTexts_typed]
    exact ih (b.respond e).2

/-- **The text applied is that of the last edit that has settled**, or no text. -/
theorem applied_after (es : List Event) :
    (after es).applied = (settledTexts es).getLast?.getD "" := applied_run es {}

/-- Which edit waits after one event more: one that has just come, or the one before. -/
theorem waits_concat {es : List Event} :
    Waits text time (es ++ [e]) ↔ e = .input text time ∨ (e.Passes time ∧ Waits text time es) := by
  constructor
  · rintro ⟨before, later, heq, hlater⟩
    induction later using List.reverseRecOn with
    | nil =>
      obtain ⟨-, hlast⟩ := List.append_inj' heq rfl
      exact .inl (List.cons.inj hlast).1
    | append_singleton later last _ =>
      rw [← List.cons_append, ← List.append_assoc] at heq
      obtain ⟨rfl, hlast⟩ := List.append_inj' heq rfl
      obtain rfl := (List.cons.inj hlast).1
      exact .inr ⟨hlater e (List.mem_append_right _ (List.mem_singleton_self e)),
        before, later, rfl, fun k hk => hlater k (List.mem_append_left _ hk)⟩
  · rintro (rfl | ⟨he, before, later, rfl, hlater⟩)
    · exact ⟨es, [], rfl, nofun⟩
    · refine ⟨before, later ++ [e], by rw [List.append_assoc, List.cons_append], fun k hk => ?_⟩
      rcases List.mem_append.1 hk with hk | hk
      · exact hlater k hk
      · rw [List.mem_singleton.1 hk]
        exact he

/-- Which edit waits in the box after an event. -/
theorem pending_respond : (b.respond e).2.pending = some (text, time) ↔
    e = .input text time ∨ (e.Passes time ∧ b.pending = some (text, time)) := by
  rcases b.respond_cases e with ⟨text', time', rfl⟩ | ⟨text', time', hb, he⟩ | ⟨he, hb⟩
  · constructor
    · intro h
      cases h
      exact .inl rfl
    · rintro (heq | ⟨⟨he, -⟩, -⟩)
      · cases heq
        rfl
      · contradiction
  · rw [respond_of_settles hb he]
    refine iff_of_false nofun ?_
    rintro (rfl | ⟨⟨-, hwaits⟩, hpending⟩)
    · contradiction
    · rw [hb] at hpending
      cases hpending
      rw [he] at hwaits
      contradiction
  · rw [respond_of_waits he hb]
    constructor
    · exact fun hpending => .inr ⟨⟨he, hb _ hpending⟩, hpending⟩
    · rintro (rfl | ⟨-, hpending⟩)
      · contradiction
      · exact hpending

/-- **The edit that waits is the last one, as long as nothing has settled it.** -/
theorem pending_after (es : List Event) :
    (after es).pending = some (text, time) ↔ Waits text time es := by
  induction es using List.reverseRecOn with
  | nil =>
    refine iff_of_false nofun ?_
    rintro ⟨before, later, heq, -⟩
    exact List.append_ne_nil_of_right_ne_nil before (List.cons_ne_nil _ _) heq.symm
  | append_singleton es e ih =>
    rw [waits_concat, ← ih, after, run_append]
    exact pending_respond

/-- Events that let an edit wait change nothing. -/
theorem run_of_passes (hb : b.pending = some (text, time)) {es : List Event}
    (h : ∀ e ∈ es, e.Passes time) : b.run es = b := by
  induction es with
  | nil => rfl
  | cons e es ih =>
    rw [run, List.foldl_cons, respond_of_passes hb (h e (List.mem_cons_self ..))]
    exact ih fun k hk => h k (List.mem_cons_of_mem e hk)

/-- **An edit that is overwritten before it has settled leaves no trace.** -/
theorem after_overwritten (before later : List Event) {quiet : List Event} (text text' : String)
    (time' : Int) (h : ∀ e ∈ quiet, e.Passes time) :
    after (before ++ .input text time :: quiet ++ .input text' time' :: later) =
      after (before ++ .input text' time' :: later) := by
  have hquiet : ((after before).input text time).run quiet = (after before).input text time :=
    run_of_passes rfl h
  have hfirst : after (before ++ .input text time :: quiet) = (after before).input text time := by
    rw [after, run_append]
    exact hquiet
  calc after (before ++ .input text time :: quiet ++ .input text' time' :: later)
      = (after (before ++ .input text time :: quiet)).run (.input text' time' :: later) :=
        run_append ..
    _ = ((after before).input text time).run (.input text' time' :: later) := by rw [hfirst]
    _ = (after before).run (.input text' time' :: later) := rfl
    _ = after (before ++ .input text' time' :: later) := (run_append ..).symm

/-! ### When the edit that waits settles -/

/-- The time that is told for asking again is there as long as an edit waits. -/
theorem deadline_eq_some_iff {d : Int} : b.deadline = some d ↔
    ∃ text time, b.pending = some (text, time) ∧ d = time + searchDelay := by
  rw [deadline, Option.map_eq_some_iff]
  constructor
  · rintro ⟨⟨text, time⟩, hpending, rfl⟩
    exact ⟨text, time, hpending, rfl⟩
  · rintro ⟨text, time, hpending, rfl⟩
    exact ⟨(text, time), hpending, rfl⟩

/-- To ask earlier has no effect. -/
theorem poll_of_lt (hb : b.pending = some (text, time)) {now : Int} (h : now < time + searchDelay) :
    b.poll now = (none, b) := by
  have hpasses : Event.Passes time (.poll now) := ⟨rfl, decide_eq_false (by omega)⟩
  exact respond_of_passes hb hpasses

/-- From then on the edit settles. -/
theorem poll_of_le (hb : b.pending = some (text, time)) {now : Int} (h : time + searchDelay ≤ now) :
    (b.poll now).2 = ⟨text, none⟩ := by
  have hsettles : Event.settles time (.poll now) = true := decide_eq_true (by omega)
  exact congrArg Prod.snd (respond_of_settles hb hsettles)

end SearchBox

end SubtitleCoverage
