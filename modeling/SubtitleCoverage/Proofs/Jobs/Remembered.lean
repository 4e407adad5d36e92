import Mathlib.Data.List.DropRight
import SubtitleCoverage.Jobs.Bus

/-!
# What a bus remembers

A bus hands events to its receivers and remembers the latest 100 of them for those that come later.
What it remembers is decided by the events alone that were published: how many of them it keeps for
the receivers, and what the receivers do, plays no part in it.

## Main definitions

* `Bus.Use`, `Bus.after`, `Bus.afterAll` — what can be done with a bus, and what comes of it.
* `Bus.published` — the events that are published in a run.
* `Bus.Remembers b es` — the bus remembers the latest of some events.

## Main results

* `Remembers.publish` — an event joins those remembered, and the oldest leaves if there were 100.
* `Remembers.afterAll` — a bus that remembers the latest events still does so after a run.
* `recentEvents_of_run` — **a bus remembers exactly the latest events.**
-/

namespace SubtitleCoverage

namespace Bus

variable {b : Bus} {es : List JobEvent}

/-! ### Runs -/

/-- What can be done with a bus. -/
inductive Use where
  | publish (e : JobEvent)
  | subscribe
  | unsubscribe (receiver : Nat)
  /-- A receiver asks for its next event, or hears how many it has lost. -/
  | receive (receiver : Nat)

/-- The bus after a use. -/
def after (b : Bus) : Use → Bus
  | .publish e => b.publish e
  | .subscribe => b.subscribe.2
  | .unsubscribe receiver => b.unsubscribe receiver
  | .receive receiver => (b.receive receiver).2

/-- The bus after some uses, one after the other. -/
def afterAll (b : Bus) (uses : List Use) : Bus := uses.foldl after b

@[simp] theorem afterAll_nil (b : Bus) : b.afterAll [] = b := rfl

@[simp] theorem afterAll_cons (b : Bus) (u : Use) (uses : List Use) :
    b.afterAll (u :: uses) = (b.after u).afterAll uses := rfl

/-- The event that a use publishes. -/
def Use.published? : Use → Option JobEvent
  | .publish e => some e
  | .subscribe | .unsubscribe _ | .receive _ => none

/-- The events that are published in a run, the first one first. -/
def published (uses : List Use) : List JobEvent := uses.filterMap Use.published?

@[simp] theorem published_nil : published [] = [] := rfl

theorem published_cons (u : Use) (uses : List Use) :
    published (u :: uses) = u.published?.toList ++ published uses := by
  cases u <;> rfl

/-! ### New buses -/

theorem ofCapacity?_eq_some_iff {capacity : Nat} :
    ofCapacity? capacity = some b ↔
      0 < capacity ∧ capacity ≤ maxBusCapacity ∧ b = { channel := .ofCapacity capacity } := by
  unfold ofCapacity?
  split
  · next hbad =>
    simp only [Bool.or_eq_true, decide_eq_true_eq] at hbad
    constructor
    · intro h
      cases h
    · rintro ⟨hpos, hle, -⟩
      omega
  · next hgood =>
    simp only [Bool.or_eq_true, decide_eq_true_eq, not_or] at hgood
    constructor
    · intro h
      exact ⟨Nat.pos_of_ne_zero hgood.1, Nat.le_of_not_lt hgood.2, (Option.some.inj h).symm⟩
    · rintro ⟨-, -, rfl⟩
      rfl

/-! ### The memory -/

/-- A bus remembers the latest of some events, newest first. -/
def Remembers (b : Bus) (es : List JobEvent) : Prop :=
  b.recent = es.reverse.take rememberedEvents

theorem Remembers.length_recent_le (h : b.Remembers es) : b.recent.length ≤ rememberedEvents := by
  rw [h]
  exact List.length_take_le ..

/-- A new bus remembers nothing, whatever its capacity. -/
theorem remembers_nil_of_ofCapacity? {capacity : Nat} (h : ofCapacity? capacity = some b) :
    b.Remembers [] := by
  obtain ⟨-, -, rfl⟩ := ofCapacity?_eq_some_iff.1 h
  rfl

/-- Of what a bus has remembered, all but the oldest event is left when one is published, or all of it
if there is room for one more. -/
theorem recent_publish (h : b.recent.length ≤ rememberedEvents) (e : JobEvent) :
    (b.publish e).recent = e :: b.recent.take (rememberedEvents - 1) := by
  show e :: (if rememberedEvents ≤ b.recent.length then b.recent.dropLast else b.recent) = _
  split
  · next hfull => rw [List.dropLast_eq_take, Nat.le_antisymm h hfull]
  · next hroom => rw [List.take_of_length_le (Nat.le_sub_one_of_lt (Nat.lt_of_not_le hroom))]

/-- **An event that is published joins those remembered**, and the oldest of them leaves if there
were 100. -/
theorem Remembers.publish (h : b.Remembers es) (e : JobEvent) :
    (b.publish e).Remembers (es ++ [e]) := by
  rw [Remembers, recent_publish h.length_recent_le, h, List.take_take, List.reverse_append]
  rfl

/-- **Nothing else that is done with a bus changes what it remembers.** -/
theorem Remembers.after (h : b.Remembers es) (u : Use) :
    (b.after u).Remembers (es ++ u.published?.toList) := by
  cases u with
  | publish e => exact h.publish e
  | subscribe | unsubscribe _ | receive _ =>
    rw [Use.published?, Option.toList_none, List.append_nil]
    exact h

/-- A bus that remembers the latest events still does so after a run. -/
theorem Remembers.afterAll (h : b.Remembers es) (uses : List Use) :
    (b.afterAll uses).Remembers (es ++ published uses) := by
  induction uses generalizing b es with
  | nil =>
    rw [afterAll_nil, published_nil, List.append_nil]
    exact h
  | cons u uses ih =>
    rw [afterAll_cons, published_cons, ← List.append_assoc]
    exact ih (h.after u)

/-- The latest `n` events on a bus are the last ones, as far as there are so many and the bus
remembers them. -/
theorem Remembers.recentEvents_eq (h : b.Remembers es) (n : Nat) :
    b.recentEvents n = (es.rtake (min n (min rememberedEvents es.length))).reverse := by
  rw [recentEvents, h, List.take_take, List.rtake_eq_reverse_take_reverse, List.reverse_reverse,
    List.take_eq_take_iff, List.length_reverse]
  omega

/-- **A bus remembers exactly the latest events.**  Whatever its capacity, after every run its latest
`n` events are the last `min n 100` of those published in the run, or all of them if there were
fewer, newest first.  Who has subscribed or unsubscribed meanwhile, what was received and what was
lost has no influence on it. -/
theorem recentEvents_of_run {capacity : Nat} (hnew : ofCapacity? capacity = some b)
    (uses : List Use) (n : Nat) :
    (b.afterAll uses).recentEvents n =
      ((published uses).rtake
        (min n (min rememberedEvents (published uses).length))).reverse := by
  have hrun : (b.afterAll uses).Remembers (published uses) :=
    (remembers_nil_of_ofCapacity? hnew).afterAll uses
  exact hrun.recentEvents_eq n

/-- A receiver loses all but the last of 103 events, the bus only the first three. -/
theorem recentEvents_of_run_past_slow_receiver :
    let report (i : Nat) : JobEvent :=
      .progress { job := .ofNat 1, current := .ofNat i, total := 103 }
    let uses : List Use := .subscribe :: (List.range 103).map fun i => .publish (report i)
    ∃ b, ofCapacity? 1 = some b ∧ ((b.afterAll uses).receive 0).1 = .lagged 102 ∧
      (b.afterAll (uses ++ [.receive 0, .unsubscribe 0])).recentEvents 200 =
        ((List.range' 3 100).map report).reverse := by
  intro report uses
  have hnew : ofCapacity? 1 = some { channel := .ofCapacity 1 } := rfl
  refine ⟨_, hnew, rfl, ?_⟩
  rw [recentEvents_of_run hnew]
  rfl

end Bus

end SubtitleCoverage
