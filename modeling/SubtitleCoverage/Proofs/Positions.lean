/-!
# Entries by position

Entries of a list can be equal, so which of them are in another list, and in which order, is said by
their positions.

## Main definitions

* `pick xs ps` — the entries of `xs` at some positions.
* `Picks xs P ys` — the list `ys` has the entries of `xs` at the positions with property `P`, in
  order and each once.

## Main results

* `picks_cons_pos`, `picks_cons_neg` — one entry more in front.
* `picks_filter` — what a filter picks.
-/

namespace SubtitleCoverage

variable {α : Type}

/-- The entries at some positions; positions past the end have none. -/
def pick (xs : List α) (ps : List Nat) : List α := ps.filterMap fun i => xs[i]?

/-- Entries that come with their positions are the entries at those positions. -/
theorem pick_map_snd {xs : List α} {es : List (α × Nat)} (h : ∀ e ∈ es, xs[e.2]? = some e.1) :
    pick xs (es.map (·.2)) = es.map (·.1) := by
  rw [pick, List.filterMap_map]
  induction es with
  | nil => rfl
  | cons e es ih =>
    have he : ((fun i => xs[i]?) ∘ fun e : α × Nat => e.2) e = some e.1 := h e List.mem_cons_self
    rw [List.filterMap_cons_some he, ih fun e' he' => h e' (List.mem_cons_of_mem _ he'),
      List.map_cons]

/-- A list has the entries at the positions with a property, in order and each once. -/
def Picks (xs : List α) (P : Nat → Prop) (ys : List α) : Prop :=
  ∃ ps : List Nat, ps.Pairwise (· < ·) ∧ (∀ i, i ∈ ps ↔ i < xs.length ∧ P i) ∧ ys = pick xs ps

theorem Picks.congr {xs ys : List α} {P Q : Nat → Prop} (h : Picks xs P ys)
    (hPQ : ∀ i < xs.length, P i ↔ Q i) : Picks xs Q ys := by
  obtain ⟨ps, hasc, hmem, hys⟩ := h
  refine ⟨ps, hasc, fun i => ?_, hys⟩
  rw [hmem]
  exact and_congr_right (hPQ i)

theorem picks_nil (P : Nat → Prop) : Picks ([] : List α) P [] :=
  ⟨[], List.Pairwise.nil, fun i => by simp, rfl⟩

theorem pick_cons_map_succ (x : α) (xs : List α) (ps : List Nat) :
    pick (x :: xs) (ps.map (· + 1)) = pick xs ps := by
  rw [pick, List.filterMap_map]
  rfl

theorem pairwise_map_succ {ps : List Nat} (h : ps.Pairwise (· < ·)) :
    (ps.map (· + 1)).Pairwise (· < ·) :=
  List.pairwise_map.2 (h.imp fun hlt => Nat.succ_lt_succ hlt)

/-- One entry more in front, which is not picked. -/
theorem picks_cons_neg {x : α} {xs ys : List α} {P : Nat → Prop} (h0 : ¬P 0)
    (h : Picks xs (fun i => P (i + 1)) ys) : Picks (x :: xs) P ys := by
  obtain ⟨ps, hasc, hmem, rfl⟩ := h
  refine ⟨ps.map (· + 1), pairwise_map_succ hasc, fun i => ?_, (pick_cons_map_succ x xs ps).symm⟩
  cases i with
  | zero => simp [h0]
  | succ i => simp [hmem]

/-- One entry more in front, which is picked. -/
theorem picks_cons_pos {x : α} {xs ys : List α} {P : Nat → Prop} (h0 : P 0)
    (h : Picks xs (fun i => P (i + 1)) ys) : Picks (x :: xs) P (x :: ys) := by
  obtain ⟨ps, hasc, hmem, rfl⟩ := h
  refine ⟨0 :: ps.map (· + 1), ?_, fun i => ?_, ?_⟩
  · refine List.pairwise_cons.2 ⟨fun i hi => ?_, pairwise_map_succ hasc⟩
    obtain ⟨j, -, rfl⟩ := List.mem_map.1 hi
    exact Nat.succ_pos j
  · cases i with
    | zero => simp [h0]
    | succ i => simp [hmem]
  · rw [← pick_cons_map_succ x xs ps]
    rfl

/-- What a filter picks. -/
theorem picks_filter (q : α → Bool) (xs : List α) :
    Picks xs (fun i => ∃ x, xs[i]? = some x ∧ q x = true) (xs.filter q) := by
  induction xs with
  | nil => exact picks_nil _
  | cons x xs ih =>
    cases hx : q x with
    | true =>
      rw [List.filter_cons_of_pos hx]
      exact picks_cons_pos ⟨x, rfl, hx⟩ ih
    | false =>
      rw [List.filter_cons_of_neg (by rw [hx]; exact Bool.false_ne_true)]
      refine picks_cons_neg ?_ ih
      rintro ⟨y, hy, hq⟩
      cases hy
      rw [hx] at hq
      cases hq

end SubtitleCoverage
