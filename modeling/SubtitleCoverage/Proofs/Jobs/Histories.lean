import Mathlib.Data.Finset.Card
import SubtitleCoverage.Proofs.Jobs.Consistency

/-!
# Histories of a board

A history lists what was asked of a board, each request with its reply.  Here every request is taken
apart once, into what it does to the jobs shown and to the jobs remembered; what is said of whole
histories rests on that and opens no operation again.

## Main definitions

* `Board.Request`, `Board.Reply` — what is asked of a board, and what it replies.
* `Board.Answers`, `Board.Runs` — a board that answers one request, and one that answers several.
* `Board.queueAfter`, `Board.shownAfter`, `Board.TakesOff` — what one request does to the jobs
  remembered and to each job shown.
* `Board.takenOff t`, `Board.stillOff t` — the jobs taken off in the course of a history, and those of
  them that have not been dispatched since.

## Main results

* `Answers.retired_eq`, `Answers.get?_eq`, `Answers.mem_removed_iff` — a board that answers a request
  does just that.
* `Runs.retired_eq` — **nothing is forgotten before more than 256 jobs have been taken off.**
-/

namespace SubtitleCoverage

namespace Board

/-! ### Requests and replies -/

/-- What is asked of a board. -/
inductive Request where
  | dispatch (job : JobId) (total : UInt64)
  | event (e : JobEvent) (now : Int)
  | dismiss (job : JobId)
  | dismissExpired (now : Int) (after : Nat)

/-- What a board replies. -/
inductive Reply where
  /-- How a job is shown that has been dispatched. -/
  | shown (p : Option JobProgress)
  /-- What an event did. -/
  | outcome (o : Outcome)
  /-- Whether a job was there to be taken off. -/
  | found (b : Bool)
  /-- The jobs that were due. -/
  | due (jobs : List JobId)

/-- Requests with their replies, the first one first. -/
abbrev History : Type := List (Request × Reply)

/-- A board answers a request.  The jobs that are due leave in any order, and are named in that
order. -/
inductive Answers (b : Board) : Request → Reply → Board → Prop where
  | dispatch (job : JobId) (total : UInt64) :
    Answers b (.dispatch job total) (.shown ((b.dispatch job total).get? job)) (b.dispatch job total)
  | event (e : JobEvent) (now : Int) :
    Answers b (.event e now) (.outcome (b.apply e now).1) (b.apply e now).2
  | dismiss (job : JobId) :
    Answers b (.dismiss job) (.found (b.dismiss job).1) (b.dismiss job).2
  | dismissExpired (now : Int) (after : Nat) {order : List JobId}
    (h : order.Perm (b.expired now after)) :
    Answers b (.dismissExpired now after) (.due order) (order.foldl retire b)

/-- A board answers some requests, one after the other. -/
inductive Runs (b : Board) : History → Board → Prop where
  | nil : Runs b [] b
  | snoc {t : History} {q : Request} {r : Reply} {b' b'' : Board} (h : Runs b t b')
    (hanswer : b'.Answers q r b'') : Runs b (t ++ [(q, r)]) b''

/-- The jobs that a request has taken off the board. -/
def removed : Request × Reply → List JobId
  | (.dismiss job, .found true) => [job]
  | (.dismissExpired _ _, .due jobs) => jobs
  | _ => []

/-- The jobs that were taken off in the course of a history. -/
def takenOff (t : History) : List JobId := t.flatMap removed

/-- The queue of the jobs remembered after a request.  A dispatch makes the board forget its job, and
every job that is taken off joins the queue. -/
def queueAfter (queue : List JobId) (d : Request × Reply) : List JobId :=
  match d.1 with
  | .dispatch job _ => queue.filter (· ≠ job)
  | _ => (removed d).foldl enqueue queue

/-- What is shown of a job after a request, depending on whether it is remembered as taken off. -/
def shownAfter (job : JobId) (shown : Option JobProgress) (remembered : Bool) :
    Request → Option JobProgress
  | .dispatch k total =>
    if k = job then some ((shown.getD (.start job .dispatched total)).expect total) else shown
  | .event e now =>
    if e.job = job ∧ remembered = false then some (JobProgress.afterEvent shown now e) else shown
  | .dismiss k => if k = job then none else shown
  | .dismissExpired now after =>
    if after ≠ 0 ∧ shown.any (·.isDue now after) then none else shown

/-- A request takes a job off: it is shown, and it is dismissed or due. -/
def TakesOff (job : JobId) (shown : Option JobProgress) : Request → Prop
  | .dismiss k => k = job ∧ shown.isSome
  | .dismissExpired now after => after ≠ 0 ∧ shown.any (·.isDue now after)
  | _ => False

/-- The jobs that have been taken off and not been dispatched since, after one request more. -/
def stayOff (jobs : List JobId) (d : Request × Reply) : List JobId :=
  match d.1 with
  | .dispatch job _ => jobs.filter (· ≠ job)
  | _ => jobs ++ removed d

/-- The jobs that were taken off in the course of a history and have not been dispatched since, the
latest last. -/
def stillOff (t : History) : List JobId := t.foldl stayOff []

@[simp] theorem takenOff_concat (t : History) (d : Request × Reply) :
    takenOff (t ++ [d]) = takenOff t ++ removed d := by
  rw [takenOff, List.flatMap_append, List.flatMap_singleton, takenOff]

theorem takenOff_subset_concat (t : History) (d : Request × Reply) :
    takenOff t ⊆ takenOff (t ++ [d]) := by
  rw [takenOff_concat]
  exact List.subset_append_left ..

@[simp] theorem stillOff_concat (t : History) (d : Request × Reply) :
    stillOff (t ++ [d]) = stayOff (stillOff t) d := by
  rw [stillOff, List.foldl_append]
  rfl

theorem mem_stayOff {jobs : List JobId} {d : Request × Reply} {k : JobId} (h : k ∈ stayOff jobs d) :
    k ∈ jobs ∨ k ∈ removed d := by
  unfold stayOff at h
  split at h
  · exact .inl (List.mem_filter.1 h).1
  · exact List.mem_append.1 h

theorem mem_stayOff_dispatch {jobs : List JobId} {job k : JobId} {total : UInt64} {r : Reply} :
    k ∈ stayOff jobs (.dispatch job total, r) ↔ k ∈ jobs ∧ k ≠ job := by
  simp [stayOff]

/-- The jobs that are still off were off before or have been taken off since. -/
theorem foldl_stayOff_subset (jobs : List JobId) (t : History) :
    t.foldl stayOff jobs ⊆ jobs ++ takenOff t := by
  induction t using List.reverseRecOn with
  | nil => exact List.subset_append_left ..
  | append_singleton t d ih =>
    intro k hk
    rw [List.foldl_concat] at hk
    rw [takenOff_concat, ← List.append_assoc]
    rcases mem_stayOff hk with hk | hk
    · exact List.mem_append_left _ (ih hk)
    · exact List.mem_append_right _ hk

theorem stillOff_subset (t : History) : stillOff t ⊆ takenOff t := foldl_stayOff_subset [] t

/-! ### One request -/

theorem dismiss_of_get?_eq_none {b : Board} {job : JobId} (h : b.get? job = none) :
    b.dismiss job = (false, b) := by
  have hcontains : b.jobs.contains job = false := Option.isSome_eq_false_iff.2 (by rw [← get?, h]; rfl)
  rw [dismiss, hcontains]
  rfl

theorem dismiss_of_get?_eq_some {b : Board} {job : JobId} {p : JobProgress}
    (h : b.get? job = some p) : b.dismiss job = (true, b.retire job) := by
  have hcontains : b.jobs.contains job = true := Option.isSome_iff_exists.2 ⟨p, h⟩
  rw [dismiss, hcontains]
  rfl

/-- Several jobs leave the queue of those remembered, or not, one after the other. -/
theorem retired_foldl_retire (jobs : List JobId) (b : Board) :
    (jobs.foldl retire b).retired = jobs.foldl enqueue b.retired := by
  induction jobs generalizing b with
  | nil => rfl
  | cons job jobs ih => rw [List.foldl_cons, ih, retired_retire, List.foldl_cons]

theorem get?_foldl_retire (jobs : List JobId) (b : Board) (k : JobId) :
    (jobs.foldl retire b).get? k = if k ∈ jobs then none else b.get? k := by
  induction jobs generalizing b with
  | nil => simp
  | cons job jobs ih =>
    rw [List.foldl_cons, ih, get?_retire]
    by_cases hk : job = k
    · simp [hk]
    · simp [hk, Ne.symm hk]

namespace Answers

variable {b b' : Board} {q : Request} {r : Reply}

theorem step (h : b.Answers q r b') : Step b b' := by
  cases h with
  | dispatch job total => exact .dispatch b job total
  | event e now => exact .apply b e now
  | dismiss job => exact .dismiss b job
  | dismissExpired now after h => exact .dismissExpired b now after h

/-- What a request does to the jobs remembered. -/
theorem retired_eq (h : b.Answers q r b') : b'.retired = queueAfter b.retired (q, r) := by
  cases h with
  | dispatch job total => rfl
  | event e now => exact retired_apply b e now
  | dismiss job =>
    cases hjob : b.get? job with
    | none => rw [dismiss_of_get?_eq_none hjob]; rfl
    | some p => rw [dismiss_of_get?_eq_some hjob]; rfl
  | dismissExpired now after h => exact retired_foldl_retire _ b

/-- Which jobs a request takes off. -/
theorem mem_removed_iff (h : b.Answers q r b') (hb : b.Consistent) (k : JobId) :
    k ∈ removed (q, r) ↔ TakesOff k (b.get? k) q := by
  cases h with
  | dispatch job total => exact List.mem_nil_iff k
  | event e now => exact List.mem_nil_iff k
  | dismiss job =>
    cases hjob : b.get? job with
    | none =>
      rw [dismiss_of_get?_eq_none hjob]
      refine iff_of_false List.not_mem_nil ?_
      rintro ⟨rfl, hk⟩
      rw [hjob] at hk
      contradiction
    | some p =>
      rw [dismiss_of_get?_eq_some hjob]
      refine List.mem_singleton.trans ⟨?_, fun hk => hk.1.symm⟩
      rintro rfl
      exact ⟨rfl, by rw [hjob]; rfl⟩
  | dismissExpired now after h =>
    -- the order in which they leave does not matter, and none is due if `after` is 0
    refine h.mem_iff.trans ⟨fun hk => ?_, fun ⟨hafter, hk⟩ => ?_⟩
    · obtain ⟨p, hp, hdue⟩ := hb.get?_of_mem_expired hk
      refine ⟨fun hafter => ?_, by rw [hp]; exact hdue⟩
      simp [expired, hafter] at hk
    · obtain ⟨p, hp, hdue⟩ := (Option.any_eq_true _ _).1 hk
      rw [hb.expired_eq hafter]
      exact List.mem_map.2 ⟨(k, p), List.mem_filter.2 ⟨(b.jobs.get?_eq_some_iff).1 hp, hdue⟩, rfl⟩

/-- What a request does to each job. -/
theorem get?_eq (h : b.Answers q r b') (hb : b.Consistent) (k : JobId) :
    b'.get? k = shownAfter k (b.get? k) (k ∈ b.retired) q := by
  have hremoved := h.mem_removed_iff hb k
  cases h with
  | dispatch job total => exact get?_dispatch b job total k
  | event e now =>
    rw [get?_apply, shownAfter]
    exact if_congr (and_congr_right' decide_eq_false_iff_not.symm) rfl rfl
  | dismiss job =>
    -- a job that is not shown is not shown afterwards either
    cases hjob : b.get? job with
    | none =>
      rw [dismiss_of_get?_eq_none hjob, shownAfter]
      split
      · next hk => rw [← hk, hjob]
      · rfl
    | some p => rw [dismiss_of_get?_eq_some hjob, get?_retire, shownAfter]
  | dismissExpired now after h =>
    rw [get?_foldl_retire, shownAfter]
    exact if_congr hremoved rfl rfl

/-- Only jobs that are shown are taken off. -/
theorem exists_of_mem_removed (h : b.Answers q r b') (hb : b.Consistent) {k : JobId}
    (hk : k ∈ removed (q, r)) : ∃ p, b.get? k = some p := by
  rw [h.mem_removed_iff hb] at hk
  cases q with
  | dispatch job total => exact hk.elim
  | event e now => exact hk.elim
  | dismiss job => exact Option.isSome_iff_exists.1 hk.2
  | dismissExpired now after =>
    obtain ⟨p, hp, -⟩ := (Option.any_eq_true _ _).1 hk.2
    exact ⟨p, hp⟩

theorem nodup_removed (h : b.Answers q r b') (hb : b.Consistent) : (removed (q, r)).Nodup := by
  cases h with
  | dispatch job total => exact List.nodup_nil
  | event e now => exact List.nodup_nil
  | dismiss job => cases (b.dismiss job).1 <;> simp [removed]
  | dismissExpired now after h => exact h.nodup_iff.2 (hb.nodup_expired now after)

/-- A job that is taken off was not remembered before. -/
theorem not_mem_retired (h : b.Answers q r b') (hb : b.Consistent) {k : JobId}
    (hk : k ∈ removed (q, r)) : k ∉ b.retired := by
  obtain ⟨p, hp⟩ := h.exists_of_mem_removed hb hk
  exact hb.not_retired k p hp

end Answers

/-! ### Several requests -/

namespace Runs

variable {b b' : Board} {t : History}

theorem reachable (h : b.Runs t b') (hb : Reachable b) : Reachable b' := by
  induction h with
  | nil => exact hb
  | snoc _ hanswer ih => exact .step ih hanswer.step

theorem nil_iff : b.Runs [] b' ↔ b' = b := by
  constructor
  · intro h
    generalize ht : ([] : History) = t at h
    cases h with
    | nil => rfl
    | snoc => exact absurd ht (by simp)
  · rintro rfl
    exact .nil

/-- The last request of a history. -/
theorem snoc_iff {d : Request × Reply} :
    b.Runs (t ++ [d]) b' ↔ ∃ b₁, b.Runs t b₁ ∧ b₁.Answers d.1 d.2 b' := by
  constructor
  · intro h
    generalize htd : t ++ [d] = td at h
    cases h with
    | nil => exact absurd htd (by simp)
    | snoc h hanswer =>
      obtain ⟨rfl, heq⟩ := List.append_inj' htd rfl
      obtain rfl := List.singleton_inj.1 heq
      exact ⟨_, h, hanswer⟩
  · rintro ⟨b₁, h, hanswer⟩
    exact h.snoc hanswer

end Runs

/-- A board answers any requests. -/
theorem exists_runs (b : Board) (qs : List Request) :
    ∃ t b', b.Runs t b' ∧ t.map Prod.fst = qs := by
  induction qs using List.reverseRecOn with
  | nil => exact ⟨[], b, .nil, rfl⟩
  | append_singleton qs q ih =>
    obtain ⟨t, b', h, rfl⟩ := ih
    have hanswer : ∃ r b'', b'.Answers q r b'' := by
      cases q with
      | dispatch job total => exact ⟨_, _, .dispatch job total⟩
      | event e now => exact ⟨_, _, .event e now⟩
      | dismiss job => exact ⟨_, _, .dismiss job⟩
      | dismissExpired now after => exact ⟨_, _, .dismissExpired now after (List.Perm.refl _)⟩
    obtain ⟨r, b'', hanswer⟩ := hanswer
    exact ⟨t ++ [(q, r)], b'', h.snoc hanswer, by rw [List.map_append]; rfl⟩

/-! ### The queue of the jobs remembered -/

theorem mem_foldl_enqueue {jobs queue : List JobId} {k : JobId}
    (h : k ∈ jobs.foldl enqueue queue) : k ∈ queue ∨ k ∈ jobs := by
  induction jobs generalizing queue with
  | nil => exact .inl h
  | cons job jobs ih =>
    rcases ih h with h | h
    · rcases mem_enqueue h with h | rfl
      · exact .inl h
      · exact .inr (List.mem_cons_self ..)
    · exact .inr (List.mem_cons_of_mem _ h)

/-- Jobs for which there is room push nothing out of the queue. -/
theorem foldl_enqueue_of_le {jobs queue : List JobId} (h : queue.length + jobs.length ≤ 256) :
    jobs.foldl enqueue queue = queue ++ jobs := by
  induction jobs generalizing queue with
  | nil => exact (List.append_nil queue).symm
  | cons job jobs ih =>
    rw [List.length_cons] at h
    have hroom : enqueue queue job = queue ++ [job] := by
      rw [enqueue, if_neg]
      intro hfull
      unfold retiredCapacity at hfull
      omega
    rw [List.foldl_cons, hroom, ih, List.append_assoc]
    · rfl
    · rw [List.length_append, List.length_singleton]
      omega

theorem card_le_card {jobs jobs' : List JobId} (h : jobs ⊆ jobs') :
    jobs.toFinset.card ≤ jobs'.toFinset.card :=
  Finset.card_le_card fun _ hk => List.mem_toFinset.2 (h (List.mem_toFinset.1 hk))

/-- There are at least as many different jobs among some as a list of them without repetitions is
long. -/
theorem length_le_card {jobs jobs' : List JobId} (hnodup : jobs.Nodup) (h : jobs ⊆ jobs') :
    jobs.length ≤ jobs'.toFinset.card := by
  rw [← List.toFinset_card_of_nodup hnodup]
  exact card_le_card h

/-- The jobs taken off by a request, after some that are remembered, are all different. -/
theorem Answers.nodup_append_removed {b b' : Board} {q : Request} {r : Reply}
    (h : b.Answers q r b') (hb : b.Consistent) {jobs : List JobId} (hjobs : jobs.Sublist b.retired) :
    (jobs ++ removed (q, r)).Nodup := by
  refine List.nodup_append.2 ⟨hb.retired_nodup.sublist hjobs, h.nodup_removed hb, ?_⟩
  rintro k hk _ hk' rfl
  exact h.not_mem_retired hb hk' (hjobs.subset hk)

/-- **Nothing is forgotten before more than 256 jobs have been taken off.** -/
theorem Runs.retired_eq {t : History} {b : Board} (h : empty.Runs t b)
    (hfew : (takenOff t).toFinset.card ≤ 256) : b.retired = stillOff t := by
  induction h with
  | nil => rfl
  | snoc h hanswer ih =>
    next t q r b b' =>
    have hb : b.Consistent := (h.reachable .empty).consistent
    have hret := ih (Nat.le_trans (card_le_card (takenOff_subset_concat t (q, r))) hfew)
    -- the jobs remembered and those that join them are all different
    have hnodup := hanswer.nodup_append_removed hb (List.Sublist.refl b.retired)
    have hmem : b.retired ++ removed (q, r) ⊆ takenOff (t ++ [(q, r)]) := by
      rw [takenOff_concat, hret]
      exact List.append_subset.2 ⟨fun k hk => List.mem_append_left _ (stillOff_subset t hk),
        fun k hk => List.mem_append_right _ hk⟩
    have hlength := Nat.le_trans (length_le_card hnodup hmem) hfew
    rw [List.length_append] at hlength
    rw [hanswer.retired_eq, stillOff_concat, ← hret, stayOff]
    cases q with
    | dispatch job total => rfl
    | event e now => exact foldl_enqueue_of_le hlength
    | dismiss job => exact foldl_enqueue_of_le hlength
    | dismissExpired now after => exact foldl_enqueue_of_le hlength

end Board

end SubtitleCoverage
