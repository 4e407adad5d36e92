import SubtitleCoverage.Proofs.Jobs.Lookup

/-!
# What holds of every board

A board is changed by dispatches, by events and by taking jobs off, singly or all that are due.  The
jobs that are due leave in no order that anyone has promised, so a step takes them off in any.

## Main definitions

* `Board.Step`, `Board.Reachable` — the changes of a board, and the boards that they lead to.
* `JobProgress.Consistent p` — the fields of a job fit its phase.
* `Board.Consistent b` — the jobs shown and the jobs remembered fit together.

## Main results

* `JobProgress.Consistent.afterEvent` — an event keeps the fields of its job fitting.
* `Board.Consistent.step` — every change keeps a board consistent.
* `consistent_of_reachable` — **every board that can come about is consistent**, and some job on it
  is running exactly when some job has not finished.
-/

namespace SubtitleCoverage

/-! ### Boards that can come about -/

namespace Board

/-- One change of a board.  An event may arrive at any time, and the jobs that are due may be taken
off in any order. -/
inductive Step : Board → Board → Prop where
  | dispatch (b : Board) (job : JobId) (total : UInt64) : Step b (b.dispatch job total)
  | apply (b : Board) (e : JobEvent) (now : Int) : Step b (b.apply e now).2
  | dismiss (b : Board) (job : JobId) : Step b (b.dismiss job).2
  | dismissExpired (b : Board) (now : Int) (after : Nat) {order : List JobId}
      (h : order.Perm (b.expired now after)) : Step b (order.foldl retire b)

/-- The boards that some changes make of the empty one. -/
inductive Reachable : Board → Prop where
  | empty : Reachable empty
  | step {b b' : Board} (hb : Reachable b) (h : Step b b') : Reachable b'

/-- Taking off the jobs that are due, in the order in which they are listed, is a step. -/
theorem step_dismissExpired (b : Board) (now : Int) (after : Nat) :
    Step b (b.dismissExpired now after).2 :=
  .dismissExpired b now after (List.Perm.refl _)

end Board

/-! ### One job -/

/-- The fields of a job fit its phase. -/
structure JobProgress.Consistent (p : JobProgress) : Prop where
  phase_ne_idle : p.phase ≠ .idle
  running_iff : p.running = true ↔ p.phase ≠ .terminal
  finishedAt_iff : p.finishedAt.isSome ↔ p.phase = .terminal
  /-- Nothing is known of a job of which no event has come. -/
  dispatched : p.phase = .dispatched → p.lastSequence = none ∧
    p.current = 0 ∧ p.completed = 0 ∧ p.failed = 0 ∧ p.skipped = 0
  running_key : p.phase = .running → p.lastSequence.isSome
  /-- A final account adds up, as far as numbers go. -/
  terminal_current : p.phase = .terminal → p.current.toNat =
    min (p.completed.toNat + p.failed.toNat + p.skipped.toNat) (UInt64.size - 1)
  terminal_le : p.phase = .terminal → p.current ≤ p.total

namespace JobProgress

theorem consistent_start_dispatched (job : JobId) (total : UInt64) :
    (start job .dispatched total).Consistent := by
  constructor <;> simp [start]

/-- The number of items can change only while it is 0, and then a finished job has none. -/
theorem Consistent.expect {p : JobProgress} (h : p.Consistent) (total : UInt64) :
    (p.expect total).Consistent := by
  unfold JobProgress.expect
  split
  · next hzero =>
    refine { h with terminal_le := fun hphase => ?_ }
    have hle : p.current ≤ 0 := hzero ▸ h.terminal_le hphase
    rw [UInt64.le_iff_toNat_le] at hle ⊢
    exact Nat.le_trans hle (Nat.zero_le _)
  · exact h

theorem consistent_advance {p : JobProgress} (hfinished : p.finishedAt = none)
    (r : ProgressReport) : (p.advance r).Consistent := by
  constructor <;> simp [advance, hfinished]

theorem consistent_finish (p : JobProgress) (r : FinalReport) (now : Int) :
    (p.finish r now).Consistent where
  phase_ne_idle := by simp [finish]
  running_iff := by simp [finish]
  finishedAt_iff := by simp [finish]
  dispatched := by simp [finish]
  running_key := by simp [finish]
  terminal_current _ := toNat_current_finish p r now
  terminal_le _ := le_uint64_max_right _ _

theorem Consistent.follow {p : JobProgress} (h : p.Consistent) (r : ProgressReport) :
    (p.follow r).Consistent := by
  unfold JobProgress.follow
  split
  · exact h
  · next hphase =>
    split
    · refine consistent_advance ?_ r
      rw [← Option.not_isSome_iff_eq_none, h.finishedAt_iff]
      exact hphase
    · exact h

/-- **An event keeps the fields of its job fitting**, also if the job was not shown. -/
theorem Consistent.afterEvent {shown : Option JobProgress} (h : ∀ p, shown = some p → p.Consistent)
    (now : Int) (e : JobEvent) : (afterEvent shown now e).Consistent := by
  cases e with
  | finished r => exact consistent_finish _ r now
  | progress r =>
    cases shown with
    | some p => exact (h p rfl).follow r
    | none =>
      -- A job that starts with a report does not fit its phase before the report.
      show ((start r.job .running r.total).follow r).Consistent
      rw [follow_start]
      exact consistent_advance rfl r

@[simp] theorem job_expect (p : JobProgress) (total : UInt64) : (p.expect total).job = p.job := by
  unfold JobProgress.expect
  split <;> rfl

@[simp] theorem job_follow (p : JobProgress) (r : ProgressReport) : (p.follow r).job = p.job := by
  unfold JobProgress.follow
  split
  · rfl
  · split <;> rfl

theorem job_afterEvent {shown : Option JobProgress} {now : Int} {e : JobEvent}
    (h : ∀ p, shown = some p → p.job = e.job) :
    (JobProgress.afterEvent shown now e).job = e.job := by
  cases e with
  | progress r =>
    rw [JobProgress.afterEvent, job_follow]
    cases shown with
    | none => rfl
    | some p => exact h p rfl
  | finished r =>
    show (shown.getD (start r.job .terminal 0)).job = r.job
    cases shown with
    | none => rfl
    | some p => exact h p rfl

end JobProgress

/-! ### The board -/

/-- The jobs shown and the jobs remembered fit together. -/
structure Board.Consistent (b : Board) : Prop where
  /-- A job is shown under its own name. -/
  job_eq : ∀ k p, b.get? k = some p → p.job = k
  entries : ∀ k p, b.get? k = some p → p.Consistent
  /-- No job is both shown and remembered as taken off. -/
  not_retired : ∀ k p, b.get? k = some p → k ∉ b.retired
  retired_nodup : b.retired.Nodup
  length_retired : b.retired.length ≤ 256

namespace Board

theorem consistent_empty : empty.Consistent := by
  constructor <;> simp [empty, get?]

/-- A change that puts at most one job onto the board, in fields that fit, and remembers no further
job keeps a board consistent. -/
theorem Consistent.put {b b' : Board} (hb : b.Consistent) (job : JobId) (p : JobProgress)
    (hget : ∀ k, b'.get? k = if job = k then some p else b.get? k) (hjob : p.job = job)
    (hp : p.Consistent) (hsub : b'.retired.Sublist b.retired) (hfree : job ∉ b'.retired) :
    b'.Consistent where
  job_eq k q hq := by
    rw [hget] at hq
    split at hq
    · next h => rw [← Option.some.inj hq, hjob, h]
    · exact hb.job_eq k q hq
  entries k q hq := by
    rw [hget] at hq
    split at hq
    · exact Option.some.inj hq ▸ hp
    · exact hb.entries k q hq
  not_retired k q hq := by
    rw [hget] at hq
    split at hq
    · next h => exact h ▸ hfree
    · exact fun hk => hb.not_retired k q hq (hsub.subset hk)
  retired_nodup := hb.retired_nodup.sublist hsub
  length_retired := Nat.le_trans hsub.length_le hb.length_retired

theorem Consistent.dispatch {b : Board} (hb : b.Consistent) (job : JobId) (total : UInt64) :
    (b.dispatch job total).Consistent := by
  refine hb.put job (((b.get? job).getD (.start job .dispatched total)).expect total)
    (fun k => ?_) ?_ ?_ ?_ ?_
  · rw [get?_dispatch]
    split
    · next h => rw [h]
    · rfl
  · rw [JobProgress.job_expect]
    cases h : b.get? job with
    | none => rfl
    | some p => exact hb.job_eq job p h
  · refine JobProgress.Consistent.expect ?_ total
    cases h : b.get? job with
    | none => exact JobProgress.consistent_start_dispatched job total
    | some p => exact hb.entries job p h
  · exact List.filter_sublist
  · simp

theorem Consistent.apply {b : Board} (hb : b.Consistent) (e : JobEvent) (now : Int) :
    (b.apply e now).2.Consistent := by
  by_cases hret : e.job ∈ b.retired
  · -- an event of a job taken off changes nothing
    rw [apply_of_mem_retired hret]
    exact hb
  · refine hb.put e.job (JobProgress.afterEvent (b.get? e.job) now e)
      (fun k => ?_) (JobProgress.job_afterEvent (hb.job_eq e.job))
      (JobProgress.Consistent.afterEvent (hb.entries e.job) now e) ?_ ?_
    · rw [get?_apply]
      by_cases hk : e.job = k
      · subst hk
        rw [if_pos ⟨rfl, hret⟩, if_pos rfl]
      · rw [if_neg fun h => hk h.1, if_neg hk]
    · rw [retired_apply]
    · rw [retired_apply]
      exact hret

/-- A job that is shown can be taken off: it was not remembered before. -/
theorem Consistent.retire {b : Board} (hb : b.Consistent) {job : JobId} {p : JobProgress}
    (hp : b.get? job = some p) : (b.retire job).Consistent := by
  have hold : ∀ k q, (b.retire job).get? k = some q → job ≠ k ∧ b.get? k = some q := by
    intro k q hq
    rw [get?_retire] at hq
    split at hq
    · simp at hq
    · next h => exact ⟨h, hq⟩
  constructor
  · exact fun k q hq => hb.job_eq k q (hold k q hq).2
  · exact fun k q hq => hb.entries k q (hold k q hq).2
  · intro k q hq hk
    obtain ⟨hne, hq⟩ := hold k q hq
    rw [retired_retire] at hk
    rcases mem_enqueue hk with hk | rfl
    · exact hb.not_retired k q hq hk
    · exact hne rfl
  · exact nodup_enqueue hb.retired_nodup (hb.not_retired job p hp)
  · exact length_enqueue_le job hb.length_retired

/-- Several jobs that are shown can be taken off one after the other, in any order. -/
theorem Consistent.foldl_retire {jobs : List JobId} (hnodup : jobs.Nodup) :
    ∀ {b : Board}, b.Consistent → (∀ job ∈ jobs, ∃ p, b.get? job = some p) →
      (jobs.foldl Board.retire b).Consistent := by
  induction jobs with
  | nil => intro b hb _; exact hb
  | cons job jobs ih =>
    intro b hb hshown
    obtain ⟨hjob, hnodup⟩ := List.nodup_cons.1 hnodup
    obtain ⟨p, hp⟩ := hshown job (List.mem_cons_self ..)
    refine ih hnodup (hb.retire hp) fun k hk => ?_
    obtain ⟨q, hq⟩ := hshown k (List.mem_cons_of_mem _ hk)
    exact ⟨q, by rw [get?_retire, if_neg (ne_of_mem_of_not_mem hk hjob).symm, hq]⟩

/-! ### Jobs that are due -/

/-- The jobs that are due, by the keys under which they are shown. -/
theorem Consistent.expired_eq {b : Board} (hb : b.Consistent) {now : Int} {after : Nat}
    (hafter : after ≠ 0) :
    b.expired now after = (b.jobs.entries.filter fun e => e.2.isDue now after).map (·.1) := by
  rw [expired, if_neg hafter, OrderedMap.values, List.filter_map, List.map_map]
  refine List.map_congr_left fun e he => ?_
  exact hb.job_eq e.1 e.2 ((b.jobs.get?_eq_some_iff).2 (List.mem_filter.1 he).1)

theorem Consistent.nodup_expired {b : Board} (hb : b.Consistent) (now : Int) (after : Nat) :
    (b.expired now after).Nodup := by
  by_cases hafter : after = 0
  · rw [expired, if_pos hafter]
    exact List.nodup_nil
  · rw [hb.expired_eq hafter]
    exact b.jobs.nodup_keys.sublist (List.filter_sublist.map _)

theorem Consistent.get?_of_mem_expired {b : Board} (hb : b.Consistent) {now : Int} {after : Nat}
    {k : JobId} (hk : k ∈ b.expired now after) :
    ∃ p, b.get? k = some p ∧ p.isDue now after = true := by
  by_cases hafter : after = 0
  · simp [expired, hafter] at hk
  · rw [hb.expired_eq hafter] at hk
    obtain ⟨e, he, rfl⟩ := List.mem_map.1 hk
    obtain ⟨hmem, hdue⟩ := List.mem_filter.1 he
    exact ⟨e.2, (b.jobs.get?_eq_some_iff).2 hmem, hdue⟩

/-! ### Every board -/

/-- **Every change keeps a board consistent.** -/
theorem Consistent.step {b b' : Board} (hb : b.Consistent) (h : Step b b') : b'.Consistent := by
  cases h with
  | dispatch job total => exact hb.dispatch job total
  | apply e now => exact hb.apply e now
  | dismiss job =>
    unfold dismiss
    split
    · next hshown =>
      rw [OrderedMap.contains_eq_isSome] at hshown
      obtain ⟨p, hp⟩ := Option.isSome_iff_exists.1 hshown
      exact hb.retire hp
    · exact hb
  | dismissExpired now after h =>
    refine Consistent.foldl_retire (h.nodup_iff.2 (hb.nodup_expired now after)) hb fun k hk => ?_
    obtain ⟨p, hp, -⟩ := hb.get?_of_mem_expired (h.mem_iff.1 hk)
    exact ⟨p, hp⟩

theorem Consistent.anyRunning_iff {b : Board} (hb : b.Consistent) :
    b.anyRunning = true ↔ ∃ k p, b.get? k = some p ∧ p.phase ≠ .terminal := by
  unfold anyRunning
  rw [List.any_eq_true]
  constructor
  · rintro ⟨p, hp, hrun⟩
    obtain ⟨k, hk⟩ := (b.jobs.mem_values_iff).1 hp
    exact ⟨k, p, hk, (hb.entries k p hk).running_iff.1 hrun⟩
  · rintro ⟨k, p, hk, hphase⟩
    exact ⟨p, (b.jobs.mem_values_iff).2 ⟨k, hk⟩, (hb.entries k p hk).running_iff.2 hphase⟩

theorem Reachable.consistent {b : Board} (h : Reachable b) : b.Consistent := by
  induction h with
  | empty => exact consistent_empty
  | step _ h ih => exact ih.step h

/-- **Every board that can come about is consistent**, and some job on it is running exactly when
some job on it has not finished. -/
theorem consistent_of_reachable {b : Board} (h : Reachable b) :
    b.Consistent ∧ (b.anyRunning = true ↔ ∃ k p, b.get? k = some p ∧ p.phase ≠ .terminal) :=
  ⟨h.consistent, h.consistent.anyRunning_iff⟩

/-- Two jobs are accepted, one of them finishes and is taken off when it is due. -/
theorem consistent_after_sweep :
    let b := (((empty.dispatch (.ofNat 1) 5).dispatch (.ofNat 2) 0).apply
      (.finished ⟨.ofNat 1, 3, 1, 1⟩) 10).2
    let b' := (b.dismissExpired 20 5).2
    Reachable b' ∧ b'.retired = [.ofNat 1] ∧ b'.Consistent ∧
      (b'.anyRunning = true ↔ ∃ k p, b'.get? k = some p ∧ p.phase ≠ .terminal) := by
  intro b b'
  have h : Reachable b' :=
    .step (.step (.step (.step .empty (.dispatch ..)) (.dispatch ..)) (.apply ..))
      (step_dismissExpired b 20 5)
  exact ⟨h, by decide, consistent_of_reachable h⟩

end Board

end SubtitleCoverage
