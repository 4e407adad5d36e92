import Mathlib.Data.List.Nodup
import SubtitleCoverage.Jobs.Board
import SubtitleCoverage.Proofs.Numbers

/-!
# The board job by job

What a change of the board does to each job.  A dispatch or an event changes the job that it names
and no other one, and a job is taken off by itself.  The theory of the board is drawn from these
lookups and opens no operation again.

## Main definitions

* `JobProgress.follow p r` — a job after a report that may be old.
* `JobProgress.afterEvent shown now e` — what is shown of a job after an event of it.

## Main results

* `get?_dispatch`, `get?_apply`, `get?_retire` — the lookups after each change.
* `retired_dispatch`, `retired_apply`, `mem_enqueue` — the jobs remembered after each change.
-/

namespace SubtitleCoverage

/-! ### Numbers that stop at the largest one -/

theorem toNat_addSaturating (a b : UInt64) :
    (addSaturating a b).toNat = min (a.toNat + b.toNat) (UInt64.size - 1) := by
  have ha := a.toNat_lt_size
  have hb := b.toNat_lt_size
  have hsum : (a + b).toNat = (a.toNat + b.toNat) % UInt64.size := UInt64.toNat_add a b
  unfold addSaturating
  split
  · next h =>
    rw [UInt64.le_iff_toNat_le] at h
    simp only [UInt64.size] at *
    omega
  · next h =>
    rw [UInt64.le_iff_toNat_le] at h
    have hmax : (UInt64.ofNat (UInt64.size - 1)).toNat = UInt64.size - 1 := rfl
    simp only [UInt64.size] at *
    omega

/-! ### One job -/

namespace JobProgress

/-- The number of items that a final account has dealt with. -/
theorem toNat_current_finish (p : JobProgress) (r : FinalReport) (now : Int) :
    (p.finish r now).current.toNat =
      min (r.succeeded.toNat + r.failed.toNat + r.skipped.toNat) (UInt64.size - 1) := by
  show (addSaturating (addSaturating r.succeeded r.failed) r.skipped).toNat = _
  rw [toNat_addSaturating, toNat_addSaturating]
  omega

theorem isNews_iff (p : JobProgress) (r : ProgressReport) :
    p.isNews r = true ↔ ∀ last, p.lastSequence = some last → last < r.key := by
  unfold isNews
  cases p.lastSequence with
  | none => simp
  | some last => simp

/-- The job after a report that may be old. -/
def follow (p : JobProgress) (r : ProgressReport) : JobProgress :=
  if p.phase = .terminal then p else if p.isNews r then p.advance r else p

/-- What is shown of a job after an event of it. -/
def afterEvent (shown : Option JobProgress) (now : Int) : JobEvent → JobProgress
  | .progress r => (shown.getD (.start r.job .running r.total)).follow r
  | .finished r => (shown.getD (.start r.job .terminal 0)).finish r now

@[simp] theorem isNews_start (job : JobId) (phase : JobPhase) (total : UInt64)
    (r : ProgressReport) : (start job phase total).isNews r = true := rfl

@[simp] theorem phase_start (job : JobId) (phase : JobPhase) (total : UInt64) :
    (start job phase total).phase = phase := rfl

/-- A job that starts with its number of items knows it. -/
theorem expect_start (job : JobId) (phase : JobPhase) (n : UInt64) :
    (start job phase n).expect n = start job phase n := by
  rw [expect, ite_eq_right_iff]
  intro _
  rfl

/-- The first report of a job always counts. -/
theorem follow_start (job : JobId) (total : UInt64) (r : ProgressReport) :
    (start job .running total).follow r = (start job .running total).advance r := rfl

end JobProgress

/-! ### Lookups -/

namespace Board

open JobProgress

theorem get?_dispatch (b : Board) (job : JobId) (total : UInt64) (k : JobId) :
    (b.dispatch job total).get? k =
      if job = k then some (((b.get? k).getD (.start k .dispatched total)).expect total)
      else b.get? k := by
  simp only [get?, dispatch, OrderedMap.get?_insert]
  split
  · next h => rw [h]
  · rfl

theorem get?_applyProgress (b : Board) (r : ProgressReport) (k : JobId) :
    (b.applyProgress r).2.get? k =
      if r.job = k then some (((b.get? k).getD (.start r.job .running r.total)).follow r)
      else b.get? k := by
  by_cases hk : r.job = k
  · subst hk
    rw [if_pos rfl]
    unfold applyProgress get?
    cases hshown : b.jobs.get? r.job with
    | none =>
      simp only [Option.getD_none, follow_start, isNews_start, phase_start, if_true]
      simp [OrderedMap.get?_insert]
    | some p =>
      -- A report that does not count leaves the job as it is, and it is there.
      simp only [Option.getD_some, follow]
      split
      · exact hshown
      · split
        · simp [OrderedMap.get?_insert]
        · exact hshown
  · rw [if_neg hk]
    unfold applyProgress get?
    simp only
    split
    · rfl
    · split
      · rw [OrderedMap.get?_insert, if_neg hk]
      · rfl

theorem get?_applyFinished (b : Board) (r : FinalReport) (now : Int) (k : JobId) :
    (b.applyFinished r now).2.get? k =
      if r.job = k then some (((b.get? k).getD (.start r.job .terminal 0)).finish r now)
      else b.get? k := by
  simp only [get?, applyFinished, OrderedMap.get?_insert]
  split
  · next h => rw [h]
  · rfl

/-- An event of a job that has been taken off is passed over. -/
theorem apply_of_mem_retired {b : Board} {e : JobEvent} (h : e.job ∈ b.retired) (now : Int) :
    b.apply e now = (.afterTerminal, b) := by
  unfold apply
  rw [if_pos h]

/-- **An event changes its own job and no other one**, and it changes nothing if that job has been
taken off the board. -/
theorem get?_apply (b : Board) (e : JobEvent) (now : Int) (k : JobId) :
    (b.apply e now).2.get? k =
      if e.job = k ∧ k ∉ b.retired then some (afterEvent (b.get? k) now e) else b.get? k := by
  by_cases hret : e.job ∈ b.retired
  · rw [apply_of_mem_retired hret, if_neg]
    rintro ⟨rfl, h⟩
    exact h hret
  · have hget : (b.apply e now).2.get? k =
        if e.job = k then some (afterEvent (b.get? k) now e) else b.get? k := by
      unfold apply
      rw [if_neg hret]
      cases e with
      | progress r => exact get?_applyProgress b r k
      | finished r => exact get?_applyFinished b r now k
    rw [hget]
    by_cases hk : e.job = k
    · subst hk
      rw [if_pos rfl, if_pos ⟨rfl, hret⟩]
    · rw [if_neg hk, if_neg fun h => hk h.1]

theorem get?_retire (b : Board) (job k : JobId) :
    (b.retire job).get? k = if job = k then none else b.get? k := by
  rw [get?, retire, OrderedMap.get?_erase]
  rfl

/-! ### The jobs remembered -/

@[simp] theorem retired_dispatch (b : Board) (job : JobId) (total : UInt64) :
    (b.dispatch job total).retired = b.retired.filter (· ≠ job) := rfl

@[simp] theorem retired_apply (b : Board) (e : JobEvent) (now : Int) :
    (b.apply e now).2.retired = b.retired := by
  unfold apply
  split
  · rfl
  · cases e with
    | progress r => unfold applyProgress; simp only; split <;> (try split) <;> rfl
    | finished r => rfl

@[simp] theorem retired_retire (b : Board) (job : JobId) :
    (b.retire job).retired = enqueue b.retired job := rfl

theorem mem_enqueue {retired : List JobId} {job k : JobId} (h : k ∈ enqueue retired job) :
    k ∈ retired ∨ k = job := by
  unfold enqueue at h
  rcases List.mem_append.1 h with h | h
  · split at h
    · exact .inl (List.mem_of_mem_tail h)
    · exact .inl h
  · exact .inr (List.mem_singleton.1 h)

theorem nodup_enqueue {retired : List JobId} {job : JobId} (h : retired.Nodup)
    (hjob : job ∉ retired) : (enqueue retired job).Nodup := by
  unfold enqueue
  have hsub : (if retired.length = retiredCapacity then retired.tail else retired).Sublist
      retired := by
    split
    · exact List.tail_sublist retired
    · exact List.Sublist.refl retired
  rw [List.nodup_append]
  refine ⟨h.sublist hsub, List.nodup_singleton job, ?_⟩
  rintro a ha _ hb rfl
  exact hjob (List.mem_singleton.1 hb ▸ hsub.subset ha)

theorem length_enqueue_le {retired : List JobId} (job : JobId)
    (h : retired.length ≤ retiredCapacity) : (enqueue retired job).length ≤ retiredCapacity := by
  unfold enqueue
  rw [List.length_append, List.length_singleton]
  unfold retiredCapacity at *
  split
  · rw [List.length_tail]; omega
  · omega

end Board

end SubtitleCoverage
