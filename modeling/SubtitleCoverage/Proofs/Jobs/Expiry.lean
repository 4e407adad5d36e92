import SubtitleCoverage.Proofs.Jobs.Settled

/-!
# Jobs that are due

A finished job is due once its final account is old enough.  The time of that account stands beside the
other figures of the job, and a further final account moves it.  Here it is compared with the history:
a job that is shown as finished has passed over no final account since it came onto the board, so the
time that stands there is that of the latest one.

## Main definitions

* `Board.lastFinish? job t` — when the latest final account of a job came in the course of a history.

## Main results

* `Answers.finishedAt_eq`, `Runs.finishedAt_eq` — a finished job keeps the time of its latest final
  account.
* `Answers.mem_retired_of_few` — a job that leaves with others is remembered, if these are not too many.
* `due_jobs_leave` — **the jobs that are due leave, and no others.**
-/

namespace SubtitleCoverage

/-! ### One job -/

namespace JobProgress

@[simp] theorem finishedAt_expect (p : JobProgress) (total : UInt64) :
    (p.expect total).finishedAt = p.finishedAt := by
  unfold JobProgress.expect
  split <;> rfl

/-- A report does not finish a job. -/
theorem follow_of_phase_eq_terminal {p : JobProgress} {r : ProgressReport}
    (h : (p.follow r).phase = .terminal) : p.phase = .terminal ∧ p.follow r = p := by
  unfold follow at h ⊢
  split at h
  · next hphase => exact ⟨hphase, if_pos hphase⟩
  · next hphase =>
    split at h
    · contradiction
    · exact absurd h hphase

/-- A job that is finished, but would not be if it had just come onto the board, was shown before. -/
theorem exists_of_phase_getD_start {shown : Option JobProgress} {job : JobId} {phase : JobPhase}
    {total : UInt64} (h : (shown.getD (start job phase total)).phase = .terminal)
    (hphase : phase ≠ .terminal) : ∃ p, shown = some p ∧ p.phase = .terminal := by
  cases shown with
  | none => exact absurd h hphase
  | some p => exact ⟨p, rfl, h⟩

/-- A job is due if its final account is old enough, where an account from the future is new. -/
theorem isDue_iff {p : JobProgress} {now : Int} {after : Nat} (hafter : after ≠ 0) :
    p.isDue now after = true ↔ ∃ time, p.finishedAt = some time ∧ after ≤ (now - time).toNat := by
  rw [isDue, Option.any_eq_true]
  refine exists_congr fun time => and_congr_right fun _ => ?_
  rw [decide_eq_true_iff]
  omega

end JobProgress

namespace Board

open JobProgress

variable {b b' : Board} {t : History} {job : JobId}

/-! ### The latest final account -/

/-- When a request brings the final account of a job. -/
def finishTime? (job : JobId) : Request × Reply → Option Int
  | (.event (.finished r) now, _) => if r.job = job then some now else none
  | _ => none

/-- When the latest final account of a job came in the course of a history. -/
def lastFinish? (job : JobId) (t : History) : Option Int := (t.filterMap (finishTime? job)).getLast?

theorem lastFinish?_concat (job : JobId) (t : History) (d : Request × Reply) :
    lastFinish? job (t ++ [d]) = (finishTime? job d).or (lastFinish? job t) := by
  rw [lastFinish?, List.filterMap_append, List.getLast?_append, lastFinish?]
  cases h : finishTime? job d with
  | none => rw [List.filterMap_cons_none h]; rfl
  | some time => rw [List.filterMap_cons_some h]; rfl

/-- **What a request does to the time of a job that is finished afterwards.**  It brings a final account
of the job and notes its time, or the job was finished before and the time is left as it was. -/
theorem Answers.finishedAt_eq {q : Request} {r : Reply} {p' : JobProgress} (h : b.Answers q r b')
    (hb : b.Consistent) (hp' : b'.get? job = some p') (hphase : p'.phase = .terminal) :
    (∃ time, finishTime? job (q, r) = some time ∧ p'.finishedAt = some time) ∨
      (finishTime? job (q, r) = none ∧
        ∃ p, b.get? job = some p ∧ p.phase = .terminal ∧ p'.finishedAt = p.finishedAt) := by
  rw [h.get?_eq hb job] at hp'
  cases q with
  | dispatch k total =>
    refine .inr ⟨rfl, ?_⟩
    rw [shownAfter] at hp'
    split at hp'
    · obtain rfl := Option.some.inj hp'
      rw [phase_expect] at hphase
      obtain ⟨p, hp, hterminal⟩ := exists_of_phase_getD_start hphase (by decide)
      refine ⟨p, hp, hterminal, ?_⟩
      rw [finishedAt_expect, hp]
      rfl
    · exact ⟨p', hp', hphase, rfl⟩
  | event e now =>
    rw [shownAfter] at hp'
    split at hp'
    · next hjob =>
      obtain rfl := Option.some.inj hp'
      cases e with
      | finished r => exact .inl ⟨now, if_pos hjob.1, rfl⟩
      | progress r =>
        -- a report leaves a finished job as it is, and finishes no other one
        obtain ⟨hterminal, hsame⟩ := follow_of_phase_eq_terminal hphase
        obtain ⟨p, hp, hterminal⟩ := exists_of_phase_getD_start hterminal (by decide)
        refine .inr ⟨rfl, p, hp, hterminal, ?_⟩
        rw [hp] at hsame ⊢
        exact congrArg (·.finishedAt) hsame
    · next hjob =>
      -- a job that is shown is not remembered, so the event is one of another job
      have hne : e.job ≠ job := fun heq =>
        hjob ⟨heq, decide_eq_false (hb.not_retired job p' hp')⟩
      refine .inr ⟨?_, p', hp', hphase, rfl⟩
      cases e with
      | finished r => exact if_neg hne
      | progress r => rfl
  | dismiss _ | dismissExpired _ _ =>
    rw [shownAfter] at hp'
    split at hp'
    · contradiction
    · exact .inr ⟨rfl, p', hp', hphase, rfl⟩

/-- **A finished job keeps the time of its latest final account.** -/
theorem Runs.finishedAt_eq {p : JobProgress} (h : empty.Runs t b) (hp : b.get? job = some p)
    (hphase : p.phase = .terminal) : p.finishedAt = lastFinish? job t := by
  induction h generalizing p with
  | nil => contradiction
  | snoc h hanswer ih =>
    rw [lastFinish?_concat]
    rcases hanswer.finishedAt_eq (h.reachable .empty).consistent hp hphase with
      ⟨time, htime, hfinished⟩ | ⟨hnone, p₀, hp₀, hphase₀, hsame⟩
    · rw [htime, hfinished]
      rfl
    · rw [hnone, hsame, ih hp₀ hphase₀]
      rfl

/-- The finished jobs whose final account is old enough, on a board with a history. -/
theorem Runs.isDue_iff (h : empty.Runs t b) {now : Int} {after : Nat} (hafter : after ≠ 0) :
    (b.get? job).any (·.isDue now after) = true ↔ b.phase job = .terminal ∧
      ∃ time, lastFinish? job t = some time ∧ after ≤ (now - time).toNat := by
  have hb := (h.reachable .empty).consistent
  rw [Option.any_eq_true]
  constructor
  · rintro ⟨p, hp, hdue⟩
    obtain ⟨time, htime, hold⟩ := (JobProgress.isDue_iff hafter).1 hdue
    have hphase : p.phase = .terminal :=
      (hb.entries job p hp).finishedAt_iff.1 (Option.isSome_of_eq_some htime)
    refine ⟨?_, time, by rw [← h.finishedAt_eq hp hphase, htime], hold⟩
    rw [phase, hp]
    exact hphase
  · rintro ⟨hphase, time, htime, hold⟩
    obtain ⟨p, hp, hphase⟩ := exists_of_phase_eq_terminal hphase
    exact ⟨p, hp, (JobProgress.isDue_iff hafter).2
      ⟨time, by rw [h.finishedAt_eq hp hphase, htime], hold⟩⟩

/-! ### Jobs that leave together -/

/-- A job that is taken off with others is remembered while no more than 256 jobs have been taken off,
those among them, and it is not dispatched. -/
theorem Answers.mem_retired_of_few {q : Request} {r : Reply} {b₁ : Board} (h : b.Answers q r b₁)
    (hb : Reachable b) (hmem : job ∈ removed (q, r)) (hrun : b₁.Runs t b')
    (hdispatch : ∀ total reply, (.dispatch job total, reply) ∉ t)
    (hfew : (removed (q, r)).length + (takenOff t).length ≤ 256) : job ∈ b'.retired := by
  obtain ⟨front, later, hremoved⟩ := List.append_of_mem hmem
  rw [hremoved, List.length_append, List.length_cons] at hfew
  have hsuffix := h.suffix_of_removed hremoved (by omega)
  refine (hrun.suffix_of_few (.step hb h.step) hsuffix hdispatch ?_).subset (List.mem_cons_self ..)
  refine Nat.le_trans (List.toFinset_card_le _) ?_
  rw [List.length_append]
  omega

/-- **The jobs that are due leave, and no others.**  With an age of 0 the board stays as it is.
Otherwise the jobs named, each once, are the finished ones whose latest final account came that long
ago; one with a time still to come is new.  They are gone, and all other jobs are shown as before.  This
does not depend on the order in which the jobs are gone through.  While no more than 256 jobs have left,
those named here among them, none of these has an effect by an event of its own, unless it is
dispatched. -/
theorem due_jobs_leave {now : Int} {after : Nat} {jobs : List JobId} (h : empty.Runs t b)
    (hanswer : b.Answers (.dismissExpired now after) (.due jobs) b') :
    (after = 0 → jobs = [] ∧ b' = b) ∧ jobs.Nodup ∧
    (∀ job, job ∈ jobs ↔ after ≠ 0 ∧ b.phase job = .terminal ∧
      ∃ time, lastFinish? job t = some time ∧ after ≤ (now - time).toNat) ∧
    (∀ job, b'.get? job = if job ∈ jobs then none else b.get? job) ∧
    ((b.dismissExpired now after).1.Perm jobs ∧
      ∀ job, (b.dismissExpired now after).2.get? job = b'.get? job) ∧
    ∀ job ∈ jobs, ∀ (later : History) (b'' : Board), b'.Runs later b'' →
      (∀ total reply, (.dispatch job total, reply) ∉ later) →
      jobs.length + (takenOff later).length ≤ 256 →
      ∀ e time, e.job = job → b''.apply e time = (.afterTerminal, b'') := by
  have hb := h.reachable .empty
  have hmem : ∀ job, job ∈ jobs ↔ after ≠ 0 ∧ b.phase job = .terminal ∧
      ∃ time, lastFinish? job t = some time ∧ after ≤ (now - time).toNat := by
    intro job
    have hremoved : job ∈ jobs ↔ after ≠ 0 ∧ (b.get? job).any (·.isDue now after) = true :=
      hanswer.mem_removed_iff hb.consistent job
    rw [hremoved]
    exact and_congr_right fun hafter => h.isDue_iff hafter
  have hnodup : jobs.Nodup := hanswer.nodup_removed hb.consistent
  have hignored : ∀ job ∈ jobs, ∀ (later : History) (b'' : Board), b'.Runs later b'' →
      (∀ total reply, (.dispatch job total, reply) ∉ later) →
      jobs.length + (takenOff later).length ≤ 256 →
      ∀ e time, e.job = job → b''.apply e time = (.afterTerminal, b'') := by
    rintro job hjob later b'' hrun hdispatch hfew e time rfl
    exact apply_of_mem_retired (hanswer.mem_retired_of_few hb hjob hrun hdispatch hfew) time
  cases hanswer with
  | dismissExpired _ _ horder =>
    refine ⟨?_, hnodup, hmem, fun job => get?_foldl_retire jobs b job, ⟨horder.symm, ?_⟩, hignored⟩
    · rintro rfl
      have hnil : jobs = [] := horder.eq_nil
      rw [hnil]
      exact ⟨rfl, rfl⟩
    · intro job
      rw [dismissExpired, get?_foldl_retire, get?_foldl_retire]
      exact if_congr horder.mem_iff.symm rfl rfl

/-- A job leaves 8 ns after its second final account, which came later than the first one.  Another job
has finished at a time still to come and stays, and so does one that has not finished.  When the second
job is taken off too, the first one is remembered still. -/
theorem due_jobs_leave_after_second_account :
    ∃ t b b' b'', empty.Runs t b ∧
      b.Answers (.dismissExpired 20 8) (.due [JobId.ofNat 1]) b' ∧
      lastFinish? (.ofNat 1) t = some 12 ∧ lastFinish? (.ofNat 2) t = some 30 ∧
      b'.get? (.ofNat 1) = none ∧ (b'.get? (.ofNat 2)).isSome ∧ (b'.get? (.ofNat 3)).isSome ∧
      b'.Answers (.dismiss (.ofNat 2)) (.found true) b'' ∧
      ∀ e time, e.job = .ofNat 1 → b''.apply e time = (.afterTerminal, b'') := by
  let account (n : Nat) : JobEvent := .finished { job := .ofNat n, succeeded := 1 }
  let b₁ := (empty.apply (account 1) 10).2
  let b₂ := (b₁.apply (account 1) 12).2
  let b₃ := (b₂.apply (account 2) 30).2
  let b₄ := b₃.dispatch (.ofNat 3) 1
  let b₅ := [JobId.ofNat 1].foldl retire b₄
  have hrun := (((Runs.nil.snoc (.event (b := empty) (account 1) 10)).snoc
    (.event (b := b₁) (account 1) 12)).snoc (.event (b := b₂) (account 2) 30)).snoc
    (.dispatch (b := b₃) (.ofNat 3) 1)
  have hnamed : [JobId.ofNat 1].Perm (b₄.expired 20 8) := .of_eq (by decide)
  have hanswer : b₄.Answers (.dismissExpired 20 8) (.due [.ofNat 1]) b₅ := .dismissExpired 20 8 hnamed
  have hdismiss : b₅.Answers (.dismiss (.ofNat 2)) (.found true) (b₅.dismiss (.ofNat 2)).2 :=
    .dismiss (.ofNat 2)
  obtain ⟨-, -, -, hshown, -, hlater⟩ := due_jobs_leave hrun hanswer
  refine ⟨_, _, _, _, hrun, hanswer, by decide, by decide, ?_, ?_, ?_, hdismiss, ?_⟩
  · rw [hshown]
    decide
  · rw [hshown]
    decide
  · rw [hshown]
    decide
  · refine hlater _ (List.mem_singleton_self _) _ _ (Runs.nil.snoc hdismiss) ?_ (by decide)
    intro total reply hmem
    cases List.mem_singleton.1 hmem

end Board

end SubtitleCoverage
