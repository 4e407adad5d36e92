import SubtitleCoverage.Proofs.Jobs.LateEvents

/-!
# Jobs that have finished

Once the final account of a job has been applied, the job is settled: it is shown as finished, or it
has been taken off the board and is remembered.  It stays settled as long as nothing is forgotten and
nobody dispatches it after it was taken off, whatever else is asked of the board.

## Main definitions

* `Board.Settled b job` — a job has finished or is remembered as taken off.
* `Board.eventsIn t` — the events in a history.

## Main results

* `apply_eq_finished_iff` — which events end a job on the board.
* `Settled.answers` — one request leaves a settled job settled.
* `Runs.settled` — **a job whose final account has come is settled ever after.**
-/

namespace SubtitleCoverage

namespace Board

open JobProgress

variable {b b' : Board} {job : JobId}

/-- The events in a history, with the times at which they arrived. -/
def eventsIn (t : History) : List (JobEvent × Int) :=
  t.filterMap fun d => match d.1 with
    | .event e now => some (e, now)
    | _ => none

/-- A job has finished, or it has been taken off the board and is remembered. -/
def Settled (b : Board) (job : JobId) : Prop := b.phase job = .terminal ∨ job ∈ b.retired

/-! ### Phases -/

theorem phase_eq_of_get?_eq (h : b'.get? job = b.get? job) : b'.phase job = b.phase job := by
  rw [phase, phase, h]

theorem exists_of_phase_eq_terminal (h : b.phase job = .terminal) :
    ∃ p, b.get? job = some p ∧ p.phase = .terminal := by
  rw [phase] at h
  cases hget : b.get? job with
  | none =>
    rw [hget] at h
    cases h
  | some p =>
    rw [hget] at h
    exact ⟨p, rfl, h⟩

/-- A settled job is finished on the board or not shown at all. -/
theorem Settled.phase_eq (h : b.Settled job) (hb : b.Consistent) :
    b.phase job = .terminal ∨ b.phase job = .idle :=
  h.imp_right fun hmem => phase_of_get?_eq_none (hb.get?_of_mem_retired hmem)

theorem phase_expect (p : JobProgress) (total : UInt64) : (p.expect total).phase = p.phase := by
  unfold JobProgress.expect
  split <;> rfl

/-- A finished job stays finished whatever event comes. -/
theorem phase_afterEvent {p : JobProgress} (h : p.phase = .terminal) (e : JobEvent) (now : Int) :
    (afterEvent (some p) now e).phase = .terminal := by
  cases e with
  | finished r => rfl
  | progress r =>
    show (p.follow r).phase = .terminal
    rw [follow, if_pos h]
    exact h

/-! ### Final accounts -/

/-- **An event ends its job on the board iff it is a final account** and the job is not remembered as
taken off. -/
theorem apply_eq_finished_iff (b : Board) (e : JobEvent) (now : Int) :
    (b.apply e now).1 = .finished ↔ e.isTerminal = true ∧ e.job ∉ b.retired := by
  by_cases hret : e.job ∈ b.retired
  · rw [apply_of_mem_retired hret]
    simp [hret]
  · unfold apply
    rw [if_neg hret]
    cases e with
    | progress r =>
      refine iff_of_false ?_ fun h => Bool.false_ne_true h.1
      unfold applyProgress
      simp only
      split
      · nofun
      · split <;> nofun
    | finished r => exact iff_of_true rfl ⟨rfl, hret⟩

/-- The final account of a job that is not remembered as taken off finishes it. -/
theorem phase_apply_finished {r : FinalReport} (h : r.job ∉ b.retired) (now : Int) :
    (b.apply (.finished r) now).2.phase r.job = .terminal := by
  rw [phase, get?_apply, if_pos ⟨rfl, h⟩]
  rfl

/-- A job whose final account comes is settled. -/
theorem settled_apply_finished (b : Board) (r : FinalReport) (now : Int) :
    (b.apply (.finished r) now).2.Settled r.job := by
  by_cases h : r.job ∈ b.retired
  · rw [apply_of_mem_retired h]
    exact .inr h
  · exact .inl (phase_apply_finished h now)

/-! ### One request -/

/-- A job that is not taken off by a dismissal is shown as before. -/
theorem Answers.get?_eq_of_not_mem_removed {q : Request} {r : Reply} (h : b.Answers q r b')
    (hb : b.Consistent) (hoff : job ∉ removed (q, r))
    (hq : (∃ k, q = .dismiss k) ∨ ∃ now after, q = .dismissExpired now after) :
    b'.get? job = b.get? job := by
  have hget := h.get?_eq hb job
  have hkept := mt (h.mem_removed_iff hb job).2 hoff
  rw [hget]
  rcases hq with ⟨k, rfl⟩ | ⟨now, after, rfl⟩
  · rw [shownAfter]
    split
    · next hk => exact (Option.not_isSome_iff_eq_none.1 fun hshown => hkept ⟨hk, hshown⟩).symm
    · rfl
  · exact if_neg hkept

/-- **A settled job stays settled** if nothing is forgotten and the job is not dispatched while it is
remembered. -/
theorem Settled.answers {q : Request} {r : Reply} (hjob : b.Settled job) (h : b.Answers q r b')
    (hb : b.Consistent) (hroom : (b.retired ++ removed (q, r)).length ≤ 256)
    (hdispatch : ∀ total, q = .dispatch job total → job ∉ b.retired) : b'.Settled job := by
  have hget := h.get?_eq hb job
  have hretired := h.retired_eq
  -- a job that is taken off joins those remembered, and the others are shown as before
  have dismissal (hq : (∃ k, q = .dismiss k) ∨ ∃ now after, q = .dismissExpired now after)
      (hqueue : b'.retired = (removed (q, r)).foldl enqueue b.retired) : b'.Settled job := by
    rw [foldl_enqueue_of_le (by rwa [List.length_append] at hroom)] at hqueue
    rw [Settled, hqueue]
    by_cases hoff : job ∈ removed (q, r)
    · exact .inr (List.mem_append_right _ hoff)
    · have hsame := phase_eq_of_get?_eq (h.get?_eq_of_not_mem_removed hb hoff hq)
      exact hjob.imp hsame.trans (List.mem_append_left _)
  cases q with
  | dispatch k total =>
    by_cases hk : k = job
    · subst hk
      obtain ⟨p, hp, hphase⟩ := exists_of_phase_eq_terminal
        (hjob.resolve_right (hdispatch total rfl))
      rw [shownAfter, if_pos rfl, hp, Option.getD_some] at hget
      refine .inl ?_
      rw [phase, hget]
      exact (phase_expect p total).trans hphase
    · rw [shownAfter, if_neg hk] at hget
      refine hjob.imp (phase_eq_of_get?_eq hget).trans fun hmem => ?_
      rw [hretired]
      exact List.mem_filter.2 ⟨hmem, decide_eq_true (Ne.symm hk)⟩
  | event e now =>
    refine hjob.imp (fun hphase => ?_) fun hmem => ?_
    · obtain ⟨p, hp, hphase⟩ := exists_of_phase_eq_terminal hphase
      rw [shownAfter, hp] at hget
      rw [phase, hget]
      split
      · exact phase_afterEvent hphase e now
      · exact hphase
    · rw [hretired]
      exact hmem
  | dismiss k => exact dismissal (.inl ⟨k, rfl⟩) hretired
  | dismissExpired now after => exact dismissal (.inr ⟨now, after, rfl⟩) hretired

/-! ### Several requests -/

/-- Only jobs that were remembered before or have been taken off since are remembered. -/
theorem Runs.retired_subset {t : History} (h : b.Runs t b') : b'.retired ⊆ b.retired ++ takenOff t := by
  induction h with
  | nil => exact List.subset_append_left ..
  | snoc h hanswer ih =>
    next t q r b₁ b₂ =>
    intro k hk
    rw [hanswer.retired_eq] at hk
    rw [takenOff_concat, ← List.append_assoc]
    have hmem : k ∈ b₁.retired ∨ k ∈ removed (q, r) := by
      cases q with
      | dispatch job total => exact .inl (List.mem_filter.1 hk).1
      | event _ _ | dismiss _ | dismissExpired _ _ => exact mem_foldl_enqueue hk
    rcases hmem with hmem | hmem
    · exact List.mem_append_left _ (ih hmem)
    · exact List.mem_append_right _ hmem

/-- **A job whose final account has come is settled ever after**, if at most 256 jobs were remembered
or taken off and it has not been dispatched after it was taken off. -/
theorem Runs.settled {t : History} (h : b.Runs t b') (hb : Reachable b) {r : FinalReport}
    (hfinished : ∃ now, (.finished r, now) ∈ eventsIn t)
    (hdispatch : ∀ before total reply after, t = before ++ (.dispatch r.job total, reply) :: after →
      r.job ∉ b.retired ++ takenOff before)
    (hfew : (b.retired ++ takenOff t).toFinset.card ≤ 256) : b'.Settled r.job := by
  induction h with
  | nil =>
    obtain ⟨now, hmem⟩ := hfinished
    cases hmem
  | snoc h hanswer ih =>
    next t q reply b₁ b₂ =>
    have hb₁ : b₁.Consistent := (h.reachable hb).consistent
    have hsub : b₁.retired ++ removed (q, reply) ⊆ b.retired ++ takenOff (t ++ [(q, reply)]) := by
      rw [takenOff_concat, ← List.append_assoc]
      exact List.append_subset.2 ⟨fun k hk => List.mem_append_left _ (h.retired_subset hk),
        List.subset_append_right ..⟩
    have hroom := Nat.le_trans (length_le_card
      (hanswer.nodup_append_removed hb₁ (List.Sublist.refl _)) hsub) hfew
    by_cases hearlier : ∃ now, (.finished r, now) ∈ eventsIn t
    · have hfew' := Nat.le_trans (card_le_card (List.append_subset.2
        ⟨List.subset_append_left .., fun k hk => List.mem_append_right _
          (takenOff_subset_concat t (q, reply) hk)⟩)) hfew
      have hjob : b₁.Settled r.job := by
        refine ih hearlier (fun before total reply' after heq => ?_) hfew'
        exact hdispatch before total reply' (after ++ [(q, reply)]) (by rw [heq]; simp)
      refine hjob.answers hanswer hb₁ hroom ?_
      rintro total rfl hmem
      exact hdispatch t total reply [] rfl (h.retired_subset hmem)
    · -- the last request is the final account
      obtain ⟨now, hmem⟩ := hfinished
      rw [eventsIn, List.filterMap_append] at hmem
      rcases List.mem_append.1 hmem with hmem | hmem
      · exact absurd ⟨now, hmem⟩ hearlier
      · cases hanswer with
        | event e now' =>
          cases List.mem_singleton.1 hmem
          exact settled_apply_finished b₁ r now
        | dispatch job total => cases hmem
        | dismiss job => cases hmem
        | dismissExpired now' after _ => cases hmem

end Board

end SubtitleCoverage
