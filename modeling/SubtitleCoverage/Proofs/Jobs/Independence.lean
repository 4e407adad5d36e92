import SubtitleCoverage.Proofs.Jobs.Histories

/-!
# Jobs that do not interfere

All jobs share one queue and one search for those that are due.  As long as nothing is forgotten, a
job does not notice the others: two boards that agree on it reply alike to what concerns it and agree
on it afterwards, and what does not concern it changes nothing about it.

## Main definitions

* `Board.Request.concerns job q` — a request names a job, or takes every job off that is due.
* `Board.seenBy job d` — a request and its reply, as far as they are about a job.
* `Board.Agree job b b'` — two boards show and remember a job alike.

## Main results

* `Agree.step`, `Agree.of_not_concerns` — what one request does to boards that agree on a job.
* `Runs.agree` — a history, and what in it concerns a job.
* `jobs_independent` — **a job fares as if there were no others**, and what an event of another job
  or an event that is passed over leaves as it is.
-/

namespace SubtitleCoverage

namespace Board

/-! ### What concerns a job -/

/-- A request concerns a job: it names the job, or takes every job off that is due. -/
def Request.concerns (job : JobId) : Request → Bool
  | .dispatch k _ => k = job
  | .event e _ => e.job = job
  | .dismiss k => k = job
  | .dismissExpired .. => true

/-- A request and its reply, as far as they are about a job: of the jobs that were due, this one. -/
def seenBy (job : JobId) : Request × Reply → Request × Reply
  | (q, .due jobs) => (q, .due (jobs.filter (· = job)))
  | d => d

theorem shownAfter_of_not_concerns {job : JobId} {q : Request} (h : q.concerns job = false)
    (shown : Option JobProgress) (remembered : Bool) : shownAfter job shown remembered q = shown := by
  cases q with
  | dispatch k total => exact if_neg (of_decide_eq_false h)
  | event e now => exact if_neg fun he => of_decide_eq_false h he.1
  | dismiss k => exact if_neg (of_decide_eq_false h)
  | dismissExpired now after => contradiction

theorem not_takesOff_of_not_concerns {job : JobId} {q : Request} (h : q.concerns job = false)
    (shown : Option JobProgress) : ¬TakesOff job shown q := by
  cases q with
  | dispatch k total => exact id
  | event e now => exact id
  | dismiss k => exact fun hk => of_decide_eq_false h hk.1
  | dismissExpired now after => contradiction

/-! ### Boards that agree on a job -/

/-- Two boards agree on a job: they show it alike, and both remember it as taken off or none does. -/
structure Agree (job : JobId) (b b' : Board) : Prop where
  shown : b.get? job = b'.get? job
  remembered : job ∈ b.retired ↔ job ∈ b'.retired

section

variable {job : JobId} {b b' c c' : Board} {q : Request} {r r' : Reply}

/-- The same request keeps two boards in agreement, if neither of them forgets a job. -/
theorem Agree.step (h : Agree job b c) (hb : b.Consistent) (hc : c.Consistent)
    (hanswer : b.Answers q r b') (hanswer' : c.Answers q r' c')
    (hkeep : b'.retired = stayOff b.retired (q, r))
    (hkeep' : c'.retired = stayOff c.retired (q, r')) : Agree job b' c' where
  shown := by
    rw [hanswer.get?_eq hb, hanswer'.get?_eq hc, h.shown, decide_eq_decide.2 h.remembered]
  remembered := by
    have hremoved : job ∈ removed (q, r) ↔ job ∈ removed (q, r') := by
      rw [hanswer.mem_removed_iff hb, hanswer'.mem_removed_iff hc, h.shown]
    rw [hkeep, hkeep']
    cases q with
    | dispatch k total => rw [mem_stayOff_dispatch, mem_stayOff_dispatch, h.remembered]
    | event _ _ | dismiss _ | dismissExpired _ _ =>
      exact List.mem_append.trans ((or_congr h.remembered hremoved).trans List.mem_append.symm)

/-- A request that does not concern a job changes nothing about it. -/
theorem Agree.of_not_concerns (hq : q.concerns job = false) (hb : b.Consistent)
    (hanswer : b.Answers q r b') (hkeep : b'.retired = stayOff b.retired (q, r)) :
    Agree job b' b where
  shown := by rw [hanswer.get?_eq hb, shownAfter_of_not_concerns hq]
  remembered := by
    have hremoved : job ∉ removed (q, r) := by
      rw [hanswer.mem_removed_iff hb]
      exact not_takesOff_of_not_concerns hq _
    rw [hkeep]
    cases q with
    | dispatch k total =>
      rw [mem_stayOff_dispatch]
      exact and_iff_left fun heq => of_decide_eq_false hq heq.symm
    | event _ _ | dismiss _ | dismissExpired _ _ =>
      exact List.mem_append.trans (or_iff_left hremoved)

/-- What an event does is decided by its own job. -/
theorem Agree.outcome_eq {e : JobEvent} (h : Agree e.job b c) (now : Int) :
    (b.apply e now).1 = (c.apply e now).1 := by
  unfold apply
  by_cases hret : e.job ∈ b.retired
  · rw [if_pos hret, if_pos (h.remembered.1 hret)]
  · rw [if_neg hret, if_neg fun hc => hret (h.remembered.2 hc)]
    cases e with
    | progress r =>
      have hjobs : b.jobs.get? r.job = c.jobs.get? r.job := h.shown
      simp only [applyProgress, hjobs]
      split
      · rfl
      · split <;> rfl
    | finished r => rfl

theorem filter_eq_of_nodup {jobs jobs' : List JobId} (h : jobs.Nodup) (h' : jobs'.Nodup)
    (hmem : job ∈ jobs ↔ job ∈ jobs') : jobs.filter (· = job) = jobs'.filter (· = job) := by
  rw [List.filter_eq, List.filter_eq]
  by_cases hjob : job ∈ jobs
  · rw [List.count_eq_one_of_mem h hjob, List.count_eq_one_of_mem h' (hmem.1 hjob)]
  · rw [List.count_eq_zero_of_not_mem hjob, List.count_eq_zero_of_not_mem fun hc => hjob (hmem.2 hc)]

/-- Two boards that agree on a job reply alike to a request that concerns it. -/
theorem Agree.seenBy_eq (h : Agree job b c) (hq : q.concerns job = true) (hb : b.Consistent)
    (hc : c.Consistent) (hanswer : b.Answers q r b') (hanswer' : c.Answers q r' c') :
    seenBy job (q, r) = seenBy job (q, r') := by
  have hremoved : job ∈ removed (q, r) ↔ job ∈ removed (q, r') := by
    rw [hanswer.mem_removed_iff hb, hanswer'.mem_removed_iff hc, h.shown]
  have hnodup := hanswer.nodup_removed hb
  have hnodup' := hanswer'.nodup_removed hc
  cases hanswer with
  | dispatch k total =>
    obtain rfl : k = job := of_decide_eq_true hq
    cases hanswer'
    rw [get?_dispatch, get?_dispatch, h.shown]
  | event e now =>
    obtain rfl : e.job = job := of_decide_eq_true hq
    cases hanswer'
    rw [h.outcome_eq now]
  | dismiss k =>
    obtain rfl : k = job := of_decide_eq_true hq
    cases hanswer'
    have hfound : (b.dismiss k).1 = (c.dismiss k).1 := by
      cases hshown : c.get? k with
      | none => rw [dismiss_of_get?_eq_none hshown, dismiss_of_get?_eq_none (h.shown.trans hshown)]
      | some p => rw [dismiss_of_get?_eq_some hshown, dismiss_of_get?_eq_some (h.shown.trans hshown)]
    rw [hfound]
  | dismissExpired now after hperm =>
    -- the two boards may name the jobs in different orders, but this job at most once
    cases hanswer' with
    | dismissExpired now after hperm' =>
      exact congrArg (fun jobs => (Request.dismissExpired now after, Reply.due jobs))
        (filter_eq_of_nodup hnodup hnodup' hremoved)

end

/-! ### Histories -/

section

variable {job : JobId} {t t' : History} {b b' : Board}

/-- A board on which only one job is spoken of shows no other. -/
theorem Runs.get?_of_concerns (h : empty.Runs t b) (hall : ∀ d ∈ t, d.1.concerns job = true)
    {k : JobId} (hk : k ≠ job) : b.get? k = none := by
  induction h with
  | nil => rfl
  | snoc h hanswer ih =>
    next t q r b b' =>
    have hb : b.Consistent := (h.reachable .empty).consistent
    have hq : q.concerns job = true := hall _ (List.mem_append_right _ (List.mem_singleton_self _))
    rw [hanswer.get?_eq hb, ih fun d hd => hall d (List.mem_append_left _ hd)]
    cases q with
    | dispatch j total => exact if_neg fun hj => hk (hj.symm.trans (of_decide_eq_true hq))
    | event e now => exact if_neg fun hj => hk (hj.1.symm.trans (of_decide_eq_true hq))
    | dismiss j => exact ite_self _
    | dismissExpired now after => exact ite_self _

/-- Then no other is taken off it. -/
theorem Runs.takenOff_subset_of_concerns (h : empty.Runs t b)
    (hall : ∀ d ∈ t, d.1.concerns job = true) : takenOff t ⊆ [job] := by
  induction h with
  | nil => exact List.nil_subset _
  | snoc h hanswer ih =>
    next t q r b b' =>
    have hbefore : ∀ d ∈ t, d.1.concerns job = true := fun d hd => hall d (List.mem_append_left _ hd)
    rw [takenOff_concat]
    refine List.append_subset.2 ⟨ih hbefore, fun k hk => List.mem_singleton.2 ?_⟩
    obtain ⟨p, hp⟩ := hanswer.exists_of_mem_removed (h.reachable .empty).consistent hk
    by_contra hne
    rw [h.get?_of_concerns hbefore hne] at hp
    contradiction

/-- A board that has forgotten nothing forgets nothing in the last request. -/
theorem Runs.retired_concat {q : Request} {r : Reply} (h : empty.Runs t b)
    (hanswer : b.Answers q r b') (hfew : (takenOff (t ++ [(q, r)])).toFinset.card ≤ 256) :
    b'.retired = stayOff b.retired (q, r) := by
  have hbefore := Nat.le_trans (card_le_card (takenOff_subset_concat t (q, r))) hfew
  rw [(h.snoc hanswer).retired_eq hfew, stillOff_concat, h.retired_eq hbefore]

/-- **A history, and what in it concerns a job**, agree on the job at the end, and in all replies. -/
theorem Runs.agree (h : empty.Runs t b) (hfew : (takenOff t).toFinset.card ≤ 256) :
    ∀ {t' : History} {b' : Board}, empty.Runs t' b' → (takenOff t').toFinset.card ≤ 256 →
      t'.map Prod.fst = (t.map Prod.fst).filter (·.concerns job) →
      Agree job b b' ∧ t'.map (seenBy job) = (t.filter (·.1.concerns job)).map (seenBy job) := by
  induction h with
  | nil =>
    intro t' b' h' _ hrequests
    obtain rfl : t' = [] := List.map_eq_nil_iff.1 hrequests
    obtain rfl := Runs.nil_iff.1 h'
    exact ⟨⟨rfl, Iff.rfl⟩, rfl⟩
  | snoc h hanswer ih =>
    next t q r b₁ b₂ =>
    intro t' b' h' hfew' hrequests
    have hbefore := Nat.le_trans (card_le_card (takenOff_subset_concat t (q, r))) hfew
    have hb₁ : b₁.Consistent := (h.reachable .empty).consistent
    have hkeep := h.retired_concat hanswer hfew
    rw [List.map_append, List.map_singleton, List.filter_append] at hrequests
    rw [List.filter_append, List.map_append]
    by_cases hq : q.concerns job = true
    · -- both histories end with this request
      rw [List.filter_cons_of_pos hq, List.filter_nil] at hrequests
      obtain ⟨s, last, rfl, hs, hlast⟩ := List.map_eq_append_iff.1 hrequests
      obtain ⟨d, rfl, hd⟩ := List.map_eq_singleton_iff.1 hlast
      obtain ⟨c, hrun, hanswer'⟩ := Runs.snoc_iff.1 h'
      have hc : c.Consistent := (hrun.reachable .empty).consistent
      have hkeep' := hrun.retired_concat hanswer' hfew'
      obtain ⟨hagree, hseen⟩ := ih hbefore hrun
        (Nat.le_trans (card_le_card (takenOff_subset_concat s d)) hfew') hs
      obtain ⟨q', r'⟩ := d
      obtain rfl : q' = q := hd
      refine ⟨hagree.step hb₁ hc hanswer hanswer' hkeep hkeep', ?_⟩
      rw [List.filter_cons_of_pos (by exact hq), List.filter_nil, List.map_append, hseen,
        List.map_singleton, List.map_singleton, hagree.seenBy_eq hq hb₁ hc hanswer hanswer']
    · -- only the longer one does
      rw [List.filter_cons_of_neg hq, List.filter_nil, List.append_nil] at hrequests
      rw [List.filter_cons_of_neg (by exact hq), List.filter_nil, List.map_nil, List.append_nil]
      obtain ⟨hagree, hseen⟩ := ih hbefore h' hfew' hrequests
      have hsame := Agree.of_not_concerns (by simpa using hq) hb₁ hanswer hkeep
      exact ⟨⟨hsame.shown.trans hagree.shown, hsame.remembered.trans hagree.remembered⟩, hseen⟩

end

/-! ### Single events -/

/-- An event of another job changes nothing about a job. -/
theorem get?_apply_of_ne {e : JobEvent} {job : JobId} (h : e.job ≠ job) (b : Board) (now : Int) :
    (b.apply e now).2.get? job = b.get? job := by
  rw [get?_apply, if_neg fun he => h he.1]

/-- Taking another job off changes nothing about a job. -/
theorem get?_dismiss_of_ne {k job : JobId} (h : k ≠ job) (b : Board) :
    (b.dismiss k).2.get? job = b.get? job := by
  cases hk : b.get? k with
  | none => rw [dismiss_of_get?_eq_none hk]
  | some p => rw [dismiss_of_get?_eq_some hk, get?_retire, if_neg h]

/-- An event that is passed over changes nothing. -/
theorem apply_eq_self {b : Board} {e : JobEvent} {now : Int}
    (h : (b.apply e now).1 = .stale ∨ (b.apply e now).1 = .afterTerminal) :
    (b.apply e now).2 = b := by
  unfold apply at h ⊢
  split
  · rfl
  · next hret =>
    rw [if_neg hret] at h
    cases e with
    | finished r => rcases h with h | h <;> contradiction
    | progress r =>
      simp only [applyProgress] at h ⊢
      split
      · rfl
      · next hphase =>
        split
        · next hnews =>
          rw [if_neg hphase, if_pos hnews] at h
          rcases h with h | h <;> contradiction
        · rfl

/-- **A job fares as if there were no others.**  As long as no more than 256 jobs are taken off, what
is asked of the board about a job, together with the searches for jobs that are due, is answered alike
whether the rest is asked or not, and the job is shown alike in the end.  An event or a dismissal of
another job leaves what is shown of it as it is, and an event that is passed over changes nothing. -/
theorem jobs_independent {t : History} {b : Board} (h : empty.Runs t b)
    (hfew : (takenOff t).toFinset.card ≤ 256) (job : JobId) :
    (∃ t' b', empty.Runs t' b' ∧ t'.map Prod.fst = (t.map Prod.fst).filter (·.concerns job)) ∧
    (∀ (t' : History) (b' : Board), empty.Runs t' b' →
      t'.map Prod.fst = (t.map Prod.fst).filter (·.concerns job) →
        t'.map (seenBy job) = (t.filter (·.1.concerns job)).map (seenBy job) ∧
          b'.get? job = b.get? job ∧ b'.phase job = b.phase job) ∧
    (∀ (c : Board) (k : JobId), k ≠ job →
      (∀ e now, e.job = k → (c.apply e now).2.get? job = c.get? job) ∧
        (c.dismiss k).2.get? job = c.get? job) ∧
    ∀ (c : Board) (e : JobEvent) (now : Int),
      (c.apply e now).1 = .stale ∨ (c.apply e now).1 = .afterTerminal → (c.apply e now).2 = c := by
  refine ⟨exists_runs empty _, fun t' b' h' hrequests => ?_, fun c k hk => ⟨?_, ?_⟩, ?_⟩
  · have hall : ∀ d ∈ t', d.1.concerns job = true := by
      intro d hd
      have hmem : d.1 ∈ t'.map Prod.fst := List.mem_map_of_mem hd
      rw [hrequests] at hmem
      exact (List.mem_filter.1 hmem).2
    -- on a board that hears of one job only, no other can be taken off
    have hfew' : (takenOff t').toFinset.card ≤ 256 :=
      calc (takenOff t').toFinset.card
        _ ≤ [job].toFinset.card := card_le_card (h'.takenOff_subset_of_concerns hall)
        _ ≤ 1 := List.toFinset_card_le [job]
        _ ≤ 256 := by decide
    obtain ⟨hagree, hseen⟩ := h.agree hfew h' hfew' hrequests
    exact ⟨hseen, hagree.shown.symm, by rw [phase, phase, hagree.shown]⟩
  · rintro e now rfl
    exact get?_apply_of_ne hk c now
  · exact get?_dismiss_of_ne hk c
  · intro c e now hpassed
    exact apply_eq_self hpassed

/-- One job finishes and is taken off when it is due, while another one is reported on and dismissed;
late events of both are passed over. -/
theorem jobs_independent_of_late_events :
    let one := JobId.ofNat 1
    let two := JobId.ofNat 2
    let report (k : JobId) (n : UInt64) : Request := .event (.progress ⟨k, none, n, 10, n, 0⟩) 0
    let qs := [.dispatch one 10, .dispatch two 5, .event (.finished ⟨two, 5, 0, 0⟩) 0, report one 3,
      .dismissExpired 100 50, report two 4, .dismiss one, report one 4]
    ∃ t b t' b', empty.Runs t b ∧ t.map Prod.fst = qs ∧ takenOff t = [two, one] ∧
      empty.Runs t' b' ∧ t'.map Prod.fst = [.dispatch one 10, report one 3, .dismissExpired 100 50,
        .dismiss one, report one 4] ∧
      t'.map (seenBy one) = (t.filter (·.1.concerns one)).map (seenBy one) ∧
      b'.get? one = b.get? one := by
  intro one two report qs
  have hsweep (b : Board) : b.Answers (.dismissExpired 100 50) (.due (b.expired 100 50)) _ :=
    .dismissExpired 100 50 (List.Perm.refl _)
  have h := ((((((((Runs.nil (b := empty)).snoc (.dispatch one 10)).snoc (.dispatch two 5)).snoc
    (.event (.finished ⟨two, 5, 0, 0⟩) 0)).snoc (.event (.progress ⟨one, none, 3, 10, 3, 0⟩) 0)).snoc
    (hsweep _)).snoc (.event (.progress ⟨two, none, 4, 10, 4, 0⟩) 0)).snoc (.dismiss one)).snoc
    (.event (.progress ⟨one, none, 4, 10, 4, 0⟩) 0)
  obtain ⟨⟨t', b', hrun, hrequests⟩, hsame, -⟩ := jobs_independent h (by decide) one
  obtain ⟨hseen, hget, -⟩ := hsame t' b' hrun hrequests
  exact ⟨_, _, t', b', h, rfl, by decide, hrun, hrequests, hseen, hget⟩

end Board

end SubtitleCoverage
