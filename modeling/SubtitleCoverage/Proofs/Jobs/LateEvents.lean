import Mathlib.Algebra.Order.Ring.Nat
import SubtitleCoverage.Proofs.Jobs.Histories

/-!
# Events that come after a job was taken off

A job that is taken off the board joins the end of a queue of 256 jobs.  The jobs behind it there are
those taken off later and not dispatched again, so it leaves the queue with the 256th of them.  Until
then no event puts it back, and after that the next report does.

## Main definitions

* `Board.visits jobs` — a history in which jobs come onto the board and go, one after the other.

## Main results

* `suffix_foldl_enqueue` — what stands behind a job in the queue.
* `Runs.suffix_of_few`, `Runs.suffix_of_mem_retired` — the jobs remembered after one that was taken
  off, as long as few others are taken off, and as long as it is remembered itself.
* `dismissed_stays_off` — **late events do not put a job back** while at most 255 others are taken
  off after it, and this is the largest such number.
-/

namespace SubtitleCoverage

namespace Board

/-! ### The place in the queue -/

/-- What stands behind a job in the queue.  One job more joins it, unless the first job is at the
head of a full queue and is forgotten. -/
theorem suffix_enqueue {job k : JobId} {later queue : List JobId} (h : job :: later <:+ queue) :
    job :: (later ++ [k]) <:+ enqueue queue k ∨
      (queue = job :: later ∧ later.length = 255 ∧ enqueue queue k = later ++ [k]) := by
  unfold enqueue
  split
  · next hfull =>
    cases queue with
    | nil => contradiction
    | cons head queue =>
      -- the head is forgotten, and it is this job or stands before it
      rw [List.tail_cons]
      rcases List.suffix_cons_iff.1 h with heq | ⟨front, rfl⟩
      · obtain ⟨rfl, rfl⟩ := List.cons.inj heq
        exact .inr ⟨rfl, Nat.succ.inj hfull, rfl⟩
      · exact .inl ⟨front, by rw [← List.cons_append, List.append_assoc]⟩
  · obtain ⟨front, rfl⟩ := h
    exact .inl ⟨front, by rw [← List.cons_append, List.append_assoc]⟩

/-- **Several jobs more join those behind a job**, or there are at least 256 of them then and the job
is forgotten. -/
theorem suffix_foldl_enqueue {job : JobId} (jobs : List JobId) :
    ∀ {later queue : List JobId}, job :: later <:+ queue →
      job :: (later ++ jobs) <:+ jobs.foldl enqueue queue ∨
        (256 ≤ (later ++ jobs).length ∧ (job ∉ later ++ jobs → job ∉ jobs.foldl enqueue queue)) := by
  induction jobs with
  | nil =>
    intro later queue h
    rw [List.append_nil]
    exact .inl h
  | cons k jobs ih =>
    intro later queue h
    rw [List.append_cons, List.foldl_cons]
    rcases suffix_enqueue h with h | ⟨rfl, hlength, heq⟩
    · exact ih h
    · refine .inr ⟨?_, fun hjob hmem => hjob ?_⟩
      · rw [List.length_append, List.length_append, List.length_singleton]
        omega
      · rw [heq] at hmem
        exact List.mem_append.2 (mem_foldl_enqueue hmem)

/-- A job that has just been taken off is remembered with those taken off after it, if these are not
too many. -/
theorem Answers.suffix_of_removed {b b' : Board} {q : Request} {r : Reply} {job : JobId}
    {front later : List JobId} (h : b.Answers q r b') (hremoved : removed (q, r) = front ++ job :: later)
    (hfew : later.length ≤ 255) : job :: later <:+ b'.retired := by
  have hqueue : b'.retired = later.foldl enqueue (enqueue (front.foldl enqueue b.retired) job) := by
    rw [h.retired_eq, queueAfter]
    cases q with
    | dispatch k total =>
      exact absurd hremoved.symm (List.append_ne_nil_of_right_ne_nil _ (List.cons_ne_nil _ _))
    | event _ _ | dismiss _ | dismissExpired _ _ =>
      simp only [hremoved, List.foldl_append]
      rfl
  have hlast : [job] <:+ enqueue (front.foldl enqueue b.retired) job := List.suffix_append ..
  rw [hqueue]
  refine (suffix_foldl_enqueue later hlast).resolve_right fun ⟨hmany, _⟩ => ?_
  rw [List.nil_append] at hmany
  omega

/-- The job that was taken off last is the last one remembered. -/
theorem Answers.suffix_of_getLast? {b b' : Board} {q : Request} {r : Reply} {job : JobId}
    (h : b.Answers q r b') (hlast : (removed (q, r)).getLast? = some job) : [job] <:+ b'.retired := by
  obtain ⟨front, hremoved⟩ := List.getLast?_eq_some_iff.1 hlast
  exact h.suffix_of_removed hremoved (Nat.zero_le _)

/-! ### Histories after a job was taken off -/

section

variable {b b' : Board} {t : History} {job : JobId}

/-- The jobs remembered after one request, behind one that is still remembered.  Either they are those
still off, or there are too many of them. -/
theorem Answers.suffix_or {q : Request} {r : Reply} {later : List JobId} (h : b.Answers q r b')
    (hdispatch : ∀ total, q ≠ .dispatch job total) (hsuffix : job :: later <:+ b.retired) :
    job :: stayOff later (q, r) <:+ b'.retired ∨
      (256 ≤ (later ++ removed (q, r)).length ∧
        (job ∉ later ++ removed (q, r) → job ∉ b'.retired)) := by
  rw [h.retired_eq]
  cases q with
  | dispatch k total =>
    -- the queue loses another job, and this one stays where it is
    have hne : job ≠ k := fun heq => hdispatch total (by rw [heq])
    have hfilter := hsuffix.filter (· ≠ k)
    rw [List.filter_cons_of_pos (by simpa using hne)] at hfilter
    exact .inl hfilter
  | event _ _ | dismiss _ | dismissExpired _ _ => exact suffix_foldl_enqueue _ hsuffix

/-- **While at most 255 others are behind it or are taken off after it, a job is remembered**, and behind
it those that are still off. -/
theorem Runs.suffix_of_few {later : List JobId} (h : b.Runs t b') (hb : Reachable b)
    (hjob : job :: later <:+ b.retired) (hdispatch : ∀ total r, (.dispatch job total, r) ∉ t)
    (hfew : (later ++ takenOff t).toFinset.card ≤ 255) :
    job :: t.foldl stayOff later <:+ b'.retired := by
  induction h with
  | nil => exact hjob
  | snoc h hanswer ih =>
    next t q r b₁ b₂ =>
    have hb₁ : b₁.Consistent := (h.reachable hb).consistent
    have hmore : later ++ takenOff t ⊆ later ++ takenOff (t ++ [(q, r)]) :=
      List.append_subset.2 ⟨List.subset_append_left ..,
        fun k hk => List.mem_append_right _ (takenOff_subset_concat t (q, r) hk)⟩
    have hsuffix := ih (fun total r hmem => hdispatch total r (List.mem_append_left _ hmem))
      (Nat.le_trans (card_le_card hmore) hfew)
    have hq : ∀ total, q ≠ .dispatch job total := by
      rintro total rfl
      exact hdispatch total r (List.mem_append_right _ (List.mem_singleton_self _))
    rw [List.foldl_concat]
    refine (hanswer.suffix_or hq hsuffix).resolve_right fun ⟨hmany, _⟩ => ?_
    -- those behind the job are all different, and they were there or taken off in this history
    have hoff : (t.foldl stayOff later).Sublist b₁.retired :=
      (List.sublist_cons_self ..).trans hsuffix.sublist
    have hmem : t.foldl stayOff later ++ removed (q, r) ⊆ later ++ takenOff (t ++ [(q, r)]) := by
      rw [takenOff_concat]
      exact List.append_subset.2 ⟨fun k hk => List.append_assoc .. ▸
          List.mem_append_left _ (foldl_stayOff_subset later t hk),
        List.append_assoc .. ▸ List.subset_append_right ..⟩
    have hlength := length_le_card (hanswer.nodup_append_removed hb₁ hoff) hmem
    omega

/-- **As long as a job is remembered, so are those taken off after it** that are still off, if it has
not been taken off again. -/
theorem Runs.suffix_of_mem_retired (h : b.Runs t b') (hjob : [job] <:+ b.retired)
    (hoff : job ∉ takenOff t) (hmem : job ∈ b'.retired) : job :: stillOff t <:+ b'.retired := by
  induction h with
  | nil => exact hjob
  | snoc h hanswer ih =>
    next t q r b₁ b₂ =>
    rw [takenOff_concat, List.mem_append, not_or] at hoff
    have hq : ∀ total, q ≠ .dispatch job total := by
      rintro total rfl
      rw [hanswer.retired_eq] at hmem
      simpa using (List.mem_filter.1 hmem).2
    have hmem₁ : job ∈ b₁.retired := by
      rw [hanswer.retired_eq] at hmem
      cases q with
      | dispatch k total => exact (List.mem_filter.1 hmem).1
      | event _ _ | dismiss _ | dismissExpired _ _ =>
        exact (mem_foldl_enqueue hmem).resolve_right hoff.2
    rw [stillOff_concat]
    -- it cannot have been forgotten, since none of those that joined the queue is this job
    refine (hanswer.suffix_or hq (ih hoff.1 hmem₁)).resolve_right fun ⟨_, hforgotten⟩ => ?_
    refine hforgotten (fun hlater => ?_) hmem
    rcases List.mem_append.1 hlater with hlater | hlater
    · exact hoff.1 (stillOff_subset t hlater)
    · exact hoff.2 hlater

end

/-! ### Jobs that are off -/

theorem Consistent.get?_of_mem_retired {b : Board} (hb : b.Consistent) {job : JobId}
    (h : job ∈ b.retired) : b.get? job = none :=
  Option.eq_none_iff_forall_ne_some.2 fun p hp => hb.not_retired job p hp h

theorem phase_of_get?_eq_none {b : Board} {job : JobId} (h : b.get? job = none) :
    b.phase job = .idle := by rw [phase, h]; rfl

theorem Consistent.phase_eq_idle_iff {b : Board} (hb : b.Consistent) {job : JobId} :
    b.phase job = .idle ↔ b.get? job = none := by
  refine ⟨fun h => Option.eq_none_iff_forall_ne_some.2 fun p hp => ?_, phase_of_get?_eq_none⟩
  rw [phase, hp] at h
  exact (hb.entries job p hp).phase_ne_idle h

/-- The first report on a job that is neither shown nor remembered counts. -/
theorem applyProgress_of_get?_eq_none {b : Board} {r : ProgressReport}
    (h : b.get? r.job = none) (hret : r.job ∉ b.retired) (now : Int) :
    (b.apply (.progress r) now).1 = .progressed ∧
      (b.apply (.progress r) now).2.phase r.job = .running := by
  constructor
  · have hjobs : b.jobs.get? r.job = none := h
    have happly : b.apply (.progress r) now = b.applyProgress r := if_neg hret
    rw [happly]
    simp only [applyProgress, hjobs]
    rfl
  · rw [phase, get?_apply, if_pos ⟨rfl, hret⟩, h]
    rfl

/-- **Late events do not put a job back.**  While at most 255 others are taken off after a job and it
is not dispatched again, it stays off and every event of it is passed over.  The number is exact: once
256 others have been taken off after the job and are still off, its next report puts it back. -/
theorem dismissed_stays_off {b b₁ : Board} {q : Request} {r : Reply} {job : JobId}
    (hb : Reachable b) (hanswer : b.Answers q r b₁)
    (hlast : (removed (q, r)).getLast? = some job) :
    (∀ (t : History) (b' : Board), b₁.Runs t b' →
      (∀ total reply, (.dispatch job total, reply) ∉ t) → (takenOff t).toFinset.card ≤ 255 →
      b'.phase job = .idle ∧ (∀ e now, e.job = job → b'.apply e now = (.afterTerminal, b')) ∧
        b'.dismiss job = (false, b')) ∧
    (∀ (t : History) (b' : Board), b₁.Runs t b' → job ∉ takenOff t → 256 ≤ (stillOff t).length →
      b'.phase job = .idle → ∀ report now, report.job = job →
        (b'.apply (.progress report) now).1 = .progressed ∧
          (b'.apply (.progress report) now).2.phase job = .running) := by
  have hb₁ : Reachable b₁ := .step hb hanswer.step
  have hjob := hanswer.suffix_of_getLast? hlast
  constructor
  · intro t b' hrun hdispatch hfew
    have hmem : job ∈ b'.retired :=
      (hrun.suffix_of_few hb₁ hjob hdispatch hfew).subset (List.mem_cons_self ..)
    have hget := (hrun.reachable hb₁).consistent.get?_of_mem_retired hmem
    refine ⟨phase_of_get?_eq_none hget, ?_, dismiss_of_get?_eq_none hget⟩
    rintro e now rfl
    exact apply_of_mem_retired hmem now
  · rintro t b' hrun hoff hmany hidle report now rfl
    have hb' : b'.Consistent := (hrun.reachable hb₁).consistent
    refine applyProgress_of_get?_eq_none (hb'.phase_eq_idle_iff.1 hidle) (fun hmem => ?_) now
    -- a queue that holds the job and those behind it is too long
    have hlength := (hrun.suffix_of_mem_retired hjob hoff hmem).length_le
    have hcapacity := hb'.length_retired
    rw [List.length_cons] at hlength
    omega

/-! ### Jobs that come and go -/

/-- Some jobs are dispatched and dismissed, one after the other. -/
def visits (jobs : List JobId) : History :=
  jobs.flatMap fun k => [(.dispatch k 1, .shown (some (.start k .dispatched 1))),
    (.dismiss k, .found true)]

theorem visits_concat (jobs : List JobId) (k : JobId) :
    visits (jobs ++ [k]) = visits jobs ++ [(.dispatch k 1, .shown (some (.start k .dispatched 1)))] ++
      [(.dismiss k, .found true)] := by
  rw [visits, List.flatMap_append, List.flatMap_singleton, List.append_assoc]
  rfl

theorem takenOff_visits (jobs : List JobId) : takenOff (visits jobs) = jobs := by
  induction jobs using List.reverseRecOn with
  | nil => rfl
  | append_singleton jobs k ih =>
    rw [visits_concat, takenOff_concat, takenOff_concat, ih]
    simp [removed]

theorem stillOff_visits {jobs : List JobId} (h : jobs.Nodup) : stillOff (visits jobs) = jobs := by
  induction jobs using List.reverseRecOn with
  | nil => rfl
  | append_singleton jobs k ih =>
    obtain ⟨hjobs, -, hdisjoint⟩ := List.nodup_append.1 h
    rw [visits_concat, stillOff_concat, stillOff_concat, ih hjobs]
    show jobs.filter (· ≠ k) ++ [k] = jobs ++ [k]
    rw [List.filter_eq_self.2]
    intro j hj
    simpa using hdisjoint j hj k (List.mem_singleton_self k)

theorem mem_of_dispatch_mem_visits {jobs : List JobId} {job : JobId} {total : UInt64} {r : Reply}
    (h : (.dispatch job total, r) ∈ visits jobs) : job ∈ jobs := by
  obtain ⟨k, hk, hmem⟩ := List.mem_flatMap.1 h
  rcases List.mem_cons.1 hmem with heq | hmem
  · cases heq
    exact hk
  · cases List.mem_singleton.1 hmem

/-- Jobs that are not shown can come and go, and leave what is shown as it is. -/
theorem exists_runs_visits {b : Board} (jobs : List JobId) (h : ∀ k ∈ jobs, b.get? k = none) :
    ∃ b', b.Runs (visits jobs) b' ∧ ∀ k, b'.get? k = b.get? k := by
  induction jobs using List.reverseRecOn with
  | nil => exact ⟨b, .nil, fun _ => rfl⟩
  | append_singleton jobs k ih =>
    obtain ⟨b', hrun, hget⟩ := ih fun k hk => h k (List.mem_append_left _ hk)
    have hk : b'.get? k = none := by
      rw [hget]
      exact h k (List.mem_append_right _ (List.mem_singleton_self k))
    have hshown : (b'.dispatch k 1).get? k = some (.start k .dispatched 1) := by
      rw [get?_dispatch, if_pos rfl, hk, Option.getD_none, JobProgress.expect_start]
    have hdispatch := Answers.dispatch (b := b') k 1
    have hdismiss := Answers.dismiss (b := b'.dispatch k 1) k
    rw [hshown] at hdispatch
    rw [dismiss_of_get?_eq_some hshown] at hdismiss
    refine ⟨_, visits_concat jobs k ▸ (hrun.snoc hdispatch).snoc hdismiss, fun j => ?_⟩
    rw [get?_retire, get?_dispatch, ← hget]
    by_cases hj : k = j
    · rw [if_pos hj, ← hj, hk]
    · rw [if_neg hj, if_neg hj]

/-- The jobs with the numbers from 2 on. -/
def others (n : Nat) : List JobId := (List.range n).map fun i => .ofNat (i + 2)

theorem length_others (n : Nat) : (others n).length = n := by
  rw [others, List.length_map, List.length_range]

theorem ofNat_inj {i j : Nat} (hi : i < 2 ^ 128) (hj : j < 2 ^ 128)
    (h : JobId.ofNat i = JobId.ofNat j) : i = j := by
  have hbits : i % 2 ^ 128 = j % 2 ^ 128 := congrArg (fun k : JobId => k.uuid.bits.toNat) h
  rwa [Nat.mod_eq_of_lt hi, Nat.mod_eq_of_lt hj] at hbits

theorem not_mem_others {n : Nat} (h : n ≤ 256) : JobId.ofNat 1 ∉ others n := by
  intro hmem
  obtain ⟨i, hi, heq⟩ := List.mem_map.1 hmem
  rw [List.mem_range] at hi
  have hsame := ofNat_inj (by omega) (by omega) heq
  omega

theorem nodup_others {n : Nat} (h : n ≤ 256) : (others n).Nodup := by
  refine List.Nodup.map_on (fun i hi j hj heq => ?_) List.nodup_range
  rw [List.mem_range] at hi hj
  have hsame := ofNat_inj (by omega) (by omega) heq
  omega

/-- A job is passed over while 255 others come and go, and put back after the next one. -/
theorem dismissed_stays_off_until_next :
    let job := JobId.ofNat 1
    let b := empty.dispatch job 1
    ∃ b₁, Reachable b ∧ b.Answers (.dismiss job) (.found true) b₁ ∧
      (∃ b', b₁.Runs (visits (others 255)) b' ∧ b'.phase job = .idle ∧
        (∀ e now, e.job = job → b'.apply e now = (.afterTerminal, b')) ∧
        b'.dismiss job = (false, b')) ∧
      ∃ b', b₁.Runs (visits (others 256)) b' ∧
        ∀ report now, report.job = job → (b'.apply (.progress report) now).1 = .progressed := by
  intro job b
  have hb : Reachable b := .step .empty (.dispatch empty job 1)
  have hanswer : b.Answers (.dismiss job) (.found true) (b.retire job) := .dismiss job
  have hget : ∀ k, (b.retire job).get? k = none := by
    intro k
    rw [get?_retire, get?_dispatch]
    split <;> rfl
  obtain ⟨hoff, hback⟩ := dismissed_stays_off hb hanswer rfl
  refine ⟨_, hb, hanswer, ?_, ?_⟩
  · obtain ⟨b', hrun, -⟩ := exists_runs_visits (others 255) fun k _ => hget k
    refine ⟨b', hrun, hoff _ b' hrun (fun total reply hmem => ?_) ?_⟩
    · exact not_mem_others (by decide) (mem_of_dispatch_mem_visits hmem)
    · rw [takenOff_visits]
      exact Nat.le_trans (List.toFinset_card_le _) (length_others 255).le
  · obtain ⟨b', hrun, hsame⟩ := exists_runs_visits (others 256) fun k _ => hget k
    refine ⟨b', hrun, fun report now hjob => (hback _ b' hrun ?_ ?_ ?_ report now hjob).1⟩
    · rw [takenOff_visits]
      exact not_mem_others (Nat.le_refl _)
    · rw [stillOff_visits (nodup_others (Nat.le_refl _)), length_others]
    · exact phase_of_get?_eq_none (by rw [hsame, hget])

end Board

end SubtitleCoverage
