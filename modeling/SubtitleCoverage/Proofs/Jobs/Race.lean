import SubtitleCoverage.Proofs.Jobs.Convergence

/-!
# The race between a dispatch and its events

The backend answers a dispatch, and it sends the events of the job; nobody knows which of the two is
first.  Whatever comes first, the job is shown in the same phase and with the same counters.  The
number of items alone may tell the two apart: a final account that comes before any word on that
number leaves what it has dealt with in its place, and a late answer does not replace that.

## Main definitions

* `FinalReport.processed`, `mostProcessed es` — how many items final accounts have dealt with.
* `AnnouncesTotal es` — a report that counts gives the number of items.
* `JobProgress.afterEvents p es` — a job after some events of it.
* `JobProgress.Behind n es t q` — how far the numbers of items are apart in the two orders.

## Main results

* `announcesTotal_concat`, `announcesTotal_append` — what one more event, or any events after a
  final account, add to that.
* `JobProgress.Behind.afterEvent` — one more event keeps the two orders as far apart as they are.
* `dispatch_race` — **the order decides on the number of items at most**, and when it does.
-/

namespace SubtitleCoverage

/-! ### Numbers of items in events -/

/-- How many items a final account has dealt with. -/
def FinalReport.processed (r : FinalReport) : UInt64 :=
  addSaturating (addSaturating r.succeeded r.failed) r.skipped

/-- The most items that a final account among some events has dealt with; 0 if there is none. -/
def mostProcessed (es : List JobEvent) : UInt64 :=
  (finals es).foldl (fun n r => max n r.processed) 0

/-- A report that counts gives the number of items: its key is greater than those before it, and no
final account has come. -/
def AnnouncesTotal (es : List JobEvent) : Prop :=
  ∃ before r after, es = before ++ .progress r :: after ∧ finals before = [] ∧
    (∀ q ∈ reports before, q.key < r.key) ∧ r.total ≠ 0

theorem not_announcesTotal_nil : ¬AnnouncesTotal [] := by
  rintro ⟨before, r, after, h, -⟩
  cases before <;> contradiction

theorem announcesTotal_concat {es : List JobEvent} {e : JobEvent} :
    AnnouncesTotal (es ++ [e]) ↔ AnnouncesTotal es ∨
      ∃ r, e = .progress r ∧ finals es = [] ∧ (∀ q ∈ reports es, q.key < r.key) ∧ r.total ≠ 0 := by
  constructor
  · rintro ⟨before, r, after, h, hfinals, hkeys, htotal⟩
    -- the report is the last event or one before it
    rcases List.eq_nil_or_concat after with rfl | ⟨after, last, rfl⟩
    · obtain ⟨rfl, he⟩ := List.append_inj' h rfl
      exact .inr ⟨r, List.singleton_inj.1 he, hfinals, hkeys, htotal⟩
    · rw [List.concat_eq_append, ← List.cons_append, ← List.append_assoc] at h
      obtain ⟨rfl, -⟩ := List.append_inj' h rfl
      exact .inl ⟨before, r, after, rfl, hfinals, hkeys, htotal⟩
  · rintro (⟨before, r, after, rfl, h⟩ | ⟨r, rfl, h⟩)
    · exact ⟨before, r, after ++ [e], by simp, h⟩
    · exact ⟨es, r, [], rfl, h⟩

/-- After a final account no report counts. -/
theorem announcesTotal_append {es : List JobEvent} (hfinals : finals es ≠ [])
    (later : List JobEvent) : AnnouncesTotal (es ++ later) ↔ AnnouncesTotal es := by
  induction later using List.reverseRecOn with
  | nil => rw [List.append_nil]
  | append_singleton later e ih =>
    rw [← List.append_assoc, announcesTotal_concat, ih, or_iff_left]
    rintro ⟨r, -, hnone, -⟩
    rw [finals, List.filterMap_append, List.append_eq_nil_iff] at hnone
    exact hfinals hnone.1

theorem mostProcessed_concat_progress (es : List JobEvent) (r : ProgressReport) :
    mostProcessed (es ++ [.progress r]) = mostProcessed es := by
  rw [mostProcessed, finals_concat_progress, mostProcessed]

theorem mostProcessed_concat_finished (es : List JobEvent) (r : FinalReport) :
    mostProcessed (es ++ [.finished r]) = max (mostProcessed es) r.processed := by
  rw [mostProcessed, finals_concat_finished, List.foldl_append]
  rfl

theorem finals_ne_nil_of_mostProcessed {es : List JobEvent} (h : mostProcessed es ≠ 0) :
    finals es ≠ [] := by
  intro hnil
  rw [mostProcessed, hnil] at h
  exact h rfl

/-! ### One job with another number of items -/

namespace JobProgress

/-- A job with another number of items. -/
def withTotal (p : JobProgress) (t : UInt64) : JobProgress := { p with total := t }

@[simp] theorem total_withTotal (p : JobProgress) (t : UInt64) : (p.withTotal t).total = t := rfl

@[simp] theorem withTotal_self (p : JobProgress) : p.withTotal p.total = p := rfl

/-- A report counts for a job. -/
def Accepts (p : JobProgress) (r : ProgressReport) : Prop :=
  p.phase ≠ .terminal ∧ p.isNews r = true

theorem follow_of_accepts {p : JobProgress} {r : ProgressReport} (h : p.Accepts r) :
    p.follow r = p.advance r := by
  rw [follow, if_neg h.1, if_pos h.2]

theorem follow_of_not_accepts {p : JobProgress} {r : ProgressReport} (h : ¬p.Accepts r) :
    p.follow r = p := by
  unfold follow
  split
  · rfl
  · next hphase =>
    rw [if_neg fun hnews => h ⟨hphase, hnews⟩]

/-- Whether a report counts is read off the events before it. -/
theorem Reflects.accepts_iff {p : JobProgress} {es : List JobEvent} (h : p.Reflects es)
    (r : ProgressReport) :
    p.Accepts r ↔ finals es = [] ∧ ∀ q ∈ reports es, q.key < r.key := by
  unfold Reflects at h
  cases hf : (finals es).getLast? with
  | some f =>
    simp only [hf] at h
    have hne : finals es ≠ [] := fun hnil => by rw [hnil] at hf; contradiction
    exact ⟨fun haccepts => absurd h.phase haccepts.1, fun hand => absurd hand.1 hne⟩
  | none =>
    simp only [hf] at h
    have hnil : finals es = [] := List.getLast?_eq_none_iff.1 hf
    rw [Accepts, isNews_iff]
    cases hc : newest? (reports es) with
    | none =>
      simp only [hc] at h
      rw [newest?_eq_none_iff.1 hc, h.lastSequence]
      simp [h.phase, hnil]
    | some c =>
      simp only [hc] at h
      rw [h.phase, h.lastSequence]
      constructor
      · rintro ⟨-, hlast⟩
        exact ⟨hnil, fun q hq => UInt64.lt_of_le_of_lt (key_le_of_newest? hc hq) (hlast _ rfl)⟩
      · rintro ⟨-, hkeys⟩
        refine ⟨by decide, fun last hlast => ?_⟩
        rw [← Option.some.inj hlast]
        exact hkeys c (mem_of_newest? hc)

/-! ### Two numbers of items -/

theorem advance_withTotal (p : JobProgress) (t : UInt64) (r : ProgressReport) :
    (p.withTotal t).advance r = (p.advance r).withTotal (if r.total = 0 then t else r.total) := rfl

theorem total_finish (p : JobProgress) (r : FinalReport) (now : Int) :
    (p.finish r now).total = max p.total r.processed := rfl

theorem expect_withTotal (p : JobProgress) (t n : UInt64) :
    (p.withTotal t).expect n = p.withTotal (if t = 0 then n else t) := by
  unfold expect
  rw [total_withTotal]
  split <;> rfl

theorem expect_start_zero (job : JobId) (phase : JobPhase) (n : UInt64) :
    (start job phase 0).expect n = start job phase n := if_pos rfl

/-- A job shown at once with `n` items and the same job with `t` items after some events.  As long
as no report has given the number of items, either of them goes by what final accounts say. -/
structure Behind (n : UInt64) (es : List JobEvent) (t : UInt64) (q : JobProgress) : Prop where
  reflects : q.Reflects es
  announced : AnnouncesTotal es → t = q.total ∧ t ≠ 0
  unannounced : ¬AnnouncesTotal es → t = mostProcessed es ∧ q.total = max n (mostProcessed es)

theorem behind_start (job : JobId) (n : UInt64) : Behind n [] 0 (start job .dispatched n) where
  reflects := reflects_start (by decide) n
  announced h := absurd h not_announcesTotal_nil
  unannounced _ := ⟨rfl, (uint64_max_zero n).symm⟩

/-- An event that says nothing about the number of items. -/
theorem Behind.keep {n t : UInt64} {es es' : List JobEvent} {q q' : JobProgress}
    (h : Behind n es t q) (hreflects : q'.Reflects es') (htotal : q'.total = q.total)
    (hannounces : AnnouncesTotal es' ↔ AnnouncesTotal es)
    (hmost : mostProcessed es' = mostProcessed es) : Behind n es' t q' where
  reflects := hreflects
  announced ha := by
    rw [htotal]
    exact h.announced (hannounces.1 ha)
  unannounced hna := by
    rw [htotal, hmost]
    exact h.unannounced fun ha => hna (hannounces.2 ha)

theorem Behind.finish {n t : UInt64} {es : List JobEvent} {q : JobProgress}
    (h : Behind n es t q) (now : Int) (r : FinalReport) :
    Behind n (es ++ [.finished r]) (max t r.processed) (q.finish r now) := by
  have hannounces : AnnouncesTotal (es ++ [.finished r]) ↔ AnnouncesTotal es := by
    rw [announcesTotal_concat, or_iff_left]
    rintro ⟨r', hr', -⟩
    contradiction
  refine ⟨?_, fun ha => ?_, fun hna => ?_⟩
  · have hq : ∀ p, some q = some p → p.Reflects es := fun p hp => Option.some.inj hp ▸ h.reflects
    have hshown := Reflects.afterEvent hq (fun hnone => by contradiction) now (.finished r)
    exact hshown
  · obtain ⟨htotal, hne⟩ := h.announced (hannounces.1 ha)
    refine ⟨by rw [total_finish, htotal], fun hzero => hne ?_⟩
    rw [← UInt64.toNat_inj, toNat_max, UInt64.toNat_zero] at hzero
    rw [← UInt64.toNat_inj, UInt64.toNat_zero]
    omega
  · obtain ⟨ht, htotal⟩ := h.unannounced fun ha => hna (hannounces.2 ha)
    rw [mostProcessed_concat_finished, total_finish, htotal, ht]
    exact ⟨rfl, uint64_max_assoc ..⟩

theorem Behind.follow {n t : UInt64} {es : List JobEvent} {q : JobProgress}
    (h : Behind n es t q) (r : ProgressReport) :
    ∃ t', (q.withTotal t).follow r = (q.follow r).withTotal t' ∧
      Behind n (es ++ [.progress r]) t' (q.follow r) := by
  have hreflects : (q.follow r).Reflects (es ++ [.progress r]) := h.reflects.follow r
  have hmost := mostProcessed_concat_progress es r
  have hannounces : AnnouncesTotal (es ++ [.progress r]) ↔
      AnnouncesTotal es ∨ q.Accepts r ∧ r.total ≠ 0 := by
    rw [announcesTotal_concat, h.reflects.accepts_iff]
    simp [and_assoc]
  by_cases haccepts : q.Accepts r
  · rw [follow_of_accepts haccepts] at hreflects ⊢
    have haccepts' : (q.withTotal t).Accepts r := haccepts
    rw [follow_of_accepts haccepts', advance_withTotal]
    by_cases htotal : r.total = 0
    · -- the report leaves the number of items open
      rw [if_pos htotal]
      refine ⟨t, rfl, h.keep hreflects ?_ ?_ hmost⟩
      · exact if_pos htotal
      · rw [hannounces, or_iff_left fun hand => hand.2 htotal]
    · rw [if_neg htotal]
      refine ⟨r.total, rfl, hreflects, fun _ => ⟨?_, htotal⟩, fun hna => ?_⟩
      · exact (if_neg htotal).symm
      · exact absurd (hannounces.2 (.inr ⟨haccepts, htotal⟩)) hna
  · rw [follow_of_not_accepts haccepts] at hreflects ⊢
    have haccepts' : ¬(q.withTotal t).Accepts r := haccepts
    rw [follow_of_not_accepts haccepts']
    refine ⟨t, rfl, h.keep hreflects rfl ?_ hmost⟩
    rw [hannounces, or_iff_left fun hand => haccepts hand.1]

/-- **One more event keeps the two orders as far apart as they are.** -/
theorem Behind.afterEvent {n t : UInt64} {es : List JobEvent} {q : JobProgress}
    (h : Behind n es t q) (now : Int) (e : JobEvent) :
    ∃ t', JobProgress.afterEvent (some (q.withTotal t)) now e =
        (JobProgress.afterEvent (some q) now e).withTotal t' ∧
      Behind n (es ++ [e]) t' (JobProgress.afterEvent (some q) now e) := by
  cases e with
  | progress r => exact h.follow r
  | finished r => exact ⟨max t r.processed, rfl, h.finish now r⟩

/-! ### Any number of events -/

/-- A job after some events of it, each with the time at which it arrives. -/
def afterEvents (p : JobProgress) (es : List (JobEvent × Int)) : JobProgress :=
  es.foldl (fun p e => afterEvent (some p) e.2 e.1) p

theorem Behind.afterEvents {n : UInt64} (later : List (JobEvent × Int)) :
    ∀ {t : UInt64} {es : List JobEvent} {q : JobProgress}, Behind n es t q →
      ∃ t', (q.withTotal t).afterEvents later = (q.afterEvents later).withTotal t' ∧
        Behind n (es ++ later.map (·.1)) t' (q.afterEvents later) := by
  induction later with
  | nil =>
    intro t es q h
    refine ⟨t, rfl, ?_⟩
    rw [List.map_nil, List.append_nil]
    exact h
  | cons e later ih =>
    intro t es q h
    obtain ⟨t₁, heq, h₁⟩ := h.afterEvent e.2 e.1
    obtain ⟨t₂, heq₂, h₂⟩ := ih h₁
    refine ⟨t₂, ?_, ?_⟩
    · rw [JobProgress.afterEvents, List.foldl_cons, heq]
      exact heq₂
    · rw [List.map_cons, List.append_cons]
      exact h₂

/-- **What is left of the race after the answer**, and whatever events come then. -/
theorem Behind.afterAnswer {n t : UInt64} {es : List JobEvent} {q : JobProgress}
    (h : Behind n es t q) (later : List (JobEvent × Int)) :
    ∃ t', ((q.withTotal t).expect n).afterEvents later = (q.afterEvents later).withTotal t' ∧
      (t' = (q.afterEvents later).total ↔ AnnouncesTotal es ∨ mostProcessed es = 0 ∨
        n ≤ mostProcessed (es ++ later.map (·.1))) ∧
      (t' ≠ (q.afterEvents later).total →
        t' = mostProcessed (es ++ later.map (·.1)) ∧ (q.afterEvents later).total = n) := by
  rw [expect_withTotal]
  by_cases hin : AnnouncesTotal es ∨ mostProcessed es = 0
  · -- the answer finds the number of items known, or still open
    have htotal : (if t = 0 then n else t) = q.total := by
      by_cases ha : AnnouncesTotal es
      · obtain ⟨heq, hne⟩ := h.announced ha
        rw [if_neg hne, heq]
      · obtain ⟨ht, hq⟩ := h.unannounced ha
        have hmost : mostProcessed es = 0 := hin.resolve_left ha
        rw [hmost] at ht hq
        rw [if_pos ht, hq, uint64_max_zero]
    refine ⟨(q.afterEvents later).total, ?_, ?_, fun hne => absurd rfl hne⟩
    · rw [htotal, withTotal_self, withTotal_self]
    · rw [← or_assoc]
      exact iff_of_true rfl (.inl hin)
  · -- a final account has come first, and no report counts any more
    obtain ⟨ha, hmost⟩ := not_or.1 hin
    obtain ⟨ht, -⟩ := h.unannounced ha
    have hne : t ≠ 0 := by rwa [ht]
    obtain ⟨t', heq, hbehind⟩ := h.afterEvents later
    have hall : ¬AnnouncesTotal (es ++ later.map (·.1)) := by
      rwa [announcesTotal_append (finals_ne_nil_of_mostProcessed hmost)]
    obtain ⟨ht', hq'⟩ := hbehind.unannounced hall
    rw [if_neg hne]
    refine ⟨t', heq, ?_, fun hdiff => ?_⟩
    · rw [hq', ht', eq_comm, uint64_max_eq_right_iff]
      simp only [ha, hmost, false_or]
    · refine ⟨ht', ?_⟩
      rw [hq', ht'] at hdiff
      rw [hq']
      -- the greater of two numbers is the first one if it is not the second one
      have hlt : ¬n ≤ mostProcessed (es ++ later.map (·.1)) := fun hle =>
        hdiff (uint64_max_eq_right_iff.2 hle).symm
      rw [← UInt64.toNat_inj, toNat_max]
      rw [UInt64.le_iff_toNat_le] at hlt
      omega

/-- A job that is not shown behaves as one that was accepted with no word on its items. -/
theorem afterEvent_none (now : Int) (e : JobEvent) :
    JobProgress.afterEvent none now e =
      JobProgress.afterEvent (some (start e.job .dispatched 0)) now e := by
  cases e with
  | finished r => rfl
  | progress r =>
    have haccepts : (start r.job .dispatched 0).Accepts r := ⟨nofun, rfl⟩
    show (start r.job .running r.total).follow r = (start r.job .dispatched 0).follow r
    rw [follow_start, follow_of_accepts haccepts, advance, advance]
    -- the first report leaves its own number of items, also if that is 0
    by_cases htotal : r.total = 0
    · simp only [start, htotal, if_true]
    · simp only [start, if_neg htotal]

end JobProgress

/-! ### The board -/

namespace Board

open JobProgress

/-- Some events as messages. -/
def arrivals (es : List (JobEvent × Int)) : List Message := es.map fun e => .event e.1 e.2

/-- What is shown of a job, or what stands for it as long as it is not shown. -/
def shownOr (b : Board) (job : JobId) : JobProgress := (b.get? job).getD (.start job .dispatched 0)

theorem receiveAll_append (b : Board) (ms ms' : List Message) :
    b.receiveAll (ms ++ ms') = (b.receiveAll ms).receiveAll ms' := List.foldl_append

theorem receiveAll_cons (b : Board) (m : Message) (ms : List Message) :
    b.receiveAll (m :: ms) = (b.receive m).receiveAll ms := rfl

theorem get?_dispatch_self (b : Board) (job : JobId) (n : UInt64) :
    (b.dispatch job n).get? job = some ((b.shownOr job).expect n) := by
  rw [get?_dispatch, if_pos rfl, shownOr]
  cases b.get? job with
  | some p => rfl
  | none => rw [Option.getD_none, Option.getD_none, expect_start, expect_start_zero]

theorem get?_apply_self {b : Board} {e : JobEvent} (hfree : e.job ∉ b.retired) (now : Int) :
    (b.apply e now).2.get? e.job = some (afterEvent (some (b.shownOr e.job)) now e) := by
  rw [get?_apply, if_pos ⟨rfl, hfree⟩, shownOr]
  cases b.get? e.job with
  | some p => rfl
  | none => rw [afterEvent_none, Option.getD_none]

/-- Events of a job that is not remembered are taken account of one after the other. -/
theorem shownOr_receiveAll_arrivals {job : JobId} (es : List (JobEvent × Int)) :
    ∀ {b : Board}, job ∉ b.retired → (∀ e ∈ es, e.1.job = job) →
      job ∉ (b.receiveAll (arrivals es)).retired ∧
      (b.receiveAll (arrivals es)).shownOr job = (b.shownOr job).afterEvents es ∧
      ((b.get? job).isSome → ((b.receiveAll (arrivals es)).get? job).isSome) := by
  induction es with
  | nil => intro b hfree _; exact ⟨hfree, rfl, id⟩
  | cons e es ih =>
    intro b hfree hjob
    have he : e.1.job = job := hjob e (List.mem_cons_self ..)
    subst he
    have hshown := get?_apply_self hfree e.2
    have hfree' : e.1.job ∉ (b.apply e.1 e.2).2.retired := by
      rw [retired_apply]
      exact hfree
    obtain ⟨hfree₁, hes, hsome⟩ := ih hfree' fun e' he' => hjob e' (List.mem_cons_of_mem _ he')
    have hor : (b.apply e.1 e.2).2.shownOr e.1.job =
        afterEvent (some (b.shownOr e.1.job)) e.2 e.1 := by
      rw [shownOr, hshown, Option.getD_some]
    rw [hor] at hes
    exact ⟨hfree₁, hes, fun _ => hsome (by rw [hshown]; rfl)⟩

/-- After a dispatch the events of the job count, whether the job was shown before or not. -/
theorem get?_receiveAll_accepted (b : Board) (job : JobId) (n : UInt64)
    {es : List (JobEvent × Int)} (hjob : ∀ e ∈ es, e.1.job = job) :
    (b.receiveAll (.accepted job n :: arrivals es)).get? job =
      some (((b.shownOr job).expect n).afterEvents es) := by
  have hget := get?_dispatch_self b job n
  have hfree : job ∉ (b.dispatch job n).retired := by simp
  obtain ⟨-, hes, hsome⟩ := shownOr_receiveAll_arrivals es hfree hjob
  have hor : (b.dispatch job n).shownOr job = (b.shownOr job).expect n := by
    rw [shownOr, hget, Option.getD_some]
  obtain ⟨p, hp⟩ := Option.isSome_iff_exists.1 (hsome (by rw [hget]; rfl))
  rw [shownOr, hp, Option.getD_some, hor] at hes
  rw [receiveAll_cons, receive, hp, hes]

/-- **The order in which the answer to a dispatch and the events of its job arrive decides on the
number of items at most.**  It does so if no report that counts has given that number before the
answer, a final account has, and it was given more by the backend than any final account has dealt
with: then what is shown is what the final accounts have dealt with, in place of the answer. -/
theorem dispatch_race {b : Board} {job : JobId} (hidle : b.get? job = none)
    (hfree : job ∉ b.retired) (n : UInt64) {before after : List (JobEvent × Int)}
    (hjob : ∀ e ∈ before ++ after, e.1.job = job) :
    let first := before.map (·.1)
    let all := (before ++ after).map (·.1)
    ∃ p q,
      (b.receiveAll (arrivals before ++ .accepted job n :: arrivals after)).get? job = some p ∧
      (b.receiveAll (.accepted job n :: arrivals (before ++ after))).get? job = some q ∧
      p = { q with total := p.total } ∧
      (p.total = q.total ↔
        AnnouncesTotal first ∨ mostProcessed first = 0 ∨ n ≤ mostProcessed all) ∧
      (p.total ≠ q.total → p.total = mostProcessed all ∧ q.total = n) := by
  intro first all
  have hbefore : ∀ e ∈ before, e.1.job = job := fun e he => hjob e (List.mem_append_left _ he)
  have hafter : ∀ e ∈ after, e.1.job = job := fun e he => hjob e (List.mem_append_right _ he)
  -- The job is not shown at first, so both orders begin with what stands for it.
  have hstart : b.shownOr job = start job .dispatched 0 := by rw [shownOr, hidle, Option.getD_none]
  obtain ⟨-, hfirst, -⟩ := shownOr_receiveAll_arrivals before hfree hbefore
  have hlate := get?_receiveAll_accepted (b.receiveAll (arrivals before)) job n hafter
  have hearly := get?_receiveAll_accepted b job n hjob
  rw [← receiveAll_append, hfirst, hstart] at hlate
  rw [hstart, expect_start_zero] at hearly
  obtain ⟨t, ht, hbehind⟩ := (behind_start job n).afterEvents before
  have hzero : (start job .dispatched n).withTotal 0 = start job .dispatched 0 := rfl
  rw [hzero] at ht
  rw [List.nil_append] at hbehind
  rw [ht, expect_withTotal] at hlate
  have hall : (start job .dispatched n).afterEvents (before ++ after) =
      ((start job .dispatched n).afterEvents before).afterEvents after := List.foldl_append
  rw [hall] at hearly
  generalize (start job .dispatched n).afterEvents before = q₁ at hlate hearly hbehind
  obtain ⟨t', heq, htotal, hdiff⟩ := hbehind.afterAnswer after
  rw [expect_withTotal] at heq
  rw [heq] at hlate
  rw [← List.map_append] at htotal hdiff
  exact ⟨_, _, hlate, hearly, rfl, htotal, hdiff⟩

/-- The final account of a job comes before the backend has answered, and another one after it. -/
theorem dispatch_race_lost :
    let job : JobId := .ofNat 1
    let before : List (JobEvent × Int) :=
      [(.progress ⟨job, some 4, 2, 0, 2, 0⟩, 1), (.finished ⟨job, 3, 0, 0⟩, 2)]
    let after : List (JobEvent × Int) :=
      [(.progress ⟨job, some 5, 3, 8, 3, 0⟩, 3), (.finished ⟨job, 3, 1, 1⟩, 4)]
    empty.get? job = none ∧ job ∉ empty.retired ∧ (∀ e ∈ before ++ after, e.1.job = job) ∧
      ∃ p q,
        (empty.receiveAll (arrivals before ++ .accepted job 10 :: arrivals after)).get? job =
          some p ∧
        (empty.receiveAll (.accepted job 10 :: arrivals (before ++ after))).get? job = some q ∧
        p = { q with total := p.total } ∧
        p.total = mostProcessed ((before ++ after).map (·.1)) ∧ q.total = 10 := by
  intro job before after
  have hjob : ∀ e ∈ before ++ after, e.1.job = job := by decide
  obtain ⟨p, q, hp, hq, heq, -, hdiff⟩ :=
    dispatch_race (b := empty) rfl (by decide) 10 hjob
  have hlate : ((empty.receiveAll (arrivals before ++ .accepted job 10 :: arrivals after)).get?
      job).map (·.total) = some 5 := by decide
  have hearly : ((empty.receiveAll (.accepted job 10 :: arrivals (before ++ after))).get?
      job).map (·.total) = some 10 := by decide
  rw [hp, Option.map_some, Option.some_inj] at hlate
  rw [hq, Option.map_some, Option.some_inj] at hearly
  have hne : p.total ≠ q.total := by
    rw [hlate, hearly]
    decide
  obtain ⟨hmost, htotal⟩ := hdiff hne
  exact ⟨rfl, by decide, hjob, p, q, hp, hq, heq, hmost, htotal⟩

/-- A job finishes before the backend answers that it has ten items: in one order it is shown with
ten items, in the other one with the three that have been dealt with. -/
theorem dispatch_race_decides_total :
    let job : JobId := .ofNat 1
    let e : JobEvent × Int := (.finished ⟨job, 3, 0, 0⟩, 5)
    empty.get? job = none ∧ job ∉ empty.retired ∧ e.1.job = job ∧
    (empty.receiveAll (arrivals [e] ++ [.accepted job 10])).get? job ≠
      (empty.receiveAll (.accepted job 10 :: arrivals [e])).get? job := by
  decide

end Board

end SubtitleCoverage
