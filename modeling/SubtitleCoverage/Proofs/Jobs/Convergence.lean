import Mathlib.Data.List.MinMax
import SubtitleCoverage.Proofs.Jobs.Lookup

/-!
# Events out of order

Events of a job may come in any order, mixed with those of other jobs and with dispatches.  What the
board shows of the job in the end is read off the events that have come: the last final account if
there is one, and otherwise the report with the greatest key.

## Main definitions

* `Message`, `Board.receiveAll` — what the backend tells, and the board after it.
* `eventsOf job ms`, `reports es`, `finals es` — the events of one job, by kind.
* `newest? rs` — of the reports with the greatest key the earliest.
* `JobProgress.Reflects p es` — a job is shown as its events say.

## Main results

* `JobProgress.Reflects.afterEvent` — one more event is reflected at once.
* `Board.Follows.receiveAll` — the board reflects any messages.
* `exists_append_of_newest?` — the reports before the newest one and those after it.
* `newest?_of_perm` — the newest report does not depend on the order if the keys differ.
* `outcome_of_messages` — **what a job is shown as after any messages**, and that the order of its
  events does not matter.
-/

namespace SubtitleCoverage

/-! ### Messages -/

/-- What the backend tells of a job. -/
inductive Message where
  /-- The backend has accepted a job of so many items. -/
  | accepted (job : JobId) (total : UInt64)
  /-- An event that arrives at some time. -/
  | event (e : JobEvent) (now : Int)

/-- The board after a message. -/
def Board.receive (b : Board) : Message → Board
  | .accepted job total => b.dispatch job total
  | .event e now => (b.apply e now).2

/-- The board after some messages. -/
def Board.receiveAll (b : Board) (ms : List Message) : Board := ms.foldl receive b

/-- The event that a message brings to a job, if it brings one. -/
def Message.eventOf? (job : JobId) : Message → Option JobEvent
  | .accepted _ _ => none
  | .event e _ => if e.job = job then some e else none

/-- The events of a job among some messages, as they come. -/
def eventsOf (job : JobId) (ms : List Message) : List JobEvent := ms.filterMap (·.eventOf? job)

@[simp] theorem eventsOf_nil (job : JobId) : eventsOf job [] = [] := rfl

theorem eventsOf_cons (job : JobId) (m : Message) (ms : List Message) :
    eventsOf job (m :: ms) = (m.eventOf? job).toList ++ eventsOf job ms := by
  unfold eventsOf
  cases h : m.eventOf? job with
  | none => rw [List.filterMap_cons_none h]; rfl
  | some e => rw [List.filterMap_cons_some h]; rfl

/-! ### Events by kind -/

/-- The report that an event is, if it is one. -/
def JobEvent.report? : JobEvent → Option ProgressReport
  | .progress r => some r
  | .finished _ => none

/-- The final account that an event is, if it is one. -/
def JobEvent.final? : JobEvent → Option FinalReport
  | .progress _ => none
  | .finished r => some r

/-- The reports among some events. -/
def reports (es : List JobEvent) : List ProgressReport := es.filterMap (·.report?)

/-- The final accounts among some events. -/
def finals (es : List JobEvent) : List FinalReport := es.filterMap (·.final?)

@[simp] theorem reports_concat_progress (es : List JobEvent) (r : ProgressReport) :
    reports (es ++ [.progress r]) = reports es ++ [r] := by simp [reports, JobEvent.report?]

@[simp] theorem finals_concat_progress (es : List JobEvent) (r : ProgressReport) :
    finals (es ++ [.progress r]) = finals es := by simp [finals, JobEvent.final?]

@[simp] theorem finals_concat_finished (es : List JobEvent) (r : FinalReport) :
    finals (es ++ [.finished r]) = finals es ++ [r] := by simp [finals, JobEvent.final?]

/-- An event is a report or a final account. -/
theorem eq_nil_of_reports_finals {es : List JobEvent} (hr : reports es = []) (hf : finals es = []) :
    es = [] := by
  cases es with
  | nil => rfl
  | cons e es => cases e <;> simp_all [reports, finals, JobEvent.report?, JobEvent.final?]

/-! ### The newest report -/

/-- The report that counts: of those with the greatest key the one that came first. -/
def newest? (rs : List ProgressReport) : Option ProgressReport := rs.argmax fun r => r.key.toNat

theorem newest?_concat (rs : List ProgressReport) (r : ProgressReport) :
    newest? (rs ++ [r]) = some (match newest? rs with
      | none => r
      | some c => if c.key < r.key then r else c) := by
  unfold newest?
  rw [List.argmax_concat]
  cases rs.argmax fun r => r.key.toNat with
  | none => rfl
  | some c => simp only [UInt64.lt_iff_toNat_lt]; split <;> rfl

theorem newest?_eq_none_iff {rs : List ProgressReport} : newest? rs = none ↔ rs = [] :=
  List.argmax_eq_none

/-- **The newest report**: those before it have smaller keys, and none after it has a greater
one. -/
theorem exists_append_of_newest? {rs : List ProgressReport} {c : ProgressReport}
    (h : newest? rs = some c) :
    ∃ before after, rs = before ++ c :: after ∧ (∀ r ∈ before, r.key < c.key) ∧
      ∀ r ∈ after, r.key ≤ c.key := by
  induction rs using List.reverseRecOn generalizing c with
  | nil => contradiction
  | append_singleton rs last ih =>
    rw [newest?_concat] at h
    have hc := Option.some.inj h
    cases hrs : newest? rs with
    | none =>
      simp only [hrs] at hc
      subst hc
      rw [newest?_eq_none_iff.1 hrs]
      exact ⟨[], [], rfl, by simp, by simp⟩
    | some d =>
      simp only [hrs] at hc
      obtain ⟨before, after, happend, hbefore, hafter⟩ := ih hrs
      split at hc
      · next hlt =>
        -- the last report is newer than every one before it
        subst hc
        refine ⟨rs, [], rfl, fun r hr => ?_, by simp⟩
        rw [happend] at hr
        rcases List.mem_append.1 hr with hr | hr
        · exact UInt64.lt_trans (hbefore r hr) hlt
        · rcases List.mem_cons.1 hr with rfl | hr
          · exact hlt
          · exact UInt64.lt_of_le_of_lt (hafter r hr) hlt
      · next hle =>
        subst hc
        refine ⟨before, after ++ [last], by rw [happend]; simp, hbefore, fun r hr => ?_⟩
        rcases List.mem_append.1 hr with hr | hr
        · exact hafter r hr
        · rw [List.mem_singleton.1 hr]
          exact UInt64.not_lt.1 hle

theorem mem_of_newest? {rs : List ProgressReport} {c : ProgressReport} (h : newest? rs = some c) :
    c ∈ rs := by
  obtain ⟨before, after, rfl, -, -⟩ := exists_append_of_newest? h
  exact List.mem_append_right _ (List.mem_cons_self ..)

theorem key_le_of_newest? {rs : List ProgressReport} {c r : ProgressReport}
    (h : newest? rs = some c) (hr : r ∈ rs) : r.key ≤ c.key := by
  obtain ⟨before, after, rfl, hbefore, hafter⟩ := exists_append_of_newest? h
  rcases List.mem_append.1 hr with hr | hr
  · exact UInt64.le_of_lt (hbefore r hr)
  · rcases List.mem_cons.1 hr with rfl | hr
    · exact UInt64.le_refl _
    · exact hafter r hr

/-- The newest report does not depend on the order if no two reports have one key. -/
theorem newest?_of_perm {rs rs' : List ProgressReport} (h : rs'.Perm rs)
    (hkeys : (rs.map (·.key)).Nodup) : newest? rs' = newest? rs := by
  cases hc : newest? rs with
  | none =>
    rw [newest?_eq_none_iff] at hc ⊢
    rw [hc] at h
    exact h.eq_nil
  | some c =>
    cases hc' : newest? rs' with
    | none =>
      rw [newest?_eq_none_iff.1 hc'] at h
      rw [h.nil_eq.symm] at hc
      contradiction
    | some c' =>
      have hmem' : c' ∈ rs := h.mem_iff.1 (mem_of_newest? hc')
      -- each of the two has a key that is not less than that of the other
      have hle : c'.key ≤ c.key := key_le_of_newest? hc hmem'
      have hle' : c.key ≤ c'.key := key_le_of_newest? hc' (h.mem_iff.2 (mem_of_newest? hc))
      have hkey : c'.key = c.key := UInt64.le_antisymm hle hle'
      rw [List.inj_on_of_nodup_map hkeys hmem' (mem_of_newest? hc) hkey]

/-! ### A job as its events say -/

namespace JobProgress

/-- The job is shown as its final account says. -/
structure ShowsFinal (p : JobProgress) (f : FinalReport) : Prop where
  phase : p.phase = .terminal
  running : p.running = false
  completed : p.completed = f.succeeded
  failed : p.failed = f.failed
  skipped : p.skipped = f.skipped
  current : p.current.toNat =
    min (f.succeeded.toNat + f.failed.toNat + f.skipped.toNat) (UInt64.size - 1)

/-- The job is shown as a report says. -/
structure ShowsReport (p : JobProgress) (r : ProgressReport) : Prop where
  phase : p.phase = .running
  running : p.running = true
  current : p.current = r.current
  completed : p.completed = r.completed
  failed : p.failed = r.failed
  skipped : p.skipped = 0
  lastSequence : p.lastSequence = some r.key

/-- No event of the job has come. -/
structure ShowsNothing (p : JobProgress) : Prop where
  phase : p.phase ≠ .terminal
  skipped : p.skipped = 0
  lastSequence : p.lastSequence = none

/-- The job is shown as its events say, whatever their order. -/
def Reflects (p : JobProgress) (es : List JobEvent) : Prop :=
  match (finals es).getLast? with
  | some f => p.ShowsFinal f
  | none =>
    match newest? (reports es) with
    | some r => p.ShowsReport r
    | none => p.ShowsNothing

theorem reflects_start {job : JobId} {phase : JobPhase} (h : phase ≠ .terminal) (total : UInt64) :
    (start job phase total).Reflects [] :=
  (⟨h, rfl, rfl⟩ : (start job phase total).ShowsNothing)

theorem Reflects.expect {p : JobProgress} {es : List JobEvent} (h : p.Reflects es)
    (total : UInt64) : (p.expect total).Reflects es := by
  unfold JobProgress.expect
  split
  · -- only the number of items changes, and no event speaks of it
    unfold Reflects at *
    split at h
    · exact ⟨h.phase, h.running, h.completed, h.failed, h.skipped, h.current⟩
    · split at h
      · exact ⟨h.phase, h.running, h.current, h.completed, h.failed, h.skipped, h.lastSequence⟩
      · exact ⟨h.phase, h.skipped, h.lastSequence⟩
  · exact h

theorem showsFinal_finish (p : JobProgress) (r : FinalReport) (now : Int) :
    (p.finish r now).ShowsFinal r :=
  ⟨rfl, rfl, rfl, rfl, rfl, toNat_current_finish p r now⟩

theorem showsReport_advance {p : JobProgress} (h : p.skipped = 0) (r : ProgressReport) :
    (p.advance r).ShowsReport r :=
  ⟨rfl, rfl, rfl, rfl, rfl, h, rfl⟩

/-- A report is passed over after a final account and if its key is not greater than the one that
is shown. -/
theorem Reflects.follow {p : JobProgress} {es : List JobEvent} (h : p.Reflects es)
    (r : ProgressReport) : (p.follow r).Reflects (es ++ [.progress r]) := by
  unfold Reflects at *
  rw [finals_concat_progress, reports_concat_progress, newest?_concat]
  unfold JobProgress.follow
  cases hf : (finals es).getLast? with
  | some f =>
    simp only [hf] at h ⊢
    rw [if_pos h.phase]
    exact h
  | none =>
    simp only [hf] at h ⊢
    cases hc : newest? (reports es) with
    | none =>
      simp only [hc] at h ⊢
      have hnews : p.isNews r = true := (isNews_iff p r).2 fun last hlast => by
        rw [h.lastSequence] at hlast
        contradiction
      rw [if_neg h.phase, if_pos hnews]
      exact showsReport_advance h.skipped r
    | some c =>
      simp only [hc] at h ⊢
      have hnews : p.isNews r = true ↔ c.key < r.key := by
        rw [isNews_iff, h.lastSequence]
        simp
      rw [if_neg (by rw [h.phase]; decide)]
      simp only [hnews]
      split
      · exact showsReport_advance h.skipped r
      · exact h

/-- **One more event is reflected at once**, also if it is the first one of its job. -/
theorem Reflects.afterEvent {shown : Option JobProgress} {es : List JobEvent}
    (h : ∀ p, shown = some p → p.Reflects es) (hnone : shown = none → es = []) (now : Int)
    (e : JobEvent) : (afterEvent shown now e).Reflects (es ++ [e]) := by
  cases e with
  | progress r =>
    refine Reflects.follow ?_ r
    cases shown with
    | none =>
      rw [hnone rfl]
      exact reflects_start (by decide) r.total
    | some p => exact h p rfl
  | finished r =>
    unfold Reflects
    rw [finals_concat_finished, List.getLast?_concat]
    exact showsFinal_finish _ r now

/-- What of a job does not depend on the order of its events. -/
def standing (p : JobProgress) : JobPhase × Bool × UInt64 × UInt64 × UInt64 × UInt64 :=
  (p.phase, p.running, p.current, p.completed, p.failed, p.skipped)

theorem ShowsFinal.standing_eq {p p' : JobProgress} {f : FinalReport} (h : p.ShowsFinal f)
    (h' : p'.ShowsFinal f) : p'.standing = p.standing := by
  have hcurrent : p'.current = p.current := UInt64.toNat_inj.1 (h'.current.trans h.current.symm)
  simp only [standing, hcurrent, h.phase, h'.phase, h.running, h'.running, h.completed,
    h'.completed, h.failed, h'.failed, h.skipped, h'.skipped]

theorem ShowsReport.standing_eq {p p' : JobProgress} {r : ProgressReport} (h : p.ShowsReport r)
    (h' : p'.ShowsReport r) : p'.standing = p.standing := by
  simp only [standing, h.phase, h'.phase, h.running, h'.running, h.current, h'.current,
    h.completed, h'.completed, h.failed, h'.failed, h.skipped, h'.skipped]

/-- **The order of the events does not matter** if no two reports have one key and there is at most
one final account. -/
theorem Reflects.standing_eq {p p' : JobProgress} {es es' : List JobEvent} (h : p.Reflects es)
    (h' : p'.Reflects es') (hperm : es'.Perm es) (hes : es ≠ [])
    (hkeys : ((reports es).map (·.key)).Nodup) (hfinals : (finals es).length ≤ 1) :
    p'.standing = p.standing := by
  have hfinals' : finals es' = finals es := by
    have hf : (finals es').Perm (finals es) := hperm.filterMap _
    match hc : finals es with
    | [] => rw [hc] at hf; exact hf.eq_nil
    | [f] => rw [hc] at hf; exact hf.eq_singleton
    | _ :: _ :: _ => rw [hc] at hfinals; simp at hfinals
  have hnewest : newest? (reports es') = newest? (reports es) :=
    newest?_of_perm (hperm.filterMap _) hkeys
  unfold Reflects at h h'
  rw [hfinals', hnewest] at h'
  cases hf : (finals es).getLast? with
  | some f =>
    simp only [hf] at h h'
    exact h.standing_eq h'
  | none =>
    simp only [hf] at h h'
    cases hc : newest? (reports es) with
    | some r =>
      simp only [hc] at h h'
      exact h.standing_eq h'
    | none =>
      exact absurd (eq_nil_of_reports_finals (newest?_eq_none_iff.1 hc)
        (List.getLast?_eq_none_iff.1 hf)) hes

end JobProgress

/-! ### The board as the events say -/

namespace Board

open JobProgress

/-- The board shows a job as its events say.  A job of which an event has come is shown. -/
structure Follows (b : Board) (job : JobId) (es : List JobEvent) : Prop where
  free : job ∉ b.retired
  reflects : ∀ p, b.get? job = some p → p.Reflects es
  shown : b.get? job = none → es = []

theorem follows_nil {b : Board} {job : JobId} (h : b.get? job = none) (hfree : job ∉ b.retired) :
    b.Follows job [] where
  free := hfree
  reflects p hp := by rw [h] at hp; contradiction
  shown _ := rfl

theorem Follows.dispatch {b : Board} {job : JobId} {es : List JobEvent} (h : b.Follows job es)
    (other : JobId) (total : UInt64) : (b.dispatch other total).Follows job es where
  free hmem := h.free (List.mem_filter.1 hmem).1
  reflects p hp := by
    rw [get?_dispatch] at hp
    split at hp
    · rw [← Option.some.inj hp]
      refine Reflects.expect ?_ total
      cases hq : b.get? job with
      | none =>
        rw [h.shown hq]
        exact reflects_start (by decide) total
      | some q => exact h.reflects q hq
    · exact h.reflects p hp
  shown hnone := by
    rw [get?_dispatch] at hnone
    split at hnone
    · contradiction
    · exact h.shown hnone

theorem Follows.apply {b : Board} {job : JobId} {es : List JobEvent} (h : b.Follows job es)
    (e : JobEvent) (now : Int) :
    (b.apply e now).2.Follows job (es ++ ((Message.event e now).eventOf? job).toList) := by
  have hget := get?_apply b e now job
  by_cases hjob : e.job = job
  · rw [if_pos ⟨hjob, h.free⟩] at hget
    rw [Message.eventOf?, if_pos hjob]
    refine ⟨by rw [retired_apply]; exact h.free, fun p hp => ?_, fun hnone => ?_⟩
    · rw [hget] at hp
      rw [← Option.some.inj hp]
      exact Reflects.afterEvent h.reflects h.shown now e
    · rw [hget] at hnone
      contradiction
  · -- an event of another job
    rw [if_neg fun hand => hjob hand.1] at hget
    rw [Message.eventOf?, if_neg hjob, Option.toList_none, List.append_nil]
    exact ⟨by rw [retired_apply]; exact h.free, by rw [hget]; exact h.reflects,
      by rw [hget]; exact h.shown⟩

theorem Follows.receive {b : Board} {job : JobId} {es : List JobEvent} (h : b.Follows job es)
    (m : Message) : (b.receive m).Follows job (es ++ (m.eventOf? job).toList) := by
  cases m with
  | accepted other total =>
    rw [Message.eventOf?, Option.toList_none, List.append_nil]
    exact h.dispatch other total
  | event e now => exact h.apply e now

/-- **The board reflects any messages.** -/
theorem Follows.receiveAll {job : JobId} (ms : List Message) :
    ∀ {b : Board} {es : List JobEvent}, b.Follows job es →
      (b.receiveAll ms).Follows job (es ++ eventsOf job ms) := by
  induction ms with
  | nil => intro b es h; rw [eventsOf_nil, List.append_nil]; exact h
  | cons m ms ih =>
    intro b es h
    rw [eventsOf_cons, ← List.append_assoc]
    exact ih (h.receive m)

/-- **What a job is shown as after any messages**, of which some are events of it.  The last final
account decides, whatever comes before and after it.  Without one it is the newest report: those
before it have smaller keys, and none after it has a greater one.  So the order of the events does
not matter if the keys of the reports differ and there is at most one final account. -/
theorem outcome_of_messages {b : Board} {job : JobId} (hidle : b.get? job = none)
    (hfree : job ∉ b.retired) {ms : List Message} (hevents : eventsOf job ms ≠ []) :
    (∃ p, (b.receiveAll ms).get? job = some p ∧
      (∀ f, (finals (eventsOf job ms)).getLast? = some f → p.ShowsFinal f) ∧
      (finals (eventsOf job ms) = [] →
        ∃ before r after, reports (eventsOf job ms) = before ++ r :: after ∧
          (∀ q ∈ before, q.key < r.key) ∧ (∀ q ∈ after, q.key ≤ r.key) ∧ p.ShowsReport r)) ∧
    ∀ ms', (eventsOf job ms').Perm (eventsOf job ms) →
      ((reports (eventsOf job ms)).map (·.key)).Nodup → (finals (eventsOf job ms)).length ≤ 1 →
      ((b.receiveAll ms').get? job).map standing = ((b.receiveAll ms).get? job).map standing := by
  have hstart := follows_nil hidle hfree
  -- a job of which events have come is shown, and as they say
  have hshown : ∀ {ms}, eventsOf job ms ≠ [] →
      ∃ p, (b.receiveAll ms).get? job = some p ∧ p.Reflects (eventsOf job ms) := by
    intro ms hevents
    have h := hstart.receiveAll ms
    rw [List.nil_append] at h
    cases hp : (b.receiveAll ms).get? job with
    | none => exact absurd (h.shown hp) hevents
    | some p => exact ⟨p, rfl, h.reflects p hp⟩
  obtain ⟨p, hp, hreflects⟩ := hshown hevents
  refine ⟨⟨p, hp, fun f hf => ?_, fun hf => ?_⟩, fun ms' hperm hkeys hfinals => ?_⟩
  · unfold Reflects at hreflects
    simpa only [hf] using hreflects
  · unfold Reflects at hreflects
    rw [hf] at hreflects
    cases hc : newest? (reports (eventsOf job ms)) with
    | none => exact absurd (eq_nil_of_reports_finals (newest?_eq_none_iff.1 hc) hf) hevents
    | some r =>
      obtain ⟨before, after, happend, hbefore, hafter⟩ := exists_append_of_newest? hc
      exact ⟨before, r, after, happend, hbefore, hafter, by
        simpa only [List.getLast?_nil, hc] using hreflects⟩
  · have hevents' : eventsOf job ms' ≠ [] := fun hnil => hevents (by
      rw [hnil] at hperm
      exact hperm.nil_eq.symm)
    obtain ⟨p', hp', hreflects'⟩ := hshown hevents'
    rw [hp, hp', Option.map_some, Option.map_some,
      hreflects.standing_eq hreflects' hperm hevents hkeys hfinals]

/-- A job that is accepted late and finishes before its last report comes, among events of another
job; and the same messages backwards. -/
theorem outcome_of_messages_reversed :
    let job : JobId := .ofNat 1
    let ms : List Message := [.event (.progress ⟨job, some 5, 6, 10, 6, 0⟩) 1, .accepted job 12,
      .event (.progress ⟨.ofNat 2, none, 9, 9, 9, 0⟩) 2, .event (.finished ⟨job, 7, 2, 1⟩) 3,
      .event (.progress ⟨job, none, 4, 10, 4, 0⟩) 4]
    empty.get? job = none ∧ job ∉ empty.retired ∧ eventsOf job ms ≠ [] ∧
      (∃ p, (empty.receiveAll ms).get? job = some p ∧ p.ShowsFinal ⟨job, 7, 2, 1⟩) ∧
      ((empty.receiveAll ms.reverse).get? job).map standing =
        ((empty.receiveAll ms).get? job).map standing := by
  intro job ms
  have hevents : eventsOf job ms ≠ [] := by decide
  obtain ⟨⟨p, hp, hfinal, -⟩, horder⟩ :=
    outcome_of_messages (b := empty) rfl (by decide) hevents
  refine ⟨rfl, by decide, hevents, ⟨p, hp, hfinal _ (by decide)⟩, ?_⟩
  exact horder ms.reverse ((List.reverse_perm ms).filterMap _) (by decide) (by decide)

end Board

end SubtitleCoverage
