import Mathlib.Data.List.Basic
import SubtitleCoverage.Proofs.Library.FailedChanges
import SubtitleCoverage.Proofs.Library.Payloads

/-!
# The status of several units

The status of the rows that are selected is changed by one call for each of them, and each call shows
its change in advance and takes it back if it fails.  Ids can be repeated, in the list and among those
that are selected, so that the calls for an id meet at its first unit.  A call that fails leaves the
status that it has found, which may be the new one already: in the end the first unit with an id has the
new status if one of the calls for the id has succeeded, in whatever order they came.

## Main definitions

* `StatusAnswer` — an id with the answer to the call for it.
* `Granted answers id` — one of the calls for an id has succeeded.
* `MediaUnit.settle` — a unit after some answers.
* `LibraryView.takeStatusAnswer` — a view after the answer to a call.

## Main results

* `getElem?_modifyFirst` — what a change of the first member does at each place.
* `ends_setStatus_iff`, `ends_setStatuses_iff` — one call, and a run of calls as a fold of answers.
* `units_takeStatusAnswers`, `notices_takeStatusAnswers` — what the answers leave.
* `bulk_status_by_answers` — **a change of all selected rows succeeds or is taken back unit by unit.**
-/

namespace SubtitleCoverage

open Dialogue

/-- What a change of the first member with a property does at each place. -/
theorem getElem?_modifyFirst {α : Type} (p : α → Bool) (f : α → α) (l : List α) : ∀ i : Nat,
    (modifyFirst p f l)[i]? = l[i]?.map fun a => if p a = true ∧ ∀ b ∈ l.take i, p b = false then f a
      else a := by
  induction l with
  | nil => intro i; rfl
  | cons a l ih =>
    intro i
    rw [modifyFirst]
    cases hp : p a with
    | true =>
      cases i with
      | zero => simp [hp]
      | succ i => simp [hp]
    | false =>
      cases i with
      | zero => simp [hp]
      | succ i => simp [hp, ih]

/-! ### Answers -/

/-- The id of a unit whose status was to be changed, with the answer to the call. -/
abbrev StatusAnswer := MediaUnitId × Except Fault Unit

namespace StatusAnswer

/-- The call, with the answer to it. -/
def asked (status : MediaStatus) (e : StatusAnswer) : (c : Call) × c.Outcome :=
  ⟨.setStatus e.1 status, e.2⟩

/-- What the user is told about a call that has failed. -/
def complaint? (status : MediaStatus) (e : StatusAnswer) : Option Notice :=
  match e.2 with
  | .ok () => none
  | .error f => some (.error ((Mutation.setStatus e.1 status).complaint ++ f.message))

end StatusAnswer

/-- One of the calls for an id has succeeded. -/
def Granted (answers : List StatusAnswer) (id : MediaUnitId) : Prop :=
  ∃ e ∈ answers, e.1 = id ∧ e.2.isOk = true

instance (answers : List StatusAnswer) (id : MediaUnitId) : Decidable (Granted answers id) :=
  inferInstanceAs (Decidable (∃ e ∈ answers, _))

theorem granted_singleton {e : StatusAnswer} {id : MediaUnitId} :
    Granted [e] id ↔ e.1 = id ∧ e.2.isOk = true := by
  rw [Granted]
  simp only [List.mem_singleton, exists_eq_left]

theorem granted_cons {e : StatusAnswer} {answers : List StatusAnswer} {id : MediaUnitId} :
    Granted (e :: answers) id ↔ Granted [e] id ∨ Granted answers id := by
  rw [granted_singleton]
  exact List.exists_mem_cons_iff ..

namespace MediaUnit

variable {status : MediaStatus} {answers : List StatusAnswer} {before : List MediaUnit} {u : MediaUnit}

/-- A unit after some answers, with other units in front of it in the list.  The first unit with an id
has the new status if one of the calls for the id has succeeded, and no other unit changes. -/
def settle (status : MediaStatus) (answers : List StatusAnswer) (before : List MediaUnit)
    (u : MediaUnit) : MediaUnit :=
  { u with status :=
      if u.id ∉ before.map (·.id) ∧ Granted answers u.id then status else u.status }

theorem settle_of_granted (hfirst : u.id ∉ before.map (·.id)) (h : Granted answers u.id) :
    u.settle status answers before = { u with status } := by
  rw [settle, if_pos ⟨hfirst, h⟩]

theorem settle_of_not_granted (h : ¬Granted answers u.id) : u.settle status answers before = u := by
  rw [settle, if_neg fun hboth => h hboth.2]

/-- Only the first unit with an id changes. -/
theorem settle_of_mem (h : u.id ∈ before.map (·.id)) : u.settle status answers before = u := by
  rw [settle, if_neg fun hboth => hboth.1 h]

/-- Of the units in front only the ids matter. -/
theorem settle_congr {before' : List MediaUnit} (h : before.map (·.id) = before'.map (·.id)) :
    u.settle status answers before = u.settle status answers before' := by
  rw [settle, settle, h]

/-- The answers are settled one after the other. -/
theorem settle_settle (status : MediaStatus) (e : StatusAnswer) (answers : List StatusAnswer)
    (before : List MediaUnit) (u : MediaUnit) :
    (u.settle status [e] before).settle status answers before =
      u.settle status (e :: answers) before := by
  by_cases hfirst : u.id ∈ before.map (·.id)
  · rw [settle_of_mem hfirst, settle_of_mem hfirst, settle_of_mem hfirst]
  · by_cases he : Granted [e] u.id
    · -- the status is the new one already, whatever the later answers are
      have hall : Granted (e :: answers) u.id := granted_cons.2 (.inl he)
      rw [settle_of_granted hfirst he, settle_of_granted hfirst hall, settle, ite_self]
    · have hlater : Granted (e :: answers) u.id ↔ Granted answers u.id := by
        rw [granted_cons]
        exact or_iff_right he
      rw [settle_of_not_granted he]
      simp only [settle, hlater]

end MediaUnit

namespace LibraryView

variable {v : LibraryView} {status : MediaStatus} {exchange : List ((c : Call) × c.Outcome)}

/-- A view after the answer to the call for a unit: the change of its status is shown, or the user is
told why there is none. -/
def takeStatusAnswer (status : MediaStatus) (v : LibraryView) (e : StatusAnswer) : LibraryView :=
  match e.2 with
  | .ok () => v.markStatus e.1 status
  | .error f => v.notify (.error ((Mutation.setStatus e.1 status).complaint ++ f.message))

/-! ### The calls -/

/-- **The status of a unit that is loaded is changed by one call**, and is taken back if that fails. -/
theorem ends_setStatus_iff {id : MediaUnitId} (h : id ∈ v.units.map (·.id))
    {out : Except Fault Unit × LibraryView} :
    Ends (v.setStatus id status) exchange out ↔
      ∃ answer, exchange = [StatusAnswer.asked status (id, answer)] ∧
        out = (answer, v.takeStatusAnswer status (id, answer)) := by
  obtain ⟨u, hu⟩ := Option.ne_none_iff_exists'.1 (mt (v.find?_eq_none_iff id).1 (not_not_intro h))
  constructor
  · intro hends
    rcases ends_setStatus hends with ⟨hnone, -⟩ | ⟨u', answer, hu', rfl, hanswer⟩
    · rw [hu] at hnone
      contradiction
    · refine ⟨answer, rfl, ?_⟩
      rcases hanswer with ⟨rfl, rfl⟩ | ⟨f, rfl, rfl⟩
      · rfl
      · rw [markStatus_markStatus hu']
        rfl
  · rintro ⟨answer, rfl, rfl⟩
    rw [setStatus, hu]
    refine ends_question_bind_iff.2 ⟨answer, [], rfl, ?_⟩
    cases answer with
    | ok _ => exact .done _
    | error f =>
      refine ends_done_iff.2 ⟨rfl, ?_⟩
      rw [markStatus_markStatus hu]
      rfl

theorem map_id_takeStatusAnswer (v : LibraryView) (status : MediaStatus) (e : StatusAnswer) :
    (v.takeStatusAnswer status e).units.map (·.id) = v.units.map (·.id) := by
  unfold takeStatusAnswer
  split
  · exact v.map_id_markStatus e.1 status
  · rfl

/-- **A run of calls is a fold of answers.**  The calls for units that are loaded can be answered in any
way; what they come to are the changes and the complaints of each answer after the other, and the
number of answers that are no failures. -/
theorem ends_setStatuses_iff (ids : List MediaUnitId) :
    ∀ {v : LibraryView} {exchange : List ((c : Call) × c.Outcome)} {out : Nat × LibraryView},
      ids ⊆ v.units.map (·.id) →
        (Ends (setStatuses status ids v) exchange out ↔
          ∃ answers : List StatusAnswer, answers.map (·.1) = ids ∧
            exchange = answers.map (StatusAnswer.asked status) ∧
            out = (answers.countP (·.2.isOk), answers.foldl (takeStatusAnswer status) v)) := by
  induction ids with
  | nil =>
    intro v exchange out _
    constructor
    · intro h
      obtain ⟨rfl, rfl⟩ := ends_done_iff.1 h
      exact ⟨[], rfl, rfl, rfl⟩
    · rintro ⟨answers, hids, rfl, rfl⟩
      obtain rfl := List.map_eq_nil_iff.1 hids
      exact .done _
  | cons id ids ih =>
    intro v exchange out hloaded
    obtain ⟨hid, hids⟩ := List.cons_subset.1 hloaded
    constructor
    · intro h
      obtain ⟨first, later, outcome, v', count, rfl, hfirst, hlater, hcount⟩ := ends_setStatuses_cons h
      obtain ⟨answer, rfl, houtcome⟩ := (ends_setStatus_iff hid).1 hfirst
      obtain ⟨rfl, rfl⟩ := Prod.mk.inj houtcome
      rw [← map_id_takeStatusAnswer v status (id, outcome)] at hids
      obtain ⟨answers, rfl, rfl, hout⟩ := (ih hids).1 hlater
      obtain ⟨rfl, hview⟩ := Prod.mk.inj hout
      refine ⟨(id, outcome) :: answers, rfl, rfl, Prod.ext ?_ hview⟩
      rw [hcount, List.countP_cons]
      cases outcome <;> rfl
    · rintro ⟨answers, hmap, rfl, rfl⟩
      obtain ⟨⟨id, answer⟩, answers, rfl, rfl, rfl⟩ := List.map_eq_cons_iff.1 hmap
      rw [← map_id_takeStatusAnswer v status (id, answer)] at hids
      have hfirst : Ends (v.setStatus id status) _ _ := (ends_setStatus_iff hid).2 ⟨answer, rfl, rfl⟩
      have hrest := (ih hids).2 ⟨answers, rfl, rfl, rfl⟩
      refine ends_bind.2 ⟨_, _, _, rfl, hfirst, ends_map_iff.2 ⟨_, hrest, ?_⟩⟩
      rw [List.countP_cons]
      cases answer <;> rfl

/-! ### What the answers leave -/

/-- What one answer leaves at each place. -/
theorem getElem?_units_takeStatusAnswer (v : LibraryView) (status : MediaStatus) (e : StatusAnswer)
    (i : Nat) :
    (v.takeStatusAnswer status e).units[i]? =
      v.units[i]?.map (·.settle status [e] (v.units.take i)) := by
  obtain ⟨id, answer⟩ := e
  cases answer with
  | ok _ =>
    rw [takeStatusAnswer, markStatus, getElem?_modifyFirst]
    congr 1
    funext u
    by_cases hid : u.id = id
    · subst hid
      have hgranted : Granted [(u.id, .ok ())] u.id := granted_singleton.2 ⟨rfl, rfl⟩
      by_cases hfirst : u.id ∈ (v.units.take i).map (·.id)
      · rw [MediaUnit.settle_of_mem hfirst, if_neg]
        rintro ⟨-, hnone⟩
        obtain ⟨w, hw, hwid⟩ := List.mem_map.1 hfirst
        exact of_decide_eq_false (hnone w hw) hwid
      · rw [MediaUnit.settle_of_granted hfirst hgranted, if_pos]
        refine ⟨decide_eq_true rfl, fun w hw => decide_eq_false fun hwid => ?_⟩
        exact hfirst (List.mem_map.2 ⟨w, hw, hwid⟩)
    · have hother : ¬Granted [(id, .ok ())] u.id := fun h => hid (granted_singleton.1 h).1.symm
      rw [MediaUnit.settle_of_not_granted hother, if_neg]
      exact fun h => hid (of_decide_eq_true h.1)
  | error f =>
    have hfailed (u : MediaUnit) : u.settle status [(id, .error f)] (v.units.take i) = u := by
      refine MediaUnit.settle_of_not_granted fun h => ?_
      exact Bool.false_ne_true (granted_singleton.1 h).2
    simp only [hfailed, Option.map_id']
    rfl

/-- **What the answers leave of the units**: the first unit with an id has the new status if one of the
calls for the id has succeeded. -/
theorem units_takeStatusAnswers (answers : List StatusAnswer) : ∀ v : LibraryView,
    (answers.foldl (takeStatusAnswer status) v).units =
      v.units.mapIdx fun i u => u.settle status answers (v.units.take i) := by
  induction answers with
  | nil =>
    intro v
    have hsame (u : MediaUnit) (i : Nat) : u.settle status [] (v.units.take i) = u :=
      MediaUnit.settle_of_not_granted fun ⟨_, he, _⟩ => List.not_mem_nil he
    refine List.ext_getElem? fun i => ?_
    simp only [List.foldl_nil, List.getElem?_mapIdx, hsame, Option.map_id']
  | cons e answers ih =>
    intro v
    refine List.ext_getElem? fun i => ?_
    rw [List.foldl_cons, ih, List.getElem?_mapIdx, List.getElem?_mapIdx,
      getElem?_units_takeStatusAnswer, Option.map_map]
    congr 1
    funext u
    -- the units in front have their ids still
    have hbefore : ((v.takeStatusAnswer status e).units.take i).map (·.id) =
        (v.units.take i).map (·.id) := by
      rw [List.map_take, map_id_takeStatusAnswer, ← List.map_take]
    exact (MediaUnit.settle_congr hbefore).trans (MediaUnit.settle_settle ..)

/-- **What the answers leave of the notices**: one more for each failure, in order. -/
theorem notices_takeStatusAnswers (answers : List StatusAnswer) : ∀ v : LibraryView,
    (answers.foldl (takeStatusAnswer status) v).notices =
      v.notices ++ answers.filterMap (StatusAnswer.complaint? status) := by
  induction answers with
  | nil => intro v; exact (List.append_nil _).symm
  | cons e answers ih =>
    intro v
    obtain ⟨id, answer⟩ := e
    rw [List.foldl_cons, ih]
    cases answer with
    | ok _ => rfl
    | error f => exact List.append_assoc ..

/-- **A change of all selected rows succeeds or is taken back unit by unit.**  There is one call for each
row that is shown as selected, in order, and the calls can be answered in any way.  In the end the first
unit with an id has the new status if one of the calls for the id has succeeded, no other unit and no
other field of a unit has changed, the answers that are no failures are counted, and there is one notice
more for each failure, in order.  Of the rest of the view only the page may have been gone back to the
last one.  Nothing that the view shares with others changes, in particular not what is selected. -/
theorem bulk_status_by_answers (w : Workspace) (status : MediaStatus)
    (exchange : List ((c : Call) × c.Outcome)) :
    (∀ out, Ends (w.view.setStatusSelected w.selection status) exchange out ↔
      ∃ answers : List StatusAnswer, answers.map (·.1) = (w.view.selectedVisible w.selection).2 ∧
        exchange = answers.map (StatusAnswer.asked status) ∧
        out.1 = answers.countP (·.2.isOk) ∧
        out.2 = { w.view.visible.1 with
          units := w.view.units.mapIdx fun i u => u.settle status answers (w.view.units.take i)
          notices := w.view.notices ++ answers.filterMap (StatusAnswer.complaint? status) }) ∧
    ∀ w', Ends ((Operation.setStatusSelected status).perform w) exchange w' ↔
      ∃ out, Ends (w.view.setStatusSelected w.selection status) exchange out ∧
        w' = ⟨out.2, w.selection, w.board⟩ := by
  refine ⟨fun out => ?_, fun w' => ends_map_iff⟩
  have hloaded : (w.view.selectedVisible w.selection).2 ⊆
      (w.view.selectedVisible w.selection).1.units.map (·.id) := by
    rw [selectedVisible_eq_shownSelected]
    exact w.view.shownSelected_subset w.selection
  rw [setStatusSelected, ends_setStatuses_iff _ hloaded]
  refine exists_congr fun answers => and_congr_right fun hids => and_congr_right fun _ => ?_
  have hview : answers.foldl (takeStatusAnswer status) (w.view.selectedVisible w.selection).1 =
      { w.view.visible.1 with
        units := w.view.units.mapIdx fun i u => u.settle status answers (w.view.units.take i)
        notices := w.view.notices ++ answers.filterMap (StatusAnswer.complaint? status) } := by
    have hends : Ends (setStatuses status _ _) _ _ :=
      (ends_setStatuses_iff _ hloaded).2 ⟨answers, hids, rfl, rfl⟩
    refine (frame_of_ends_setStatuses _ hends).trans ?_
    simp only [units_takeStatusAnswers, notices_takeStatusAnswers]
    rfl
  rw [hview, Prod.ext_iff]

/-- The calls for a repeated id fail and succeed, and another call fails. -/
example :
    let u (id : Int64) : MediaUnit := { id := ⟨id⟩, title := "" }
    let units := [u 1, u 2, u 1]
    let answers : List StatusAnswer :=
      [(⟨1⟩, .error (.channel "down")), (⟨2⟩, .error (.channel "down")), (⟨1⟩, .ok ())]
    (units.mapIdx fun i u => u.settle .excluded answers (units.take i)).map (·.status) =
      [.excluded, .monitored, .monitored] := by
  decide +kernel

end LibraryView

end SubtitleCoverage
