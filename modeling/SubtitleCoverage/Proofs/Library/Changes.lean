import SubtitleCoverage.Library.Change
import SubtitleCoverage.Proofs.Backend.Exchanges

/-!
# What a change does

Each change that a view asks for is taken apart into the answers that it can get.  Most are a single
call, and say by their notice what has come of it.

## Main results

* `markStatus_markStatus` — a change of status can be taken back.
* `ends_setStatus`, `ends_setStatuses_cons` — the status of one unit, and of several.
* `frame_of_ends_setStatuses` — what stays as it is then.
* `ends_deleteSidecar`, `ends_blacklist` — other changes.
* `ends_searchMissing`, `ends_startBatchSelected` — batch jobs.
-/

namespace SubtitleCoverage

open Dialogue

/-! ### The first member with a property -/

section

variable {α β : Type} {p : α → Bool} {f g : α → α}

/-- What a change leaves alone is the same for every member. -/
theorem map_modifyFirst {k : α → β} (h : ∀ a, k (f a) = k a) (l : List α) :
    (modifyFirst p f l).map k = l.map k := by
  induction l with
  | nil => rfl
  | cons a l ih =>
    rw [modifyFirst]
    split
    · rw [List.map_cons, List.map_cons, h]
    · rw [List.map_cons, List.map_cons, ih]

/-- A change of the first member is taken back, if that member is still the first one. -/
theorem modifyFirst_modifyFirst {l : List α} {a : α} (h : l.find? p = some a)
    (hp : p (f a) = true) (hback : g (f a) = a) : modifyFirst p g (modifyFirst p f l) = l := by
  induction l with
  | nil => contradiction
  | cons b l ih =>
    rw [List.find?_cons] at h
    cases hb : p b with
    | true =>
      rw [hb] at h
      obtain rfl := Option.some.inj h
      rw [modifyFirst, if_pos hb, modifyFirst, if_pos hp, hback]
    | false =>
      rw [hb] at h
      have hne : ¬p b = true := by simp [hb]
      rw [modifyFirst, if_neg hne, modifyFirst, if_neg hne, ih h]

end

namespace LibraryView

variable {v : LibraryView} {exchange : List ((c : Call) × c.Outcome)}

/-! ### Units and sidecars -/

/-- A change of status leaves the ids as they are. -/
@[simp] theorem map_id_markStatus (v : LibraryView) (id : MediaUnitId) (status : MediaStatus) :
    (v.markStatus id status).units.map (·.id) = v.units.map (·.id) :=
  map_modifyFirst (f := fun u => { u with status }) (fun _ => rfl) v.units

/-- **A change of status can be taken back**, also if several units have the id. -/
theorem markStatus_markStatus {id : MediaUnitId} {u : MediaUnit}
    (h : v.units.find? (fun u => u.id = id) = some u) (status : MediaStatus) :
    (v.markStatus id status).markStatus id u.status = v := by
  have hid : u.id = id := by simpa using List.find?_some h
  have hunits := modifyFirst_modifyFirst (f := fun u => { u with status })
    (g := fun w => { w with status := u.status }) h (decide_eq_true hid) rfl
  unfold markStatus
  rw [hunits]

theorem find?_eq_none_iff (v : LibraryView) (id : MediaUnitId) :
    v.units.find? (fun u => u.id = id) = none ↔ id ∉ v.units.map (·.id) := by
  simp [List.find?_eq_none]

theorem mem_map_id_of_find? {id : MediaUnitId} {u : MediaUnit}
    (h : v.units.find? (fun u => u.id = id) = some u) : id ∈ v.units.map (·.id) := by
  have hid : u.id = id := by simpa using List.find?_some h
  exact List.mem_map.2 ⟨u, List.mem_of_find?_eq_some h, hid⟩

/-- The status of a unit that is not loaded is not asked for.  Else it is one call, and the status is
as before if the call fails. -/
theorem ends_setStatus {id : MediaUnitId} {status : MediaStatus}
    {out : Except Fault Unit × LibraryView} (h : Ends (v.setStatus id status) exchange out) :
    (v.units.find? (fun u => u.id = id) = none ∧ exchange = [] ∧
      out = (.error (.notFound "media unit" id.text), v)) ∨
    ∃ u answer, v.units.find? (fun u => u.id = id) = some u ∧
      exchange = [⟨.setStatus id status, answer⟩] ∧
      ((answer = .ok () ∧ out = (.ok (), v.markStatus id status)) ∨
        ∃ f, answer = .error f ∧
          out = (.error f, ((v.markStatus id status).markStatus id u.status).notify (.error
            ("Could not set status to " ++ status.name ++ ": " ++ f.message)))) := by
  unfold setStatus at h
  split at h
  · next hnone =>
    obtain ⟨rfl, rfl⟩ := ends_done_iff.1 h
    exact .inl ⟨hnone, rfl, rfl⟩
  · next u hu =>
    obtain ⟨answer, rest, rfl, hrest⟩ := ends_question_bind_iff.1 h
    refine .inr ⟨u, answer, hu, ?_⟩
    cases answer with
    | ok _ =>
      obtain ⟨rfl, rfl⟩ := ends_done_iff.1 hrest
      exact ⟨rfl, .inl ⟨rfl, rfl⟩⟩
    | error f =>
      obtain ⟨rfl, rfl⟩ := ends_done_iff.1 hrest
      exact ⟨rfl, .inr ⟨f, rfl, rfl⟩⟩

/-- The status of several units is changed one after the other. -/
theorem ends_setStatuses_cons {status : MediaStatus} {id : MediaUnitId} {ids : List MediaUnitId}
    {out : Nat × LibraryView} (h : Ends (setStatuses status (id :: ids) v) exchange out) :
    ∃ first later outcome v' count, exchange = first ++ later ∧
      Ends (v.setStatus id status) first (outcome, v') ∧
      Ends (setStatuses status ids v') later (count, out.2) ∧
      out.1 = match outcome with
        | .ok () => count + 1
        | .error _ => count := by
  obtain ⟨first, later, ⟨outcome, v'⟩, rfl, hfirst, hlater⟩ := ends_bind.1 h
  obtain ⟨⟨count, w⟩, hrest, rfl⟩ := ends_map_iff.1 hlater
  exact ⟨first, later, outcome, v', count, rfl, hfirst, hrest, rfl⟩

/-- A change of status changes units, and may add a notice. -/
theorem frame_of_ends_setStatus {id : MediaUnitId} {status : MediaStatus}
    {out : Except Fault Unit × LibraryView} (h : Ends (v.setStatus id status) exchange out) :
    out.2 = { v with units := out.2.units, notices := out.2.notices } := by
  rcases ends_setStatus h with ⟨-, -, rfl⟩ | ⟨u, answer, -, -, ⟨-, rfl⟩ | ⟨f, -, rfl⟩⟩
  · rfl
  · rfl
  · rfl

/-- So do several. -/
theorem frame_of_ends_setStatuses {status : MediaStatus} (ids : List MediaUnitId) :
    ∀ {v : LibraryView} {exchange : List ((c : Call) × c.Outcome)} {out : Nat × LibraryView},
      Ends (setStatuses status ids v) exchange out →
        out.2 = { v with units := out.2.units, notices := out.2.notices } := by
  induction ids with
  | nil =>
    intro v exchange out h
    obtain ⟨-, rfl⟩ := ends_done_iff.1 h
    rfl
  | cons id ids ih =>
    intro v exchange out h
    obtain ⟨first, later, outcome, v', count, -, hfirst, hlater, -⟩ := ends_setStatuses_cons h
    have hframe : v' = { v with units := v'.units, notices := v'.notices } :=
      frame_of_ends_setStatus hfirst
    rw [ih hlater, hframe]

/-- A deletion is one call, and the sidecar is shown until it has succeeded. -/
theorem ends_deleteSidecar {id : MediaUnitId} {path : String} {out : Except Fault Unit × LibraryView}
    (h : Ends (v.deleteSidecar id path) exchange out) :
    ∃ answer, exchange = [⟨.deleteSidecar path, answer⟩] ∧
      ((∃ f, answer = .error f ∧ out = (.error f, v.notify
          (.error ("Could not delete " ++ path ++ ": " ++ f.message)))) ∨
        (answer = .ok () ∧ out = (.ok (), { v with
          sidecars := match v.sidecars.get? id with
            | some ss => v.sidecars.insert id (ss.filter fun s => s.path ≠ path)
            | none => v.sidecars }.notify (.info ("Deleted " ++ path))))) := by
  obtain ⟨answer, rest, rfl, hrest⟩ := ends_question_bind_iff.1 h
  refine ⟨answer, ?_⟩
  cases answer with
  | ok _ =>
    obtain ⟨rfl, rfl⟩ := ends_done_iff.1 hrest
    exact ⟨rfl, .inr ⟨rfl, rfl⟩⟩
  | error f =>
    obtain ⟨rfl, rfl⟩ := ends_done_iff.1 hrest
    exact ⟨rfl, .inl ⟨f, rfl, rfl⟩⟩

/-- An entry on the blacklist is one call, of which nothing is seen but the notice. -/
theorem ends_blacklist {entry : BlacklistEntry} {out : Except Fault Unit × LibraryView}
    (h : Ends (v.blacklist entry) exchange out) :
    ∃ answer, exchange = [⟨.blacklist entry, answer⟩] ∧
      ((∃ f, answer = .error f ∧ out = (.error f, v.notify
          (.error ("Could not blacklist subtitle: " ++ f.message)))) ∨
        (answer = .ok () ∧ out = (.ok (), v.notify (.info
          ("Blacklisted " ++ entry.providerName ++ " subtitle " ++ entry.subtitleId))))) := by
  obtain ⟨answer, rest, rfl, hrest⟩ := ends_question_bind_iff.1 h
  refine ⟨answer, ?_⟩
  cases answer with
  | ok _ =>
    obtain ⟨rfl, rfl⟩ := ends_done_iff.1 hrest
    exact ⟨rfl, .inr ⟨rfl, rfl⟩⟩
  | error f =>
    obtain ⟨rfl, rfl⟩ := ends_done_iff.1 hrest
    exact ⟨rfl, .inl ⟨f, rfl, rfl⟩⟩

/-! ### Batch jobs -/

/-- A search is refused without a profile, has nothing to do if nothing is missing, and is one call
else. -/
theorem ends_searchMissing {b : Board} {o : BatchOutcome} (h : Ends (v.searchMissing b) exchange o) :
    (v.profile = none ∧ exchange = [] ∧ o = ⟨.error (.validation .profileNotLoaded), v, b⟩) ∨
    (v.profile ≠ none ∧ v.missingItems = [] ∧ exchange = [] ∧
      o = ⟨.ok none, v.notify (.info "Nothing is missing"), b⟩) ∨
    (v.profile ≠ none ∧ v.missingItems ≠ [] ∧
      ∃ answer, exchange = [⟨.startLanguageBatch v.scope v.missingItems, answer⟩] ∧
        o = v.takeBatch b "search" answer) := by
  unfold searchMissing at h
  split at h
  · next hnone =>
    obtain ⟨rfl, rfl⟩ := ends_done_iff.1 h
    exact .inl ⟨Option.isNone_iff_eq_none.1 hnone, rfl, rfl⟩
  · next hprofile =>
    rw [Option.isNone_iff_eq_none] at hprofile
    split at h
    · next hnil =>
      obtain ⟨rfl, rfl⟩ := ends_done_iff.1 h
      exact .inr (.inl ⟨hprofile, hnil, rfl, rfl⟩)
    · next hitems =>
      obtain ⟨answer, rest, rfl, hrest⟩ := ends_question_bind_iff.1 h
      obtain ⟨rfl, rfl⟩ := ends_done_iff.1 hrest
      exact .inr (.inr ⟨hprofile, hitems, answer, rfl, rfl⟩)

/-- A batch for the units selected is one call, if there are some. -/
theorem ends_startBatchSelected {s : SelectionStore MediaUnitId} {b : Board} {o : BatchOutcome}
    (h : Ends (v.startBatchSelected s b) exchange o) :
    ((v.selectedVisible s).2 = [] ∧ exchange = [] ∧ o = ⟨.ok none, (v.selectedVisible s).1, b⟩) ∨
    ((v.selectedVisible s).2 ≠ [] ∧
      ∃ answer, exchange = [⟨.startBatch v.scope (some (v.selectedVisible s).2), answer⟩] ∧
        o = (v.selectedVisible s).1.takeBatch b "batch" answer) := by
  unfold startBatchSelected at h
  simp only at h
  split at h
  · next hnil =>
    obtain ⟨rfl, rfl⟩ := ends_done_iff.1 h
    exact .inl ⟨hnil, rfl, rfl⟩
  · next hids =>
    obtain ⟨answer, rest, rfl, hrest⟩ := ends_question_bind_iff.1 h
    obtain ⟨rfl, rfl⟩ := ends_done_iff.1 hrest
    exact .inr ⟨hids, answer, rfl, rfl⟩

end LibraryView

end SubtitleCoverage
