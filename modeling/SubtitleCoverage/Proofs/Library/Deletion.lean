import SubtitleCoverage.Proofs.Coverage.Removal
import SubtitleCoverage.Proofs.Library.Operations

/-!
# A deletion that the backend confirms

A view keeps a sidecar until the backend has deleted it.  Then the sidecars of the unit with that path are
gone from the view, and the coverage of the unit is that of the sidecars left: where the deleted file was
behind a language, the next one that fits moves up.  Nothing else that the view shows is different.

## Main definitions

* `LibraryView.withoutSidecar` — a view after a deletion.

## Main results

* `LibraryView.ends_deleteSidecar_confirmed_iff` — what a confirmed deletion comes to.
* `LibraryView.deletion_promotes_next_sidecar` — **a deletion promotes the next sidecar and changes nothing
  else.**
-/

namespace SubtitleCoverage

open Dialogue

namespace LibraryView

/-- A view without the sidecars of a unit that have a path, with a notice about it. -/
def withoutSidecar (v : LibraryView) (id : MediaUnitId) (path : String) : LibraryView :=
  { v with
    sidecars := match v.sidecars.get? id with
      | some ss => v.sidecars.insert id (ss.filter fun s => s.path ≠ path)
      | none => v.sidecars }.notify (.info ("Deleted " ++ path))

variable (v : LibraryView) (id : MediaUnitId) (path : String)

/-- The sidecars of each unit, if they are known. -/
theorem get?_sidecars_withoutSidecar (other : MediaUnitId) :
    (v.withoutSidecar id path).sidecars.get? other =
      if id = other then (v.sidecars.get? other).map fun ss => ss.filter (·.path ≠ path)
      else v.sidecars.get? other := by
  cases hid : v.sidecars.get? id with
  | none =>
    have hsidecars : (v.withoutSidecar id path).sidecars = v.sidecars := by
      simp only [withoutSidecar, notify, hid]
    rw [hsidecars]
    split
    · next heq => rw [← heq, hid, Option.map_none]
    · rfl
  | some ss =>
    have hsidecars : (v.withoutSidecar id path).sidecars =
        v.sidecars.insert id (ss.filter (·.path ≠ path)) := by
      simp only [withoutSidecar, notify, hid]
    rw [hsidecars, OrderedMap.get?_insert]
    split
    · next heq => rw [← heq, hid, Option.map_some]
    · rfl

theorem sidecarsOf_withoutSidecar :
    (v.withoutSidecar id path).sidecarsOf id = (v.sidecarsOf id).filter (·.path ≠ path) := by
  rw [sidecarsOf, get?_sidecars_withoutSidecar, if_pos rfl, sidecarsOf]
  cases v.sidecars.get? id with
  | none => rfl
  | some ss => rfl

/-- **What a deletion comes to that the backend confirms.** -/
theorem ends_deleteSidecar_confirmed_iff {out : Except Fault Unit × LibraryView} :
    Ends (v.deleteSidecar id path) [⟨.deleteSidecar path, .ok ()⟩] out ↔
      out = (.ok (), v.withoutSidecar id path) := by
  constructor
  · intro h
    obtain ⟨answer, hexchange, ⟨f, rfl, -⟩ | ⟨-, rfl⟩⟩ := ends_deleteSidecar h
    · cases hexchange
    · rfl
  · rintro rfl
    exact .ask (.done _)

/-- **A deletion promotes the next sidecar and changes nothing else.**  When the backend has confirmed that
it has deleted a path, the view has the sidecars of the unit without those of the path, and one notice
more; the sidecars of all other units, the units, the query and the rest of the view are as before, and so
is what the view shares with others, in particular what is selected.  Then the coverage of the unit does
not mention the path.  Every language has the state and the form that it had; if the path was behind it,
the first sidecar left that fits is now, and does not repeat another one any more; if another path was, it
still is.  The coverage of other units has not changed. -/
theorem deletion_promotes_next_sidecar (w : Workspace) (id : MediaUnitId) (path : String) :
    ∃ v', (∀ out, Ends (w.view.deleteSidecar id path) [⟨.deleteSidecar path, .ok ()⟩] out ↔
        out = (.ok (), v')) ∧
      (∀ w', Ends ((Operation.deleteSidecar id path).perform w) [⟨.deleteSidecar path, .ok ()⟩] w' ↔
        w' = { w with view := v' }) ∧
      v' = { w.view with
        sidecars := v'.sidecars, notices := w.view.notices ++ [.info ("Deleted " ++ path)] } ∧
      v'.sidecarsOf id = (w.view.sidecarsOf id).filter (·.path ≠ path) ∧
      (∀ other ≠ id, v'.sidecars.get? other = w.view.sidecars.get? other) ∧
      (∀ u : MediaUnit, u.id = id → ¬(v'.coverage u).Mentions path ∧
        (w.view.coverage u).Removed path (v'.sidecarsOf id) (v'.coverage u)) ∧
      ∀ u : MediaUnit, u.id ≠ id → v'.coverage u = w.view.coverage u := by
  have hleft := w.view.sidecarsOf_withoutSidecar id path
  have hother : ∀ other ≠ id,
      (w.view.withoutSidecar id path).sidecars.get? other = w.view.sidecars.get? other := by
    intro other hne
    rw [get?_sidecars_withoutSidecar, if_neg hne.symm]
  have hprofile : (w.view.withoutSidecar id path).profile = w.view.profile := rfl
  refine ⟨w.view.withoutSidecar id path, fun out => w.view.ends_deleteSidecar_confirmed_iff id path,
    fun w' => ?_, rfl, hleft, hother, ?_, ?_⟩
  · refine ends_map_iff.trans ?_
    simp only [ends_deleteSidecar_confirmed_iff, exists_eq_left]
  · rintro u rfl
    rw [hleft, coverage, coverage, hprofile, hleft]
    cases w.view.profile with
    | none => exact ⟨by simp [Resolution.Mentions], .nil, rfl, .slnil⟩
    | some p => exact (resolve_removed u (w.view.sidecarsOf u.id) p path).symm
  · intro u hu
    rw [coverage, coverage, hprofile, sidecarsOf, sidecarsOf, hother u.id hu]

end LibraryView

end SubtitleCoverage
