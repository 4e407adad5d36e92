import SubtitleCoverage.Proofs.Library.Changes
import SubtitleCoverage.Proofs.Library.Operations
import SubtitleCoverage.Proofs.Listing.Pages

/-!
# Changes that fail

A change is refused before anything is asked, or it is one call to the backend, or there is nothing to
ask.  A refusal leaves everything as it was.  After a call that fails the user is told, once, and
nothing else is different: a status that was shown in advance is taken back, and what is only done when
the backend has answered has not been done.

## Main definitions

* `Mutation`, `Mutation.perform` — the changes, and the faults that come of them.
* `Mutation.refusal?` — why a change is refused before anything is asked.
* `Mutation.complaint` — what the user is told about a change that has failed.
* `Mutation.Ending` — the ways in which a change can end.

## Main results

* `Mutation.ends_operation_iff` — the changes are operations on a view.
* `Mutation.ending_of_ends_perform` — a change ends in one of these ways.
* `failed_change_leaves_notice` — **a change that fails leaves no trace but a notice.**
-/

namespace SubtitleCoverage

open Dialogue

/-- A change that a view asks the backend for. -/
inductive Mutation where
  | setStatus (id : MediaUnitId) (status : MediaStatus)
  | deleteSidecar (id : MediaUnitId) (path : String)
  | blacklist (entry : BlacklistEntry)
  | searchMissing
  | startBatchSelected

/-- The fault that something has come to, if it has. -/
def faultOf? {α : Type} : Except Fault α → Option Fault
  | .ok _ => none
  | .error f => some f

namespace Mutation

/-- What comes of a change: a fault, if it is answered with one, and what it leaves. -/
def perform : Mutation → Workspace → Inquiry (Option Fault × Workspace)
  | .setStatus id status, w => do
    let out ← w.view.setStatus id status
    return (faultOf? out.1, { w with view := out.2 })
  | .deleteSidecar id path, w => do
    let out ← w.view.deleteSidecar id path
    return (faultOf? out.1, { w with view := out.2 })
  | .blacklist entry, w => do
    let out ← w.view.blacklist entry
    return (faultOf? out.1, { w with view := out.2 })
  | .searchMissing, w => do
    let o ← w.view.searchMissing w.board
    return (faultOf? o.result, { w with view := o.view, board := o.board })
  | .startBatchSelected, w => do
    let o ← w.view.startBatchSelected w.selection w.board
    return (faultOf? o.result, { w with view := o.view, board := o.board })

/-- The operation that a change is. -/
def operation : Mutation → Operation
  | .setStatus id status => .setStatus id status
  | .deleteSidecar id path => .deleteSidecar id path
  | .blacklist entry => .blacklist entry
  | .searchMissing => .searchMissing
  | .startBatchSelected => .startBatchSelected

/-- The fault with which a change is refused before anything is asked: there is no such unit, or no
profile. -/
def refusal? (v : LibraryView) : Mutation → Option Fault
  | .setStatus id _ =>
    if id ∈ v.units.map (·.id) then none else some (.notFound "media unit" id.text)
  | .searchMissing => if v.profile.isNone then some (.validation .profileNotLoaded) else none
  | .deleteSidecar .. | .blacklist _ | .startBatchSelected => none

/-- What the user is told about a change that has failed, before the message of its fault. -/
def complaint : Mutation → String
  | .setStatus _ status => "Could not set status to " ++ status.name ++ ": "
  | .deleteSidecar _ path => "Could not delete " ++ path ++ ": "
  | .blacklist _ => "Could not blacklist subtitle: "
  | .searchMissing => "Could not start " ++ "search" ++ ": "
  | .startBatchSelected => "Could not start " ++ "batch" ++ ": "

variable {m : Mutation} {w w' : Workspace} {exchange : List ((c : Call) × c.Outcome)}

/-- **The changes are operations on a view.** -/
theorem ends_operation_iff :
    Ends (m.operation.perform w) exchange w' ↔
      ∃ fault, Ends (m.perform w) exchange (fault, w') := by
  -- both ask the same, and differ by what they keep of the outcome
  have drop {α : Type} {d : Inquiry α} {fault : α → Option Fault} {after : α → Workspace} :
      Ends (d >>= fun out => .done (after out)) exchange w' ↔
        ∃ found, Ends (d >>= fun out => .done (fault out, after out)) exchange (found, w') := by
    simp only [ends_map_iff, Prod.mk.injEq]
    constructor
    · rintro ⟨out, hends, rfl⟩
      exact ⟨_, out, hends, rfl, rfl⟩
    · rintro ⟨_, out, hends, -, rfl⟩
      exact ⟨out, hends, rfl⟩
  cases m with
  | setStatus _ _ | deleteSidecar _ _ | blacklist _ | searchMissing | startBatchSelected =>
    exact drop

end Mutation

/-- A page is the one that it was, or the list does not have it and the last page has been gone back
to. -/
def LibraryView.KeepsPage (v : LibraryView) (p : Paginator) : Prop :=
  p = v.paginator ∨ (¬v.paginator.InRange v.length ∧ p = v.paginator.clamp v.length)

theorem LibraryView.keepsPage_clampPage (v : LibraryView) : v.KeepsPage v.clampPage.paginator := by
  by_cases h : v.paginator.InRange v.length
  · exact .inl (Paginator.clamp_of_inRange h)
  · exact .inr ⟨h, rfl⟩

/-- A workspace in which the user has been told of a failure, and nothing else is different but the
page. -/
def Workspace.withComplaint (w : Workspace) (message : String) (p : Paginator) : Workspace :=
  { w with view := { w.view with paginator := p, notices := w.view.notices ++ [.error message] } }

namespace Mutation

variable {m : Mutation} {w : Workspace} {exchange : List ((c : Call) × c.Outcome)}
  {out : Option Fault × Workspace}

/-- The ways in which a change can end: it is refused, or no fault comes of it, or the only call that it
makes fails. -/
inductive Ending (m : Mutation) (w : Workspace) :
    List ((c : Call) × c.Outcome) → Option Fault × Workspace → Prop where
  | refused {f : Fault} (h : m.refusal? w.view = some f) : Ending m w [] (some f, w)
  | accepted {exchange : List ((c : Call) × c.Outcome)} {w' : Workspace}
    (h : m.refusal? w.view = none) (hok : ∀ c f, ⟨c, .error f⟩ ∉ exchange) :
    Ending m w exchange (none, w')
  | failed {c : Call} {f : Fault} {p : Paginator} (h : m.refusal? w.view = none)
    (hpage : w.view.KeepsPage p) :
    Ending m w [⟨c, .error f⟩] (some f, w.withComplaint (m.complaint ++ f.message) p)

/-- The only call has not failed. -/
theorem error_not_mem_ok {c : Call} {a : c.Answer} (d : Call) (f : Fault) :
    (⟨d, .error f⟩ : (c : Call) × c.Outcome) ∉ [⟨c, .ok a⟩] := by
  intro h
  cases List.mem_singleton.1 h

/-- **A change ends in one of these ways.** -/
theorem ending_of_ends_perform (h : Ends (m.perform w) exchange out) : m.Ending w exchange out := by
  cases m with
  | setStatus id status =>
    obtain ⟨out, hout, rfl⟩ := ends_map_iff.1 h
    rcases LibraryView.ends_setStatus hout with
      ⟨hnone, rfl, rfl⟩ | ⟨u, answer, hu, rfl, ⟨rfl, rfl⟩ | ⟨f, rfl, rfl⟩⟩
    · exact .refused (if_neg ((w.view.find?_eq_none_iff id).1 hnone))
    · exact .accepted (if_pos (w.view.mem_map_id_of_find? hu)) error_not_mem_ok
    · -- the status shown in advance is taken back
      rw [LibraryView.markStatus_markStatus hu]
      exact .failed (if_pos (w.view.mem_map_id_of_find? hu)) (.inl rfl)
  | deleteSidecar id path =>
    obtain ⟨out, hout, rfl⟩ := ends_map_iff.1 h
    obtain ⟨answer, rfl, ⟨f, rfl, rfl⟩ | ⟨rfl, rfl⟩⟩ := LibraryView.ends_deleteSidecar hout
    · exact .failed rfl (.inl rfl)
    · exact .accepted rfl error_not_mem_ok
  | blacklist entry =>
    obtain ⟨out, hout, rfl⟩ := ends_map_iff.1 h
    obtain ⟨answer, rfl, ⟨f, rfl, rfl⟩ | ⟨rfl, rfl⟩⟩ := LibraryView.ends_blacklist hout
    · exact .failed rfl (.inl rfl)
    · exact .accepted rfl error_not_mem_ok
  | searchMissing =>
    obtain ⟨o, hout, rfl⟩ := ends_map_iff.1 h
    have hrefusal (hprofile : w.view.profile ≠ none) : searchMissing.refusal? w.view = none :=
      if_neg (mt Option.isNone_iff_eq_none.1 hprofile)
    rcases LibraryView.ends_searchMissing hout with
      ⟨hnone, rfl, rfl⟩ | ⟨hprofile, -, rfl, rfl⟩ | ⟨hprofile, -, answer, rfl, rfl⟩
    · exact .refused (if_pos (Option.isNone_iff_eq_none.2 hnone))
    · exact .accepted (hrefusal hprofile) fun _ _ => List.not_mem_nil
    · cases answer with
      | ok started => exact .accepted (hrefusal hprofile) error_not_mem_ok
      | error f => exact .failed (hrefusal hprofile) (.inl rfl)
  | startBatchSelected =>
    obtain ⟨o, hout, rfl⟩ := ends_map_iff.1 h
    rcases LibraryView.ends_startBatchSelected hout with ⟨-, rfl, rfl⟩ | ⟨-, answer, rfl, rfl⟩
    · exact .accepted rfl fun _ _ => List.not_mem_nil
    · cases answer with
      | ok started => exact .accepted rfl error_not_mem_ok
      -- the rows selected have been read, and with them the page
      | error f => exact .failed rfl w.view.keepsPage_clampPage

end Mutation

/-- **A change that fails leaves no trace but a notice.**  If its call is answered with a fault, the
change comes to this very fault, and nothing of the view and of what it shares is different but one
error notice at the end, and the page, if the list did not have it.  If it is refused, nothing is asked
and nothing at all is different.  No fault comes of a change in any other way. -/
theorem failed_change_leaves_notice {m : Mutation} {w : Workspace}
    {exchange : List ((c : Call) × c.Outcome)} {out : Option Fault × Workspace}
    (h : Ends (m.perform w) exchange out) :
    (∀ c f, ⟨c, .error f⟩ ∈ exchange → exchange = [⟨c, .error f⟩] ∧ ∃ p, w.view.KeepsPage p ∧
      out = (some f, { w with view := { w.view with
        paginator := p
        notices := w.view.notices ++ [.error (m.complaint ++ f.message)] } })) ∧
    (∀ f, m.refusal? w.view = some f → exchange = [] ∧ out = (some f, w)) ∧
    (∀ f, out.1 = some f → m.refusal? w.view = some f ∨ ∃ c, exchange = [⟨c, .error f⟩]) := by
  cases m.ending_of_ends_perform h with
  | refused hrefusal =>
    refine ⟨fun _ _ hmem => absurd hmem List.not_mem_nil, fun f hf => ?_, fun f hf => ?_⟩
    · obtain rfl := Option.some.inj (hrefusal.symm.trans hf)
      exact ⟨rfl, rfl⟩
    · exact .inl (hrefusal.trans hf)
  | accepted hrefusal hok =>
    refine ⟨fun c f hmem => absurd hmem (hok c f), fun f hf => ?_, fun f hf => ?_⟩
    · rw [hrefusal] at hf
      contradiction
    · contradiction
  | @failed d g p hrefusal hpage =>
    refine ⟨fun c f hmem => ?_, fun f hf => ?_, fun f hf => ?_⟩
    · cases List.mem_singleton.1 hmem
      exact ⟨rfl, p, hpage, rfl⟩
    · rw [hrefusal] at hf
      contradiction
    · obtain rfl := Option.some.inj hf
      exact .inr ⟨d, rfl⟩

/-- Of two units with one id the first one is shown as changed, and then as it was. -/
theorem failed_change_leaves_notice_of_repeated_id :
    let u : MediaUnit := { id := ⟨7⟩, title := "A" }
    let u' : MediaUnit := { id := ⟨7⟩, title := "B", status := .excluded }
    let v : LibraryView :=
      { scope := "library", profileId := ⟨1⟩, units := [u, u'],
        notices := [.info "Deleted a.srt"], paginator := .ofSize 50 }
    ∃ out, Ends ((Mutation.setStatus ⟨7⟩ .unmonitored).perform ⟨v, .empty, .empty⟩)
        [⟨.setStatus ⟨7⟩ .unmonitored, .error (.http 500 "down")⟩] out ∧
      out.1 = some (.http 500 "down") ∧ out.2.view.units = [u, u'] ∧
      out.2.view.notices = [.info "Deleted a.srt",
        .error "Could not set status to unmonitored: HTTP 500: down"] := by
  intro u u' v
  obtain ⟨out, hends⟩ : ∃ out, Ends ((Mutation.setStatus ⟨7⟩ .unmonitored).perform ⟨v, .empty, .empty⟩)
      [⟨.setStatus ⟨7⟩ .unmonitored, .error (.http 500 "down")⟩] out := ⟨_, .ask (.done _)⟩
  obtain ⟨hfailed, -⟩ := failed_change_leaves_notice hends
  obtain ⟨-, p, -, rfl⟩ := hfailed _ _ (List.mem_singleton_self _)
  have htext : (Mutation.setStatus ⟨7⟩ .unmonitored).complaint ++ (Fault.http 500 "down").message =
      "Could not set status to unmonitored: HTTP 500: down" := by decide +kernel
  exact ⟨_, hends, rfl, rfl, by rw [htext]; rfl⟩

end SubtitleCoverage
