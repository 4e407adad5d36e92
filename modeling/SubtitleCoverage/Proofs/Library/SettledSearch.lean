import SubtitleCoverage.Proofs.Library.Operations
import SubtitleCoverage.Proofs.Listing.SettledEdits

/-!
# What a view searches for

A view keeps the text it searches for twice: in its query, and in its search box, which tells the view
when it applies another text.  Loads, changes and whatever else a view can do leave both as they are, so
the two texts never differ.  What is searched for is then known from the history of the box.

## Main definitions

* `Operation.searchEvent?` — what an operation on a view is to its search box.
* `LibraryView.InStep` — a view searches for the text that its search box applies.

## Main results

* `InStep.applySearch_eq_true_iff` — a view in step tells whether it searches for another text.
* `Runs.searchBox_eq` — what has happened to the search box of a view, and that the view is in step.
* `searches_for_settled_edits` — **a view searches for the last edit that has settled.**
-/

namespace SubtitleCoverage

open Dialogue SearchBox

/-- What an operation on a view is to its search box. -/
def Operation.searchEvent? : Operation → Option SearchBox.Event
  | .inputSearch text time => some (.input text time)
  | .pollSearch now => some (.poll now)
  | .submitSearch => some .flush
  | _ => none

namespace LibraryView

variable {u v v' : LibraryView}

/-! ### The search box and the query -/

theorem applySearch_fst (v : LibraryView) (found : Option String × SearchBox) :
    (v.applySearch found).1 = found.1.isSome := by
  obtain ⟨_ | _, _⟩ := found
  · rfl
  · rfl

theorem searchBox_applySearch (v : LibraryView) (found : Option String × SearchBox) :
    (v.applySearch found).2.searchBox = found.2 := by
  obtain ⟨_ | _, _⟩ := found
  · rfl
  · rfl

theorem search_applySearch (v : LibraryView) (found : Option String × SearchBox) :
    (v.applySearch found).2.query.search = found.1.getD v.query.search := by
  obtain ⟨_ | _, _⟩ := found
  · rfl
  · rfl

/-- A view searches for the text that its search box applies. -/
def InStep (v : LibraryView) : Prop := v.query.search = v.searchBox.applied

/-- It does so still after what its search box has given out. -/
theorem InStep.applySearch (h : v.InStep) (e : SearchBox.Event) :
    (v.applySearch (v.searchBox.respond e)).2.InStep := by
  rw [InStep, search_applySearch, searchBox_applySearch, SearchBox.applied_respond, h]

/-- **A view in step tells whether it searches for another text.** -/
theorem InStep.applySearch_eq_true_iff (h : v.InStep) (e : SearchBox.Event) :
    (v.applySearch (v.searchBox.respond e)).1 = true ↔
      (v.applySearch (v.searchBox.respond e)).2.query.search ≠ v.query.search := by
  rw [applySearch_fst, search_applySearch]
  cases hfound : (v.searchBox.respond e).1 with
  | none => exact iff_of_false nofun fun hne => hne rfl
  | some text =>
    have hne : text ≠ v.searchBox.applied := (SearchBox.respond_eq_some_iff.1 hfound).2
    rw [← h] at hne
    exact iff_of_true rfl hne

/-! ### Operations -/

/-- An operation does to the search box what it is to it, and keeps the view in step. -/
theorem searchBox_of_step {op : Operation} (h : v.Step op v') (hv : v.InStep) :
    v'.searchBox = v.searchBox.run op.searchEvent?.toList ∧ v'.InStep := by
  obtain ⟨selection, board, exchange, w, h, rfl⟩ := h
  cases op with
  | inputSearch text time =>
    obtain ⟨-, rfl⟩ := ends_done_iff.1 h
    exact ⟨rfl, hv⟩
  | pollSearch now =>
    obtain ⟨-, rfl⟩ := ends_done_iff.1 h
    exact ⟨searchBox_applySearch .., hv.applySearch (.poll now)⟩
  | submitSearch =>
    obtain ⟨-, rfl⟩ := ends_done_iff.1 h
    exact ⟨searchBox_applySearch .., hv.applySearch .flush⟩
  | _ =>
    have hstate := Prod.mk.inj (Operation.searchState_of_ends h fun hop => hop)
    obtain ⟨hbox, hsearch⟩ := Prod.mk.inj hstate.2
    refine ⟨hbox, ?_⟩
    rw [InStep, hbox, hsearch]
    exact hv

/-- **What has happened to the search box of a view, and that the view is in step.** -/
theorem Runs.searchBox_eq {ops : List Operation} (h : u.Runs ops v) (hu : u.InStep) :
    v.searchBox = u.searchBox.run (ops.filterMap Operation.searchEvent?) ∧ v.InStep := by
  induction h with
  | nil => exact ⟨rfl, hu⟩
  | snoc hrun hstep ih =>
    next ops op v' v'' =>
    obtain ⟨hbox, hv'⟩ := ih
    obtain ⟨hlast, hv''⟩ := searchBox_of_step hstep hv'
    refine ⟨?_, hv''⟩
    have hop : [op].filterMap Operation.searchEvent? = op.searchEvent?.toList := by
      cases op <;> rfl
    rw [hlast, hbox, List.filterMap_append, SearchBox.run_append, hop]

/-- **A view searches for the last edit that has settled.**  Whatever happens to a search box, and
whenever it does: the text applied is that of the last edit that was followed, before any other one, by
an event that settles it.  One that is overwritten earlier leaves no trace.  A text is given out when it
becomes the text applied.  The box tells a time as long as an edit waits; to ask it earlier has no
effect, and then or later the edit does not wait any more.  Whatever is done with a view, it searches for
the text that its search box applies, and tells when this text changes. -/
theorem searches_for_settled_edits :
    (∀ es : List SearchBox.Event,
      (after es).applied = (settledTexts es).getLast?.getD "" ∧
      (∀ e text, ((after es).respond e).1 = some text ↔
        ((after es).respond e).2.applied = text ∧ text ≠ (after es).applied) ∧
      (∀ d, (after es).deadline = some d ↔
        ∃ text time, Waits text time es ∧ d = time + searchDelay) ∧
      ∀ text time, Waits text time es → ∀ now,
        (now < time + searchDelay → (after es).poll now = (none, after es)) ∧
        (time + searchDelay ≤ now → ((after es).poll now).2 = ⟨text, none⟩)) ∧
    (∀ before quiet later text time text' time', (∀ e ∈ quiet, Event.Passes time e) →
      after (before ++ .input text time :: quiet ++ .input text' time' :: later) =
        after (before ++ .input text' time' :: later)) ∧
    ∀ scope c filters ops v, (newFor scope c filters).Runs ops v →
      v.searchBox = after (ops.filterMap Operation.searchEvent?) ∧
      v.query.search = v.searchBox.applied ∧
      (∀ now, (v.pollSearch now).1 = true ↔
        (v.pollSearch now).2.query.search ≠ v.query.search) ∧
      (v.submitSearch.1 = true ↔ v.submitSearch.2.query.search ≠ v.query.search) := by
  refine ⟨fun es => ⟨applied_after es, fun e text => respond_eq_some_iff, fun d => ?_, ?_⟩, ?_, ?_⟩
  · rw [deadline_eq_some_iff]
    simp only [pending_after]
  · intro text time hwaits now
    have hpending := (pending_after es).2 hwaits
    exact ⟨poll_of_lt hpending, poll_of_le hpending⟩
  · intro before quiet later text time text' time' hquiet
    exact after_overwritten before later text text' time' hquiet
  · intro scope c filters ops v hrun
    obtain ⟨hbox, hv⟩ := hrun.searchBox_eq rfl
    exact ⟨hbox, hv, fun now => hv.applySearch_eq_true_iff (.poll now),
      hv.applySearch_eq_true_iff .flush⟩

/-- Three letters are typed into the search box of a view, the last one after 100 ms, and one more when
they have settled, which waits until it is asked for or submitted.  The two letters typed first leave no
trace, and the third one waits to the last nanosecond. -/
theorem searches_for_settled_edits_while_typing :
    let ms (n : Nat) : Int := milliseconds n
    let es : List SearchBox.Event :=
      [.input "pi" (ms 0), .poll (ms 99), .input "pil" (ms 100), .poll (ms 400 - 1), .poll (ms 400),
        .input "pilo" (ms 500)]
    Event.Passes (ms 0) (.poll (ms 99)) ∧ after es = after (es.drop 2) ∧ Waits "pilo" (ms 500) es ∧
      ((after es).poll (ms 800 - 1)) = (none, after es) ∧
      ((after es).poll (ms 800)).2 = ⟨"pilo", none⟩ ∧
      ∃ v, (newFor "library" {} {}).Runs [.inputSearch "pi" (ms 0), .pollSearch (ms 99),
          .inputSearch "pil" (ms 100), .pollSearch (ms 400 - 1), .setPage 2, .pollSearch (ms 400),
          .inputSearch "pilo" (ms 500)] v ∧
        v.searchBox = after es ∧ v.query.search = "pil" ∧
        v.submitSearch.2.query.search ≠ v.query.search := by
  intro ms es
  obtain ⟨hevents, hoverwritten, hviews⟩ := searches_for_settled_edits
  have hpasses : Event.Passes (ms 0) (.poll (ms 99)) := ⟨rfl, rfl⟩
  have hwaits : Waits "pilo" (ms 500) es := ⟨es.dropLast, [], rfl, nofun⟩
  have step (v : LibraryView) (op : Operation) {w : Workspace}
      (h : op.perform ⟨v, .empty, .empty⟩ = .done w) : v.Step op w.view :=
    ⟨.empty, .empty, [], w, by rw [h]; exact .done w, rfl⟩
  have hrun := (((((((Runs.nil (v := newFor "library" {} {})).snoc
    (step _ (.inputSearch "pi" (ms 0)) rfl)).snoc (step _ (.pollSearch (ms 99)) rfl)).snoc
    (step _ (.inputSearch "pil" (ms 100)) rfl)).snoc (step _ (.pollSearch (ms 400 - 1)) rfl)).snoc
    (step _ (.setPage 2) rfl)).snoc (step _ (.pollSearch (ms 400)) rfl)).snoc
    (step _ (.inputSearch "pilo" (ms 500)) rfl)
  obtain ⟨hbox, hsearch, -, hsubmit⟩ := hviews _ _ _ _ _ hrun
  obtain ⟨-, -, -, hpoll⟩ := hevents es
  refine ⟨hpasses, ?_, hwaits, (hpoll "pilo" _ hwaits _).1 (by decide),
    (hpoll "pilo" _ hwaits _).2 (by decide), _, hrun, hbox, ?_, ?_⟩
  · refine hoverwritten [] [.poll (ms 99)] _ "pi" (ms 0) "pil" (ms 100) fun e he => ?_
    rw [List.mem_singleton.1 he]
    exact hpasses
  · rw [hsearch, hbox]
    decide
  · refine hsubmit.1 ?_
    rw [submitSearch, applySearch_fst, hbox]
    decide

end LibraryView

end SubtitleCoverage
